import Inet.Rip.TableInvariant
import Inet.Rip.TrackedSteps

/-!
# Lost routes are announced

A learned route that stops being valid waits with its changed flag set up to the next update, which
announces it on every interface.
-/

namespace Inet.Rip

open Ipv4 List
variable {S : Set ℕ} {P : RIPRoute → Prop} {st st' st₀ : RIPRouting} {r B : RIPRoute}
  {key : IPv4Address × ℤ} {id : ℕ}

lemma notifyDeleted_map (st : RIPRouting) (en : IPv4Route) : ∃ f : RIPRoute → RIPRoute,
    (∀ r, Timed r (f r)) ∧ (st.notifyDeleted en).ripRoutes = st.ripRoutes.map f := by
  rw [RIPRouting.notifyDeleted]
  split_ifs
  · exact ⟨fun r => r, fun _ => ⟨rfl, rfl, rfl⟩, (map_id' _).symm⟩
  · refine ⟨_, fun r => ?_, rfl⟩
    split_ifs
    · exact ⟨rfl, rfl, rfl⟩
    · exact ⟨rfl, rfl, rfl⟩

lemma Timed.trans {r r' r'' : RIPRoute} (first : Timed r r') (second : Timed r' r'') :
    Timed r r'' :=
  ⟨second.1.trans first.1, second.2.1.trans first.2.1, second.2.2.trans first.2.2⟩

lemma modify_map (st : RIPRouting) (k : ℕ) {f : RIPRoute → RIPRoute} (timed : ∀ r, Timed r (f r)) :
    ∃ g : RIPRoute → RIPRoute, (∀ r, Timed r (g r)) ∧
      (st.modify k f).ripRoutes = st.ripRoutes.map g := by
  refine ⟨_, fun r => ?_, rfl⟩
  split_ifs
  · exact timed r
  · exact ⟨rfl, rfl, rfl⟩

lemma deleteRouteOf_map (st : RIPRouting) (k : ℕ) : ∃ f : RIPRoute → RIPRoute,
    (∀ r, Timed r (f r)) ∧ (st.deleteRouteOf k).ripRoutes = st.ripRoutes.map f := by
  rw [RIPRouting.deleteRouteOf]
  cases st.routeOf k with
  | none => exact ⟨fun r => r, fun _ => ⟨rfl, rfl, rfl⟩, (map_id' _).symm⟩
  | some route =>
    obtain ⟨f, timed, cut⟩ := modify_map st k (f := fun r => { r with route := none })
      fun _ => ⟨rfl, rfl, rfl⟩
    dsimp only
    rw [RIPRouting.deleteRoute]
    cases (st.setRoute k none).rt.routes.find? fun en => en.id = route with
    | none => exact ⟨f, timed, cut⟩
    | some en =>
      obtain ⟨g, timed', deleted⟩ := notifyDeleted_map
        { st.setRoute k none with rt := (st.setRoute k none).rt.deleteRoute route } en
      refine ⟨g ∘ f, fun r => (timed r).trans (timed' (f r)), ?_⟩
      rw [← map_map]
      exact deleted.trans (congrArg _ cut)

/-- The route `B` is not due, and neither is the one in front of it due to be purged. -/
structure Stable (st : RIPRouting) (B : RIPRoute) : Prop where
  keeps : Keeps {B.id} (fun r => r = B) st
  valid : st.expiry B = .valid
  front : ∃ front back, st.ripRoutes = front ++ B :: back ∧
    ∀ p, front.getLast? = some p → st.expiry p ≠ .purged

lemma Stable.of_map (stable : Stable st B) (same : SameClock st st')
    (keeps : Keeps {B.id} (fun r => r = B) st') {f : RIPRoute → RIPRoute} (timed : ∀ r, Timed r (f r))
    {keep : RIPRoute → Bool} (ripRoutes : st'.ripRoutes = (st.ripRoutes.map f).filter keep)
    (kept : ∀ r ∈ st.ripRoutes, st.expiry r ≠ .purged → keep (f r) = true) : Stable st' B := by
  obtain ⟨front, back, eq, last⟩ := stable.front
  have mem : B ∈ st.ripRoutes := by
    rw [eq]
    exact mem_append_right _ mem_cons_self
  have stays := kept B mem (by rw [stable.valid]; decide)
  have self : f B = B := by
    refine keeps.of_mem (r := f B) ?_ (timed B).1
    rw [ripRoutes]
    exact mem_filter.mpr ⟨mem_map_of_mem mem, stays⟩
  refine ⟨keeps, (same.expiry_eq ⟨rfl, rfl, rfl⟩).trans stable.valid,
    (front.map f).filter keep, (back.map f).filter keep, ?_, fun p' found' => ?_⟩
  · rw [self] at stays
    rw [ripRoutes, eq, map_append, map_cons, self, filter_append, filter_cons_of_pos stays]
  · cases front using List.reverseRecOn with
    | nil => cases found'
    | append_singleton front p =>
      have due := last p getLast?_concat
      have pMem : p ∈ st.ripRoutes := by
        rw [eq]
        exact mem_append_left _ (mem_append_right _ (mem_singleton_self p))
      rw [map_append, map_singleton, filter_append,
        filter_singleton, kept p pMem due, cond_true, getLast?_concat] at found'
      obtain rfl := Option.some.inj found'
      rw [same.expiry_eq (timed p)]
      exact due

lemma Stable.invalidateRoute (stable : Stable st B) {k : ℕ} (other : k ≠ B.id) :
    Stable (st.invalidateRoute k) B := by
  obtain ⟨f, timed, cut⟩ := deleteRouteOf_map st k
  obtain ⟨g, timed', ripRoutes⟩ := modify_map (st.deleteRouteOf k) k
    (f := fun r => { r with metric := RIP_INFINITE_METRIC, changed := true }) fun _ => ⟨rfl, rfl, rfl⟩
  have eq : (st.invalidateRoute k).ripRoutes = (st.ripRoutes.map (g ∘ f)).filter fun _ => true := by
    rw [filter_true, ← map_map, ← cut]
    exact ripRoutes
  exact stable.of_map (invalidateRoute_lastKept k).toSameClock
    (stable.keeps.invalidateRoute fun here => absurd here other)
    (fun r => (timed r).trans (timed' (f r))) eq fun _ _ _ => rfl

lemma Stable.purgeRoute (stable : Stable st B) {k : ℕ}
    (due : ∀ r ∈ st.ripRoutes, r.id = k → st.expiry r = .purged) : Stable (st.purgeRoute k) B := by
  obtain ⟨f, timed, cut⟩ := deleteRouteOf_map st k
  obtain ⟨front, back, eq, -⟩ := stable.front
  have mem : B ∈ st.ripRoutes := by
    rw [eq]
    exact mem_append_right _ mem_cons_self
  have other : k ≠ B.id := by
    rintro rfl
    have purged := due B mem rfl
    rw [stable.valid] at purged
    cases purged
  have eq : (st.purgeRoute k).ripRoutes = (st.ripRoutes.map f).filter fun r => r.id ≠ k :=
    congrArg _ cut
  exact stable.of_map (purgeRoute_sameClock st k) (stable.keeps.purgeRoute other) timed eq
    fun r rMem notDue => decide_eq_true fun eq => notDue (due r rMem ((timed r).1.symm.trans eq))

/-- In front of the loop: routes that were there when it began, with their expiry, and not one to be
purged right in front of `B`. -/
structure Visits (st₀ : RIPRouting) (B : RIPRoute) (routes : List RIPRoute) : Prop where
  mem : ∀ r ∈ routes, r ∈ st₀.ripRoutes
  front : ∀ front p back, routes = front ++ p :: B :: back → st₀.expiry p ≠ .purged

lemma Visits.tail {routes : List RIPRoute} (visits : Visits st₀ B (r :: routes)) :
    Visits st₀ B routes :=
  ⟨fun other mem => visits.mem other (mem_cons_of_mem _ mem),
    fun front p back eq => visits.front (r :: front) p back (congrArg (r :: ·) eq)⟩

/-- The state in the loop, and the one it began in. -/
structure Walked (st₀ st : RIPRouting) (B : RIPRoute) : Prop where
  stable : Stable st B
  same : SameClock st₀ st
  traced : ∀ r ∈ st.ripRoutes, ∃ r₀ ∈ st₀.ripRoutes, Timed r₀ r

lemma Walked.of_map (walked : Walked st₀ st B) (stable : Stable st' B) (same : SameClock st st')
    (back : ∀ r' ∈ st'.ripRoutes, ∃ r ∈ st.ripRoutes, Timed r r') : Walked st₀ st' B := by
  refine ⟨stable, walked.same.trans same, fun r' mem => ?_⟩
  obtain ⟨r, rMem, timed⟩ := back r' mem
  obtain ⟨r₀, mem₀, timed₀⟩ := walked.traced r rMem
  exact ⟨r₀, mem₀, timed₀.trans timed⟩

lemma mem_invalidateRoute_back (st : RIPRouting) (k : ℕ) :
    ∀ r' ∈ (st.invalidateRoute k).ripRoutes, ∃ r ∈ st.ripRoutes, Timed r r' := by
  intro r' mem
  obtain ⟨f, timed, cut⟩ := deleteRouteOf_map st k
  obtain ⟨r₁, mem₁, rfl⟩ := mem_modify.mp mem
  rw [cut] at mem₁
  obtain ⟨r, rMem, rfl⟩ := mem_map.mp mem₁
  refine ⟨r, rMem, (timed r).trans ?_⟩
  split_ifs
  · exact ⟨rfl, rfl, rfl⟩
  · exact ⟨rfl, rfl, rfl⟩

lemma mem_purgeRoute_back (st : RIPRouting) (k : ℕ) :
    ∀ r' ∈ (st.purgeRoute k).ripRoutes, ∃ r ∈ st.ripRoutes, Timed r r' := by
  intro r' mem
  obtain ⟨f, timed, cut⟩ := deleteRouteOf_map st k
  have mem₁ := (mem_filter.mp mem).1
  rw [cut] at mem₁
  obtain ⟨r, rMem, rfl⟩ := mem_map.mp mem₁
  exact ⟨r, rMem, timed r⟩

section

variable {ri : RIPInterfaceEntry} {changedOnly : Bool}

lemma sendLoop_walked (first : Stable st₀ B) {routes : List RIPRoute}
    (visits : Visits st₀ B routes) (walked : Walked st₀ st B) :
    EndsIn (fun _ => True) (fun result => Walked st₀ result.1 B ∧
        (B ∈ routes → ∀ en ∈ RIPRouting.announce ri changedOnly B, en ∈ result.2))
      (RIPRouting.sendLoop ri changedOnly routes st) := by
  have notDue {r : RIPRoute} {st : RIPRouting} (same : SameClock st₀ st) (mem : r ∈ st₀.ripRoutes)
      (due : st.expiry r ≠ .valid) : r ≠ B ∧ r.id ≠ B.id := by
    obtain ⟨front, back, eq, -⟩ := first.front
    have here : B ∈ st₀.ripRoutes := by
      rw [eq]
      exact mem_append_right _ mem_cons_self
    have apart : r ≠ B := by
      rintro rfl
      exact due ((same.expiry_eq ⟨rfl, rfl, rfl⟩).trans first.valid)
    exact ⟨apart, fun same => apart (first.keeps.eq_of_id mem here same)⟩
  induction routes, st using RIPRouting.sendLoop.induct with
  | case1 st => exact ⟨walked, fun mem => absurd mem not_mem_nil⟩
  | case2 r st valid =>
    rw [RIPRouting.sendLoop, valid]
    refine ⟨walked, fun mem en announced => ?_⟩
    rw [mem_singleton.mp mem] at announced
    exact Option.mem_toList.mpr announced
  | case3 r st expired =>
    obtain ⟨apart, other⟩ := notDue walked.same (visits.mem r mem_cons_self)
      (by rw [expired]; decide)
    rw [RIPRouting.sendLoop, expired]
    refine ⟨walked.of_map (walked.stable.invalidateRoute other)
      (invalidateRoute_lastKept r.id).toSameClock (mem_invalidateRoute_back st r.id), fun mem => ?_⟩
    exact absurd (mem_singleton.mp mem).symm apart
  | case4 r st purged =>
    rw [RIPRouting.sendLoop, purged]
    exact trivial
  | case5 r next rest st valid ih =>
    rw [RIPRouting.sendLoop, valid]
    refine (ih visits.tail walked).bind fun result spec => ⟨spec.1, fun mem en announced => ?_⟩
    rcases mem_cons.mp mem with rfl | later
    · exact mem_append_left _ (Option.mem_toList.mpr announced)
    · exact mem_append_right _ (spec.2 later en announced)
  | case6 r next rest st expired ih =>
    obtain ⟨apart, other⟩ := notDue walked.same (visits.mem r mem_cons_self)
      (by rw [expired]; decide)
    rw [RIPRouting.sendLoop, expired]
    refine (ih visits.tail (walked.of_map (walked.stable.invalidateRoute other)
      (invalidateRoute_lastKept r.id).toSameClock (mem_invalidateRoute_back st r.id))).mono
      fun result spec => ⟨spec.1, fun mem => ?_⟩
    exact spec.2 ((mem_cons.mp mem).resolve_left apart.symm)
  | case7 r next rest st purged ih =>
    have rMem := visits.mem r mem_cons_self
    obtain ⟨apart, other⟩ := notDue walked.same rMem (by rw [purged]; decide)
    have purged₀ : st₀.expiry r = .purged := (walked.same.expiry_eq ⟨rfl, rfl, rfl⟩).symm.trans purged
    have due : ∀ r' ∈ st.ripRoutes, r'.id = r.id → st.expiry r' = .purged := by
      intro r' mem' eq
      obtain ⟨r₀, mem₀, timed⟩ := walked.traced r' mem'
      rw [first.keeps.eq_of_id mem₀ rMem (timed.1.symm.trans eq)] at timed
      rw [walked.same.expiry_eq timed]
      exact purged₀
    have notNext : B ≠ next := by
      rintro rfl
      exact visits.front [] r rest rfl purged₀
    rw [RIPRouting.sendLoop, purged]
    refine (ih visits.tail.tail (walked.of_map (walked.stable.purgeRoute due)
      (purgeRoute_sameClock st r.id) (mem_purgeRoute_back st r.id))).mono
      fun result spec => ⟨spec.1, fun mem => ?_⟩
    exact spec.2 ((mem_cons.mp ((mem_cons.mp mem).resolve_left apart.symm)).resolve_left notNext)

/-! ## The packets -/

lemma mem_toChunks {α : Type} (n : ℕ) {x : α} {xs : List α} (mem : x ∈ xs) :
    ∃ chunk ∈ xs.toChunks n, x ∈ chunk := by
  have go (n : ℕ) (xs : List α) : ∀ (acc : Array α) (done : Array (List α)),
      (x ∈ xs ∨ x ∈ acc.toList ∨ ∃ chunk ∈ done.toList, x ∈ chunk) →
        ∃ chunk ∈ List.toChunks.go n xs acc done, x ∈ chunk := by
    induction xs with
    | nil =>
      intro acc done somewhere
      rw [List.toChunks.go, Array.toList_push]
      rcases somewhere with none | last | ⟨chunk, before, here⟩
      · exact absurd none not_mem_nil
      · exact ⟨acc.toList, mem_append_right _ (mem_singleton_self _), last⟩
      · exact ⟨chunk, mem_append_left _ before, here⟩
    | cons y ys ih =>
      intro acc done somewhere
      rw [List.toChunks.go]
      split_ifs
      · refine ih _ _ ?_
        rcases somewhere with front | last | ⟨chunk, before, here⟩
        · rcases mem_cons.mp front with rfl | later
          · exact .inr (.inl (by simp))
          · exact .inl later
        · exact .inr (.inr ⟨acc.toList, by simp, last⟩)
        · exact .inr (.inr ⟨chunk, by simp [before], here⟩)
      · refine ih _ _ ?_
        rcases somewhere with front | last | before
        · rcases mem_cons.mp front with rfl | later
          · exact .inr (.inl (by simp))
          · exact .inl later
        · exact .inr (.inl (by simp [last]))
        · exact .inr (.inr before)
  cases xs with
  | nil => exact absurd mem not_mem_nil
  | cons y ys =>
    cases n with
    | zero => exact ⟨y :: ys, mem_singleton_self _, mem⟩
    | succ n =>
      refine go (n + 1) ys #[y] #[] ?_
      rcases mem_cons.mp mem with rfl | later
      · exact .inr (.inl (mem_singleton_self _))
      · exact .inl later

/-- The entry is in a response to all routers on the interface. -/
def SentOn (ripInterface : RIPInterfaceEntry) (entry : RIPEntry) (sent : List Sent) : Prop :=
  ∃ s ∈ sent, s.address = none ∧ s.outInterface = some ripInterface.ie ∧
    s.packet.command = RIP_RESPONSE ∧ entry ∈ s.packet.entries

lemma mem_fillPackets {maxEntries : ℤ} {entries : List RIPEntry} {packets : List RIPPacket}
    (ok : RIPRouting.fillPackets maxEntries entries = .ok packets) {en : RIPEntry}
    (mem : en ∈ entries) : ∃ packet ∈ packets, packet.command = RIP_RESPONSE ∧
      en ∈ packet.entries := by
  rw [RIPRouting.fillPackets] at ok
  split_ifs at ok with empty
  · rw [empty] at mem
    exact absurd mem not_mem_nil
  · cases ok
    obtain ⟨chunk, chunkMem, here⟩ := mem_toChunks maxEntries.toNat mem
    exact ⟨_, mem_map_of_mem chunkMem, rfl, here⟩

lemma sendRoutes_stable (stable : Stable st B) :
    EndsIn (fun _ => True) (fun result => Stable result.1 B ∧
        ∀ en ∈ RIPRouting.announce ri changedOnly B, SentOn ri en result.2)
      (st.sendRoutes none ri changedOnly) := by
  obtain ⟨front, back, eq, last⟩ := stable.front
  have here : B ∈ st.ripRoutes := by
    rw [eq]
    exact mem_append_right _ mem_cons_self
  have visits : Visits st B st.ripRoutes := by
    refine ⟨fun r mem => mem, fun front' p back' eq' => last p ?_⟩
    have nodup : (front ++ B :: back).Nodup := eq ▸ stable.keeps.nodup.of_map
    have outside := (nodup_middle.mp nodup).notMem
    have split : front ++ B :: back = (front' ++ [p]) ++ B :: back' := by
      rw [← eq, eq', append_assoc]
      rfl
    have fronts := (append_cons_inj_of_notMem
      (fun mem => outside (mem_append_left _ mem))
      fun mem => outside (mem_append_right _ mem)).mp split
    rw [fronts.1]
    exact getLast?_concat
  have walked : Walked st st B :=
    ⟨stable, ⟨rfl, rfl, rfl, rfl⟩, fun r mem => ⟨r, mem, rfl, rfl, rfl⟩⟩
  refine (sendLoop_walked stable visits walked).bind fun result spec => ?_
  obtain ⟨st', entries⟩ := result
  cases filled : RIPRouting.fillPackets (st.maxEntries ri) entries with
  | error e => 
    dsimp only
    rw [filled]
    exact trivial
  | ok packets =>
    dsimp only
    rw [filled]
    refine ⟨spec.1.stable, fun en announced => ?_⟩
    obtain ⟨packet, mem, command, inside⟩ := mem_fillPackets filled (spec.2 here en announced)
    exact ⟨_, mem_map_of_mem mem, rfl, rfl, command, inside⟩

lemma updateLoop_stable {triggered : Bool} (ripInterfaces : List RIPInterfaceEntry)
    (stable : Stable st B) :
    EndsIn (fun _ => True) (fun result => Stable result.1 B ∧
        ∀ ri ∈ ripInterfaces, ri.mode ≠ .NO_RIP →
        ∀ en ∈ RIPRouting.announce ri triggered B, SentOn ri en result.2)
      (RIPRouting.updateLoop triggered ripInterfaces st) := by
  induction ripInterfaces generalizing st with
  | nil => exact ⟨stable, fun _ mem => absurd mem not_mem_nil⟩
  | cons ri rest ih =>
    rw [RIPRouting.updateLoop]
    split_ifs with off
    · refine (ih stable).mono fun result spec => ⟨spec.1, fun other mem on => ?_⟩
      rcases mem_cons.mp mem with rfl | later
      · exact absurd off on
      · exact spec.2 other later on
    · refine (sendRoutes_stable stable).bind fun result spec => ?_
      refine (ih spec.1).bind fun more specs => ⟨specs.1, fun other mem on en announced => ?_⟩
      rcases mem_cons.mp mem with rfl | later
      · obtain ⟨s, sMem, out⟩ := spec.2 en announced
        exact ⟨s, mem_append_left _ sMem, out⟩
      · obtain ⟨s, sMem, out⟩ := specs.2 other later on en announced
        exact ⟨s, mem_append_right _ sMem, out⟩

end

/-- An update serves the route: where it sends anything, the route is not due, and the one in front
of it in the table is not due to be purged. -/
def UpdateServes (st : RIPRouting) (id : ℕ) : Prop :=
  (∃ ripInterface ∈ st.ripInterfaces, ripInterface.mode ≠ .NO_RIP) →
    ∀ front r back, st.ripRoutes = front ++ r :: back → r.id = id →
      st.expiry r = .valid ∧ ∀ p, front.getLast? = some p → st.expiry p ≠ .purged

lemma updateLoop_off {triggered : Bool} (ripInterfaces : List RIPInterfaceEntry)
    (off : ∀ ri ∈ ripInterfaces, ri.mode = .NO_RIP) (st : RIPRouting) :
    RIPRouting.updateLoop triggered ripInterfaces st = .ok (st, []) := by
  induction ripInterfaces with
  | nil => rfl
  | cons ri rest ih =>
    rw [RIPRouting.updateLoop, if_pos (off ri mem_cons_self)]
    exact ih fun other mem => off other (mem_cons_of_mem _ mem)

/-- The metric-16 entry of the route goes out on every interface, or split horizon suppresses it. -/
def Announces (ripInterfaces : List RIPInterfaceEntry) (sent : List Sent) (r : RIPRoute) : Prop :=
  ∀ ripInterface ∈ ripInterfaces, ripInterface.mode ≠ .NO_RIP →
    (ripInterface.mode = .SPLIT_HORIZON ∧ r.ie = some ripInterface.ie) ∨
      SentOn ripInterface (RIPRouting.fillEntry r RIP_INFINITE_METRIC) sent

lemma announce_pending (pending : Pending key B) (ri : RIPInterfaceEntry) (triggered : Bool) :
    (ri.mode = .SPLIT_HORIZON ∧ B.ie = some ri.ie) ∨ RIPRouting.announce ri triggered B =
        some (RIPRouting.fillEntry B RIP_INFINITE_METRIC) := by
  have told : RIPRouting.announce ri triggered B =
      (RIPRouting.announcedMetric ri B).map (RIPRouting.fillEntry B) := by
    rw [RIPRouting.announce, pending.changed, Bool.not_true, Bool.and_false]
    rfl
  rw [told, RIPRouting.announcedMetric, pending.metric]
  by_cases own : B.ie = some ri.ie
  · rw [if_pos own]
    cases mode : ri.mode with
    | SPLIT_HORIZON => exact .inl ⟨rfl, own⟩
    | NO_RIP => exact .inr rfl
    | NO_SPLIT_HORIZON => exact .inr rfl
    | SPLIT_HORIZON_POISONED_REVERSE => exact .inr rfl
  · rw [if_neg own]
    exact .inr rfl

lemma processUpdate_serves (keeps : Keeps {B.id} (fun r => r = B) st) (serves : UpdateServes st B.id)
    (triggered : Bool) :
    EndsIn (fun _ => True) (fun result => { B with changed := false } ∈ result.1.ripRoutes ∧
        (Pending B.key B → Announces st.ripInterfaces result.2 B))
      (st.processUpdate triggered) := by
  have mem : B ∈ st.ripRoutes := by
    obtain ⟨r, mem, -, rfl⟩ := keeps.has B.id rfl
    exact mem
  rw [RIPRouting.processUpdate]
  by_cases active : ∃ ri ∈ st.ripInterfaces, ri.mode ≠ .NO_RIP
  · obtain ⟨front, back, eq⟩ := append_of_mem mem
    obtain ⟨valid, last⟩ := serves active front B back eq rfl
    refine (updateLoop_stable st.ripInterfaces ⟨keeps, valid, front, back, eq, last⟩).bind
      fun result spec => ?_
    obtain ⟨r, mem', -, rfl⟩ := spec.1.keeps.has B.id rfl
    refine ⟨mem_map_of_mem (f := fun r : RIPRoute => { r with changed := false }) mem',
      fun pending ri here on => ?_⟩
    rcases announce_pending pending ri triggered with suppressed | announced
    · exact .inl suppressed
    · exact .inr (spec.2 ri here on _ announced)
  · have off : ∀ ri ∈ st.ripInterfaces, ri.mode = .NO_RIP := by
      intro ri here
      by_contra on
      exact active ⟨ri, here, on⟩
    rw [updateLoop_off st.ripInterfaces off]
    exact ⟨mem_map_of_mem (f := fun r : RIPRoute => { r with changed := false }) mem,
      fun _ ri here on => absurd (off ri here) on⟩

/-! ## Runs -/

structure Transition where
  before : RIPRouting
  event : RIPRouting.Event
  sent : List Sent
  after : RIPRouting

/-- The steps go on one after the other. -/
def IsRun : RIPRouting → List Transition → Prop
  | _, [] => True
  | st, t :: rest => t.before = st ∧ KeepsSource st t.event ∧
      st.step t.event = .ok (t.after, t.sent) ∧ IsRun t.after rest

/-- What the announcement of a lost route takes. -/
def LossSafe (st : RIPRouting) (id : ℕ) : RIPRouting.Event → Prop
  | .updateTimer => UpdateServes st id
  | .triggeredUpdateTimer => UpdateServes st id
  | .datagram packet ctrlInfo =>
      (packet.command = RIP_REQUEST → st.answer packet.entries.length packet.entries = .ok none →
        st.findInterfaceById ctrlInfo.interfaceId ≠ none →
        ∀ r ∈ st.ripRoutes, r.id = id → st.expiry r ≠ .purged) ∧
      (packet.command = RIP_RESPONSE → ∀ st' incomingIe,
        st.isValidResponse packet ctrlInfo = .ok (st', true) →
        st.findInterfaceById ctrlInfo.interfaceId = some incomingIe → ∀ entry ∈ packet.entries,
        ∀ r ∈ st.ripRoutes, r.id = id → r.metric = RIP_INFINITE_METRIC →
        r.key = (entry.address, entry.prefixLength) →
        RIP_INFINITE_METRIC ≤ entry.metric + incomingIe.metric)
  | .interfaceDeleted ie => ∀ r ∈ st.ripRoutes, r.id = id → r.ie ≠ some ie
  | _ => True

/-- The steps are safe up to the first update. -/
def SafeUntilUpdate (id : ℕ) : List Transition → Prop
  | [] => True
  | t :: rest => LossSafe t.before id t.event ∧ (IsUpdate t.event ∨ SafeUntilUpdate id rest)

/-- The lost route is announced while it is still pending: before its flag is cleared, it is purged or
it becomes valid again. -/
def AnnouncedBefore (id : ℕ) (key : IPv4Address × ℤ) : List Transition → Prop
  | [] => True
  | t :: rest =>
      (∃ r ∈ t.before.ripRoutes, r.id = id ∧ Pending key r ∧
        Announces t.before.ripInterfaces t.sent r) ∨
      ((∃ r ∈ t.after.ripRoutes, r.id = id ∧ Pending key r) ∧ AnnouncedBefore id key rest)

lemma Reached.sound (reached : Reached (fun _ => True) KeepsSource st) : Sound st := by
  induction reached with
  | @start before st distinct foreign _ started =>
    have empty : Sound { before with ripRoutes := [] } :=
      ⟨distinct, nodup_nil, fun _ mem => absurd mem not_mem_nil,
        fun _ mem => absurd mem not_mem_nil, fun _ mem => absurd mem not_mem_nil,
        fun _ none => absurd none (Set.notMem_empty _), fun _ held => held.elim⟩
    exact (configureInitialRoutes_keeps empty distinct.fresh).of_ok started
  | step reached source stepped ih => exact (step_sound ih source).of_ok stepped

/-- The steps that are no update, for a route that is followed. -/
lemma LossSafe.follows {event : RIPRouting.Event} (safe : LossSafe st id event)
    (other : ¬ IsUpdate event) (entries : ∀ packet ctrlInfo, event = .datagram packet ctrlInfo →
      packet.command = RIP_RESPONSE → ∀ st' incomingIe,
      st.isValidResponse packet ctrlInfo = .ok (st', true) →
      st.findInterfaceById ctrlInfo.interfaceId = some incomingIe → ∀ en ∈ packet.entries,
      EntryFollowed P incomingIe ctrlInfo.srcAddr en) : Follows {id} P st event := by
  cases event with
  | datagram packet ctrlInfo => exact ⟨safe.1, entries packet ctrlInfo rfl⟩
  | updateTimer => exact absurd trivial other
  | triggeredUpdateTimer => exact absurd trivial other
  | interfaceDeleted ie => exact safe
  | _ => trivial

lemma update_serves {event : RIPRouting.Event} (keeps : Keeps {B.id} (fun r => r = B) st)
    (update : IsUpdate event) (safe : LossSafe st B.id event) :
    EndsIn (fun _ => True) (fun result => { B with changed := false } ∈ result.1.ripRoutes ∧
        (Pending B.key B → Announces st.ripInterfaces result.2 B)) (st.step event) := by
  cases event with
  | updateTimer => exact processUpdate_serves keeps safe false
  | triggeredUpdateTimer => exact processUpdate_serves keeps safe true
  | _ => exact update.elim

lemma Sound.follow (sound : Keeps S P st) {Q : RIPRoute → Prop} (mem : r ∈ st.ripRoutes) (held : Q r)
    (learned : ∀ r, Q r → r.type = .RIP_ROUTE_RTE) : Keeps {r.id} Q st :=
  ⟨sound.distinct, sound.nodup, sound.fresh, sound.known, sound.own,
    fun _ eq => ⟨r, mem, eq.symm, held⟩, learned⟩

lemma pending_announced {run : List Transition} (keeps : Keeps {id} (Pending key) st)
    (steps : IsRun st run) (safe : SafeUntilUpdate id run) : AnnouncedBefore id key run := by
  induction run generalizing st with
  | nil => trivial
  | cons t rest ih =>
    obtain ⟨rfl, source, stepped, steps⟩ := steps
    obtain ⟨lossSafe, later⟩ := safe
    obtain ⟨r, mem, rfl, pending⟩ := keeps.has id rfl
    by_cases update : IsUpdate t.event
    · have own : Keeps {r.id} (fun r' => r' = r) t.before :=
        Sound.follow keeps mem rfl fun r' eq => by
          rw [eq]
          exact pending.type
      have served := (update_serves own update lossSafe).of_ok stepped
      have key := pending.key
      subst key
      exact .inl ⟨r, mem, rfl, pending, served.2 pending⟩
    · have follows : Follows {r.id} (Pending key) t.before t.event := by
        refine lossSafe.follows update fun packet ctrlInfo eq response st' incomingIe valid found
          en entryMem r' pending' sameKey wins => ?_
        rw [eq] at lossSafe
        have far := lossSafe.2 response st' incomingIe valid found en entryMem r mem rfl
          pending.metric (pending.key.trans (pending'.key.symm.trans sameKey))
        rw [min_eq_right far, pending'.metric] at wins
        rcases wins with ⟨-, other⟩ | shorter
        · exact absurd rfl other
        · exact absurd shorter (lt_irrefl _)
      have kept := (step_keeps robust_pending keeps Set.subsingleton_singleton source update
        follows).of_ok stepped
      refine .inr ⟨kept.has r.id rfl, ih kept steps (later.resolve_left update)⟩

/-- A learned route that stops being valid is announced on every interface before its flag is
cleared, it is purged or becomes valid again. -/
theorem lost_route_announced {t : Transition} {rest : List Transition}
    (reached : Reached (fun _ => True) KeepsSource st) (steps : IsRun st (t :: rest))
    (mem : r ∈ st.ripRoutes) (learned : r.Learned)
    (lost : ∀ r' ∈ t.after.ripRoutes, r'.id = r.id → ¬ r'.Learned)
    (safe : SafeUntilUpdate r.id (t :: rest)) : AnnouncedBefore r.id r.key (t :: rest) := by
  obtain ⟨rfl, source, stepped, steps⟩ := steps
  obtain ⟨lossSafe, later⟩ := safe
  have sound := reached.sound
  by_cases update : IsUpdate t.event
  · have own : Keeps {r.id} (fun r' => r' = r) t.before :=
      Sound.follow sound mem rfl fun r' eq => by
        rw [eq]
        exact learned.1
    have served := (update_serves own update lossSafe).of_ok stepped
    have cleared : RIPRoute.Learned { r with changed := false } := ⟨learned.1, learned.2⟩
    exact absurd cleared (lost _ served.1 rfl)
  · have alert : Keeps {r.id} (Alert r.key) t.before :=
      Sound.follow sound mem ⟨learned.1, rfl, .inl learned.2⟩ fun r' held => held.type
    have follows : Follows {r.id} (Alert r.key) t.before t.event :=
      lossSafe.follows update fun _ _ _ _ _ _ _ _ _ _ _ _ _ _ => updatable_alert
    have kept := (step_keeps robust_alert alert Set.subsingleton_singleton source update
      follows).of_ok stepped
    have pending : Keeps {r.id} (Pending r.key) t.after := by
      obtain ⟨r', mem', eq, held⟩ := kept.has r.id rfl
      rcases held.changed with valid | ⟨infinite, changed⟩
      · exact absurd ⟨held.type, valid⟩ (lost r' mem' eq)
      · rw [← eq]
        exact Sound.follow kept mem' ⟨held.type, held.key, infinite, changed⟩ fun r held => held.type
    exact .inr ⟨pending.has r.id rfl, pending_announced pending steps (later.resolve_left update)⟩

namespace Example

/-- 10.0.2.2 announces 10.0.3.0 with the metric. -/
def announcement (metric : ℕ) : RIPRouting.Event :=
  .datagram ⟨RIP_RESPONSE, [⟨RIP_AF_INET, 0, 0x0A000300, 24, 0, metric⟩]⟩ ⟨0x0A000202, 520, 2⟩

def learnedRoute : RIPRoute :=
  ⟨2, .RIP_ROUTE_RTE, some 2, 0x0A000300, 24, 0x0A000202, some 2, 0x0A000202, 2, 0, true, 0⟩

end Example

lemma reached_learned {st₁ : RIPRouting} {sent : List Sent}
    (started : Example.router.startRIPRouting = .ok st)
    (stepped : st.step (Example.announcement 1) = .ok (st₁, sent)) :
    Reached (fun _ => True) KeepsSource st₁ := by
  have first : Reached (fun _ => True) KeepsSource st :=
    .start router_distinct router_foreign trivial started
  have allow : KeepsSource st (Example.announcement 1) := trivial
  exact first.step allow stepped

/-- Whatever the other modules do, `RIPRoute`s are told apart by their pointers, and one that is
learned points to no route of another module. -/
theorem learned_routes_own (reached : Reached (fun _ => True) KeepsSource st) :
    (st.ripRoutes.map RIPRoute.id).Nodup ∧ (st.rt.routes.map IPv4Route.id).Nodup ∧
      ∀ r ∈ st.ripRoutes, r.type = .RIP_ROUTE_RTE → ∀ route ∈ st.rt.routes,
        r.route = some route.id → route.sourceType = .RIP :=
  have sound := reached.sound
  ⟨sound.nodup, sound.distinct.nodup, fun r mem learned route routeMem points =>
    sound.own r mem learned route.id points route routeMem rfl⟩

theorem learned_routes_own_router : ∃ st : RIPRouting,
    st.ripRoutes.getLast? = some Example.learnedRoute ∧
    (st.ripRoutes.map RIPRoute.id).Nodup := by
  obtain ⟨st₀, st, sent, started, stepped, last⟩ : ∃ st₀ st sent,
      Example.router.startRIPRouting = .ok st₀ ∧
        st₀.step (Example.announcement 1) = .ok (st, sent) ∧
        st.ripRoutes.getLast? = some Example.learnedRoute :=
    ⟨_, _, _, rfl, rfl, rfl⟩
  exact ⟨st, last, (learned_routes_own (reached_learned started stepped)).1⟩

/-- The route expires at an update: its entry is not sent, and its flag is cleared. -/
theorem not_announced_expired : ∃ st r t, Reached (fun _ => True) KeepsSource st ∧ IsRun st [t] ∧
    r ∈ st.ripRoutes ∧ r.Learned ∧ (∀ r' ∈ t.after.ripRoutes, r'.id = r.id → ¬ r'.Learned) ∧
    ¬ AnnouncedBefore r.id r.key [t] := by
  obtain ⟨st₀, st₁, sent₁, st, sent, st', sent', started, stepped, elapsed, updated, before, after⟩ :
      ∃ st₀ st₁ sent₁ st sent st' sent', Example.router.startRIPRouting = .ok st₀ ∧
        st₀.step (Example.announcement 1) = .ok (st₁, sent₁) ∧
        st₁.step (.elapse 180) = .ok (st, sent) ∧ st.step .updateTimer = .ok (st', sent') ∧
        st.ripRoutes.getLast? = some Example.learnedRoute ∧
        st'.ripRoutes.map (fun r => (r.id, r.metric, r.changed)) =
          [(0, 1, false), (1, 1, false), (2, 16, false)] :=
    ⟨_, _, _, _, _, _, _, rfl, rfl, rfl, rfl, rfl, rfl⟩
  have gone {r : RIPRoute} (mem : r ∈ st'.ripRoutes) (eq : r.id = 2) :
      r.metric = RIP_INFINITE_METRIC ∧ r.changed = false := by
    have inside := mem_map_of_mem (f := fun r : RIPRoute => (r.id, r.metric, r.changed)) mem
    rw [after, eq] at inside
    have known : r.metric = 16 ∧ r.changed = false := by simpa using inside
    exact known
  have mem := mem_of_getLast? before
  have allow : KeepsSource st₁ (.elapse 180) := trivial
  have reached : Reached (fun _ => True) KeepsSource st :=
    (reached_learned started stepped).step allow elapsed
  refine ⟨st, Example.learnedRoute, ⟨st, .updateTimer, sent', st'⟩, reached,
    ⟨rfl, trivial, updated, trivial⟩, mem, ⟨rfl, by decide⟩, fun r mem' eq valid => ?_, ?_⟩
  · exact absurd (gone mem' eq).1 valid.2.ne
  · rintro (⟨r, rMem, eq, pending, -⟩ | ⟨⟨r, rMem, eq, pending⟩, -⟩)
    · rw [reached.sound.eq_of_id rMem mem eq] at pending
      exact absurd pending.metric (by decide)
    · exact absurd pending.changed (by rw [(gone rMem eq).2]; decide)

/-- The router's announcement of metric 16 is passed on by the triggered update. -/
theorem lost_route_announced_router : ∃ st r t t', r ∈ st.ripRoutes ∧ r.Learned ∧
    IsRun st [t, t'] ∧ (∀ r' ∈ t.after.ripRoutes, r'.id = r.id → ¬ r'.Learned) ∧
    AnnouncedBefore r.id r.key [t, t'] := by
  obtain ⟨st₀, st, sent₀, st₁, sent₁, st₂, sent₂, started, stepped, lost, updated, before, after,
      expiries⟩ :
      ∃ st₀ st sent₀ st₁ sent₁ st₂ sent₂, Example.router.startRIPRouting = .ok st₀ ∧
        st₀.step (Example.announcement 1) = .ok (st, sent₀) ∧
        st.step (Example.announcement 16) = .ok (st₁, sent₁) ∧
        st₁.step .triggeredUpdateTimer = .ok (st₂, sent₂) ∧
        st.ripRoutes.getLast? = some Example.learnedRoute ∧
        st₁.ripRoutes.map (fun r => (r.id, r.metric)) = [(0, 1), (1, 1), (2, 16)] ∧
        st₁.ripRoutes.map st₁.expiry = [.valid, .valid, .valid] :=
    ⟨_, _, _, _, _, _, _, rfl, rfl, rfl, rfl, rfl, rfl, rfl⟩
  have mem := mem_of_getLast? before
  have reached := reached_learned started stepped
  have steps : IsRun st [⟨st, Example.announcement 16, sent₁, st₁⟩,
      ⟨st₁, .triggeredUpdateTimer, sent₂, st₂⟩] :=
    ⟨rfl, trivial, lost, rfl, trivial, updated, trivial⟩
  have invalid : ∀ r' ∈ st₁.ripRoutes, r'.id = Example.learnedRoute.id → ¬ r'.Learned := by
    intro r' mem' eq valid
    have inside := mem_map_of_mem (f := fun r : RIPRoute => (r.id, r.metric)) mem'
    rw [after, eq] at inside
    have infinite : r'.metric = 16 := by simpa [Example.learnedRoute] using inside
    exact absurd infinite valid.2.ne
  have notDue : ∀ r ∈ st₁.ripRoutes, st₁.expiry r = .valid := by
    intro r rMem
    have inside := mem_map_of_mem (f := st₁.expiry) rMem
    rw [expiries] at inside
    simpa using inside
  have safe : SafeUntilUpdate Example.learnedRoute.id [⟨st, Example.announcement 16, sent₁, st₁⟩,
      ⟨st₁, .triggeredUpdateTimer, sent₂, st₂⟩] := by
    refine ⟨⟨fun eq => absurd eq (by decide), fun _ _ _ _ _ _ _ r rMem eq infinite => ?_⟩,
      .inr ⟨fun _ front r back eq _ => ⟨?_, fun p last => ?_⟩, .inl trivial⟩⟩
    · rw [reached.sound.eq_of_id rMem mem eq] at infinite
      exact absurd infinite (by decide)
    · refine notDue r ?_
      rw [eq]
      exact mem_append_right _ mem_cons_self
    · rw [notDue p]
      · decide
      · rw [eq]
        exact mem_append_left _ (mem_of_getLast? last)
  exact ⟨st, Example.learnedRoute, _, _, mem, ⟨rfl, by decide⟩, steps, invalid,
    lost_route_announced reached steps mem ⟨rfl, by decide⟩ invalid safe⟩

end Inet.Rip
