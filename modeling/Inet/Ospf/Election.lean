import Inet.Ospf.DesignatedRouter

/-!
# Who is elected

The candidates are the eligible neighbors and the router itself. `elected` elects twice where the
router's own role changes. A selection of the source keeps the highest candidate considered
(`Keeps`), so its two selections give the elected ones, but for a Backup that is missing.
-/

namespace Inet.Ospf.MultiAccess

open List

structure Candidate where
  priority : ℕ
  id : RouterID
  declaresDesignated : Bool
  declaresBackup : Bool

namespace Candidate

/-- Candidates are ordered by priority, then by ID. -/
def key (c : Candidate) : ℕ ×ₗ ℕ := toLex (c.priority, c.id.toNat)

/-- The highest candidate of those that pass the test. -/
def highest (test : Candidate → Bool) (cs : List Candidate) : Option Candidate :=
  (cs.filter test).argmax key

def mayBeBackup (c : Candidate) : Bool := !c.declaresDesignated

def isDeclaredBackup (c : Candidate) : Bool := c.mayBeBackup && c.declaresBackup

end Candidate

open Candidate

/-- The highest of those that declare themselves Backup, or else the highest of all that do not
declare themselves Designated Router. -/
def electedBackup (cs : List Candidate) : RouterID :=
  (((highest isDeclaredBackup cs).or (highest mayBeBackup cs)).map Candidate.id).getD NULL_ROUTERID

/-- The highest of those that declare themselves Designated Router, or else the Backup. -/
def electedDesignated (cs : List Candidate) (backup : RouterID) : RouterID :=
  ((highest declaresDesignated cs).map Candidate.id).getD backup

namespace Neighbor

def candidate (neighbor : Neighbor) : Candidate :=
  ⟨neighbor.neighborPriority, neighbor.neighborID, neighbor.declaresDesignated,
    neighbor.declaresBackup⟩

end Neighbor

namespace Interface

def voters (intf : Interface) : List Neighbor := intf.neighboringRouters.filter Neighbor.mayVote

/-- The router itself, with the roles that it has. -/
def own (intf : Interface) (designated backup : RouterID) : Candidate :=
  ⟨intf.routerPriority, intf.routerID, decide (designated = intf.routerID),
    decide (backup = intf.routerID)⟩

def candidates (intf : Interface) (designated backup : RouterID) : List Candidate :=
  intf.voters.map Neighbor.candidate ++
    if 0 < intf.routerPriority then [intf.own designated backup] else []

/-- One election: the Designated Router and the Backup. -/
def electedOnce (intf : Interface) (designated backup : RouterID) : RouterID × RouterID :=
  let cs := intf.candidates designated backup
  (electedDesignated cs (electedBackup cs), electedBackup cs)

/-- The router is newly Designated Router or newly Backup, or no longer is. -/
def roleChanges (intf : Interface) (designated backup : RouterID) (new : RouterID × RouterID) :
    Prop :=
  ¬ ((designated = intf.routerID ↔ new.1 = intf.routerID) ∧
    (backup = intf.routerID ↔ new.2 = intf.routerID))

instance (intf : Interface) (designated backup : RouterID) (new : RouterID × RouterID) :
    Decidable (intf.roleChanges designated backup new) :=
  inferInstanceAs (Decidable (¬ _))

/-- The election, made once more with the result when the router's own role changes. -/
def elected (intf : Interface) : RouterID × RouterID :=
  let designated := intf.designatedRouter.routerID
  let backup := intf.backupDesignatedRouter.routerID
  let first := intf.electedOnce designated backup
  if intf.roleChanges designated backup first then intf.electedOnce first.1 first.2 else first

/-- The state of an interface whose router has these roles. -/
def roleState (intf : Interface) (designated backup : RouterID) : InterfaceStateType :=
  if designated = intf.routerID then .DESIGNATED_ROUTER_STATE
  else if backup = intf.routerID then .BACKUP_STATE
  else .NOT_DESIGNATED_ROUTER_STATE

/-- The calculation has elected as it should, and the state agrees with the roles. -/
structure ElectsDesignatedRouter (intf intf' : Interface) : Prop where
  roles : (intf'.designatedRouter.routerID, intf'.backupDesignatedRouter.routerID) = intf.elected
  state : intf'.state = intf.roleState intf'.designatedRouter.routerID
    intf'.backupDesignatedRouter.routerID

/-- Distinct IDs, none of them zero. -/
structure ProperIDs (intf : Interface) : Prop where
  distinct : (intf.routerID :: intf.neighboringRouters.map Neighbor.neighborID).Nodup
  nonzero : NULL_ROUTERID ∉ intf.routerID :: intf.neighboringRouters.map Neighbor.neighborID

/-- A router that is recorded as Designated Router or as Backup has the interface in that state. -/
structure StateAgrees (intf : Interface) : Prop where
  designated : intf.designatedRouter.routerID = intf.routerID →
    intf.state = .DESIGNATED_ROUTER_STATE
  backup : intf.backupDesignatedRouter.routerID = intf.routerID →
    intf.designatedRouter.routerID ≠ intf.routerID → intf.state = .BACKUP_STATE

/-- A Backup is found: an eligible neighbor declares itself Backup, or none could be, or the router
itself may be Backup. -/
def BackupFound (intf : Interface) : Prop :=
  (∃ n ∈ intf.voters, n.candidate.isDeclaredBackup) ∨ (∀ n ∈ intf.voters, n.declaresDesignated) ∨
    (0 < intf.routerPriority ∧
      if intf.designatedRouter.routerID = intf.routerID then
        ∃ n ∈ intf.voters, n.declaresDesignated ∧ (intf.own 0 0).key < n.candidate.key
      else
        (∃ n ∈ intf.voters, n.declaresDesignated) ∨
          (intf.backupDesignatedRouter.routerID ≠ intf.routerID ∧
            ∃ n ∈ intf.voters, (intf.own 0 0).key < n.candidate.key))

end Interface

section

variable {best : Best} {kept : Option Candidate} {cs : List Candidate} {c : Candidate}
  {test : Candidate → Bool}

/-- The variables of a selection hold the candidate. -/
structure Keeps (best : Best) (kept : Option Candidate) : Prop where
  router : best.router.routerID = (kept.map Candidate.id).getD NULL_ROUTERID
  priority : best.priority = (kept.map Candidate.priority).getD 0
  id : best.id = (kept.map Candidate.id).getD NULL_ROUTERID
  declared : best.declared = kept.isSome

lemma Keeps.none : Keeps .none none := ⟨rfl, rfl, rfl, rfl⟩

lemma Keeps.offer (keeps : Keeps best (cs.argmax key)) (eligible : 0 < c.priority)
    {router : DesignatedRouterID} (own : router.routerID = c.id) :
    Keeps (best.offer router c.priority c.id) ((cs ++ [c]).argmax key) := by
  obtain ⟨bestRouter, bestPriority, bestID, bestDeclared⟩ := keeps
  rw [argmax_concat, Best.offer, bestPriority, bestID]
  cases kept : cs.argmax key with
  | none =>
    rw [if_pos (.inl eligible)]
    exact ⟨own, rfl, rfl, rfl⟩
  | some top =>
    have higher : top.key < c.key ↔
        top.priority < c.priority ∨ (c.priority = top.priority ∧ top.id < c.id) := by
      rw [key, key, Prod.Lex.toLex_lt_toLex, BitVec.lt_def, eq_comm (a := c.priority)]
    dsimp only [Option.map_some, Option.getD_some]
    simp only [← higher]
    by_cases more : top.key < c.key
    · rw [if_pos more, if_pos more]
      exact ⟨own, rfl, rfl, rfl⟩
    · rw [if_neg more, if_neg more]
      rw [kept] at bestRouter bestPriority bestID bestDeclared
      exact ⟨bestRouter, bestPriority, bestID, bestDeclared⟩

lemma highest_append_of_fails (fails : test c = false) :
    highest test (cs ++ [c]) = highest test cs := by
  rw [highest, filter_append, filter_cons, if_neg (Bool.eq_false_iff.mp fails),
    filter_nil, append_nil, highest]

lemma Keeps.offer_highest (keeps : Keeps best (highest test cs)) (passes : test c = true)
    (eligible : 0 < c.priority) {router : DesignatedRouterID} (own : router.routerID = c.id) :
    Keeps (best.offer router c.priority c.id) (highest test (cs ++ [c])) := by
  rw [highest, filter_append, filter_cons, if_pos passes, filter_nil]
  exact keeps.offer eligible own

lemma highest_eq_none : highest test cs = none ↔ ∀ c ∈ cs, test c = false := by
  rw [highest, argmax_eq_none, filter_eq_nil_iff]
  exact forall₂_congr fun c _ => Bool.not_eq_true (test c) ▸ Iff.rfl

lemma highest_eq_some (found : highest test cs = some c) : c ∈ cs ∧ test c = true :=
  mem_filter.mp (argmax_mem (Option.mem_def.mpr found))

lemma highest_append_ne_none (passes : test c = true) : highest test (cs ++ [c]) ≠ none := by
  rw [highest, Ne, argmax_eq_none, filter_append, filter_cons, if_pos passes]
  simp

end

namespace Interface

variable {i : Interface} {nb : Neighbor} {neighbors : List Neighbor} {dr backup : RouterID}

/-! ## The selections -/

/-- The candidates among some neighbors. -/
def ofNeighbors (neighbors : List Neighbor) : List Candidate :=
  (neighbors.filter Neighbor.mayVote).map Neighbor.candidate

lemma ofNeighbors_append : ofNeighbors (neighbors ++ [nb]) =
    ofNeighbors neighbors ++ if nb.mayVote then [nb.candidate] else [] := by
  rw [ofNeighbors, ofNeighbors, filter_append, map_append]
  cases h : nb.mayVote <;> simp [h]

lemma priority_pos (eligible : nb.mayVote = true) : 0 < nb.candidate.priority := by
  rw [Neighbor.mayVote, Bool.and_eq_true, decide_eq_true_iff, decide_eq_true_iff] at eligible
  exact Nat.pos_of_ne_zero eligible.2

lemma keeps_considerBackup :
    Keeps (neighbors.foldl considerBackup (.none, .none)).1
        (highest isDeclaredBackup (ofNeighbors neighbors)) ∧
      (highest isDeclaredBackup (ofNeighbors neighbors) = none →
        Keeps (neighbors.foldl considerBackup (.none, .none)).2
          (highest mayBeBackup (ofNeighbors neighbors))) := by
  induction neighbors using List.reverseRecOn with
  | nil => exact ⟨.none, fun _ => .none⟩
  | append_singleton neighbors nb ih =>
    obtain ⟨declared, undeclared⟩ := ih
    rw [foldl_append, foldl_cons, foldl_nil, ofNeighbors_append, considerBackup]
    cases eligible : nb.mayVote with
    | false =>
      rw [Bool.false_and, if_neg Bool.false_ne_true, if_neg Bool.false_ne_true, append_nil]
      exact ⟨declared, undeclared⟩
    | true =>
      rw [Bool.true_and, if_pos rfl]
      have mayBe : mayBeBackup nb.candidate = !nb.declaresDesignated := rfl
      have isDeclared : isDeclaredBackup nb.candidate =
          (!nb.declaresDesignated && nb.declaresBackup) := rfl
      cases dr : nb.declaresDesignated with
      | true =>
        rw [dr] at mayBe isDeclared
        rw [if_neg (by simp), highest_append_of_fails isDeclared, highest_append_of_fails mayBe]
        exact ⟨declared, undeclared⟩
      | false =>
        rw [dr] at mayBe isDeclared
        cases backup : nb.declaresBackup with
        | true =>
          rw [backup] at isDeclared
          have own : nb.neighborsBackupDesignatedRouter.routerID =
              nb.candidate.id := of_decide_eq_true backup
          refine ⟨declared.offer_highest isDeclared (priority_pos eligible) own, ?_⟩
          exact fun none => absurd none (highest_append_ne_none isDeclared)
        | false =>
          rw [backup] at isDeclared
          rw [if_neg Bool.false_ne_true, highest_append_of_fails isDeclared]
          refine ⟨declared, fun none => ?_⟩
          have notYet : (neighbors.foldl considerBackup (.none, .none)).1.declared =
              false := by
            rw [declared.declared, none, Option.isSome_none]
          dsimp only
          rw [notYet, if_neg Bool.false_ne_true]
          exact (undeclared none).offer_highest mayBe (priority_pos eligible) rfl

lemma keeps_considerDesignated :
    Keeps (neighbors.foldl considerDesignated .none)
      (highest declaresDesignated (ofNeighbors neighbors)) := by
  induction neighbors using List.reverseRecOn with
  | nil => exact .none
  | append_singleton neighbors nb ih =>
    rw [foldl_append, foldl_cons, foldl_nil, ofNeighbors_append, considerDesignated]
    cases eligible : nb.mayVote with
    | false =>
      rw [Bool.false_and, if_neg Bool.false_ne_true, if_neg Bool.false_ne_true, append_nil]
      exact ih
    | true =>
      rw [Bool.true_and, if_pos rfl]
      cases declares : nb.declaresDesignated with
      | true =>
        have own : nb.neighborsDesignatedRouter.routerID = nb.candidate.id :=
          of_decide_eq_true declares
        exact ih.offer_highest declares (priority_pos eligible) own
      | false =>
        rw [if_neg Bool.false_ne_true, highest_append_of_fails declares]
        exact ih

/-- The router's own candidacy changes nothing for a test that it fails. -/
lemma highest_candidates {test : Candidate → Bool}
    (fails : 0 < i.routerPriority → test (i.own dr backup) = false) :
    highest test (i.candidates dr backup) = highest test (ofNeighbors i.neighboringRouters) := by
  rw [candidates]
  by_cases eligible : 0 < i.routerPriority
  · rw [if_pos eligible]
    exact highest_append_of_fails (fails eligible)
  · rw [if_neg eligible, append_nil]
    rfl

lemma keeps_offerSelf {test : Candidate → Bool} {best : Best}
    (keeps : Keeps best (highest test (ofNeighbors i.neighboringRouters)))
    (eligible : 0 < i.routerPriority) (passes : test (i.own dr backup) = true) :
    Keeps (i.offerSelf best) (highest test (i.candidates dr backup)) := by
  rw [candidates, if_pos eligible]
  exact keeps.offer_highest (c := i.own dr backup) passes eligible rfl

lemma electBackup_of_mayBe (eligible : 0 < i.routerPriority) (other : dr ≠ i.routerID) :
    (i.electBackup dr backup).router.routerID = electedBackup (i.candidates dr backup) := by
  obtain ⟨declared, undeclared⟩ := @keeps_considerBackup i.neighboringRouters
  have mayBe : mayBeBackup (i.own dr backup) = true := by
    rw [mayBeBackup, own, decide_eq_false other, Bool.not_false]
  have isDeclared : isDeclaredBackup (i.own dr backup) = decide (backup = i.routerID) := by
    rw [isDeclaredBackup, mayBe, Bool.true_and, own]
  have keeps : Keeps (if backup = i.routerID then
        i.offerSelf (i.neighboringRouters.foldl considerBackup (.none, .none)).1
      else (i.neighboringRouters.foldl considerBackup (.none, .none)).1)
      (highest isDeclaredBackup (i.candidates dr backup)) := by
    by_cases self : backup = i.routerID
    · rw [if_pos self]
      exact keeps_offerSelf declared eligible (isDeclared.trans (decide_eq_true self))
    · rw [if_neg self, highest_candidates fun _ => isDeclared.trans (decide_eq_false self)]
      exact declared
  rw [electBackup, electedBackup]
  dsimp only
  rw [if_pos ⟨eligible, other⟩, keeps.declared]
  cases found : highest isDeclaredBackup (i.candidates dr backup) with
  | some top =>
    rw [found] at keeps
    exact keeps.router
  | none =>
    have noNeighbor : highest isDeclaredBackup (ofNeighbors i.neighboringRouters) = none := by
      by_cases self : backup = i.routerID
      · rw [candidates, if_pos eligible] at found
        exact absurd found (highest_append_ne_none (isDeclared.trans (decide_eq_true self)))
      · rw [← found, highest_candidates fun _ => isDeclared.trans (decide_eq_false self)]
    exact (keeps_offerSelf (undeclared noNeighbor) eligible mayBe).router

lemma electBackup_of_notMayBe
    (notMayBe : ¬ (0 < i.routerPriority ∧ dr ≠ i.routerID)) :
    (i.electBackup dr backup).router.routerID =
      ((highest isDeclaredBackup (ofNeighbors i.neighboringRouters)).map Candidate.id).getD
        NULL_ROUTERID := by
  rw [electBackup]
  rw [if_neg notMayBe]
  exact keeps_considerBackup.1.router

lemma electDesignated_router {declaredBackup : Best} :
    (i.electDesignated dr declaredBackup).router.routerID =
      electedDesignated (i.candidates dr backup) declaredBackup.router.routerID := by
  have keeps : Keeps (if 0 < i.routerPriority ∧ dr = i.routerID then
        i.offerSelf (i.neighboringRouters.foldl considerDesignated .none)
      else i.neighboringRouters.foldl considerDesignated .none)
      (highest declaresDesignated (i.candidates dr backup)) := by
    by_cases self : 0 < i.routerPriority ∧ dr = i.routerID
    · rw [if_pos self]
      exact keeps_offerSelf keeps_considerDesignated self.1 (decide_eq_true self.2)
    · rw [if_neg self, highest_candidates fun eligible =>
        decide_eq_false fun same => self ⟨eligible, same⟩]
      exact keeps_considerDesignated
  rw [electDesignated, electedDesignated, keeps.declared]
  cases found : highest declaresDesignated (i.candidates dr backup) with
  | some top =>
    rw [found] at keeps
    exact keeps.router
  | none => rfl

/-! ## One round -/

lemma mem_ofNeighbors {c : Candidate} : c ∈ ofNeighbors i.neighboringRouters ↔
    ∃ n ∈ i.voters, n.candidate = c := mem_map

lemma mem_candidates {c : Candidate} : c ∈ i.candidates dr backup ↔
    (∃ n ∈ i.voters, n.candidate = c) ∨ (0 < i.routerPriority ∧ c = i.own dr backup) := by
  rw [candidates, mem_append, mem_map]
  refine or_congr_right ?_
  by_cases eligible : 0 < i.routerPriority
  · rw [if_pos eligible, mem_singleton, and_iff_right eligible]
  · rw [if_neg eligible]
    exact iff_of_false not_mem_nil fun own => eligible own.1

namespace ProperIDs

variable {n : Neighbor}

lemma neighborID_ne (proper : i.ProperIDs) (mem : n ∈ i.voters) :
    n.neighborID ≠ i.routerID ∧ n.neighborID ≠ NULL_ROUTERID := by
  have here : n.neighborID ∈ i.neighboringRouters.map Neighbor.neighborID :=
    mem_map_of_mem (mem_filter.mp mem).1
  constructor
  · intro same
    exact (nodup_cons.mp proper.distinct).1 (same ▸ here)
  · intro zero
    exact proper.nonzero (mem_cons_of_mem _ (zero ▸ here))

lemma routerID_ne (proper : i.ProperIDs) : i.routerID ≠ NULL_ROUTERID := by
  intro zero
  exact proper.nonzero (zero ▸ mem_cons_self)

lemma id_ne (proper : i.ProperIDs) {c : Candidate}
    (mem : c ∈ i.candidates dr backup) : c.id ≠ NULL_ROUTERID := by
  rcases mem_candidates.mp mem with ⟨n, here, rfl⟩ | ⟨-, rfl⟩
  · exact (proper.neighborID_ne here).2
  · exact proper.routerID_ne

lemma key_ne (proper : i.ProperIDs) (mem : n ∈ i.voters) :
    n.candidate.key ≠ (i.own dr backup).key := by
  intro same
  have ids : n.neighborID.toNat = i.routerID.toNat := congrArg (fun k => (ofLex k).2) same
  exact (proper.neighborID_ne mem).1 (BitVec.eq_of_toNat_eq ids)

lemma highest_eq_self (proper : i.ProperIDs) (eligible : 0 < i.routerPriority)
    {test : Candidate → Bool} :
    (highest test (i.candidates dr backup)).map Candidate.id = some i.routerID ↔
      test (i.own dr backup) = true ∧
        ∀ n ∈ i.voters, test n.candidate = true → n.candidate.key < (i.own 0 0).key := by
  constructor
  · intro self
    obtain ⟨c, found, id⟩ := Option.map_eq_some_iff.mp self
    obtain ⟨mem, passes⟩ := highest_eq_some found
    rcases mem_candidates.mp mem with ⟨n, here, rfl⟩ | ⟨-, rfl⟩
    · exact absurd id (proper.neighborID_ne here).1
    · refine ⟨passes, fun n here other => lt_of_le_of_ne ?_ (proper.key_ne here)⟩
      have among : n.candidate ∈ (i.candidates dr backup).filter test :=
        mem_filter.mpr ⟨mem_candidates.mpr (.inl ⟨n, here, rfl⟩), other⟩
      have le : n.candidate.key ≤ (i.own dr backup).key :=
        le_of_mem_argmax among (Option.mem_def.mpr found)
      exact le
  · rintro ⟨passes, lower⟩
    have found : highest test (i.candidates dr backup) = some (i.own dr backup) := by
      rw [candidates, if_pos eligible, highest, filter_append, filter_cons,
        if_pos passes, filter_nil, argmax_concat]
      cases top : ((i.voters.map Neighbor.candidate).filter test).argmax key with
      | none => rfl
      | some c =>
        obtain ⟨mem, cPasses⟩ := mem_filter.mp (argmax_mem (Option.mem_def.mpr top))
        obtain ⟨n, here, rfl⟩ := mem_map.mp mem
        exact if_pos (lower n here cPasses)
    rw [found]
    rfl

end ProperIDs

/-- The IDs of the routers of both roles. -/
def ids (declared : DesignatedRouterID × DesignatedRouterID) : RouterID × RouterID :=
  (declared.1.routerID, declared.2.routerID)

/-- Nobody declares itself Backup, though somebody could. -/
def Undeclared (intf : Interface) : Prop :=
  (∀ n ∈ intf.voters, n.candidate.isDeclaredBackup = false) ∧
    ∃ n ∈ intf.voters, n.candidate.mayBeBackup = true

lemma elect_fst : (ids (i.elect dr backup)).1 =
    electedDesignated (i.candidates dr backup) (ids (i.elect dr backup)).2 :=
  electDesignated_router

/-- A round of the source elects as it should if the router itself may be Backup, or a Backup is
declared, or none could be. -/
lemma elect_eq (fine : i.Undeclared → 0 < i.routerPriority ∧ dr ≠ i.routerID) :
    ids (i.elect dr backup) = i.electedOnce dr backup := by
  have backups : (ids (i.elect dr backup)).2 = electedBackup (i.candidates dr backup) := by
    by_cases mayBe : 0 < i.routerPriority ∧ dr ≠ i.routerID
    · exact electBackup_of_mayBe mayBe.1 mayBe.2
    · refine (electBackup_of_notMayBe mayBe).trans ?_
      have notOwn : 0 < i.routerPriority → mayBeBackup (i.own dr backup) = false := by
        intro eligible
        have self : dr = i.routerID := by
          by_contra other
          exact mayBe ⟨eligible, other⟩
        rw [mayBeBackup, own, decide_eq_true self, Bool.not_true]
      have notDeclared : 0 < i.routerPriority → isDeclaredBackup (i.own dr backup) = false := by
        intro eligible
        rw [isDeclaredBackup, notOwn eligible, Bool.false_and]
      rw [electedBackup, highest_candidates notDeclared, highest_candidates notOwn]
      cases declared : highest isDeclaredBackup (ofNeighbors i.neighboringRouters) with
      | some top => rfl
      | none =>
        have nobody : highest mayBeBackup (ofNeighbors i.neighboringRouters) = none := by
          rw [highest_eq_none] at declared ⊢
          intro c mem
          rw [Bool.eq_false_iff]
          intro could
          refine mayBe (fine ⟨?_, ?_⟩)
          · exact fun n here => declared _ (mem_map_of_mem here)
          · obtain ⟨n, here, rfl⟩ := mem_ofNeighbors.mp mem
            exact ⟨n, here, could⟩
        rw [nobody]
        rfl
  rw [electedOnce, ← backups]
  exact Prod.ext elect_fst rfl

lemma elect_undeclared (undeclared : i.Undeclared)
    (notMayBe : ¬ (0 < i.routerPriority ∧ dr ≠ i.routerID)) :
    (ids (i.elect dr backup)).2 = NULL_ROUTERID := by
  have none : highest isDeclaredBackup (ofNeighbors i.neighboringRouters) = none := by
    rw [highest_eq_none]
    intro c mem
    obtain ⟨n, here, rfl⟩ := mem_ofNeighbors.mp mem
    exact undeclared.1 n here
  exact (electBackup_of_notMayBe notMayBe).trans (by rw [none]; rfl)

/-! ## Whom a round elects -/

lemma electedBackup_cases (i : Interface) (dr backup : RouterID) :
    (electedBackup (i.candidates dr backup) = NULL_ROUTERID ∧
        ∀ c ∈ i.candidates dr backup, mayBeBackup c = false) ∨
      ∃ c ∈ i.candidates dr backup, mayBeBackup c = true ∧
        electedBackup (i.candidates dr backup) = c.id := by
  rw [electedBackup]
  cases declared : highest isDeclaredBackup (i.candidates dr backup) with
  | some c =>
    obtain ⟨mem, passes⟩ := highest_eq_some declared
    rw [isDeclaredBackup, Bool.and_eq_true] at passes
    exact .inr ⟨c, mem, passes.1, rfl⟩
  | none =>
    cases could : highest mayBeBackup (i.candidates dr backup) with
    | some c =>
      obtain ⟨mem, passes⟩ := highest_eq_some could
      exact .inr ⟨c, mem, passes, rfl⟩
    | none => exact .inl ⟨rfl, highest_eq_none.mp could⟩

lemma electedDesignated_cases (i : Interface) (dr backup elected : RouterID) :
    (electedDesignated (i.candidates dr backup) elected = elected ∧
        ∀ c ∈ i.candidates dr backup, c.declaresDesignated = false) ∨
      ∃ c ∈ i.candidates dr backup, c.declaresDesignated = true ∧
        electedDesignated (i.candidates dr backup) elected = c.id := by
  rw [electedDesignated]
  cases declared : highest declaresDesignated (i.candidates dr backup) with
  | some c =>
    obtain ⟨mem, passes⟩ := highest_eq_some declared
    exact .inr ⟨c, mem, passes, rfl⟩
  | none => exact .inl ⟨rfl, highest_eq_none.mp declared⟩

variable (proper : i.ProperIDs)
include proper

lemma electedOnce_snd_ne {c : Candidate} (mem : c ∈ i.candidates dr backup)
    (could : mayBeBackup c = true) : (i.electedOnce dr backup).2 ≠ NULL_ROUTERID := by
  rcases i.electedBackup_cases dr backup with ⟨-, nobody⟩ | ⟨c', mem', -, eq⟩
  · rw [nobody c mem] at could
    cases could
  · exact fun zero => proper.id_ne mem' (eq.symm.trans zero)

lemma electedOnce_snd_ne_self (notMayBe : dr = i.routerID) :
    (i.electedOnce dr backup).2 ≠ i.routerID := by
  rcases i.electedBackup_cases dr backup with ⟨eq, -⟩ | ⟨c, mem, could, eq⟩
  · exact fun self => proper.routerID_ne (self.symm.trans eq)
  · intro self
    rcases mem_candidates.mp mem with ⟨n, here, rfl⟩ | ⟨-, rfl⟩
    · exact (proper.neighborID_ne here).1 (eq.symm.trans self)
    · rw [mayBeBackup, own, decide_eq_true notMayBe] at could
      cases could

lemma electedOnce_fst_of_current (eligible : 0 < i.routerPriority) (current : dr = i.routerID) :
    (i.electedOnce dr backup).1 = i.routerID ↔
      ∀ n ∈ i.voters, n.declaresDesignated = true → n.candidate.key < (i.own 0 0).key := by
  have declares : (i.own dr backup).declaresDesignated = true := decide_eq_true current
  have self : (highest declaresDesignated (i.candidates dr backup)).map Candidate.id =
      some i.routerID ↔ _ := proper.highest_eq_self eligible
  rw [and_iff_right declares] at self
  refine Iff.trans ?_ self
  change electedDesignated _ _ = _ ↔ _
  rw [electedDesignated]
  cases found : highest declaresDesignated (i.candidates dr backup) with
  | some c => exact Option.some_inj.symm
  | none =>
    have mem : i.own dr backup ∈ i.candidates dr backup := mem_candidates.mpr (.inr ⟨eligible, rfl⟩)
    rw [highest_eq_none.mp found _ mem] at declares
    cases declares

omit proper in
lemma electedBackup_of_undeclared {cs : List Candidate}
    (undeclared : ∀ c ∈ cs, c.isDeclaredBackup = false) :
    electedBackup cs = ((highest mayBeBackup cs).map Candidate.id).getD NULL_ROUTERID := by
  rw [electedBackup, highest_eq_none.mpr undeclared, Option.none_or]

lemma electedOnce_fst_of_other (eligible : 0 < i.routerPriority)
    (undeclared : ∀ n ∈ i.voters, n.candidate.isDeclaredBackup = false) (other : dr ≠ i.routerID) :
    (i.electedOnce dr backup).1 = i.routerID ↔ (∀ n ∈ i.voters, n.declaresDesignated = false) ∧
        (backup = i.routerID ∨ ∀ n ∈ i.voters, n.candidate.key < (i.own 0 0).key) := by
  have mayBe : mayBeBackup (i.own dr backup) = true := by
    rw [mayBeBackup, own, decide_eq_false other, Bool.not_false]
  have isDeclared : isDeclaredBackup (i.own dr backup) = decide (backup = i.routerID) := by
    rw [isDeclaredBackup, mayBe, Bool.true_and, own]
  have mem : i.own dr backup ∈ i.candidates dr backup := mem_candidates.mpr (.inr ⟨eligible, rfl⟩)
  -- the router itself is the only one to declare itself Backup, if it does
  have byDeclaring : backup ≠ i.routerID →
      electedBackup (i.candidates dr backup) =
        ((highest mayBeBackup (i.candidates dr backup)).map Candidate.id).getD
          NULL_ROUTERID := by
    intro notBackup
    refine electedBackup_of_undeclared fun c here => ?_
    rcases mem_candidates.mp here with ⟨n, voter, rfl⟩ | ⟨-, rfl⟩
    · exact undeclared n voter
    · exact isDeclared.trans (decide_eq_false notBackup)
  have highestSelf : (highest mayBeBackup (i.candidates dr backup)).map Candidate.id =
      some i.routerID ↔ _ := proper.highest_eq_self eligible
  rw [and_iff_right mayBe] at highestSelf
  constructor
  · intro self
    rcases i.electedDesignated_cases dr backup (electedBackup (i.candidates dr backup)) with
      ⟨eq, nobody⟩ | ⟨c, here, declares, eq⟩
    · have voters : ∀ n ∈ i.voters, n.declaresDesignated = false := fun n voter =>
        nobody _ (mem_candidates.mpr (.inl ⟨n, voter, rfl⟩))
      refine ⟨voters, or_iff_not_imp_left.mpr fun notBackup n voter => ?_⟩
      have backupSelf := eq.symm.trans self
      rw [byDeclaring notBackup] at backupSelf
      have mayBe' : mayBeBackup n.candidate = true := by
        rw [mayBeBackup, Neighbor.candidate, voters n voter]
        rfl
      refine highestSelf.mp ?_ n voter mayBe'
      cases found : highest mayBeBackup (i.candidates dr backup) with
      | some c =>
        rw [found] at backupSelf
        exact congrArg some backupSelf
      | none =>
        rw [highest_eq_none.mp found _ mem] at mayBe
        cases mayBe
    · have same := eq.symm.trans self
      rcases mem_candidates.mp here with ⟨n, voter, rfl⟩ | ⟨-, rfl⟩
      · exact absurd same (proper.neighborID_ne voter).1
      · exact absurd (of_decide_eq_true declares) other
  · rintro ⟨voters, backupOrHighest⟩
    have nobody : ∀ c ∈ i.candidates dr backup, c.declaresDesignated = false := by
      intro c here
      rcases mem_candidates.mp here with ⟨n, voter, rfl⟩ | ⟨-, rfl⟩
      · exact voters n voter
      · exact decide_eq_false other
    change electedDesignated _ _ = _
    rw [electedDesignated, highest_eq_none.mpr nobody]
    by_cases self : backup = i.routerID
    · have declaredSelf : (highest isDeclaredBackup (i.candidates dr backup)).map
          Candidate.id = some i.routerID := by
        refine (proper.highest_eq_self eligible).mpr ⟨isDeclared.trans (decide_eq_true self), ?_⟩
        intro n voter declared
        rw [undeclared n voter] at declared
        cases declared
      obtain ⟨c, found, id⟩ := Option.map_eq_some_iff.mp declaredSelf
      rw [electedBackup, found]
      exact id
    · rw [byDeclaring self,
        highestSelf.mpr fun n voter _ => backupOrHighest.resolve_left self n voter]
      rfl

/-! ## Both rounds -/

omit proper in
lemma repeats_iff {declared : DesignatedRouterID × DesignatedRouterID} :
    i.repeats dr backup declared = true ↔ ((ids declared).1 ≠ NULL_ROUTERID ∧
        ¬ (dr = i.routerID ↔ (ids declared).1 = i.routerID)) ∨
      ((ids declared).2 ≠ NULL_ROUTERID ∧
        ¬ (backup = i.routerID ↔ (ids declared).2 = i.routerID)) := by
  rw [repeats]
  simp only [Bool.or_eq_true, Bool.and_eq_true, decide_eq_true_eq, bne_iff_ne, ne_eq,
    decide_eq_decide]
  exact Iff.rfl

/-- Both rounds of the source. -/
def rounds (intf : Interface) (designated backup : RouterID) : RouterID × RouterID :=
  if intf.repeats designated backup (intf.elect designated backup) then
    ids (intf.elect (ids (intf.elect designated backup)).1 (ids (intf.elect designated backup)).2)
  else ids (intf.elect designated backup)

/-- Both rounds as they should be. -/
def roundsOnce (intf : Interface) (designated backup : RouterID) : RouterID × RouterID :=
  if intf.roleChanges designated backup (intf.electedOnce designated backup) then
    intf.electedOnce (intf.electedOnce designated backup).1 (intf.electedOnce designated backup).2
  else intf.electedOnce designated backup

omit proper in
lemma ids_electTwice : ids i.electTwice =
    i.rounds i.designatedRouter.routerID i.backupDesignatedRouter.routerID :=
  apply_ite ids ..

omit proper in
lemma undeclared_iff : i.Undeclared ↔ ¬ ((∃ n ∈ i.voters, n.candidate.isDeclaredBackup) ∨
    ∀ n ∈ i.voters, n.declaresDesignated) := by
  rw [Undeclared, not_or]
  refine and_congr ?_ ?_
  · push Not
    exact forall₂_congr fun n _ => Bool.eq_false_iff
  · push Not
    refine exists_congr fun n => and_congr_right fun _ => ?_
    rw [mayBeBackup, Bool.not_eq_true']
    exact Bool.eq_false_iff

lemma backupFound_iff : i.BackupFound ↔
    (i.Undeclared → 0 < i.routerPriority ∧
      (i.electedOnce i.designatedRouter.routerID i.backupDesignatedRouter.routerID).1 ≠
        i.routerID) := by
  rw [BackupFound, ← or_assoc, or_iff_not_imp_left, ← undeclared_iff]
  refine forall_congr' fun undeclared => and_congr_right fun eligible => ?_
  by_cases current : i.designatedRouter.routerID = i.routerID
  · rw [if_pos current, Ne, electedOnce_fst_of_current proper eligible current]
    push Not
    refine exists_congr fun n => and_congr_right fun voter => and_congr_right fun _ => ?_
    exact ⟨le_of_lt, fun le => lt_of_le_of_ne le (proper.key_ne voter).symm⟩
  · rw [if_neg current]
    refine Iff.trans ?_
      (not_congr (electedOnce_fst_of_other proper eligible undeclared.1 current)).symm
    rw [not_and_or, not_or]
    push Not
    refine or_congr ?_ (and_congr_right fun _ => ?_)
    · exact exists_congr fun n => and_congr_right fun _ => Bool.ne_false_iff.symm
    · refine exists_congr fun n => and_congr_right fun voter => ?_
      exact ⟨le_of_lt, fun le => lt_of_le_of_ne le (proper.key_ne voter).symm⟩

omit proper in
lemma candidates_of_ineligible (ineligible : ¬ 0 < i.routerPriority) {dr' backup' : RouterID} :
    i.candidates dr backup = i.candidates dr' backup' := by
  rw [candidates, candidates, if_neg ineligible, if_neg ineligible]

lemma fst_ne_null_of_current (eligible : 0 < i.routerPriority) (current : dr = i.routerID)
    (elected : RouterID) : electedDesignated (i.candidates dr backup) elected ≠ NULL_ROUTERID := by
  rcases i.electedDesignated_cases dr backup elected with ⟨-, nobody⟩ | ⟨c, mem, -, eq⟩
  · have declares := nobody _ (mem_candidates.mpr (.inr ⟨eligible, rfl⟩))
    exact absurd current (of_decide_eq_false declares)
  · exact fun zero => proper.id_ne mem (eq.symm.trans zero)

omit proper in
lemma elect_fst_of_current (eligible : 0 < i.routerPriority) (current : dr = i.routerID) :
    (ids (i.elect dr backup)).1 = (i.electedOnce dr backup).1 := by
  rw [elect_fst, electedOnce, electedDesignated, electedDesignated]
  cases found : highest declaresDesignated (i.candidates dr backup) with
  | some c => rfl
  | none =>
    have declares := highest_eq_none.mp found _ (mem_candidates.mpr (.inr ⟨eligible, rfl⟩))
    exact absurd current (of_decide_eq_false declares)

lemma electedOnce_again (lost : ((i.electedOnce dr backup).1 = NULL_ROUTERID ∧ dr = i.routerID) ∨
      ((i.electedOnce dr backup).2 = NULL_ROUTERID ∧ (dr = i.routerID ↔
          (i.electedOnce dr backup).1 = i.routerID))) :
    i.electedOnce (i.electedOnce dr backup).1
        (i.electedOnce dr backup).2 = i.electedOnce dr backup := by
  by_cases eligible : 0 < i.routerPriority
  · rcases lost with ⟨null, current⟩ | ⟨null, kept⟩
    · exact absurd null (fst_ne_null_of_current proper eligible current _)
    · have nobody : ∀ c ∈ i.candidates dr backup, mayBeBackup c = false := by
        rcases i.electedBackup_cases dr backup with ⟨-, nobody⟩ | ⟨c, mem, -, eq⟩
        · exact nobody
        · exact absurd (eq.symm.trans null) (proper.id_ne mem)
      have current : dr = i.routerID := by
        have notMayBe := nobody _ (mem_candidates.mpr (.inr ⟨eligible, rfl⟩))
        rw [mayBeBackup, Bool.not_eq_false'] at notMayBe
        exact of_decide_eq_true notMayBe
      have stays := kept.mp current
      rw [null, stays]
      refine Prod.ext ?_ ?_
      · rw [stays, electedOnce_fst_of_current proper eligible rfl]
        exact (electedOnce_fst_of_current proper eligible current).mp stays
      · rw [null]
        rcases i.electedBackup_cases i.routerID NULL_ROUTERID with
          ⟨eq, -⟩ | ⟨c, mem, could, -⟩
        · exact eq
        · rcases mem_candidates.mp mem with ⟨n, voter, rfl⟩ | ⟨-, rfl⟩
          · rw [nobody _ (mem_candidates.mpr (.inl ⟨n, voter, rfl⟩))] at could
            cases could
          · rw [mayBeBackup, own, decide_eq_true rfl] at could
            cases could
  · rw [electedOnce, candidates_of_ineligible eligible, ← electedOnce]

lemma missing_backup (undeclared : i.Undeclared)
    (self : 0 < i.routerPriority → (i.electedOnce dr backup).1 = i.routerID) :
    (i.rounds dr backup).2 = NULL_ROUTERID := by
  rw [rounds]
  by_cases eligible : 0 < i.routerPriority
  · by_cases current : dr = i.routerID
    · have null : (ids (i.elect dr backup)).2 = NULL_ROUTERID :=
        elect_undeclared undeclared fun mayBe => mayBe.2 current
      have stays : (ids (i.elect dr backup)).1 = i.routerID := by
        rw [elect_fst_of_current eligible current, self eligible]
      split_ifs
      · exact elect_undeclared undeclared fun mayBe => mayBe.2 stays
      · exact null
    · have becomes : (ids (i.elect dr backup)).1 = i.routerID := by
        rw [elect_eq fun _ => ⟨eligible, current⟩, self eligible]
      have again : i.repeats dr backup (i.elect dr backup) = true := by
        refine repeats_iff.mpr (.inl ⟨becomes ▸ proper.routerID_ne, fun kept => ?_⟩)
        exact current (kept.mpr becomes)
      rw [if_pos again]
      exact elect_undeclared undeclared fun mayBe => mayBe.2 becomes
  · split_ifs
    · exact elect_undeclared undeclared fun mayBe => eligible mayBe.1
    · exact elect_undeclared undeclared fun mayBe => eligible mayBe.1

lemma elect_replaced (undeclared : i.Undeclared) (eligible : 0 < i.routerPriority)
    (current : dr = i.routerID) (replaced : (i.electedOnce dr backup).1 ≠ i.routerID) :
    i.rounds dr backup = i.roundsOnce dr backup := by
  have null : (ids (i.elect dr backup)).2 = NULL_ROUTERID :=
    elect_undeclared undeclared fun mayBe => mayBe.2 current
  have same := @elect_fst_of_current i dr backup eligible current
  have changes : ¬ (dr = i.routerID ↔
      (i.electedOnce dr backup).1 = i.routerID) :=
    fun kept => replaced (kept.mp current)
  have again : i.repeats dr backup (i.elect dr backup) = true := by
    refine repeats_iff.mpr (.inl ⟨?_, ?_⟩)
    · rw [elect_fst]
      exact fst_ne_null_of_current proper eligible current _
    · rw [same]
      exact changes
  have newRole : i.roleChanges dr backup (i.electedOnce dr backup) := fun kept => changes kept.1
  rw [rounds, roundsOnce, if_pos again, if_pos newRole, same, null,
    elect_eq fun _ => ⟨eligible, replaced⟩]
  -- the router is Backup in none of the two
  have ownSame : i.own (i.electedOnce dr backup).1 NULL_ROUTERID =
      i.own (i.electedOnce dr backup).1 (i.electedOnce dr backup).2 := by
    rw [own, own, decide_eq_false proper.routerID_ne.symm,
      decide_eq_false (electedOnce_snd_ne_self proper current)]
  have candidatesSame : i.candidates (i.electedOnce dr backup).1 NULL_ROUTERID =
      i.candidates (i.electedOnce dr backup).1 (i.electedOnce dr backup).2 := by
    rw [candidates, ownSame, ← candidates]
  rw [electedOnce, candidatesSame, ← electedOnce]

omit proper in
lemma elect_twice_of_eq (first : ids (i.elect dr backup) = i.electedOnce dr backup)
    (second : ids (i.elect (i.electedOnce dr backup).1 (i.electedOnce dr backup).2) =
      i.electedOnce (i.electedOnce dr backup).1 (i.electedOnce dr backup).2)
    (kept : i.repeats dr backup (i.elect dr backup) = false →
      i.roleChanges dr backup (i.electedOnce dr backup) →
      i.electedOnce (i.electedOnce dr backup).1
        (i.electedOnce dr backup).2 = i.electedOnce dr backup) :
    i.rounds dr backup = i.roundsOnce dr backup := by
  rw [rounds, roundsOnce]
  cases again : i.repeats dr backup (i.elect dr backup) with
  | true =>
    have changes : i.roleChanges dr backup (i.electedOnce dr backup) := by
      rw [repeats_iff, first] at again
      rintro ⟨designatedKept, backupKept⟩
      rcases again with ⟨-, change⟩ | ⟨-, change⟩
      · exact change designatedKept
      · exact change backupKept
    rw [if_pos rfl, if_pos changes, first, second]
  | false =>
    rw [if_neg Bool.false_ne_true, first]
    split_ifs with changes
    · exact (kept again changes).symm
    · rfl

lemma electTwice_eq_iff : ids i.electTwice = i.elected ↔ i.BackupFound := by
  rw [backupFound_iff proper, ids_electTwice]
  change _ = i.roundsOnce _ _ ↔ _
  generalize i.designatedRouter.routerID = dr
  generalize i.backupDesignatedRouter.routerID = backup
  constructor
  · intro same undeclared
    by_contra missing
    rw [not_and, not_not] at missing
    obtain ⟨n, voter, could⟩ := undeclared.2
    have null := congrArg Prod.snd same
    rw [missing_backup proper undeclared missing] at null
    have here : ∀ d b, n.candidate ∈ i.candidates d b := fun d b =>
      mem_candidates.mpr (.inl ⟨n, voter, rfl⟩)
    rw [roundsOnce] at null
    split_ifs at null
    · exact electedOnce_snd_ne proper (here _ _) could null.symm
    · exact electedOnce_snd_ne proper (here _ _) could null.symm
  · intro found
    by_cases undeclared : i.Undeclared
    · obtain ⟨eligible, notSelf⟩ := found undeclared
      by_cases current : dr = i.routerID
      · exact elect_replaced proper undeclared eligible current notSelf
      · refine elect_twice_of_eq (elect_eq fun _ => ⟨eligible, current⟩)
          (elect_eq fun _ => ⟨eligible, notSelf⟩) fun notAgain changes => ?_
        have mayBe : mayBeBackup (i.own dr backup) = true := by
          rw [mayBeBackup, own, decide_eq_false current, Bool.not_false]
        have someBackup := electedOnce_snd_ne proper
          (mem_candidates.mpr (.inr ⟨eligible, rfl⟩)) mayBe
        rw [Bool.eq_false_iff, Ne, repeats_iff, elect_eq fun _ => ⟨eligible, current⟩,
          not_or] at notAgain
        refine absurd ⟨iff_of_false current notSelf, ?_⟩ changes
        exact not_not.mp fun change => notAgain.2 ⟨someBackup, change⟩
    · refine elect_twice_of_eq (elect_eq fun here => absurd here undeclared)
        (elect_eq fun here => absurd here undeclared) fun notAgain changes => ?_
      rw [Bool.eq_false_iff, Ne, repeats_iff, elect_eq fun here => absurd here undeclared,
        not_or, not_and_not_right, not_and_not_right] at notAgain
      refine electedOnce_again proper ?_
      by_cases designatedKept : dr = i.routerID ↔
          (i.electedOnce dr backup).1 = i.routerID
      · right
        refine ⟨?_, designatedKept⟩
        by_contra someBackup
        exact changes ⟨designatedKept, notAgain.2 someBackup⟩
      · left
        have null : (i.electedOnce dr backup).1 = NULL_ROUTERID := by
          by_contra someDesignated
          exact designatedKept (notAgain.1 someDesignated)
        refine ⟨null, ?_⟩
        by_contra other
        refine designatedKept (iff_of_false other ?_)
        rw [null]
        exact proper.routerID_ne.symm

/-! ## The state of the interface -/

lemma mayBe_of_backup (self : (ids (i.elect dr backup)).2 = i.routerID) :
    0 < i.routerPriority ∧ dr ≠ i.routerID := by
  by_contra notMayBe
  have eq := (electBackup_of_notMayBe notMayBe).symm.trans self
  cases found : highest isDeclaredBackup (ofNeighbors i.neighboringRouters) with
  | some c =>
    obtain ⟨n, voter, rfl⟩ := mem_ofNeighbors.mp (highest_eq_some found).1
    rw [found] at eq
    exact (proper.neighborID_ne voter).1 eq
  | none =>
    rw [found] at eq
    exact proper.routerID_ne eq.symm

lemma nobody_of_designated (other : dr ≠ i.routerID) {elected : RouterID}
    (self : electedDesignated (i.candidates dr backup) elected = i.routerID) :
    ∀ n ∈ i.voters, n.declaresDesignated = false := by
  rcases i.electedDesignated_cases dr backup elected with
    ⟨-, nobody⟩ | ⟨c, mem, declares, eq⟩
  · exact fun n voter => nobody _ (mem_candidates.mpr (.inl ⟨n, voter, rfl⟩))
  · rcases mem_candidates.mp mem with ⟨n, voter, rfl⟩ | ⟨-, rfl⟩
    · exact absurd (eq.symm.trans self) (proper.neighborID_ne voter).1
    · exact absurd (of_decide_eq_true declares) other

omit proper in
lemma electedDesignated_of_nobody (other : dr ≠ i.routerID)
    (nobody : ∀ n ∈ i.voters, n.declaresDesignated = false) (elected : RouterID) :
    electedDesignated (i.candidates dr backup) elected = elected := by
  have none : highest declaresDesignated (i.candidates dr backup) = none := by
    rw [highest_eq_none]
    intro c mem
    rcases mem_candidates.mp mem with ⟨n, voter, rfl⟩ | ⟨-, rfl⟩
    · exact nobody n voter
    · exact decide_eq_false other
  rw [electedDesignated, none]
  rfl

omit proper in
lemma exists_declared_of_lost (eligible : 0 < i.routerPriority)
    (other : dr ≠ i.routerID) (current : backup = i.routerID)
    (lost : electedBackup (i.candidates dr backup) ≠ i.routerID) :
    ∃ n ∈ i.voters, n.candidate.isDeclaredBackup = true := by
  have passes : isDeclaredBackup (i.own dr backup) = true := by
    rw [isDeclaredBackup, mayBeBackup, own, decide_eq_false other, decide_eq_true current]
    rfl
  rw [electedBackup] at lost
  cases found : highest isDeclaredBackup (i.candidates dr backup) with
  | some c =>
    obtain ⟨mem, declared⟩ := highest_eq_some found
    rw [found] at lost
    rcases mem_candidates.mp mem with ⟨n, voter, rfl⟩ | ⟨-, rfl⟩
    · exact ⟨n, voter, declared⟩
    · exact absurd rfl lost
  | none =>
    rw [highest_eq_none.mp found _ (mem_candidates.mpr (.inr ⟨eligible, rfl⟩))] at passes
    cases passes

lemma undeclared_of_backup (notCurrent : backup ≠ i.routerID)
    (self : electedBackup (i.candidates dr backup) = i.routerID) :
    ∀ n ∈ i.voters, n.candidate.isDeclaredBackup = false := by
  rw [electedBackup] at self
  cases found : highest isDeclaredBackup (i.candidates dr backup) with
  | some c =>
    obtain ⟨mem, declared⟩ := highest_eq_some found
    rw [found] at self
    rcases mem_candidates.mp mem with ⟨n, voter, rfl⟩ | ⟨-, rfl⟩
    · exact absurd self (proper.neighborID_ne voter).1
    · rw [isDeclaredBackup, Bool.and_eq_true] at declared
      exact absurd (of_decide_eq_true declared.2) notCurrent
  | none =>
    exact fun n voter => highest_eq_none.mp found _ (mem_candidates.mpr (.inl ⟨n, voter, rfl⟩))

lemma not_both : ¬ ((ids i.electTwice).1 = i.routerID ∧ (ids i.electTwice).2 = i.routerID) := by
  rw [ids_electTwice, rounds]
  generalize i.designatedRouter.routerID = dr
  generalize i.backupDesignatedRouter.routerID = backup
  by_cases again : i.repeats dr backup (i.elect dr backup) = true
  · rw [if_pos again]
    rintro ⟨designatedSelf, backupSelf⟩
    obtain ⟨eligible, notFirst⟩ := mayBe_of_backup proper backupSelf
    rw [elect_fst] at designatedSelf
    have nobody := nobody_of_designated proper notFirst designatedSelf
    rw [elect_eq fun _ => ⟨eligible, notFirst⟩] at backupSelf
    have other : dr ≠ i.routerID := by
      intro current
      rw [elect_fst_of_current eligible current, Ne,
        electedOnce_fst_of_current proper eligible current] at notFirst
      refine notFirst fun n voter declares => ?_
      rw [nobody n voter] at declares
      cases declares
    have first : ids (i.elect dr backup) = i.electedOnce dr backup :=
      elect_eq fun _ => ⟨eligible, other⟩
    have one : (i.electedOnce dr backup).1 = (i.electedOnce dr backup).2 :=
      electedDesignated_of_nobody other nobody _
    rw [repeats_iff, first] at again
    rw [first] at notFirst backupSelf
    have notBackup : (i.electedOnce dr backup).2 ≠ i.routerID := one ▸ notFirst
    -- so it has declared itself Backup and lost to a neighbor, as it does in the second round
    have current : backup = i.routerID := by
      rcases again with ⟨-, change⟩ | ⟨-, change⟩
      · exact absurd (iff_of_false other notFirst) change
      · by_contra notCurrent
        exact change (iff_of_false notCurrent notBackup)
    obtain ⟨n, voter, declared⟩ := exists_declared_of_lost eligible other current notBackup
    have none := undeclared_of_backup proper notBackup backupSelf n voter
    rw [declared] at none
    cases none
  · rw [if_neg again]
    rintro ⟨designatedSelf, backupSelf⟩
    obtain ⟨-, other⟩ := mayBe_of_backup proper backupSelf
    refine again (repeats_iff.mpr (.inl ⟨designatedSelf ▸ proper.routerID_ne, fun kept => ?_⟩))
    exact other (kept.mpr designatedSelf)

omit proper in
lemma stateChanges_agrees (agrees : i.StateAgrees) {isDesignatedRouter isBackup : Bool}
    (notBoth : ¬ (isDesignatedRouter = true ∧ isBackup = true)) :
    (i.stateChanges isDesignatedRouter isBackup).getLast?.getD i.state =
      if isDesignatedRouter then .DESIGNATED_ROUTER_STATE
      else if isBackup then .BACKUP_STATE else .NOT_DESIGNATED_ROUTER_STATE := by
  obtain ⟨dr, backup⟩ := agrees
  rw [stateChanges]
  by_cases wasDesignated : i.designatedRouter.routerID = i.routerID
  · have state := dr wasDesignated
    by_cases wasBackup : i.backupDesignatedRouter.routerID = i.routerID
    all_goals cases isDesignatedRouter <;> cases isBackup <;>
      simp [wasDesignated, wasBackup, state] at notBoth ⊢
  · by_cases wasBackup : i.backupDesignatedRouter.routerID = i.routerID
    · have state := backup wasBackup wasDesignated
      cases isDesignatedRouter <;> cases isBackup <;>
        simp [wasDesignated, wasBackup, state] at notBoth ⊢
    · by_cases other : i.state = .NOT_DESIGNATED_ROUTER_STATE
      all_goals cases isDesignatedRouter <;> cases isBackup <;>
        simp [wasDesignated, wasBackup, other] at notBoth ⊢

lemma calculateDesignatedRouter_state (agrees : i.StateAgrees) :
    i.calculateDesignatedRouter.1.state =
      i.roleState (ids i.electTwice).1 (ids i.electTwice).2 := by
  have notBoth := not_both proper
  refine (stateChanges_agrees agrees ?_).trans ?_
  · rw [decide_eq_true_iff, decide_eq_true_iff]
    exact notBoth
  · simp only [decide_eq_true_eq]
    rfl

omit proper

/-- The election follows its rules, and the state the roles, exactly if a Backup is found. -/
theorem calculateDesignatedRouter_iff (i : Interface) (proper : i.ProperIDs)
    (agrees : i.StateAgrees) :
    i.ElectsDesignatedRouter i.calculateDesignatedRouter.1 ↔ i.BackupFound := by
  rw [← electTwice_eq_iff proper]
  constructor
  · exact ElectsDesignatedRouter.roles
  · intro roles
    exact ⟨roles, calculateDesignatedRouter_state proper agrees⟩

/-- A router with the ID and the interface address 2, which waits, and its neighbor 1. -/
def waiting : Interface where
  routerID := 2
  interfaceType := .BROADCAST
  state := .WAITING_STATE
  interfaceAddress := 2
  routerPriority := 1
  designatedRouter := NULL_DESIGNATEDROUTERID
  backupDesignatedRouter := NULL_DESIGNATEDROUTERID
  neighboringRouters := [⟨1, 1, 1, .TWOWAY_STATE, NULL_DESIGNATEDROUTERID,
    NULL_DESIGNATEDROUTERID, false⟩]

/-- The same router, seen from its neighbor. -/
def waitingNeighbor : Interface where
  routerID := 1
  interfaceType := .BROADCAST
  state := .WAITING_STATE
  interfaceAddress := 1
  routerPriority := 1
  designatedRouter := NULL_DESIGNATEDROUTERID
  backupDesignatedRouter := NULL_DESIGNATEDROUTERID
  neighboringRouters := [⟨2, 1, 2, .TWOWAY_STATE, NULL_DESIGNATEDROUTERID,
    NULL_DESIGNATEDROUTERID, false⟩]

/-- The router becomes Designated Router and finds no Backup, though its neighbor could be. -/
theorem calculateDesignatedRouter_noBackup :
    ¬ waiting.ElectsDesignatedRouter waiting.calculateDesignatedRouter.1 := by
  intro elects
  exact absurd elects.roles (by decide)

theorem calculateDesignatedRouter_waitingNeighbor :
    waitingNeighbor.ElectsDesignatedRouter waitingNeighbor.calculateDesignatedRouter.1 ↔
      waitingNeighbor.BackupFound :=
  calculateDesignatedRouter_iff waitingNeighbor ⟨by decide, by decide⟩ ⟨by decide, by decide⟩

end Interface

end Inet.Ospf.MultiAccess
