import Inet.Ospf.Flooding

/-!
# Reliable flooding

A run of a router: the LSAs and acknowledgements it receives, and what it does by itself, which is
any number of floodings, removals from retransmission lists, resets of neighbors and changes of
everything else.

An instance that replaces a database copy is taken off the lists again, to which it has just been
added, since these are searched by key. Under `Meets` the lists hold what has not been answered for.
-/

namespace Inet.Ospf.Flooding

open Function List

variable {B : Type}

inductive Action (B : Type) where
  | flood (lsa : LSA B) (areaID : AreaID)
  | remove (pointers : List ℕ) (lsaKey : LSAKeyType)
  | reset (p : ℕ)
  | change (after : Router B)
  | update (areaID : AreaID) (p : ℕ) (currentLSA : LSA B)
  | acknowledge (p : ℕ) (lsaHeader : LSAHeader)

/-- The lists and what is awaited are the same. -/
def SameLists (st st' : Router B) : Prop :=
  ∀ p, (st'.neighborAt p).linkStateRetransmissionList =
      (st.neighborAt p).linkStateRetransmissionList ∧
    (st'.neighborAt p).awaited = (st.neighborAt p).awaited

/-- What the router does by itself, with actions allowed by `K`, while the LSAs with the IDs `busy`
are being flooded. -/
inductive OwnActivity (K : List LinkStateID → Router B → Action B → Prop) :
    List LinkStateID → Router B → Router B → Prop
  | refl {busy : List LinkStateID} {st : Router B} : OwnActivity K busy st st
  | flood {busy : List LinkStateID} {st st' : Router B} (react : Reaction B) (lsa : LSA B)
    (areaID : AreaID) :
    OwnActivity K busy st st' → K busy st' (.flood lsa areaID) →
    (∀ s p, OwnActivity K (lsa.header.linkStateID :: busy) s (react.loadingDone s p)) →
    OwnActivity K busy st (st'.floodLSA react lsa areaID none)
  | remove {busy : List LinkStateID} {st st' : Router B} (pointers : List ℕ) (lsaKey : LSAKeyType) :
    OwnActivity K busy st st' → K busy st' (.remove pointers lsaKey) →
    OwnActivity K busy st (st'.removeFromAllRetransmissionLists pointers lsaKey)
  | reset {busy : List LinkStateID} {st st' : Router B} (p : ℕ) :
    OwnActivity K busy st st' → K busy st' (.reset p) →
    OwnActivity K busy st (st'.setNeighbor p (st'.neighborAt p).reset)
  | change {busy : List LinkStateID} {st st' st'' : Router B} :
    OwnActivity K busy st st' → K busy st' (.change st'') → SameLists st' st'' →
    OwnActivity K busy st st''

/-- One step of a router. -/
inductive Step (K : List LinkStateID → Router B → Action B → Prop) : Router B → Router B → Prop
  | own {st st' : Router B} : OwnActivity K [] st st' → Step K st st'
  | update {st : Router B} (react : Reaction B) (areaID : AreaID) (p : ℕ) (currentLSA : LSA B) :
    K [] st (.update areaID p currentLSA) →
    (∀ s q, OwnActivity K [currentLSA.header.linkStateID] s (react.loadingDone s q)) →
    (∀ s q, OwnActivity K [] s (react.badLinkStateRequest s q)) →
    Step K st (st.processLSA react areaID p currentLSA).1
  | acknowledge {st : Router B} (p : ℕ) (lsaHeader : LSAHeader) :
    K [] st (.acknowledge p lsaHeader) → Step K st (st.processHeader p lsaHeader)

/-- What the lists hold under the key of an instance are instances of the same LSA, and none is
newer. -/
def Supersedes (st : Router B) (lsa : LSA B) : Prop :=
  ∀ p, ∀ x ∈ (st.neighborAt p).linkStateRetransmissionList, x.key = lsa.key →
    x.header.sameLSA lsa.header = true ∧ lsa.header.isOlder x.header = false

/-- Nobody but the sender takes part in flooding, and no list has an LSA with that ID. -/
structure Quiet (st : Router B) (p : ℕ) (currentLSA : LSA B) : Prop where
  others : ∀ q ≠ p, (st.neighborAt q).isExchanging = false
  sender : (st.neighborAt p).state ≠ .LOADING_STATE
  lists : ∀ q, ∀ x ∈ (st.neighborAt q).linkStateRetransmissionList,
    x.header.linkStateID ≠ currentLSA.header.linkStateID
  equivalent : currentLSA.header.lsType = .AS_EXTERNAL_LSA_TYPE → st.equivalentOwn currentLSA = none

/-- The conditions on an LSA of an update. -/
structure UpdateMeets (st : Router B) (areaID : AreaID) (p : ℕ) (currentLSA : LSA B) : Prop where
  /-- A first instance supersedes what is on the lists, and so does the router's own LSA that is
  flushed for it. -/
  first : st.findLSA currentLSA.header.lsType currentLSA.key areaID = none →
    Supersedes st currentLSA ∧ (currentLSA.header.lsType = .AS_EXTERNAL_LSA_TYPE → ∀ own,
        st.findLSA .AS_EXTERNAL_LSA_TYPE ⟨currentLSA.header.linkStateID, st.routerID⟩
          BACKBONE_AREAID = some own → Supersedes st (own.lsa.setLsAge MAX_AGE))
  /-- No database copy is replaced unless nobody else is to be told. -/
  newer : ∀ stored, st.findLSA currentLSA.header.lsType currentLSA.key areaID = some stored →
    stored.lsa.header.isOlder currentLSA.header = true → Quiet st p currentLSA
  /-- If the instance of the database comes back, it is the one on the sender's list. -/
  duplicate : ∀ stored, st.findLSA currentLSA.header.lsType currentLSA.key areaID = some stored →
    stored.lsa.header.isSame currentLSA.header = true →
    ∀ x ∈ (st.neighborAt p).linkStateRetransmissionList, x.key = currentLSA.key →
      x.header.sameLSA currentLSA.header = true ∧ currentLSA.header.isSame x.header = true

/-- The condition on an action by itself. -/
def ActionMeets (st : Router B) : Action B → Prop
  | .flood lsa _ => Supersedes st lsa
  | .remove _ lsaKey => ∀ p, ∀ x ∈ (st.neighborAt p).linkStateRetransmissionList, x.key ≠ lsaKey
  | .reset _ | .change _ => True
  | .update areaID p currentLSA => UpdateMeets st areaID p currentLSA
  | .acknowledge p lsaHeader =>
      ∀ x ∈ (st.neighborAt p).linkStateRetransmissionList, x.key = lsaHeader.key →
        lsaHeader.isSame x.header = true → x.header.lsType = lsaHeader.lsType

/-- The action leaves LSAs with the link state ID alone. -/
def Avoids (linkStateID : LinkStateID) (st : Router B) : Action B → Prop
  | .flood lsa _ => lsa.header.linkStateID ≠ linkStateID
  | .change after => after.routerID = st.routerID ∧ ∀ lsType lsaKey areaID,
      lsaKey.linkStateID = linkStateID →
        after.findLSA lsType lsaKey areaID = st.findLSA lsType lsaKey areaID
  | _ => True

/-- An action meets its condition, and leaves alone the LSAs that are being flooded. -/
def Meets (busy : List LinkStateID) (st : Router B) (action : Action B) : Prop :=
  ActionMeets st action ∧ ∀ linkStateID ∈ busy, Avoids linkStateID st action

section

variable {react : Reaction B} {st st' s : Router B} {lsa currentLSA x : LSA B} {areaID : AreaID}
  {source : Option ℕ} {lsType : LSAType} {lsaKey : LSAKeyType} {p q : ℕ} {pointers : List ℕ}
  {linkStateID : LinkStateID} {busy : List LinkStateID} {n : Neighbor B}

namespace Router

lemma findLSA_setNeighbor :
    (st.setNeighbor p n).findLSA lsType lsaKey areaID = st.findLSA lsType lsaKey areaID := by
  cases lsType <;> rfl

lemma neighborAt_setDatabase {lsas : List (Stored B)} :
    (st.setDatabase lsType areaID lsas).neighborAt = st.neighborAt := by
  cases lsType <;> rfl

lemma neighborAt_modifyLSA {f : Stored B → Stored B} :
    (st.modifyLSA lsType lsaKey areaID f).neighborAt = st.neighborAt :=
  neighborAt_setDatabase

lemma setNeighbor_self : st.setNeighbor p (st.neighborAt p) = st := by
  rw [setNeighbor, update_eq_self]

lemma removeFromAllRetransmissionLists_eq_self
    (absent : ∀ p, ∀ x ∈ (st.neighborAt p).linkStateRetransmissionList, x.key ≠ lsaKey) :
    st.removeFromAllRetransmissionLists pointers lsaKey = st := by
  rw [removeFromAllRetransmissionLists]
  induction pointers with
  | nil => rfl
  | cons p pointers ih =>
    have unchanged : (st.neighborAt p).removeFromRetransmissionList lsaKey = st.neighborAt p := by
      rw [Neighbor.removeFromRetransmissionList, dropKey_eq_self (absent p)]
    rw [foldl_cons, unchanged, setNeighbor_self]
    exact ih

lemma neighborAt_storeLSA
    (absent : ∀ p, ∀ x ∈ (st.neighborAt p).linkStateRetransmissionList, x.key ≠ lsa.key) :
    (st.storeLSA lsa areaID pointers).neighborAt = st.neighborAt := by
  rw [storeLSA]
  split
  · rw [removeFromAllRetransmissionLists_eq_self absent, neighborAt_modifyLSA]
  · exact neighborAt_setDatabase

lemma neighborAt_storeLSA_first (first : st.findLSA lsa.header.lsType lsa.key areaID = none) :
    (st.storeLSA lsa areaID pointers).neighborAt = st.neighborAt := by
  rw [storeLSA, first]
  exact neighborAt_setDatabase

end Router

/-! ## What a flooding keeps -/

/-- The lists have everything that is awaited. -/
def Kept (st : Router B) : Prop :=
  ∀ p, Outbox LSA.key (st.neighborAt p).linkStateRetransmissionList (st.neighborAt p).awaited

lemma Kept.setNeighbor (kept : Kept st)
    (outbox : Outbox LSA.key n.linkStateRetransmissionList n.awaited) :
    Kept (st.setNeighbor p n) := by
  intro q
  dsimp only [Router.setNeighbor]
  by_cases here : q = p
  · subst here
    rw [update_self]
    exact outbox
  · rw [update_of_ne here]
    exact kept q

lemma Kept.of_sameLists (kept : Kept st) (same : SameLists st st') : Kept st' := by
  intro p
  rw [(same p).1, (same p).2]
  exact kept p

lemma Kept.of_neighborAt (kept : Kept st) (same : st'.neighborAt = st.neighborAt) : Kept st' := by
  intro p
  rw [same]
  exact kept p

/-- Of the LSAs with the link state ID only some are taken off the lists. -/
structure Frame (linkStateID : LinkStateID) (st st' : Router B) : Prop where
  entries : ∀ p, ∀ x ∈ (st'.neighborAt p).linkStateRetransmissionList,
    x.header.linkStateID = linkStateID → x ∈ (st.neighborAt p).linkStateRetransmissionList
  lookups : ∀ lsType lsaKey areaID, lsaKey.linkStateID = linkStateID →
    st'.findLSA lsType lsaKey areaID = st.findLSA lsType lsaKey areaID
  routerID : st'.routerID = st.routerID

lemma Frame.refl : Frame linkStateID st st :=
  ⟨fun _ _ mem _ => mem, fun _ _ _ _ => rfl, rfl⟩

lemma Frame.trans (first : Frame linkStateID st st') (second : Frame linkStateID st' s) :
    Frame linkStateID st s where
  entries p x mem here := first.entries p x (second.entries p x mem here) here
  lookups lsType lsaKey areaID here :=
    (second.lookups lsType lsaKey areaID here).trans (first.lookups lsType lsaKey areaID here)
  routerID := second.routerID.trans first.routerID

lemma Frame.setNeighbor
    (entries : ∀ x ∈ n.linkStateRetransmissionList, x.header.linkStateID = linkStateID →
      x ∈ (st.neighborAt p).linkStateRetransmissionList) :
    Frame linkStateID st (st.setNeighbor p n) where
  entries := by
    intro q x mem here
    dsimp only [Router.setNeighbor] at mem
    by_cases same : q = p
    · subst same
      rw [update_self] at mem
      exact entries x mem here
    · rw [update_of_ne same] at mem
      exact mem
  lookups _ _ _ _ := Router.findLSA_setNeighbor
  routerID := rfl

lemma Frame.removeFromAllRetransmissionLists :
    Frame linkStateID st (st.removeFromAllRetransmissionLists pointers lsaKey) := by
  rw [Router.removeFromAllRetransmissionLists]
  induction pointers generalizing st with
  | nil => exact .refl
  | cons p pointers ih =>
    refine Frame.trans (Frame.setNeighbor ?_) ih
    intro x mem _
    exact (mem_dropKey.mp mem).1

lemma floodLSA_induction {P : Router B → Prop}
    (step : ∀ s p, P s → P (Router.floodToNeighbor react lsa source s p)) (start : P st) :
    P (st.floodLSA react lsa areaID source) := by
  have overArea : ∀ s area, P s → P (Router.floodArea react lsa source s area) := by
    intro s area holds
    refine List.foldlRecOn _ _ holds ?_
    intro s' holds' intf _
    split
    · refine List.foldlRecOn _ _ holds' ?_
      intro s'' holds'' p _
      exact step s'' p holds''
    · exact holds'
  rw [Router.floodLSA]
  split
  · refine List.foldlRecOn _ _ start ?_
    intro s holds area _
    split
    · exact overArea s area holds
    · exact holds
  · split
    · exact overArea st _ start
    · exact start

lemma floodToNeighbor_induction {P : Router B → Prop}
    (removed : ∀ s p, P s → P (s.setNeighbor p ((s.neighborAt p).removeFromRequestList lsa.key)))
    (done : ∀ s p, P s → P (react.loadingDone s p)) (queued : ∀ s p, P s →
      P (s.setNeighbor p (((s.neighborAt p).addToRetransmissionList lsa).await lsa)))
    (start : P st) : P (Router.floodToNeighbor react lsa source st p) := by
  have request : ∀ s p, P s → P (s.removeFromRequestList react p lsa.key) := by
    intro s p holds
    rw [Router.removeFromRequestList]
    split
    · exact done _ p (removed s p holds)
    · exact removed s p holds
  have queue : ∀ s p, P s → P (s.queueLSA lsa source p) := by
    intro s p holds
    rw [Router.queueLSA]
    split
    · exact holds
    · exact queued s p holds
  rw [Router.floodToNeighbor]
  split
  · exact start
  · split
    · exact queue st p start
    · split
      · exact start
      · split
        · exact request st p start
        · exact queue _ p (request st p start)

/-- What a flooding leaves: of the LSAs with its link state ID the lists have the one flooded and
some of those before. -/
structure Flooded (st : Router B) (lsa : LSA B) (s : Router B) : Prop where
  kept : Kept s
  entries : ∀ p, ∀ x ∈ (s.neighborAt p).linkStateRetransmissionList,
    x.header.linkStateID = lsa.header.linkStateID →
      x = lsa ∨ x ∈ (st.neighborAt p).linkStateRetransmissionList
  lookups : ∀ lsType lsaKey areaID, lsaKey.linkStateID = lsa.header.linkStateID →
    s.findLSA lsType lsaKey areaID = st.findLSA lsType lsaKey areaID
  routerID : s.routerID = st.routerID

lemma isOlder_self {header : LSAHeader} : header.isOlder header = false := by
  rw [LSAHeader.isOlder, if_neg (lt_irrefl _), if_pos rfl, if_neg (fun here => here.1 here.2),
    if_neg (fun here => here.2 here.1), Nat.sub_self]
  rfl

lemma Flooded.frame (flooded : Flooded st lsa s) (frame : Frame lsa.header.linkStateID s st') :
    Kept st' → Flooded st lsa st' := by
  intro kept
  refine ⟨kept, ?_, ?_, frame.routerID.trans flooded.routerID⟩
  · intro p x mem here
    exact flooded.entries p x (frame.entries p x mem here) here
  · intro lsType lsaKey areaID here
    exact (frame.lookups lsType lsaKey areaID here).trans
      (flooded.lookups lsType lsaKey areaID here)

lemma Kept.floodLSA (kept : Kept st) (supersedes : Supersedes st lsa)
    (nestedKept : ∀ s p, Kept s → Kept (react.loadingDone s p))
    (nestedFrame : ∀ s p, Frame lsa.header.linkStateID s (react.loadingDone s p)) :
    Flooded st lsa (st.floodLSA react lsa areaID source) := by
  refine floodLSA_induction ?_ ⟨kept, fun _ _ mem _ => .inr mem, fun _ _ _ _ => rfl, rfl⟩
  intro s p flooded
  refine floodToNeighbor_induction ?_ ?_ ?_ flooded
  · intro s p flooded
    refine flooded.frame (Frame.setNeighbor fun _ mem _ => mem) ?_
    exact flooded.kept.setNeighbor (flooded.kept p)
  · intro s p flooded
    exact flooded.frame (nestedFrame s p) (nestedKept s p flooded.kept)
  · intro s p flooded
    have older : ∀ x ∈ (s.neighborAt p).linkStateRetransmissionList, x.key = lsa.key →
        (x.header.sameLSA lsa.header && !lsa.header.isOlder x.header) = true := by
      intro x mem same
      have here : x.header.linkStateID = lsa.header.linkStateID :=
        congrArg LSAKeyType.linkStateID same
      rcases flooded.entries p x mem here with rfl | before
      · rw [isOlder_self]
        simp [LSAHeader.sameLSA]
      · obtain ⟨sameLSA, notOlder⟩ := supersedes p x before same
        rw [sameLSA, notOlder]
        rfl
    refine ⟨flooded.kept.setNeighbor ((flooded.kept p).put older), ?_, ?_, flooded.routerID⟩
    · intro q x mem here
      dsimp only [Router.setNeighbor] at mem
      by_cases same : q = p
      · subst same
        rw [update_self] at mem
        rcases of_mem_putByKey mem with rfl | old
        · exact .inl rfl
        · exact flooded.entries q x old here
      · rw [update_of_ne same] at mem
        exact flooded.entries q x mem here
    · intro lsType lsaKey areaID here
      exact flooded.lookups lsType lsaKey areaID here

/-- While an LSA is being flooded, what the router does by itself leaves LSAs with its ID alone. -/
lemma OwnActivity.frame (activity : OwnActivity Meets busy st st')
    (mem : linkStateID ∈ busy) : Frame linkStateID st st' := by
  induction activity with
  | refl => exact .refl
  | flood react lsa areaID _ meets _ ih nested =>
    refine (ih mem).trans (floodLSA_induction ?_ Frame.refl)
    intro s p frame
    refine floodToNeighbor_induction ?_ ?_ ?_ frame
    · intro s p frame
      exact frame.trans (Frame.setNeighbor fun _ mem _ => mem)
    · intro s p frame
      exact frame.trans (nested s p (mem_cons_of_mem _ mem))
    · intro s p frame
      refine frame.trans (Frame.setNeighbor ?_)
      intro x xMem here
      rcases of_mem_putByKey xMem with rfl | old
      · exact absurd here (meets.2 _ mem)
      · exact old
  | remove pointers lsaKey _ _ ih => exact (ih mem).trans Frame.removeFromAllRetransmissionLists
  | reset p _ _ ih =>
    refine (ih mem).trans (Frame.setNeighbor ?_)
    intro x xMem
    cases xMem
  | @change busy st st' st'' _ meets same ih =>
    obtain ⟨routerID, lookups⟩ := meets.2 _ mem
    refine (ih mem).trans ⟨?_, lookups, routerID⟩
    intro p x xMem _
    rw [(same p).1] at xMem
    exact xMem

lemma OwnActivity.kept (activity : OwnActivity Meets busy st st') : Kept st → Kept st' := by
  induction activity with
  | refl => exact id
  | flood react lsa areaID _ meets nested ih nestedKept =>
    intro kept
    refine ((ih kept).floodLSA meets.1 nestedKept ?_).kept
    intro s p
    exact (nested s p).frame mem_cons_self
  | remove pointers lsaKey _ meets ih =>
    intro kept
    rw [Router.removeFromAllRetransmissionLists_eq_self meets.1]
    exact ih kept
  | reset p _ _ ih =>
    intro kept
    exact (ih kept).setNeighbor Outbox.empty
  | change _ _ same ih =>
    intro kept
    exact (ih kept).of_sameLists same

/-! ## An LSA of an update -/

variable {stored : Stored B}

lemma findLSA_linkStateID (found : st.findLSA lsType lsaKey areaID = some stored) :
    stored.lsa.header.linkStateID = lsaKey.linkStateID := by
  have passes := find?_some found
  cases lsType <;> simp only [Router.hasKey, decide_eq_true_eq] at passes
  · exact passes
  · exact passes
  all_goals exact congrArg LSAKeyType.linkStateID passes

lemma isOlder_setLsAge {header : LSAHeader} (notOlder : lsa.header.isOlder header = false) :
    (lsa.setLsAge MAX_AGE).header.isOlder header = false := by
  have sequenceNumber : ¬ lsa.header.lsSequenceNumber < header.lsSequenceNumber := by
    intro less
    rw [LSAHeader.isOlder, if_pos less] at notOlder
    cases notOlder
  have sameNumber : (lsa.setLsAge MAX_AGE).header.lsSequenceNumber = lsa.header.lsSequenceNumber := rfl
  have flushed : (lsa.setLsAge MAX_AGE).header.lsAge = MAX_AGE := rfl
  rw [LSAHeader.isOlder, sameNumber, flushed, if_neg sequenceNumber]
  split
  · rw [if_neg (fun here => here.1 rfl)]
    split
    · rfl
    · rename_i young
      rw [decide_eq_false_iff_not]
      omega
  · rfl

lemma hasKey_asExternal :
    Router.hasKey .AS_EXTERNAL_LSA_TYPE lsaKey stored = decide (stored.lsa.key = lsaKey) :=
  rfl

lemma findLSA_modifyLSA_eq_none {f : Stored B → Stored B} {key : LSAKeyType}
    (absent : st.findLSA .AS_EXTERNAL_LSA_TYPE key areaID = none)
    (sameKey : ∀ stored, (f stored).lsa.key = stored.lsa.key) :
    (st.modifyLSA .AS_EXTERNAL_LSA_TYPE lsaKey areaID f).findLSA .AS_EXTERNAL_LSA_TYPE key areaID =
      none := by
  refine find?_eq_none.mpr ?_
  intro stored mem
  obtain ⟨before, beforeMem, rfl⟩ := mem_map.mp mem
  have differs := find?_eq_none.mp absent before beforeMem
  have keyBefore : (if Router.hasKey .AS_EXTERNAL_LSA_TYPE lsaKey before then f before
      else before).lsa.key = before.lsa.key := by
    split
    · exact sameKey before
    · rfl
  rw [hasKey_asExternal, decide_eq_true_eq] at differs ⊢
  rw [keyBefore]
  exact differs

/-- What `LOADING_DONE` sets off while LSAs with the link state ID are being flooded. -/
structure Settled (react : Reaction B) (linkStateID : LinkStateID) : Prop where
  kept : ∀ s p, Kept s → Kept (react.loadingDone s p)
  frame : ∀ s p, Frame linkStateID s (react.loadingDone s p)

lemma Kept.flood (kept : Kept st) (settled : Settled react lsa.header.linkStateID)
    (supersedes : Supersedes st lsa) : Flooded st lsa (st.floodLSA react lsa areaID source) :=
  kept.floodLSA supersedes settled.kept settled.frame

/-- Under its key the lists have the LSA and what they had before. -/
structure Entered (st : Router B) (lsa : LSA B) (s : Router B) : Prop where
  kept : Kept s
  entries : ∀ p, ∀ x ∈ (s.neighborAt p).linkStateRetransmissionList, x.key = lsa.key →
    x = lsa ∨ x ∈ (st.neighborAt p).linkStateRetransmissionList

lemma Flooded.entered (flooded : Flooded st lsa s) : Entered st lsa s :=
  ⟨flooded.kept, fun p x mem key =>
    flooded.entries p x mem (congrArg LSAKeyType.linkStateID key)⟩

lemma Entered.of_neighborAt (entered : Entered st lsa s) (same : st'.neighborAt = s.neighborAt) :
    Entered st lsa st' := by
  refine ⟨entered.kept.of_neighborAt same, ?_⟩
  rw [same]
  exact entered.entries

lemma equivalentOwn_eq_some {own : Stored B} (found : st.equivalentOwn lsa = some own) :
    st.findLSA .AS_EXTERNAL_LSA_TYPE ⟨lsa.header.linkStateID, st.routerID⟩ BACKBONE_AREAID =
        some own ∧ own.lsa.key = ⟨lsa.header.linkStateID, st.routerID⟩ := by
  have stored := (Option.filter_eq_some_iff.mp found).1
  have passes := find?_some stored
  rw [hasKey_asExternal, decide_eq_true_eq] at passes
  exact ⟨stored, passes⟩

lemma Flooded.floodOwn {own : LSA B} (flooded : Flooded st currentLSA s)
    (ownID : own.header.linkStateID = currentLSA.header.linkStateID)
    (otherKey : own.key ≠ currentLSA.key) (supersedes : Supersedes st own)
    (settled : Settled react currentLSA.header.linkStateID) (same : st'.neighborAt = s.neighborAt) :
    Flooded st' own (st'.floodLSA react own areaID none) ∧
      Entered st currentLSA (st'.floodLSA react own areaID none) := by
  rw [← ownID] at settled
  have ownFlooded : Flooded st' own (st'.floodLSA react own areaID none) := by
    refine (flooded.kept.of_neighborAt same).flood settled ?_
    intro p x mem key
    rw [same] at mem
    have here := (congrArg LSAKeyType.linkStateID key).trans ownID
    rcases flooded.entries p x mem here with rfl | before
    · exact absurd key.symm otherKey
    · exact supersedes p x before key
  refine ⟨ownFlooded, ownFlooded.kept, ?_⟩
  intro p x mem key
  have here : x.header.linkStateID = currentLSA.header.linkStateID :=
    congrArg LSAKeyType.linkStateID key
  rcases ownFlooded.entries p x mem (here.trans ownID.symm) with rfl | before
  · exact absurd key otherKey
  · rw [same] at before
    exact flooded.entries p x before here

/-- A first instance is installed without taking anything off the lists. -/
lemma Flooded.installLSA (flooded : Flooded st currentLSA s)
    (settled : Settled react currentLSA.header.linkStateID)
    (first : st.findLSA currentLSA.header.lsType currentLSA.key areaID = none)
    (ownSupersedes : currentLSA.header.lsType = .AS_EXTERNAL_LSA_TYPE → ∀ own,
      st.findLSA .AS_EXTERNAL_LSA_TYPE ⟨currentLSA.header.linkStateID, st.routerID⟩
        BACKBONE_AREAID = some own → Supersedes st (own.lsa.setLsAge MAX_AGE)) :
    Entered st currentLSA (s.installLSA react currentLSA areaID) := by
  have firstNow := (flooded.lookups currentLSA.header.lsType currentLSA.key areaID rfl).trans first
  rw [Router.installLSA]
  by_cases external : currentLSA.header.lsType = .AS_EXTERNAL_LSA_TYPE
  · rw [if_pos external, Router.installASExternalLSA]
    rw [external] at first firstNow
    have firstExternal : ∀ {st' : Router B},
        st'.findLSA .AS_EXTERNAL_LSA_TYPE currentLSA.key areaID = none →
        st'.findLSA currentLSA.header.lsType currentLSA.key BACKBONE_AREAID = none := by
      intro st' none
      rw [external]
      exact none
    split
    · exact flooded.entered.of_neighborAt
        (Router.neighborAt_storeLSA_first (firstExternal firstNow))
    · rename_i own found
      split
      · exact flooded.entered
      · obtain ⟨stored, ownKey⟩ := equivalentOwn_eq_some found
        have wasStored := (flooded.lookups _ _ _ rfl).symm.trans stored
        rw [flooded.routerID] at wasStored
        have supersedes := ownSupersedes external own wasStored
        have otherKey : own.lsa.key ≠ currentLSA.key := by
          intro same
          rw [← same, ownKey, flooded.routerID] at first
          have none : st.findLSA .AS_EXTERNAL_LSA_TYPE
              ⟨currentLSA.header.linkStateID, st.routerID⟩ BACKBONE_AREAID = none := first
          rw [none] at wasStored
          cases wasStored
        obtain ⟨marked, isMarked⟩ : ∃ marked, marked = s.modifyLSA .AS_EXTERNAL_LSA_TYPE
            ⟨currentLSA.header.linkStateID, s.routerID⟩ BACKBONE_AREAID fun stored =>
              { stored with lsa := stored.lsa.setLsAge MAX_AGE } := ⟨_, rfl⟩
        have same : marked.neighborAt = s.neighborAt := by
          rw [isMarked]
          exact Router.neighborAt_modifyLSA
        have both : Flooded marked (own.lsa.setLsAge MAX_AGE)
              (marked.floodLSA react (own.lsa.setLsAge MAX_AGE) BACKBONE_AREAID none) ∧
            Entered st currentLSA
              (marked.floodLSA react (own.lsa.setLsAge MAX_AGE) BACKBONE_AREAID none) :=
          flooded.floodOwn (congrArg LSAKeyType.linkStateID ownKey) otherKey supersedes settled same
        obtain ⟨ownFlooded, entered⟩ := both
        have markedFirst : marked.findLSA .AS_EXTERNAL_LSA_TYPE currentLSA.key areaID = none := by
          rw [isMarked]
          exact findLSA_modifyLSA_eq_none firstNow fun _ => rfl
        have ownID : currentLSA.key.linkStateID =
            (own.lsa.setLsAge MAX_AGE).header.linkStateID :=
          (congrArg LSAKeyType.linkStateID ownKey).symm
        have floodedFirst := (ownFlooded.lookups .AS_EXTERNAL_LSA_TYPE currentLSA.key areaID
          ownID).trans markedFirst
        dsimp only
        rw [← isMarked]
        refine entered.of_neighborAt ?_
        refine (Router.neighborAt_storeLSA_first (firstExternal ?_)).trans
          Router.neighborAt_modifyLSA
        exact findLSA_modifyLSA_eq_none floodedFirst fun _ => rfl
  · rw [if_neg external]
    split
    · exact flooded.entered.of_neighborAt (Router.neighborAt_storeLSA_first firstNow)
    · exact flooded.entered

lemma Kept.acceptLSA_first (kept : Kept st) (meets : UpdateMeets st areaID p currentLSA)
    (settled : Settled react currentLSA.header.linkStateID)
    (first : st.findLSA currentLSA.header.lsType currentLSA.key areaID = none) :
    Kept (st.acceptLSA react areaID p currentLSA none) := by
  obtain ⟨supersedes, ownSupersedes⟩ := meets.first first
  have flooded : Flooded st currentLSA (st.floodLSA react currentLSA areaID (some p)) :=
    kept.flood settled supersedes
  have entered := flooded.installLSA settled first ownSupersedes
  rw [Router.acceptLSA]
  split
  · have flushed : Settled react (currentLSA.setLsAge MAX_AGE).header.linkStateID := settled
    refine (entered.kept.flood flushed ?_).kept
    intro q x mem key
    rcases entered.entries q x mem key with rfl | before
    · refine ⟨?_, isOlder_setLsAge isOlder_self⟩
      simp [LSAHeader.sameLSA, LSA.setLsAge, LSAHeader.key]
    · obtain ⟨sameLSA, notOlder⟩ := supersedes q x before key
      exact ⟨sameLSA, isOlder_setLsAge notOlder⟩
  · exact entered.kept

/-- Without anyone to be told, flooding removes a request at most. -/
structure Calm (st s : Router B) : Prop where
  lists : SameLists st s
  state : ∀ q, (s.neighborAt q).state = (st.neighborAt q).state
  rest : s = { st with neighborAt := s.neighborAt }

lemma Quiet.floodLSA (quiet : Quiet st p currentLSA) :
    Calm st (st.floodLSA react currentLSA areaID (some p)) := by
  refine floodLSA_induction ?_ ⟨fun _ => ⟨rfl, rfl⟩, fun _ => rfl, rfl⟩
  intro s q calm
  have request : (s.neighborAt p).state ≠ .LOADING_STATE := by
    rw [calm.state]
    exact quiet.sender
  have removed : Calm st (s.removeFromRequestList react p currentLSA.key) := by
    rw [Router.removeFromRequestList, if_neg (fun here => request here.1)]
    refine ⟨?_, ?_, ?_⟩
    · intro q
      dsimp only [Router.setNeighbor]
      by_cases here : q = p
      · subst here
        rw [update_self]
        exact calm.lists q
      · rw [update_of_ne here]
        exact calm.lists q
    · intro q
      dsimp only [Router.setNeighbor]
      by_cases here : q = p
      · subst here
        rw [update_self]
        exact calm.state q
      · rw [update_of_ne here]
        exact calm.state q
    · rw [calm.rest]
      rfl
  rw [Router.floodToNeighbor]
  by_cases here : q = p
  · subst here
    have notQueued : ∀ s' : Router B, s'.queueLSA currentLSA (some q) q = s' := fun _ => if_pos rfl
    simp only [notQueued]
    split
    · exact calm
    · split
      · exact calm
      · split
        · exact calm
        · split
          · exact removed
          · exact removed
  · have away : (s.neighborAt q).isExchanging = false := by
      have before := quiet.others q here
      rw [Neighbor.isExchanging] at before ⊢
      rw [calm.state]
      exact before
    rw [if_pos away]
    exact calm

lemma Kept.acceptLSA_newer (kept : Kept st) (quiet : Quiet st p currentLSA)
    (settled : Settled react currentLSA.header.linkStateID)
    (found : st.findLSA currentLSA.header.lsType currentLSA.key areaID = some stored) :
    Kept (st.acceptLSA react areaID p currentLSA (some stored)) := by
  have calm : Calm st (st.floodLSA react currentLSA areaID (some p)) := quiet.floodLSA
  rw [Router.acceptLSA]
  generalize st.floodLSA react currentLSA areaID (some p) = s at calm
  have absent : ∀ q, ∀ x ∈ (s.neighborAt q).linkStateRetransmissionList,
      x.header.linkStateID ≠ currentLSA.header.linkStateID := by
    intro q x mem
    rw [(calm.lists q).1] at mem
    exact quiet.lists q x mem
  have absentKey : ∀ {key : LSAKeyType}, key.linkStateID = currentLSA.header.linkStateID →
      ∀ q, ∀ x ∈ (s.neighborAt q).linkStateRetransmissionList, x.key ≠ key := by
    intro key here q x mem same
    exact absent q x mem ((congrArg LSAKeyType.linkStateID same).trans here)
  rw [Router.removeFromAllRetransmissionLists_eq_self (absentKey (findLSA_linkStateID found))]
  have neighbors : (s.installLSA react currentLSA areaID).neighborAt = s.neighborAt := by
    rw [Router.installLSA]
    split
    · rename_i external
      have none : s.equivalentOwn currentLSA = none := by
        rw [calm.rest]
        exact quiet.equivalent external
      rw [Router.installASExternalLSA, none]
      exact Router.neighborAt_storeLSA (absentKey rfl)
    · split
      · exact Router.neighborAt_storeLSA (absentKey rfl)
      · rfl
  have installed : Kept (s.installLSA react currentLSA areaID) :=
    (kept.of_sameLists calm.lists).of_neighborAt neighbors
  rw [← neighbors] at absent
  split
  · rw [Router.refuteLSA, Option.isNone_some, if_neg Bool.false_ne_true]
    dsimp only
    split
    · rename_i own ownFound
      have ownID := findLSA_linkStateID ownFound
      have changedID : ∀ lsa : LSA B,
          (if currentLSA.header.lsSequenceNumber = MAX_SEQUENCE_NUMBER then lsa.setLsAge MAX_AGE
            else lsa.setLsSequenceNumber (currentLSA.header.lsSequenceNumber + 1)).header.linkStateID =
              lsa.header.linkStateID := by
        intro lsa
        split <;> rfl
      refine ((installed.of_neighborAt Router.neighborAt_modifyLSA).flood ?_ ?_).kept
      · rw [changedID, ownID]
        exact settled
      · intro q x mem same
        rw [Router.neighborAt_modifyLSA] at mem
        have here := congrArg LSAKeyType.linkStateID same
        exact absurd ((here.trans (changedID own.lsa)).trans ownID) (absent q x mem)
    · exact installed
  · exact installed

lemma Kept.rejectLSA (kept : Kept st)
    (answered : ∀ x ∈ (st.neighborAt p).linkStateRetransmissionList,
      x.key = currentLSA.key → stored.lsa.header.isSame currentLSA.header = true →
        x ∉ (st.neighborAt p).awaited)
    (bad : ∀ s q, Kept s → Kept (react.badLinkStateRequest s q)) :
    Kept (st.rejectLSA react p currentLSA stored).1 := by
  rw [Router.rejectLSA]
  split
  · exact bad st p kept
  · split
    · rename_i duplicate
      split
      · refine kept.setNeighbor ((kept p).drop ?_)
        intro x mem key
        exact answered x mem key duplicate
      · exact kept
    · exact kept

variable {header : LSAHeader}

lemma answered_list : ((st.answered p header).neighborAt q).linkStateRetransmissionList =
    (st.neighborAt q).linkStateRetransmissionList := by
  dsimp only [Router.answered, Router.setNeighbor]
  by_cases here : q = p
  · subst here
    rw [update_self]
    rfl
  · rw [update_of_ne here]

lemma answered_state : ((st.answered p header).neighborAt q).state = (st.neighborAt q).state := by
  dsimp only [Router.answered, Router.setNeighbor]
  by_cases here : q = p
  · subst here
    rw [update_self]
    rfl
  · rw [update_of_ne here]

lemma Kept.answered (kept : Kept st) : Kept (st.answered p header) :=
  kept.setNeighbor ((kept p).forget _)

lemma Supersedes.answered (supersedes : Supersedes st lsa) :
    Supersedes (st.answered p header) lsa := by
  intro q x mem
  rw [answered_list] at mem
  exact supersedes q x mem

lemma UpdateMeets.answered (meets : UpdateMeets st areaID p currentLSA) :
    UpdateMeets (st.answered p header) areaID p currentLSA where
  first := by
    intro none
    rw [Router.answered, Router.findLSA_setNeighbor] at none
    obtain ⟨supersedes, own⟩ := meets.first none
    refine ⟨supersedes.answered, ?_⟩
    intro external stored found
    rw [Router.answered, Router.findLSA_setNeighbor] at found
    exact (own external stored found).answered
  newer := by
    intro stored found older
    rw [Router.answered, Router.findLSA_setNeighbor] at found
    obtain ⟨others, sender, lists, equivalent⟩ := meets.newer stored found older
    refine ⟨?_, ?_, ?_, equivalent⟩
    · intro q ne
      have away := others q ne
      rw [Neighbor.isExchanging] at away ⊢
      rw [answered_state]
      exact away
    · rw [answered_state]
      exact sender
    · intro q x mem
      rw [answered_list] at mem
      exact lists q x mem
  duplicate := by
    intro stored found same x mem
    rw [Router.answered, Router.findLSA_setNeighbor] at found
    rw [answered_list] at mem
    exact meets.duplicate stored found same x mem

lemma not_awaited_answered (sameLSA : x.header.sameLSA header = true)
    (same : header.isSame x.header = true) : x ∉ ((st.answered p header).neighborAt p).awaited := by
  dsimp only [Router.answered, Router.setNeighbor]
  rw [update_self]
  intro mem
  have passes := (mem_filter.mp mem).2
  rw [sameLSA, same] at passes
  cases passes

/-- An LSA of an update that meets its condition leaves the lists with all that is awaited. -/
lemma Kept.processLSA (kept : Kept st) (meets : UpdateMeets st areaID p currentLSA)
    (settled : Settled react currentLSA.header.linkStateID)
    (bad : ∀ s q, Kept s → Kept (react.badLinkStateRequest s q)) :
    Kept (st.processLSA react areaID p currentLSA).1 := by
  have keptNow : Kept (st.answered p currentLSA.header) := kept.answered
  have meetsNow : UpdateMeets (st.answered p currentLSA.header) areaID p currentLSA :=
    meets.answered
  have answeredFor : ∀ x, x.header.sameLSA currentLSA.header = true →
      currentLSA.header.isSame x.header = true →
      x ∉ ((st.answered p currentLSA.header).neighborAt p).awaited :=
    fun x => not_awaited_answered
  rw [Router.processLSA]
  dsimp only
  split
  · exact keptNow
  · split
    · exact keptNow
    · split
      · rename_i first
        exact keptNow.acceptLSA_first meetsNow settled first
      · rename_i stored found
        split
        · rename_i older
          split
          · exact keptNow
          · exact keptNow.acceptLSA_newer (meetsNow.newer stored found older) settled found
        · refine keptNow.rejectLSA ?_ bad
          intro x mem key same
          obtain ⟨sameLSA, isSame⟩ := meetsNow.duplicate stored found same x mem key
          exact answeredFor x sameLSA isSame

/-- An acknowledgement of what is on the list takes off what it acknowledges. -/
lemma Kept.processHeader (kept : Kept st)
    (meets : ∀ x ∈ (st.neighborAt p).linkStateRetransmissionList, x.key = header.key →
      header.isSame x.header = true → x.header.lsType = header.lsType) :
    Kept (st.processHeader p header) := by
  have keptNow : Kept (st.answered p header) := kept.answered
  rw [Router.processHeader]
  split
  · rename_i y found
    split
    · rename_i same
      have yMem := mem_of_find?_eq_some found
      have yKey := find?_some found
      rw [decide_eq_true_eq] at yKey
      refine keptNow.setNeighbor ((keptNow p).drop ?_)
      intro x mem key
      -- the list has one entry with the key
      obtain rfl := (keptNow p).eq_of_key mem yMem (key.trans yKey.symm)
      rw [answered_list] at mem
      refine not_awaited_answered ?_ same
      have type := meets x mem key same
      change x.header.key = header.key at key
      rw [LSAHeader.sameLSA, type, key]
      simp
    · exact keptNow
  · exact keptNow

lemma Step.kept (step : Step Meets st st') (kept : Kept st) : Kept st' := by
  cases step with
  | own activity => exact activity.kept kept
  | update react areaID p currentLSA meets settled bad =>
    refine kept.processLSA meets.1 ?_ fun s q => (bad s q).kept
    exact ⟨fun s q => (settled s q).kept, fun s q => (settled s q).frame mem_cons_self⟩
  | acknowledge p header meets => exact kept.processHeader meets.1

/-- In every run from empty lists whose steps all meet the conditions, the retransmission list of a
neighbor has what was flooded to it, as long as the neighbor has not answered for that instance, got
a newer one, or been reset. -/
theorem retransmissionList_of_run (empty : ∀ p, (st.neighborAt p).linkStateRetransmissionList = [] ∧
      (st.neighborAt p).awaited = []) (run : Relation.ReflTransGen (Step Meets) st st') (p : ℕ) :
    (st'.neighborAt p).awaited ⊆ (st'.neighborAt p).linkStateRetransmissionList := by
  have kept : Kept st' := by
    induction run with
    | refl =>
      intro q
      rw [(empty q).1, (empty q).2]
      exact Outbox.empty
    | tail _ step ih => exact step.kept ih
  exact (kept p).kept

variable {K : List LinkStateID → Router B → Action B → Prop} {lsas : List (LSA B)}

lemma processLSAs_steps (allowed : ∀ s, ∀ currentLSA ∈ lsas, K [] s (.update areaID p currentLSA))
    (done : ∀ linkStateID s q, OwnActivity K [linkStateID] s (react.loadingDone s q))
    (bad : ∀ s q, OwnActivity K [] s (react.badLinkStateRequest s q)) :
    Relation.ReflTransGen (Step K) st (st.processLSAs react areaID p lsas) := by
  induction lsas generalizing st with
  | nil => exact .refl
  | cons currentLSA lsas ih =>
    have step : Step K st (st.processLSA react areaID p currentLSA).1 :=
      .update react areaID p currentLSA (allowed st currentLSA mem_cons_self) (done _) bad
    rw [Router.processLSAs]
    split
    · rename_i after processed
      rw [processed] at step
      exact .single step
    · rename_i after processed
      rw [processed] at step
      exact .head step (ih fun s lsa mem => allowed s lsa (mem_cons_of_mem _ mem))

lemma processUpdate_steps {packet : LinkStateUpdatePacket B}
    (allowed : ∀ s currentLSA, K [] s (.update packet.areaID p currentLSA))
    (done : ∀ linkStateID s q, OwnActivity K [linkStateID] s (react.loadingDone s q))
    (bad : ∀ s q, OwnActivity K [] s (react.badLinkStateRequest s q)) :
    Relation.ReflTransGen (Step K) st (st.processUpdate react p packet) := by
  rw [Router.processUpdate]
  split
  · refine List.foldlRecOn _ _ .refl ?_
    intro s run lsas _
    exact run.trans (processLSAs_steps (fun s lsa _ => allowed s lsa) done bad)
  · exact .refl

end

namespace TwoNeighbors

def options : OSPFOptions := ⟨false, false, false, false, false⟩

/-- An instance of a Router-LSA of another router. -/
def instanceOf (lsSequenceNumber : ℤ) : LSA Unit where
  header := { lsAge := 1, lsOptions := options, linkStateID := 9, advertisingRouter := 9,
              lsType := .ROUTERLSA_TYPE, lsSequenceNumber := lsSequenceNumber }
  contents := .other ()

/-- Two full neighbors, on a point-to-point interface each, and a database. -/
def router (routerLSAs : List (Stored Unit)) : Router Unit where
  routerID := 1
  areas := [⟨0, true, [0, 1], routerLSAs, [], []⟩]
  asExternalLSAs := []
  routingTable := []
  interfaceAt intf := ⟨.POINTTOPOINT, 0, 0x0A000001, [intf]⟩
  neighborAt p := ⟨BitVec.ofNat 32 (p + 2), .FULL_STATE, [], [], []⟩

/-- The new states; nothing is originated. -/
def react : Reaction Unit where
  loadingDone st p := st.setNeighbor p { st.neighborAt p with state := .FULL_STATE }
  badLinkStateRequest st p :=
    st.setNeighbor p { (st.neighborAt p).reset with state := .EXCHANGE_START_STATE }

def update (lsSequenceNumber : ℤ) : LinkStateUpdatePacket Unit :=
  ⟨0, [instanceOf lsSequenceNumber], [], [], []⟩

lemma sameLists_state {st : Router Unit} {p : ℕ} {state : NeighborStateType} :
    SameLists st (st.setNeighbor p { st.neighborAt p with state := state }) := by
  intro q
  dsimp only [Router.setNeighbor]
  by_cases here : q = p
  · subst here
    rw [update_self]
    exact ⟨rfl, rfl⟩
  · rw [update_of_ne here]
    exact ⟨rfl, rfl⟩

lemma loadingDone_activity {K : List LinkStateID → Router Unit → Action Unit → Prop}
    {busy : List LinkStateID} (allowed : ∀ st p state,
      K busy st (.change (st.setNeighbor p { st.neighborAt p with state := state })))
    (st : Router Unit) (p : ℕ) : OwnActivity K busy st (react.loadingDone st p) :=
  .change .refl (allowed st p .FULL_STATE) sameLists_state

lemma badLinkStateRequest_activity {K : List LinkStateID → Router Unit → Action Unit → Prop}
    {busy : List LinkStateID} (allowed : ∀ st p state,
      K busy st (.change (st.setNeighbor p { st.neighborAt p with state := state })))
    (reset : ∀ st p, K busy st (.reset p)) (st : Router Unit) (p : ℕ) :
    OwnActivity K busy st (react.badLinkStateRequest st p) := by
  have first : OwnActivity K busy st (st.setNeighbor p (st.neighborAt p).reset) :=
    .reset p .refl (reset st p)
  have second := first.change (allowed _ p .EXCHANGE_START_STATE) sameLists_state
  have same : (st.setNeighbor p (st.neighborAt p).reset).setNeighbor p
      { (st.setNeighbor p (st.neighborAt p).reset).neighborAt p with
        state := .EXCHANGE_START_STATE } = react.badLinkStateRequest st p := by
    simp [react, Router.setNeighbor]
  rw [same] at second
  exact second

/-- A newer instance of an LSA of the database is flooded to the other neighbor, and taken off its
list at once. -/
theorem retransmissionList_replaced :
    (∀ p, ((router [⟨instanceOf 1, .FLOODED, 100⟩]).neighborAt p).linkStateRetransmissionList = [] ∧
      ((router [⟨instanceOf 1, .FLOODED, 100⟩]).neighborAt p).awaited = []) ∧
    ∃ st, Relation.ReflTransGen (Step fun _ _ _ => True) (router [⟨instanceOf 1, .FLOODED, 100⟩]) st ∧
      instanceOf 2 ∈ (st.neighborAt 1).awaited ∧
      instanceOf 2 ∉ (st.neighborAt 1).linkStateRetransmissionList := by
  refine ⟨fun _ => ⟨rfl, rfl⟩, (router [⟨instanceOf 1, .FLOODED, 100⟩]).processUpdate react 0
    (update 2), ?_, by decide, by decide⟩
  refine processUpdate_steps (fun _ _ => trivial) ?_ ?_
  · exact fun _ => loadingDone_activity fun _ _ _ => trivial
  · exact badLinkStateRequest_activity (fun _ _ _ => trivial) fun _ _ => trivial

lemma meets_state {busy : List LinkStateID} (st : Router Unit) (p : ℕ)
    (state : NeighborStateType) :
    Meets busy st (.change (st.setNeighbor p { st.neighborAt p with state := state })) :=
  ⟨trivial, fun _ _ => ⟨rfl, fun _ _ _ _ => Router.findLSA_setNeighbor⟩⟩

lemma findLSA_empty :
    (router []).findLSA (instanceOf 1).header.lsType (instanceOf 1).key 0 = none := by decide

lemma updateMeets_first : UpdateMeets (router []) 0 0 (instanceOf 1) where
  first := by
    intro _
    refine ⟨?_, ?_⟩
    · intro p x mem
      cases mem
    · intro external
      cases external
  newer := by
    intro stored found
    rw [findLSA_empty] at found
    cases found
  duplicate := by
    intro stored found
    rw [findLSA_empty] at found
    cases found

theorem retransmissionList_first :
    instanceOf 1 ∈ (((router []).processLSA react 0 0 (instanceOf 1)).1.neighborAt 1).awaited ∧
      (((router []).processLSA react 0 0 (instanceOf 1)).1.neighborAt 1).awaited ⊆
        (((router []).processLSA react 0 0 (instanceOf 1)).1.neighborAt
          1).linkStateRetransmissionList := by
  have step : Step Meets (router []) ((router []).processLSA react 0 0 (instanceOf 1)).1 := by
    refine .update react 0 0 (instanceOf 1) ⟨updateMeets_first, nofun⟩ ?_ ?_
    · exact loadingDone_activity meets_state
    · exact badLinkStateRequest_activity meets_state fun _ _ => ⟨trivial, nofun⟩
  exact ⟨by decide, retransmissionList_of_run (fun _ => ⟨rfl, rfl⟩) (.single step) 1⟩

end TwoNeighbors

end Inet.Ospf.Flooding
