import Inet.Sctp.Receiver
import Mathlib

/-!
# What the queues of a stream hold

Every chunk is queued under its own TSN, and no TSN is in two queues. The operations of a stream add
only what arrives.
-/

namespace Inet.Sctp

open Receiver SCTPQueue Set Inet.Except

variable {q q' : SCTPQueue} {chunk dc : SCTPDataVariables} {K K' : Set UInt32} {tsn key : UInt32}

/-! ## One queue -/

/-- The chunks are under their TSNs, which are in the set, and count as single fragments. -/
def Files (queue : SCTPQueue) (K : Set UInt32) : Prop :=
  ∀ e ∈ queue, e.2.tsn = e.1 ∧ e.2.fragments = 1 ∧ e.1 ∈ K

namespace Files

lemma empty : Files .empty K := nofun

variable (files : Files q K)
include files

lemma mono (subset : K ⊆ K') : Files q K' := by
  intro e mem
  obtain ⟨same, single, inK⟩ := files e mem
  exact ⟨same, single, subset inK⟩

lemma erase (key : UInt32) : Files (q.erase key) (K \ {key}) := by
  intro e mem
  obtain ⟨mem, ne⟩ := OrderedMap.mem_erase.mp mem
  obtain ⟨same, single, inK⟩ := files e mem
  exact ⟨same, single, inK, ne⟩

lemma put (key : UInt32) (chunk : SCTPDataVariables) (same : chunk.tsn = key)
    (single : chunk.fragments = 1) : Files (q.put key chunk) (insert key K) := by
  intro e mem
  rcases OrderedMap.mem_put.mp mem with rfl | ⟨mem, -⟩
  · exact ⟨same, single, .inl rfl⟩
  · obtain ⟨same, single, inK⟩ := files e mem
    exact ⟨same, single, .inr inK⟩

lemma checkAndInsert (key : UInt32) (chunk : SCTPDataVariables) (same : chunk.tsn = key)
    (single : chunk.fragments = 1) : Files (q.checkAndInsertChunk key chunk).2 (insert key K) := by
  rw [checkAndInsertChunk]
  split_ifs
  · exact files.mono (subset_insert _ _)
  · exact files.put key chunk same single

lemma keys : Files q {key | ∃ e ∈ q, e.1 = key} := by
  intro e mem
  obtain ⟨same, single, -⟩ := files e mem
  exact ⟨same, single, e, mem, rfl⟩

lemma keys_subset : {key | ∃ e ∈ q, e.1 = key} ⊆ K := by
  rintro key ⟨e, mem, rfl⟩
  exact (files e mem).2.2

lemma get (found : q.get? key = some chunk) : chunk.tsn = key ∧ chunk.fragments = 1 ∧ key ∈ K :=
  files _ (OrderedMap.get?_eq_some.mp found)

end Files

lemma addFragment_ok {firstVar processVar firstVar' : SCTPDataVariables}
    (ok : addFragment firstVar processVar = .ok firstVar') :
    firstVar'.tsn = firstVar.tsn ∧ firstVar'.fragments = firstVar.fragments := by
  obtain ⟨userData, -, rest⟩ := bind_eq_ok ok
  cases rest
  exact ⟨rfl, rfl⟩

lemma getAndExtractChunk_some (ok : getAndExtractChunk q key = .ok (some (chunk, q'))) :
    q.get? key = some chunk ∧ q' = q.erase key := by
  rw [getAndExtractChunk] at ok
  split_ifs at ok with empty
  · cases ok
  · cases found : q.get? key with
    | none =>
      rw [found] at ok
      cases ok
    | some c =>
      rw [found] at ok
      cases ok
      exact ⟨rfl, rfl⟩

lemma Files.addFragments {endtsn begintsn : UInt32} {firstVar firstVar' : SCTPDataVariables}
    {rounds : ℕ} (files : Files q K)
    (ok : SCTPQueue.addFragments endtsn rounds begintsn firstVar q = .ok (firstVar', q')) :
    Files q' K ∧ firstVar'.tsn = firstVar.tsn ∧ firstVar'.fragments = firstVar.fragments := by
  induction rounds generalizing begintsn firstVar q with
  | zero =>
    rw [SCTPQueue.addFragments] at ok
    split_ifs at ok
    cases ok
    exact ⟨files, rfl, rfl⟩
  | succ rounds ih =>
    rw [SCTPQueue.addFragments] at ok
    split_ifs at ok with more
    · obtain ⟨extracted, found, rest⟩ := bind_eq_ok ok
      cases extracted with
      | none => cases rest
      | some pair =>
        obtain ⟨processVar, rest'⟩ := pair
        obtain ⟨added, ok', rest⟩ := bind_eq_ok rest
        obtain ⟨-, rfl⟩ := getAndExtractChunk_some found
        obtain ⟨sameTsn, sameFragments⟩ := addFragment_ok ok'
        obtain ⟨files', sameTsn', sameFragments'⟩ := ih ((files.erase _).mono sdiff_subset) rest
        exact ⟨files', sameTsn'.trans sameTsn, sameFragments'.trans sameFragments⟩
    · cases ok
      exact ⟨files, rfl, rfl⟩

lemma Files.reassemble (files : Files q K) (ok : q.reassemble tsn = .ok (key, q')) :
    Files q' K := by
  rw [SCTPQueue.reassemble] at ok
  dsimp only at ok
  cases first : q.getChunk (q.walkDown q.size tsn) with
  | none =>
    rw [first] at ok
    cases ok
    exact files
  | some firstVar =>
    rw [first] at ok
    cases last : q.getChunk (q.walkUp q.size (q.walkDown q.size tsn)) with
    | none =>
      rw [last] at ok
      cases ok
      exact files
    | some lastVar =>
      rw [last] at ok
      obtain ⟨⟨firstVar', rest'⟩, ok', rest⟩ := bind_eq_ok ok
      cases rest
      obtain ⟨same, single, inK⟩ := files.get first
      obtain ⟨files', sameTsn, sameFragments⟩ := files.addFragments ok'
      have put := files'.put (q.walkDown q.size tsn) { firstVar' with ebit := true }
        (sameTsn.trans same) (sameFragments.trans single)
      rwa [insert_eq_of_mem inK] at put

/-! ## The queues of a stream -/

/-- The TSNs in the three queues. -/
structure Filed (rStream : SCTPReceiveStream) (ordered unordered delivery : Set UInt32) : Prop where
  orderedQ : Files rStream.orderedQ ordered
  unorderedQ : Files rStream.unorderedQ unordered
  deliveryQ : Files rStream.deliveryQ delivery
  ordered_unordered : Disjoint ordered unordered
  ordered_delivery : Disjoint ordered delivery
  unordered_delivery : Disjoint unordered delivery

/-- The TSNs in the queues of the stream. -/
def SCTPReceiveStream.keys (rStream : SCTPReceiveStream) : Set UInt32 :=
  {key | ∃ name, ∃ e ∈ rStream.queue name, e.1 = key}

/-- The TSNs in the queues of the stream are in the set, and none is in two queues. -/
def Holds (rStream : SCTPReceiveStream) (K : Set UInt32) : Prop :=
  ∃ ordered unordered delivery, Filed rStream ordered unordered delivery ∧
    ordered ∪ unordered ∪ delivery ⊆ K

variable {rs rs' : SCTPReceiveStream} {ordered unordered delivery : Set UInt32}

namespace Filed

variable (filed : Filed rs ordered unordered delivery)

include filed

lemma moveOrdered (inOrdered : key ∈ ordered) (same : chunk.tsn = key)
    (single : chunk.fragments = 1) (expected : ℤ) :
    Filed ⟨expected, (rs.deliveryQ.checkAndInsertChunk key chunk).2,
      rs.orderedQ.erase key, rs.unorderedQ⟩ (ordered \ {key}) unordered (insert key delivery) where
  orderedQ := filed.orderedQ.erase key
  unorderedQ := filed.unorderedQ
  deliveryQ := filed.deliveryQ.checkAndInsert _ _ same single
  ordered_unordered := filed.ordered_unordered.mono_left sdiff_subset
  ordered_delivery := disjoint_insert_right.mpr
    ⟨fun mem => mem.2 rfl, filed.ordered_delivery.mono_left sdiff_subset⟩
  unordered_delivery := disjoint_insert_right.mpr
    ⟨fun mem => disjoint_left.mp filed.ordered_unordered inOrdered mem,
      filed.unordered_delivery⟩

lemma dequeueExpected {inserted : Bool}
    (moves : rs.dequeueExpected = some (chunk, inserted, rs')) :
    ∃ key ∈ ordered, Filed rs' (ordered \ {key}) unordered (insert key delivery) := by
  rw [SCTPReceiveStream.dequeueExpected, Option.map_eq_some_iff] at moves
  obtain ⟨⟨c, orderedQ⟩, found, eq⟩ := moves
  rw [dequeueChunkBySSN, Option.map_eq_some_iff] at found
  obtain ⟨⟨key, c'⟩, found, eq'⟩ := found
  cases eq'
  obtain ⟨same, single, inK⟩ := filed.orderedQ _ (OrderedMap.find?_eq_some.mp found).1
  refine ⟨key, inK, ?_⟩
  cases eq
  rw [same]
  split_ifs
  · exact filed.moveOrdered inK same single _
  · exact filed.moveOrdered inK same single _

end Filed

namespace Holds

variable (holds : Holds rs K)
include holds

lemma mono (subset : K ⊆ K') : Holds rs K' := by
  obtain ⟨ordered, unordered, delivery, filed, within⟩ := holds
  exact ⟨ordered, unordered, delivery, filed, within.trans subset⟩

lemma keys_subset : rs.keys ⊆ K := by
  obtain ⟨ordered, unordered, delivery, filed, within⟩ := holds
  rintro key ⟨name, e, mem, rfl⟩
  cases name with
  | ordered => exact within (.inl (.inl (filed.orderedQ e mem).2.2))
  | unordered => exact within (.inl (.inr (filed.unorderedQ e mem).2.2))
  | delivery => exact within (.inr (filed.deliveryQ e mem).2.2)

lemma keys : Holds rs rs.keys := by
  obtain ⟨ordered, unordered, delivery, filed, -⟩ := holds
  refine ⟨_, _, _, ⟨filed.orderedQ.keys, filed.unorderedQ.keys, filed.deliveryQ.keys,
    filed.ordered_unordered.mono filed.orderedQ.keys_subset filed.unorderedQ.keys_subset,
    filed.ordered_delivery.mono filed.orderedQ.keys_subset filed.deliveryQ.keys_subset,
    filed.unordered_delivery.mono filed.unorderedQ.keys_subset filed.deliveryQ.keys_subset⟩, ?_⟩
  rintro key ((⟨e, mem, eq⟩ | ⟨e, mem, eq⟩) | ⟨e, mem, eq⟩)
  · exact ⟨.ordered, e, mem, eq⟩
  · exact ⟨.unordered, e, mem, eq⟩
  · exact ⟨.delivery, e, mem, eq⟩

omit holds in
lemma init : Holds .init K :=
  ⟨∅, ∅, ∅, ⟨.empty, .empty, .empty, empty_disjoint _, empty_disjoint _, empty_disjoint _⟩, by simp⟩

lemma setExpected (expected : ℤ) : Holds { rs with expectedStreamSeqNum := expected } K := by
  obtain ⟨ordered, unordered, delivery, filed, within⟩ := holds
  exact ⟨ordered, unordered, delivery, { filed with }, within⟩

lemma dequeueExpected {inserted : Bool}
    (moves : rs.dequeueExpected = some (chunk, inserted, rs')) : Holds rs' K := by
  obtain ⟨ordered, unordered, delivery, filed, within⟩ := holds
  obtain ⟨key, inOrdered, filed'⟩ := filed.dequeueExpected moves
  refine ⟨_, _, _, filed', Set.Subset.trans ?_ within⟩
  rintro k ((mem | mem) | rfl | mem)
  · exact .inl (.inl mem.1)
  · exact .inl (.inr mem)
  · exact .inl (.inl inOrdered)
  · exact .inr mem

lemma insertOrdered (new : dc.tsn ∉ K) (single : dc.fragments = 1) {ret : ℕ}
    {orderedQ : SCTPQueue} (ok : rs.insertOrdered dc = .ok (ret, orderedQ)) :
    Holds { rs with orderedQ := orderedQ } (insert dc.tsn K) := by
  obtain ⟨ordered, unordered, delivery, filed, within⟩ := holds
  have outside : dc.tsn ∉ ordered ∪ unordered ∪ delivery := fun mem => new (within mem)
  have files : Files orderedQ (insert dc.tsn ordered) := by
    have inserted := filed.orderedQ.checkAndInsert dc.tsn dc rfl single
    rw [SCTPReceiveStream.insertOrdered] at ok
    dsimp only at ok
    by_cases fragment : ¬ dc.bbit ∨ ¬ dc.ebit
    · rw [if_pos fragment] at ok
      obtain ⟨⟨key, orderedQ'⟩, joined, rest⟩ := bind_eq_ok ok
      cases rest
      exact inserted.reassemble joined
    · rw [if_neg fragment] at ok
      cases ok
      exact inserted
  refine ⟨_, _, _, ⟨files, filed.unorderedQ, filed.deliveryQ,
    disjoint_insert_left.mpr ⟨fun mem => outside (.inl (.inr mem)), filed.ordered_unordered⟩,
    disjoint_insert_left.mpr ⟨fun mem => outside (.inr mem), filed.ordered_delivery⟩,
    filed.unordered_delivery⟩, ?_⟩
  rw [insert_union, insert_union]
  exact insert_subset_insert within

lemma enqueueUnordered (new : dc.tsn ∉ K) (single : dc.fragments = 1) {ret : ℕ}
    (ok : rs.enqueueUnordered dc = .ok (ret, rs')) : Holds rs' (insert dc.tsn K) := by
  obtain ⟨ordered, unordered, delivery, filed, within⟩ := holds
  have outside : dc.tsn ∉ ordered ∪ unordered ∪ delivery := fun mem => new (within mem)
  rw [SCTPReceiveStream.enqueueUnordered] at ok
  split_ifs at ok with whole
  · cases ok
    refine ⟨ordered, unordered, insert dc.tsn delivery, ⟨filed.orderedQ, filed.unorderedQ,
      filed.deliveryQ.checkAndInsert _ _ rfl single, filed.ordered_unordered, ?_, ?_⟩, ?_⟩
    · exact disjoint_insert_right.mpr ⟨fun mem => outside (.inl (.inl mem)), filed.ordered_delivery⟩
    · exact disjoint_insert_right.mpr
        ⟨fun mem => outside (.inl (.inr mem)), filed.unordered_delivery⟩
    · rw [union_insert]
      exact insert_subset_insert within
  · obtain ⟨⟨key, unorderedQ⟩, joined, rest⟩ := bind_eq_ok ok
    have files : Files unorderedQ (insert dc.tsn unordered) :=
      (filed.unorderedQ.checkAndInsert dc.tsn dc rfl single).reassemble joined
    have apart : Disjoint ordered (insert dc.tsn unordered) := disjoint_insert_right.mpr
      ⟨fun mem => outside (.inl (.inl mem)), filed.ordered_unordered⟩
    have apart' : Disjoint (insert dc.tsn unordered) delivery := disjoint_insert_left.mpr
      ⟨fun mem => outside (.inr mem), filed.unordered_delivery⟩
    have within' : ordered ∪ insert dc.tsn unordered ∪ delivery ⊆ insert dc.tsn K := by
      rw [union_insert, insert_union]
      exact insert_subset_insert within
    dsimp only at rest
    cases found : unorderedQ.getChunk key with
    | none =>
      rw [found] at rest
      cases rest
    | some chunk =>
      rw [found] at rest
      dsimp only at rest
      obtain ⟨same, single', inK⟩ := files.get found
      by_cases begins : chunk.bbit
      · rw [if_pos begins] at rest
        cases rest
        refine ⟨ordered, insert dc.tsn unordered \ {key}, insert key delivery,
          ⟨filed.orderedQ, files.erase key, filed.deliveryQ.checkAndInsert _ _ same single',
            apart.mono_right sdiff_subset, ?_, ?_⟩, Set.Subset.trans ?_ within'⟩
        · exact disjoint_insert_right.mpr
            ⟨fun mem => disjoint_left.mp apart mem inK, filed.ordered_delivery⟩
        · exact disjoint_insert_right.mpr ⟨fun mem => mem.2 rfl, apart'.mono_left sdiff_subset⟩
        · rintro k ((mem | mem) | rfl | mem)
          · exact .inl (.inl mem)
          · exact .inl (.inr mem.1)
          · exact .inl (.inr inK)
          · exact .inr mem
      · rw [if_neg begins] at rest
        cases rest
        exact ⟨ordered, insert dc.tsn unordered, delivery,
          ⟨filed.orderedQ, files, filed.deliveryQ, apart, filed.ordered_delivery, apart'⟩, within'⟩

lemma enqueue (new : dc.tsn ∉ K) (single : dc.fragments = 1) {ret : ℕ}
    (ok : rs.enqueueNewDataChunk dc = .ok (ret, rs')) : Holds rs' (insert dc.tsn K) := by
  rw [SCTPReceiveStream.enqueueNewDataChunk] at ok
  split_ifs at ok with isOrdered
  · obtain ⟨⟨delivery, orderedQ⟩, ok', rest⟩ := bind_eq_ok ok
    have inserted := holds.insertOrdered new single ok'
    dsimp only at rest
    cases moves : SCTPReceiveStream.dequeueExpected { rs with orderedQ := orderedQ } with
    | none =>
      rw [moves] at rest
      cases rest
      exact inserted
    | some moved =>
      rw [moves] at rest
      cases rest
      exact inserted.dequeueExpected moves
  · exact holds.enqueueUnordered new single ok

lemma drop {name : QueueName} (found : (rs.queue name).getChunk key = some chunk) :
    key ∈ K ∧ Holds (rs.setQueue name ((rs.queue name).erase key)) (K \ {key}) := by
  obtain ⟨ordered, unordered, delivery, filed, within⟩ := holds
  cases name with
  | ordered =>
    have inK := (filed.orderedQ.get found).2.2
    have notUnordered := disjoint_left.mp filed.ordered_unordered inK
    have notDelivery := disjoint_left.mp filed.ordered_delivery inK
    refine ⟨within (.inl (.inl inK)), ordered \ {key}, unordered, delivery,
      ⟨filed.orderedQ.erase key, filed.unorderedQ, filed.deliveryQ,
        filed.ordered_unordered.mono_left sdiff_subset,
        filed.ordered_delivery.mono_left sdiff_subset, filed.unordered_delivery⟩, ?_⟩
    rintro k ((mem | mem) | mem)
    · exact ⟨within (.inl (.inl mem.1)), mem.2⟩
    · exact ⟨within (.inl (.inr mem)), fun eq => notUnordered (eq ▸ mem)⟩
    · exact ⟨within (.inr mem), fun eq => notDelivery (eq ▸ mem)⟩
  | unordered =>
    have inK := (filed.unorderedQ.get found).2.2
    have notOrdered := disjoint_right.mp filed.ordered_unordered inK
    have notDelivery := disjoint_left.mp filed.unordered_delivery inK
    refine ⟨within (.inl (.inr inK)), ordered, unordered \ {key}, delivery,
      ⟨filed.orderedQ, filed.unorderedQ.erase key, filed.deliveryQ,
        filed.ordered_unordered.mono_right sdiff_subset, filed.ordered_delivery,
        filed.unordered_delivery.mono_left sdiff_subset⟩, ?_⟩
    rintro k ((mem | mem) | mem)
    · exact ⟨within (.inl (.inl mem)), fun eq => notOrdered (eq ▸ mem)⟩
    · exact ⟨within (.inl (.inr mem.1)), mem.2⟩
    · exact ⟨within (.inr mem), fun eq => notDelivery (eq ▸ mem)⟩
  | delivery =>
    have inK := (filed.deliveryQ.get found).2.2
    have notOrdered := disjoint_right.mp filed.ordered_delivery inK
    have notUnordered := disjoint_right.mp filed.unordered_delivery inK
    refine ⟨within (.inr inK), ordered, unordered, delivery \ {key},
      ⟨filed.orderedQ, filed.unorderedQ, filed.deliveryQ.erase key, filed.ordered_unordered,
        filed.ordered_delivery.mono_right sdiff_subset,
        filed.unordered_delivery.mono_right sdiff_subset⟩, ?_⟩
    rintro k ((mem | mem) | mem)
    · exact ⟨within (.inl (.inl mem)), fun eq => notOrdered (eq ▸ mem)⟩
    · exact ⟨within (.inl (.inr mem)), fun eq => notUnordered (eq ▸ mem)⟩
    · exact ⟨within (.inr mem.1), mem.2⟩

lemma extractMessage {deliveryQ : SCTPQueue}
    (taken : SCTPQueue.extractMessage rs.deliveryQ = some (chunk, deliveryQ)) :
    chunk.tsn ∈ K ∧ chunk.fragments = 1 ∧
      Holds { rs with deliveryQ := deliveryQ } (K \ {chunk.tsn}) := by
  rw [SCTPQueue.extractMessage, Option.map_eq_some_iff] at taken
  obtain ⟨⟨key, c⟩, found, eq⟩ := taken
  cases eq
  have mem := (OrderedMap.first?_eq_some.mp found).1
  obtain ⟨same, single⟩ : key = chunk.tsn ∧ chunk.fragments = 1 := by
    obtain ⟨ordered, unordered, delivery, filed, -⟩ := holds
    obtain ⟨same, single, -⟩ := filed.deliveryQ _ mem
    exact ⟨same.symm, single⟩
  subst same
  have inQueue : (rs.queue .delivery).getChunk chunk.tsn = some chunk :=
    OrderedMap.get?_eq_some.mpr mem
  obtain ⟨inK, dropped⟩ := holds.drop inQueue
  exact ⟨inK, single, dropped⟩

end Holds

end Inet.Sctp
