import Inet.Ipv4.Fragmentation
import Inet.Lib.Collection

/-!
# The IPv4 fragment buffer

One reassembly buffer for each key, purged by the time of the last fragment. `Key::id` is a
`ushort`: identifications count modulo `2 ^ 16` only, and two datagrams can end up in one buffer
(`addFragment_mixes`).
-/

namespace Inet.Ipv4

variable {P : Type}

structure Key where
  id : ℕ
  src : IPv4Address
  dest : IPv4Address
  deriving DecidableEq

/-- The key under which `addFragment` looks for the buffer: the `int` identification is stored
in a `ushort`. -/
def IPv4Datagram.key (datagram : IPv4Datagram P) : Key where
  id := (datagram.identification % 65536).toNat
  src := datagram.srcAddress
  dest := datagram.destAddress

lemma PieceOf.key_eq {orig datagram : IPv4Datagram P} {src : IPv4Address} {n : ℕ}
    (piece : PieceOf orig src n datagram) :
    datagram.key = { orig with srcAddress := src }.key := by
  simp only [IPv4Datagram.key, piece.identification_eq, piece.srcAddress_eq, piece.destAddress_eq]

structure DatagramBuffer (P : Type) where
  buf : ReassemblyBuffer
  datagram : Option (IPv4Datagram P)
  lastupdate : ℤ

/-- What `bufs[key]` creates, with `datagram` set to `NULL`. -/
def DatagramBuffer.new : DatagramBuffer P := ⟨ReassemblyBuffer.new, none, 0⟩

/-- `std::map<Key, DatagramBuffer>`, by what it holds for each key. -/
structure IPv4FragBuf (P : Type) where
  bufs : Key → Option (DatagramBuffer P)

namespace IPv4FragBuf

def empty : IPv4FragBuf P := ⟨fun _ => none⟩

/-- Which datagram is kept: the first one, until one with an encapsulated packet comes. -/
def keepDatagram (stored : Option (IPv4Datagram P)) (datagram : IPv4Datagram P) :
    IPv4Datagram P :=
  match stored with
  | none => datagram
  | some kept =>
      if kept.encapsulatedPacket.isNone ∧ datagram.encapsulatedPacket.isSome then datagram
      else kept

/-- `IPv4FragBuf::addFragment`. The iterator `i` is the one `find` returned, so it is `end()`
when the buffer was created by this very call. -/
def addFragment (fragbuf : IPv4FragBuf P) (datagram : IPv4Datagram P) (now : ℤ) :
    Except SimError (IPv4FragBuf P × Option (IPv4Datagram P)) :=
  let i := fragbuf.bufs datagram.key
  let buf := i.getD DatagramBuffer.new
  let bytes := datagram.byteLength - datagram.headerLength
  let added := buf.buf.addFragment datagram.fragmentOffset (datagram.fragmentOffset + bytes)
    (!datagram.moreFragments)
  let kept := keepDatagram buf.datagram datagram
  if added.2 then
    if i.isNone then .error (.undefinedBehavior "bufs.erase(bufs.end())")
    else
      .ok (⟨Function.update fragbuf.bufs datagram.key none⟩,
        some { kept with
          byteLength := kept.headerLength + added.1.getTotalLength
          fragmentOffset := 0
          moreFragments := false })
  else
    .ok (⟨Function.update fragbuf.bufs datagram.key (some ⟨added.1, some kept, now⟩)⟩, none)

/-- `IPv4FragBuf::purgeStaleFragments`, without the ICMP message sent about each buffer
thrown out. -/
def purgeStaleFragments (fragbuf : IPv4FragBuf P) (lastupdate : ℤ) : IPv4FragBuf P where
  bufs key := (fragbuf.bufs key).filter fun buf => ¬ buf.lastupdate < lastupdate

inductive Event (P : Type) where
  | addFragment (datagram : IPv4Datagram P) (now : ℤ)
  | purgeStaleFragments (lastupdate : ℤ)

/-- One event: the buffer after it and the datagram returned. -/
def step (fragbuf : IPv4FragBuf P) :
    Event P → Except SimError (IPv4FragBuf P × Option (IPv4Datagram P))
  | .addFragment datagram now => fragbuf.addFragment datagram now
  | .purgeStaleFragments lastupdate => .ok (fragbuf.purgeStaleFragments lastupdate, none)

/-- The fragment an event gives to the buffer. -/
def Event.fragment? : Event P → Option (IPv4Datagram P)
  | .addFragment datagram _ => some datagram
  | .purgeStaleFragments _ => none

/-- The events considered for a datagram with these `leaves`, the last of which came at the time
given: a leaf, or a fragment of another key whose payload is at most 65535 bytes. A purge does not
apply to the leaves. -/
inductive Allowed (leaves : List (IPv4Datagram P)) : Option ℤ → Event P → Option ℤ → Prop
  | own {last : Option ℤ} {datagram : IPv4Datagram P} {now : ℤ} :
    datagram.isFragment → datagram ∈ leaves →
    Allowed leaves last (.addFragment datagram now) (some now)
  | other {last : Option ℤ} {datagram : IPv4Datagram P} {now : ℤ} :
    datagram.isFragment → datagram.region.end_ ≤ 65535 →
    (∀ leaf ∈ leaves, datagram.key ≠ leaf.key) →
    Allowed leaves last (.addFragment datagram now) last
  | purge {last : Option ℤ} {lastupdate : ℤ} :
    (∀ time ∈ last, lastupdate ≤ time) → Allowed leaves last (.purgeStaleFragments lastupdate) last

section

variable {fb fb' : IPv4FragBuf P} {datagram : IPv4Datagram P} {now : ℤ} {key : Key}
  {returned : Option (IPv4Datagram P)}

lemma addFragment_new_incomplete (fragment : datagram.isFragment)
    (small : datagram.region.end_ ≤ 65535) :
    (ReassemblyBuffer.new.addFragment datagram.region.beg datagram.region.end_
      datagram.region.islast).2 = false := by
  have begLe : datagram.region.beg ≤ datagram.region.end_ := Nat.le_add_right _ _
  simp only [ReassemblyBuffer.addFragment, toUshort_of_le small,
    toUshort_of_le (begLe.trans small), Bool.and_eq_false_iff, decide_eq_false_iff_not]
  refine .inr (ReassemblyBuffer.merge_new_islast ?_)
  intro first
  -- at offset 0 it has the more-fragments flag
  have more : datagram.moreFragments = true := by
    rcases fragment with offset | more
    · exact absurd first offset
    · exact more
  simp only [IPv4Datagram.region, more, Bool.not_true]

lemma addFragment_other (fragment : datagram.isFragment)
    (small : datagram.region.end_ ≤ 65535) (other : datagram.key ≠ key) :
    ∃ after returned, fb.addFragment datagram now = .ok (after, returned) ∧
      after.bufs key = fb.bufs key := by
  have incomplete := addFragment_new_incomplete fragment small
  simp only [addFragment]
  split_ifs with complete fresh
  · -- only a first fragment could run into the error, and it does not complete
    rw [Option.isNone_iff_eq_none] at fresh
    rw [fresh] at complete
    have complete : (ReassemblyBuffer.new.addFragment datagram.region.beg datagram.region.end_
      datagram.region.islast).2 = true := complete
    rw [incomplete] at complete
    cases complete
  · exact ⟨_, _, rfl, Function.update_of_ne other.symm _ _⟩
  · exact ⟨_, _, rfl, Function.update_of_ne other.symm _ _⟩

end

/-! ## Our own fragments -/

section

variable {orig datagram : IPv4Datagram P} {src : IPv4Address} {n : ℕ}
  {leaves : List (IPv4Datagram P)} {arrived : Set (IPv4Datagram P)} {fb : IPv4FragBuf P}
  {last : Option ℤ} {now : ℤ} {key : Key}

/-- The buffer under our key: there is none before the first fragment; then it holds what
arrived and one of the leaves. -/
inductive Holds (leaves : List (IPv4Datagram P)) (n : ℕ) (arrived : Set (IPv4Datagram P)) :
    Option ℤ → Option (DatagramBuffer P) → Prop
  | absent : arrived = ∅ → Holds leaves n arrived none none
  | present {buf : DatagramBuffer P} {stored : IPv4Datagram P} :
    Reassembling IPv4Datagram.region leaves n arrived buf.buf → buf.datagram = some stored →
    stored ∈ leaves → Holds leaves n arrived (some buf.lastupdate) (some buf)

lemma Holds.reassembling (holds : Holds leaves n arrived last (fb.bufs key))
    (frags : Fragments IPv4Datagram.region leaves n) :
    Reassembling IPv4Datagram.region leaves n arrived
      ((fb.bufs key).getD DatagramBuffer.new).buf := by
  generalize fb.bufs key = entry at holds
  cases holds with
  | absent nothing =>
    rw [nothing]
    exact Reassembling.new frags
  | present state _ _ => exact state

lemma Holds.purge (holds : Holds leaves n arrived last (fb.bufs key)) {lastupdate : ℤ}
    (fresh : ∀ time ∈ last, lastupdate ≤ time) :
    Holds leaves n arrived last ((fb.purgeStaleFragments lastupdate).bufs key) := by
  simp only [purgeStaleFragments]
  generalize fb.bufs key = entry at holds
  cases holds with
  | absent nothing => exact .absent nothing
  | @present buf _ state datagram mem =>
    have recent : lastupdate ≤ buf.lastupdate := fresh _ rfl
    rw [Option.filter_some, if_pos (by simpa using recent)]
    exact .present state datagram mem

lemma keepDatagram_mem {stored : Option (IPv4Datagram P)}
    (storedIn : ∀ kept, stored = some kept → kept ∈ leaves) (mem : datagram ∈ leaves) :
    keepDatagram stored datagram ∈ leaves := by
  cases stored with
  | none => exact mem
  | some kept =>
    simp only [keepDatagram]
    split
    · exact mem
    · exact storedIn kept rfl

lemma Holds.stored_mem (holds : Holds leaves n arrived last (fb.bufs key)) :
    ∀ kept, ((fb.bufs key).getD DatagramBuffer.new).datagram = some kept → kept ∈ leaves := by
  generalize fb.bufs key = entry at holds
  cases holds with
  | absent _ => exact fun _ eq => nomatch eq
  | present _ stored mem =>
    rintro kept eq
    rw [Option.getD_some, stored] at eq
    cases eq
    exact mem

lemma exists_other_leaf (frags : Fragments IPv4Datagram.region leaves n)
    (fragment : datagram.isFragment) (mem : datagram ∈ leaves) :
    ∃ leaf ∈ leaves, leaf ≠ datagram := by
  by_contra none
  simp only [not_exists, not_and, not_not] at none
  have all : ∀ m, (∀ leaf ∈ leaves, leaf.region.end_ ≤ m ∨ m ≤ leaf.region.beg) → m < n →
      datagram.region.beg = m := by
    intro m uncut lt
    obtain ⟨leaf, leafMem, eq⟩ := frags.tiles.exists_lo_eq uncut (Nat.zero_le m) lt
    rw [none leaf leafMem] at eq
    exact eq
  have nonempty : datagram.region.beg < datagram.region.end_ := frags.tiles.lo_lt_hi mem
  have first : datagram.region.beg = 0 := all 0 (fun _ _ => .inr (Nat.zero_le _)) frags.pos
  have whole : datagram.region.end_ = n := by
    by_contra short
    have le : datagram.region.end_ ≤ n := frags.tiles.hi_le mem
    have next := all datagram.region.end_
      (fun leaf leafMem => .inl (by rw [none leaf leafMem])) (by omega)
    omega
  rcases fragment with offset | more
  · exact offset first
  · have islast := (frags.islast_iff datagram mem).mpr whole
    simp only [IPv4Datagram.region, more, Bool.not_true, Bool.false_eq_true] at islast

/-- As long as a leaf is missing the buffer keeps what came; the last missing one makes
`addFragment` return the datagram. -/
lemma addFragment_own (holds : Holds leaves n arrived last (fb.bufs datagram.key))
    (pieces : PiecesOf orig src n 0 leaves n) (pos : 0 < n) (small : n ≤ 65535)
    (sub : arrived ⊆ {leaf | leaf ∈ leaves}) (fragment : datagram.isFragment)
    (mem : datagram ∈ leaves) :
    ∃ after returned, fb.addFragment datagram now = .ok (after, returned) ∧
      ((∃ leaf ∈ leaves, leaf ∉ insert datagram arrived) → returned = none ∧
          Holds leaves n (insert datagram arrived) (some now) (after.bufs datagram.key)) ∧
      ((∀ leaf ∈ leaves, leaf ∈ insert datagram arrived) →
        ∃ whole, returned = some whole ∧ whole.byteLength = orig.headerLength + n ∧
          whole.headerLength = orig.headerLength ∧ whole.fragmentOffset = 0 ∧
          whole.moreFragments = false ∧ whole.encapsulatedPacket = orig.encapsulatedPacket) := by
  have frags := pieces.frags pos
  obtain ⟨added, completeIff, total⟩ := (holds.reassembling frags).addFragment frags sub small mem
  have keptMem : keepDatagram _ datagram ∈ leaves := keepDatagram_mem holds.stored_mem mem
  have kept := pieces.piece _ keptMem
  simp only [addFragment]
  split_ifs with complete fresh
  · -- nothing has arrived yet, and the datagram has another leaf
    rw [Option.isNone_iff_eq_none] at fresh
    have nothing : arrived = ∅ := by
      generalize fb.bufs datagram.key = entry at holds fresh
      subst fresh
      cases holds with
      | absent nothing => exact nothing
    obtain ⟨leaf, leafMem, ne⟩ := exists_other_leaf frags fragment mem
    rcases completeIff.mp complete leaf leafMem with eq | here
    · exact absurd eq ne
    · rw [nothing] at here
      exact absurd here (Set.notMem_empty leaf)
  · have all := completeIff.mp complete
    refine ⟨_, _, rfl, ?_, ?_⟩
    · rintro ⟨leaf, leafMem, missing⟩
      exact absurd (all leaf leafMem) missing
    · intro _
      refine ⟨_, rfl, ?_, kept.headerLength_eq, rfl, rfl, kept.packet_eq⟩
      rw [← kept.headerLength_eq, ← total complete]
      rfl
  · refine ⟨_, _, rfl, ?_, ?_⟩
    · intro _
      refine ⟨rfl, ?_⟩
      dsimp only
      rw [Function.update_self]
      have entry := @Holds.present _ leaves n (insert datagram arrived)
        ⟨_, some (keepDatagram _ datagram), now⟩ _ added rfl keptMem
      exact entry
    · exact fun all => absurd (completeIff.mpr all) complete

end

/-! ## Runs up to completion -/

section

variable {orig datagram : IPv4Datagram P} {src : IPv4Address} {n : ℕ}
  {leaves : List (IPv4Datagram P)} {arrived : Set (IPv4Datagram P)} {fb : IPv4FragBuf P}
  {last : Option ℤ} {now : ℤ} {events : List (Event P)}

/-- The fragment buffer collects the leaves of a datagram. -/
lemma collector (pieces : PiecesOf orig src n 0 leaves n) (pos : 0 < n) (small : n ≤ 65535) :
    Collector step Event.fragment? leaves (Allowed leaves) (fun last arrived fb =>
      Holds leaves n arrived last (fb.bufs { orig with srcAddress := src }.key)) where
  own := by
    intro last last' arrived fb event leaf holds sub allow brings mem missing
    have key := (pieces.piece leaf mem).key_eq
    cases allow with
    | own fragment leafMem =>
      cases brings
      rw [← key] at holds ⊢
      obtain ⟨after, returned, added, incomplete, -⟩ :=
        addFragment_own holds pieces pos small sub fragment leafMem
      obtain ⟨rfl, holds⟩ := incomplete missing
      exact ⟨after, added, holds⟩
    | other _ _ other =>
      cases brings
      exact absurd rfl (other leaf mem)
    | purge _ => cases brings
  other := by
    intro last last' arrived fb event holds allow other
    cases allow with
    | own fragment leafMem => exact absurd leafMem (other _ rfl)
    | @other datagram now fragment fits otherKey =>
      obtain ⟨first, firstMem, -⟩ := (pieces.frags pos).tiles.exists_lo_eq
        (fun _ _ => .inr (Nat.zero_le _)) le_rfl pos
      have notKey : datagram.key ≠ { orig with srcAddress := src }.key := by
        rw [← (pieces.piece first firstMem).key_eq]
        exact otherKey first firstMem
      obtain ⟨after, returned, added, same⟩ :=
        @addFragment_other _ fb datagram now _ fragment fits notKey
      rw [← same] at holds
      exact ⟨after, returned, added, holds⟩
    | purge recent => exact ⟨_, none, rfl, holds.purge recent⟩

/-- Reassembly undoes fragmentation. Of the leaves of a journey, in any order, with duplicates and
among fragments of other keys, the last missing one makes `addFragment` return the datagram, and
none before it makes it return anything. -/
theorem addFragment_reassembles (whole : orig.fragmentOffset = 0)
    (lastFragment : orig.moreFragments = false) (header : orig.headerLength ≤ orig.byteLength)
    (small : orig.payloadLength ≤ 65535) (journey : Journey [orig] leaves)
    (fresh : ∀ leaf ∈ leaves, fb.bufs leaf.key = none)
    (allowed : AllowedRun (Allowed leaves) none events last)
    (pending : ∃ leaf ∈ leaves, leaf ∉ events.filterMap Event.fragment?)
    (fragment : datagram.isFragment) (mem : datagram ∈ leaves) :
    ∃ before returned after result, runAnswers step fb events = .ok (before, returned) ∧
      (∀ event answer leaf, (event, answer) ∈ events.zip returned →
        event.fragment? = some leaf → leaf ∈ leaves → answer = none) ∧
      before.addFragment datagram now = .ok (after, result) ∧
      ((∃ leaf ∈ leaves, leaf ∉ datagram :: events.filterMap Event.fragment?) → result = none) ∧
      ((∀ leaf ∈ leaves, leaf ∈ datagram :: events.filterMap Event.fragment?) →
        ∃ assembled, result = some assembled ∧ assembled.byteLength = orig.byteLength ∧
          assembled.headerLength = orig.headerLength ∧ assembled.fragmentOffset = 0 ∧
          assembled.moreFragments = false ∧
          assembled.encapsulatedPacket = orig.encapsulatedPacket) := by
  have pos : 0 < orig.payloadLength := by
    by_contra empty
    have notFragment : ∀ d ∈ [orig], ¬ d.isFragment ∧ d.payloadLength = 0 := by
      intro d dMem
      rw [List.mem_singleton.mp dMem]
      refine ⟨?_, by omega⟩
      rw [IPv4Datagram.isFragment, whole, lastFragment]
      simp
    exact journey.not_isFragment notFragment datagram mem fragment
  obtain ⟨src, pieces⟩ := journey.fragments whole lastFragment pos
  have key := (pieces.piece datagram mem).key_eq
  have start : Holds leaves orig.payloadLength ∅ none
      (fb.bufs { orig with srcAddress := src }.key) := by
    rw [← key, fresh datagram mem]
    exact .absent rfl
  obtain ⟨missing, missingMem, notArrived⟩ := pending
  obtain ⟨before, returned, ran, silent, holds⟩ :=
    (collector pieces pos small).run_pending start (Set.empty_subset _) allowed
      ⟨missing, missingMem, Set.notMem_empty _, notArrived⟩
  rw [← key] at holds
  obtain ⟨after, result, added, incomplete, complete⟩ :=
    @addFragment_own _ _ _ _ _ _ _ _ _ now holds pieces pos small (fun _ here => here.1) fragment mem
  refine ⟨before, returned, after, result, ran, silent, added, ?_, ?_⟩
  · rintro ⟨leaf, leafMem, absent⟩
    exact (incomplete ⟨leaf, leafMem, (mem_insert_collected leafMem).not.mpr absent⟩).1
  · intro all
    obtain ⟨assembled, eq, length, header', offset, more, packet⟩ :=
      complete fun leaf leafMem => (mem_insert_collected leafMem).mpr (all leaf leafMem)
    refine ⟨assembled, eq, ?_, header', offset, more, packet⟩
    rw [length, IPv4Datagram.payloadLength]
    omega

end

def sixteenBytes (identification : ℤ) : IPv4Datagram Unit where
  byteLength := 36
  headerLength := 20
  srcAddress := 1
  destAddress := 2
  timeToLive := 32
  identification := identification
  moreFragments := false
  dontFragment := false
  fragmentOffset := 0
  encapsulatedPacket := some ()

def narrowInterface : InterfaceEntry := ⟨1, 28, false, some ⟨1, 0, 1⟩⟩

/-- The two fragments that leave by `narrowInterface`. -/
def eightBytes (identification : ℤ) (second : Bool) : IPv4Datagram Unit :=
  { sixteenBytes identification with
    byteLength := 28
    timeToLive := 31
    moreFragments := !second
    fragmentOffset := if second then 8 else 0 }

theorem addFragment_reassembles_reversed :
    ∃ before returned after result,
      runAnswers step empty [.addFragment (eightBytes 7 true) 0] = .ok (before, returned) ∧
        (∀ event answer leaf, (event, answer) ∈
          [Event.addFragment (eightBytes 7 true) 0].zip returned → event.fragment? = some leaf →
            leaf ∈ [eightBytes 7 false, eightBytes 7 true] → answer = none) ∧
        before.addFragment (eightBytes 7 false) 1 = .ok (after, result) ∧
        ((∃ leaf ∈ [eightBytes 7 false, eightBytes 7 true],
          leaf ∉ [eightBytes 7 false, eightBytes 7 true]) → result = none) ∧
        ((∀ leaf ∈ [eightBytes 7 false, eightBytes 7 true],
          leaf ∈ [eightBytes 7 false, eightBytes 7 true]) →
            ∃ assembled, result = some assembled ∧ assembled.byteLength = 36 ∧
              assembled.headerLength = 20 ∧ assembled.fragmentOffset = 0 ∧
              assembled.moreFragments = false ∧ assembled.encapsulatedPacket = some ()) := by
  have journey : Journey [sixteenBytes 7] ([eightBytes 7 false, eightBytes 7 true] ++ []) :=
    @Journey.hop _ (sixteenBytes 7) [] _ _ _ narrowInterface (by decide) (by decide)
      (.arrived (.arrived .nil)) .nil
  have allowed : AllowedRun (Allowed [eightBytes 7 false, eightBytes 7 true]) none
      [.addFragment (eightBytes 7 true) 0] (some 0) :=
    .cons (.own (by decide) (by decide)) .nil
  exact @addFragment_reassembles _ (sixteenBytes 7) (eightBytes 7 false) _ empty (some 0) 1
    [.addFragment (eightBytes 7 true) 0] rfl rfl (by decide) (by decide) journey
    (fun _ _ => rfl) allowed ⟨eightBytes 7 false, by decide, by decide⟩ (by decide) (by decide)

/-- Fragments of two datagrams whose identifications are `2 ^ 16` apart make a datagram that neither
of them is. -/
theorem addFragment_mixes :
    fragmentAndSend (sixteenBytes 0) narrowInterface =
        .ok (.sent [eightBytes 0 false, eightBytes 0 true]) ∧
      fragmentAndSend (sixteenBytes 65536) narrowInterface =
        .ok (.sent [eightBytes 65536 false, eightBytes 65536 true]) ∧
      ∃ after assembled, runAnswers step empty
            [.addFragment (eightBytes 0 false) 0, .addFragment (eightBytes 65536 true) 0] =
          .ok (after, [none, some assembled]) ∧
        assembled.identification = 0 ∧ assembled.byteLength = 36 :=
  ⟨by decide, by decide, _, _, rfl, rfl, rfl⟩

end IPv4FragBuf

end Inet.Ipv4
