import Inet.Ipv6.Fragmentation
import Inet.Lib.Collection

/-!
# The IPv6 fragment buffer

`IPv6FragBuf` derives the range of a fragment from its byte length and headers, keeps the fragment
at offset 0, and takes the fragment header off it in the end.
-/

namespace Inet.Ipv6

open Option

variable {P : Type}

structure Key where
  id : ℕ
  src : IPv6Address
  dest : IPv6Address
  deriving DecidableEq

def IPv6Datagram.key (datagram : IPv6Datagram P) (fh : IPv6FragmentHeader) : Key :=
  ⟨fh.identification, datagram.srcAddress, datagram.destAddress⟩

structure DatagramBuffer (P : Type) where
  buf : ReassemblyBuffer
  datagram : Option (IPv6Datagram P)
  createdAt : ℤ

/-- A buffer created for the first fragment of a datagram. -/
def DatagramBuffer.new (now : ℤ) : DatagramBuffer P := ⟨ReassemblyBuffer.new, none, now⟩

/-- `std::map<Key, DatagramBuffer>`, by what it holds for each key. -/
structure IPv6FragBuf (P : Type) where
  bufs : Key → Option (DatagramBuffer P)

namespace IPv6FragBuf

def empty : IPv6FragBuf P := ⟨fun _ => none⟩

/-- What a complete buffer returns: the first fragment without its fragment header. -/
def assembled (ret : IPv6Datagram P) (totalLength : ℕ) : IPv6Datagram P :=
  let ret := ret.removeFragmentHeader
  { ret with byteLength := ret.calculateUnfragmentableHeaderByteLength + totalLength }

/-- `addFragment` after the two checks; `i` is what `find` returned. The sum of offset and length is
an `unsigned short`. -/
def addRange (fragbuf : IPv6FragBuf P) (datagram : IPv6Datagram P) (fh : IPv6FragmentHeader)
    (now : ℤ) (fragmentLength : ℤ) : Except SimError (IPv6FragBuf P × Option (IPv6Datagram P)) :=
  let key := datagram.key fh
  let i := fragbuf.bufs key
  let buf := i.getD (DatagramBuffer.new now)
  let added := buf.buf.addFragment fh.fragmentOffset
    ((fh.fragmentOffset + fragmentLength) % 65536).toNat (!fh.moreFragments)
  let stored := if fh.fragmentOffset = 0 then some datagram else buf.datagram
  if added.2 then
    match stored with
    | none => .error (.assertion "ret")
    | some ret =>
        if i.isNone then .error (.undefinedBehavior "bufs.erase(bufs.end())")
        else .ok (⟨Function.update fragbuf.bufs key none⟩,
          some (assembled ret added.1.getTotalLength))
  else
    .ok (⟨Function.update fragbuf.bufs key
      (some { buf with buf := added.1, datagram := stored })⟩, none)

/-- `IPv6FragBuf::addFragment`, without the ICMP message sent about a fragment it discards. -/
def addFragment (fragbuf : IPv6FragBuf P) (datagram : IPv6Datagram P) (fh : IPv6FragmentHeader)
    (now : ℤ) : Except SimError (IPv6FragBuf P × Option (IPv6Datagram P)) :=
  let key := datagram.key fh
  let created : IPv6FragBuf P := ⟨Function.update fragbuf.bufs key
    (some ((fragbuf.bufs key).getD (DatagramBuffer.new now)))⟩
  match datagram.calculateFragmentLength with
  | .error e => .error e
  | .ok fragmentLength =>
      if fh.moreFragments ∧ fragmentLength % 8 ≠ 0 then .ok (created, none)
      else if fh.fragmentOffset + fragmentLength > 65535 then .ok (created, none)
      else fragbuf.addRange datagram fh now fragmentLength

/-- `IPv6FragBuf::purgeStaleFragments`, without the ICMP messages. -/
def purgeStaleFragments (fragbuf : IPv6FragBuf P) (lastupdate : ℤ) : IPv6FragBuf P where
  bufs key := (fragbuf.bufs key).filter fun buf => ¬ buf.createdAt < lastupdate

inductive Event (P : Type) where
  /-- `localDeliver` hands on a datagram in which it found the fragment header `fh`. -/
  | addFragment (datagram : IPv6Datagram P) (fh : IPv6FragmentHeader) (now : ℤ)
  | purgeStaleFragments (lastupdate : ℤ)

def step (fragbuf : IPv6FragBuf P) :
    Event P → Except SimError (IPv6FragBuf P × Option (IPv6Datagram P))
  | .addFragment datagram fh now => fragbuf.addFragment datagram fh now
  | .purgeStaleFragments lastupdate => .ok (fragbuf.purgeStaleFragments lastupdate, none)

def Event.fragment? : Event P → Option (IPv6Datagram P)
  | .addFragment datagram _ _ => some datagram
  | .purgeStaleFragments _ => none

/-- A fragment header as `fragmentAndSend` makes them: no fragment is the first and the last, and
the offset is an `unsigned short`. -/
structure Proper (datagram : IPv6Datagram P) (fh : IPv6FragmentHeader) : Prop where
  found : datagram.findFragmentHeader = some fh
  several : fh.fragmentOffset ≠ 0 ∨ fh.moreFragments = true
  small : fh.fragmentOffset ≤ 65535

/-- The events considered for a datagram with these fragments, for which a buffer was created at the
time given: a fragment of it, or one of another identification, source or destination. A purge does
not apply to the buffer. -/
inductive Allowed (frags : List (IPv6Datagram P)) : Option ℤ → Event P → Option ℤ → Prop
  | own {created : Option ℤ} {datagram : IPv6Datagram P} {fh : IPv6FragmentHeader} {now : ℤ} :
    Proper datagram fh → datagram ∈ frags →
    Allowed frags created (.addFragment datagram fh now) (some (created.getD now))
  | other {created : Option ℤ} {datagram : IPv6Datagram P} {fh : IPv6FragmentHeader} {now : ℤ} :
    Proper datagram fh →
    (∀ frag ∈ frags, ∀ fh', frag.findFragmentHeader = some fh' → datagram.key fh ≠ frag.key fh') →
    Allowed frags created (.addFragment datagram fh now) created
  | purge {created : Option ℤ} {lastupdate : ℤ} :
    (∀ time ∈ created, lastupdate ≤ time) →
    Allowed frags created (.purgeStaleFragments lastupdate) created

/-! ## What every buffer satisfies -/

/-- Nothing that starts at offset 0 has come. -/
structure NoStart (buf : ReassemblyBuffer) : Prop where
  end_eq : buf.main.end_ = 0
  islast_eq : buf.main.islast = false
  beg_ne : ∀ frag ∈ buf.fragments, frag.beg ≠ 0

/-- Every buffer holds the fragment at offset 0 or has seen nothing at offset 0. -/
def Sound (fragbuf : IPv6FragBuf P) : Prop :=
  ∀ key buf, fragbuf.bufs key = some buf → buf.datagram.isSome = true ∨ NoStart buf.buf

lemma Sound.empty : Sound (empty : IPv6FragBuf P) := nofun

section

variable {fb after : IPv6FragBuf P} {dg : IPv6Datagram P} {fh : IPv6FragmentHeader}
  {now lastupdate : ℤ} {key : Key} {buf : ReassemblyBuffer}

lemma NoStart.new : NoStart ReassemblyBuffer.new := ⟨rfl, rfl, nofun⟩

lemma NoStart.mergeFragments (noStart : NoStart buf) : NoStart buf.mergeFragments := by
  have step : ∀ main main' pre frag post, ReassemblyBuffer.absorb main frag = some main' →
      NoStart ⟨main, pre ++ frag :: post⟩ → NoStart ⟨main', pre ++ post⟩ := by
    rintro main main' pre frag post absorbed ⟨endEq, islastEq, begNe⟩
    have fragNe : frag.beg ≠ 0 := begNe frag (by simp)
    have rest : ∀ other ∈ pre ++ post, other.beg ≠ 0 := by
      intro other mem
      refine begNe other ?_
      simp only [List.mem_append, List.mem_cons] at mem ⊢
      tauto
    simp only [ReassemblyBuffer.absorb] at absorbed
    split_ifs at absorbed with follows precedes inside <;> cases absorbed
    · exact absurd (follows.symm.trans endEq) fragNe
    · exact ⟨endEq, islastEq, rest⟩
    · exact ⟨endEq, islastEq, rest⟩
  exact (@ReassemblyBuffer.mergeLoop_invariant (fun main fragments => NoStart ⟨main, fragments⟩)
    step _ buf.main buf.fragments (Nat.lt_succ_self _) noStart).1

lemma NoStart.addFragment (noStart : NoStart buf) {beg end_ : ℕ} {islast : Bool}
    (ne : beg ≠ 0) (small : beg ≤ 65535) :
    NoStart (buf.addFragment beg end_ islast).1 ∧ (buf.addFragment beg end_ islast).2 = false := by
  have merged : NoStart (buf.merge (toUshort beg) (toUshort end_) islast) := by
    rw [toUshort_of_le small, ReassemblyBuffer.merge]
    split_ifs with follows precedes disjoint
    · exact absurd (follows.symm.trans noStart.end_eq) ne
    · exact NoStart.mergeFragments ⟨noStart.end_eq, noStart.islast_eq, noStart.beg_ne⟩
    · refine ⟨noStart.end_eq, noStart.islast_eq, ?_⟩
      intro frag mem
      rcases List.mem_append.mp mem with mem | mem
      · exact noStart.beg_ne frag mem
      · rw [List.mem_singleton.mp mem]
        exact ne
    · exact noStart
  refine ⟨merged, ?_⟩
  rw [ReassemblyBuffer.addFragment]
  simp only [merged.islast_eq, Bool.and_false]

lemma addFragment_sound (sound : Sound fb) (proper : Proper dg fh) :
    ∃ after returned, fb.addFragment dg fh now = .ok (after, returned) ∧ Sound after ∧
      ∀ key, key ≠ dg.key fh → after.bufs key = fb.bufs key := by
  obtain ⟨len, length⟩ := calculateFragmentLength_ok proper.found
  have keptOrNoStart : ((fb.bufs (dg.key fh)).getD
        (DatagramBuffer.new now)).datagram.isSome = true ∨
      NoStart ((fb.bufs (dg.key fh)).getD (DatagramBuffer.new now)).buf := by
    cases entry : fb.bufs (dg.key fh) with
    | none => exact .inr NoStart.new
    | some buf => exact sound _ buf entry
  have updated : ∀ entry : Option (DatagramBuffer P),
      (∀ buf, entry = some buf → buf.datagram.isSome = true ∨ NoStart buf.buf) →
      Sound ⟨Function.update fb.bufs (dg.key fh) entry⟩ ∧ ∀ key, key ≠ dg.key fh →
          Function.update fb.bufs (dg.key fh) entry key = fb.bufs key := by
    intro entry kept
    refine ⟨?_, fun key ne => Function.update_of_ne ne _ _⟩
    intro key buf here
    dsimp only at here
    by_cases same : key = dg.key fh
    · subst same
      rw [Function.update_self] at here
      exact kept buf here
    · rw [Function.update_of_ne same] at here
      exact sound key buf here
  have filed (buf : DatagramBuffer P) (holds : buf.datagram.isSome = true ∨ NoStart buf.buf) :=
    updated (some buf) fun _ eq => Option.some.inj eq ▸ holds
  have dropped := updated none fun _ eq => absurd eq.symm (some_ne_none _)
  simp only [addFragment, length]
  split_ifs with unaligned long
  · exact ⟨_, _, rfl, filed _ keptOrNoStart⟩
  · exact ⟨_, _, rfl, filed _ keptOrNoStart⟩
  · simp only [addRange]
    by_cases first : fh.fragmentOffset = 0
    · split_ifs with complete fresh
      · -- the first fragment of a datagram is not the last one too
        have more : fh.moreFragments = true := proper.several.resolve_left (absurd first)
        rw [isNone_iff_eq_none] at fresh
        rw [fresh, getD_none, ReassemblyBuffer.addFragment] at complete
        have notLast : (ReassemblyBuffer.new.merge (toUshort fh.fragmentOffset)
            (toUshort ((fh.fragmentOffset + len) % 65536).toNat)
            (!fh.moreFragments)).main.islast = false :=
          ReassemblyBuffer.merge_new_islast fun _ => by rw [more]; rfl
        simp only [DatagramBuffer.new, notLast, Bool.and_false, Bool.false_eq_true] at complete
      · exact ⟨_, _, rfl, dropped⟩
      · exact ⟨_, _, rfl, filed _ (.inl rfl)⟩
    · rcases keptOrNoStart with kept | noStart
      · obtain ⟨stored, storedEq⟩ := isSome_iff_exists.mp kept
        rw [storedEq]
        split_ifs with complete fresh
        · -- there is no datagram in a new buffer
          rw [isNone_iff_eq_none] at fresh
          rw [fresh] at storedEq
          cases storedEq
        · exact ⟨_, _, rfl, dropped⟩
        · exact ⟨_, _, rfl, filed _ (.inl rfl)⟩
      · obtain ⟨still, incomplete⟩ := @NoStart.addFragment _ noStart fh.fragmentOffset
          ((fh.fragmentOffset + len) % 65536).toNat (!fh.moreFragments) first proper.small
        rw [incomplete, if_neg Bool.false_ne_true]
        exact ⟨_, _, rfl, filed _ (.inr still)⟩

lemma Sound.purge (sound : Sound fb) : Sound (fb.purgeStaleFragments lastupdate) := by
  intro key buf here
  simp only [purgeStaleFragments, filter_eq_some_iff] at here
  exact sound key buf here.1

end

/-! ## Fragments without a header gap -/

/-- The region added for a fragment whose derived range fits. -/
def region (datagram : IPv6Datagram P) : Region where
  beg := datagram.rangeBeg.toNat
  end_ := datagram.rangeEnd.toNat
  islast := (datagram.findFragmentHeader.map fun fh => !fh.moreFragments).getD true

/-- The datagram, its identification and the lengths with which `fragmentAndSend` splits it. -/
structure Split (P : Type) where
  orig : IPv6Datagram P
  identification : ℕ
  fragmentLength : ℕ

namespace Split

variable (split : Split P)

def headerLength : ℕ := split.orig.calculateUnfragmentableHeaderByteLength

def payloadLength : ℕ := split.orig.byteLength - split.headerLength

def fragmentAt (offset : ℕ) : IPv6Datagram P :=
  Ipv6.fragmentAt split.orig split.identification split.headerLength split.fragmentLength
    split.payloadLength offset

def fragments : List (IPv6Datagram P) :=
  fragmentsFrom split.orig split.identification split.headerLength split.fragmentLength
    split.payloadLength split.payloadLength 0

/-- The fragment header at an offset. -/
def headerAt (offset : ℕ) : IPv6FragmentHeader :=
  ⟨split.identification, offset, !decide (split.payloadLength ≤ offset + split.fragmentLength)⟩

/-- The key of all the fragments. -/
def key : Key := ⟨split.identification, split.orig.srcAddress, split.orig.destAddress⟩

/-- A datagram as `fragmentAndSend` splits it, into at least two fragments. -/
structure Valid : Prop where
  canonical : Canonical split.orig.extensionHeaders
  plain : ∀ header ∈ split.orig.extensionHeaders, header.isFragmentHeader = false
  aligned : split.fragmentLength % 8 = 0
  pos : 0 < split.fragmentLength
  several : split.fragmentLength < split.payloadLength
  small : split.payloadLength ≤ 65535

end Split

section

variable {split : Split P} {arrived : Set (IPv6Datagram P)} {fb : IPv6FragBuf P}
  {created : Option ℤ} {dg : IPv6Datagram P} {fh : IPv6FragmentHeader} {now : ℤ} {offset : ℕ}

lemma findFragmentHeader_at (valid : split.Valid) :
    (split.fragmentAt offset).findFragmentHeader = some (split.headerAt offset) :=
  findFragmentHeader_fragmentAt valid.plain

lemma region_at (valid : split.Valid) (noGap : headerGap split.orig.extensionHeaders = 0) :
    region (split.fragmentAt offset) =
      { beg := offset
        end_ := offset + min split.fragmentLength (split.payloadLength - offset)
        islast := decide (split.payloadLength ≤ offset + split.fragmentLength) } := by
  obtain ⟨beg, end_⟩ := @range_fragmentAt _ split.orig split.identification split.headerLength
    split.fragmentLength split.payloadLength offset valid.canonical valid.plain rfl
  rw [region, findFragmentHeader_at valid, Split.fragmentAt, beg, end_, noGap]
  simp only [Split.headerAt, map_some, getD_some, Bool.not_not, Region.mk.injEq,
    and_true]
  omega

lemma fragments_tiles (valid : split.Valid) (noGap : headerGap split.orig.extensionHeaders = 0) :
    Tiles IPv6Datagram.rangeBeg IPv6Datagram.rangeEnd (0 : ℤ) split.fragments
      (split.payloadLength : ℤ) :=
  fragmentsFrom_tiles valid.canonical valid.plain rfl noGap valid.pos le_rfl (Nat.zero_le _)

lemma exists_offset (mem : dg ∈ split.fragments) :
    ∃ offset < split.payloadLength, dg = split.fragmentAt offset :=
  mem_fragmentsFrom mem

lemma fragments_frags (valid : split.Valid) (noGap : headerGap split.orig.extensionHeaders = 0) :
    Fragments region split.fragments split.payloadLength where
  tiles := by
    have tiles : Tiles (fun d => ((region d).beg : ℤ)) (fun d => ((region d).end_ : ℤ)) (0 : ℤ)
        split.fragments (split.payloadLength : ℤ) := by
      refine (fragments_tiles valid noGap).embed (fun _ _ lt => lt) ?_ ?_ (f := id)
      · intro d mem
        obtain ⟨offset, -, rfl⟩ := exists_offset mem
        rw [region_at valid noGap]
        exact (range_fragmentAt valid.canonical valid.plain rfl).1.symm
      · intro d mem
        obtain ⟨offset, lt, rfl⟩ := exists_offset mem
        rw [region_at valid noGap]
        have range := (@range_fragmentAt _ split.orig split.identification split.headerLength
          split.fragmentLength split.payloadLength offset valid.canonical valid.plain rfl).2
        rw [noGap] at range
        rw [Split.fragmentAt, id_eq, range]
        push_cast
        omega
    exact Tiles.of_cast tiles
  islast_iff := by
    intro d mem
    obtain ⟨offset, lt, rfl⟩ := exists_offset mem
    rw [region_at valid noGap, decide_eq_true_eq]
    dsimp only
    omega
  pos := valid.pos.trans valid.several

/-- There is no buffer before the first fragment; then it holds what arrived, and the fragment at
offset 0 once that has. -/
inductive Holds (split : Split P) (arrived : Set (IPv6Datagram P)) :
    Option ℤ → Option (DatagramBuffer P) → Prop
  | absent : arrived = ∅ → Holds split arrived none none
  | present {buf : DatagramBuffer P} :
    Reassembling region split.fragments split.payloadLength arrived buf.buf →
    (split.fragmentAt 0 ∈ arrived → buf.datagram = some (split.fragmentAt 0)) →
    Holds split arrived (some buf.createdAt) (some buf)

variable (holds : Holds split arrived created (fb.bufs split.key))
include holds

lemma Holds.reassembling (frags : Fragments region split.fragments split.payloadLength) :
    Reassembling region split.fragments split.payloadLength arrived
      ((fb.bufs split.key).getD (DatagramBuffer.new now)).buf := by
  generalize fb.bufs split.key = entry at holds
  cases holds with
  | absent nothing =>
    rw [nothing]
    exact Reassembling.new frags
  | present state _ => exact state

lemma Holds.stored (here : split.fragmentAt 0 ∈ arrived) :
    ((fb.bufs split.key).getD (DatagramBuffer.new now)).datagram = some (split.fragmentAt 0) := by
  generalize fb.bufs split.key = entry at holds
  cases holds with
  | absent nothing =>
    rw [nothing] at here
    exact absurd here (Set.notMem_empty _)
  | present _ stored => exact stored here

lemma Holds.createdAt :
    ((fb.bufs split.key).getD (DatagramBuffer.new now)).createdAt = created.getD now := by
  generalize fb.bufs split.key = entry at holds
  cases holds with
  | absent _ => rfl
  | present _ _ => rfl

lemma Holds.purge {lastupdate : ℤ} (fresh : ∀ time ∈ created, lastupdate ≤ time) :
    Holds split arrived created ((fb.purgeStaleFragments lastupdate).bufs split.key) := by
  simp only [purgeStaleFragments]
  generalize fb.bufs split.key = entry at holds
  cases holds with
  | absent nothing => exact .absent nothing
  | @present buf state stored =>
    have recent : lastupdate ≤ buf.createdAt := fresh _ rfl
    rw [filter_some, if_pos (by simpa using recent)]
    exact .present state stored

omit holds

lemma assembled_first (valid : split.Valid) :
    assembled (split.fragmentAt 0) split.payloadLength = split.orig := by
  have headers : (split.fragmentAt 0).removeFragmentHeader.extensionHeaders =
      split.orig.extensionHeaders := by
    have front : ∀ header ∈ frontHeaders split.orig.extensionHeaders,
        header.isFragmentHeader = false :=
      fun header mem => valid.plain header (List.takeWhile_subset _ mem)
    exact (eraseP_front front).trans front_append_back
  have length : 40 + headersByteLength
        (split.orig.extensionHeaders.rdropWhile fun header => !header.isRoutingOrHop) +
      split.payloadLength = split.orig.byteLength := by
    have pos := valid.pos.trans valid.several
    rw [Split.payloadLength, Split.headerLength,
      IPv6Datagram.calculateUnfragmentableHeaderByteLength] at pos ⊢
    omega
  rw [assembled, IPv6Datagram.calculateUnfragmentableHeaderByteLength, headers, length]
  rfl

/-- What the arrival of a fragment does, when there is no header gap. -/
lemma addFragment_own (valid : split.Valid) (noGap : headerGap split.orig.extensionHeaders = 0)
    (holds : Holds split arrived created (fb.bufs split.key)) (sound : Sound fb)
    (sub : arrived ⊆ {frag | frag ∈ split.fragments}) (proper : Proper dg fh)
    (mem : dg ∈ split.fragments) :
    ∃ after returned, fb.addFragment dg fh now = .ok (after, returned) ∧ Sound after ∧
      ((∃ frag ∈ split.fragments, frag ∉ insert dg arrived) → returned = none ∧
        Holds split (insert dg arrived) (some (created.getD now)) (after.bufs split.key)) ∧
      ((∀ frag ∈ split.fragments, frag ∈ insert dg arrived) → returned = some split.orig) := by
  obtain ⟨after, returned, added, soundAfter, -⟩ := @addFragment_sound _ _ _ _ now sound proper
  refine ⟨after, returned, added, soundAfter, ?_⟩
  have frags := fragments_frags valid noGap
  obtain ⟨offset, lt, rfl⟩ := exists_offset mem
  have header : fh = split.headerAt offset := by
    have found := proper.found
    rw [findFragmentHeader_at valid] at found
    exact (Option.some.inj found).symm
  subst header
  have key : (split.fragmentAt offset).key (split.headerAt offset) = split.key := rfl
  -- both checks of the length are passed
  have length : (split.fragmentAt offset).calculateFragmentLength =
      .ok ((min split.fragmentLength (split.payloadLength - offset) : ℕ) - (0 : ℕ)) := by
    rw [← noGap]
    exact calculateFragmentLength_fragmentAt valid.canonical valid.plain rfl
  have aligned := valid.aligned
  have small := valid.small
  have unalignedNot : ¬ ((split.headerAt offset).moreFragments = true ∧
      ((min split.fragmentLength (split.payloadLength - offset) : ℕ) - (0 : ℕ) : ℤ) % 8 ≠ 0) := by
    rintro ⟨more, ne⟩
    simp only [Split.headerAt, Bool.not_eq_true', decide_eq_false_iff_not] at more
    omega
  have longNot : ¬ ((split.headerAt offset).fragmentOffset +
      ((min split.fragmentLength (split.payloadLength - offset) : ℕ) - (0 : ℕ) : ℤ) > 65535) := by
    simp only [Split.headerAt]
    omega
  simp only [addFragment, length] at added
  rw [if_neg unalignedNot, if_neg longNot, addRange, key] at added
  -- the range added is the region of the fragment
  obtain ⟨state, completeIff, total⟩ :=
    (@Holds.reassembling _ _ _ _ _ now holds frags).addFragment frags sub small mem
  have range : (((split.headerAt offset).fragmentOffset : ℤ) +
      ((min split.fragmentLength (split.payloadLength - offset) : ℕ) - (0 : ℕ))) % 65536 =
        ((offset + min split.fragmentLength (split.payloadLength - offset) : ℕ) : ℤ) := by
    simp only [Split.headerAt]
    omega
  have last : (!(split.headerAt offset).moreFragments) =
      decide (split.payloadLength ≤ offset + split.fragmentLength) := by
    rw [Split.headerAt, Bool.not_not]
  simp only [region_at valid noGap] at state completeIff total
  simp only [range, last, Int.toNat_natCast] at added
  have offsetEq : (split.headerAt offset).fragmentOffset = offset := rfl
  rw [offsetEq] at added
  have storedHere : split.fragmentAt 0 ∈ insert (split.fragmentAt offset) arrived →
      (if offset = 0 then some (split.fragmentAt offset)
        else ((fb.bufs split.key).getD (DatagramBuffer.new now)).datagram) =
          some (split.fragmentAt 0) := by
    intro here
    by_cases first : offset = 0
    · rw [if_pos first, first]
    · rw [if_neg first]
      refine holds.stored ?_
      rcases here with eq | here
      · have offsets := congrArg (fun d : IPv6Datagram P => d.findFragmentHeader) eq
        simp only [findFragmentHeader_at valid, Split.headerAt, Option.some.injEq,
          IPv6FragmentHeader.mk.injEq] at offsets
        exact absurd offsets.2.1.symm first
      · exact here
  have firstMem : split.fragmentAt 0 ∈ split.fragments := by
    obtain ⟨first, firstMem, beg⟩ := frags.tiles.exists_lo_eq
      (fun _ _ => .inr (Nat.zero_le _)) le_rfl frags.pos
    obtain ⟨o, -, rfl⟩ := exists_offset firstMem
    rw [region_at valid noGap] at beg
    obtain rfl : o = 0 := beg
    exact firstMem
  constructor
  · intro missing
    have incomplete : ¬ _ := completeIff.not.mpr (by
      rintro all
      obtain ⟨frag, fragMem, notHere⟩ := missing
      exact notHere (all frag fragMem))
    rw [if_neg incomplete] at added
    cases added
    refine ⟨rfl, ?_⟩
    dsimp only
    rw [Function.update_self, ← @Holds.createdAt _ _ _ _ _ now holds]
    exact @Holds.present _ split (insert (split.fragmentAt offset) arrived) ⟨_, _, _⟩ state storedHere
  · intro all
    have complete := completeIff.mpr all
    rw [if_pos complete, storedHere (all _ firstMem)] at added
    dsimp only at added
    split at added
    · cases added
    · cases added
      rw [total complete, assembled_first valid]

/-- The fragment buffer collects the fragments of a datagram. -/
lemma collector (valid : split.Valid) (noGap : headerGap split.orig.extensionHeaders = 0) :
    Collector step Event.fragment? split.fragments (Allowed split.fragments)
      (fun created arrived fb =>
        Holds split arrived created (fb.bufs split.key) ∧ Sound fb) where
  own := by
    intro created created' arrived fb event frag holds sub allow brings mem missing
    cases allow with
    | own proper fragMem =>
      cases brings
      obtain ⟨after, returned, added, sound, incomplete, -⟩ :=
        addFragment_own valid noGap holds.1 holds.2 sub proper fragMem
      obtain ⟨rfl, kept⟩ := incomplete missing
      exact ⟨after, added, kept, sound⟩
    | other proper other =>
      cases brings
      exact absurd rfl (other frag mem _ proper.found)
    | purge _ => cases brings
  other := by
    intro created created' arrived fb event holds allow other
    cases allow with
    | own _ fragMem => exact absurd fragMem (other _ rfl)
    | @other dg fh now proper otherKey =>
      obtain ⟨first, firstMem, -⟩ := (fragments_frags valid noGap).tiles.exists_lo_eq
        (fun _ _ => .inr (Nat.zero_le _)) le_rfl (fragments_frags valid noGap).pos
      have notKey : split.key ≠ dg.key fh := by
        obtain ⟨offset, -, rfl⟩ := exists_offset firstMem
        exact (otherKey _ firstMem _ (findFragmentHeader_at valid)).symm
      obtain ⟨after, returned, added, sound, same⟩ := @addFragment_sound _ _ _ _ now holds.2 proper
      refine ⟨after, returned, added, ?_, sound⟩
      rw [same _ notKey]
      exact holds.1
    | purge recent => exact ⟨_, none, rfl, holds.1.purge recent, holds.2.purge⟩

end

/-! ## When reassembly undoes fragmentation -/

/-- The derived ranges of `frags` tile the fragmentable part of `orig`, and in every allowed run the
last missing fragment, and none before it, makes `addFragment` return the datagram. -/
structure Reassembles (orig : IPv6Datagram P) (n : ℕ) (frags : List (IPv6Datagram P)) : Prop where
  tiles : Tiles IPv6Datagram.rangeBeg IPv6Datagram.rangeEnd (0 : ℤ) frags (n : ℤ)
  returns : ∀ {events created datagram fh now}, AllowedRun (Allowed frags) none events created →
    (∃ frag ∈ frags, frag ∉ events.filterMap Event.fragment?) → Proper datagram fh →
    datagram ∈ frags →
    ∃ before answers after result, runAnswers step empty events = .ok (before, answers) ∧
      (∀ event answer frag, (event, answer) ∈ events.zip answers →
        event.fragment? = some frag → frag ∈ frags → answer = none) ∧
      before.addFragment datagram fh now = .ok (after, result) ∧
      ((∃ frag ∈ frags, frag ∉ datagram :: events.filterMap Event.fragment?) → result = none) ∧
      ((∀ frag ∈ frags, frag ∈ datagram :: events.filterMap Event.fragment?) → result = some orig)

/-- The datagram with the source address under which it is sent. -/
def withSource (datagram : IPv6Datagram P) (ie : OutputInterface) : IPv6Datagram P :=
  if datagram.srcAddress.isUnspecified ∧ ¬ datagram.destAddress.isSolicitedNodeMulticastAddress
  then { datagram with srcAddress := ie.preferredAddress }
  else datagram

section

variable {orig : IPv6Datagram P} {ie : OutputInterface} {ident : ℕ}
  {frags : List (IPv6Datagram P)} {split : Split P}

lemma withSource_headers : (withSource orig ie).extensionHeaders = orig.extensionHeaders ∧
    (withSource orig ie).byteLength = orig.byteLength := by
  rw [withSource]
  split <;> exact ⟨rfl, rfl⟩

lemma fragment_split (canonical : Canonical orig.extensionHeaders)
    (plain : ∀ header ∈ orig.extensionHeaders, header.isFragmentHeader = false)
    (long : ie.mtu < orig.byteLength) (sent : fragment orig ie true ident = .ok (.sent frags)) :
    ∃ fragmentLength, frags = Split.fragments ⟨orig, ident, fragmentLength⟩ ∧
      fragmentLength % 8 = 0 ∧ 0 < fragmentLength ∧
      fragmentLength < orig.byteLength - orig.calculateUnfragmentableHeaderByteLength := by
  simp only [fragment] at sent
  rw [if_neg (not_le.mpr long), if_neg (by simp)] at sent
  split at sent
  · cases sent
  · rename_i nonzero
    rw [fragmentLoop_eq canonical plain] at sent
    cases sent
    exact ⟨_, rfl, Nat.mul_mod_left _ _, Nat.pos_of_ne_zero nonzero, by omega⟩

lemma fragmentAndSend_fragment (sent : fragmentAndSend orig ie true ident = .ok (.sent frags)) :
    fragment (withSource orig ie) ie true ident = .ok (.sent frags) := by
  simp only [fragmentAndSend, true_and] at sent
  rw [withSource]
  split_ifs at sent ⊢
  all_goals first
    | exact sent
    | cases sent

lemma reassembles_of_noGap (valid : split.Valid)
    (noGap : headerGap split.orig.extensionHeaders = 0) :
    Reassembles split.orig split.payloadLength split.fragments where
  tiles := fragments_tiles valid noGap
  returns := by
    intro events created dg fh now allowed pending proper mem
    obtain ⟨missing, missingMem, notArrived⟩ := pending
    have start : Holds split ∅ none ((empty : IPv6FragBuf P).bufs split.key) := .absent rfl
    obtain ⟨before, answers, ran, silent, holds, sound⟩ :=
      (collector valid noGap).run_pending ⟨start, Sound.empty⟩ (Set.empty_subset _) allowed
        ⟨missing, missingMem, Set.notMem_empty _, notArrived⟩
    obtain ⟨after, result, added, -, incomplete, complete⟩ :=
      @addFragment_own _ _ _ _ _ _ _ now valid noGap holds sound (fun _ here => here.1) proper mem
    refine ⟨before, answers, after, result, ran, silent, added, ?_, ?_⟩
    · rintro ⟨frag, fragMem, absent⟩
      exact (incomplete ⟨frag, fragMem, (mem_insert_collected fragMem).not.mpr absent⟩).1
    · intro all
      exact complete fun frag fragMem => (mem_insert_collected fragMem).mpr (all frag fragMem)

/-- A datagram from a higher layer that is sent in fragments is reassembled if and only if no
destination-options header stands directly in front of the fragment header. -/
theorem reassembles_iff {added : List IPv6ExtensionHeader}
    (built : addExtensionHeaders [] added = .ok orig.extensionHeaders)
    (noFragment : ∀ header ∈ added, header.isFragmentHeader = false)
    (small : orig.byteLength - orig.calculateUnfragmentableHeaderByteLength ≤ 65535)
    (long : ie.mtu < orig.byteLength)
    (sent : fragmentAndSend orig ie true ident = .ok (.sent frags)) :
    Reassembles (withSource orig ie)
        (orig.byteLength - orig.calculateUnfragmentableHeaderByteLength) frags ↔
      ¬ DestinationOptionsLast orig.extensionHeaders := by
  obtain ⟨headers, length⟩ := @withSource_headers _ orig ie
  obtain ⟨canonical, fromAdded⟩ := canonical_of_added .nil built
  have plain : ∀ header ∈ orig.extensionHeaders, header.isFragmentHeader = false := by
    intro header mem
    rcases fromAdded header mem with nothing | here
    · cases nothing
    · exact noFragment header here
  have payload : (withSource orig ie).byteLength -
        (withSource orig ie).calculateUnfragmentableHeaderByteLength =
      orig.byteLength - orig.calculateUnfragmentableHeaderByteLength := by
    rw [IPv6Datagram.calculateUnfragmentableHeaderByteLength, headers, length]
    rfl
  rw [← headers] at canonical plain ⊢
  rw [← length] at long
  rw [← payload] at small ⊢
  obtain ⟨fragmentLength, rfl, aligned, pos, several⟩ :=
    fragment_split canonical plain long (fragmentAndSend_fragment sent)
  have valid : Split.Valid ⟨withSource orig ie, ident, fragmentLength⟩ :=
    ⟨canonical, plain, aligned, pos, several, small⟩
  rw [← headerGap_eq_zero_iff canonical plain]
  constructor
  · intro reassembles
    by_contra gap
    exact fragmentsFrom_not_tiles canonical plain rfl gap pos several reassembles.tiles
  · intro noGap
    exact reassembles_of_noGap valid noGap

end

def destinationOptions : IPv6ExtensionHeader := .plain .DEST 8 (Nat.succ_pos 7)

def routing : IPv6ExtensionHeader := .plain .ROUTING 8 (Nat.succ_pos 7)

def withHeaders (extensionHeaders : List IPv6ExtensionHeader) : IPv6Datagram Unit where
  byteLength := 88
  srcAddress := 1
  destAddress := 2
  hopLimit := 32
  extensionHeaders := extensionHeaders
  encapsulatedPacket := some ()

def narrowInterface : OutputInterface := ⟨80, 1, fun _ => false⟩

/-- The fragments of the datagram with destination options only: 32 and 16 bytes. -/
def optionsFragment (second : Bool) : IPv6Datagram Unit :=
  { withHeaders [destinationOptions, .fragment ⟨7, if second then 32 else 0, !second⟩] with
    byteLength := if second then 64 else 80
    encapsulatedPacket := if second then none else some () }

theorem reassembles_iff_routing :
    Reassembles (withSource (withHeaders [destinationOptions, routing]) narrowInterface)
        ((withHeaders [destinationOptions, routing]).byteLength -
          (withHeaders [destinationOptions, routing]).calculateUnfragmentableHeaderByteLength)
        (Split.fragments ⟨withHeaders [destinationOptions, routing], 7, 16⟩) ↔
      ¬ DestinationOptionsLast (withHeaders [destinationOptions, routing]).extensionHeaders :=
  reassembles_iff (show addExtensionHeaders [] [routing, destinationOptions] = _ by decide)
    (by decide) (by decide) (by decide)
    (show fragmentAndSend _ narrowInterface true 7 = _ by decide)

/-- With destination options and no routing header, both fragments arrive, in order, and nothing
is returned. -/
theorem addFragment_keeps_waiting :
    fragmentAndSend (withHeaders [destinationOptions]) narrowInterface true 7 =
        .ok (.sent [optionsFragment false, optionsFragment true]) ∧
      ∃ after, runAnswers step empty [.addFragment (optionsFragment false) ⟨7, 0, true⟩ 0,
          .addFragment (optionsFragment true) ⟨7, 32, false⟩ 0] = .ok (after, [none, none]) :=
  ⟨by decide, _, rfl⟩

end IPv6FragBuf

end Inet.Ipv6
