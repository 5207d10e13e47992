import Inet.Base.ReassemblyBuffer
import Inet.Base.SimError
import Inet.Ipv4.Address
import Inet.Lib.Outcome

/-!
# Fragmenting IPv4 datagrams

`IPv4::fragmentAndSend`, and what a datagram becomes on its way. `Journey` is the tree of
fragmentations; what arrives tiles the payload of the datagram sent (`Journey.fragments`).
-/

namespace Inet.Ipv4

open List

/-- What fragmentation and reassembly read and write of an `IPv4Datagram`; `P` is the type of
encapsulated packets. -/
structure IPv4Datagram (P : Type) where
  byteLength : ℕ
  headerLength : ℕ
  srcAddress : IPv4Address
  destAddress : IPv4Address
  timeToLive : ℤ
  identification : ℤ
  moreFragments : Bool
  dontFragment : Bool
  fragmentOffset : ℕ
  encapsulatedPacket : Option P
  deriving DecidableEq

/-- The ICMP errors that fragmentation sends about a datagram. -/
inductive IcmpError where
  /-- `ICMP_TIME_EXCEEDED`, code 0. -/
  | timeExceeded
  /-- `ICMP_DESTINATION_UNREACHABLE`, `ICMP_DU_FRAGMENTATION_NEEDED`. -/
  | fragmentationNeeded
  deriving DecidableEq

/-- What one call of `fragmentAndSend` does with the datagram. -/
inductive Forwarding (P : Type) where
  /-- The datagrams given to `sendDatagramToOutput`, in order. -/
  | sent (datagrams : List (IPv4Datagram P))
  | dropped (error : IcmpError) (datagram : IPv4Datagram P)
  deriving DecidableEq

variable {P : Type}

namespace IPv4Datagram

def payloadLength (datagram : IPv4Datagram P) : ℕ := datagram.byteLength - datagram.headerLength

/-- The region of the reassembly buffer that `IPv4FragBuf::addFragment` adds for a datagram. -/
def region (datagram : IPv4Datagram P) : Region where
  beg := datagram.fragmentOffset
  end_ := datagram.fragmentOffset + datagram.payloadLength
  islast := !datagram.moreFragments

/-- The condition under which `reassembleAndDeliver` gives a datagram to the fragment buffer. -/
def isFragment (datagram : IPv4Datagram P) : Prop :=
  datagram.fragmentOffset ≠ 0 ∨ datagram.moreFragments = true

instance (datagram : IPv4Datagram P) : Decidable datagram.isFragment :=
  inferInstanceAs (Decidable (_ ∨ _))

end IPv4Datagram

/-- The body of the fragmentation loop. -/
def makeFragment (datagram : IPv4Datagram P) (fragmentLength offset : ℕ) : IPv4Datagram P :=
  let payloadLength := datagram.byteLength - datagram.headerLength
  let lastFragment : Bool := payloadLength ≤ offset + fragmentLength
  let thisFragmentLength := if lastFragment then payloadLength - offset else fragmentLength
  { datagram with
    moreFragments := if lastFragment then datagram.moreFragments else true
    byteLength := datagram.headerLength + thisFragmentLength
    fragmentOffset := datagram.fragmentOffset + offset }

/-- `for (int offset=0; offset < payloadLength; offset+=fragmentLength)`, with the payload length as
fuel. -/
def fragmentLoop (datagram : IPv4Datagram P) (fragmentLength : ℕ) : ℕ → ℕ → List (IPv4Datagram P)
  | 0, _ => []
  | fuel + 1, offset =>
      if offset < datagram.byteLength - datagram.headerLength then
        makeFragment datagram fragmentLength offset ::
          fragmentLoop datagram fragmentLength fuel (offset + fragmentLength)
      else []

/-- The source address, if none is set, is that of the output interface. -/
def fillSource (datagram : IPv4Datagram P) (ie : InterfaceEntry) :
    Except SimError (IPv4Datagram P) :=
  if datagram.srcAddress.isUnspecified then
    match ie.ipv4Data with
    | some data => .ok { datagram with srcAddress := data.inetAddr }
    | none => .error .nullPointer
  else .ok datagram

def decrementTimeToLive (datagram : IPv4Datagram P) (ie : InterfaceEntry) : IPv4Datagram P :=
  if ie.loopback then datagram else { datagram with timeToLive := datagram.timeToLive - 1 }

/-- The part of `fragmentAndSend` after the hop counter check. -/
def fragment (datagram : IPv4Datagram P) (mtu : ℕ) : Except SimError (Forwarding P) :=
  if mtu = 0 ∨ datagram.byteLength ≤ mtu then .ok (.sent [datagram])
  else if datagram.dontFragment then .ok (.dropped .fragmentationNeeded datagram)
  else
    let headerLength := datagram.headerLength
    let fragmentLength := (mtu - headerLength) / 8 * 8
    if fragmentLength = 0 then
      .error (.runtimeError ("Cannot fragment datagram: MTU=" ++ toString mtu ++
        " too small for header size (" ++ toString headerLength ++ " bytes)"))
    else
      .ok (.sent (fragmentLoop datagram fragmentLength (datagram.byteLength - headerLength) 0))

def fragmentAndSend (datagram : IPv4Datagram P) (ie : InterfaceEntry) :
    Except SimError (Forwarding P) := do
  let datagram ← fillSource datagram ie
  let datagram := decrementTimeToLive datagram ie
  if datagram.timeToLive < 0 then .ok (.dropped .timeExceeded datagram)
  else fragment datagram ie.mtu

/-! ## Fragments of one datagram -/

/-- `datagram` is a piece of a datagram like `orig`, with this source address and a payload of `n`
bytes. -/
structure PieceOf (orig : IPv4Datagram P) (src : IPv4Address) (n : ℕ)
    (datagram : IPv4Datagram P) : Prop where
  headerLength_eq : datagram.headerLength = orig.headerLength
  srcAddress_eq : datagram.srcAddress = src
  destAddress_eq : datagram.destAddress = orig.destAddress
  identification_eq : datagram.identification = orig.identification
  packet_eq : datagram.encapsulatedPacket = orig.encapsulatedPacket
  islast_iff : datagram.region.islast = true ↔ datagram.region.end_ = n

/-- These datagrams tile `[a, b)` of the `n` bytes of `orig`. -/
structure PiecesOf (orig : IPv4Datagram P) (src : IPv4Address) (n a : ℕ)
    (datagrams : List (IPv4Datagram P)) (b : ℕ) : Prop where
  piece : ∀ datagram ∈ datagrams, PieceOf orig src n datagram
  tiles : Tiles (fun d : IPv4Datagram P => d.region.beg) (fun d => d.region.end_) a datagrams b

section

variable {orig datagram : IPv4Datagram P} {src : IPv4Address} {n a b c : ℕ}
  {datagrams datagrams' : List (IPv4Datagram P)} {ie : InterfaceEntry}

lemma PiecesOf.frags (pieces : PiecesOf orig src n 0 leaves n) (pos : 0 < n) :
    Fragments IPv4Datagram.region leaves n where
  tiles := pieces.tiles
  islast_iff leaf mem := (pieces.piece leaf mem).islast_iff
  pos := pos

lemma PiecesOf.append (left : PiecesOf orig src n a datagrams b)
    (right : PiecesOf orig src n b datagrams' c) :
    PiecesOf orig src n a (datagrams ++ datagrams') c := by
  refine ⟨?_, left.tiles.append right.tiles⟩
  intro datagram mem
  rcases mem_append.mp mem with mem | mem
  · exact left.piece datagram mem
  · exact right.piece datagram mem

lemma PiecesOf.of_cons (pieces : PiecesOf orig src n a (datagram :: datagrams) b) :
    PiecesOf orig src n a [datagram] datagram.region.end_ ∧
      PiecesOf orig src n datagram.region.end_ datagrams b := by
  obtain ⟨piece, tiles⟩ := pieces
  constructor
  · exact ⟨fun d mem => piece d (mem_singleton.mp mem ▸ mem_cons_self), tiles.1, tiles.2.1, rfl⟩
  · exact ⟨fun d mem => piece d (mem_cons_of_mem _ mem), tiles.2.2⟩

lemma makeFragment_region {len offset : ℕ}
    (short : offset < datagram.payloadLength) :
    (makeFragment datagram len offset).region =
      { beg := datagram.fragmentOffset + offset
        end_ := datagram.fragmentOffset + min (offset + len) datagram.payloadLength
        islast := decide (datagram.payloadLength ≤ offset + len) &&
          datagram.region.islast } := by
  simp only [IPv4Datagram.payloadLength] at short
  simp only [makeFragment, IPv4Datagram.region, IPv4Datagram.payloadLength, Region.mk.injEq,
    true_and]
  by_cases last : datagram.byteLength - datagram.headerLength ≤ offset + len
  · simp only [last, decide_true, if_true, Bool.true_and, and_true]
    omega
  · simp only [last, decide_false, Bool.false_eq_true, if_false, Bool.false_and, Bool.not_true,
      and_true]
    omega

lemma fragmentLoop_pieces {len fuel offset : ℕ} (pos : 0 < len)
    (piece : PieceOf orig src n datagram) (le : datagram.region.end_ ≤ n)
    (enough : datagram.payloadLength - offset ≤ fuel) (short : offset ≤ datagram.payloadLength) :
    PiecesOf orig src n (datagram.fragmentOffset + offset)
      (fragmentLoop datagram len fuel offset) datagram.region.end_ := by
  have endEq : datagram.region.end_ = datagram.fragmentOffset + datagram.payloadLength := rfl
  induction fuel generalizing offset with
  | zero =>
    refine ⟨(fun _ mem => nomatch mem), ?_⟩
    change datagram.fragmentOffset + offset = _
    omega
  | succ fuel ih =>
    simp only [fragmentLoop]
    split
    · rename_i lt
      have lt : offset < datagram.payloadLength := lt
      have region := @makeFragment_region _ datagram len offset lt
      have first : PieceOf orig src n (makeFragment datagram len offset) := by
        refine ⟨piece.headerLength_eq, piece.srcAddress_eq, piece.destAddress_eq,
          piece.identification_eq, piece.packet_eq, ?_⟩
        have last := piece.islast_iff
        simp only [region, Bool.and_eq_true, decide_eq_true_eq, last]
        constructor
        · rintro ⟨whole, eq⟩
          omega
        · omega
      -- past the last fragment the loop ends, so the offset may overshoot the payload
      by_cases done : datagram.payloadLength ≤ offset + len
      · have nothing : fragmentLoop datagram len fuel (offset + len) = [] := by
          cases fuel with
          | zero => rfl
          | succ fuel => exact if_neg (not_lt.mpr done)
        rw [nothing]
        refine ⟨fun d mem => mem_singleton.mp mem ▸ first, ?_⟩
        simp only [Tiles, region, endEq]
        refine ⟨trivial, ?_, ?_⟩ <;> omega
      · have rest := ih (by omega : datagram.payloadLength - (offset + len) ≤ fuel) (by omega)
        refine ⟨?_, ?_⟩
        · intro d mem
          rcases mem_cons.mp mem with rfl | mem
          · exact first
          · exact rest.piece d mem
        · refine ⟨by simp only [region], by simp only [region]; omega, ?_⟩
          have next : (makeFragment datagram len offset).region.end_ =
              datagram.fragmentOffset + (offset + len) := by
            simp only [region]
            omega
          change Tiles _ _ (makeFragment datagram len offset).region.end_ _ _
          rw [next]
          exact rest.tiles
    · rename_i ge
      have ge : ¬ offset < datagram.payloadLength := ge
      refine ⟨(fun _ mem => nomatch mem), ?_⟩
      change datagram.fragmentOffset + offset = _
      omega

lemma fragment_pieces {mtu : ℕ} (piece : PieceOf orig src n datagram)
    (pieces : PiecesOf orig src n a [datagram] b) (le : b ≤ n)
    (sent : fragment datagram mtu = .ok (.sent datagrams)) : PiecesOf orig src n a datagrams b := by
  obtain ⟨begEq, nonempty, endEq⟩ := pieces.tiles
  have endEq : datagram.region.end_ = b := endEq
  simp only [fragment] at sent
  split_ifs at sent with fits df none
  · cases sent
    exact pieces
  · cases sent
  · obtain rfl : fragmentLoop datagram _ _ 0 = datagrams := Forwarding.sent.inj (Except.ok.inj sent)
    have enough : datagram.payloadLength - 0 ≤ datagram.byteLength - datagram.headerLength := le_rfl
    have loop := fragmentLoop_pieces (Nat.pos_of_ne_zero none) piece (endEq ▸ le) enough
      (Nat.zero_le _)
    rw [Nat.add_zero, endEq, show datagram.fragmentOffset = a from begEq] at loop
    exact loop

lemma PieceOf.decrementTimeToLive (piece : PieceOf orig src n datagram) :
    PieceOf orig src n (decrementTimeToLive datagram ie) := by
  rw [Ipv4.decrementTimeToLive]
  split
  · exact piece
  · exact ⟨piece.headerLength_eq, piece.srcAddress_eq, piece.destAddress_eq,
      piece.identification_eq, piece.packet_eq, piece.islast_iff⟩

lemma fragmentAndSend_pieces {datagram' : IPv4Datagram P}
    (filled : fillSource datagram ie = .ok datagram')
    (pieces : PiecesOf orig src n a [datagram'] b) (le : b ≤ n)
    (sent : fragmentAndSend datagram ie = .ok (.sent datagrams)) :
    PiecesOf orig src n a datagrams b := by
  have piece := pieces.piece datagram' mem_cons_self
  rw [fragmentAndSend, filled] at sent
  simp only [bind, Except.bind] at sent
  split_ifs at sent with expired
  · cases sent
  · refine fragment_pieces piece.decrementTimeToLive ⟨?_, ?_⟩ le sent
    · intro d mem
      rw [mem_singleton.mp mem]
      exact piece.decrementTimeToLive
    · have region : (decrementTimeToLive datagram' ie).region = datagram'.region := by
        rw [Ipv4.decrementTimeToLive]
        split <;> rfl
      have tiles := pieces.tiles
      simp only [Tiles, region] at tiles ⊢
      exact tiles

lemma fillSource_of_known (known : ¬ datagram.srcAddress.isUnspecified) :
    fillSource datagram ie = .ok datagram :=
  if_neg known

lemma fragmentAndSend_empty (whole : ¬ datagram.isFragment) (empty : datagram.payloadLength = 0)
    (sent : fragmentAndSend datagram ie = .ok (.sent datagrams)) :
    ∀ d ∈ datagrams, ¬ d.isFragment ∧ d.payloadLength = 0 := by
  obtain ⟨filled, eq, sent⟩ := Except.bind_eq_ok sent
  have same : filled.isFragment = datagram.isFragment ∧
      filled.payloadLength = datagram.payloadLength := by
    rw [fillSource] at eq
    split_ifs at eq
    · split at eq <;> cases eq
      exact ⟨rfl, rfl⟩
    · cases eq
      exact ⟨rfl, rfl⟩
  have later : (decrementTimeToLive filled ie).isFragment = filled.isFragment ∧
      (decrementTimeToLive filled ie).payloadLength = filled.payloadLength := by
    rw [Ipv4.decrementTimeToLive]
    split <;> exact ⟨rfl, rfl⟩
  rw [← same.1, ← later.1] at whole
  rw [← same.2, ← later.2] at empty
  revert sent whole empty
  intro empty whole sent
  simp only [fragment] at sent
  split_ifs at sent with expired fits df none <;> cases sent
  · intro d' mem
    rw [mem_singleton.mp mem]
    exact ⟨whole, empty⟩
  · -- with nothing but the header there is no room for a fragment
    rw [IPv4Datagram.payloadLength] at empty
    omega

end

/-- Of these datagrams in flight, each arrives as it is or is sent through one more hop; `leaves`
arrive, in the order of their offsets. An interface that fills in a missing source address has an
address. -/
inductive Journey : List (IPv4Datagram P) → List (IPv4Datagram P) → Prop
  | nil : Journey [] []
  | arrived {datagram : IPv4Datagram P} {datagrams leaves : List (IPv4Datagram P)} :
    Journey datagrams leaves → Journey (datagram :: datagrams) (datagram :: leaves)
  | hop {datagram : IPv4Datagram P} {datagrams out leaves leaves' : List (IPv4Datagram P)}
    {ie : InterfaceEntry} :
    fragmentAndSend datagram ie = .ok (.sent out) →
    (datagram.srcAddress.isUnspecified →
      ∀ data, ie.ipv4Data = some data → ¬ data.inetAddr.isUnspecified) →
    Journey out leaves → Journey datagrams leaves' →
    Journey (datagram :: datagrams) (leaves ++ leaves')

section

variable {orig datagram : IPv4Datagram P} {src : IPv4Address} {n a b : ℕ}
  {datagrams leaves : List (IPv4Datagram P)} {ie : InterfaceEntry}

lemma Journey.pieces (journey : Journey datagrams leaves) (known : ¬ src.isUnspecified)
    (le : b ≤ n) (pieces : PiecesOf orig src n a datagrams b) : PiecesOf orig src n a leaves b := by
  induction journey generalizing a b with
  | nil => exact pieces
  | arrived rest ih =>
    obtain ⟨first, others⟩ := pieces.of_cons
    exact first.append (ih le others)
  | @hop datagram _ _ _ _ ie sent _ out rest outIh restIh =>
    obtain ⟨first, others⟩ := pieces.of_cons
    have middle := others.tiles.le
    have filled : fillSource datagram ie = .ok datagram := by
      refine fillSource_of_known ?_
      rw [(first.piece datagram mem_cons_self).srcAddress_eq]
      exact known
    exact (outIh (middle.trans le)
      (fragmentAndSend_pieces filled first (middle.trans le) sent)).append (restIh le others)

lemma Journey.eq_nil (journey : Journey ([] : List (IPv4Datagram P)) leaves) : leaves = [] := by
  cases journey
  rfl

lemma PiecesOf.whole (whole : orig.fragmentOffset = 0) (last : orig.moreFragments = false)
    (pos : 0 < orig.payloadLength) :
    PiecesOf orig orig.srcAddress orig.payloadLength 0 [orig] orig.payloadLength := by
  constructor
  · intro d mem
    rw [mem_singleton.mp mem]
    refine ⟨rfl, rfl, rfl, rfl, rfl, ?_⟩
    simp only [IPv4Datagram.region, last, whole, Bool.not_false, Nat.zero_add]
  · simp only [Tiles, IPv4Datagram.region, whole, Nat.zero_add, and_true, true_and]
    exact pos

/-- The leaves of a datagram sent tile its payload, all under one source address: its own, or
the one that the first hop filled in. -/
lemma Journey.fragments (journey : Journey [orig] leaves) (whole : orig.fragmentOffset = 0)
    (last : orig.moreFragments = false) (pos : 0 < orig.payloadLength) :
    ∃ src, PiecesOf orig src orig.payloadLength 0 leaves orig.payloadLength := by
  have pieces := PiecesOf.whole whole last pos
  by_cases known : orig.srcAddress.isUnspecified
  · cases journey with
    | arrived rest =>
      rw [rest.eq_nil]
      exact ⟨_, pieces⟩
    | @hop _ _ _ _ _ ie sent named out rest =>
      rw [rest.eq_nil, append_nil]
      obtain ⟨filled, eq, _⟩ := Except.bind_eq_ok sent
      have named := named known
      rw [fillSource, if_pos known] at eq
      cases data : ie.ipv4Data with
      | none =>
        rw [data] at eq
        cases eq
      | some ipv4Data =>
        have address := named ipv4Data data
        have filledEq : fillSource orig ie =
            .ok { orig with srcAddress := ipv4Data.inetAddr } := by
          rw [fillSource, if_pos known, data]
        refine ⟨ipv4Data.inetAddr, out.pieces address le_rfl
          (fragmentAndSend_pieces filledEq ⟨?_, ?_⟩ le_rfl sent)⟩
        · intro d mem
          rw [mem_singleton.mp mem]
          have piece := pieces.piece orig mem_cons_self
          exact ⟨rfl, rfl, rfl, rfl, rfl, piece.islast_iff⟩
        · exact pieces.tiles
  · exact ⟨_, journey.pieces known le_rfl pieces⟩

lemma Journey.not_isFragment (journey : Journey datagrams leaves)
    (whole : ∀ d ∈ datagrams, ¬ d.isFragment ∧ d.payloadLength = 0) :
    ∀ leaf ∈ leaves, ¬ leaf.isFragment := by
  induction journey with
  | nil => exact fun _ mem => nomatch mem
  | arrived rest ih =>
    intro leaf mem
    rcases mem_cons.mp mem with rfl | mem
    · exact (whole _ mem_cons_self).1
    · exact ih (fun d dMem => whole d (mem_cons_of_mem _ dMem)) leaf mem
  | hop sent _ out rest outIh restIh =>
    intro leaf mem
    obtain ⟨first, empty⟩ := whole _ mem_cons_self
    rcases mem_append.mp mem with mem | mem
    · exact outIh (fragmentAndSend_empty first empty sent) leaf mem
    · exact restIh (fun d dMem => whole d (mem_cons_of_mem _ dMem)) leaf mem

/-- Offset and length can be told in units of 8 bytes, but for the length of the last fragment. -/
def IPv4Datagram.Aligned (datagram : IPv4Datagram P) : Prop :=
  8 ∣ datagram.fragmentOffset ∧ (datagram.moreFragments = true → 8 ∣ datagram.payloadLength)

lemma fragmentLoop_fits {len fuel offset : ℕ} (aligned : datagram.Aligned) (units : 8 ∣ len)
    (unit : 8 ∣ offset) : ∀ d ∈ fragmentLoop datagram len fuel offset,
      d.byteLength ≤ datagram.headerLength + len ∧ d.Aligned := by
  induction fuel generalizing offset with
  | zero => exact fun _ mem => absurd mem not_mem_nil
  | succ fuel ih =>
    rw [fragmentLoop]
    split_ifs
    · refine forall_mem_cons.mpr ⟨⟨?_, Nat.dvd_add aligned.1 unit, fun more => ?_⟩,
        ih (Nat.dvd_add unit units)⟩
      · simp only [makeFragment, decide_eq_true_eq]
        split_ifs <;> omega
      · have whole := aligned.2
        simp only [makeFragment, IPv4Datagram.payloadLength, decide_eq_true_eq] at more whole ⊢
        split_ifs at more ⊢
        · have := whole more
          omega
        · rwa [Nat.add_sub_cancel_left]
    · exact fun _ mem => absurd mem not_mem_nil

lemma fragmentAndSend_fits (aligned : datagram.Aligned)
    (sent : fragmentAndSend datagram ie = .ok (.sent datagrams)) :
    ∀ d ∈ datagrams, (ie.mtu = 0 ∨ d.byteLength ≤ ie.mtu) ∧ d.Aligned := by
  obtain ⟨filled, eq, sent⟩ := Except.bind_eq_ok sent
  have kept : (decrementTimeToLive filled ie).Aligned := by
    have same : filled.Aligned := by
      rw [fillSource] at eq
      split_ifs at eq
      · split at eq <;> cases eq
        exact aligned
      · cases eq
        exact aligned
    rw [decrementTimeToLive]
    split_ifs <;> exact same
  dsimp only [fragment] at sent
  split_ifs at sent with _ fits <;> cases sent
  · exact forall_mem_singleton.mpr ⟨fits, kept⟩
  · intro d mem
    obtain ⟨le, aligned⟩ := fragmentLoop_fits kept (Nat.dvd_mul_left 8 _) (Nat.dvd_zero 8) d mem
    exact ⟨.inr (by omega), aligned⟩

lemma Journey.aligned (journey : Journey datagrams leaves) (aligned : ∀ d ∈ datagrams, d.Aligned) :
    ∀ leaf ∈ leaves, leaf.Aligned := by
  induction journey with
  | nil => exact aligned
  | arrived rest ih =>
    obtain ⟨first, others⟩ := forall_mem_cons.mp aligned
    exact forall_mem_cons.mpr ⟨first, ih others⟩
  | hop sent _ out rest outIh restIh =>
    obtain ⟨first, others⟩ := forall_mem_cons.mp aligned
    exact forall_mem_append.mpr
      ⟨outIh fun d mem => (fragmentAndSend_fits first sent d mem).2, restIh others⟩

/-- After any number of hops, what a hop sends of a datagram fits the MTU and is aligned. -/
theorem fragments_fit (journey : Journey [orig] leaves) (whole : orig.fragmentOffset = 0)
    (last : orig.moreFragments = false) (mem : datagram ∈ leaves)
    (sent : fragmentAndSend datagram ie = .ok (.sent datagrams)) :
    ∀ d ∈ datagrams, (ie.mtu = 0 ∨ d.byteLength ≤ ie.mtu) ∧ d.Aligned :=
  fragmentAndSend_fits (journey.aligned (forall_mem_singleton.mpr
    ⟨whole ▸ Nat.dvd_zero 8, fun more => by rw [last] at more; cases more⟩) datagram mem) sent

theorem fragments_fit_two :
    ∃ datagrams, fragmentAndSend (⟨36, 20, 1, 2, 32, 7, false, false, 0, some ()⟩ : IPv4Datagram Unit)
        ⟨1, 28, false, none⟩ = .ok (.sent datagrams) ∧
      datagrams = [⟨28, 20, 1, 2, 31, 7, true, false, 0, some ()⟩,
        ⟨28, 20, 1, 2, 31, 7, false, false, 8, some ()⟩] ∧
      ∀ d ∈ datagrams, (28 = 0 ∨ d.byteLength ≤ 28) ∧ d.Aligned :=
  ⟨_, rfl, rfl,
    @fragments_fit Unit ⟨36, 20, 1, 2, 32, 7, false, false, 0, some ()⟩ _ _ _ ⟨1, 28, false, none⟩
      (.arrived .nil) rfl rfl (mem_singleton_self _) rfl⟩

end

end Inet.Ipv4
