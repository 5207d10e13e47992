import Inet.Base.ReassemblyBuffer
import Inet.Ipv6.Address
import Inet.Ipv6.ExtensionHeaders

/-!
# Fragmenting IPv6 datagrams

`fragmentAndSend` splits behind the last routing or hop-by-hop header, while the receiver subtracts
every header in front of the fragment header, and that one itself. They differ by the
destination-options headers in between (`headerGap`).
-/

namespace Inet.Ipv6

open List

/-- What fragmentation and reassembly read and write of an `IPv6Datagram`; `P` is the type of
encapsulated packets. -/
structure IPv6Datagram (P : Type) where
  byteLength : ℕ
  srcAddress : IPv6Address
  destAddress : IPv6Address
  hopLimit : ℤ
  extensionHeaders : List IPv6ExtensionHeader
  encapsulatedPacket : Option P
  deriving DecidableEq

/-- What `fragmentAndSend` reads of the output interface. -/
structure OutputInterface where
  mtu : ℕ
  preferredAddress : IPv6Address
  isTentativeAddress : IPv6Address → Bool

inductive Icmpv6Error where
  /-- `ICMPv6_TIME_EXCEEDED`, code 0. -/
  | timeExceeded
  /-- `ICMPv6_PACKET_TOO_BIG`, code 0. -/
  | packetTooBig
  /-- `ICMPv6_PARAMETER_PROBLEM`, `ERROREOUS_HDR_FIELD`. -/
  | parameterProblem
  deriving DecidableEq

/-- What one call of `fragmentAndSend` does with the datagram. -/
inductive Forwarding (P : Type) where
  /-- The datagrams given to `sendDatagramToOutput`, in order. -/
  | sent (datagrams : List (IPv6Datagram P))
  | dropped (error : Icmpv6Error)
  /-- Kept until the source address is no longer tentative. -/
  | queued (datagram : IPv6Datagram P)
  deriving DecidableEq

variable {P : Type}

def headersByteLength (headers : List IPv6ExtensionHeader) : ℕ :=
  (headers.map IPv6ExtensionHeader.byteLength).sum

namespace IPv6Datagram

def calculateHeaderByteLength (datagram : IPv6Datagram P) : ℕ :=
  40 + headersByteLength datagram.extensionHeaders

/-- The headers up to the last routing or hop-by-hop header count. -/
def calculateUnfragmentableHeaderByteLength (datagram : IPv6Datagram P) : ℕ :=
  40 + headersByteLength (datagram.extensionHeaders.rdropWhile fun header => !header.isRoutingOrHop)

/-- The loop of `calculateFragmentLength`: subtracts the headers up to the fragment header. -/
def subtractHeaders : ℤ → List IPv6ExtensionHeader → Except SimError ℤ
  | _, [] =>
      .error (.assertion
        "IPv6Datagram::calculateFragmentLength() called on non-fragment datagram")
  | len, header :: headers =>
      if header.isFragmentHeader then .ok (len - header.byteLength)
      else subtractHeaders (len - header.byteLength) headers

def calculateFragmentLength (datagram : IPv6Datagram P) : Except SimError ℤ :=
  subtractHeaders (datagram.byteLength - 40) datagram.extensionHeaders

/-- `findExtensionHeaderByType(IP_PROT_IPv6EXT_FRAGMENT)`. -/
def findFragmentHeader (datagram : IPv6Datagram P) : Option IPv6FragmentHeader :=
  datagram.extensionHeaders.findSome? fun
    | .fragment fh => some fh
    | .plain _ _ _ => none

/-- `removeExtensionHeader(IP_PROT_IPv6EXT_FRAGMENT)`. -/
def removeFragmentHeader (datagram : IPv6Datagram P) : IPv6Datagram P :=
  { datagram with
    extensionHeaders := datagram.extensionHeaders.eraseP IPv6ExtensionHeader.isFragmentHeader }

end IPv6Datagram

/-- The body of the fragmentation loop: a copy of the datagram with a fragment header. The copy of
the first fragment carries the packet. -/
def makeFragment (datagram : IPv6Datagram P) (identification headerLength fragmentLength
    payloadLength offset : ℕ) : Except SimError (IPv6Datagram P) := do
  let lastFragment : Bool := payloadLength ≤ offset + fragmentLength
  let thisFragmentLength := if lastFragment then payloadLength - offset else fragmentLength
  let fh := IPv6ExtensionHeader.fragment ⟨identification, offset, !lastFragment⟩
  let copied ← addExtensionHeaders [] datagram.extensionHeaders
  let extensionHeaders ← addExtensionHeader copied fh
  return { datagram with
    encapsulatedPacket := if offset = 0 then datagram.encapsulatedPacket else none
    extensionHeaders := extensionHeaders
    byteLength := headerLength + fh.byteLength + thisFragmentLength }

/-- `for (int offset=0; offset<payloadLength; offset+=fragmentLength)`, with the payload length as
fuel. -/
def fragmentLoop (datagram : IPv6Datagram P) (identification headerLength fragmentLength
    payloadLength : ℕ) : ℕ → ℕ → Except SimError (List (IPv6Datagram P))
  | 0, _ => .ok []
  | fuel + 1, offset =>
      if offset < payloadLength then do
        let fragment ← makeFragment datagram identification headerLength fragmentLength
          payloadLength offset
        let fragments ← fragmentLoop datagram identification headerLength fragmentLength
          payloadLength fuel (offset + fragmentLength)
        return fragment :: fragments
      else .ok []

/-- The part of `fragmentAndSend` after the source address is settled. -/
def fragment (datagram : IPv6Datagram P) (ie : OutputInterface) (fromHL : Bool)
    (curFragmentId : ℕ) : Except SimError (Forwarding P) :=
  if datagram.byteLength ≤ ie.mtu then .ok (.sent [datagram])
  else if !fromHL then .ok (.dropped .packetTooBig)
  else
    let headerLength := datagram.calculateUnfragmentableHeaderByteLength
    let payloadLength := datagram.byteLength - headerLength
    let fragmentLength := (ie.mtu - headerLength - 8) / 8 * 8
    if fragmentLength = 0 then .error (.assertion "fragmentLength > 0")
    else
      (fragmentLoop datagram curFragmentId headerLength fragmentLength payloadLength payloadLength
        0).map .sent

def fragmentAndSend (datagram : IPv6Datagram P) (ie : OutputInterface) (fromHL : Bool)
    (curFragmentId : ℕ) : Except SimError (Forwarding P) :=
  if datagram.hopLimit ≤ 0 then .ok (.dropped .timeExceeded)
  else if fromHL ∧ datagram.srcAddress.isUnspecified ∧
      ¬ datagram.destAddress.isSolicitedNodeMulticastAddress then
    let srcAddr := ie.preferredAddress
    if srcAddr.isUnspecified then .error (.assertion "!srcAddr.isUnspecified()")
    else
      let datagram := { datagram with srcAddress := srcAddr }
      if ie.isTentativeAddress srcAddr then .ok (.queued datagram)
      else fragment datagram ie fromHL curFragmentId
  else fragment datagram ie fromHL curFragmentId

/-! ## The place of the fragment header -/

/-- The headers that a fragment header is placed behind. -/
def frontHeaders (headers : List IPv6ExtensionHeader) : List IPv6ExtensionHeader :=
  headers.takeWhile fun header => header.order ≤ 3

def backHeaders (headers : List IPv6ExtensionHeader) : List IPv6ExtensionHeader :=
  headers.dropWhile fun header => header.order ≤ 3

/-- A destination-options header stands directly in front of the place of the fragment header. -/
def DestinationOptionsLast (headers : List IPv6ExtensionHeader) : Prop :=
  ∃ header, (frontHeaders headers).getLast? = some header ∧ header.order = 1

/-- By how much the headers in front of the fragment header are longer than what the sender takes
for unfragmentable. -/
def headerGap (headers : List IPv6ExtensionHeader) : ℕ :=
  headersByteLength (frontHeaders headers) -
    headersByteLength (headers.rdropWhile fun header => !header.isRoutingOrHop)

section

variable {headers pre post : List IPv6ExtensionHeader}

lemma headersByteLength_append :
    headersByteLength (pre ++ post) = headersByteLength pre + headersByteLength post := by
  rw [headersByteLength, map_append, sum_append]
  rfl

lemma headersByteLength_pos (nonempty : pre ≠ []) : 0 < headersByteLength pre := by
  cases pre with
  | nil => exact absurd rfl nonempty
  | cons header pre =>
    have pos := header.byteLength_pos
    simp only [headersByteLength, map_cons, sum_cons]
    omega

lemma front_append_back : frontHeaders headers ++ backHeaders headers = headers :=
  takeWhile_append_dropWhile

lemma isRoutingOrHop_back (canonical : Canonical headers) :
    ∀ header ∈ backHeaders headers, header.isRoutingOrHop = false := by
  intro header mem
  cases back : backHeaders headers with
  | nil =>
    rw [back] at mem
    cases mem
  | cons first rest =>
    have high : 3 < first.order := by
      have stop := head?_dropWhile_not (fun h : IPv6ExtensionHeader => h.order ≤ 3) headers
      rw [← backHeaders, back] at stop
      simpa using stop
    rw [back] at mem
    rcases mem_cons.mp mem with rfl | mem
    · by_contra unfragmentable
      have := IPv6ExtensionHeader.order_of_isRoutingOrHop (Bool.not_eq_false _ ▸ unfragmentable)
      omega
    · have split : headers = frontHeaders headers ++ first :: rest := by
        rw [← back]
        exact front_append_back.symm
      exact canonical.unfragmentable_front split high header mem

lemma unfragmentable_eq (canonical : Canonical headers) :
    headers.rdropWhile (fun header => !header.isRoutingOrHop) =
      (frontHeaders headers).rdropWhile fun header => !header.isRoutingOrHop := by
  have back : ∀ header ∈ (backHeaders headers).reverse, (!header.isRoutingOrHop) = true := by
    intro header mem
    rw [isRoutingOrHop_back canonical header (mem_reverse.mp mem)]
    rfl
  conv_lhs => rw [← @front_append_back headers]
  rw [List.rdropWhile, reverse_append, dropWhile_append_of_pos back]
  rfl

lemma unfragmentable_le (canonical : Canonical headers) :
    headersByteLength (headers.rdropWhile fun header => !header.isRoutingOrHop) ≤
      headersByteLength (frontHeaders headers) := by
  rw [unfragmentable_eq canonical]
  obtain ⟨rest, split⟩ :=
    rdropWhile_prefix (fun header => !header.isRoutingOrHop) (frontHeaders headers)
  conv_rhs => rw [← split]
  rw [headersByteLength_append]
  exact Nat.le_add_right _ _

lemma headerGap_eq_zero_iff (canonical : Canonical headers)
    (plain : ∀ header ∈ headers, header.isFragmentHeader = false) :
    headerGap headers = 0 ↔ ¬ DestinationOptionsLast headers := by
  have le := unfragmentable_le canonical
  rw [headerGap]
  rw [unfragmentable_eq canonical] at le ⊢
  obtain ⟨rest, split⟩ :=
    rdropWhile_prefix (fun header => !header.isRoutingOrHop) (frontHeaders headers)
  constructor
  · rintro zero ⟨header, last, dest⟩
    -- nothing is dropped, so the last header in front is a routing or hop-by-hop header
    have whole : rest = [] := by
      by_contra nonempty
      have pos := headersByteLength_pos nonempty
      have sum := congrArg headersByteLength split
      rw [headersByteLength_append] at sum
      omega
    rw [whole, append_nil] at split
    rw [rdropWhile_eq_self_iff] at split
    have nonempty : frontHeaders headers ≠ [] := by
      rintro nil
      simp [nil] at last
    have unfragmentable := split nonempty
    rw [getLast?_eq_getLast_of_ne_nil nonempty] at last
    rw [Option.some.inj last] at unfragmentable
    have := IPv6ExtensionHeader.order_of_isRoutingOrHop (by simpa using unfragmentable)
    omega
  · intro notLast
    have whole : (frontHeaders headers).rdropWhile (fun header => !header.isRoutingOrHop) =
        frontHeaders headers := by
      rw [rdropWhile_eq_self_iff]
      intro nonempty
      have mem := getLast_mem nonempty
      have low : ((frontHeaders headers).getLast nonempty).order ≤ 3 := by
        simpa using mem_takeWhile_imp mem
      have notFragment := plain _ (takeWhile_subset _ mem)
      rcases IPv6ExtensionHeader.order_le_two low notFragment with unfragmentable | dest
      · simpa using unfragmentable
      · exact absurd ⟨_, getLast?_eq_getLast_of_ne_nil nonempty, dest⟩ notLast
    rw [whole, Nat.sub_self]

lemma addExtensionHeader_fragment (fh : IPv6FragmentHeader)
    (plain : ∀ header ∈ headers, header.isFragmentHeader = false) :
    addExtensionHeader headers (.fragment fh) =
      .ok (frontHeaders headers ++ .fragment fh :: backHeaders headers) := by
  rw [addExtensionHeader]
  induction headers with
  | nil => rfl
  | cons that headers ih =>
    have thatPlain := plain that mem_cons_self
    have rest := ih fun header mem => plain header (mem_cons_of_mem _ mem)
    have order : IPv6ExtensionHeader.order (.fragment fh) = 3 := rfl
    rw [order] at rest ⊢
    rw [insertHeader, frontHeaders, backHeaders, takeWhile_cons, dropWhile_cons]
    by_cases high : 3 < that.order
    · rw [if_pos high, if_neg (by simpa using high), if_neg (by simpa using high)]
      rfl
    · have low : that.order ≤ 3 := not_lt.mp high
      have notSame : ¬ 3 = that.order := by
        rcases IPv6ExtensionHeader.order_le_two low thatPlain with unfragmentable | dest
        · have := IPv6ExtensionHeader.order_of_isRoutingOrHop unfragmentable
          omega
        · omega
      rw [if_neg high, if_neg notSame, rest, if_pos (by simpa using low),
        if_pos (by simpa using low)]
      rfl

end

/-! ## The fragments made -/

/-- What the loop makes at an offset. -/
def fragmentAt (datagram : IPv6Datagram P) (identification headerLength fragmentLength
    payloadLength offset : ℕ) : IPv6Datagram P :=
  { datagram with
    encapsulatedPacket := if offset = 0 then datagram.encapsulatedPacket else none
    extensionHeaders := frontHeaders datagram.extensionHeaders ++
      .fragment ⟨identification, offset, !decide (payloadLength ≤ offset + fragmentLength)⟩ ::
        backHeaders datagram.extensionHeaders
    byteLength := headerLength + 8 + min fragmentLength (payloadLength - offset) }

def fragmentsFrom (datagram : IPv6Datagram P) (identification headerLength fragmentLength
    payloadLength : ℕ) : ℕ → ℕ → List (IPv6Datagram P)
  | 0, _ => []
  | fuel + 1, offset =>
      if offset < payloadLength then
        fragmentAt datagram identification headerLength fragmentLength payloadLength offset ::
          fragmentsFrom datagram identification headerLength fragmentLength payloadLength fuel
            (offset + fragmentLength)
      else []

namespace IPv6Datagram

/-- The range that `IPv6FragBuf::addFragment` derives from a fragment, as `int`s: where it
begins. -/
def rangeBeg (datagram : IPv6Datagram P) : ℤ :=
  match datagram.findFragmentHeader with
  | some fh => fh.fragmentOffset
  | none => 0

/-- Where the derived range ends. -/
def rangeEnd (datagram : IPv6Datagram P) : ℤ :=
  match datagram.findFragmentHeader, datagram.calculateFragmentLength with
  | some fh, .ok fragmentLength => fh.fragmentOffset + fragmentLength
  | _, _ => 0

end IPv6Datagram

section

variable {d : IPv6Datagram P} {headers front back : List IPv6ExtensionHeader}
  {fh : IPv6FragmentHeader} {ident headerLength fragmentLength payloadLength offset : ℕ}

variable (canonical : Canonical d.extensionHeaders)
include canonical

lemma makeFragment_eq (plain : ∀ header ∈ d.extensionHeaders, header.isFragmentHeader = false)
    (lt : offset < payloadLength) :
    makeFragment d ident headerLength fragmentLength payloadLength offset =
      .ok (fragmentAt d ident headerLength fragmentLength payloadLength offset) := by
  simp only [makeFragment, canonical.dup_eq, addExtensionHeader_fragment _ plain, bind, Except.bind,
    pure, Except.pure, fragmentAt, Except.ok.injEq, IPv6Datagram.mk.injEq, and_true,
    IPv6ExtensionHeader.byteLength]
  by_cases last : payloadLength ≤ offset + fragmentLength
  · rw [decide_eq_true last, if_pos rfl]
    omega
  · rw [decide_eq_false last, if_neg Bool.false_ne_true]
    omega

lemma fragmentLoop_eq (plain : ∀ header ∈ d.extensionHeaders, header.isFragmentHeader = false)
    {fuel : ℕ} :
    fragmentLoop d ident headerLength fragmentLength payloadLength fuel offset =
      .ok (fragmentsFrom d ident headerLength fragmentLength payloadLength fuel offset) := by
  induction fuel generalizing offset with
  | zero => rfl
  | succ fuel ih =>
    rw [fragmentLoop, fragmentsFrom]
    split
    · rename_i lt
      rw [makeFragment_eq canonical plain lt, ih]
      rfl
    · rfl

omit canonical in
lemma subtractHeaders_front {len : ℤ}
    (plain : ∀ header ∈ front, header.isFragmentHeader = false) :
    IPv6Datagram.subtractHeaders len (front ++ .fragment fh :: back) =
      .ok (len - headersByteLength front - 8) := by
  induction front generalizing len with
  | nil =>
    simp [IPv6Datagram.subtractHeaders, IPv6ExtensionHeader.isFragmentHeader,
      IPv6ExtensionHeader.byteLength, headersByteLength]
  | cons header front ih =>
    have first := plain header mem_cons_self
    have rest := @ih (len - header.byteLength) fun h mem => plain h (mem_cons_of_mem _ mem)
    rw [cons_append, IPv6Datagram.subtractHeaders, first, if_neg Bool.false_ne_true, rest]
    simp only [headersByteLength, map_cons, sum_cons, Nat.cast_add, Except.ok.injEq]
    omega

omit canonical in
lemma findFragmentHeader_front (plain : ∀ header ∈ front, header.isFragmentHeader = false)
    (eq : d.extensionHeaders = front ++ .fragment fh :: back) : d.findFragmentHeader = some fh := by
  rw [IPv6Datagram.findFragmentHeader, eq]
  clear eq
  induction front with
  | nil => rfl
  | cons header front ih =>
    cases header with
    | plain type length pos =>
      exact ih fun h mem => plain h (mem_cons_of_mem _ mem)
    | fragment fh' => cases plain _ mem_cons_self

omit canonical in
lemma calculateFragmentLength_ok (found : d.findFragmentHeader = some fh) :
    ∃ len, d.calculateFragmentLength = .ok len := by
  rw [IPv6Datagram.findFragmentHeader] at found
  rw [IPv6Datagram.calculateFragmentLength]
  generalize (d.byteLength : ℤ) - 40 = len
  generalize d.extensionHeaders = headers at found
  induction headers generalizing len with
  | nil => cases found
  | cons header headers ih =>
    cases header with
    | plain type length pos => exact ih _ (by simpa using found)
    | fragment fh' => exact ⟨_, rfl⟩

omit canonical in
lemma eraseP_front (plain : ∀ header ∈ front, header.isFragmentHeader = false) :
    (front ++ .fragment fh :: back).eraseP IPv6ExtensionHeader.isFragmentHeader = front ++ back := by
  rw [eraseP_append_right]
  · rfl
  · intro header mem
    rw [plain header mem]
    exact Bool.false_ne_true

/-- The receiver's idea of a fragment's length falls short by the header gap. -/
lemma calculateFragmentLength_fragmentAt
    (plain : ∀ header ∈ d.extensionHeaders, header.isFragmentHeader = false)
    (header : headerLength = d.calculateUnfragmentableHeaderByteLength) :
    (fragmentAt d ident headerLength fragmentLength payloadLength offset).calculateFragmentLength =
      .ok (min fragmentLength (payloadLength - offset) - headerGap d.extensionHeaders) := by
  have frontPlain : ∀ header ∈ frontHeaders d.extensionHeaders,
      header.isFragmentHeader = false :=
    fun header mem => plain header (takeWhile_subset _ mem)
  have le := unfragmentable_le canonical
  rw [IPv6Datagram.calculateFragmentLength]
  simp only [fragmentAt]
  rw [subtractHeaders_front frontPlain, header, headerGap,
    IPv6Datagram.calculateUnfragmentableHeaderByteLength, Except.ok.injEq]
  omega

omit canonical in
lemma findFragmentHeader_fragmentAt
    (plain : ∀ header ∈ d.extensionHeaders, header.isFragmentHeader = false) :
    (fragmentAt d ident headerLength fragmentLength payloadLength offset).findFragmentHeader =
      some ⟨ident, offset, !decide (payloadLength ≤ offset + fragmentLength)⟩ :=
  findFragmentHeader_front (fun header mem => plain header (takeWhile_subset _ mem)) rfl

lemma range_fragmentAt (plain : ∀ header ∈ d.extensionHeaders, header.isFragmentHeader = false)
    (header : headerLength = d.calculateUnfragmentableHeaderByteLength) :
    (fragmentAt d ident headerLength fragmentLength payloadLength offset).rangeBeg = offset ∧
      (fragmentAt d ident headerLength fragmentLength payloadLength offset).rangeEnd =
          offset + (min fragmentLength (payloadLength - offset) -
            headerGap d.extensionHeaders) := by
  rw [IPv6Datagram.rangeBeg, IPv6Datagram.rangeEnd, findFragmentHeader_fragmentAt plain,
    calculateFragmentLength_fragmentAt canonical plain header]
  exact ⟨rfl, rfl⟩

omit canonical in
lemma mem_fragmentsFrom {fuel : ℕ} {fragment : IPv6Datagram P}
    (mem : fragment ∈ fragmentsFrom d ident headerLength fragmentLength payloadLength fuel offset) :
    ∃ o < payloadLength,
      fragment = fragmentAt d ident headerLength fragmentLength payloadLength o := by
  induction fuel generalizing offset with
  | zero => cases mem
  | succ fuel ih =>
    rw [fragmentsFrom] at mem
    split at mem
    · rename_i lt
      rcases mem_cons.mp mem with rfl | mem
      · exact ⟨offset, lt, rfl⟩
      · exact ih mem
    · cases mem

lemma fragmentsFrom_tiles (plain : ∀ header ∈ d.extensionHeaders, header.isFragmentHeader = false)
    (header : headerLength = d.calculateUnfragmentableHeaderByteLength)
    (noGap : headerGap d.extensionHeaders = 0) (pos : 0 < fragmentLength) {fuel : ℕ}
    (enough : payloadLength - offset ≤ fuel) (le : offset ≤ payloadLength) :
    Tiles IPv6Datagram.rangeBeg IPv6Datagram.rangeEnd (offset : ℤ)
      (fragmentsFrom d ident headerLength fragmentLength payloadLength fuel offset)
      (payloadLength : ℤ) := by
  induction fuel generalizing offset with
  | zero =>
    change (offset : ℤ) = payloadLength
    omega
  | succ fuel ih =>
    rw [fragmentsFrom]
    split
    · rename_i lt
      obtain ⟨beg, end_⟩ := @range_fragmentAt _ d ident headerLength fragmentLength
        payloadLength offset canonical plain header
      rw [noGap] at end_
      refine ⟨beg, by rw [beg, end_]; omega, ?_⟩
      rw [end_]
      by_cases last : payloadLength ≤ offset + fragmentLength
      · have nothing : fragmentsFrom d ident headerLength fragmentLength
            payloadLength fuel (offset + fragmentLength) = [] := by
          cases fuel with
          | zero => rfl
          | succ fuel => exact if_neg (not_lt.mpr last)
        rw [nothing]
        simp only [Tiles]
        omega
      · have rest := ih (by omega : payloadLength - (offset + fragmentLength) ≤ fuel) (by omega)
        have whole : fragmentLength ≤ payloadLength - offset := by omega
        rw [min_eq_left whole, Nat.cast_zero, sub_zero, ← Nat.cast_add]
        exact rest
    · simp only [Tiles]
      omega

lemma fragmentsFrom_not_tiles
    (plain : ∀ header ∈ d.extensionHeaders, header.isFragmentHeader = false)
    (header : headerLength = d.calculateUnfragmentableHeaderByteLength)
    (gap : headerGap d.extensionHeaders ≠ 0) (pos : 0 < fragmentLength)
    (several : fragmentLength < payloadLength) :
    ¬ Tiles IPv6Datagram.rangeBeg IPv6Datagram.rangeEnd (0 : ℤ)
      (fragmentsFrom d ident headerLength fragmentLength payloadLength
        payloadLength 0) (payloadLength : ℤ) := by
  intro tiles
  obtain ⟨fuel, rfl⟩ : ∃ fuel, payloadLength = fuel + 2 := ⟨payloadLength - 2, by omega⟩
  rw [fragmentsFrom, if_pos (by omega), Nat.zero_add, fragmentsFrom, if_pos several] at tiles
  obtain ⟨-, -, beg, -⟩ := tiles
  have first := (@range_fragmentAt _ d ident headerLength fragmentLength
    (fuel + 2) 0 canonical plain header).2
  have second := (@range_fragmentAt _ d ident headerLength fragmentLength
    (fuel + 2) fragmentLength canonical plain header).1
  omega

end

end Inet.Ipv6
