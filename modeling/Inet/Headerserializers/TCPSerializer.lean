import Inet.Base.SimError
import Inet.Headerserializers.TCPIPchecksum
import Inet.Tcp.Segment
import Mathlib

/-!
# TCPSerializer

The bytes of a TCP segment, as they are written and as they are parsed.
-/

namespace Inet

/-- A `TCPSegment` with what only the serializer reads of it. -/
structure TCPPacket extends Tcp.TCPSegment where
  urgentPointer : UInt16 := 0
  /-- Of the `cPacket`. -/
  byteLength : ℕ

def IP_PROT_TCP : UInt8 := 6

def IP_PROT_TCP2 : UInt8 := 7

namespace TCPSerializer

open Tcp

def TH_FIN : UInt8 := 0x01

def TH_SYN : UInt8 := 0x02

def TH_RST : UInt8 := 0x04

def TH_PUSH : UInt8 := 0x08

def TH_ACK : UInt8 := 0x10

def TH_URG : UInt8 := 0x20

def TH_FLAGS : UInt8 := 0x3F

/-- Sets the bit field `th_offs`, and leaves the field `th_x2` in the same byte. -/
def storeOffs (mem : Memory) (buf offs : ℕ) : Memory :=
  mem.store8 (buf + 12) ((mem (buf + 12) &&& (0x0F : UInt8)) ||| (UInt8.ofNat offs <<< 4))

def loadOffs (mem : Memory) (buf : ℕ) : ℕ := (mem (buf + 12) >>> 4).toNat

def headerFlags (tcpseg : TCPSegment) : UInt8 :=
  let flag (bit : Bool) (flag : UInt8) : UInt8 := if bit then flag else 0
  TH_FLAGS &&& (flag tcpseg.finBit TH_FIN ||| flag tcpseg.synBit TH_SYN |||
    flag tcpseg.rstBit TH_RST ||| flag tcpseg.pshBit TH_PUSH ||| flag tcpseg.ackBit TH_ACK |||
    flag tcpseg.urgBit TH_URG)

/-- The structure `tcphdr`, without options. -/
def storeHeader (tcpseg : TCPPacket) (mem : Memory) (buf : ℕ) : Memory :=
  let mem := mem.store16 (buf + 16) 0
  let mem := mem.store16 buf tcpseg.srcPort
  let mem := mem.store16 (buf + 2) tcpseg.destPort
  let mem := mem.store32 (buf + 4) tcpseg.sequenceNo
  let mem := mem.store32 (buf + 8) tcpseg.ackNo
  let mem := storeOffs mem buf (TCP_HEADER_OCTETS / 4)
  let mem := mem.store8 (buf + 13) (headerFlags tcpseg.toTCPSegment)
  let mem := mem.store16 (buf + 14) tcpseg.window
  mem.store16 (buf + 18) tcpseg.urgentPointer

/-! ## Options -/

def kindNumber : TCPOptionNumbers → ℤ
  | .endOfOptionList => 0
  | .noOperation => 1
  | .maximumSegmentSize => 2
  | .windowScale => 3
  | .sackPermitted => 4
  | .sack => 5
  | .timestamp => 8
  | .unsupported kind => kind

def optionKind (kind : UInt8) : TCPOptionNumbers :=
  if kind = 0 then .endOfOptionList
  else if kind = 1 then .noOperation
  else if kind = 2 then .maximumSegmentSize
  else if kind = 3 then .windowScale
  else if kind = 4 then .sackPermitted
  else if kind = 5 then .sack
  else if kind = 8 then .timestamp
  else .unsupported kind.toNat

/-- The loop over `p`, downward, for the `count` bytes from `p0` on. -/
def storeValue (mem : Memory) (p0 : ℕ) : ℕ → UInt32 → Memory
  | 0, _ => mem
  | count + 1, value => storeValue (mem.store8 (p0 + count) value.toUInt8) p0 count (value >>> 8)

/-- The bytes for the value with the index `k`, where the value before it has ended. -/
def valueLength (length k : ℕ) : ℕ :=
  (if length = 0 then 5 + 4 * k else min (length - 1) (5 + 4 * k)) + 1 - (2 + 4 * k)

/-- The loop over `k`. -/
def storeValues (options length : ℕ) : ℕ → List UInt32 → Memory → Memory
  | _, [], mem => mem
  | k, value :: values, mem =>
      storeValues options length (k + 1) values
        (storeValue mem (options + (2 + 4 * k)) (valueLength length k) value)

def storeOption (options : ℕ) (option : TCPOption) (mem : Memory) : Memory :=
  let mem := mem.store8 options (UInt8.ofInt (kindNumber option.kind))
  let mem := if 1 < option.length then mem.store8 (options + 1) (UInt8.ofNat option.length) else mem
  storeValues options option.length 0 option.values mem

/-- The loop over the options, with `lengthCounter`. -/
def storeOptions (th_options maxOptLength : ℕ) :
    List TCPOption → ℕ → Memory → Except SimError (ℕ × Memory)
  | [], lengthCounter, mem => .ok (lengthCounter, mem)
  | option :: options, lengthCounter, mem =>
      if lengthCounter + option.length ≤ maxOptLength then
        storeOptions th_options maxOptLength options (lengthCounter + option.length)
          (storeOption (th_options + lengthCounter) option mem)
      else .error (.assertion "lengthCounter <= maxOptLength")

/-- The loop that pads the options with zeros. -/
def padding (lengthCounter : ℕ) : ℕ := (4 - lengthCounter % 4) % 4

def serializeOptions (tcpseg : TCPPacket) (mem : Memory) (buf : ℕ) : Except SimError (ℕ × Memory) :=
  let numOptions := tcpseg.options.length % 65536
  if 0 < numOptions then do
    let maxOptLength := UInt32.ofNat tcpseg.headerLength - UInt32.ofNat TCP_HEADER_OCTETS
    let (lengthCounter, mem) ← storeOptions (buf + 20) maxOptLength.toNat
      (tcpseg.options.take numOptions) 0 mem
    let mem := mem.store (buf + 20 + lengthCounter) (List.replicate (padding lengthCounter) 0)
    let lengthCounter := lengthCounter + padding lengthCounter
    if TCP_HEADER_OCTETS + lengthCounter ≤ TCP_MAX_HEADER_OCTETS then
      return (lengthCounter, storeOffs mem buf ((TCP_HEADER_OCTETS + lengthCounter) / 4))
    else .error (.assertion "TCP_HEADER_OCTETS+lengthCounter <= TCP_MAX_HEADER_OCTETS")
  else .ok (0, mem)

def storeData (tcpseg : TCPPacket) (mem : Memory) (tcpData : ℕ) : Except SimError Memory :=
  if tcpseg.headerLength < tcpseg.byteLength then
    let dataLength := UInt32.ofNat (tcpseg.byteLength - tcpseg.headerLength)
    if 0 < tcpseg.byteArray.getDataArraySize then
      if tcpseg.byteArray.getDataArraySize = dataLength then
        .ok (mem.store tcpData (tcpseg.byteArray.copyDataToBuffer dataLength 0))
      else .error (.assertion "tcpseg->getByteArray().getDataArraySize() == dataLength")
    else .ok (mem.store tcpData (List.replicate dataLength.toNat 't'.toUInt8))
  else .ok mem

/-- `serialize(tcpseg, buf, bufsize)`: the bytes written, and the memory with them in it. -/
def serialize (tcpseg : TCPPacket) (mem : Memory) (buf : ℕ) : Except SimError (UInt32 × Memory) := do
  let (lengthCounter, mem) ← serializeOptions tcpseg (storeHeader tcpseg mem buf) buf
  let mem ← storeData tcpseg mem (buf + 20 + lengthCounter)
  return (UInt32.ofNat tcpseg.byteLength, mem)

/-- The words of an address, as the host has them in memory. -/
def addressMemory (words : List UInt32) : Memory := fun i =>
  (words.flatMap fun word : UInt32 =>
    [word.toUInt8, (word >>> 8).toUInt8, (word >>> 16).toUInt8, (word >>> 24).toUInt8]).getD i 0

def addressSum (words : List UInt32) : UInt32 :=
  (TCPIPchecksum.htons (TCPIPchecksum.partialChecksum (addressMemory words) 0
    (4 * words.length))).toUInt32

/-- `checksum` and `checksum2`, which differ in the protocol. -/
def checksum (protocol : UInt8) (mem : Memory) (addr : ℕ) (count : UInt32)
    (srcIp destIp : List UInt32) : Except SimError UInt16 :=
  if srcIp.length = destIp.length then
    let sum := (TCPIPchecksum.partialChecksum mem addr count.toNat).toUInt32
    let sum := sum + addressSum srcIp + addressSum destIp
    let sum := sum + (TCPIPchecksum.htons count.toUInt16).toUInt32
    let sum := sum + (TCPIPchecksum.htons protocol.toUInt16).toUInt32
    .ok (~~~(TCPIPchecksum.foldCarries 2 sum).toUInt16)
  else .error (.assertion "srcIp.wordCount() == destIp.wordCount()")

/-- `serialize` and `serialize2` with addresses, for the checksum. -/
def serializeWithChecksum (protocol : UInt8) (tcpseg : TCPPacket) (mem : Memory) (buf : ℕ)
    (srcIp destIp : List UInt32) : Except SimError (UInt32 × Memory) := do
  let (writtenbytes, mem) ← serialize tcpseg mem buf
  let th_sum ← checksum protocol mem buf writtenbytes srcIp destIp
  return (writtenbytes, TCPIPchecksum.storeWord mem (buf + 16) th_sum)

def serialize1 : TCPPacket → Memory → ℕ → List UInt32 → List UInt32 →
    Except SimError (UInt32 × Memory) :=
  serializeWithChecksum IP_PROT_TCP

def serialize2 : TCPPacket → Memory → ℕ → List UInt32 → List UInt32 →
    Except SimError (UInt32 × Memory) :=
  serializeWithChecksum IP_PROT_TCP2

/-- The loop over `l`. -/
def loadValue (mem : Memory) (p0 count : ℕ) : UInt32 :=
  (mem.load p0 count).foldl (fun value byte => (value <<< 8) + byte.toUInt32) 0

def parseOption (mem : Memory) (options : ℕ) : TCPOption :=
  let kind := mem options
  let length := if kind = 0 ∨ kind = 1 then 1 else (mem (options + 1)).toNat
  { kind := optionKind kind
    length := length
    values := (List.range ((length + 1) / 4)).map fun k =>
      loadValue mem (options + (2 + 4 * k)) (min length (6 + 4 * k) - (2 + 4 * k)) }

/-- The loop over `j`. Unless the length of an option is zero, it takes one round for a byte at
most. -/
def parseOptions (mem : Memory) (th_options optionBytes : ℕ) :
    ℕ → ℕ → Except SimError (List TCPOption)
  | 0, j => if j < optionBytes then .error .nonTermination else .ok []
  | rounds + 1, j =>
      if j < optionBytes then do
        let option := parseOption mem (th_options + j)
        let options ← parseOptions mem th_options optionBytes rounds (j + option.length)
        return option :: options
      else .ok []

def parseHeaderOptions (mem : Memory) (buf hdrLength : ℕ) : Except SimError (List TCPOption) :=
  if TCP_HEADER_OCTETS < hdrLength then
    parseOptions mem (buf + 20) (hdrLength - TCP_HEADER_OCTETS) (hdrLength - TCP_HEADER_OCTETS) 0
  else .ok []

/-- The segment with these options. -/
def parsedSegment (mem : Memory) (buf : ℕ) (bufsize : UInt32) (withBytes : Bool)
    (options : List TCPOption) : TCPPacket :=
  let hdrLength := loadOffs mem buf * 4
  let flags := mem (buf + 13)
  let length := bufsize - UInt32.ofNat hdrLength
  { srcPort := mem.load16 buf
    destPort := mem.load16 (buf + 2)
    sequenceNo := mem.load32 (buf + 4)
    ackNo := mem.load32 (buf + 8)
    headerLength := hdrLength
    finBit := flags &&& TH_FIN = TH_FIN
    synBit := flags &&& TH_SYN = TH_SYN
    rstBit := flags &&& TH_RST = TH_RST
    pshBit := flags &&& TH_PUSH = TH_PUSH
    ackBit := flags &&& TH_ACK = TH_ACK
    urgBit := flags &&& TH_URG = TH_URG
    window := mem.load16 (buf + 14)
    urgentPointer := mem.load16 (buf + 18)
    options := options
    byteLength := bufsize.toNat
    payloadLength := length.toNat
    byteArray :=
      if withBytes then
        .setDataFromBuffer (mem.load (buf + hdrLength) length.toNat) length
      else .empty }

/-- `parse(buf, bufsize, tcpseg, withBytes)` for a new segment. -/
def parse (mem : Memory) (buf : ℕ) (bufsize : UInt32) (withBytes : Bool) :
    Except SimError TCPPacket := do
  let options ← parseHeaderOptions mem buf (loadOffs mem buf * 4)
  if withBytes ∧ bufsize < UInt32.ofNat (loadOffs mem buf * 4) then
    .error (.undefinedBehavior "memcpy(data_var, ptr, length)")
  else return parsedSegment mem buf bufsize withBytes options

end TCPSerializer

end Inet

/-! ## The bytes of TCP options -/

namespace Inet.TCPSerializer

open Tcp Memory List

variable {mem : Memory} {option : TCPOption} {options : List TCPOption}

lemma toNat_shiftRight_eight (value : UInt32) : (value >>> 8).toNat = value.toNat / 256 := by
  exact Nat.shiftRight_eq_div_pow value.toNat 8

lemma storeValue_eq (p0 count : ℕ) (value : UInt32) :
    storeValue mem p0 count value = mem.store p0 (bigEndian count value.toNat) := by
  induction count generalizing mem value with
  | zero => exact store_nil.symm
  | succ count ih =>
    rw [storeValue, ih, toNat_shiftRight_eight, Memory.store8, store_comm, bigEndian,
      ← store_append, length_bigEndian]
    · rfl
    · rw [length_bigEndian]
      exact Or.inl le_rfl

lemma loadValue_loop (bs : List UInt8) (value : ℕ) :
    bs.foldl (fun (value : UInt32) byte => (value <<< 8) + byte.toUInt32) (UInt32.ofNat value) =
      UInt32.ofNat (bs.foldl (fun value byte => value * 256 + byte.toNat) value) := by
  induction bs generalizing value with
  | nil => rfl
  | cons byte bs ih =>
    have first : (UInt32.ofNat value <<< 8) + byte.toUInt32 =
        UInt32.ofNat (value * 256 + byte.toNat) := by
      have shifted : (UInt32.ofNat value <<< 8).toNat = value % 4294967296 * 256 % 4294967296 := by
        exact congrArg (· % 4294967296) (Nat.shiftLeft_eq _ 8)
      rw [← UInt32.toNat_inj, UInt32.toNat_add, shifted, UInt32.toNat_ofNat', UInt8.toNat_toUInt32]
      omega
    rw [foldl_cons, foldl_cons, first, ih]

lemma loadValue_eq (p0 count : ℕ) :
    loadValue mem p0 count = UInt32.ofNat (ofBigEndian (mem.load p0 count)) :=
  loadValue_loop _ 0

/-! ## Options -/

/-- An option as the connection builds it. -/
def IsOption (option : TCPOption) : Prop :=
  match option.kind with
  | .endOfOptionList => option.length = 1 ∧ option.values.length = 0
  | .noOperation => option.length = 1 ∧ option.values.length = 0
  | .maximumSegmentSize => option.length = 4 ∧ option.values.length = 1
  | .windowScale => option.length = 3 ∧ option.values.length = 1
  | .sackPermitted => option.length = 2 ∧ option.values.length = 0
  | .sack => option.length = 2 + 4 * option.values.length ∧ option.values.length % 2 = 0
  | .timestamp => option.length = 10 ∧ option.values.length = 2
  | .unsupported _ => False

/-- The option has the bytes for its values. -/
def Fits (option : TCPOption) : Prop :=
  match option.kind with
  | .maximumSegmentSize => ∀ value ∈ option.values, value.toNat < 65536
  | .windowScale => ∀ value ∈ option.values, value.toNat < 256
  | _ => True

instance : Decidable (IsOption option) := by
  unfold IsOption
  split <;> infer_instance

instance : Decidable (Fits option) := by
  unfold Fits
  split <;> infer_instance

variable (isOption : IsOption option)
include isOption

lemma IsOption.values : option.values.length = (option.length + 1) / 4 := by
  unfold IsOption at isOption
  split at isOption <;> first | omega | exact isOption.elim

lemma IsOption.length_pos : 0 < option.length := by
  unfold IsOption at isOption
  split at isOption <;> first | omega | exact isOption.elim

lemma IsOption.length_eq_one_iff :
    option.length = 1 ↔ option.kind = .endOfOptionList ∨ option.kind = .noOperation := by
  unfold IsOption at isOption
  split at isOption <;> rename_i kind <;> rw [kind]
  all_goals simp only [reduceCtorEq, or_true, true_or, or_self, iff_true, iff_false]
  all_goals first | omega | exact isOption.elim

lemma IsOption.kind : optionKind (UInt8.ofInt (kindNumber option.kind)) = option.kind := by
  unfold IsOption at isOption
  split at isOption <;> rename_i kind <;> rw [kind]
  all_goals first | rfl | exact isOption.elim

lemma IsOption.single_iff :
    (UInt8.ofInt (kindNumber option.kind) = 0 ∨ UInt8.ofInt (kindNumber option.kind) = 1) ↔
      option.length = 1 := by
  rw [isOption.length_eq_one_iff]
  unfold IsOption at isOption
  split at isOption <;> rename_i kind <;> rw [kind]
  all_goals first | decide | exact isOption.elim

/-- The bytes of the values from index `k` on. -/
def valuesBytes (length : ℕ) : ℕ → List UInt32 → List UInt8
  | _, [] => []
  | k, value :: values =>
      bigEndian (valueLength length k) value.toNat ++ valuesBytes length (k + 1) values

def optionBytes (option : TCPOption) : List UInt8 :=
  UInt8.ofInt (kindNumber option.kind) ::
    if 1 < option.length then
      UInt8.ofNat option.length :: valuesBytes option.length 0 option.values
    else []

variable {values : List UInt32}

omit isOption in
lemma length_valuesBytes {length k : ℕ} (le : 2 + 4 * k ≤ length)
    (count : k + values.length = (length + 1) / 4) :
    (valuesBytes length k values).length = length - (2 + 4 * k) := by
  induction values generalizing k with
  | nil =>
    rw [length_nil] at count
    change 0 = _
    omega
  | cons value values ih =>
    rw [length_cons] at count
    rw [valuesBytes, length_append, length_bigEndian, valueLength, if_neg (by omega)]
    cases values with
    | nil =>
      rw [length_nil] at count
      change _ + 0 = _
      omega
    | cons value' values =>
      rw [length_cons] at count ih
      rw [ih (by omega) (by omega)]
      omega

lemma IsOption.length_optionBytes : (optionBytes option).length = option.length := by
  have pos := isOption.length_pos
  rw [optionBytes, length_cons]
  split_ifs with long
  · rw [length_cons, length_valuesBytes (by omega) (by have := isOption.values; omega)]
    omega
  · change 0 + 1 = _
    omega

omit isOption in
lemma storeValues_eq {at_ length k : ℕ} (le : 2 + 4 * k ≤ length)
    (count : k + values.length = (length + 1) / 4) :
    storeValues at_ length k values mem =
      mem.store (at_ + (2 + 4 * k)) (valuesBytes length k values) := by
  induction values generalizing k mem with
  | nil => exact store_nil.symm
  | cons value values ih =>
    rw [length_cons] at count
    rw [storeValues, storeValue_eq, valuesBytes]
    cases values with
    | nil => rw [storeValues, valuesBytes, append_nil]
    | cons value' values =>
      rw [length_cons] at count ih
      have whole : valueLength length k = 4 := by
        rw [valueLength, if_neg (by omega)]
        omega
      rw [ih (by omega) (by omega), ← store_append, length_bigEndian, whole]
      congr 1

lemma storeOption_eq (at_ : ℕ) :
    storeOption at_ option mem = mem.store at_ (optionBytes option) := by
  have values := isOption.values
  rw [storeOption, optionBytes]
  by_cases long : 1 < option.length
  · rw [if_pos long, if_pos long]
    rw [storeValues_eq (by omega) (by omega), Memory.store8, Memory.store8]
    have pair : ((mem.store at_ [UInt8.ofInt (kindNumber option.kind)]).store (at_ + 1)
        [UInt8.ofNat option.length]) = mem.store at_ [UInt8.ofInt (kindNumber option.kind),
          UInt8.ofNat option.length] :=
      store_append
    rw [pair]
    exact store_append
  · rw [if_neg long, if_neg long]
    have none_ : option.values = [] := length_eq_zero_iff.mp (by omega)
    rw [none_]
    rfl

omit isOption in
lemma storeOptions_eq {th_options maxOptLength lengthCounter : ℕ}
    (areOptions : ∀ option ∈ options, IsOption option)
    (fits : lengthCounter + (options.map TCPOption.length).sum ≤ maxOptLength) :
    storeOptions th_options maxOptLength options lengthCounter mem =
      .ok (lengthCounter + (options.map TCPOption.length).sum,
        mem.store (th_options + lengthCounter) (options.flatMap optionBytes)) := by
  induction options generalizing lengthCounter mem with
  | nil =>
    rw [storeOptions, flatMap_nil, store_nil]
    rfl
  | cons option options ih =>
    have isOption := areOptions option mem_cons_self
    rw [map_cons, sum_cons] at fits ⊢
    rw [storeOptions, if_pos (by omega), storeOption_eq isOption,
      ih (fun option mem => areOptions option (mem_cons_of_mem _ mem)) (by omega),
      flatMap_cons, ← store_append, isOption.length_optionBytes, Nat.add_assoc,
      Nat.add_assoc]

/-! ## Parsing -/

/-- The option with each value cut to the bytes it has. -/
def cutOption (option : TCPOption) : TCPOption :=
  { option with values := option.values.mapIdx fun k value =>
      UInt32.ofNat (value.toNat % 256 ^ valueLength option.length k) }

omit isOption in
lemma loadValues_eq {at_ length k : ℕ} (le : 2 + 4 * k ≤ length)
    (count : k + values.length = (length + 1) / 4)
    (bs : mem.load (at_ + (2 + 4 * k)) (length - (2 + 4 * k)) = valuesBytes length k values) :
    (List.range' k values.length).map (fun k =>
      loadValue mem (at_ + (2 + 4 * k)) (min length (6 + 4 * k) - (2 + 4 * k))) =
      values.mapIdx fun i value => UInt32.ofNat (value.toNat % 256 ^ valueLength length (k + i)) := by
  induction values generalizing k with
  | nil => rfl
  | cons value values ih =>
    rw [length_cons] at count
    have width : valueLength length k = min length (6 + 4 * k) - (2 + 4 * k) := by
      rw [valueLength, if_neg (by omega)]
      omega
    have parts : length - (2 + 4 * k) = valueLength length k +
        (length - (2 + 4 * k) - valueLength length k) := by omega
    rw [parts, load_add, valuesBytes] at bs
    obtain ⟨first, rest⟩ := append_inj bs (by
      rw [length_load, length_bigEndian])
    rw [length_cons, range'_succ, map_cons, mapIdx_cons, ← width,
      loadValue_eq, first, ofBigEndian_bigEndian]
    refine congrArg (_ :: ·) ?_
    cases values with
    | nil => rfl
    | cons value' values =>
      rw [length_cons] at count
      have next : at_ + (2 + 4 * k) + valueLength length k = at_ + (2 + 4 * (k + 1)) := by omega
      have left : length - (2 + 4 * k) - valueLength length k = length - (2 + 4 * (k + 1)) := by
        omega
      rw [next, left] at rest
      rw [ih (by omega) (by rw [length_cons]; omega) rest]
      refine mapIdx_eq_mapIdx_iff.mpr fun i _ => ?_
      rw [Nat.add_assoc k 1 i, Nat.add_comm 1 i]

lemma parseOption_eq (short : option.length < 256) {at_ : ℕ}
    (bs : mem.load at_ option.length = optionBytes option) :
    parseOption mem at_ = cutOption option := by
  have pos := isOption.length_pos
  have count := isOption.values
  have kind : mem at_ = UInt8.ofInt (kindNumber option.kind) := by
    have first := congrArg (fun l => l[0]?) bs
    rw [getElem?_load pos, optionBytes, getElem?_cons_zero] at first
    exact Option.some.inj first
  by_cases long : 1 < option.length
  · have length : mem (at_ + 1) = UInt8.ofNat option.length := by
      have second := congrArg (fun l => l[1]?) bs
      rw [getElem?_load long, optionBytes, if_pos long, getElem?_cons_succ,
        getElem?_cons_zero] at second
      exact Option.some.inj second
    have single : ¬ (mem at_ = 0 ∨ mem at_ = 1) := by
      rw [kind, isOption.single_iff]
      omega
    have same : (mem (at_ + 1)).toNat = option.length := by
      rw [length, UInt8.toNat_ofNat', Nat.mod_eq_of_lt short]
    have values : mem.load (at_ + (2 + 4 * 0)) (option.length - (2 + 4 * 0)) =
        valuesBytes option.length 0 option.values := by
      have parts : option.length = 2 + (option.length - 2) := by omega
      rw [parts, load_add, optionBytes, if_pos long] at bs
      have two : mem.load at_ 2 ++ mem.load (at_ + 2) (option.length - 2) =
          [_, _] ++ valuesBytes option.length 0 option.values := bs
      exact (append_inj two (by rw [length_load]; rfl)).2
    have parsed := loadValues_eq (by omega) (by omega) values
    rw [parseOption, if_neg single, same, kind, isOption.kind, ← count, range_eq_range', parsed, cutOption]
    simp only [Nat.zero_add]
  · have one : option.length = 1 := by omega
    have single : mem at_ = 0 ∨ mem at_ = 1 := by
      rw [kind, isOption.single_iff]
      exact one
    have none_ : option.values = [] := length_eq_zero_iff.mp (by omega)
    rw [parseOption, if_pos single, kind, isOption.kind, cutOption, none_, one]
    rfl

omit isOption in
lemma parseOptions_eq {th_options optionBytes_ rounds j : ℕ}
    (areOptions : ∀ option ∈ options, IsOption option)
    (short : ∀ option ∈ options, option.length < 256)
    (whole : j + (options.map TCPOption.length).sum = optionBytes_)
    (enough : (options.map TCPOption.length).sum ≤ rounds)
    (bs : mem.load (th_options + j) (options.map TCPOption.length).sum =
      options.flatMap optionBytes) :
    parseOptions mem th_options optionBytes_ rounds j = .ok (options.map cutOption) := by
  induction options generalizing j rounds with
  | nil =>
    change j + 0 = _ at whole
    cases rounds with
    | zero => rw [parseOptions, if_neg (by omega)]; rfl
    | succ rounds => rw [parseOptions, if_neg (by omega)]; rfl
  | cons option options ih =>
    have isOption := areOptions option mem_cons_self
    have pos := isOption.length_pos
    rw [map_cons, sum_cons] at whole enough bs
    rw [load_add, flatMap_cons] at bs
    obtain ⟨first, rest⟩ := append_inj bs (by
      rw [length_load, isOption.length_optionBytes])
    cases rounds with
    | zero => omega
    | succ rounds =>
      have parsed := parseOption_eq isOption (short option mem_cons_self) first
      have length : (cutOption option).length = option.length := rfl
      rw [Nat.add_assoc] at rest
      have more : parseOptions mem th_options optionBytes_ rounds (j + option.length) =
          .ok (options.map cutOption) := ih
        (fun option mem => areOptions option (mem_cons_of_mem _ mem))
        (fun option mem => short option (mem_cons_of_mem _ mem)) (by omega) (by omega) rest
      rw [parseOptions, if_pos (by omega), parsed]
      dsimp only
      rw [length, more]
      rfl

omit isOption in
lemma forall_getElem?_single (one : values.length = 1) (bound : ℕ → ℕ) :
    (∀ k value, values[k]? = some value → value.toNat < bound k) ↔
      ∀ value ∈ values, value.toNat < bound 0 := by
  obtain ⟨v, rfl⟩ := length_eq_one_iff.mp one
  constructor
  · intro each value mem
    cases mem_singleton.mp mem
    exact each 0 v rfl
  · intro each k value entry
    cases k with
    | zero => exact each value (mem_of_getElem? entry)
    | succ k => cases entry

lemma cutOption_eq_iff : cutOption option = option ↔ Fits option := by
  have values : cutOption option = option ↔ (cutOption option).values = option.values :=
    ⟨congrArg TCPOption.values, fun same => by
      rw [cutOption] at same ⊢
      dsimp only at same
      rw [same]⟩
  rw [values]
  have fits : ∀ (value : UInt32) (n : ℕ),
      UInt32.ofNat (value.toNat % 256 ^ n) = value ↔ value.toNat < 256 ^ n := by
    intro value n
    have lt := value.toNat_lt
    have le := Nat.mod_le value.toNat (256 ^ n)
    have pos : 0 < 256 ^ n := Nat.pow_pos (by decide)
    rw [← UInt32.toNat_inj, UInt32.toNat_ofNat', Nat.mod_eq_of_lt (by omega)]
    exact ⟨fun same => same ▸ Nat.mod_lt _ pos, Nat.mod_eq_of_lt⟩
  have each : (cutOption option).values = option.values ↔ ∀ k value,
      option.values[k]? = some value → value.toNat < 256 ^ valueLength option.length k := by
    constructor
    · intro same k value entry
      have cut := congrArg (fun l => l[k]?) same
      simp only [cutOption, getElem?_mapIdx, entry, Option.map_some] at cut
      exact (fits value _).mp (Option.some.inj cut)
    · intro fit
      refine ext_getElem? fun k => ?_
      simp only [cutOption, getElem?_mapIdx]
      cases entry : option.values[k]? with
      | none => rfl
      | some value => rw [Option.map_some, (fits value _).mpr (fit k value entry)]
  rw [each]
  unfold IsOption at isOption
  unfold Fits
  split at isOption <;> rename_i kind <;> rw [kind]
  case h_3 =>
    obtain ⟨length, one⟩ := isOption
    rw [forall_getElem?_single one, length]
    exact Iff.rfl
  case h_4 =>
    obtain ⟨length, one⟩ := isOption
    rw [forall_getElem?_single one, length]
    exact Iff.rfl
  case h_8 => exact isOption.elim
  -- All other values have four bytes.
  all_goals
    refine iff_of_true (fun k value entry => ?_) trivial
    have inside := (List.getElem?_eq_some_iff.mp entry).1
    have four : valueLength option.length k = 4 := by
      rw [valueLength, if_neg (by omega)]
      omega
    rw [four]
    exact value.toNat_lt

end Inet.TCPSerializer
