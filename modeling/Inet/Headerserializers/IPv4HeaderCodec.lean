import Inet.Headerserializers.IPv4Serializer

/-!
# The bytes of IPv4 headers

The header that `serialize` leaves, and which of its fields `parse` reads as they were.
-/

namespace Inet.IPv4Serializer

open Memory

variable {d : IPv4Header} {mem mem' : Memory} {buf : ℕ} {packetLength : UInt32}

/-- The header without its length is in memory. -/
structure Header (dgram : IPv4Header) (mem : Memory) (buf : ℕ) : Prop where
  ip_hl : mem buf &&& (0x0F : UInt8) = 5
  ip_tos : mem (buf + 1) = dgram.typeOfService
  ip_id : mem.load16 (buf + 4) = UInt16.ofInt dgram.identification
  ip_off : mem.load16 (buf + 6) = headerOff dgram
  ip_ttl : mem (buf + 8) = UInt8.ofInt dgram.timeToLive
  ip_p : mem (buf + 9) = UInt8.ofInt dgram.transportProtocol
  ip_src : mem.load32 (buf + 12) = addressWord dgram.srcAddress
  ip_dst : mem.load32 (buf + 16) = addressWord dgram.destAddress

lemma ip_hl_eq (byte version : UInt8) :
    ((((byte &&& (0xF0 : UInt8)) ||| (5 : UInt8)) &&& (0x0F : UInt8)) ||| (version <<< 4)) &&&
      (0x0F : UInt8) = 5 := by
  have high : (version.toNat <<< 4 % 256) &&& 15 = 0 := by
    have sixteen : version.toNat <<< 4 = version.toNat * 16 := Nat.shiftLeft_eq _ 4
    have low : (version.toNat * 16 % 256) &&& 15 = version.toNat * 16 % 256 % 16 :=
      Nat.and_two_pow_sub_one_eq_mod _ 4
    rw [sixteen, low]
    omega
  have low : (byte.toNat &&& 240) &&& 15 = 0 := by
    rw [Nat.and_assoc]
    exact Nat.and_zero _
  rw [← UInt8.toNat_inj]
  change ((((byte.toNat &&& 240) ||| 5) &&& 15) ||| (version.toNat <<< 4 % 256)) &&& 15 = 5
  rw [Nat.and_or_distrib_right, high, Nat.and_or_distrib_right, low]
  rfl

lemma header_storeHeader : Header d (storeHeader d mem buf) buf := by
  constructor
  case ip_hl =>
    rw [storeHeader]
    rw [store16_of_disjoint (by omega), store32_of_disjoint (by omega),
      store32_of_disjoint (by omega), store8_of_ne (by omega),
      store8_of_ne (by omega), store16_of_disjoint (by omega),
      store16_of_disjoint (by omega), store8_of_ne (by omega), store8_self,
      store8_self]
    exact ip_hl_eq _ _
  case ip_tos =>
    rw [storeHeader]
    rw [store16_of_disjoint (by omega), store32_of_disjoint (by omega),
      store32_of_disjoint (by omega), store8_of_ne (by omega),
      store8_of_ne (by omega), store16_of_disjoint (by omega),
      store16_of_disjoint (by omega), store8_self]
  case ip_ttl =>
    rw [storeHeader]
    rw [store16_of_disjoint (by omega), store32_of_disjoint (by omega),
      store32_of_disjoint (by omega), store8_of_ne (by omega), store8_self]
  case ip_p =>
    rw [storeHeader]
    rw [store16_of_disjoint (by omega), store32_of_disjoint (by omega),
      store32_of_disjoint (by omega), store8_self]
  all_goals
    simp (disch := omega) only [storeHeader, Memory.load16, Memory.load32,
      load_store16, load_store32, load_store8]
    first | exact load16_store16 | exact load32_store32

lemma Header.congr (header : Header d mem buf)
    (same : ∀ i < 20, i ≠ 2 → i ≠ 3 → i ≠ 10 → i ≠ 11 → mem' (buf + i) = mem (buf + i)) :
    Header d mem' buf := by
  have loads : ∀ pos count, pos + count ≤ 20 → 4 ≤ pos → (pos + count ≤ 10 ∨ 12 ≤ pos) →
      mem'.load (buf + pos) count = mem.load (buf + pos) count := by
    intro pos count le ge apart
    refine load_congr fun i lt => ?_
    rw [Nat.add_assoc]
    exact same (pos + i) (by omega) (by omega) (by omega) (by omega) (by omega)
  constructor
  case ip_hl => exact (congrArg (· &&& _) (same 0 (by decide) nofun nofun nofun nofun)).trans header.ip_hl
  case ip_tos => exact (same 1 (by decide) nofun nofun nofun nofun).trans header.ip_tos
  case ip_ttl => exact (same 8 (by decide) nofun nofun nofun nofun).trans header.ip_ttl
  case ip_p => exact (same 9 (by decide) nofun nofun nofun nofun).trans header.ip_p
  case ip_id =>
    rw [Memory.load16, loads 4 2 (by decide) (by decide) (by decide)]
    exact header.ip_id
  case ip_off =>
    rw [Memory.load16, loads 6 2 (by decide) (by decide) (by decide)]
    exact header.ip_off
  case ip_src =>
    rw [Memory.load32, loads 12 4 (by decide) (by decide) (by decide)]
    exact header.ip_src
  case ip_dst =>
    rw [Memory.load32, loads 16 4 (by decide) (by decide) (by decide)]
    exact header.ip_dst

/-- What comes last stores the length, and nothing of the other fields or behind the header. -/
lemma finishHeader_spec (hasCalcChkSum : Bool) (buf : ℕ) (packetLength : UInt32) (mem : Memory) :
    (finishHeader hasCalcChkSum buf packetLength mem).1 = IP_HEADER_BYTES + packetLength ∧
      (finishHeader hasCalcChkSum buf packetLength mem).2.load16 (buf + 2) =
        (IP_HEADER_BYTES + packetLength).toUInt16 ∧
      ∀ i, i ≠ 2 → i ≠ 3 → i ≠ 10 → i ≠ 11 →
        (finishHeader hasCalcChkSum buf packetLength mem).2 (buf + i) = mem (buf + i) := by
  refine ⟨rfl, ?_, fun i _ _ _ _ => ?_⟩
  · rw [finishHeader]
    cases hasCalcChkSum with
    | false => exact load16_store16
    | true =>
      rw [if_pos rfl, TCPIPchecksum.storeWord, Memory.load16, load_store_of_disjoint]
      · exact load16_store16
      · exact Or.inl (by omega)
  · have stored : mem.store16 (buf + 2) (IP_HEADER_BYTES + packetLength).toUInt16 (buf + i) =
        mem (buf + i) := store16_of_disjoint (by omega)
    cases hasCalcChkSum with
    | false => exact stored
    | true =>
      refine (store_of_disjoint ?_).trans stored
      change _ ∨ buf + 10 + 2 ≤ _
      omega

lemma toNat_ofInt16 (n : ℤ) : ((UInt16.ofInt n).toNat : ℤ) = n % 65536 := by
  rw [UInt16.ofInt, UInt16.toNat_ofNat']
  omega

lemma toNat_ofInt8 (n : ℤ) : ((UInt8.ofInt n).toNat : ℤ) = n % 256 := by
  rw [UInt8.ofInt, UInt8.toNat_ofNat']
  omega

lemma and_or (a b c : UInt16) : (a ||| b) &&& c = (a &&& c) ||| (b &&& c) := by
  rw [← UInt16.toNat_inj]
  exact Nat.and_or_distrib_right ..

lemma offset_and {k : ℕ} (lt : k < 8192) :
    UInt16.ofNat k &&& IP_OFFMASK = UInt16.ofNat k ∧ UInt16.ofNat k &&& IP_MF = 0 ∧
      UInt16.ofNat k &&& IP_DF = 0 := by
  have value : (UInt16.ofNat k).toNat = k := by
    rw [UInt16.toNat_ofNat', Nat.mod_eq_of_lt (by omega)]
  have bit : ∀ i, 13 ≤ i → k &&& 2 ^ i = 0 := by
    intro i le
    have small : k < 2 ^ i := lt_of_lt_of_le lt (Nat.pow_le_pow_right Nat.two_pos le)
    rw [Nat.and_two_pow, Nat.testBit_lt_two_pow small, Bool.toNat_false, Nat.zero_mul]
  refine ⟨?_, ?_, ?_⟩
  · rw [← UInt16.toNat_inj, UInt16.toNat_and, value]
    exact Nat.and_two_pow_sub_one_of_lt_two_pow (n := 13) lt
  · rw [← UInt16.toNat_inj, UInt16.toNat_and, value]
    exact bit 13 le_rfl
  · rw [← UInt16.toNat_inj, UInt16.toNat_and, value]
    exact bit 14 (by decide)

lemma headerOff_spec {k : ℕ} (lt : k < 8192) (offset : d.fragmentOffset = 8 * k) :
    headerOff d &&& IP_OFFMASK = UInt16.ofNat k ∧
      decide (headerOff d &&& IP_MF ≠ 0) = d.moreFragments ∧
      decide (headerOff d &&& IP_DF ≠ 0) = d.dontFragment := by
  obtain ⟨mask, mf, df⟩ := offset_and lt
  have start : UInt16.ofInt (d.fragmentOffset.tdiv 8) = UInt16.ofNat k := by
    rw [offset, Int.mul_tdiv_cancel_left _ (by decide), ← UInt16.toNat_inj, UInt16.toNat_ofNat']
    have value := toNat_ofInt16 k
    omega
  have apart : IP_MF &&& IP_OFFMASK = 0 ∧ IP_DF &&& IP_OFFMASK = 0 ∧ IP_DF &&& IP_MF = 0 ∧
      IP_MF &&& IP_DF = 0 ∧ IP_MF ≠ 0 ∧ IP_DF ≠ 0 := by decide
  obtain ⟨mf_mask, df_mask, df_mf, mf_df, mf_ne, df_ne⟩ := apart
  rw [headerOff, start]
  cases d.moreFragments <;> cases d.dontFragment <;>
    simp only [if_true, if_false, Bool.false_eq_true, and_or, mask, mf, df, mf_mask, df_mask, df_mf,
      mf_df, mf_ne, df_ne, UInt16.and_self, UInt16.or_zero, UInt16.zero_or, ne_eq, not_true,
      not_false_eq_true, decide_true, decide_false, and_self]

/-- The fields of the header that are to be recovered. -/
structure RecoversFields (dgram parsed : IPv4Header) : Prop where
  identification : parsed.identification = dgram.identification
  dontFragment : parsed.dontFragment = dgram.dontFragment
  moreFragments : parsed.moreFragments = dgram.moreFragments
  fragmentOffset : parsed.fragmentOffset = dgram.fragmentOffset
  timeToLive : parsed.timeToLive = dgram.timeToLive
  typeOfService : parsed.typeOfService = dgram.typeOfService
  srcAddress : parsed.srcAddress = dgram.srcAddress
  destAddress : parsed.destAddress = dgram.destAddress

lemma toNat_addressWord (addr : Ipv4.IPv4Address) :
    BitVec.ofNat 32 (addressWord addr).toNat = addr := by
  have lt := addr.isLt
  rw [addressWord, UInt32.toNat_ofNat', Nat.mod_eq_of_lt lt, BitVec.ofNat_toNat, BitVec.setWidth_eq]

/-- The fields are recovered if and only if identification and time to live have the size of their
fields in the header. -/
lemma Header.recoversFields_iff (header : Header d mem buf) {k : ℕ} (lt : k < 8192)
    (offset : d.fragmentOffset = 8 * k) :
    RecoversFields d (parsedHeader mem buf) ↔ (0 ≤ d.identification ∧ d.identification < 65536) ∧
        0 ≤ d.timeToLive ∧ d.timeToLive < 256 := by
  obtain ⟨mask, mf, df⟩ := headerOff_spec lt offset
  have identification : (parsedHeader mem buf).identification = d.identification % 65536 := by
    change ((mem.load16 (buf + 4)).toNat : ℤ) = _
    rw [header.ip_id, toNat_ofInt16]
  have timeToLive : (parsedHeader mem buf).timeToLive = d.timeToLive % 256 := by
    change ((mem (buf + 8)).toNat : ℤ) = _
    rw [header.ip_ttl, toNat_ofInt8]
  constructor
  · intro recovers
    have sameId := recovers.identification
    have sameTtl := recovers.timeToLive
    omega
  · intro ⟨id, ttl⟩
    constructor
    case identification => omega
    case timeToLive => omega
    case dontFragment =>
      change decide (mem.load16 (buf + 6) &&& IP_DF ≠ 0) = _
      rw [header.ip_off, df]
    case moreFragments =>
      change decide (mem.load16 (buf + 6) &&& IP_MF ≠ 0) = _
      rw [header.ip_off, mf]
    case fragmentOffset =>
      change ((mem.load16 (buf + 6) &&& IP_OFFMASK).toNat : ℤ) * 8 = _
      rw [header.ip_off, mask, UInt16.toNat_ofNat', Nat.mod_eq_of_lt (by omega), offset, mul_comm]
    case typeOfService => exact header.ip_tos
    case srcAddress =>
      change BitVec.ofNat 32 (mem.load32 (buf + 12)).toNat = _
      rw [header.ip_src, toNat_addressWord]
    case destAddress =>
      change BitVec.ofNat 32 (mem.load32 (buf + 16)).toNat = _
      rw [header.ip_dst, toNat_addressWord]

end Inet.IPv4Serializer
