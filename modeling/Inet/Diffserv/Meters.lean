import Inet.Lib.TokenBucket
import Mathlib.Data.Rat.Floor

/-!
# Traffic meters

`TokenBucketMeter`, `SingleRateThreeColorMeter` and `TwoRateThreeColorMeter` over exact arithmetic.
What is metered green is paid for from one bucket; what is not red, from both buckets of the
single-rate meter, or from the peak bucket.
-/

namespace Inet.Diffserv

inductive Color where
  | GREEN
  | YELLOW
  | RED

def Color.toInt : Color → ℤ
  | GREEN => 0
  | YELLOW => 1
  | RED => 2

structure Packet where
  bitLength : ℕ
  /-- The `dscolor` attribute, if there is one. -/
  dscolor : Option Color

namespace Packet

def getColor (packet : Packet) : ℤ := (packet.dscolor.map Color.toInt).getD (-1)

def setColor (packet : Packet) (color : Color) : Packet := { packet with dscolor := some color }

/-- `getByteLength`, which rounds up. -/
def byteLength (packet : Packet) : ℕ := (packet.bitLength + 7) / 8

end Packet

/-- The conversion to `long`. -/
def toLong (x : ℚ) : ℤ := if 0 ≤ x then ⌊x⌋ else ⌈x⌉

/-- A bucket after tokens have been added. -/
def fill (tokens numTokens limit : ℤ) : ℤ :=
  if tokens + numTokens ≤ limit then tokens + numTokens else limit

/-- How `meterPacket` ends: the color, the packet that leaves, and the meter. -/
def leave {M : Type} (packet : Packet) (color : Color) (m : M) : Color × Packet × M :=
  (color, packet.setColor color, m)

/-- Tokens that pay for all that is metered no worse than a color. -/
structure Bucket (M : Type) where
  worst : Color
  tokens : M → ℤ
  burst : ℕ
  rate : ℚ≥0

class Meter (M : Type) where
  lastUpdateTime : M → ℚ
  meterPacket : M → ℚ → Packet → Color × Packet × M
  InLimits : M → Prop
  buckets : List (Bucket M)

structure TokenBucketParameters where
  CIR : ℚ≥0
  CBS : ℕ
  colorAwareMode : Bool

structure TokenBucketMeter (par : TokenBucketParameters) where
  Tc : ℤ
  lastUpdateTime : ℚ

structure SingleRateParameters where
  CIR : ℚ≥0
  CBS : ℕ
  EBS : ℕ
  colorAwareMode : Bool

structure SingleRateThreeColorMeter (par : SingleRateParameters) where
  Tc : ℤ
  Te : ℤ
  lastUpdateTime : ℚ

structure TwoRateParameters where
  PIR : ℚ≥0
  PBS : ℕ
  CIR : ℚ≥0
  CBS : ℕ
  colorAwareMode : Bool

structure TwoRateThreeColorMeter (par : TwoRateParameters) where
  Tp : ℤ
  Tc : ℤ
  lastUpdateTime : ℚ

namespace TokenBucketMeter

variable (par : TokenBucketParameters)

def initialization (now : ℚ) : TokenBucketMeter par := ⟨par.CBS, now⟩

instance : Meter (TokenBucketMeter par) where
  lastUpdateTime := lastUpdateTime
  meterPacket m now packet :=
    let Tc := fill m.Tc (toLong ((now - m.lastUpdateTime) * par.CIR)) par.CBS
    let oldColor := if par.colorAwareMode then packet.getColor else -1
    if oldColor ≤ Color.GREEN.toInt ∧ 0 ≤ Tc - packet.bitLength then
      leave packet .GREEN ⟨Tc - packet.bitLength, now⟩
    else leave packet .RED ⟨Tc, now⟩
  InLimits m := 0 ≤ m.Tc ∧ m.Tc ≤ par.CBS
  buckets := [⟨.GREEN, Tc, par.CBS, par.CIR⟩]

end TokenBucketMeter

namespace SingleRateThreeColorMeter

variable (par : SingleRateParameters)

def initialization (now : ℚ) : SingleRateThreeColorMeter par := ⟨par.CBS, par.EBS, now⟩

/-- Both buckets after tokens have been added; what the first has no room for goes to the other. -/
def fillBoth (m : SingleRateThreeColorMeter par) (numTokens : ℤ) : ℤ × ℤ :=
  if m.Tc + numTokens ≤ par.CBS then (m.Tc + numTokens, m.Te)
  else (par.CBS, fill m.Te (m.Tc + numTokens - par.CBS) par.EBS)

instance : Meter (SingleRateThreeColorMeter par) where
  lastUpdateTime := lastUpdateTime
  meterPacket m now packet :=
    let (Tc, Te) := m.fillBoth par (toLong ((now - m.lastUpdateTime) * par.CIR))
    let oldColor := if par.colorAwareMode then packet.getColor else -1
    if oldColor ≤ Color.GREEN.toInt ∧ 0 ≤ Tc - packet.bitLength then
      leave packet .GREEN ⟨Tc - packet.bitLength, Te, now⟩
    else if oldColor ≤ Color.YELLOW.toInt ∧ 0 ≤ Te - packet.bitLength then
      leave packet .YELLOW ⟨Tc, Te - packet.bitLength, now⟩
    else leave packet .RED ⟨Tc, Te, now⟩
  InLimits m := (0 ≤ m.Tc ∧ m.Tc ≤ par.CBS) ∧ 0 ≤ m.Te ∧ m.Te ≤ par.EBS
  buckets := [⟨.GREEN, Tc, par.CBS, par.CIR⟩,
    ⟨.YELLOW, fun m => m.Tc + m.Te, par.CBS + par.EBS, par.CIR⟩]

end SingleRateThreeColorMeter

namespace TwoRateThreeColorMeter

variable (par : TwoRateParameters)

def initialization (now : ℚ) : TwoRateThreeColorMeter par := ⟨par.PBS, par.CBS, now⟩

instance : Meter (TwoRateThreeColorMeter par) where
  lastUpdateTime := lastUpdateTime
  meterPacket m now packet :=
    let elapsedTime := now - m.lastUpdateTime
    let Tp := fill m.Tp (toLong (elapsedTime * par.PIR)) par.PBS
    let Tc := fill m.Tc (toLong (elapsedTime * par.CIR)) par.CBS
    let oldColor := if par.colorAwareMode then packet.getColor else -1
    let packetSizeInBits : ℕ := 8 * packet.byteLength
    if oldColor = Color.RED.toInt ∨ Tp - packetSizeInBits < 0 then leave packet .RED ⟨Tp, Tc, now⟩
    else if oldColor = Color.YELLOW.toInt ∨ Tc - packetSizeInBits < 0 then
      leave packet .YELLOW ⟨Tp - packetSizeInBits, Tc, now⟩
    else leave packet .GREEN ⟨Tp - packetSizeInBits, Tc - packetSizeInBits, now⟩
  InLimits m := (0 ≤ m.Tp ∧ m.Tp ≤ par.PBS) ∧ 0 ≤ m.Tc ∧ m.Tc ≤ par.CBS
  buckets := [⟨.GREEN, Tc, par.CBS, par.CIR⟩, ⟨.YELLOW, Tp, par.PBS, par.PIR⟩]

end TwoRateThreeColorMeter

open Meter

variable {M : Type} [Meter M] {m : M} {arrivals : List (ℚ × Packet)}

/-- The meter after a packet that arrives at a time. -/
def next (m : M) (arrival : ℚ × Packet) : M := (meterPacket m arrival.1 arrival.2).2.2

/-- The bits of a packet that is metered no worse than `worst`. -/
def bits (worst : Color) (m : M) (arrival : ℚ × Packet) : ℕ :=
  if (meterPacket m arrival.1 arrival.2).1.toInt ≤ worst.toInt then arrival.2.bitLength else 0

/-- The counts stay in their limits, and between any two times no more is metered than the buckets
and their rates allow. -/
structure KeepsProfile (m : M) (arrivals : List (ℚ × Packet)) : Prop where
  inLimits : InLimits (arrivals.foldl next m)
  enforced : ∀ b ∈ (buckets : List (Bucket M)), ∀ lo hi, lo ≤ hi →
    passed next Prod.fst (fun m a => (bits b.worst m a : ℚ)) lo hi m arrivals ≤
      b.burst + b.rate * (hi - lo)

/-- No packet leaves with a better color than it came with. -/
def NoBetter (m : M) (now : ℚ) (packet : Packet) : Prop :=
  packet.getColor ≤ (meterPacket m now packet).2.1.getColor

/-- A packet is paid for with the tokens of a bucket that has been filled. -/
def Pays (m : M) (arrival : ℚ × Packet) (b : Bucket M) : Prop :=
  ∃ filled : ℤ, filled ≤ b.burst ∧
    filled ≤ b.tokens m + toLong ((arrival.1 - lastUpdateTime m) * b.rate) ∧
    bits b.worst m arrival + b.tokens (next m arrival) ≤ filled

structure Fair (M : Type) [Meter M] : Prop where
  last_next : ∀ (m : M) a, lastUpdateTime (next m a) = a.1
  left : ∀ m : M, InLimits m → ∀ b ∈ (buckets : List (Bucket M)), 0 ≤ b.tokens m
  pays : ∀ (m : M) a, InLimits m → lastUpdateTime m ≤ a.1 →
    InLimits (next m a) ∧ ∀ b ∈ (buckets : List (Bucket M)), Pays m a b

lemma toLong_elapsed {last now : ℚ} (le : last ≤ now) (rate : ℚ≥0) :
    0 ≤ toLong ((now - last) * rate) ∧
      (toLong ((now - last) * rate) : ℚ) ≤ rate * (now - last) := by
  have nonneg : 0 ≤ (now - last) * rate := mul_nonneg (sub_nonneg.mpr le) rate.2
  rw [toLong, if_pos nonneg, mul_comm (rate : ℚ)]
  exact ⟨Int.floor_nonneg.mpr nonneg, Int.floor_le _⟩

lemma Fair.tokenBucket (fair : Fair M) {b : Bucket M} (mem : b ∈ (buckets : List (Bucket M))) :
    TokenBucket next Prod.fst (fun m a => (bits b.worst m a : ℚ)) InLimits lastUpdateTime
      (fun m => (b.tokens m : ℚ)) b.burst b.rate where
  last_step := fair.last_next
  refill := by
    intro m a inv le
    obtain ⟨filled, -, gained, paid⟩ := (fair.pays m a inv le).2 b mem
    have cast : (filled : ℚ) ≤ b.tokens m + toLong ((a.1 - lastUpdateTime m) * b.rate) := by
      exact_mod_cast gained
    have taken : (bits b.worst m a + b.tokens (next m a) : ℚ) ≤ filled := by exact_mod_cast paid
    linarith [(toLong_elapsed le b.rate).2]
  limit := by
    intro m a inv le
    obtain ⟨filled, limit, -, paid⟩ := (fair.pays m a inv le).2 b mem
    exact_mod_cast paid.trans limit
  left inv := by exact_mod_cast fair.left _ inv b mem
  used_nonneg _ _ := Nat.cast_nonneg _
  keeps inv le := (fair.pays _ _ inv le).1
  burst_nonneg := Nat.cast_nonneg _
  rate_nonneg := b.rate.2

lemma Fair.keepsProfile (fair : Fair M) {b : Bucket M} (mem : b ∈ (buckets : List (Bucket M)))
    (begins : InLimits m) (ordered : (lastUpdateTime m :: arrivals.map Prod.fst).Pairwise (· ≤ ·)) :
    KeepsProfile m arrivals :=
  ⟨(fair.tokenBucket mem).foldl_keeps begins ordered, fun _ mem _ _ le =>
    (fair.tokenBucket mem).passed_le begins ordered le⟩

/-! ## The three meters -/

lemma fill_spec {tokens numTokens limit : ℤ} (inLimits : 0 ≤ tokens ∧ tokens ≤ limit)
    (nonneg : 0 ≤ numTokens) : 0 ≤ fill tokens numTokens limit ∧
      fill tokens numTokens limit ≤ limit ∧ fill tokens numTokens limit ≤ tokens + numTokens := by
  rw [fill]
  split_ifs <;> omega

lemma TokenBucketMeter.fair (par : TokenBucketParameters) : Fair (TokenBucketMeter par) where
  last_next m a := by
    simp only [next, meterPacket]
    split_ifs <;> rfl
  left _ inLimits := List.forall_mem_singleton.mpr inLimits.1
  pays := by
    intro m a inLimits le
    have elapsed : m.lastUpdateTime ≤ a.1 := le
    obtain ⟨low, high, gained⟩ := fill_spec inLimits (toLong_elapsed elapsed par.CIR).1
    have paid : InLimits (next m a) ∧ bits .GREEN m a + (next m a).Tc ≤
        fill m.Tc (toLong ((a.1 - m.lastUpdateTime) * par.CIR)) par.CBS := by
      simp only [next, bits, meterPacket]
      split_ifs <;> simp [leave, Color.toInt, InLimits] at * <;> omega
    exact ⟨paid.1, List.forall_mem_singleton.mpr ⟨_, high, gained, paid.2⟩⟩

namespace SingleRateThreeColorMeter

variable {par : SingleRateParameters}

lemma fillBoth_spec {m : SingleRateThreeColorMeter par} {numTokens : ℤ} (inLimits : InLimits m)
    (nonneg : 0 ≤ numTokens) :
    (0 ≤ (m.fillBoth par numTokens).1 ∧ (m.fillBoth par numTokens).1 ≤ par.CBS) ∧
      (0 ≤ (m.fillBoth par numTokens).2 ∧ (m.fillBoth par numTokens).2 ≤ par.EBS) ∧
      (m.fillBoth par numTokens).1 ≤ m.Tc + numTokens ∧
      (m.fillBoth par numTokens).1 + (m.fillBoth par numTokens).2 ≤ m.Tc + m.Te + numTokens := by
  obtain ⟨committed, excess⟩ := inLimits
  rw [fillBoth]
  split_ifs with room
  · omega
  · have rest := @fill_spec m.Te (m.Tc + numTokens - par.CBS) par.EBS excess (by omega)
    omega

lemma fair (par : SingleRateParameters) : Fair (SingleRateThreeColorMeter par) where
  last_next m a := by
    simp only [next, meterPacket]
    split_ifs <;> rfl
  left _ inLimits := List.forall_mem_cons.mpr
    ⟨inLimits.1.1, List.forall_mem_singleton.mpr (add_nonneg inLimits.1.1 inLimits.2.1)⟩
  pays := by
    intro m a inLimits le
    have elapsed : m.lastUpdateTime ≤ a.1 := le
    obtain ⟨committed, excess, gained, both⟩ :=
      fillBoth_spec inLimits (toLong_elapsed elapsed par.CIR).1
    have paid : InLimits (next m a) ∧
        bits .GREEN m a + (next m a).Tc ≤
          (m.fillBoth par (toLong ((a.1 - m.lastUpdateTime) * par.CIR))).1 ∧
        bits .YELLOW m a + ((next m a).Tc + (next m a).Te) ≤
          (m.fillBoth par (toLong ((a.1 - m.lastUpdateTime) * par.CIR))).1 +
            (m.fillBoth par (toLong ((a.1 - m.lastUpdateTime) * par.CIR))).2 := by
      simp only [next, bits, meterPacket]
      split_ifs <;> simp [leave, Color.toInt, InLimits] at * <;> omega
    refine ⟨paid.1, List.forall_mem_cons.mpr ⟨⟨_, committed.2, gained, paid.2.1⟩,
      List.forall_mem_singleton.mpr ⟨_, ?_, both, paid.2.2⟩⟩⟩
    push_cast
    exact add_le_add committed.2 excess.2

end SingleRateThreeColorMeter

lemma TwoRateThreeColorMeter.fair (par : TwoRateParameters) :
    Fair (TwoRateThreeColorMeter par) where
  last_next m a := by
    simp only [next, meterPacket]
    split_ifs <;> rfl
  left _ inLimits := List.forall_mem_cons.mpr
    ⟨inLimits.2.1, List.forall_mem_singleton.mpr inLimits.1.1⟩
  pays := by
    intro m a inLimits le
    have elapsed : m.lastUpdateTime ≤ a.1 := le
    have peak := fill_spec inLimits.1 (toLong_elapsed elapsed par.PIR).1
    have committed := fill_spec inLimits.2 (toLong_elapsed elapsed par.CIR).1
    have bytes : a.2.bitLength ≤ 8 * a.2.byteLength := by
      rw [Packet.byteLength]
      omega
    have paid : InLimits (next m a) ∧
        bits .GREEN m a + (next m a).Tc ≤
          fill m.Tc (toLong ((a.1 - m.lastUpdateTime) * par.CIR)) par.CBS ∧
        bits .YELLOW m a + (next m a).Tp ≤
          fill m.Tp (toLong ((a.1 - m.lastUpdateTime) * par.PIR)) par.PBS := by
      simp only [next, bits, meterPacket]
      split_ifs <;> simp [leave, Color.toInt, InLimits] at * <;> omega
    exact ⟨paid.1, List.forall_mem_cons.mpr ⟨⟨_, committed.2.1, committed.2.2, paid.2.1⟩,
      List.forall_mem_singleton.mpr ⟨_, peak.2.1, peak.2.2, paid.2.2⟩⟩⟩

lemma getColor_le_red (packet : Packet) : packet.getColor ≤ Color.RED.toInt := by
  rcases packet with ⟨_, _ | _ | _ | _⟩ <;> simp [Packet.getColor, Color.toInt]

lemma TokenBucketMeter.noBetter {par : TokenBucketParameters} {m : TokenBucketMeter par}
    (aware : par.colorAwareMode = true) (now : ℚ) (packet : Packet) : NoBetter m now packet := by
  have worst := getColor_le_red packet
  simp only [NoBetter, meterPacket, aware, if_true]
  split_ifs with green
  · exact green.1
  · exact worst

lemma SingleRateThreeColorMeter.noBetter {par : SingleRateParameters}
    {m : SingleRateThreeColorMeter par} (aware : par.colorAwareMode = true) (now : ℚ)
    (packet : Packet) : NoBetter m now packet := by
  have worst := getColor_le_red packet
  simp only [NoBetter, meterPacket, aware, if_true]
  split_ifs with green yellow
  · exact green.1
  · exact yellow.1
  · exact worst

lemma TwoRateThreeColorMeter.noBetter {par : TwoRateParameters} {m : TwoRateThreeColorMeter par}
    (aware : par.colorAwareMode = true) (now : ℚ) (packet : Packet) : NoBetter m now packet := by
  have worst := getColor_le_red packet
  simp only [NoBetter, meterPacket, aware, if_true]
  split_ifs with red yellow
  · exact worst
  · simp only [leave, Packet.setColor, Packet.getColor, Option.map, Option.getD, Color.toInt] at *
    omega
  · simp only [leave, Packet.setColor, Packet.getColor, Option.map, Option.getD, Color.toInt] at *
    omega

theorem meters_keepProfile (start : ℚ) (arrivals : List (ℚ × Packet))
    (ordered : (start :: arrivals.map Prod.fst).Pairwise (· ≤ ·)) :
    (∀ par, KeepsProfile (TokenBucketMeter.initialization par start) arrivals ∧
      (par.colorAwareMode = true → ∀ (m : TokenBucketMeter par) now packet,
        NoBetter m now packet)) ∧
    (∀ par, KeepsProfile (SingleRateThreeColorMeter.initialization par start) arrivals ∧
      (par.colorAwareMode = true → ∀ (m : SingleRateThreeColorMeter par) now packet,
        NoBetter m now packet)) ∧
    ∀ par, KeepsProfile (TwoRateThreeColorMeter.initialization par start) arrivals ∧
      (par.colorAwareMode = true → ∀ (m : TwoRateThreeColorMeter par) now packet,
        NoBetter m now packet) := by
  have full : ∀ n : ℕ, (0 : ℤ) ≤ n ∧ (n : ℤ) ≤ n := fun n => ⟨Int.natCast_nonneg n, le_rfl⟩
  refine ⟨fun par => ⟨?_, fun aware _ => TokenBucketMeter.noBetter aware⟩,
    fun par => ⟨?_, fun aware _ => SingleRateThreeColorMeter.noBetter aware⟩,
    fun par => ⟨?_, fun aware _ => TwoRateThreeColorMeter.noBetter aware⟩⟩
  · exact (TokenBucketMeter.fair par).keepsProfile List.mem_cons_self (full _) ordered
  · exact (SingleRateThreeColorMeter.fair par).keepsProfile List.mem_cons_self
      ⟨full _, full _⟩ ordered
  · exact (TwoRateThreeColorMeter.fair par).keepsProfile List.mem_cons_self ⟨full _, full _⟩ ordered

/-- Two packets in a second, the second of which came marked yellow. -/
theorem meters_keepProfile_two :
    KeepsProfile (SingleRateThreeColorMeter.initialization ⟨4, 8, 8, true⟩ 0)
      [(0, ⟨8, none⟩), (1, ⟨8, some .YELLOW⟩)] :=
  ((meters_keepProfile 0 [(0, ⟨8, none⟩), (1, ⟨8, some .YELLOW⟩)] (by simp)).2.1 _).1

end Inet.Diffserv
