import Inet.Lib.Scaling
import Inet.Tcp.ConnectionBase
import Inet.Tcp.Flavours.TCPReno
import Inet.Tcp.LeafErrors

/-!
# The window that is advertised

`updateRcvWnd` shifts the window by the least number of bits that makes it fit; its assertion bounds
the window by what 14 bits of shift can express.
-/

namespace Inet.Tcp.TCPConnection

variable {c c' : TCPConnection}

lemma toNat_shiftRight_one (window : UInt32) : (window >>> 1).toNat = window.toNat / 2 := by
  exact Nat.shiftRight_one window.toNat

lemma scaleLoop_spec (left : ℕ) (window : UInt32) (scale : ℕ) :
    ∃ shift ≤ left, (scaleLoop left window scale).2 = scale + shift ∧
      (scaleLoop left window scale).1.toNat = window.toNat / 2 ^ shift ∧
      (shift = 0 ∨ 32768 * 2 ^ shift ≤ window.toNat) := by
  induction left generalizing window scale with
  | zero => exact ⟨0, le_rfl, rfl, by simp [scaleLoop], .inl rfl⟩
  | succ left ih =>
    unfold scaleLoop
    split
    case isTrue large =>
      have large : 65535 < window.toNat := UInt32.lt_iff_toNat_lt.mp large
      obtain ⟨shift, le, scale_eq, value_eq, least⟩ := ih (window >>> 1) (scale + 1)
      rw [toNat_shiftRight_one] at value_eq least
      refine ⟨shift + 1, by omega, by omega, ?_, .inr ?_⟩
      · rw [value_eq, Nat.div_div_eq_div_mul, pow_succ']
      · rcases least with rfl | least
        · omega
        · omega
    case isFalse => exact ⟨0, by omega, rfl, by simp, .inl rfl⟩

lemma scaleWindow_spec {window : UInt32}
    (fits : (scaleWindow window).1.toUInt16.toUInt32 = (scaleWindow window).1) :
    LeastShift 32768 window.toNat (scaleWindow window).2 ∧
      (scaleWindow window).1.toUInt16.toNat = window.toNat / 2 ^ (scaleWindow window).2 := by
  obtain ⟨shift, -, scale_eq, value_eq, least⟩ := scaleLoop_spec 14 window 0
  rw [Nat.zero_add] at scale_eq
  have value := congrArg UInt32.toNat fits
  rw [UInt16.toNat_toUInt32] at value
  have small := (scaleWindow window).1.toUInt16.toNat_lt
  unfold scaleWindow at value small ⊢
  rw [value_eq] at value
  rw [scale_eq, value]
  refine ⟨⟨?_, least⟩, rfl⟩
  rw [value, Nat.div_lt_iff_lt_mul (Nat.two_pow_pos shift)] at small
  exact small

/-- `updateRcvWnd` writes variables of the window only, and its window is that of the free
space in the buffer. -/
lemma updateRcvWnd_eq {window : UInt16} (ok : c.updateRcvWnd = .ok (window, c')) :
    c' = { c with toRcvWndVars := c'.toRcvWndVars } ∧
      c'.rcvWnd = c.windowToAdvertise (c.receiveQueue.getAmountOfFreeBytes c.maxRcvBuffer) ∧
      c'.rcvWnd.toNat < 1073741824 := by
  unfold updateRcvWnd at ok
  dsimp only at ok
  have small {value : UInt32} (same : value.toUInt16.toUInt32 = value) : value.toNat < 65536 := by
    rw [← same, UInt16.toNat_toUInt32]
    exact value.toUInt16.toNat_lt
  split at ok
  case isTrue =>
    obtain ⟨fits, ok⟩ := of_assert_bind ok
    cases ok
    refine ⟨rfl, rfl, ?_⟩
    have field := small fits
    dsimp only at field ⊢
    obtain ⟨shift, le, -, value_eq, -⟩ := scaleLoop_spec 14
      (c.updateRcvQueueVars.windowToAdvertise c.updateRcvQueueVars.freeRcvBuffer) 0
    unfold scaleWindow at field
    rw [value_eq, Nat.div_lt_iff_lt_mul (Nat.two_pow_pos shift)] at field
    exact field.trans_le (Nat.mul_le_mul_left 65536 (Nat.pow_le_pow_right two_pos le))
  case isFalse =>
    obtain ⟨fits, ok⟩ := of_assert_bind ok
    cases ok
    exact ⟨rfl, rfl, (small fits).trans (by omega)⟩

/-! ## Window scaling -/

lemma toNat_trueWindow {p : TCPConnection} {seg : TCPSegment} (scales : p.wsEnabled = true)
    (noSyn : seg.synBit = false) :
    (p.trueWindow seg).toNat = seg.window.toNat * 2 ^ p.sndWndScale.val := by
  have small := seg.window.toNat_lt
  have shift : p.sndWndScale.val ≤ 14 := Nat.le_of_lt_succ p.sndWndScale.isLt
  have noOverflow : seg.window.toNat * 2 ^ p.sndWndScale.val < 2 ^ 32 :=
    calc seg.window.toNat * 2 ^ p.sndWndScale.val ≤ seg.window.toNat * 2 ^ 14 :=
          Nat.mul_le_mul_left _ (Nat.pow_le_pow_right two_pos shift)
      _ < 2 ^ 32 := by omega
  have amount : (UInt32.ofNat p.sndWndScale).toNat % 32 = p.sndWndScale.val := by
    rw [UInt32.toNat_ofNat']
    omega
  unfold trueWindow
  rw [if_pos ⟨scales, by simp [noSyn]⟩, UInt32.toNat_shiftLeft, UInt16.toNat_toUInt32, amount,
    Nat.shiftLeft_eq, Nat.mod_eq_of_lt noOverflow]

/-- The window is advertised as 0, or `shift` is the least one by which the free space of
the receive buffer fits into the header. -/
def FreeSpaceFits (shift : ℕ) (c : TCPConnection) : Prop :=
  let freeRcvBuffer := c.receiveQueue.getAmountOfFreeBytes c.maxRcvBuffer
  freeRcvBuffer = 0 ∨ (freeRcvBuffer < c.maxRcvBuffer / 4 ∧ freeRcvBuffer < c.sndMss) ∨
    LeastShift 32768 freeRcvBuffer.toNat shift

lemma updateRcvWnd_scaled {c c' : TCPConnection} {field : UInt16} (scales : c.wsEnabled = true)
    (ok : c.updateRcvWnd = .ok (field, c')) :
    c'.rcvWnd = c.windowToAdvertise (c.receiveQueue.getAmountOfFreeBytes c.maxRcvBuffer) ∧
      ∃ shift, LeastShift 32768 c'.rcvWnd.toNat shift ∧
        field.toNat = c'.rcvWnd.toNat / 2 ^ shift := by
  unfold updateRcvWnd at ok
  dsimp only at ok
  rw [if_pos (show c.updateRcvQueueVars.wsEnabled = true from scales)] at ok
  obtain ⟨fits, ok⟩ := of_assert_bind ok
  cases ok
  exact ⟨rfl, _, scaleWindow_spec fits⟩

lemma windowToAdvertise_scaled {c : TCPConnection} {freeRcvBuffer : UInt32}
    (scales : c.wsEnabled = true) : c.windowToAdvertise freeRcvBuffer =
      if freeRcvBuffer < c.maxRcvBuffer / 4 ∧ freeRcvBuffer < c.sndMss then 0
      else freeRcvBuffer := by
  simp only [windowToAdvertise, scales, not_true_eq_false, and_false, if_false]

/-- The peer reads the window, rounded down to its own shift, exactly when that is the least one for
the receiver's free space. -/
theorem window_survives_scaling_iff {c c' p : TCPConnection} {seg : TCPSegment}
    (receiverScales : c.wsEnabled = true) (peerScales : p.wsEnabled = true)
    (meant : c.updateRcvWnd = .ok (seg.window, c')) (noSyn : seg.synBit = false) :
    (p.trueWindow seg ≤ c'.rcvWnd ∧ (c'.rcvWnd - p.trueWindow seg).toNat < 2 ^ p.sndWndScale.val) ↔
      c.FreeSpaceFits p.sndWndScale := by
  obtain ⟨window, shift, least, field⟩ := updateRcvWnd_scaled receiverScales meant
  have read : (p.trueWindow seg).toNat = decoded c'.rcvWnd.toNat shift p.sndWndScale := by
    rw [toNat_trueWindow peerScales noSyn, field, decoded]
  have decodes : (p.trueWindow seg ≤ c'.rcvWnd ∧
      (c'.rcvWnd - p.trueWindow seg).toNat < 2 ^ p.sndWndScale.val) ↔
      Decodes c'.rcvWnd.toNat shift p.sndWndScale := by
    unfold Decodes
    rw [← read, ← UInt32.le_iff_toNat_le]
    refine and_congr_right fun le => ?_
    rw [UInt32.toNat_sub_of_le _ _ le]
  rw [decodes, least.decodes_iff (by decide)]
  rw [← UInt32.toNat_zero, UInt32.toNat_inj]
  rw [windowToAdvertise_scaled receiverScales] at window
  unfold FreeSpaceFits
  split at window
  case isTrue silly => exact ⟨fun _ => .inr (.inl silly), fun _ => .inl window⟩
  case isFalse open_ =>
    rw [window] at least ⊢
    constructor
    · rintro (zero | agree)
      · exact .inl zero
      · exact .inr (.inr (agree ▸ least))
    · rintro (zero | silly | other)
      · exact .inl zero
      · exact absurd silly open_
      · exact .inr (least.unique other)

open ConnectionPair

def scalingPar : TCPPar :=
  { advertisedWindow := 66000, mss := 1460, windowScalingSupport := true,
    increasedIWEnabled := true }

/-- The handshake of two such hosts; both send a shift of 1. -/
def scalingHandshake : List PairEvent :=
  [.act false (renoAt 0) (.openPassive (some 80) false),
   .act true (renoAt 1) (.openActive (some 1024) (some 80)), .deliver false (renoAt 2) 0,
   .deliver true (renoAt 3) 0, .deliver false (renoAt 4) 1]

/-- The window the server means now and the one the client would read. -/
def serverWindows (pair : ConnectionPair) : Option (UInt32 × UInt32) := do
  let (field, c') ← pair.server.updateRcvWnd.toOption
  return (c'.rcvWnd, pair.client.trueWindow { window := field })

/-- Of two segments the second arrives first. The free space of 64540 octets fits without a shift,
but the client shifts by 1. -/
theorem window_misread_below_65536 :
    ¬ ∀ (pair : ConnectionPair) (c' : TCPConnection) (seg : TCPSegment),
      PairReachable pair → pair.server.wsEnabled = true → pair.client.wsEnabled = true →
      pair.server.updateRcvWnd = .ok (seg.window, c') → seg.synBit = false →
      pair.client.trueWindow seg ≤ c'.rcvWnd ∧
        (c'.rcvWnd - pair.client.trueWindow seg).toNat < 2 ^ pair.client.sndWndScale.val := by
  intro survives
  have misread : (runEvents (scalingHandshake ++
      [.act true (renoAt 5) (.send 2920), .deliver false (renoAt 6) 3])
      ⟨new scalingPar, new scalingPar⟩).any (fun pair => pair.server.wsEnabled = true ∧
        pair.client.wsEnabled = true ∧ serverWindows pair = some (64540, 129080)) = true := by
    decide +kernel
  obtain ⟨pair, reachable, test⟩ := exists_pairReachable misread
  obtain ⟨serverScales, clientScales, windows⟩ := of_decide_eq_true test
  rcases Option.bind_eq_some_iff.mp windows with ⟨⟨field, c'⟩, meant, windows⟩
  obtain ⟨meantWindow, readWindow⟩ := Prod.mk.inj (Option.some.inj windows)
  have survived := survives pair c' { window := field } reachable serverScales clientScales
    (Except.eq_ok_of_toOption meant) rfl
  rw [meantWindow, readWindow] at survived
  exact absurd survived.1 (by decide)

/-- With an empty buffer the shift of the handshake is the right one. -/
theorem window_survives_scaling_handshake :
    ∃ (pair : ConnectionPair) (c' : TCPConnection) (seg : TCPSegment), PairReachable pair ∧
      pair.server.updateRcvWnd = .ok (seg.window, c') ∧ c'.rcvWnd = 66000 ∧
      pair.client.trueWindow seg = 66000 ∧ pair.server.FreeSpaceFits pair.client.sndWndScale := by
  have read : (runEvents scalingHandshake ⟨new scalingPar, new scalingPar⟩).any
      (fun pair => pair.server.wsEnabled = true ∧ pair.client.wsEnabled = true ∧
        serverWindows pair = some (66000, 66000)) = true := by
    decide +kernel
  obtain ⟨pair, reachable, test⟩ := exists_pairReachable read
  obtain ⟨serverScales, clientScales, windows⟩ := of_decide_eq_true test
  rcases Option.bind_eq_some_iff.mp windows with ⟨⟨field, c'⟩, meant, windows⟩
  obtain ⟨meantWindow, readWindow⟩ := Prod.mk.inj (Option.some.inj windows)
  let seg : TCPSegment := { window := field }
  have meant : pair.server.updateRcvWnd = .ok (seg.window, c') := Except.eq_ok_of_toOption meant
  refine ⟨pair, c', seg, reachable, meant, meantWindow, readWindow, ?_⟩
  refine (window_survives_scaling_iff serverScales clientScales meant rfl).mp ?_
  rw [meantWindow, readWindow, UInt32.sub_self]
  exact ⟨UInt32.le_refl _, Nat.two_pow_pos _⟩

end Inet.Tcp.TCPConnection
