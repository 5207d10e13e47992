import Inet.Tcp.Queues.RcvQueueReading
import Inet.Tcp.SegmentOutcome

/-!
# What has arrived

A `History` is kept beside a run: the segments that arrived since the peer's SYN, with the position
of their first octet, and that of `rcv_nxt`. Sequence numbers are read as the positions nearest to
`rcv_nxt`. Nothing of the connection depends on it.
-/

namespace Inet.Tcp

/-- The position nearest to `base` with this sequence number. -/
def nearest (base : ℕ) (x : UInt32) : ℕ := unwrap (base - 2147483648) x

lemma serial_nearest (base : ℕ) (x : UInt32) : serial (nearest base x) = x :=
  serial_unwrap _ x

lemma nearest_serial {base p : ℕ} (below : base ≤ p + 2147483648)
    (above : p < base + 2147483648) (room : 2147483648 ≤ base) : nearest base (serial p) = p :=
  unwrap_serial (by omega) (by omega)

lemma le_nearest (base : ℕ) (x : UInt32) : base ≤ nearest base x + 2147483648 := by
  have := le_unwrap (base - 2147483648) x
  unfold nearest
  omega

lemma nearest_lt {base : ℕ} (room : 2147483648 ≤ base) (x : UInt32) :
    nearest base x < base + 2147483648 := by
  have := unwrap_lt (base - 2147483648) x
  unfold nearest
  omega

/-- A segment that arrived, and where its first octet is. -/
structure Arrival where
  position : ℕ
  tcpseg : TCPSegment

namespace Arrival

/-- The position behind the last octet as sent, which is that of the FIN if there is one. -/
def endPosition (arrival : Arrival) : ℕ := arrival.position + arrival.tcpseg.payloadLength

lemma serial_endPosition (a : Arrival) (placed : serial a.position = a.tcpseg.sequenceNo) :
    serial a.endPosition = a.tcpseg.endSequenceNo := by
  rw [endPosition, serial_add, placed]
  rfl

end Arrival

/-- The arrivals since the peer's SYN; `start` is the position of the first octet. -/
structure History where
  start : ℕ := 4294967296
  rcvPos : ℕ := 4294967296
  arrivals : List Arrival := []

namespace History

variable (h : History)

/-- A history that begins with `rcv_nxt`. -/
def beginAt (rcvNxt : UInt32) : History :=
  { start := 4294967296 + rcvNxt.toNat, rcvPos := 4294967296 + rcvNxt.toNat }

def arrive (tcpseg : TCPSegment) : History :=
  { h with arrivals := h.arrivals ++ [⟨nearest h.rcvPos tcpseg.sequenceNo, tcpseg⟩] }

def moveTo (rcvNxt : UInt32) : History := { h with rcvPos := nearest h.rcvPos rcvNxt }

/-- `rcv_nxt` is found again where it stands for a position nearby. -/
lemma moveTo_rcvPos {m : ℕ} (room : 2147483648 ≤ h.rcvPos) (below : h.rcvPos ≤ m + 2147483648)
    (above : m < h.rcvPos + 2147483648) : (h.moveTo (serial m)).rcvPos = m :=
  nearest_serial below above room

/-- The octet at `p` has arrived. -/
def Octet (p : ℕ) : Prop :=
  ∃ arrival ∈ h.arrivals, arrival.position ≤ p ∧ p < arrival.endPosition

/-- A FIN has arrived whose true position is `p`. -/
def Fin (p : ℕ) : Prop :=
  ∃ arrival ∈ h.arrivals, arrival.tcpseg.finBit = true ∧ arrival.endPosition = p

/-- What `p` numbers has been received: an octet, or a FIN. -/
def Received (p : ℕ) : Prop := h.Octet p ∨ ∃ f, h.Fin f ∧ serial f = serial p

variable {h}

lemma Octet.arrive {p : ℕ} (octet : h.Octet p) (tcpseg : TCPSegment) :
    (h.arrive tcpseg).Octet p := by
  rcases octet with ⟨a, mem, inside⟩
  exact ⟨a, List.mem_append_left _ mem, inside⟩

lemma Fin.arrive {p : ℕ} (fin : h.Fin p) (tcpseg : TCPSegment) : (h.arrive tcpseg).Fin p := by
  rcases fin with ⟨a, mem, atEnd⟩
  exact ⟨a, List.mem_append_left _ mem, atEnd⟩

lemma Received.arrive {p : ℕ} (received : h.Received p) (tcpseg : TCPSegment) :
    (h.arrive tcpseg).Received p :=
  received.imp (fun octet => octet.arrive tcpseg) fun ⟨f, fin, same⟩ => ⟨f, fin.arrive tcpseg, same⟩

end History

/-- The history with the segment of an event, if it brings one. -/
def History.arriving (h : History) (input : TcpInput) : History :=
  match input.arrival with
  | some tcpseg => h.arrive tcpseg
  | none => h

namespace TCPConnection

/-- The history after an event that leads from `c` to `c'`. It begins anew with every
SYN of the peer. -/
def historyAfter (input : TcpInput) (c c' : TCPConnection) (h : History) : History :=
  if beforeSyn c.fsm then .beginAt c'.rcvNxt else (h.arriving input).moveTo c'.rcvNxt

/-- A run whose events all meet `condition`, with its history. -/
inductive Tracked (condition : Env → TcpInput → TCPConnection → Prop) :
    History → TCPConnection → Prop
  | begins {c : TCPConnection} (h : History) (begun : Begins c) : Tracked condition h c
  | step {h : History} {c c' : TCPConnection} (env : Env) (input : TcpInput)
      (tracked : Tracked condition h c) (enabled : c.enabled input = true)
      (meets : condition env input c) (handled : c.handle env input = .ok c') :
      Tracked condition (historyAfter input c c' h) c'

section Runs

variable (condition : Env → TcpInput → TCPConnection → Prop)
  [∀ env input c, Decidable (condition env input c)]

/-- Carry out a list of events as `run` does, and keep the history. -/
def runTracked : List (Env × TcpInput) → History → TCPConnection → Option (History × TCPConnection)
  | [], h, c => some (h, c)
  | (env, input) :: rest, h, c =>
      if c.enabled input = true ∧ condition env input c then
        (handle env input c).toOption.bind fun c' =>
          runTracked rest (historyAfter input c c' h) c'
      else none

variable {condition}

lemma tracked_of_run {events : List (Env × TcpInput)} {h h' : History} {c c' : TCPConnection}
    (tracked : Tracked condition h c)
    (ok : runTracked condition events h c = some (h', c')) : Tracked condition h' c' := by
  induction events generalizing h c with
  | nil =>
    cases ok
    exact tracked
  | cons event rest ih =>
    unfold runTracked at ok
    split at ok
    case isTrue meets =>
      cases handled : handle event.1 event.2 c with
      | error error => simp [handled, Except.toOption] at ok
      | ok d =>
        rw [handled] at ok
        exact ih (.step event.1 event.2 tracked meets.1 meets.2 handled) ok
    case isFalse => cases ok

lemma exists_tracked {par : TCPPar} {events : List (Env × TcpInput)}
    {test : History × TCPConnection → Bool}
    (passes : (runTracked condition events {} (new par)).any test = true) :
    ∃ h c, Tracked condition h c ∧ test (h, c) = true := by
  cases ok : runTracked condition events {} (new par) with
  | none => simp [ok] at passes
  | some reached =>
    rw [ok] at passes
    exact ⟨reached.1, reached.2, tracked_of_run (.begins {} (.new par)) ok, passes⟩

end Runs

end TCPConnection

lemma toNat_serial_sub_serial (a b : ℕ) :
    (serial b - serial a).toNat = (4294967296 - a % 4294967296 + b % 4294967296) % 4294967296 := by
  rw [UInt32.toNat_sub, toNat_serial, toNat_serial]

lemma seqLess_serial_iff (a b : ℕ) :
    seqLess (serial a) (serial b) ↔
      0 < (4294967296 - a % 4294967296 + b % 4294967296) % 4294967296 ∧
        (4294967296 - a % 4294967296 + b % 4294967296) % 4294967296 < 2147483648 := by
  rw [seqLess, UInt32.lt_iff_toNat_lt, toNat_serial_sub_serial, ne_eq, ← UInt32.toNat_inj,
    toNat_serial, toNat_serial]
  have half : (2147483648 : UInt32).toNat = 2147483648 := rfl
  omega

section

variable {seg cut : TCPSegment} {m wnd position : ℕ}

/-- A segment that overlaps the window lies nowhere else, and does so properly. -/
lemma overlaps_window (small : seg.payloadLength < 2147483648) (wndLt : wnd < 1073741824)
    (placed : serial position = seg.sequenceNo) (below : m ≤ position + 2147483648)
    (above : position < m + 2147483648) (starts : seqLess seg.sequenceNo (serial (m + wnd)))
    (ends : seqLess (serial m) seg.endSequenceNo) :
    position < m + wnd ∧ m + wnd < position + 2147483648 ∧ m < position + seg.payloadLength ∧
      position + seg.payloadLength < m + 2147483648 := by
  rw [← placed, seqLess_serial_iff] at starts
  unfold TCPSegment.endSequenceNo at ends
  rw [← placed, ← serial_add, seqLess_serial_iff] at ends
  omega

/-- `truncateSegment` to the window leaves the part of the segment inside it. -/
lemma truncateSegment_window (small : seg.payloadLength < 2147483648)
    (wndLt : wnd < 1073741824) (placed : serial position = seg.sequenceNo)
    (below : m ≤ position + 2147483648) (above : position < m + 2147483648)
    (ok : seg.truncateSegment (serial m) (serial (m + wnd)) = .ok cut) :
    position < m + wnd ∧ m < position + seg.payloadLength ∧
      cut.sequenceNo = serial (max position m) ∧
      cut.endSequenceNo = serial (min (position + seg.payloadLength) (m + wnd)) := by
  obtain ⟨-, starts, ends, truncated⟩ := TCPSegment.truncateSegment_eq ok
  obtain ⟨posLt, wndNear, endGt, endNear⟩ :=
    overlaps_window small wndLt placed below above starts ends
  have left : seg.truncleft (serial m) = serial (max position m - position) := by
    unfold TCPSegment.truncleft
    rw [← placed]
    split
    case isTrue early =>
      have early := (seqLess_serial (by omega) (by omega)).mp early
      rw [max_eq_right early.le, serial_sub early.le]
    case isFalse late =>
      have late := mt (seqLess_serial (by omega) (by omega)).mpr late
      rw [max_eq_left (not_lt.mp late), Nat.sub_self]
      rfl
  have endSerial : seg.endSequenceNo = serial (position + seg.payloadLength) := by
    unfold TCPSegment.endSequenceNo
    rw [← placed, serial_add]
  have right : seg.truncright (serial (m + wnd)) =
      serial (position + seg.payloadLength - min (position + seg.payloadLength) (m + wnd)) := by
    unfold TCPSegment.truncright
    rw [endSerial]
    split
    case isTrue beyond =>
      have beyond := (seqGreater_serial (by omega) (by omega)).mp beyond
      rw [min_eq_right beyond.le, serial_sub beyond.le]
    case isFalse within =>
      have within := mt (seqGreater_serial (by omega) (by omega)).mpr within
      rw [min_eq_left (not_lt.mp within), Nat.sub_self]
      rfl
  obtain ⟨fits, cut_eq⟩ := TCPSegment.truncateData_eq truncated
  have lost : (seg.truncleft (serial m) + seg.truncright (serial (m + wnd))).toNat =
      (max position m - position) + (position + seg.payloadLength -
        min (position + seg.payloadLength) (m + wnd)) := by
    rw [left, right, ← serial_add, toNat_serial]
    omega
  have start : cut.sequenceNo = serial (max position m) := by
    rw [cut_eq]
    dsimp only
    rw [left, ← placed, ← serial_add]
    congr 1
    omega
  refine ⟨posLt, endGt, start, ?_⟩
  unfold TCPSegment.endSequenceNo
  rw [start, ← serial_add]
  congr 1
  rw [cut_eq]
  dsimp only
  omega

end

/-! ## The stream -/

/-- What `rcv_nxt` and the receive queue stand for. -/
structure Receives (h : History) (taken next lag : ℕ) (spans : List (Span ℕ))
    (vars : RcvStreamVars) : Prop where
  room : 4294967296 ≤ h.start
  rcvNxt : vars.rcvNxt = serial (next + lag)
  queue : vars.receiveQueue.Represents Region.reading spans next
  reassembly : ∃ received, Reassembly h.start taken next received spans ∧
    ∀ p ∈ received, h.Octet p
  fins : ∀ p, next ≤ p → p < next + lag → ∃ f, h.Fin f ∧ serial f = serial p
  near : ∀ t ∈ spans, t.hi ≤ taken + 1073741826
  nextNear : next ≤ taken + 1073741826

namespace Receives

variable {h : History} {taken next lag : ℕ} {spans : List (Span ℕ)} {vars : RcvStreamVars}

lemma serial_beginAt (x : UInt32) : serial (4294967296 + x.toNat) = x := by
  apply UInt32.toNat_inj.mp
  have := x.toNat_lt
  rw [toNat_serial]
  omega

lemma empty (rcvNxt irs maxRcvBuffer : UInt32) :
    Receives (.beginAt rcvNxt) (4294967296 + rcvNxt.toNat) (4294967296 + rcvNxt.toNat) 0 []
      { receiveQueue := .init rcvNxt, rcvNxt := rcvNxt, irs := irs, maxRcvBuffer := maxRcvBuffer } where
  room := Nat.le_add_right ..
  rcvNxt := (serial_beginAt rcvNxt).symm
  queue := ⟨.nil, List.Pairwise.nil, (serial_beginAt rcvNxt).symm⟩
  reassembly := ⟨∅, .empty _, by simp⟩
  fins p ge lt := absurd lt (by omega)
  near := by simp
  nextNear := Nat.le_add_right ..

variable (stream : Receives h taken next lag spans vars)
include stream

lemma arrive (seg : TCPSegment) :
    Receives (h.arrive seg) taken next lag spans vars where
  room := stream.room
  rcvNxt := stream.rcvNxt
  queue := stream.queue
  reassembly := by
    obtain ⟨received, reassembly, octets⟩ := stream.reassembly
    exact ⟨received, reassembly, fun p mem => (octets p mem).arrive seg⟩
  fins p ge lt := by
    obtain ⟨f, fin, same⟩ := stream.fins p ge lt
    exact ⟨f, fin.arrive seg, same⟩
  near := stream.near
  nextNear := stream.nextNear

lemma start_le : h.start ≤ taken := by
  obtain ⟨received, reassembly, -⟩ := stream.reassembly
  exact reassembly.start_le

lemma taken_le_lo {t : Span ℕ} (mem : t ∈ spans) : taken ≤ t.lo := by
  obtain ⟨received, reassembly, -⟩ := stream.reassembly
  exact (reassembly.next_lt_of_mem mem).1

lemma received_of_lt {p : ℕ} (ge : h.start ≤ p) (lt : p < next + lag) : h.Received p := by
  obtain ⟨received, reassembly, octets⟩ := stream.reassembly
  rcases Nat.lt_or_ge p next with below | atLeast
  · exact .inl (octets p (reassembly.received_of_lt p ge below))
  · exact .inr (stream.fins p atLeast lt)

lemma congr {vars' : RcvStreamVars} (rcvNxt : vars'.rcvNxt = vars.rcvNxt)
    (queue : vars'.receiveQueue = vars.receiveQueue) :
    Receives h taken next lag spans vars' where
  room := stream.room
  rcvNxt := rcvNxt.trans stream.rcvNxt
  queue := queue ▸ stream.queue
  reassembly := stream.reassembly
  fins := stream.fins
  near := stream.near
  nextNear := stream.nextNear

omit stream in
/-- Text in the window is inserted, and `rcv_nxt` becomes the first gap, which only text that begins
there moves. -/
lemma insert (stream : Receives h next next lag spans vars) (lagLe : lag ≤ 2) {s : Span ℕ}
    (above : next + lag ≤ s.lo) (within : s.hi ≤ next + lag + 1073741824)
    (arrived : ∀ p, s.lo ≤ p → p < s.hi → h.Octet p) {seg : TCPSegment}
    (begins : seg.sequenceNo = serial s.lo) (ends : seg.endSequenceNo = serial s.hi)
    {queue : VirtualDataRcvQueue Region}
    (ok : vars.receiveQueue.insertBytesFromSegment seg = .ok queue) :
    ∃ next' spans', Receives h next next' 0 spans'
        { vars with receiveQueue := queue, rcvNxt := queue.rcvNxt } ∧
      next ≤ next' ∧ (next' = next ∨ s.lo = next ∧ s.hi ≤ next') ∧
      (∃ t ∈ spans', t.lo ≤ s.lo ∧ s.hi ≤ t.hi) ∧
      cover spans ⊆ cover spans' := by
  obtain ⟨received, reassembly, octets⟩ := stream.reassembly
  have lt := s.lo_lt_hi
  have spansIn : ∀ t ∈ spans, t.Within next (next + 1073741826) := fun t mem =>
    ⟨stream.taken_le_lo mem, stream.near t mem⟩
  have segIn : s.Within next (next + 1073741826) := ⟨by omega, by omega⟩
  have rep : Region.reading.Rep (⟨seg.sequenceNo, seg.endSequenceNo⟩ : Region) s := ⟨begins, ends⟩
  obtain ⟨queue', inserted, represents⟩ := stream.queue.insertRegion
    (fun t mem => (spansIn t mem).mono le_rfl (by omega)) le_rfl (by omega) rep
    (segIn.mono le_rfl (by omega)) (fun _ _ _ _ => trivial)
  have same : queue' = queue := Except.ok.inj (inserted.symm.trans ok)
  subst same
  have grown := reassembly.insert s (by omega)
  have within' : ∀ t ∈ SpanList.insertBack s spans.reverse [],
      t.Within next (next + 1073741826) :=
    SpanList.within_insertBack segIn (fun t mem => spansIn t (List.mem_reverse.mp mem)) (by simp)
  refine ⟨_, _, ⟨stream.room, represents.rcvNxt, represents, ⟨_, grown, ?_⟩, ?_, ?_, ?_⟩,
    grown.taken_le, ?_, ?_, ?_⟩
  · rintro p (mem | ⟨ge, below⟩)
    · exact octets p mem
    · exact arrived p ge below
  · intro p ge below
    omega
  · exact fun t mem => (within' t mem).2
  · exact nextOfSpans_le within' (by omega)
  · by_cases same : nextOfSpans (SpanList.insertBack s spans.reverse []) next = next
    · exact .inl same
    · have moved := lt_of_le_of_ne grown.taken_le (Ne.symm same)
      -- the old gap has been filled, and only by this text
      have filled := grown.received_of_lt next reassembly.start_le moved
      have gap : s.lo ≤ next := by
        rcases filled with old | ⟨ge, -⟩
        · exact absurd old reassembly.next_notMem
        · exact ge
      refine .inr ⟨by omega, ?_⟩
      by_contra inside
      exact grown.next_notMem (.inr ⟨by omega, not_le.mp inside⟩)
  · exact grown.separated.exists_span_of_subset s fun p inside => by
      rw [cover_insertBack]
      exact .inr inside
  · intro p mem
    rw [cover_insertBack]
    exact .inl mem

omit stream in
lemma extract (stream : Receives h taken next 0 spans vars) {byteLength : Option UInt32}
    {queue : VirtualDataRcvQueue Region}
    (ok : vars.receiveQueue.extractBytesUpTo vars.rcvNxt = .ok (byteLength, queue)) :
    ∃ spans', Receives h next next 0 spans' { vars with receiveQueue := queue } ∧
      ∀ p, p ∈ cover spans' ↔ p ∈ cover spans ∧ next ≤ p := by
  obtain ⟨received, reassembly, octets⟩ := stream.reassembly
  have takenLe := reassembly.taken_le
  have nextNear := stream.nextNear
  obtain ⟨-, cut⟩ := reassembly.take takenLe le_rfl
  have spansIn : ∀ t ∈ spans, t.Within taken (taken + 2147483648) := fun t mem =>
    ⟨stream.taken_le_lo mem, (stream.near t mem).trans (by omega)⟩
  obtain ⟨extracted, queue', run, represents, -⟩ := stream.queue.extractTo spansIn takenLe le_rfl
    (by omega) (by omega)
  unfold VirtualDataRcvQueue.extractBytesUpTo at ok
  rw [stream.rcvNxt, Nat.add_zero, run] at ok
  cases ok
  refine ⟨_, ⟨stream.room, stream.rcvNxt, represents, ⟨_, cut, octets⟩, ?_, ?_, ?_⟩, ?_⟩
  · intro p ge below
    omega
  · intro t mem
    have tight : ∀ t ∈ spans, t.Within taken (taken + 1073741826) := fun t mem =>
      ⟨stream.taken_le_lo mem, stream.near t mem⟩
    exact (SpanList.hi_le_of_mem_cutFirst tight mem).trans (by omega)
  · omega
  · intro p
    rw [cut.mem_cover, reassembly.mem_cover]
    constructor
    · rintro ⟨mem, ge⟩
      exact ⟨⟨mem, by omega⟩, ge⟩
    · rintro ⟨⟨mem, -⟩, ge⟩
      exact ⟨mem, ge⟩

lemma pass (fin : ∃ f, h.Fin f ∧ serial f = serial (next + lag)) :
    Receives h taken next (lag + 1) spans { vars with rcvNxt := vars.rcvNxt + 1 } where
  room := stream.room
  rcvNxt := by
    rw [stream.rcvNxt, ← Nat.add_assoc, serial_add (next + lag) 1]
    rfl
  queue := stream.queue
  reassembly := stream.reassembly
  fins p ge lt := by
    rcases Nat.lt_or_ge p (next + lag) with below | atLeast
    · exact stream.fins p ge below
    · have same : p = next + lag := by omega
      exact same ▸ fin
  near := stream.near
  nextNear := stream.nextNear

end Receives

end Inet.Tcp
