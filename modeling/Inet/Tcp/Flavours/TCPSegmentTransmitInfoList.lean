import Inet.Lib.MarkedRuns
import Inet.Tcp.SeqNum
import Mathlib.Data.List.Chain
import Mathlib.Order.Bounds.Basic

/-!
# TCPSegmentTransmitInfoList

When, and how often, each outstanding octet was sent. `set` notes a transmission, splitting the
regions at its two ends; `clearTo` drops what is acknowledged.
-/

namespace Inet.Tcp

open UInt32

/-- `TCPSegmentTransmitInfoList::Item`: the octets `[beg, end)`. -/
structure TCPSegmentTransmitInfoList.Item (Time : Type) where
  beg : UInt32
  «end» : UInt32
  firstSentTime : Time
  lastSentTime : Time
  transmitCount : Int32

structure TCPSegmentTransmitInfoList (Time : Type) where
  regions : List (TCPSegmentTransmitInfoList.Item Time) := []

namespace TCPSegmentTransmitInfoList

variable {Time : Type} [LinearOrder Time]

/-- Octets sent for the first time. -/
def sentOnce (beg «end» : UInt32) (sentTime : Time) : Item Time :=
  ⟨beg, «end», sentTime, sentTime, 1⟩

/-- Count one more transmission. -/
def sendAgain (sentTime : Time) (item : Item Time) : Item Time :=
  { item with
    firstSentTime := min item.firstSentTime sentTime
    lastSentTime := max item.lastSentTime sentTime
    transmitCount := item.transmitCount + 1 }

/-- The regions that end at `seq` or before. -/
def endsBy (seq : UInt32) (item : Item Time) : Bool := seqLE item.end seq

/-- The second loop of `set` and what comes behind it, from a region that begins at `beg`
on. -/
def updateFrom («end» : UInt32) (sentTime : Time) :
    UInt32 → List (Item Time) → Except TcpError (List (Item Time))
  | beg, [] => .ok (if beg ≠ «end» then [sentOnce beg «end» sentTime] else [])
  | beg, item :: rest =>
      if endsBy «end» item then do
        assert (beg = item.beg) "beg == i->beg"
        return sendAgain sentTime item :: (← updateFrom «end» sentTime item.end rest)
      else if beg ≠ «end» then do
        assert (beg = item.beg) "beg == i->beg"
        return { sendAgain sentTime item with beg := beg, «end» := «end» } ::
          { item with beg := «end» } :: rest
      else .ok (item :: rest)

/-- Split the region that contains `beg`, unless it begins there, and go on from `beg`. -/
def setInside (beg «end» : UInt32) (sentTime : Time) (regions : List (Item Time)) :
    Except TcpError (List (Item Time)) :=
  match regions.dropWhile (endsBy beg) with
  | [] => .error .outOfBounds
  | item :: rest => do
      assert (seqLE item.beg beg) "seqLE(i->beg, beg)"
      let left := if beg ≠ item.beg then [{ item with «end» := beg }] else []
      let right ← updateFrom «end» sentTime beg ({ item with beg := beg } :: rest)
      return regions.takeWhile (endsBy beg) ++ left ++ right

def set (beg «end» : UInt32) (sentTime : Time) (list : TCPSegmentTransmitInfoList Time) :
    Except TcpError (TCPSegmentTransmitInfoList Time) := do
  assert (seqLess beg «end») "seqLess(beg, end)"
  match list.regions.head?, list.regions.getLast? with
  | some front, some back => do
      assert (seqLE front.beg beg ∧ seqLE beg back.end)
        "seqLE(regions.front().beg, beg) && seqLE(beg, regions.back().end)"
      if back.end = beg then return ⟨list.regions ++ [sentOnce beg «end» sentTime]⟩
      else if «end» = front.beg then return ⟨sentOnce beg «end» sentTime :: list.regions⟩
      else return ⟨← setInside beg «end» sentTime list.regions⟩
  | _, _ => return ⟨[sentOnce beg «end» sentTime]⟩

/-- The loop of `get`. -/
def getFrom (seq : UInt32) : List (Item Time) → Option (Item Time)
  | [] => none
  | item :: rest =>
      if seqLess seq item.beg then none
      else if seqLE item.beg seq ∧ seqLess seq item.end then some item
      else getFrom seq rest

/-- `get(seq)`, `none` where the source returns `NULL`. -/
def get (seq : UInt32) (list : TCPSegmentTransmitInfoList Time) : Option (Item Time) :=
  getFrom seq list.regions

def clearTo (endseq : UInt32) (list : TCPSegmentTransmitInfoList Time) :
    TCPSegmentTransmitInfoList Time :=
  match list.regions.dropWhile (endsBy endseq) with
  | [] => ⟨[]⟩
  | front :: rest =>
      if seqLess front.beg endseq then ⟨{ front with beg := endseq } :: rest⟩
      else ⟨front :: rest⟩

inductive Call (Time : Type) where
  | set (beg «end» : UInt32) (sentTime : Time)
  | clearTo (endseq : UInt32)

namespace Call

def apply (list : TCPSegmentTransmitInfoList Time) :
    Call Time → Except TcpError (TCPSegmentTransmitInfoList Time)
  | .set beg «end» sentTime => list.set beg «end» sentTime
  | .clearTo endseq => .ok (list.clearTo endseq)

/-- The asserted preconditions. -/
def Asserted (list : TCPSegmentTransmitInfoList Time) : Call Time → Prop
  | .set beg «end» _ => seqLess beg «end» ∧
      ∀ front ∈ list.regions.head?, ∀ back ∈ list.regions.getLast?,
        seqLE front.beg beg ∧ seqLE beg back.end
  | .clearTo _ => True

/-- No more than `2 ^ 31` octets are stored, and the end of a `clearTo` is not at once before the
first of them and behind the last. -/
def InReach (list : TCPSegmentTransmitInfoList Time) : Call Time → Prop
  | .set _ «end» _ => ∀ front ∈ list.regions.head?, («end» - front.beg).toNat ≤ 2147483648
  | .clearTo endseq =>
      ∀ front ∈ list.regions.head?, ∀ back ∈ list.regions.getLast?,
        seqLE front.beg endseq ∨ ¬ seqLE back.end endseq

/-- The times at which an octet was sent, after the call. -/
def note (times : UInt32 → List Time) (call : Call Time) (seq : UInt32) : List Time :=
  match call with
  | .set beg «end» sentTime =>
      if seq - beg < «end» - beg then sentTime :: times seq else times seq
  | .clearTo endseq => if seqLess seq endseq then [] else times seq

end Call

/-- Carry out the calls in order. -/
def run : List (Call Time) → TCPSegmentTransmitInfoList Time →
    Except TcpError (TCPSegmentTransmitInfoList Time)
  | [], list => .ok list
  | call :: rest, list => do run rest (← call.apply list)

/-- Every call meets the condition in the state in which it is made. -/
def EachMeets (condition : TCPSegmentTransmitInfoList Time → Call Time → Prop) :
    List (Call Time) → TCPSegmentTransmitInfoList Time → Prop
  | [], _ => True
  | call :: rest, list =>
      condition list call ∧ ∀ list' ∈ (call.apply list).toOption, EachMeets condition rest list'

/-- The times of the `set` calls that covered an octet since it was last cleared. -/
def sentTimes (calls : List (Call Time)) : UInt32 → List Time := calls.foldl Call.note fun _ => []

/-! ## What a list says -/

/-- The item stands for the octets `[lo, hi)`, sent at these times. -/
structure Records (item : Item Time) (lo hi : ℕ) (times : List Time) : Prop where
  beg : item.beg = serial lo
  «end» : item.end = serial hi
  short : hi < lo + 2147483648
  firstSentTime : IsLeast {time | time ∈ times} item.firstSentTime
  lastSentTime : IsGreatest {time | time ∈ times} item.lastSentTime
  transmitCount : item.transmitCount = Int32.ofNat times.length

/-- The list says of every octet when it was sent. -/
structure Tells (list : TCPSegmentTransmitInfoList Time) (times : UInt32 → List Time) (lo hi : ℕ) :
    Prop where
  follows : Follows Records (fun x => times (serial x)) lo list.regions hi
  reach : hi ≤ lo + 2147483648
  others : ∀ x, hi ≤ x → x < lo + 4294967296 → times (serial x) = []

section Reading

variable {item : Item Time} {runs : List (Item Time)} {times : UInt32 → List Time} {lo hi : ℕ}
  {sentTime : Time}

omit [LinearOrder Time] in
lemma endsBy_serial {s : ℕ} (ends : item.end = serial hi) (above : s < hi + 2147483648)
    (below : hi ≤ s + 2147483648) : endsBy (serial s) item = true ↔ hi ≤ s := by
  unfold endsBy
  rw [ends, decide_eq_true_iff]
  exact seqLE_serial above below

lemma records_sentOnce (short : hi < lo + 2147483648) :
    Records (sentOnce (serial lo) (serial hi) sentTime) lo hi [sentTime] where
  beg := rfl
  «end» := rfl
  short := short
  firstSentTime := by simp [sentOnce]
  lastSentTime := by simp [sentOnce]
  transmitCount := rfl

lemma Records.sendAgain {ts : List Time} (records : Records item lo hi ts) :
    Records (sendAgain sentTime item) lo hi (sentTime :: ts) where
  beg := records.beg
  «end» := records.end
  short := records.short
  firstSentTime := by
    have same : {time | time ∈ sentTime :: ts} = insert sentTime {time | time ∈ ts} := by
      ext time
      simp
    change IsLeast _ (min item.firstSentTime sentTime)
    rw [same, min_comm]
    exact records.firstSentTime.insert sentTime
  lastSentTime := by
    have same : {time | time ∈ sentTime :: ts} = insert sentTime {time | time ∈ ts} := by
      ext time
      simp
    change IsGreatest _ (max item.lastSentTime sentTime)
    rw [same, max_comm]
    exact records.lastSentTime.insert sentTime
  transmitCount := by
    change item.transmitCount + 1 = _
    rw [records.transmitCount, List.length_cons, Int32.ofNat_add]
    rfl

variable {b e : ℕ}

lemma Records.part {ts : List Time} (records : Records item lo hi ts) (ge : lo ≤ b)
    (le : e ≤ hi) : Records { item with beg := serial b, «end» := serial e } b e ts where
  beg := rfl
  «end» := rfl
  short := by
    have := records.short
    omega
  firstSentTime := records.firstSentTime
  lastSentTime := records.lastSentTime
  transmitCount := records.transmitCount

variable {g : ℕ → List Time}

lemma updateFrom_follows {g' : ℕ → List Time} (follows : Follows Records g b runs hi) (le : b ≤ e)
    (short : e < b + 2147483648) (reach : hi ≤ e + 2147483648)
    (covered : ∀ x, b ≤ x → x < e → g' x = sentTime :: g x)
    (behind : ∀ x, e ≤ x → x < hi → g' x = g x) (fresh : ∀ x, hi ≤ x → x < e → g x = []) :
    ∃ runs', updateFrom (serial e) sentTime (serial b) runs = .ok runs' ∧
      Follows Records g' b runs' (max hi e) := by
  induction runs generalizing b with
  | nil =>
    obtain rfl := follows.eq_of_nil
    rw [max_eq_right le]
    refine ⟨_, rfl, ?_⟩
    split
    case isTrue ne =>
      have lt : b < e := lt_of_le_of_ne le fun same => ne (congrArg serial same)
      refine .cons lt (records_sentOnce short) (fun x ge below => ?_) .nil
      rw [covered x ge below, fresh x ge below]
    case isFalse same =>
      obtain rfl : b = e := (serial_inj (by omega) (by omega)).mp (not_not.mp same)
      exact .nil
  | cons item rest ih =>
    obtain ⟨m, ts, lt, records, same, follows⟩ := follows
    have := follows.le
    unfold updateFrom
    rw [records.beg]
    split
    case isTrue ends =>
      have whole : m ≤ e := (endsBy_serial records.end (by omega) (by omega)).mp ends
      obtain ⟨runs', ok, follows'⟩ := ih follows whole (by omega)
        (fun x ge below => covered x (by omega) below)
      rw [assert_pos rfl, records.end]
      rw [ok]
      refine ⟨_, rfl, .cons lt records.sendAgain (fun x ge below => ?_) follows'⟩
      rw [covered x ge (by omega), same x ge below]
    case isFalse ends =>
      have inside : e < m := by
        rw [endsBy_serial records.end (by omega) (by omega)] at ends
        omega
      rw [max_eq_left (by omega)]
      have later : Follows Records g' m rest hi :=
        follows.congr fun x ge below => behind x (by omega) below
      split
      case isTrue ne =>
        have apart : b < e := lt_of_le_of_ne le fun same => ne (congrArg serial same)
        have right : Records { item with beg := serial e } e m ts := by
          have part := records.part le le_rfl
          rwa [← records.end] at part
        rw [assert_pos rfl]
        refine ⟨_, rfl, .cons apart (records.sendAgain.part le_rfl inside.le)
          (fun x ge below => ?_) (.cons inside right (fun x ge below => ?_) later)⟩
        · rw [covered x ge below, same x ge (by omega)]
        · rw [behind x ge (by omega), same x (by omega) below]
      case isFalse same' =>
        obtain rfl : b = e := (serial_inj (by omega) (by omega)).mp (not_not.mp same')
        refine ⟨_, rfl, .cons lt records (fun x ge below => ?_) later⟩
        rw [behind x ge (by omega), same x ge below]

lemma setInside_follows {g' : ℕ → List Time} (follows : Follows Records g lo runs hi)
    (ge : lo ≤ b) (lt : b < hi) (reach : b < lo + 2147483648) (ahead : hi ≤ b + 2147483648)
    (le : b ≤ e) (short : e < b + 2147483648) (before : ∀ x, lo ≤ x → x < b → g' x = g x)
    (covered : ∀ x, b ≤ x → x < e → g' x = sentTime :: g x)
    (behind : ∀ x, e ≤ x → x < hi → g' x = g x) (fresh : ∀ x, hi ≤ x → x < e → g x = []) :
    ∃ runs', setInside (serial b) (serial e) sentTime runs = .ok runs' ∧
      Follows Records g' lo runs' (max hi e) := by
  obtain ⟨m, first, ⟨-, -, past⟩ | ⟨item, rest, h, ts, cut, head⟩⟩ :=
    follows.cutAt (endsBy (serial b)) ge fun records le lt le' =>
      endsBy_serial records.end (by omega) (by omega)
  · omega
  · have mLe := head.le
    have inside := head.lt
    have loLe := first.le
    unfold setInside
    rw [cut]
    dsimp only
    rw [head.reads.beg, assert_pos ((seqLE_serial (by omega) (by omega)).mpr mLe)]
    have right : Follows Records g b ({ item with beg := serial b } :: rest) hi := by
      have part := head.reads.part (b := b) (e := h) mLe le_rfl
      rw [← head.reads.end] at part
      exact .cons inside part (fun x ge below => head.same x (by omega) below) head.follows
    obtain ⟨runs', ok, updated⟩ := updateFrom_follows right le short (by omega) covered behind fresh
    rw [ok]
    refine ⟨_, rfl, (Follows.append (m := b) (.append (m := m) ?_ ?_) updated)⟩
    · exact first.congr fun x ge below => before x ge (by omega)
    · split
      case isTrue ne =>
        have apart : m < b := lt_of_le_of_ne mLe fun same => ne (congrArg serial same.symm)
        have part := head.reads.part (b := m) (e := b) le_rfl inside.le
        refine .cons apart part (fun x ge below => ?_) .nil
        rw [before x (by omega) below, head.same x ge (by omega)]
      case isFalse same =>
        have mem := not_not.mp same
        obtain rfl : b = m := (serial_inj (by omega) (by omega)).mp mem
        exact .nil

lemma front_beg (follows : Follows Records g lo runs hi)
    (front : item ∈ runs.head?) : item.beg = serial lo ∧ lo < hi := by
  obtain ⟨rest, rfl⟩ := List.head?_eq_some_iff.mp front
  obtain ⟨m, ts, lt, records, -, follows⟩ := follows
  exact ⟨records.beg, lt.trans_le follows.le⟩

lemma back_end (follows : Follows Records g lo runs hi)
    (back : item ∈ runs.getLast?) : item.end = serial hi := by
  obtain ⟨first, rfl⟩ := List.getLast?_eq_some_iff.mp back
  obtain ⟨m, -, h, ts, -, records, -, follows⟩ := follows.of_append
  obtain rfl := follows.eq_of_nil
  exact records.end

/-! ## Calls -/

omit [LinearOrder Time] in
lemma note_set {x : ℕ} (le : b ≤ e) (short : e < b + 2147483648) (ge : b ≤ x)
    (below : x < b + 4294967296) :
    Call.note times (.set (serial b) (serial e) sentTime) (serial x) =
      if x < e then sentTime :: times (serial x) else times (serial x) := by
  have covers : serial x - serial b < serial e - serial b ↔ x < e := by
    rw [lt_iff_toNat_lt, toNat_serial_sub ge below, toNat_serial_sub le (by omega)]
    omega
  unfold Call.note
  simp only [covers]

omit [LinearOrder Time] in
lemma note_set_before {x : ℕ} (le : b ≤ e) (short : e < b + 2147483648) (below : x < b)
    (near : b ≤ x + 2147483648) :
    Call.note times (.set (serial b) (serial e) sentTime) (serial x) = times (serial x) := by
  rw [← serial_add_cycle x, note_set le short (by omega) (by omega), if_neg (by omega)]

lemma exists_positions {beg «end» : UInt32} (less : seqLess beg «end») (lo : ℕ) :
    ∃ b e, beg = serial b ∧ «end» = serial e ∧ lo ≤ b ∧ b < lo + 4294967296 ∧ b < e ∧
      e < b + 2147483648 := by
  refine ⟨unwrap lo beg, unwrap (unwrap lo beg) «end», (serial_unwrap ..).symm,
    (serial_unwrap ..).symm, le_unwrap .., unwrap_lt .., ?_⟩
  obtain ⟨ne, half⟩ := less
  have distance : unwrap (unwrap lo beg) «end» = unwrap lo beg + («end» - beg).toNat := by
    rw [unwrap, serial_unwrap]
  have positive : 0 < («end» - beg).toNat := by
    refine Nat.pos_of_ne_zero fun zero => ne ?_
    have zero : «end» - beg = 0 := UInt32.toNat_inj.mp zero
    rw [← UInt32.sub_add_cancel «end» beg, zero, UInt32.zero_add]
  rw [lt_iff_toNat_lt] at half
  have bound : (2147483648 : UInt32).toNat = 2147483648 := rfl
  omega

lemma tells_sentOnce (empty : ∀ seq, times seq = []) (lt : b < e) (short : e < b + 2147483648) :
    Tells ⟨[sentOnce (serial b) (serial e) sentTime]⟩
      (Call.note times (.set (serial b) (serial e) sentTime)) b e where
  follows := by
    refine .cons lt (records_sentOnce short) (fun x ge below => ?_) .nil
    rw [note_set lt.le short ge (by omega), if_pos below, empty]
  reach := short.le
  others x ge below := by rw [note_set lt.le short (by omega) below, if_neg (by omega), empty]

lemma bounds_of_asserted (ge : lo ≤ b) (below : b < lo + 4294967296) (lt : b < e)
    (short : e < b + 2147483648) (le : lo ≤ hi) (reach : hi ≤ lo + 2147483648)
    (frontLE : seqLE (serial lo) (serial b)) (backLE : seqLE (serial b) (serial hi))
    (fits : (serial e - serial lo).toNat ≤ 2147483648) :
    b < lo + 2147483648 ∧ b ≤ hi ∧ hi < b + 2147483648 ∧ e ≤ lo + 2147483648 := by
  unfold seqLE at frontLE backLE
  rw [UInt32.lt_iff_toNat_lt] at frontLE backLE
  have bound : (2147483648 : UInt32).toNat = 2147483648 := rfl
  rw [bound, toNat_serial_sub ge below] at frontLE
  rw [toNat_serial_sub (by omega) (by omega)] at fits
  rw [bound, UInt32.toNat_sub, toNat_serial, toNat_serial] at backLE
  omega

lemma set_tells {list : TCPSegmentTransmitInfoList Time} {beg «end» : UInt32}
    (tells : Tells list times lo hi) (asserted : Call.Asserted list (.set beg «end» sentTime))
    (inReach : Call.InReach list (.set beg «end» sentTime)) :
    ∃ list' lo' hi', list.set beg «end» sentTime = .ok list' ∧
      Tells list' (Call.note times (.set beg «end» sentTime)) lo' hi' := by
  obtain ⟨less, bounds⟩ := asserted
  obtain ⟨follows, reach, others⟩ := tells
  obtain ⟨b, e, rfl, rfl, ge, below, lt, short⟩ := exists_positions less lo
  unfold set
  rw [assert_pos less]
  dsimp only [bind, Except.bind]
  split
  case h_1 front back isFront isBack =>
    obtain ⟨frontBeg, loLt⟩ := front_beg follows isFront
    have backEnd := back_end follows isBack
    have within := bounds front isFront back isBack
    have fits := inReach front isFront
    rw [assert_pos within]
    dsimp only
    rw [frontBeg] at within fits ⊢
    rw [backEnd] at within ⊢
    obtain ⟨near, bLe, hiNear, eLe⟩ :=
      bounds_of_asserted ge below lt short loLt.le reach within.1 within.2 fits
    have before x (ge : lo ≤ x) (below : x < b) :
        Call.note times (.set (serial b) (serial e) sentTime) (serial x) = times (serial x) :=
      note_set_before lt.le short below (by omega)
    have covered x (ge : b ≤ x) (below : x < e) :
        Call.note times (.set (serial b) (serial e) sentTime) (serial x) =
          sentTime :: times (serial x) := by
      rw [note_set lt.le short ge (by omega), if_pos below]
    have behind x (ge : e ≤ x) (below : x < lo + 4294967296) :
        Call.note times (.set (serial b) (serial e) sentTime) (serial x) = times (serial x) := by
      rw [note_set lt.le short (by omega) (by omega), if_neg (by omega)]
    split
    case isTrue atEnd =>
      obtain rfl : hi = b := (serial_inj (by omega) (by omega)).mp atEnd
      refine ⟨_, lo, e, rfl, ?_, eLe, fun x ge' below' => ?_⟩
      · refine .append (follows.congr before) ?_
        refine .cons lt (records_sentOnce short) (fun x ge' below' => ?_) .nil
        rw [covered x ge' below', others x ge' (by omega)]
      · rw [behind x ge' below', others x (by omega) below']
    case isFalse notAtEnd =>
      have inside : b < hi := lt_of_le_of_ne bLe fun same => notAtEnd (congrArg serial same.symm)
      split
      case isTrue wraps =>
        have := (serial_inj (by omega) (by omega)).mp wraps
        omega
      case isFalse =>
        obtain ⟨runs', ok, follows'⟩ := setInside_follows follows ge inside near hiNear.le lt.le
          short before covered (fun x ge' below' => behind x ge' (by omega))
          (fun x ge' below' => others x ge' (by omega))
        rw [ok]
        refine ⟨_, lo, max hi e, rfl, follows', max_le reach eLe, fun x ge' below' => ?_⟩
        have pastE : e ≤ x := (le_max_right hi e).trans ge'
        have pastHi : hi ≤ x := (le_max_left hi e).trans ge'
        rw [behind x pastE below', others x pastHi below']
  case h_2 noEnds =>
    have empty : list.regions = [] := by
      rcases regions : list.regions with - | ⟨front, rest⟩
      · rfl
      · exact (noEnds front _ (by rw [regions]; rfl) (by
          rw [regions]
          exact List.getLast?_eq_some_getLast (List.cons_ne_nil front rest))).elim
    rw [empty] at follows
    obtain rfl := follows.eq_of_nil
    refine ⟨_, b, e, rfl, tells_sentOnce (fun seq => ?_) lt short⟩
    rw [← serial_unwrap lo seq]
    exact others _ (le_unwrap ..) (unwrap_lt ..)

omit [LinearOrder Time] in
lemma note_clearTo {x : ℕ} (near : x ≤ e + 2147483648) (ahead : e < x + 2147483648) :
    Call.note times (.clearTo (serial e)) (serial x) =
      if x < e then [] else times (serial x) := by
  unfold Call.note
  simp only [seqLess_serial ahead near]

lemma clearTo_ahead {list : TCPSegmentTransmitInfoList Time} (tells : Tells list times lo hi)
    (ge : lo ≤ e) (near : e < lo + 2147483648) :
    ∃ hi', Tells (list.clearTo (serial e)) (Call.note times (.clearTo (serial e))) e hi' := by
  obtain ⟨follows, reach, others⟩ := tells
  have cleared x (le : e ≤ x) (below : x < e + 4294967296) :
      Call.note times (.clearTo (serial e)) (serial x) =
        if x < lo + 4294967296 then times (serial x) else [] := by
    split
    case isTrue before =>
      rcases Nat.lt_or_ge (e + 2147483648) x with far | close
      · unfold Call.note
        dsimp only
        rw [others x (by omega) before, ite_self]
      · rw [note_clearTo close (by omega), if_neg (by omega)]
    case isFalse =>
      obtain ⟨y, rfl⟩ : ∃ y, x = y + 4294967296 := ⟨x - 4294967296, by omega⟩
      rw [serial_add_cycle, note_clearTo (by omega) (by omega), if_pos (by omega)]
  obtain ⟨m, first, ⟨done, rfl, past⟩ | ⟨item, rest, h, ts, cut, head⟩⟩ :=
    follows.cutAt (endsBy (serial e)) ge fun records le lt le' =>
      endsBy_serial records.end (by omega) (by omega)
  · refine ⟨e, ?_⟩
    unfold clearTo
    rw [done]
    refine ⟨.nil, by omega, fun x le below => ?_⟩
    rw [cleared x le below]
    split
    · exact others x (by omega) (by omega)
    · rfl
  · have mLe := head.le
    have inside := head.lt
    have loLe := first.le
    have := head.follows.le
    refine ⟨hi, ?_⟩
    have tail : Follows Records (fun x => Call.note times (.clearTo (serial e)) (serial x)) e
        ({ item with beg := serial e } :: rest) hi := by
      have part := head.reads.part (b := e) (e := h) mLe le_rfl
      rw [← head.reads.end] at part
      refine .cons inside part (fun x ge' below => ?_) (head.follows.congr fun x ge' below => ?_)
      · rw [cleared x ge' (by omega), if_pos (by omega), head.same x (by omega) below]
      · rw [cleared x (by omega) (by omega), if_pos (by omega)]
    have told : Tells ⟨{ item with beg := serial e } :: rest⟩
        (Call.note times (.clearTo (serial e))) e hi := by
      refine ⟨tail, by omega, fun x le below => ?_⟩
      rw [cleared x (by omega) below]
      split
      · exact others x le (by omega)
      · rfl
    unfold clearTo
    rw [cut]
    dsimp only
    split
    case isTrue => exact told
    case isFalse atFront =>
      rw [head.reads.beg, seqLess_serial (by omega) (by omega)] at atFront
      obtain rfl : m = e := by omega
      have whole : { item with beg := serial m } = item := by rw [← head.reads.beg]
      rwa [whole] at told

lemma getFrom_follows (follows : Follows Records g lo runs hi) (reach : hi ≤ lo + 2147483648)
    {x : ℕ} (ge : lo ≤ x) (below : x < lo + 4294967296) :
    (getFrom (serial x) runs = none ↔ hi ≤ x) ∧
      ∀ item ∈ getFrom (serial x) runs, ∃ l h, Records item l h (g x) := by
  induction runs generalizing lo with
  | nil =>
    obtain rfl := follows.eq_of_nil
    exact ⟨iff_of_true rfl ge, nofun⟩
  | cons item rest ih =>
    obtain ⟨m, ts, lt, records, same, follows⟩ := follows
    have := records.short
    have := follows.le
    unfold getFrom
    rw [records.beg, records.end]
    split
    case isTrue before =>
      -- more than half the number space past the beginning
      have far : lo + 2147483648 < x := by
        by_contra close
        have := (seqLess_serial (by omega) (by omega)).mp before
        omega
      exact ⟨iff_of_true rfl (by omega), nofun⟩
    case isFalse notBefore =>
      have close : x ≤ lo + 2147483648 := by
        by_contra far
        rw [← serial_add_cycle lo] at notBefore
        exact notBefore ((seqLess_serial (by omega) (by omega)).mpr below)
      have inside : seqLess (serial x) (serial m) ↔ x < m := seqLess_serial (by omega) (by omega)
      split
      case isTrue found =>
        have lt := inside.mp found.2
        refine ⟨iff_of_false nofun (by omega), fun item' mem => ?_⟩
        obtain rfl := Option.some.inj mem
        rw [same x ge lt]
        exact ⟨lo, m, records⟩
      case isFalse missed =>
        refine ih follows (by omega) ?_ (by omega)
        by_contra within
        exact missed ⟨(seqLE_serial (by omega) (by omega)).mpr ge, inside.mpr (by omega)⟩

lemma clearTo_before {list : TCPSegmentTransmitInfoList Time} (tells : Tells list times lo hi)
    (far : lo < hi → hi + 2147483648 ≤ e) (near : e < lo + 4294967296) :
    Tells (list.clearTo (serial e)) (Call.note times (.clearTo (serial e))) lo hi := by
  obtain ⟨follows, reach, others⟩ := tells
  have behind x (lt : lo < hi) (ge : lo ≤ x) (le : x ≤ hi) :
      2147483648 ≤ (serial e - serial x).toNat := by
    rw [toNat_serial_sub (by omega) (by omega)]
    omega
  have half : (2147483648 : UInt32).toNat = 2147483648 := rfl
  have stays : list.clearTo (serial e) = list := by
    unfold clearTo
    rcases regions : list.regions with - | ⟨front, rest⟩
    · exact congrArg TCPSegmentTransmitInfoList.mk regions.symm
    · rw [regions] at follows
      obtain ⟨m, ts, lt, records, -, follows⟩ := follows
      have le := follows.le
      have notEnds : ¬ endsBy (serial e) front = true := by
        unfold endsBy
        rw [records.end, decide_eq_true_iff]
        unfold seqLE
        exact not_lt.mpr (behind m (by omega) lt.le le)
      have notLess : ¬ seqLess front.beg (serial e) := by
        rintro ⟨-, less⟩
        rw [records.beg, lt_iff_toNat_lt, half] at less
        exact absurd (behind lo (by omega) le_rfl (by omega)) (not_le.mpr less)
      rw [List.dropWhile_cons_of_neg notEnds]
      dsimp only
      rw [if_neg notLess]
      exact congrArg TCPSegmentTransmitInfoList.mk regions.symm
  rw [stays]
  refine ⟨follows.congr fun x ge below => ?_, reach, fun x ge below => ?_⟩
  · refine if_neg fun ⟨_, less⟩ => ?_
    exact absurd (behind x (by omega) ge below.le) (not_le.mpr less)
  · unfold Call.note
    dsimp only
    rw [others x ge below, ite_self]

lemma clearTo_tells {list : TCPSegmentTransmitInfoList Time} (tells : Tells list times lo hi)
    {endseq : UInt32} (inReach : Call.InReach list (.clearTo endseq)) :
    ∃ lo' hi', Tells (list.clearTo endseq) (Call.note times (.clearTo endseq)) lo' hi' := by
  obtain ⟨e, rfl, ge, below⟩ : ∃ e, endseq = serial e ∧ lo ≤ e ∧ e < lo + 4294967296 :=
    ⟨unwrap lo endseq, (serial_unwrap ..).symm, le_unwrap .., unwrap_lt ..⟩
  by_cases near : e < lo + 2147483648
  · exact ⟨e, clearTo_ahead tells ge near⟩
  · refine ⟨lo, hi, clearTo_before tells (fun lt => ?_) below⟩
    rcases regions : list.regions with - | ⟨front, rest⟩
    · have := tells.follows
      rw [regions] at this
      exact absurd this.eq_of_nil lt.ne
    · have isFront : front ∈ list.regions.head? := by rw [regions]; rfl
      obtain ⟨back, isBack⟩ : ∃ back, back ∈ list.regions.getLast? := by
        rw [regions]
        exact ⟨_, List.getLast?_eq_some_getLast (List.cons_ne_nil front rest)⟩
      have within := inReach front isFront _ isBack
      rw [(front_beg tells.follows isFront).1, back_end tells.follows isBack] at within
      have reach := tells.reach
      unfold seqLE at within
      have half : (2147483648 : UInt32).toNat = 2147483648 := rfl
      rw [lt_iff_toNat_lt, lt_iff_toNat_lt, half, toNat_serial_sub ge below,
        toNat_serial_sub (by omega) (by omega)] at within
      omega

end Reading

variable {calls : List (Call Time)} {list : TCPSegmentTransmitInfoList Time}

/-- The call meets its preconditions and stays in reach. -/
def Fits (list : TCPSegmentTransmitInfoList Time) (call : Call Time) : Prop :=
  call.Asserted list ∧ call.InReach list

variable {times : UInt32 → List Time}

lemma Tells.apply {lo hi : ℕ} {call : Call Time} (tells : Tells list times lo hi)
    (fits : Fits list call) :
    ∃ list' lo' hi', call.apply list = .ok list' ∧ Tells list' (call.note times) lo' hi' := by
  cases call with
  | set beg «end» sentTime => exact set_tells tells fits.1 fits.2
  | clearTo endseq =>
    obtain ⟨lo', hi', tells'⟩ := clearTo_tells tells fits.2
    exact ⟨_, lo', hi', rfl, tells'⟩

lemma Tells.run {lo hi : ℕ} (tells : Tells list times lo hi) (fits : EachMeets Fits calls list) :
    ∃ list' lo' hi', run calls list = .ok list' ∧
      Tells list' (calls.foldl Call.note times) lo' hi' := by
  induction calls generalizing list times lo hi with
  | nil => exact ⟨list, lo, hi, rfl, tells⟩
  | cons call rest ih =>
    obtain ⟨list', lo', hi', ok, tells'⟩ := tells.apply fits.1
    unfold TCPSegmentTransmitInfoList.run
    rw [ok]
    exact ih tells' (fits.2 list' (by rw [ok]; rfl))

/-- The regions are contiguous, and none is empty. -/
def Contiguous (regions : List (Item Time)) : Prop :=
  regions.IsChain (fun item next => item.end = next.beg) ∧ ∀ item ∈ regions, item.beg ≠ item.end

/-- The list is well formed, and `get` has the number of times an octet was sent, the first and the
last, and `NULL` if there is none. -/
structure Tracks (list : TCPSegmentTransmitInfoList Time) (times : UInt32 → List Time) : Prop where
  contiguous : Contiguous list.regions
  stored : ∀ seq item, list.get seq = some item →
    item.transmitCount = Int32.ofNat (times seq).length ∧
      IsLeast {time | time ∈ times seq} item.firstSentTime ∧
      IsGreatest {time | time ∈ times seq} item.lastSentTime
  missing : ∀ seq, list.get seq = none ↔ times seq = []

lemma contiguous_of_follows {g : ℕ → List Time} {runs : List (Item Time)} {lo hi : ℕ}
    (follows : Follows Records g lo runs hi) : Contiguous runs := by
  constructor
  · induction runs generalizing lo with
    | nil => exact .nil
    | cons item rest ih =>
      obtain ⟨m, ts, lt, records, same, follows⟩ := follows
      refine List.isChain_cons.mpr ⟨fun next isNext => ?_, ih follows⟩
      rw [records.end, (front_beg follows isNext).1]
  · intro item mem
    obtain ⟨l, h, ts, -, lt, -, records, -⟩ := follows.of_mem mem
    have short := records.short
    rw [records.beg, records.end]
    exact fun same => lt.ne ((serial_inj (by omega) (by omega)).mp same)

lemma Tells.tracks {lo hi : ℕ} (tells : Tells list times lo hi) : Tracks list times where
  contiguous := contiguous_of_follows tells.follows
  stored seq item found := by
    obtain ⟨-, records⟩ := getFrom_follows tells.follows tells.reach (le_unwrap lo seq)
      (unwrap_lt lo seq)
    rw [serial_unwrap] at records
    obtain ⟨l, h, records⟩ := records item found
    exact ⟨records.transmitCount, records.firstSentTime, records.lastSentTime⟩
  missing seq := by
    obtain ⟨none, -⟩ := getFrom_follows tells.follows tells.reach (le_unwrap lo seq)
      (unwrap_lt lo seq)
    rw [serial_unwrap] at none
    refine none.trans ⟨fun past => ?_, fun empty => ?_⟩
    · rw [← serial_unwrap lo seq]
      exact tells.others _ past (unwrap_lt ..)
    · by_contra inside
      obtain ⟨run, -, l, h, -, -, -, -, records⟩ :=
        tells.follows.exists_run (le_unwrap lo seq) (not_le.mp inside)
      rw [serial_unwrap, empty] at records
      exact absurd records.firstSentTime.1 List.not_mem_nil

/-- In a run of calls that stay in reach, the list tells of every octet how often it was
sent since it was last cleared, and when first and last. -/
theorem get_tells_transmissions (fits : EachMeets Fits calls {}) :
    ∃ list, run calls {} = .ok list ∧ Tracks list (sentTimes calls) := by
  have empty : Tells ({} : TCPSegmentTransmitInfoList Time) (fun _ => []) 0 0 :=
    ⟨.nil, by omega, fun _ _ _ => rfl⟩
  obtain ⟨list, lo, hi, ok, tells⟩ := empty.run fits
  exact ⟨list, ok, tells.tracks⟩

section Decisions

variable (condition : TCPSegmentTransmitInfoList Time → Call Time → Prop)
  [∀ list call, Decidable (condition list call)]

instance decidableEachMeets : ∀ calls list, Decidable (EachMeets condition calls list)
  | [], _ => .isTrue trivial
  | call :: rest, list =>
      have := decidableEachMeets rest
      inferInstanceAs (Decidable (condition list call ∧
          ∀ list' ∈ (call.apply list).toOption, EachMeets condition rest list'))

instance (list : TCPSegmentTransmitInfoList Time) :
    (call : Call Time) → Decidable (call.Asserted list)
  | .set beg «end» _ => inferInstanceAs (Decidable (seqLess beg «end» ∧
      ∀ front ∈ list.regions.head?, ∀ back ∈ list.regions.getLast?,
        seqLE front.beg beg ∧ seqLE beg back.end))
  | .clearTo _ => .isTrue trivial

instance (list : TCPSegmentTransmitInfoList Time) :
    (call : Call Time) → Decidable (call.InReach list)
  | .set _ «end» _ => inferInstanceAs (Decidable
      (∀ front ∈ list.regions.head?, («end» - front.beg).toNat ≤ 2147483648))
  | .clearTo endseq => inferInstanceAs (Decidable
      (∀ front ∈ list.regions.head?, ∀ back ∈ list.regions.getLast?,
        seqLE front.beg endseq ∨ ¬ seqLE back.end endseq))

instance (list : TCPSegmentTransmitInfoList Time) (call : Call Time) :
    Decidable (Fits list call) :=
  inferInstanceAs (Decidable (_ ∧ _))

end Decisions

/-- The times of all the `set` calls that covered an octet. -/
def coveringTimes (calls : List (Call Time)) (seq : UInt32) : List Time :=
  calls.filterMap fun call =>
    match call with
    | .set beg «end» sentTime => if seq - beg < «end» - beg then some sentTime else none
    | .clearTo _ => none

/-- Two sets of `2 ^ 31 - 1` octets each. -/
def farSets : List (Call ℕ) := [.set 0 2147483647 1, .set 2147483647 4294967294 2]

/-- A set, and a `clearTo` more than half the number space ahead of its first octet. -/
def farClear : List (Call ℕ) := [.set 0 10 1, .clearTo 2147483653]

/-- The same octets sent, acknowledged and sent again. -/
def setAgain : List (Call ℕ) := [.set 0 10 1, .clearTo 10, .set 0 10 2]

/-- `get` misses octets that have been sent, `clearTo` drops octets not below its end, and a cleared
octet is counted anew. -/
theorem transmissions_out_of_reach :
    (¬ ∀ calls : List (Call ℕ), EachMeets (fun list call => call.Asserted list) calls {} →
      ∃ list, run calls {} = .ok list ∧ Tracks list (sentTimes calls)) ∧
    (EachMeets (fun list call => call.Asserted list) farClear {} ∧
      ¬ ∃ list, run farClear {} = .ok list ∧ Tracks list (sentTimes farClear)) ∧
    ∃ list item, EachMeets Fits setAgain {} ∧ run setAgain {} = .ok list ∧ list.get 5 = some item ∧
        item.transmitCount ≠ Int32.ofNat (coveringTimes setAgain 5).length := by
  refine ⟨fun tracks => ?_, ⟨by decide +kernel, ?_⟩, ?_⟩
  · obtain ⟨list, ok, tracks⟩ := tracks farSets (by decide +kernel)
    have none : ∀ list ∈ (run farSets {}).toOption, list.get 2147483653 = none := by
      decide +kernel
    have sent : sentTimes farSets 2147483653 = [2] := by decide +kernel
    have missing := (tracks.missing _).mp (none list (by rw [ok]; rfl))
    cases missing
  · rintro ⟨list, ok, tracks⟩
    have none : ∀ list ∈ (run farClear {}).toOption, list.get 0 = none := by decide +kernel
    have sent : sentTimes farClear 0 = [1] := by decide +kernel
    have missing := (tracks.missing _).mp (none list (by rw [ok]; rfl))
    cases missing
  · exact ⟨⟨[⟨0, 10, 2, 2, 1⟩]⟩, ⟨0, 10, 2, 2, 1⟩, by decide +kernel, rfl, rfl, by decide +kernel⟩

/-- Two overlapping sets across the wrap, and a `clearTo`. -/
def overlappingSets : List (Call ℕ) :=
  [.set 4294967290 10 1, .set 4294967294 20 3, .clearTo 4294967292, .set 5 8 2]

theorem get_tells_overlapping :
    ∃ list, run overlappingSets {} = .ok list ∧ Tracks list (sentTimes overlappingSets) :=
  get_tells_transmissions (by decide +kernel)

end TCPSegmentTransmitInfoList

end Inet.Tcp
