import Inet.Tcp.State

/-!
# Errors of the queues

`addSacks` asserts that no block it keeps straddles `rcv_nxt`. None of the assertions of the queues,
the scoreboard and the segments is that one (`Elsewhere`).
-/

namespace Inet.Tcp

/-- The assertion of `addSacks` on the blocks it keeps. -/
def straddledSack : TcpError := .assertion "seqGE(it->getStart(), state->rcv_nxt)"

/-- Any other error. -/
def Elsewhere (error : TcpError) : Prop := error ≠ straddledSack

section

variable {α : Type} {results : α → Prop} {errors : TcpError → Prop}

lemma Elsewhere.of_text {text : String} (other : text ≠ "seqGE(it->getStart(), state->rcv_nxt)") :
    Elsewhere (.assertion text) :=
  fun same => other (TcpError.assertion.inj same)

lemma endsIn_assert {condition : Prop} [Decidable condition] {text : String}
    {next : Unit → Except TcpError α} (fails : errors (.assertion text))
    (ends : condition → EndsIn errors results (next ())) :
    EndsIn errors results (assert condition text >>= next) := by
  unfold assert
  split
  case isTrue holds => exact ends holds
  case isFalse => exact fails

/-- A computation of no interest that cannot fail with that assertion. -/
abbrev FailsElsewhere (x : Except TcpError α) : Prop := EndsIn Elsewhere (fun _ => True) x

lemma FailsElsewhere.assert {condition : Prop} [Decidable condition] {text : String}
    {next : Unit → Except TcpError α}
    (other : text ≠ "seqGE(it->getStart(), state->rcv_nxt)")
    (ends : FailsElsewhere (next ())) : FailsElsewhere (Inet.Tcp.assert condition text >>= next) :=
  endsIn_assert (.of_text other) fun _ => ends

lemma FailsElsewhere.andThen {β : Type} {x : Except TcpError β} {next : β → Except TcpError α}
    (first : FailsElsewhere x) (ends : ∀ b, FailsElsewhere (next b)) :
    FailsElsewhere (x >>= next) :=
  first.bind fun b _ => ends b

end

namespace VirtualDataSendQueue

variable {q : VirtualDataSendQueue}

lemma createSegmentWithBytes_fails (fromSeq numBytes : UInt32) :
    FailsElsewhere (q.createSegmentWithBytes fromSeq numBytes) :=
  .assert (by decide) trivial

lemma discardUpTo_fails (seqNum : UInt32) : FailsElsewhere (q.discardUpTo seqNum) :=
  .assert (by decide) trivial

end VirtualDataSendQueue

/-! ## The scoreboard -/

namespace TCPSACKRexmitQueue

variable {q : TCPSACKRexmitQueue}

lemma regionsFrom_fails (seqNum : UInt32) : FailsElsewhere (q.regionsFrom seqNum) := by
  unfold regionsFrom
  split
  · trivial
  · exact .assert (by decide) trivial

lemma discardUpTo_fails (seqNum : UInt32) : FailsElsewhere (q.discardUpTo seqNum) :=
  .assert (by decide) ((regionsFrom_fails seqNum).andThen fun _ => .assert (by decide) trivial)

variable (fromSeqNum : UInt32)

lemma overwrite_fails (toSeqNum : UInt32) (regions : List RexmitRegion) :
    FailsElsewhere (overwrite fromSeqNum toSeqNum regions) := by
  unfold overwrite
  dsimp only
  split
  · trivial
  · split
    · trivial
    · exact .assert (by decide) trivial

lemma sentRegions_fails (toSeqNum : UInt32) :
    FailsElsewhere (q.sentRegions fromSeqNum toSeqNum) := by
  unfold sentRegions
  split
  · trivial
  · split
    · exact .of_text (by decide)
    · exact .assert (by decide) ((overwrite_fails ..).andThen fun _ => trivial)

lemma enqueueSentData_fails (toSeqNum : UInt32) :
    FailsElsewhere (q.enqueueSentData fromSeqNum toSeqNum) := by
  refine .assert (by decide) (.assert (by decide) ?_)
  exact (sentRegions_fails fromSeqNum toSeqNum).andThen fun _ => .assert (by decide) trivial

lemma forwardLoop_fails (regions : List RexmitRegion) (bytes : UInt32) :
    FailsElsewhere (forwardLoop regions fromSeqNum bytes) := by
  induction regions generalizing fromSeqNum bytes with
  | nil => trivial
  | cons region rest ih =>
    unfold forwardLoop
    split
    · exact .assert (by decide) (ih ..)
    · trivial

lemma checkRexmitQueue_fails :
    FailsElsewhere (q.checkRexmitQueueForSackedOrRexmittedSegments fromSeqNum) := by
  refine .assert (by decide) ?_
  split
  · trivial
  · exact forwardLoop_fails ..

lemma getAmountOfSackedBytes_fails :
    FailsElsewhere (q.getAmountOfSackedBytes fromSeqNum) := by
  refine .assert (by decide) ?_
  dsimp only
  split
  · trivial
  · split <;> trivial

lemma getNumOfDiscontiguousSacks_fails :
    FailsElsewhere (q.getNumOfDiscontiguousSacks fromSeqNum) := by
  refine .assert (by decide) ?_
  split <;> trivial

lemma checkSackBlock_fails : FailsElsewhere (q.checkSackBlock fromSeqNum) := by
  refine .assert (by decide) ?_
  split
  · exact .of_text (by decide)
  · exact .assert (by decide) trivial

end TCPSACKRexmitQueue

namespace VirtualDataRcvQueue

variable {q : VirtualDataRcvQueue Region}

lemma checkRange_fails (region : Region) : FailsElsewhere (q.checkRange region) := by
  unfold checkRange
  split
  · dsimp only
    split
    · exact nofun
    · trivial
  · trivial

lemma mergeLoop_fails (seg : Region) (below above : List Region) :
    FailsElsewhere (mergeLoop seg below above) := by
  induction below generalizing seg above with
  | nil => trivial
  | cons region below ih =>
    unfold mergeLoop
    split
    · trivial
    · exact ih ..
    · refine FailsElsewhere.andThen (x := .ok (seg.merge region)) trivial fun merged => ?_
      cases merged with
      | none => exact nofun
      | some merged => exact ih ..

lemma insertBytesFromSegment_fails (tcpseg : TCPSegment) :
    FailsElsewhere (q.insertBytesFromSegment tcpseg) := by
  refine (checkRange_fails _).andThen fun _ => ?_
  exact FailsElsewhere.andThen ((mergeLoop_fails ..).andThen fun _ => trivial) fun _ => trivial

lemma extractBytesUpTo_fails (seq : UInt32) : FailsElsewhere (q.extractBytesUpTo seq) := by
  refine FailsElsewhere.andThen (?_ : FailsElsewhere (q.extractTo seq)) fun _ => trivial
  refine .assert (by decide) ?_
  split
  · trivial
  · split
    · trivial
    · split
      · trivial
      · exact FailsElsewhere.andThen (.assert (by decide) trivial) fun _ => trivial

end VirtualDataRcvQueue

lemma ByteArray.truncateData_fails {bytes : ByteArray} (truncleft truncright : UInt32) :
    FailsElsewhere (bytes.truncateData truncleft truncright) := by
  refine .assert (by decide) ?_
  split <;> trivial

lemma TCPSegment.truncateSegment_fails {tcpseg : TCPSegment} (firstSeqNo endSeqNo : UInt32) :
    FailsElsewhere (tcpseg.truncateSegment firstSeqNo endSeqNo) := by
  refine .assert (by decide) ?_
  split
  · exact nofun
  · refine .assert (by decide) ?_
    split
    · exact (ByteArray.truncateData_fails ..).andThen fun _ => trivial
    · trivial

end Inet.Tcp
