import Inet.Sctp.SendStreams

/-!
# The fragments of a message

`Pieces`: the messages that a message of the application is sent as, from every offset on. `Carries`
says the same of their chunks.
-/

namespace Inet.Sctp

open List

variable {n : ℕ} {cfg : SendConfig}

/-- The pieces of the message from an offset on. -/
structure Pieces (cfg : SendConfig) (msg : SCTPDataMsg outboundStreams) (offset : ℕ)
    (pieces : List (SCTPDataMsg outboundStreams)) : Prop where
  begins : pieces.map (·.bBit) = decide (offset = 0) :: List.replicate (pieces.length - 1) false
  ends : pieces.map (·.eBit) = List.replicate (pieces.length - 1) false ++ [true]
  same : ∀ piece ∈ pieces, piece.sid = msg.sid ∧ piece.ordered = msg.ordered ∧ piece.ppid = msg.ppid
  short : ∀ piece ∈ pieces, piece.encapsulated.byteLength ≤ cfg.msgbytes
  filled : ∀ piece ∈ pieces, piece.encapsulated.data = [] ∨
    piece.encapsulated.data.length = piece.encapsulated.byteLength
  length : offset + (pieces.map (·.encapsulated.byteLength)).sum = msg.encapsulated.byteLength
  data : pieces.flatMap (·.encapsulated.data) = msg.encapsulated.data.drop offset

/-- The packet of the application has all its data or none. -/
def SCTPSimpleMessage.Filled (smsg : SCTPSimpleMessage) : Prop :=
  smsg.data = [] ∨ smsg.data.length = smsg.byteLength

lemma SendConfig.msgbytes_pos (cfg : SendConfig) : 0 < cfg.msgbytes := by
  have := cfg.aboveHeaders
  unfold SendConfig.msgbytes
  omega

lemma SCTPSimpleMessage.part_filled {smsg : SCTPSimpleMessage} (filled : smsg.Filled)
    {offset size : ℕ} (within : offset + size ≤ smsg.byteLength) :
    (smsg.part offset size).byteLength = size ∧
      (smsg.part offset size).data = (smsg.data.drop offset).take size ∧
      (smsg.part offset size).Filled := by
  unfold SCTPSimpleMessage.part SCTPSimpleMessage.Filled
  by_cases covered : offset + size ≤ smsg.data.length
  · rw [if_pos covered]
    refine ⟨rfl, rfl, Or.inr ?_⟩
    simp only [length_take, length_drop]
    omega
  · rw [if_neg covered]
    rcases filled with none | all
    · simp [none]
    · omega

variable {msg : SCTPDataMsg n}

lemma fragmentLoop_pieces (filled : msg.encapsulated.Filled) (full : UInt16) (rounds offset : ℕ)
    (pcounter : UInt16) (within : offset < msg.encapsulated.byteLength)
    (enough : msg.encapsulated.byteLength ≤ offset + rounds) :
    Pieces cfg msg offset (fragmentLoop cfg msg full rounds offset pcounter) := by
  induction rounds generalizing offset pcounter with
  | zero => omega
  | succ rounds ih =>
    have positive := cfg.msgbytes_pos
    simp only [fragmentLoop]
    generalize eq : min cfg.msgbytes (msg.encapsulated.byteLength - offset) = size
    have size_le : size ≤ cfg.msgbytes := by omega
    have reach : offset + size ≤ msg.encapsulated.byteLength := by omega
    obtain ⟨length, data, part⟩ := SCTPSimpleMessage.part_filled filled reach
    by_cases last : offset + size = msg.encapsulated.byteLength
    · have rest : (msg.encapsulated.data.drop offset).take size =
          msg.encapsulated.data.drop offset := by
        apply take_of_length_le
        rw [length_drop]
        rcases filled with none | all
        · simp [none]
        · omega
      constructor <;> simp_all [fragmentOf, SCTPSimpleMessage.Filled]
    · simp only [last, decide_false, if_false, Bool.false_eq_true]
      have tail := ih (offset + size) (pcounter + 1) (by omega) (by omega)
      generalize fragmentLoop cfg msg full rounds (offset + size) (pcounter + 1) = rest at tail
      have one : rest.length - 1 + 1 = rest.length := by
        have := congrArg List.length tail.begins
        simp only [length_map, length_cons, length_replicate] at this
        omega
      constructor
      · have later : decide (offset + size = 0) = false := decide_eq_false (by omega)
        rw [map_cons, tail.begins, later, length_cons, Nat.add_sub_cancel, ← one]
        simp [fragmentOf, replicate_succ]
      · rw [map_cons, tail.ends, length_cons, Nat.add_sub_cancel, ← one]
        simp [fragmentOf, last, replicate_succ]
      · intro piece mem
        rcases mem_cons.mp mem with rfl | mem
        · exact ⟨rfl, rfl, rfl⟩
        · exact tail.same piece mem
      · intro piece mem
        rcases mem_cons.mp mem with rfl | mem
        · exact length.le.trans size_le
        · exact tail.short piece mem
      · intro piece mem
        rcases mem_cons.mp mem with rfl | mem
        · exact part
        · exact tail.filled piece mem
      · have := tail.length
        simp only [map_cons, sum_cons, fragmentOf, length]
        omega
      · rw [flatMap_cons, tail.data, ← drop_drop]
        simp only [fragmentOf, data]
        exact take_append_drop size _

/-! ## What a message is sent as -/

/-- The message's DATA chunk fits into a packet. -/
def Fits (cfg : SendConfig) (byteLength : ℕ) : Prop :=
  20 + 12 + padTo4 (byteLength + 16) ≤ cfg.assocPmtu

/-- The data is all there or not at all, the lengths fit their types, and one that has to be cut
needs no padding in full fragments. -/
structure Sendable (cfg : SendConfig) (smsg : SCTPSimpleMessage) : Prop where
  filled : smsg.Filled
  padded : padTo4 (smsg.byteLength + 16) < 2 ^ 31
  bits : 8 * min smsg.byteLength cfg.msgbytes < 2 ^ 32
  cut : Fits cfg smsg.byteLength ∨ 4 ∣ cfg.assocPmtu

/-- The message as it is taken from its queue. -/
def taken (msg : SCTPDataMsg outboundStreams) : SCTPDataMsg outboundStreams :=
  if !msg.fragment then { msg with bBit := true, eBit := true } else msg

/-- All fragments of a message. -/
def allFragments (cfg : SendConfig) (msg : SCTPDataMsg outboundStreams) :
    List (SCTPDataMsg outboundStreams) :=
  fragmentLoop cfg msg (.ofNat (msg.encapsulated.byteLength / cfg.msgbytes))
    msg.encapsulated.byteLength 0 0

/-- What stands in the queue for a message when it is next. -/
def entries (cfg : SendConfig) (msg : SCTPDataMsg outboundStreams) :
    List (SCTPDataMsg outboundStreams) :=
  if needsFragmentation cfg msg then allFragments cfg msg else [msg]

lemma chunkBytes_eq (padded : padTo4 (msg.encapsulated.byteLength + 16) < 2 ^ 31) :
    chunkBytes msg = padTo4 (msg.encapsulated.byteLength + 16) := by
  have small : padTo4 (msg.encapsulated.byteLength + 16) < 2147483648 := padded
  unfold chunkBytes
  rw [int32_eq, UInt32.toNat_ofNat', Nat.mod_eq_of_lt (by omega), if_pos small]

lemma needsFragmentation_iff (padded : padTo4 (msg.encapsulated.byteLength + 16) < 2 ^ 31) :
    needsFragmentation cfg msg = true ↔ ¬ Fits cfg msg.encapsulated.byteLength := by
  unfold needsFragmentation Fits
  rw [chunkBytes_eq padded, decide_eq_true_eq]
  omega

lemma padTo4_mono {a b : ℕ} (le : a ≤ b) : padTo4 a ≤ padTo4 b := by
  unfold padTo4
  omega

lemma padTo4_of_dvd {a : ℕ} (dvd : 4 ∣ a) : padTo4 a = a := by
  unfold padTo4
  omega

lemma le_padTo4 (a : ℕ) : a ≤ padTo4 a := by
  unfold padTo4
  omega

lemma fits_of_short {bytes : ℕ} (dvd : 4 ∣ cfg.assocPmtu) (short : bytes ≤ cfg.msgbytes) :
    Fits cfg bytes := by
  have above := cfg.aboveHeaders
  have room : cfg.msgbytes + 16 = cfg.assocPmtu - 32 := by
    unfold SendConfig.msgbytes
    omega
  have padded : padTo4 (bytes + 16) ≤ padTo4 (cfg.assocPmtu - 32) := padTo4_mono (by omega)
  have aligned : 4 ∣ cfg.assocPmtu - 32 := by omega
  rw [padTo4_of_dvd aligned] at padded
  unfold Fits
  omega

lemma short_of_fits {bytes : ℕ} (fits : Fits cfg bytes) : bytes ≤ cfg.msgbytes := by
  have := le_padTo4 (bytes + 16)
  unfold Fits at fits
  unfold SendConfig.msgbytes
  omega

lemma not_needsFragmentation_of_fits
    (fits : Fits cfg msg.encapsulated.byteLength) : needsFragmentation cfg msg = false := by
  have int := cfg.isInt
  have padded : padTo4 (msg.encapsulated.byteLength + 16) < 2 ^ 31 := by
    unfold Fits at fits
    omega
  cases cut : needsFragmentation cfg msg with
  | false => rfl
  | true => exact absurd fits ((needsFragmentation_iff padded).mp cut)

section

variable {msg : SCTPDataMsg n}

variable (sendable : Sendable cfg msg.encapsulated)
include sendable

lemma pieces_whole (fresh : msg.fragment = false) (whole : needsFragmentation cfg msg = false) :
    Pieces cfg msg 0 ((entries cfg msg).map taken) := by
  have fits : Fits cfg msg.encapsulated.byteLength := by
    by_contra long
    rw [(needsFragmentation_iff sendable.padded).mpr long] at whole
    cases whole
  have short := short_of_fits fits
  have filled := sendable.filled
  rw [entries, whole]
  constructor <;> simp_all [taken, SCTPSimpleMessage.Filled]

lemma needs_of_cut (cut : needsFragmentation cfg msg = true) :
    4 ∣ cfg.assocPmtu ∧ ¬ Fits cfg msg.encapsulated.byteLength := by
  have long := (needsFragmentation_iff sendable.padded).mp cut
  exact ⟨sendable.cut.resolve_left long, long⟩

lemma pieces_cut (cut : needsFragmentation cfg msg = true) :
    Pieces cfg msg 0 (allFragments cfg msg) ∧ 2 ≤ (allFragments cfg msg).length := by
  obtain ⟨dvd, long⟩ := needs_of_cut sendable cut
  have longer : cfg.msgbytes < msg.encapsulated.byteLength := by
    by_contra short
    exact long (fits_of_short dvd (by omega))
  have pieces : Pieces cfg msg 0 (allFragments cfg msg) :=
    fragmentLoop_pieces sendable.filled _ _ _ _ (by omega) (by omega)
  refine ⟨pieces, ?_⟩
  generalize allFragments cfg msg = frags at pieces
  match frags, pieces with
  | [], pieces => simpa using pieces.begins
  | [frag], pieces =>
    have length := pieces.length
    have short := pieces.short frag (by simp)
    simp only [map_cons, map_nil, sum_cons, sum_nil] at length
    omega
  | _ :: _ :: _, _ => simp

/-- The fragments are taken as they are, and each fits into a packet. -/
lemma allFragments_taken (cut : needsFragmentation cfg msg = true) :
    (∀ frag ∈ allFragments cfg msg, frag.fragment = true ∧ needsFragmentation cfg frag = false) ∧
      (allFragments cfg msg).map taken = allFragments cfg msg := by
  have marked : ∀ frag ∈ allFragments cfg msg, frag.fragment = true := by
    unfold allFragments
    generalize (.ofNat (msg.encapsulated.byteLength / cfg.msgbytes) : UInt16) = full
    generalize msg.encapsulated.byteLength = rounds
    generalize (0 : ℕ) = offset
    generalize (0 : UInt16) = pcounter
    induction rounds generalizing offset pcounter with
    | zero => simp [fragmentLoop]
    | succ rounds ih =>
      intro frag mem
      simp only [fragmentLoop] at mem
      split at mem
      · rw [mem_singleton.mp mem]
        rfl
      · rcases mem_cons.mp mem with rfl | mem
        · rfl
        · exact ih _ _ frag mem
  obtain ⟨dvd, -⟩ := needs_of_cut sendable cut
  obtain ⟨pieces, -⟩ := pieces_cut sendable cut
  refine ⟨fun frag mem => ⟨marked frag mem, ?_⟩, ?_⟩
  · exact not_needsFragmentation_of_fits (fits_of_short dvd (pieces.short frag mem))
  · have same : ∀ frag ∈ allFragments cfg msg, taken frag = id frag := by
      intro frag mem
      simp [taken, marked frag mem]
    rw [map_congr_left same, map_id]

/-- What a message is sent as is its pieces. -/
lemma pieces_entries (fresh : msg.fragment = false) :
    Pieces cfg msg 0 ((entries cfg msg).map taken) ∧
      ∀ piece ∈ (entries cfg msg).map taken, Fits cfg piece.encapsulated.byteLength := by
  cases cut : needsFragmentation cfg msg with
  | false =>
    refine ⟨pieces_whole sendable fresh cut, fun piece mem => ?_⟩
    rw [entries, cut] at mem
    have eq : piece = taken msg := by simpa using mem
    have fits : Fits cfg msg.encapsulated.byteLength := by
      by_contra long
      rw [(needsFragmentation_iff sendable.padded).mpr long] at cut
      cases cut
    rw [eq, taken, fresh]
    exact fits
  | true =>
    obtain ⟨pieces, -⟩ := pieces_cut sendable cut
    obtain ⟨-, same⟩ := allFragments_taken sendable cut
    rw [entries, if_pos cut, same]
    exact ⟨pieces, fun piece mem =>
      fits_of_short (needs_of_cut sendable cut).1 (pieces.short piece mem)⟩

end

/-! ## The chunks of a message -/

/-- The first chunk has the B bit and the last the E bit, each fits into a packet, all have one SSN,
and together the message's bytes. -/
structure Carries (cfg : SendConfig) (msg : SCTPDataMsg outboundStreams)
    (chunks : List (SCTPOutboundVariables outboundStreams)) : Prop where
  begins : chunks.map (·.bbit) = true :: List.replicate (chunks.length - 1) false
  ends : chunks.map (·.ebit) = List.replicate (chunks.length - 1) false ++ [true]
  fits : ∀ chunk ∈ chunks, 20 + 12 + padTo4 (chunk.len.toNat / 8 + 16) ≤ cfg.assocPmtu
  same : ∀ chunk ∈ chunks,
    chunk.sid = msg.sid ∧ chunk.ordered = msg.ordered ∧ chunk.ppid = msg.ppid
  ssn : ∃ ssn, ∀ chunk ∈ chunks, chunk.ssn = ssn
  length : (chunks.map fun chunk => chunk.len.toNat).sum = 8 * msg.encapsulated.byteLength
  filled : ∀ chunk ∈ chunks, chunk.userData.data = [] ∨
    8 * chunk.userData.data.length = chunk.len.toNat
  data : chunks.flatMap (·.userData.data) = msg.encapsulated.data

/-- The stream sequence numbers after a message was taken. -/
def ssnsAfter (ssns : Fin outboundStreams → UInt16) (msg : SCTPDataMsg outboundStreams) :
    Fin outboundStreams → UInt16 :=
  if msg.ordered && msg.eBit then Function.update ssns msg.sid (nextSsn (ssns msg.sid)) else ssns

/-- The chunks of the messages that are taken one after the other, from some stream sequence numbers
and TSN to others. -/
inductive Chunked : (Fin outboundStreams → UInt16) → UInt32 →
    List (SCTPDataMsg outboundStreams) → List (SCTPOutboundVariables outboundStreams) →
    (Fin outboundStreams → UInt16) → UInt32 → Prop where
  | nil {ssns : Fin outboundStreams → UInt16} {tsn : UInt32} : Chunked ssns tsn [] [] ssns tsn
  | cons {ssns ssns' : Fin outboundStreams → UInt16} {tsn tsn' : UInt32}
      {msg : SCTPDataMsg outboundStreams} {msgs : List (SCTPDataMsg outboundStreams)}
      {chunks : List (SCTPOutboundVariables outboundStreams)} (path : ℕ)
      (rest : Chunked (ssnsAfter ssns msg) (tsn + 1) msgs chunks ssns' tsn') :
      Chunked ssns tsn (msg :: msgs) (chunkOf msg path (ssns msg.sid) tsn :: chunks) ssns' tsn'

namespace Chunked

variable {ssns ssns' ssns'' : Fin n → UInt16} {tsn tsn' tsn'' : UInt32}
variable {msgs more : List (SCTPDataMsg n)}
variable {chunks moreChunks : List (SCTPOutboundVariables n)}

lemma append (first : Chunked ssns tsn msgs chunks ssns' tsn')
    (second : Chunked ssns' tsn' more moreChunks ssns'' tsn'') :
    Chunked ssns tsn (msgs ++ more) (chunks ++ moreChunks) ssns'' tsn'' := by
  induction first with
  | nil => exact second
  | cons path _ ih => exact .cons path (ih second)

lemma split (all : Chunked ssns tsn (msgs ++ more) chunks ssns'' tsn'') :
    ∃ here later ssns' tsn', chunks = here ++ later ∧ Chunked ssns tsn msgs here ssns' tsn' ∧
      Chunked ssns' tsn' more later ssns'' tsn'' := by
  induction msgs generalizing ssns tsn chunks with
  | nil => exact ⟨[], chunks, ssns, tsn, rfl, .nil, all⟩
  | cons msg msgs ih =>
    cases all with
    | cons path rest =>
      obtain ⟨here, later, ssns', tsn', rfl, first, second⟩ := ih rest
      exact ⟨_ :: here, later, ssns', tsn', rfl, .cons path first, second⟩

lemma exists_chunks (ssns : Fin n → UInt16) (tsn : UInt32) (msgs : List (SCTPDataMsg n)) :
    ∃ chunks ssns' tsn', Chunked ssns tsn msgs chunks ssns' tsn' := by
  induction msgs generalizing ssns tsn with
  | nil => exact ⟨[], ssns, tsn, .nil⟩
  | cons msg msgs ih =>
    obtain ⟨chunks, ssns', tsn', rest⟩ := ih (ssnsAfter ssns msg) (tsn + 1)
    exact ⟨_, ssns', tsn', .cons 0 rest⟩

variable (all : Chunked ssns tsn msgs chunks ssns' tsn')
include all

lemma length_eq : chunks.length = msgs.length := by
  induction all with
  | nil => rfl
  | cons _ _ ih => simp [ih]

lemma made :
    List.Forall₂ (fun msg chunk => ∃ path ssn tsn, chunk = chunkOf msg path ssn tsn) msgs chunks := by
  induction all with
  | nil => exact .nil
  | cons path _ ih => exact .cons ⟨path, _, _, rfl⟩ ih

lemma tsn_eq (i : ℕ) (lt : i < chunks.length) : chunks[i].tsn = tsn + .ofNat i := by
  induction all generalizing i with
  | nil => cases lt
  | @cons _ _ tsn _ msg _ chunks path _ ih =>
    cases i with
    | zero => simp [chunkOf]
    | succ i =>
      have next := ih i (by simpa using lt)
      rw [getElem_cons_succ, next, UInt32.add_assoc]
      rw [Nat.add_comm]
      simp

lemma ssn_eq {sid : Fin n} {ordered : Bool}
    (same : ∀ msg ∈ msgs, msg.sid = sid ∧ msg.ordered = ordered)
    (ends : msgs.map (·.eBit) = List.replicate (msgs.length - 1) false ++ [true]) :
    ∀ chunk ∈ chunks, chunk.ssn = if ordered then ssns sid else 0 := by
  induction all with
  | nil => simp
  | @cons ssns _ _ _ msg msgs chunks path rest ih =>
    intro chunk mem
    obtain ⟨rfl, rfl⟩ := same msg (by simp)
    rcases mem_cons.mp mem with rfl | mem
    · rfl
    · cases msgs with
      | nil => cases rest; cases mem
      | cons msg' msgs =>
        simp only [map_cons, length_cons, Nat.add_sub_cancel, replicate_succ,
          cons_append, List.cons.injEq] at ends
        have going : ssnsAfter ssns msg = ssns := by simp [ssnsAfter, ends.1]
        rw [ih (fun m mem => same m (mem_cons_of_mem _ mem)) (by simpa using ends.2)
          chunk mem, going]

end Chunked

lemma map_eq_map_of_forall₂ {α β γ : Type*} {R : α → β → Prop} {f : α → γ} {g : β → γ}
    {as : List α} {bs : List β} (related : List.Forall₂ R as bs)
    (eq : ∀ a b, a ∈ as → R a b → g b = f a) : bs.map g = as.map f := by
  induction related with
  | nil => rfl
  | @cons a b as bs here _ ih =>
    rw [map_cons, map_cons, eq a b (by simp) here,
      ih fun a' b' mem => eq a' b' (mem_cons_of_mem _ mem)]

lemma Chunked.carries {pieces : List (SCTPDataMsg n)} {chunks : List (SCTPOutboundVariables n)}
    {ssns ssns' : Fin n → UInt16} {tsn tsn' : UInt32}
    (all : Chunked ssns tsn pieces chunks ssns' tsn') (whole : Pieces cfg msg 0 pieces)
    (fits : ∀ piece ∈ pieces, Fits cfg piece.encapsulated.byteLength)
    (bits : 8 * min msg.encapsulated.byteLength cfg.msgbytes < 2 ^ 32) :
    Carries cfg msg chunks := by
  have made := all.made
  have len_eq : ∀ piece chunk, piece ∈ pieces →
      (∃ path ssn tsn, chunk = chunkOf piece path ssn tsn) →
      chunk.len.toNat = 8 * piece.encapsulated.byteLength := by
    intro piece chunk mem here
    obtain ⟨path, ssn, tsn, rfl⟩ := here
    have short := whole.short piece mem
    have part : piece.encapsulated.byteLength ≤
        (pieces.map (·.encapsulated.byteLength)).sum :=
      le_sum_of_mem (mem_map_of_mem mem)
    have total := whole.length
    have small : 8 * piece.encapsulated.byteLength < 4294967296 := by omega
    exact Nat.mod_eq_of_lt small
  have origin : ∀ chunk ∈ chunks, ∃ piece ∈ pieces,
      ∃ path ssn tsn, chunk = chunkOf piece path ssn tsn := by
    intro chunk mem
    obtain ⟨i, lt, rfl⟩ := getElem_of_mem mem
    have ltp : i < pieces.length := all.length_eq ▸ lt
    exact ⟨pieces[i], getElem_mem ltp, List.Forall₂.get made ltp lt⟩
  constructor
  · rw [map_eq_map_of_forall₂ made fun piece chunk _ here => by
      obtain ⟨path, ssn, tsn, rfl⟩ := here; rfl, whole.begins, all.length_eq]
    rfl
  · rw [map_eq_map_of_forall₂ made fun piece chunk _ here => by
      obtain ⟨path, ssn, tsn, rfl⟩ := here; rfl, whole.ends, all.length_eq]
  · intro chunk mem
    obtain ⟨piece, from', here⟩ := origin chunk mem
    have fit := fits piece from'
    rw [len_eq piece chunk from' here, Nat.mul_div_cancel_left _ (by omega)]
    exact fit
  · intro chunk mem
    obtain ⟨piece, from', path, ssn, tsn, rfl⟩ := origin chunk mem
    exact whole.same piece from'
  · have same : ∀ piece ∈ pieces, piece.sid = msg.sid ∧ piece.ordered = msg.ordered :=
      fun piece mem => ⟨(whole.same piece mem).1, (whole.same piece mem).2.1⟩
    exact ⟨_, all.ssn_eq same whole.ends⟩
  · rw [map_eq_map_of_forall₂ (f := fun piece => 8 * piece.encapsulated.byteLength) made
      fun piece chunk mem here => len_eq piece chunk mem here, sum_map_mul_left]
    have total := whole.length
    omega
  · intro chunk mem
    obtain ⟨piece, from', here⟩ := origin chunk mem
    rw [len_eq piece chunk from' here]
    obtain ⟨path, ssn, tsn, rfl⟩ := here
    rcases whole.filled piece from' with none | all
    · exact Or.inl none
    · exact Or.inr (congrArg (8 * ·) all)
  · have datas : chunks.map (·.userData.data) = pieces.map (·.encapsulated.data) :=
      map_eq_map_of_forall₂ made fun piece chunk _ here => by
        obtain ⟨path, ssn, tsn, rfl⟩ := here; rfl
    rw [flatMap_def, datas, ← flatMap_def, whole.data, drop_zero]

end Inet.Sctp
