import DungeonCrawler.Lib.StreamDecoder

/-!
A connection that carries the elements of buffers from one end to the other.

The sending end has writes outstanding, each of which puts what is left of its buffer on the
stream piece by piece. The receiving end takes in a piece at a time and decodes what it has.
The stream is in the order of the buffers as long as no two writes are outstanding, and what
was received is then, however the pieces were cut, the beginning of what the buffers hold.
-/

namespace ByteStream

open StreamDecoder

variable {α β : Type*}

/-! ### The sending end -/

/-- The stream so far, and what is left of each buffer whose write is outstanding. -/
structure Sender (α : Type*) where
  stream : List α
  remaining : List (List α)
  deriving DecidableEq

namespace Sender

/-- A write is started. -/
def start (s : Sender α) (buffer : List α) : Sender α :=
  { s with remaining := s.remaining ++ [buffer] }

/-- One of the writes makes progress by some elements. -/
def transfer (s : Sender α) (i n : ℕ) : Sender α :=
  match s.remaining[i]? with
  | none => s
  | some left => ⟨s.stream ++ left.take n, s.remaining.set i (left.drop n)⟩

/-- A write ends, with its buffer on the stream or without. -/
def finish (s : Sender α) (i : ℕ) : Sender α :=
  { s with remaining := s.remaining.eraseIdx i }

/-- The stream and what is left make up the buffers in their order. -/
def InOrder (s : Sender α) (buffers : List (List α)) : Prop :=
  s.stream ++ s.remaining.flatten = buffers.flatten

variable {s : Sender α} {buffers : List (List α)}

@[simp] lemma finish_stream (i : ℕ) : (s.finish i).stream = s.stream := rfl

@[simp] lemma start_stream (buffer : List α) : (s.start buffer).stream = s.stream := rfl

lemma InOrder.start (h : s.InOrder buffers) (buffer : List α) :
    (s.start buffer).InOrder (buffers ++ [buffer]) := by
  show s.stream ++ (s.remaining ++ [buffer]).flatten = (buffers ++ [buffer]).flatten
  rw [List.flatten_append, ← List.append_assoc, h, List.flatten_append]

lemma foldl_start (s : Sender α) (new : List (List α)) :
    new.foldl start s = ⟨s.stream, s.remaining ++ new⟩ := by
  induction new generalizing s with
  | nil => simp
  | cons buffer new ih =>
    rw [List.foldl_cons, ih]
    simp [start]

lemma InOrder.startAll (h : s.InOrder buffers) (new : List (List α)) :
    (new.foldl Sender.start s).InOrder (buffers ++ new) := by
  induction new generalizing s buffers with
  | nil => simpa using h
  | cons buffer new ih =>
    rw [List.foldl_cons, List.append_cons]
    exact ih (h.start buffer)

lemma length_transfer (s : Sender α) (i n : ℕ) :
    (s.transfer i n).remaining.length = s.remaining.length := by
  unfold transfer
  split
  · rfl
  · exact List.length_set

/-- The stream only grows. -/
lemma stream_transfer (s : Sender α) (i n : ℕ) : s.stream <+: (s.transfer i n).stream := by
  unfold transfer
  split
  · exact List.prefix_rfl
  · exact List.prefix_append _ _

/-- A write alone makes progress where the stream ends. -/
lemma InOrder.transfer (h : s.InOrder buffers) (hone : s.remaining.length ≤ 1) (i n : ℕ) :
    (s.transfer i n).InOrder buffers := by
  unfold Sender.transfer
  split
  · exact h
  · rename_i left hleft
    obtain ⟨hi, -⟩ := List.getElem?_eq_some_iff.mp hleft
    obtain ⟨only, honly⟩ := List.length_eq_one_iff.mp (show s.remaining.length = 1 by omega)
    obtain rfl : i = 0 := by omega
    rw [honly] at hleft
    obtain rfl : only = left := by simpa using hleft
    unfold InOrder at h ⊢
    rw [honly] at h ⊢
    simpa using h

/-- A write that ends with nothing left takes nothing away. -/
lemma InOrder.finish (h : s.InOrder buffers) {i : ℕ} (hi : s.remaining[i]? = some []) :
    (s.finish i).InOrder buffers := by
  have hflat : (s.remaining.eraseIdx i).flatten = s.remaining.flatten := by
    obtain ⟨hlt, hget⟩ := List.getElem?_eq_some_iff.mp hi
    have hsplit := List.take_append_drop i s.remaining
    rw [List.drop_eq_getElem_cons hlt, hget] at hsplit
    rw [List.eraseIdx_eq_take_drop_succ, List.flatten_append]
    conv_rhs => rw [← hsplit]
    rw [List.flatten_append, List.flatten_cons, List.nil_append]
  show s.stream ++ (s.remaining.eraseIdx i).flatten = buffers.flatten
  rw [hflat]
  exact h

lemma InOrder.stream_le (h : s.InOrder buffers) : s.stream <+: buffers.flatten := ⟨_, h⟩

end Sender

/-! ### The receiving end -/

/-- How many elements of the stream have come in, those not decoded yet, and what was
decoded. -/
structure Receiver (α β : Type*) where
  carried : ℕ
  buffer : List α
  received : List β
  deriving DecidableEq

namespace Receiver

variable (S : Scanner α β) {stream more : List α} {r : Receiver α β}

/-- The state of a receiver that has taken in the beginning of the stream. -/
structure InStep (stream : List α) (r : Receiver α β) : Prop where
  within : r.carried ≤ stream.length
  decoded : decode S (stream.take r.carried) = (r.received, r.buffer)

variable {S}

lemma InStep.start (stream : List α) : InStep S stream ⟨0, [], []⟩ :=
  ⟨Nat.zero_le _, decode_nil⟩

/-- A stream that goes on has the same beginning. -/
lemma InStep.append (h : InStep S stream r) (more : List α) : InStep S (stream ++ more) r := by
  refine ⟨h.within.trans (by simp), ?_⟩
  rw [List.take_append_of_le_length h.within]
  exact h.decoded

/-- A piece comes in and is decoded after what was left. -/
lemma InStep.arrive (h : InStep S stream r) (n : ℕ) :
    let piece := (stream.drop r.carried).take n
    let result := decode S (r.buffer ++ piece)
    InStep S stream ⟨r.carried + piece.length, result.2, r.received ++ result.1⟩ := by
  have hlen : ((stream.drop r.carried).take n).length ≤ stream.length - r.carried := by simp
  have htake : stream.take (r.carried + ((stream.drop r.carried).take n).length) =
      stream.take r.carried ++ (stream.drop r.carried).take n := by
    rw [List.take_add, List.length_take, List.length_drop]
    congr 1
    rw [List.take_eq_take_iff, List.length_drop]
    omega
  refine ⟨?_, ?_⟩
  · have := h.within
    show r.carried + _ ≤ _
    omega
  · show decode S (stream.take (r.carried + _)) = _
    rw [htake, decode_append, h.decoded]

/-- **What is still to come.** What was received, and what the buffer and the rest of the stream
decode to, is what the stream decodes to. -/
theorem InStep.decode_eq (h : InStep S stream r) :
    decode S stream = (r.received ++ (decode S (r.buffer ++ stream.drop r.carried)).1,
      (decode S (r.buffer ++ stream.drop r.carried)).2) := by
  conv_lhs => rw [← List.take_append_drop r.carried stream]
  rw [decode_append, h.decoded]

end Receiver

end ByteStream
