import DungeonCrawler.Common.FrameCodecZc
import DungeonCrawler.Common.FrameStream

/-!
A callback of the zero-copy codec that throws loses no frame and gets none twice.

The exception leaves the buffer at the magic of the frame it was thrown on. The next call
begins there, so the frames on which some call's callback returned are, in order, the first
frames of the whole stream.
-/

namespace DungeonCrawler

namespace FrameCodecZc

open StreamDecoder BigEndian

variable {σ ε : Type}

/-- The frame that the scanner finds is at the front of the bytes, header and all. -/
lemma frame_at_front {xs p : ByteBuffer} {n : ℕ} (h : scanner.look xs = .emit p n) :
    p.length ≤ kMaxMessageSize ∧
      ∃ rest, xs = bytes32 kMagic ++ (bytes32 (UInt32.ofNat p.length) ++ (p ++ rest)) := by
  have hlook : FrameCodec.scanner.look xs = .emit p n :=
    (look_agrees xs (by simp [h])).trans h
  obtain ⟨hp, hx⟩ := FrameCodec.eq_of_look_emit hlook
  rw [FrameCodec.encodeFrame_append hp] at hx
  exact ⟨hp, _, hx⟩

/-- What the exception of a callback leaves behind: the frames before were dispatched and are
gone, and the buffer begins with the frame on which the callback threw. -/
structure Interrupted (onFrame : FrameHandler σ ε) (buffer : ByteBuffer) (state : σ) (e : ε)
    (fs : List PayloadView) (p : PayloadView) : Prop where
  calls : (decode onFrame buffer state).calls = fs ++ [p]
  /-- on the frames before, the callback returned; on this one it threw -/
  returned : (replay onFrame fs state).1 = fs
  threw : onFrame p (replay onFrame fs state).2 = (.error e, (decode onFrame buffer state).state)
  frame : ∃ rest, (decode onFrame buffer state).buffer =
    bytes32 kMagic ++ (bytes32 (UInt32.ofNat p.length) ++ (p ++ rest))
  suffix : (decode onFrame buffer state).buffer <:+ buffer
  /-- the frames before are all that was taken away -/
  frames : (StreamDecoder.decode scanner buffer).1 =
    fs ++ (StreamDecoder.decode scanner (decode onFrame buffer state).buffer).1

lemma interrupted_of_error (onFrame : FrameHandler σ ε) {buffer : ByteBuffer} {state : σ} {e : ε}
    (hr : (decode onFrame buffer state).result = .error e) :
    ∃ fs p, Interrupted onFrame buffer state e fs p := by
  have ho := decode_outcome onFrame buffer state
  rw [hr] at ho
  obtain ⟨fs, p, n, s₁, hc, hread, hp, hl, ht⟩ := ho.of_error
  refine ⟨fs, p, hc, ?_, ?_, (frame_at_front hl).2, hread.suffix, ?_⟩
  · rw [hp]
  · rw [hp]
    exact ht
  · rw [hread.decode_eq]

/-! ### Calls one after the other -/

/-- A call of the decoder after bytes were appended to the buffer, with any callback. -/
structure Call (σ ε : Type) where
  chunk : ByteBuffer
  onFrame : FrameHandler σ ε
  state : σ

def Call.decoded (c : Call σ ε) (buffer : ByteBuffer) : Decoded σ ε :=
  decode c.onFrame (buffer ++ c.chunk) c.state

/-- The frames on which the callback of the call returned. -/
def Call.completed (c : Call σ ε) (buffer : ByteBuffer) : List PayloadView :=
  (replay c.onFrame (c.decoded buffer).calls c.state).1

/-- The frames completed by calls that follow each other, and the buffer after the last. -/
def runCalls : ByteBuffer → List (Call σ ε) → List PayloadView × ByteBuffer
  | buffer, [] => ([], buffer)
  | buffer, c :: cs =>
    (c.completed buffer ++ (runCalls (c.decoded buffer).buffer cs).1,
      (runCalls (c.decoded buffer).buffer cs).2)

/-- All that was appended for the calls. -/
def stream (cs : List (Call σ ε)) : ByteBuffer := (cs.map Call.chunk).flatten

lemma replay_append (onFrame : FrameHandler σ ε) (ps qs : List PayloadView) (s : σ) :
    replay onFrame (ps ++ qs) s =
      ((replay onFrame ps s).1 ++ (replay onFrame qs (replay onFrame ps s).2).1,
        (replay onFrame qs (replay onFrame ps s).2).2) := by
  induction ps generalizing s with
  | nil => rfl
  | cons p ps ih =>
    rw [List.cons_append, replay, replay]
    rcases h : onFrame p s with ⟨⟨e⟩ | ⟨⟨⟩⟩, s'⟩
    · exact ih s'
    · simp only [ih, List.cons_append]

lemma replay_error {onFrame : FrameHandler σ ε} {p : PayloadView} {s s' : σ} {e : ε}
    (h : onFrame p s = (.error e, s')) : replay onFrame [p] s = ([], s') := by
  rw [replay, h]
  rfl

/-- Whichever way a call ends, it completes the frames that it takes out of the buffer. -/
lemma Outcome.reads {onFrame : FrameHandler σ ε} {xs ys : ByteBuffer} {s s' : σ}
    {r : Except ε ℕ} {cs : List PayloadView} (h : Outcome onFrame xs s r cs ys s') :
    Reads scanner xs (replay onFrame cs s).1 ys := by
  cases h with
  | returned hr hp _ => rwa [hp]
  | threw hr hp _ ht =>
    rw [replay_append, hp, replay_error ht, List.append_nil]
    exact hr

lemma Call.reads (c : Call σ ε) (buffer : ByteBuffer) :
    Reads scanner (buffer ++ c.chunk) (c.completed buffer) (c.decoded buffer).buffer :=
  (decode_outcome c.onFrame (buffer ++ c.chunk) c.state).reads

/-- **The run.** Calls complete the frames on the way through the stream, up to where they
leave the buffer. -/
lemma runCalls_reads (buffer : ByteBuffer) (cs : List (Call σ ε)) :
    Reads scanner (buffer ++ stream cs) (runCalls buffer cs).1 (runCalls buffer cs).2 := by
  induction cs generalizing buffer with
  | nil =>
    rw [stream, List.map_nil, List.flatten_nil, List.append_nil]
    exact .here buffer
  | cons c cs ih =>
    rw [stream, List.map_cons, List.flatten_cons, ← List.append_assoc]
    exact ((c.reads buffer).append (stream cs)).trans (ih _)

lemma runCalls_append (buffer : ByteBuffer) (cs ds : List (Call σ ε)) :
    (runCalls buffer (cs ++ ds)).2 = (runCalls (runCalls buffer cs).2 ds).2 := by
  induction cs generalizing buffer with
  | nil => rfl
  | cons c cs ih => exact ih _

/-- After a call that returns, nothing is left to find. -/
lemma look_of_returns {buffer : ByteBuffer} {c : Call σ ε} {n : ℕ}
    (h : (c.decoded buffer).result = .ok n) :
    scanner.look (c.decoded buffer).buffer = .wait := by
  have ho := decode_outcome c.onFrame (buffer ++ c.chunk) c.state
  change (decode c.onFrame (buffer ++ c.chunk) c.state).result = .ok n at h
  rw [h] at ho
  exact ho.of_ok.2.2

end FrameCodecZc

open FrameCodecZc

/-- **Exceptions lose no frame.** A call whose callback throws ends at the frame thrown on,
and one that returns had no callback throw. Over any calls, with any bytes appended in
between, the frames completed are the first that one call with a callback that does not throw
finds in the whole stream, and all of them if the last call returns. -/
theorem exceptions_lose_no_frame {σ ε σ' ε' : Type} {quiet : FrameHandler σ' ε'}
    (hok : ∀ p s, (quiet p s).1 = .ok ()) (s₀ : σ') :
    (∀ (onFrame : FrameHandler σ ε) (buffer : ByteBuffer) (state : σ) (e : ε),
      (decode onFrame buffer state).result = .error e →
      ∃ fs p, Interrupted onFrame buffer state e fs p) ∧
    (∀ (onFrame : FrameHandler σ ε) (buffer : ByteBuffer) (state : σ) (n : ℕ),
      (decode onFrame buffer state).result = .ok n →
      (replay onFrame (decode onFrame buffer state).calls state).1 =
        (decode onFrame buffer state).calls) ∧
    (∀ (buffer : ByteBuffer) (cs : List (Call σ ε)),
      (runCalls buffer cs).1 <+: (decode quiet (buffer ++ stream cs) s₀).calls) ∧
    ∀ (buffer : ByteBuffer) (cs : List (Call σ ε)) (c : Call σ ε) (n : ℕ),
      (c.decoded (runCalls buffer cs).2).result = .ok n →
      (runCalls buffer (cs ++ [c])).1 =
        (decode quiet (buffer ++ stream (cs ++ [c])) s₀).calls := by
  have all : ∀ xs, (decode quiet xs s₀).calls = (StreamDecoder.decode scanner xs).1 := by
    intro xs
    obtain ⟨n, hn⟩ := decode_ok hok xs s₀
    exact (decode_eq_decode hn).1
  refine ⟨fun onFrame _ _ _ => interrupted_of_error onFrame, fun onFrame buffer state n hr => ?_,
    fun buffer cs => ?_, fun buffer cs c n hr => ?_⟩
  · have ho := decode_outcome onFrame buffer state
    rw [hr] at ho
    rw [ho.of_ok.2.1]
  · rw [all]
    exact (runCalls_reads buffer cs).prefix_decode
  · have hwait : StreamDecoder.Scanner.look scanner (runCalls buffer (cs ++ [c])).2 = .wait := by
      rw [runCalls_append]
      exact look_of_returns hr
    rw [all, (runCalls_reads buffer (cs ++ [c])).decode_of_wait hwait]

/-- A callback that throws when it is called for the first time, and a second call of the
decoder that goes on from there. -/
theorem exceptions_lose_no_frame_retry :
    (runCalls (σ := ℕ) (ε := Unit) []
      [⟨FrameCodec.encodeFrame [1] ++ FrameCodec.encodeFrame [2],
        fun _ n => if n = 0 then (.error (), 1) else (.ok (), n + 1), 0⟩,
       ⟨[], fun _ n => (.ok (), n), 1⟩]).1 <+:
    (decode (σ := Unit) (ε := Empty) (fun _ s => (.ok (), s))
      ([] ++ stream (σ := ℕ) (ε := Unit)
        [⟨FrameCodec.encodeFrame [1] ++ FrameCodec.encodeFrame [2],
          fun _ n => if n = 0 then (.error (), 1) else (.ok (), n + 1), 0⟩,
         ⟨[], fun _ n => (.ok (), n), 1⟩]) ()).calls :=
  (exceptions_lose_no_frame (fun _ _ => rfl) ()).2.2.1 _ _

end DungeonCrawler
