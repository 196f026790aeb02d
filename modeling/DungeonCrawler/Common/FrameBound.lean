import DungeonCrawler.Common.FrameCodecZc

/-!
What a call of either codec leaves in the receive buffer: less than one frame of the largest
size, in which the next call finds nothing.

A scanner waits only in front of a header that is not there yet or whose length it has
already believed, so the bytes it waits on are fewer than a header and the largest payload.
-/

namespace DungeonCrawler

open StreamDecoder

namespace FrameCodec

/-- The codec waits only for the rest of one frame. -/
lemma length_of_wait {xs : ByteBuffer} (h : scanner.look xs = .wait) :
    xs.length < 8 + kMaxMessageSize := by
  have h : look xs = .wait := h
  unfold look at h
  split_ifs at h <;> omega

/-- What a call may leave of a buffer: an end of it, less than a frame, where another call
finds and consumes nothing. -/
structure Drained (buffer rest : ByteBuffer) : Prop where
  suffix : rest <:+ buffer
  short : rest.length < 8 + kMaxMessageSize
  again : extractFrames rest = ([], rest)

lemma drained_extractFrames (buffer : ByteBuffer) :
    Drained buffer (extractFrames buffer).2 := by
  rw [extractFrames_eq_decode]
  refine ⟨residue_suffix buffer, length_of_wait (look_residue buffer), ?_⟩
  rw [extractFrames_eq_decode]
  exact decode_residue buffer

/-- No chunks make the buffer between two calls longer than that. -/
lemma receive_short (chunks : List ByteBuffer) :
    (receive [] chunks).2.length < 8 + kMaxMessageSize := by
  rw [receive_eq_feed]
  exact length_of_wait (look_feed look_nil chunks)

end FrameCodec

namespace FrameCodecZc

variable {σ ε : Type} {onFrame : FrameHandler σ ε}

/-- This codec waits for whole headers and for what the copying one waits for. -/
lemma length_of_wait {xs : ByteBuffer} (h : scanner.look xs = .wait) :
    xs.length < 8 + kMaxMessageSize := by
  by_cases h8 : xs.length < 8
  · omega
  · refine FrameCodec.length_of_wait ?_
    rw [← h]
    exact (if_neg h8).symm

/-- Where the scanner waits, a call does nothing, whatever the callback. -/
lemma decode_of_look_wait (onFrame : FrameHandler σ ε) {buffer : ByteBuffer}
    (h : scanner.look buffer = .wait) (state : σ) :
    decode onFrame buffer state = ⟨.ok 0, buffer, [], state⟩ := by
  unfold decode
  split_ifs with h8
  · rfl
  · have h8 : 0 + 8 ≤ buffer.length := by
      simp only [kHeaderLength, kMagicLength, kSizeLength] at h8; omega
    have hl := look_drop h8
    rw [List.drop_zero, h] at hl
    -- the scanner waits only for the rest of a payload
    split_ifs at hl with hm hv ht
    have hs : scan onFrame buffer 0 0 [] state = ⟨.ok 0, 0, [], state⟩ := by
      rw [scan, if_pos (show 0 + kHeaderLength ≤ buffer.length from h8), if_neg hm]
      refine (if_neg hv).trans (if_pos ?_)
      simp only [kHeaderLength, kMagicLength, kSizeLength]
      omega
    rw [hs]
    rfl

/-- What a call that does not throw may leave of a buffer: an end of it, less than a frame,
where another call, with any callback, dispatches and consumes nothing. -/
structure Drained (buffer rest : ByteBuffer) : Prop where
  suffix : rest <:+ buffer
  short : rest.length < 8 + kMaxMessageSize
  again : ∀ {σ ε : Type} (onFrame : FrameHandler σ ε) (state : σ),
    decode onFrame rest state = ⟨.ok 0, rest, [], state⟩

lemma drained_decode {buffer : ByteBuffer} {state : σ} {n : ℕ}
    (hr : (decode onFrame buffer state).result = .ok n) :
    Drained buffer (decode onFrame buffer state).buffer := by
  rw [(decode_eq_decode hr).2]
  have hw := look_residue (S := scanner) buffer
  exact ⟨residue_suffix buffer, length_of_wait hw,
    fun onFrame state => decode_of_look_wait onFrame hw state⟩

/-- The buffers, and the states of the callback, that chunks can lead to while no call
throws. -/
inductive Receives (onFrame : FrameHandler σ ε) : ByteBuffer → σ → Prop
  | start (state : σ) : Receives onFrame [] state
  | chunk {buffer : ByteBuffer} {state : σ} (bytes : ByteBuffer) {n : ℕ} :
    Receives onFrame buffer state →
    (decode onFrame (buffer ++ bytes) state).result = .ok n →
    Receives onFrame (decode onFrame (buffer ++ bytes) state).buffer
      (decode onFrame (buffer ++ bytes) state).state

lemma Receives.short {buffer : ByteBuffer} {state : σ} (h : Receives onFrame buffer state) :
    buffer.length < 8 + kMaxMessageSize := by
  cases h with
  | start => simp [kMaxMessageSize]
  | chunk bytes _ hr => exact (drained_decode hr).short

end FrameCodecZc

/-- **The receive buffer is bounded.** Whatever is in the buffer, a call of the copying codec,
and a call of the zero-copy one that does not throw, leaves an end of it shorter than the
largest frame in which a second call finds and consumes nothing. So over any chunks, with
the next one already appended, the buffer stays below that bound and one chunk. -/
theorem receive_buffer_bounded :
    (∀ buffer, FrameCodec.Drained buffer (FrameCodec.extractFrames buffer).2) ∧
    (∀ chunks chunk, ((FrameCodec.receive [] chunks).2 ++ chunk).length <
      8 + FrameCodec.kMaxMessageSize + chunk.length) ∧
    ∀ (σ ε : Type) (onFrame : FrameCodecZc.FrameHandler σ ε) (buffer : ByteBuffer) (state : σ),
      (∀ n, (FrameCodecZc.decode onFrame buffer state).result = .ok n →
        FrameCodecZc.Drained buffer (FrameCodecZc.decode onFrame buffer state).buffer) ∧
      (FrameCodecZc.Receives onFrame buffer state → ∀ chunk : ByteBuffer,
        (buffer ++ chunk).length < 8 + FrameCodecZc.kMaxMessageSize + chunk.length) := by
  refine ⟨FrameCodec.drained_extractFrames, fun chunks chunk => ?_,
    fun σ ε onFrame buffer state => ⟨fun n => FrameCodecZc.drained_decode, fun h chunk => ?_⟩⟩
  · have := FrameCodec.receive_short chunks
    rw [List.length_append]
    omega
  · have := h.short
    rw [List.length_append]
    omega

/-- The first half of a header, then another byte. -/
theorem receive_buffer_bounded_half :
    FrameCodecZc.Drained [0xDE, 0xAD, 0xBE, 0xEF] [0xDE, 0xAD, 0xBE, 0xEF] ∧
      ([0xDE, 0xAD, 0xBE, 0xEF] ++ [0] : ByteBuffer).length <
        8 + FrameCodecZc.kMaxMessageSize + 1 :=
  have h := receive_buffer_bounded.2.2 ℕ Empty (fun _ n => (.ok (), n + 1))
    [0xDE, 0xAD, 0xBE, 0xEF] 0
  ⟨h.1 0 rfl, h.2 (.chunk [0xDE, 0xAD, 0xBE, 0xEF] (.start 0) rfl) [0]⟩

end DungeonCrawler
