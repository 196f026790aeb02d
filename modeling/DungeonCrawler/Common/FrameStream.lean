import DungeonCrawler.Common.FrameCodec
import DungeonCrawler.Lib.ByteStream

/-!
What the receiver gets out of a stream of frames: the same however the stream was cut, and
all payloads sent even with junk between the frames, provided no magic in the junk is
followed by a length that the codec would believe.
-/

namespace DungeonCrawler

namespace FrameCodec

open StreamDecoder BigEndian

lemma receive_eq_extractFrames (chunks : List ByteBuffer) :
    (receive [] chunks).1.flatten = (extractFrames chunks.flatten).1 ∧
      (receive [] chunks).2 = (extractFrames chunks.flatten).2 := by
  rw [receive_eq_feed, extractFrames_eq_decode]
  exact feed_eq_decode (S := scanner) look_nil chunks

/-- **The result does not depend on how the stream was cut.** Two ways of cutting a byte
string into chunks yield the same payloads and the same bytes left, those of one call on
the whole string. -/
theorem receive_chunks (bytes : ByteBuffer) (chunks₁ chunks₂ : List ByteBuffer)
    (h₁ : chunks₁.flatten = bytes) (h₂ : chunks₂.flatten = bytes) :
    (receive [] chunks₁).1.flatten = (receive [] chunks₂).1.flatten ∧
      (receive [] chunks₁).2 = (receive [] chunks₂).2 ∧
      (receive [] chunks₁).1.flatten = (extractFrames bytes).1 ∧
      (receive [] chunks₁).2 = (extractFrames bytes).2 := by
  obtain ⟨f1, r1⟩ := receive_eq_extractFrames chunks₁
  obtain ⟨f2, r2⟩ := receive_eq_extractFrames chunks₂
  rw [h₁] at f1 r1
  rw [h₂] at f2 r2
  exact ⟨f1.trans f2.symm, r1.trans r2.symm, f1, r1⟩

/-- A corrupted byte, then an empty frame, cut within the magic and not cut at all. -/
theorem receive_chunks_split :
    (receive [] [[7, 0xDE, 0xAD], [0xBE, 0xEF, 0, 0, 0, 0]]).1.flatten =
        (receive [] [[7, 0xDE, 0xAD, 0xBE, 0xEF, 0, 0, 0, 0]]).1.flatten ∧
      (receive [] [[7, 0xDE, 0xAD], [0xBE, 0xEF, 0, 0, 0, 0]]).2 =
        (receive [] [[7, 0xDE, 0xAD, 0xBE, 0xEF, 0, 0, 0, 0]]).2 ∧
      (receive [] [[7, 0xDE, 0xAD], [0xBE, 0xEF, 0, 0, 0, 0]]).1.flatten =
        (extractFrames [7, 0xDE, 0xAD, 0xBE, 0xEF, 0, 0, 0, 0]).1 ∧
      (receive [] [[7, 0xDE, 0xAD], [0xBE, 0xEF, 0, 0, 0, 0]]).2 =
        (extractFrames [7, 0xDE, 0xAD, 0xBE, 0xEF, 0, 0, 0, 0]).2 :=
  receive_chunks [7, 0xDE, 0xAD, 0xBE, 0xEF, 0, 0, 0, 0] _ _ rfl rfl

/-! ### Junk between frames -/

/-- Bytes between two frames in which every magic is followed by too large a length. -/
def Junk (j : ByteBuffer) : Prop :=
  ∀ k < j.length, bytes32 kMagic <+: j.drop k →
    8 ≤ (j.drop k).length ∧ kMaxMessageSize < (load32 (j.drop (k + 4))).toNat

instance (j : ByteBuffer) : Decidable (Junk j) := by unfold Junk; infer_instance

lemma Junk.tail {a : UInt8} {j : ByteBuffer} (h : Junk (a :: j)) : Junk j := by
  intro k hk hp
  exact h (k + 1) (by simpa using hk) hp

lemma load32_eq_magic {xs : ByteBuffer} (h : load32 xs = kMagic) (h4 : 4 ≤ xs.length) :
    bytes32 kMagic <+: xs := by
  rw [← h]
  exact ⟨_, bytes32_load32_append h4⟩

lemma bytes32_kMagic : bytes32 kMagic = [0xDE, 0xAD, 0xBE, 0xEF] := by decide

/-- The magic has no border: it does not begin less than four bytes before another one. -/
lemma magic_no_border {j ys : ByteBuffer} (h0 : j ≠ []) (h4 : j.length < 4) :
    ¬ bytes32 kMagic <+: j ++ (bytes32 kMagic ++ ys) := by
  rw [bytes32_kMagic]
  match j, h0, h4 with
  | [a], _, _ => simp
  | [a, b], _, _ => simp
  | [a, b, c], _, _ => simp

lemma toNat_length {p : ByteBuffer} (h : p.length ≤ kMaxMessageSize) :
    (UInt32.ofNat p.length).toNat = p.length := by
  unfold kMaxMessageSize at h
  rw [UInt32.toNat_ofNat', Nat.mod_eq_of_lt (by omega)]

lemma encodeFrame_append {p : ByteBuffer} (h : p.length ≤ kMaxMessageSize)
    (ys : ByteBuffer) : encodeFrame p ++ ys =
      bytes32 kMagic ++ (bytes32 (UInt32.ofNat p.length) ++ (p ++ ys)) := by
  rw [encodeFrame, if_neg (not_lt.mpr h)]
  simp

lemma length_encodeFrame {p : ByteBuffer} (h : p.length ≤ kMaxMessageSize) :
    (encodeFrame p).length = 8 + p.length := by
  rw [encodeFrame, if_neg (not_lt.mpr h)]
  simp only [List.length_append, length_bytes32]

lemma look_encodeFrame {p : ByteBuffer} (h : p.length ≤ kMaxMessageSize) (ys : ByteBuffer) :
    scanner.look (encodeFrame p ++ ys) = .emit p (8 + p.length) := by
  have hf := encodeFrame_append h ys
  have hm : load32 (encodeFrame p ++ ys) = kMagic := by
    rw [hf, load32_append (by simp), load32_bytes32]
  have hl : (load32 ((encodeFrame p ++ ys).drop 4)).toNat = p.length := by
    have hd : (encodeFrame p ++ ys).drop 4 =
        bytes32 (UInt32.ofNat p.length) ++ (p ++ ys) := by rw [hf]; rfl
    rw [hd, load32_append (by simp), load32_bytes32, toNat_length h]
  have hp : (encodeFrame p ++ ys).drop 8 = p ++ ys := by rw [hf]; rfl
  have hlen : (encodeFrame p ++ ys).length = 8 + p.length + ys.length := by
    rw [List.length_append, length_encodeFrame h]
  show look _ = _
  rw [look, hm, hl, hp, if_neg (by omega), if_neg (by simp), if_neg (by omega),
    if_neg (by omega), if_neg (by omega), List.take_left]

/-- Conversely, a frame that is found is there with its header. -/
lemma eq_of_look_emit {xs p : ByteBuffer} {n : ℕ} (h : scanner.look xs = .emit p n) :
    p.length ≤ kMaxMessageSize ∧ xs = encodeFrame p ++ xs.drop n := by
  change look xs = .emit p n at h
  rcases look_cases xs with ⟨-, hw⟩ | ⟨-, -, hs⟩ | ⟨-, -, -, hw⟩ | ⟨-, -, -, hs⟩ |
    ⟨-, -, -, -, hw⟩ | ⟨h8, hm, hl, ht, he⟩
  · cases h.symm.trans hw
  · cases h.symm.trans hs
  · cases h.symm.trans hw
  · cases h.symm.trans hs
  · cases h.symm.trans hw
  · obtain ⟨rfl, rfl⟩ := Verdict.emit.inj (h.symm.trans he)
    set len := load32 (xs.drop 4) with hlen
    have hp : ((xs.drop 8).take len.toNat).length = len.toNat := by simp; omega
    refine ⟨hp.trans_le hl, ?_⟩
    rw [encodeFrame_append (hp.trans_le hl), hp, UInt32.ofNat_toNat, ← List.drop_drop,
      List.take_append_drop, ← hm, hlen]
    have h4 := @bytes32_load32_append (xs.drop 4) (by simp; omega)
    rw [List.drop_drop] at h4
    rw [h4, bytes32_load32_append (by omega)]

lemma decode_encodeFrame {p : ByteBuffer} (h : p.length ≤ kMaxMessageSize) (ys : ByteBuffer) :
    (decode scanner (encodeFrame p ++ ys)).1 = p :: (decode scanner ys).1 ∧
      (decode scanner (encodeFrame p ++ ys)).2 = (decode scanner ys).2 := by
  have hd : (encodeFrame p ++ ys).drop (8 + p.length) = ys :=
    List.drop_left' (length_encodeFrame h)
  have hl := look_encodeFrame h ys
  rw [decode_emit_fst hl, decode_emit_snd hl, hd]
  exact ⟨rfl, rfl⟩

/-- The front of junk before a frame is skipped. -/
lemma look_junk {a : UInt8} {j p : ByteBuffer} (hj : Junk (a :: j))
    (h : p.length ≤ kMaxMessageSize) (ys : ByteBuffer) :
    scanner.look (a :: j ++ (encodeFrame p ++ ys)) = .skip := by
  have hlen : (a :: j ++ (encodeFrame p ++ ys)).length =
      j.length + 1 + (8 + p.length + ys.length) := by
    rw [List.length_append, List.length_append, length_encodeFrame h, List.length_cons]
  show look _ = _
  by_cases hm : load32 (a :: j ++ (encodeFrame p ++ ys)) = kMagic
  · -- a magic at the front of the junk lies within it, with too large a length
    have hpre := load32_eq_magic hm (by omega)
    have hin : 4 ≤ (a :: j).length := by
      by_contra hc
      rw [encodeFrame_append h] at hpre
      exact magic_no_border (by simp) (by omega) hpre
    obtain ⟨h8, hbig⟩ := hj 0 (by simp)
      (List.prefix_of_prefix_length_le hpre (List.prefix_append _ _) hin)
    have hl : load32 ((a :: j ++ (encodeFrame p ++ ys)).drop 4) = load32 ((a :: j).drop 4) := by
      rw [List.drop_append_of_le_length hin, load32_append (by simp at h8 ⊢; omega)]
    rw [look, if_neg (by omega), if_neg (not_not.mpr hm), if_neg (by omega), hl, if_pos hbig]
  · rw [look, if_neg (by omega), if_pos hm]

/-- Junk before a frame is skipped byte by byte. -/
lemma decode_junk {j p : ByteBuffer} (hj : Junk j) (h : p.length ≤ kMaxMessageSize)
    (ys : ByteBuffer) :
    decode scanner (j ++ (encodeFrame p ++ ys)) = decode scanner (encodeFrame p ++ ys) := by
  induction j with
  | nil => rfl
  | cons a j ih =>
    rw [decode_skip (look_junk hj h ys)]
    exact ih hj.tail

/-- The whole stream decodes to the payloads, with nothing left. -/
lemma decode_blocks (blocks : List (ByteBuffer × ByteBuffer))
    (hj : ∀ b ∈ blocks, Junk b.1) (hp : ∀ b ∈ blocks, b.2.length ≤ kMaxMessageSize) :
    (decode scanner (blocks.flatMap fun b => b.1 ++ encodeFrame b.2)).1 =
        blocks.map Prod.snd ∧
      (decode scanner (blocks.flatMap fun b => b.1 ++ encodeFrame b.2)).2 = [] := by
  induction blocks with
  | nil => simp [decode_nil]
  | cons b blocks ih =>
    obtain ⟨hjb, hj⟩ := List.forall_mem_cons.mp hj
    obtain ⟨hpb, hp⟩ := List.forall_mem_cons.mp hp
    obtain ⟨ih1, ih2⟩ := ih hj hp
    rw [List.flatMap_cons, List.append_assoc, decode_junk hjb hpb]
    obtain ⟨h1, h2⟩ := decode_encodeFrame hpb
      (blocks.flatMap fun b => b.1 ++ encodeFrame b.2)
    rw [h1, h2, ih1, ih2]
    exact ⟨rfl, rfl⟩

/-- **No frame is lost or invented.** Frames with junk before each of them, cut into chunks
in any way, yield exactly the payloads sent, and the buffer is empty at the end. -/
theorem receive_frames (blocks : List (ByteBuffer × ByteBuffer))
    (hj : ∀ b ∈ blocks, Junk b.1) (hp : ∀ b ∈ blocks, b.2.length ≤ kMaxMessageSize)
    (chunks : List ByteBuffer)
    (hc : chunks.flatten = blocks.flatMap fun b => b.1 ++ encodeFrame b.2) :
    (receive [] chunks).1.flatten = blocks.map Prod.snd ∧ (receive [] chunks).2 = [] := by
  have key := decode_blocks blocks hj hp
  obtain ⟨h1, h2⟩ := receive_eq_extractFrames chunks
  rw [hc, extractFrames_eq_decode] at h1 h2
  exact ⟨h1.trans key.1, h2.trans key.2⟩

/-- Junk that ends in part of a magic, before a payload that contains one. -/
theorem receive_frames_magic :
    (receive [] [[7, 0xDE, 0xAD, 0xDE, 0xAD, 0xBE], [0xEF, 0, 0, 0, 4, 0xDE, 0xAD, 0xBE, 0xEF]]
      ).1.flatten = [[0xDE, 0xAD, 0xBE, 0xEF]] ∧
    (receive [] [[7, 0xDE, 0xAD, 0xDE, 0xAD, 0xBE], [0xEF, 0, 0, 0, 4, 0xDE, 0xAD, 0xBE, 0xEF]]
      ).2 = [] :=
  receive_frames [([7, 0xDE, 0xAD], [0xDE, 0xAD, 0xBE, 0xEF])] (by decide) (by decide) _
    (by decide)

/-! ### Reading from a connection -/

/-- The handler of `async_read_some` that both ends have: the bytes read are committed to the
buffer, and the frames that are complete are handed on. -/
def onRead (stream : ByteBuffer) (r : ByteStream.Receiver UInt8 ByteBuffer) (n : ℕ) :
    ByteStream.Receiver UInt8 ByteBuffer :=
  let bytes := (stream.drop r.carried).take n
  let (messages, read_buffer) := extractFrames (r.buffer ++ bytes)
  ⟨r.carried + bytes.length, read_buffer, r.received ++ messages⟩

lemma inStep_onRead {stream : ByteBuffer} {r : ByteStream.Receiver UInt8 ByteBuffer}
    (h : r.InStep scanner stream) (n : ℕ) : (onRead stream r n).InStep scanner stream := by
  have arrived := h.arrive n
  simp only [← extractFrames_eq_decode] at arrived
  exact arrived

/-- Frames alone decode to their payloads. -/
lemma decode_frames {payloads : List ByteBuffer}
    (hp : ∀ p ∈ payloads, p.length ≤ kMaxMessageSize) :
    decode scanner (payloads.map encodeFrame).flatten = (payloads, []) := by
  induction payloads with
  | nil => exact decode_nil
  | cons p payloads ih =>
    obtain ⟨hp, hps⟩ := List.forall_mem_cons.mp hp
    obtain ⟨h1, h2⟩ := decode_encodeFrame hp (payloads.map encodeFrame).flatten
    rw [ih hps] at h1 h2
    rw [List.map_cons, List.flatten_cons]
    exact Prod.ext h1 h2

/-- What was received from a stream that frames go on is the beginning of their payloads, and
all of them when all of the stream has come in and nothing goes on it. -/
lemma received_in_order {stream rest : ByteBuffer} {r : ByteStream.Receiver UInt8 ByteBuffer}
    {payloads : List ByteBuffer} (h : r.InStep scanner stream)
    (hp : ∀ p ∈ payloads, p.length ≤ kMaxMessageSize)
    (hs : stream ++ rest = (payloads.map encodeFrame).flatten) :
    r.received <+: payloads ∧
      (r.carried = stream.length → rest = [] → r.received = payloads ∧ r.buffer = []) := by
  have hdec := (h.append rest).decode_eq
  rw [hs, decode_frames hp] at hdec
  obtain ⟨hfst, hsnd⟩ := Prod.mk.inj hdec
  refine ⟨hfst ▸ List.prefix_append _ _, fun hc hr => ?_⟩
  subst hr
  have hnone : (payloads.map encodeFrame).flatten.drop r.carried = [] := by
    rw [← hs, hc, List.append_nil, List.drop_length]
  have hdone := h.decoded
  rw [hc, List.take_length] at hdone
  rw [List.append_nil] at hs
  rw [hs, decode_frames hp] at hdone
  exact ⟨(Prod.mk.inj hdone).1.symm, (Prod.mk.inj hdone).2.symm⟩

end FrameCodec

end DungeonCrawler
