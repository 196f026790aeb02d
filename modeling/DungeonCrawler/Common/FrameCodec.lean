import DungeonCrawler.Common.Types
import DungeonCrawler.Lib.BigEndian
import DungeonCrawler.Lib.StreamDecoder

/-!
The copying frame codec: `[magic][length][payload]`, both numbers in network byte order.

The functions are those of `common/network/frame_codec.h`; the receive buffer is the list
of its unread bytes, to which the reader appends what arrived and from whose front the codec
consumes. The scan of the codec is the decoder of a stable scanner.
-/

namespace DungeonCrawler

namespace FrameCodec

open StreamDecoder BigEndian

def kMaxMessageSize : ℕ := 16 * 1024 * 1024
def kMagic : UInt32 := 0xDEADBEEF
def kMagicLength : ℕ := 4
def kSizePrefixLength : ℕ := 4

def encodeFrame (payload : ByteBuffer) : ByteBuffer :=
  if payload.length > kMaxMessageSize then []
  else bytes32 kMagic ++ bytes32 (UInt32.ofNat payload.length) ++ payload

/-- Only a payload that is too long has no frame. -/
lemma encodeFrame_isEmpty {payload : ByteBuffer} :
    (encodeFrame payload).isEmpty ↔ kMaxMessageSize < payload.length := by
  unfold encodeFrame
  split_ifs with h
  · simp [h]
  · simp [bytes32, h]

/-- The number in network byte order at an offset. -/
def readNumber (data : ByteBuffer) (offset : ℕ) : UInt32 := load32 (data.drop offset)

/-- The variables of the scanning loop. -/
structure Scan where
  messages : List ByteBuffer
  offset : ℕ
  first_incomplete_magic_offset : ℕ

def scanLoop (data : ByteBuffer) (s : Scan) : Scan :=
  if s.offset + kMagicLength ≤ data.length then
    if readNumber data s.offset ≠ kMagic then
      scanLoop data { s with offset := s.offset + 1 }
    else if s.offset + kMagicLength + kSizePrefixLength > data.length then
      { s with first_incomplete_magic_offset := s.offset }
    else
      let payload_len := (readNumber data (s.offset + kMagicLength)).toNat
      if payload_len > kMaxMessageSize then
        scanLoop data { s with offset := s.offset + 1 }
      else
        let total_len := kMagicLength + kSizePrefixLength + payload_len
        if s.offset + total_len > data.length then
          { s with first_incomplete_magic_offset := s.offset }
        else
          let payload :=
            (data.drop (s.offset + kMagicLength + kSizePrefixLength)).take payload_len
          scanLoop data
            { s with messages := s.messages ++ [payload], offset := s.offset + total_len }
  else s
termination_by data.length - s.offset
decreasing_by all_goals simp [kMagicLength, kSizePrefixLength] at *; omega

/-- The payloads found, and what is left in the buffer. -/
def extractFrames (buffer : ByteBuffer) : List ByteBuffer × ByteBuffer :=
  let buf_size := buffer.length
  if buf_size < kMagicLength then ([], buffer)
  else
    let s := scanLoop buffer ⟨[], 0, buf_size⟩
    let bytes_to_consume :=
      if s.first_incomplete_magic_offset ≠ buf_size then s.first_incomplete_magic_offset
      else s.offset
    (s.messages, buffer.drop bytes_to_consume)

/-- Each chunk is appended to the buffer and the frames are extracted: the payloads of
every call, and the buffer at the end. -/
def receive : ByteBuffer → List ByteBuffer → List (List ByteBuffer) × ByteBuffer
  | buffer, [] => ([], buffer)
  | buffer, chunk :: chunks =>
    let (messages, rest) := extractFrames (buffer ++ chunk)
    (messages :: (receive rest chunks).1, (receive rest chunks).2)

/-! ### The codec as a stream decoder -/

/-- The decision of one turn of the loop, on the bytes from the offset on. -/
def look (xs : ByteBuffer) : Verdict ByteBuffer :=
  if xs.length < 4 then .wait
  else if load32 xs ≠ kMagic then .skip
  else if xs.length < 8 then .wait
  else if kMaxMessageSize < (load32 (xs.drop 4)).toNat then .skip
  else if xs.length < 8 + (load32 (xs.drop 4)).toNat then .wait
  else .emit ((xs.drop 8).take (load32 (xs.drop 4)).toNat) (8 + (load32 (xs.drop 4)).toNat)

/-- The six ways a turn can go. -/
lemma look_cases (xs : ByteBuffer) :
    (xs.length < 4 ∧ look xs = .wait) ∨
    (4 ≤ xs.length ∧ load32 xs ≠ kMagic ∧ look xs = .skip) ∨
    (4 ≤ xs.length ∧ load32 xs = kMagic ∧ xs.length < 8 ∧ look xs = .wait) ∨
    (8 ≤ xs.length ∧ load32 xs = kMagic ∧ kMaxMessageSize < (load32 (xs.drop 4)).toNat ∧
      look xs = .skip) ∨
    (8 ≤ xs.length ∧ load32 xs = kMagic ∧ (load32 (xs.drop 4)).toNat ≤ kMaxMessageSize ∧
      xs.length < 8 + (load32 (xs.drop 4)).toNat ∧ look xs = .wait) ∨
    (8 ≤ xs.length ∧ load32 xs = kMagic ∧ (load32 (xs.drop 4)).toNat ≤ kMaxMessageSize ∧
      8 + (load32 (xs.drop 4)).toNat ≤ xs.length ∧
      look xs = .emit ((xs.drop 8).take (load32 (xs.drop 4)).toNat)
        (8 + (load32 (xs.drop 4)).toNat)) := by
  unfold look
  split_ifs <;> simp_all

lemma look_skip {xs : ByteBuffer} (h : look xs = .skip) : 4 ≤ xs.length := by
  unfold look at h
  split_ifs at h <;> omega

lemma look_emit {xs b : ByteBuffer} {n : ℕ} (h : look xs = .emit b n) :
    8 ≤ n ∧ n ≤ xs.length := by
  unfold look at h
  split_ifs at h
  obtain ⟨-, rfl⟩ := Verdict.emit.inj h
  omega

/-- Bytes that arrive later change no decision already made. -/
lemma look_append {xs : ByteBuffer} (h : look xs ≠ .wait) (ys : ByteBuffer) :
    look (xs ++ ys) = look xs := by
  have hlen : (xs ++ ys).length = xs.length + ys.length := List.length_append
  have hdrop : 8 ≤ xs.length → load32 ((xs ++ ys).drop 4) = load32 (xs.drop 4) := fun h8 => by
    rw [List.drop_append_of_le_length (by omega), load32_append (by simp; omega)]
  rcases look_cases xs with ⟨-, hw⟩ | ⟨h4, hm, hs⟩ | ⟨-, -, -, hw⟩ | ⟨h8, hm, hl, hs⟩ |
    ⟨-, -, -, -, hw⟩ | ⟨h8, hm, hl, ht, he⟩
  · exact absurd hw h
  · rw [hs, look, load32_append h4, if_neg (by omega), if_pos hm]
  · exact absurd hw h
  · rw [hs, look, load32_append (by omega), hdrop h8, if_neg (by omega), if_neg (by simp [hm]),
      if_neg (by omega), if_pos hl]
  · exact absurd hw h
  · rw [he, look, load32_append (by omega), hdrop h8, if_neg (by omega), if_neg (by simp [hm]),
      if_neg (by omega), if_neg (by omega), if_neg (by omega),
      List.drop_append_of_le_length h8, List.take_append_of_le_length (by simp; omega)]

/-- The codec's scanner. -/
def scanner : Scanner UInt8 ByteBuffer where
  look := look
  skip_ne_nil h := List.ne_nil_of_length_pos (by have := look_skip h; omega)
  emit_pos h := by have := look_emit h; omega
  emit_le h := (look_emit h).2
  stable := look_append

/-- The decision at an offset of the buffer. -/
lemma look_drop (data : ByteBuffer) (o : ℕ) :
    scanner.look (data.drop o) =
      if data.length - o < 4 then .wait
      else if readNumber data o ≠ kMagic then .skip
      else if data.length - o < 8 then .wait
      else if kMaxMessageSize < (readNumber data (o + 4)).toNat then .skip
      else if data.length - o < 8 + (readNumber data (o + 4)).toNat then .wait
      else .emit ((data.drop (o + 4 + 4)).take (readNumber data (o + 4)).toNat)
        (8 + (readNumber data (o + 4)).toNat) := by
  simp only [scanner, look, readNumber, List.drop_drop, List.length_drop, Nat.add_assoc,
    Nat.reduceAdd]

/-- What the loop does from an offset on: it adds the frames the decoder finds there, ends
where the decoder stops, and remembers that offset if it stopped at a magic. -/
lemma scanLoop_spec (data : ByteBuffer) (s : Scan) (ho : s.offset ≤ data.length)
    (hf : s.first_incomplete_magic_offset = data.length) :
    (scanLoop data s).messages = s.messages ++ (decode scanner (data.drop s.offset)).1 ∧
      data.drop (scanLoop data s).offset = (decode scanner (data.drop s.offset)).2 ∧
      ((scanLoop data s).first_incomplete_magic_offset = data.length ∨
        (scanLoop data s).first_incomplete_magic_offset = (scanLoop data s).offset) := by
  fun_induction scanLoop data s with
  | case1 s h hm ih =>
    -- no magic here
    simp only [kMagicLength] at h
    have hl : scanner.look (data.drop s.offset) = .skip := by
      rw [look_drop, if_neg (by omega), if_pos hm]
    rw [decode_skip hl, List.drop_drop]
    exact ih (by simp only; omega) hf
  | case2 s h hm h8 =>
    -- the length has not arrived
    simp only [kMagicLength, kSizePrefixLength] at h h8
    have hl : scanner.look (data.drop s.offset) = .wait := by
      rw [look_drop, if_neg (by omega), if_neg hm, if_pos (by omega)]
    simp [decode_wait hl]
  | case3 s h hm h8 payload_len hp ih =>
    -- the length is too large
    simp only [kMagicLength, kSizePrefixLength, payload_len] at h h8 hp
    have hl : scanner.look (data.drop s.offset) = .skip := by
      rw [look_drop, if_neg (by omega), if_neg hm, if_neg (by omega), if_pos hp]
    rw [decode_skip hl, List.drop_drop]
    exact ih (by simp only; omega) hf
  | case4 s h hm h8 payload_len hp total_len ht =>
    -- the payload has not arrived in full
    simp only [kMagicLength, kSizePrefixLength, total_len, payload_len] at h h8 hp ht
    have hl : scanner.look (data.drop s.offset) = .wait := by
      rw [look_drop, if_neg (by omega), if_neg hm, if_neg (by omega), if_neg hp,
        if_pos (by omega)]
    simp [decode_wait hl]
  | case5 s h hm h8 payload_len hp total_len ht payload ih =>
    -- a complete frame
    simp only [kMagicLength, kSizePrefixLength, total_len, payload_len, payload,
      Nat.reduceAdd] at h h8 hp ht ih ⊢
    have hl : scanner.look (data.drop s.offset) =
        .emit ((data.drop (s.offset + 4 + 4)).take (readNumber data (s.offset + 4)).toNat)
          (8 + (readNumber data (s.offset + 4)).toNat) := by
      rw [look_drop, if_neg (by omega), if_neg hm, if_neg (by omega), if_neg hp,
        if_neg (by omega)]
    obtain ⟨h1, h2, h3⟩ := ih (by omega) hf
    rw [decode_emit_fst hl, decode_emit_snd hl, List.drop_drop]
    refine ⟨?_, h2, h3⟩
    rw [h1, List.append_assoc, List.singleton_append]
  | case6 s h =>
    -- fewer than four bytes left
    simp only [kMagicLength] at h
    have hl : scanner.look (data.drop s.offset) = .wait := by
      rw [look_drop, if_pos (by omega)]
    simp [decode_wait hl, hf]

/-- **The codec is the decoder of its scanner.** -/
theorem extractFrames_eq_decode (buffer : ByteBuffer) :
    extractFrames buffer = decode scanner buffer := by
  unfold extractFrames
  by_cases h : buffer.length < kMagicLength
  · have hl : scanner.look buffer = .wait := if_pos h
    rw [if_pos h, decode_wait hl]
  · obtain ⟨h1, h2, h3⟩ := scanLoop_spec buffer ⟨[], 0, buffer.length⟩ (by simp) rfl
    rw [if_neg h]
    simp only [List.drop_zero, List.nil_append] at h1 h2 h3 ⊢
    refine Prod.ext h1 ?_
    rw [← h2]
    split_ifs with hf
    · rw [h3.resolve_left hf]
    · rfl

/-- Receiving chunk by chunk is feeding the decoder. -/
lemma receive_eq_feed (buffer : ByteBuffer) (chunks : List ByteBuffer) :
    receive buffer chunks = feed scanner buffer chunks := by
  induction chunks generalizing buffer with
  | nil => rfl
  | cons chunk chunks ih => simp [receive, feed, extractFrames_eq_decode, ih]

end FrameCodec

end DungeonCrawler
