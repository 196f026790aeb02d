import DungeonCrawler.Common.FrameCodec

/-!
The zero-copy frame codec of `common/network/frame_codec_zc.h`, and its agreement with the
copying one.

The decoder hands every complete payload to a callback, which may throw. The buffer is
consumed up to where the scan stands on every way out, the exception included. Both codecs
are decoders of stable scanners; the one here waits for a whole header before it decides
anything, so it may leave more bytes unread, but it emits the same payloads in every call.
-/

namespace DungeonCrawler

namespace FrameCodecZc

open StreamDecoder BigEndian

def kMagic : UInt32 := 0xDEADBEEF
def kMagicLength : ℕ := 4
def kSizeLength : ℕ := 4
def kHeaderLength : ℕ := kMagicLength + kSizeLength
def kMaxMessageSize : ℕ := 16 * 1024 * 1024

/-! ### Encoding -/

structure Frame where
  header_ : ByteBuffer
  payload_ : ByteBuffer

/-- The bytes of the two buffers handed to the socket. -/
def Frame.buffers (f : Frame) : ByteBuffer := f.header_ ++ f.payload_

inductive EncodeError
  | length_error (what : String)
  deriving DecidableEq

def encode (payload : ByteBuffer) : Except EncodeError Frame :=
  if payload.length > kMaxMessageSize then
    .error (.length_error "FrameCodec::encode: payload exceeds kMaxMessageSize")
  else
    .ok ⟨bytes32 kMagic ++ bytes32 (UInt32.ofNat payload.length), payload⟩

/-! ### Decoding -/

abbrev PayloadView := ByteBuffer

/-- A callback with a state of its own, which it may change also when it throws. -/
abbrev FrameHandler (σ ε : Type) := PayloadView → σ → Except ε Unit × σ

/-- How a scan ended: with the number of frames dispatched or with the exception of the
callback; the first byte not yet resolved; and the payloads the callback was called on. -/
structure Scan (σ ε : Type) where
  result : Except ε ℕ
  offset : ℕ
  calls : List PayloadView
  state : σ

variable {σ ε : Type} (onFrame : FrameHandler σ ε)

def scan (data : ByteBuffer) (offset count : ℕ) (calls : List PayloadView) (state : σ) :
    Scan σ ε :=
  if offset + kHeaderLength ≤ data.length then
    if FrameCodec.readNumber data offset ≠ kMagic then
      scan data (offset + 1) count calls state
    else
      let length_v := (FrameCodec.readNumber data (offset + kMagicLength)).toNat
      if length_v > kMaxMessageSize then scan data (offset + 1) count calls state
      else
        let total := kHeaderLength + length_v
        if offset + total > data.length then ⟨.ok count, offset, calls, state⟩
        else
          let payload := (data.drop (offset + kHeaderLength)).take length_v
          match onFrame payload state with
          | (.error e, state') => ⟨.error e, offset, calls ++ [payload], state'⟩
          | (.ok (), state') =>
            scan data (offset + total) (count + 1) (calls ++ [payload]) state'
  else ⟨.ok count, offset, calls, state⟩
termination_by data.length - offset
decreasing_by all_goals simp [kHeaderLength, kMagicLength, kSizeLength] at *; omega

/-- What a call of the decoder leaves behind. -/
structure Decoded (σ ε : Type) where
  result : Except ε ℕ
  buffer : ByteBuffer
  calls : List PayloadView
  state : σ

def decode (buffer : ByteBuffer) (state : σ) : Decoded σ ε :=
  if buffer.length < kHeaderLength then ⟨.ok 0, buffer, [], state⟩
  else
    let s := scan onFrame buffer 0 0 [] state
    ⟨s.result, buffer.drop s.offset, s.calls, s.state⟩

/-- Each chunk is appended to the buffer and decoded: the payloads dispatched by every call,
and the buffer at the end. -/
def receive : ByteBuffer → σ → List ByteBuffer → List (List PayloadView) × ByteBuffer
  | buffer, _, [] => ([], buffer)
  | buffer, state, chunk :: chunks =>
    let d := decode onFrame (buffer ++ chunk) state
    (d.calls :: (receive d.buffer d.state chunks).1, (receive d.buffer d.state chunks).2)

/-! ### The codec as a stream decoder -/

/-- The decision of one turn of the loop, on the bytes from the offset on. -/
def look (xs : ByteBuffer) : Verdict ByteBuffer :=
  if xs.length < 8 then .wait else FrameCodec.look xs

/-- The codec's scanner: the one of the copying codec, once a header is there. -/
def scanner : Scanner UInt8 ByteBuffer where
  look := look
  skip_ne_nil h := by
    unfold look at h
    split_ifs at h
    exact FrameCodec.scanner.skip_ne_nil h
  emit_pos h := by
    unfold look at h
    split_ifs at h
    exact FrameCodec.scanner.emit_pos h
  emit_le h := by
    unfold look at h
    split_ifs at h
    exact FrameCodec.scanner.emit_le h
  stable {xs} h ys := by
    unfold look at h ⊢
    split_ifs at h with h8
    · exact absurd rfl h
    · rw [if_neg h8, if_neg (by simp; omega)]
      exact FrameCodec.look_append h ys

/-- The decision at an offset where a header fits. -/
lemma look_drop {data : ByteBuffer} {o : ℕ} (h : o + 8 ≤ data.length) :
    scanner.look (data.drop o) =
      if FrameCodec.readNumber data o ≠ kMagic then .skip
      else if kMaxMessageSize < (FrameCodec.readNumber data (o + 4)).toNat then .skip
      else if data.length - o < 8 + (FrameCodec.readNumber data (o + 4)).toNat then .wait
      else .emit ((data.drop (o + 4 + 4)).take (FrameCodec.readNumber data (o + 4)).toNat)
        (8 + (FrameCodec.readNumber data (o + 4)).toNat) := by
  have hl : scanner.look (data.drop o) = FrameCodec.scanner.look (data.drop o) :=
    if_neg (by simp; omega)
  rw [hl, FrameCodec.look_drop, if_neg (by omega), if_neg (show ¬ data.length - o < 8 by omega)]
  rfl

variable {onFrame}

variable (onFrame) in
/-- The callback is called on the payloads in turn: those on which it returns, and its state
after the last. -/
def replay : List PayloadView → σ → List PayloadView × σ
  | [], state => ([], state)
  | payload :: payloads, state =>
    match onFrame payload state with
    | (.ok (), state') =>
      (payload :: (replay payloads state').1, (replay payloads state').2)
    | (.error _, state') => replay payloads state'

lemma replay_cons_ok {p : PayloadView} {s s' : σ} (h : onFrame p s = (.ok (), s'))
    (ps : List PayloadView) :
    replay onFrame (p :: ps) s = (p :: (replay onFrame ps s').1, (replay onFrame ps s').2) := by
  rw [replay, h]

variable (onFrame) in
/-- The two ways a call ends on the bytes `xs`: the callback returned on every frame found, and
the scanner waits; or it threw on a frame that is still there. -/
inductive Outcome (xs : ByteBuffer) (s : σ) :
    Except ε ℕ → List PayloadView → ByteBuffer → σ → Prop
  | returned {fs : List PayloadView} {ys : ByteBuffer} {s₁ : σ} :
    Reads scanner xs fs ys → replay onFrame fs s = (fs, s₁) → scanner.look ys = .wait →
    Outcome xs s (.ok fs.length) fs ys s₁
  | threw {fs : List PayloadView} {ys : ByteBuffer} {s₁ s₂ : σ} {p : PayloadView} {n : ℕ}
      {e : ε} :
    Reads scanner xs fs ys → replay onFrame fs s = (fs, s₁) → scanner.look ys = .emit p n →
    onFrame p s₁ = (.error e, s₂) → Outcome xs s (.error e) (fs ++ [p]) ys s₂

namespace Outcome

variable {xs ys : ByteBuffer} {s s' s'' : σ} {r : Except ε ℕ} {cs : List PayloadView}

lemma skip (hl : scanner.look xs = .skip) (h : Outcome onFrame (xs.drop 1) s r cs ys s') :
    Outcome onFrame xs s r cs ys s' := by
  cases h with
  | returned hr hp hw => exact .returned (.skip hl hr) hp hw
  | threw hr hp he ht => exact .threw (.skip hl hr) hp he ht

lemma emit {p : PayloadView} {n : ℕ} (hl : scanner.look xs = .emit p n)
    (hp : onFrame p s = (.ok (), s')) (h : Outcome onFrame (xs.drop n) s' r cs ys s'') :
    Outcome onFrame xs s (r.map (· + 1)) (p :: cs) ys s'' := by
  cases h with
  | returned hr hrest hw =>
    refine .returned (.emit hl hr) ?_ hw
    rw [replay_cons_ok hp, hrest]
  | threw hr hrest he ht =>
    refine .threw (.emit hl hr) ?_ he ht
    rw [replay_cons_ok hp, hrest]

lemma of_ok {n : ℕ} (h : Outcome onFrame xs s (.ok n) cs ys s') :
    Reads scanner xs cs ys ∧ replay onFrame cs s = (cs, s') ∧ scanner.look ys = .wait := by
  cases h with
  | returned hr hp hw => exact ⟨hr, hp, hw⟩

lemma of_error {e : ε} (h : Outcome onFrame xs s (.error e) cs ys s') :
    ∃ fs p n s₁, cs = fs ++ [p] ∧ Reads scanner xs fs ys ∧ replay onFrame fs s = (fs, s₁) ∧
      scanner.look ys = .emit p n ∧ onFrame p s₁ = (.error e, s') := by
  cases h with
  | threw hr hp he ht => exact ⟨_, _, _, _, rfl, hr, hp, he, ht⟩

end Outcome

variable (onFrame) in
/-- What the loop does from an offset on. -/
lemma scan_outcome (data : ByteBuffer) (offset count : ℕ) (calls : List PayloadView)
    (state : σ) :
    ∃ r cs, Outcome onFrame (data.drop offset) state r cs
        (data.drop (scan onFrame data offset count calls state).offset)
        (scan onFrame data offset count calls state).state ∧
      (scan onFrame data offset count calls state).result = r.map (count + ·) ∧
      (scan onFrame data offset count calls state).calls = calls ++ cs := by
  fun_induction scan onFrame data offset count calls state with
  | case1 offset count calls state h hm ih =>
    -- no magic here
    simp only [kHeaderLength, kMagicLength, kSizeLength, Nat.reduceAdd] at h
    have hl : scanner.look (data.drop offset) = .skip := by
      rw [look_drop h, if_pos hm]
    obtain ⟨r, cs, ho, hr, hc⟩ := ih
    exact ⟨r, cs, .skip hl (by rwa [List.drop_drop]), hr, hc⟩
  | case2 offset count calls state h hm length_v hv ih =>
    -- the length is too large
    simp only [kHeaderLength, kMagicLength, kSizeLength, Nat.reduceAdd, length_v] at h hv
    have hl : scanner.look (data.drop offset) = .skip := by
      rw [look_drop h, if_neg hm, if_pos hv]
    obtain ⟨r, cs, ho, hr, hc⟩ := ih
    exact ⟨r, cs, .skip hl (by rwa [List.drop_drop]), hr, hc⟩
  | case3 offset count calls state h hm length_v hv total ht =>
    -- the payload has not arrived in full
    simp only [kHeaderLength, kMagicLength, kSizeLength, Nat.reduceAdd, length_v,
      total] at h hv ht
    have hl : scanner.look (data.drop offset) = .wait := by
      rw [look_drop h, if_neg hm, if_neg hv, if_pos (by omega)]
    exact ⟨_, [], .returned (.here _) rfl hl, rfl, (List.append_nil _).symm⟩
  | case4 offset count calls state h hm length_v hv total ht payload e state' he =>
    -- the callback throws
    simp only [kHeaderLength, kMagicLength, kSizeLength, Nat.reduceAdd, length_v, total,
      payload] at h hv ht he ⊢
    have hl : scanner.look (data.drop offset) =
        .emit ((data.drop (offset + 4 + 4)).take
            (FrameCodec.readNumber data (offset + 4)).toNat)
          (8 + (FrameCodec.readNumber data (offset + 4)).toNat) := by
      rw [look_drop h, if_neg hm, if_neg hv, if_neg (by omega)]
    exact ⟨_, _, .threw (.here _) rfl hl he, rfl, rfl⟩
  | case5 offset count calls state h hm length_v hv total ht payload state' he ih =>
    -- a complete frame
    simp only [kHeaderLength, kMagicLength, kSizeLength, Nat.reduceAdd, length_v, total,
      payload] at h hv ht he ih ⊢
    have hl : scanner.look (data.drop offset) =
        .emit ((data.drop (offset + 4 + 4)).take
            (FrameCodec.readNumber data (offset + 4)).toNat)
          (8 + (FrameCodec.readNumber data (offset + 4)).toNat) := by
      rw [look_drop h, if_neg hm, if_neg hv, if_neg (by omega)]
    obtain ⟨r, cs, ho, hr, hc⟩ := ih
    refine ⟨_, _, .emit hl he (by rwa [List.drop_drop]), ?_, ?_⟩
    · rw [hr]
      cases r with
      | error e => rfl
      | ok n => exact congrArg Except.ok (by dsimp only; omega)
    · rw [hc, List.append_assoc, List.singleton_append]
  | case6 offset count calls state h =>
    -- no room for a header
    simp only [kHeaderLength, kMagicLength, kSizeLength, Nat.reduceAdd] at h
    have hl : scanner.look (data.drop offset) = .wait := if_pos (by simp; omega)
    exact ⟨_, [], .returned (.here _) rfl hl, rfl, (List.append_nil _).symm⟩

variable (onFrame) in
/-- A call of the decoder ends in one of the two ways. -/
lemma decode_outcome (buffer : ByteBuffer) (state : σ) :
    Outcome onFrame buffer state (decode onFrame buffer state).result
      (decode onFrame buffer state).calls (decode onFrame buffer state).buffer
      (decode onFrame buffer state).state := by
  unfold decode
  split_ifs with h
  · have hl : scanner.look buffer = .wait := if_pos h
    exact .returned (.here _) rfl hl
  · obtain ⟨r, cs, ho, hr, hc⟩ := scan_outcome onFrame buffer 0 0 [] state
    have hmap : r.map (0 + ·) = r := by
      cases r with
      | error e => rfl
      | ok n => exact congrArg Except.ok (Nat.zero_add n)
    rw [hmap] at hr
    dsimp only
    rw [hr, hc]
    exact ho

/-- A call that does not throw is the decoder of the codec's scanner. -/
lemma decode_eq_decode {buffer : ByteBuffer} {state : σ} {n : ℕ}
    (hr : (decode onFrame buffer state).result = .ok n) :
    (decode onFrame buffer state).calls = (StreamDecoder.decode scanner buffer).1 ∧
      (decode onFrame buffer state).buffer = (StreamDecoder.decode scanner buffer).2 := by
  have ho := decode_outcome onFrame buffer state
  rw [hr] at ho
  obtain ⟨hread, -, hw⟩ := ho.of_ok
  rw [hread.decode_of_wait hw]
  exact ⟨rfl, rfl⟩

/-- With a callback that does not throw no call of the decoder does. -/
lemma decode_ok (hok : ∀ p s, (onFrame p s).1 = .ok ()) (buffer : ByteBuffer) (state : σ) :
    ∃ n, (decode onFrame buffer state).result = .ok n := by
  cases hr : (decode onFrame buffer state).result with
  | ok n => exact ⟨n, rfl⟩
  | error e =>
    have ho := decode_outcome onFrame buffer state
    rw [hr] at ho
    obtain ⟨fs, p, n, s₁, -, -, -, -, ht⟩ := ho.of_error
    have := hok p s₁
    rw [ht] at this
    cases this

lemma receive_eq_feed (hok : ∀ p s, (onFrame p s).1 = .ok ()) (buffer : ByteBuffer)
    (state : σ) (chunks : List ByteBuffer) :
    receive onFrame buffer state chunks = feed scanner buffer chunks := by
  induction chunks generalizing buffer state with
  | nil => rfl
  | cons chunk chunks ih =>
    obtain ⟨n, hn⟩ := decode_ok hok (buffer ++ chunk) state
    obtain ⟨h1, h2⟩ := decode_eq_decode hn
    simp only [receive, feed, h1, h2, ih]

/-! ### The two codecs agree -/

/-- Where this codec does not wait, the copying one decides alike. -/
lemma look_agrees (xs : ByteBuffer) (h : scanner.look xs ≠ .wait) :
    FrameCodec.scanner.look xs = scanner.look xs := by
  show _ = look xs
  have h8 : ¬ xs.length < 8 := fun h8 => h (if_pos h8)
  rw [look, if_neg h8]
  rfl

/-- The copying codec finds no frame in fewer than eight bytes. -/
lemma decode_short {xs : ByteBuffer} (h : xs.length < 8) :
    (StreamDecoder.decode FrameCodec.scanner xs).1 = [] := by
  induction xs using decode_induction (S := FrameCodec.scanner) with
  | wait xs hl => rw [decode_wait hl]
  | skip xs hl ih => rw [decode_skip hl]; exact ih (by simp; omega)
  | emit xs b n hl ih =>
    have := FrameCodec.look_emit hl
    omega

/-- Nor does it find one where this codec waits. -/
lemma decode_of_wait {xs : ByteBuffer} (h : scanner.look xs = .wait) :
    (StreamDecoder.decode FrameCodec.scanner xs).1 = [] := by
  by_cases h8 : xs.length < 8
  · exact decode_short h8
  · have hl : FrameCodec.scanner.look xs = .wait := by
      rw [← h]
      exact (if_neg h8).symm
    rw [decode_wait hl]

/-- **The zero-copy codec agrees with the copying one.** Chunk by chunk it dispatches the
payloads that the copying codec returns, to any callback that does not throw; and it writes
the same frames, both refusing a payload that is too large. -/
theorem agrees (hok : ∀ p s, (onFrame p s).1 = .ok ()) (state : σ)
    (chunks : List ByteBuffer) (payload : ByteBuffer) :
    (receive onFrame [] state chunks).1 = (FrameCodec.receive [] chunks).1 ∧
      (payload.length ≤ FrameCodec.kMaxMessageSize →
        ∃ f, encode payload = .ok f ∧ f.buffers = FrameCodec.encodeFrame payload) ∧
      (FrameCodec.kMaxMessageSize < payload.length →
        encode payload = .error (.length_error
          "FrameCodec::encode: payload exceeds kMaxMessageSize") ∧
        FrameCodec.encodeFrame payload = []) := by
  refine ⟨?_, fun h => ?_, fun h => ?_⟩
  · rw [receive_eq_feed hok, FrameCodec.receive_eq_feed]
    exact feed_refine look_agrees (fun _ => decode_of_wait) decode_nil chunks
  · refine ⟨_, if_neg (not_lt.mpr h), ?_⟩
    rw [FrameCodec.encodeFrame, if_neg (not_lt.mpr h)]
    rfl
  · exact ⟨if_pos h, if_pos h⟩

/-- A callback that counts its calls, on a frame that comes in two chunks. -/
theorem agrees_counting :
    (receive (ε := Empty) (fun _ n => (.ok (), n + 1)) [] 0
        [[0xDE, 0xAD, 0xBE, 0xEF, 0, 0, 0], [1, 42]]).1 =
      (FrameCodec.receive [] [[0xDE, 0xAD, 0xBE, 0xEF, 0, 0, 0], [1, 42]]).1 ∧
    (([42] : ByteBuffer).length ≤ FrameCodec.kMaxMessageSize →
      ∃ f, encode [42] = .ok f ∧ f.buffers = FrameCodec.encodeFrame [42]) ∧
    (FrameCodec.kMaxMessageSize < ([42] : ByteBuffer).length →
      encode [42] = .error (.length_error
        "FrameCodec::encode: payload exceeds kMaxMessageSize") ∧
      FrameCodec.encodeFrame [42] = []) :=
  agrees (fun _ _ => rfl) 0
    [[0xDE, 0xAD, 0xBE, 0xEF, 0, 0, 0], [1, 42]] [42]

end FrameCodecZc

end DungeonCrawler
