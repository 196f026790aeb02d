import Mathlib.Tactic

/-!
Decoders of a stream that arrives in chunks.

A scanner looks at the unread input and either waits for more, skips one element, or takes
a frame off the front. It is *stable* when a verdict other than waiting is not changed by
what arrives later. Decoding repeats the scanner until it waits. For a stable scanner the
result does not depend on how the stream was cut, and two scanners that agree whenever the
first does not wait emit the same frames chunk by chunk.
-/

namespace StreamDecoder

/-- What a scanner decides at the front of the unread input. -/
inductive Verdict (β : Type*)
  | wait
  | skip
  /-- A frame that takes up the first `n` elements. -/
  | emit (b : β) (n : ℕ)

/-- A stable scanner: it never skips or takes what is not there, and does not change its
mind when more input arrives. -/
structure Scanner (α β : Type*) where
  look : List α → Verdict β
  skip_ne_nil : ∀ {xs}, look xs = .skip → xs ≠ []
  emit_pos : ∀ {xs b n}, look xs = .emit b n → 0 < n
  emit_le : ∀ {xs b n}, look xs = .emit b n → n ≤ xs.length
  stable : ∀ {xs}, look xs ≠ .wait → ∀ ys, look (xs ++ ys) = look xs

variable {α β : Type*} (S T : Scanner α β)

/-- The frames found in the input, and what is left when the scanner waits. -/
def decode (xs : List α) : List β × List α :=
  match _ : S.look xs with
  | .wait => ([], xs)
  | .skip => decode (xs.drop 1)
  | .emit b n => ((b :: (decode (xs.drop n)).1), (decode (xs.drop n)).2)
termination_by xs.length
decreasing_by
  · have := List.length_pos_of_ne_nil (S.skip_ne_nil ‹_›)
    simp only [List.length_drop]; omega
  all_goals
    have h1 := S.emit_pos ‹_›
    have h2 := S.emit_le ‹_›
    simp only [List.length_drop]; omega

variable {S T}

lemma decode_wait {xs : List α} (h : S.look xs = .wait) : decode S xs = ([], xs) := by
  rw [decode]; split <;> simp_all

lemma decode_skip {xs : List α} (h : S.look xs = .skip) :
    decode S xs = decode S (xs.drop 1) := by
  rw [decode]; split <;> simp_all

lemma decode_emit {xs : List α} {b : β} {n : ℕ} (h : S.look xs = .emit b n) :
    decode S xs = (b :: (decode S (xs.drop n)).1, (decode S (xs.drop n)).2) := by
  rw [decode]; split <;> simp_all

lemma decode_emit_fst {xs : List α} {b : β} {n : ℕ} (h : S.look xs = .emit b n) :
    (decode S xs).1 = b :: (decode S (xs.drop n)).1 := by
  rw [decode_emit h]

lemma decode_emit_snd {xs : List α} {b : β} {n : ℕ} (h : S.look xs = .emit b n) :
    (decode S xs).2 = (decode S (xs.drop n)).2 := by
  rw [decode_emit h]

/-- Decoding by induction: the scanner waits, or it goes on behind what it dealt with. -/
lemma decode_induction {P : List α → Prop} (wait : ∀ xs, S.look xs = .wait → P xs)
    (skip : ∀ xs, S.look xs = .skip → P (xs.drop 1) → P xs)
    (emit : ∀ xs b n, S.look xs = .emit b n → P (xs.drop n) → P xs) (xs : List α) : P xs := by
  induction xs using decode.induct S with
  | case1 xs h => exact wait xs h
  | case2 xs h ih => exact skip xs h ih
  | case3 xs b n h ih => exact emit xs b n h ih

/-- What is left is what the scanner waits on. -/
lemma look_residue (xs : List α) : S.look (decode S xs).2 = .wait := by
  induction xs using decode_induction (S := S) with
  | wait xs h => rwa [decode_wait h]
  | skip xs h ih => rwa [decode_skip h]
  | emit xs b n h ih => rwa [decode_emit_snd h]

/-- What is left is the end of what was given. -/
lemma residue_suffix (xs : List α) : (decode S xs).2 <:+ xs := by
  induction xs using decode_induction (S := S) with
  | wait xs h => rw [decode_wait h]
  | skip xs h ih =>
    rw [decode_skip h]
    exact ih.trans (List.drop_suffix 1 xs)
  | emit xs b n h ih =>
    rw [decode_emit_snd h]
    exact ih.trans (List.drop_suffix n xs)

/-- A second call finds nothing and leaves what it was given. -/
lemma decode_residue (xs : List α) : decode S (decode S xs).2 = ([], (decode S xs).2) :=
  decode_wait (look_residue xs)

lemma look_nil : S.look [] = .wait := by
  cases h : S.look [] with
  | wait => rfl
  | skip => exact absurd rfl (S.skip_ne_nil h)
  | emit b n =>
    have h1 := S.emit_pos h
    have h2 := S.emit_le h
    simp at h2; omega

lemma decode_nil : decode S [] = ([], []) := decode_wait look_nil

/-- **Decoding resumes.** To decode a longer input is to decode the shorter one and then
what it left together with the rest. -/
theorem decode_append (xs ys : List α) :
    decode S (xs ++ ys) = ((decode S xs).1 ++ (decode S ((decode S xs).2 ++ ys)).1,
      (decode S ((decode S xs).2 ++ ys)).2) := by
  induction xs using decode_induction (S := S) with
  | wait xs h => simp [decode_wait h]
  | skip xs h ih =>
    have hx := List.length_pos_of_ne_nil (S.skip_ne_nil h)
    have hs : S.look (xs ++ ys) = .skip := by rw [S.stable (by simp [h]), h]
    rw [decode_skip hs, decode_skip h, List.drop_append_of_le_length (by omega), ih]
  | emit xs b n h ih =>
    have hs : S.look (xs ++ ys) = .emit b n := by rw [S.stable (by simp [h]), h]
    rw [decode_emit hs, decode_emit h, List.drop_append_of_le_length (S.emit_le h), ih]
    simp

/-! ### On the way -/

variable (S) in
/-- On the way through `xs` the decoder has found the frames and has `ys` left to look at. -/
inductive Reads : List α → List β → List α → Prop
  | here (xs : List α) : Reads xs [] xs
  | skip {xs ys : List α} {fs : List β} :
    S.look xs = .skip → Reads (xs.drop 1) fs ys → Reads xs fs ys
  | emit {xs ys : List α} {fs : List β} {b : β} {n : ℕ} :
    S.look xs = .emit b n → Reads (xs.drop n) fs ys → Reads xs (b :: fs) ys

namespace Reads

variable {xs ys zs : List α} {fs gs : List β}

lemma trans (h : Reads S xs fs ys) (h' : Reads S ys gs zs) : Reads S xs (fs ++ gs) zs := by
  induction h with
  | here => exact h'
  | skip hl _ ih => exact .skip hl (ih h')
  | emit hl _ ih => exact .emit hl (ih h')

/-- What arrives later does not change the way so far. -/
lemma append (h : Reads S xs fs ys) (zs : List α) : Reads S (xs ++ zs) fs (ys ++ zs) := by
  induction h with
  | here => exact .here _
  | skip hl _ ih =>
    have hx := List.length_pos_of_ne_nil (S.skip_ne_nil hl)
    refine .skip (by rw [S.stable (by simp [hl]), hl]) ?_
    rwa [List.drop_append_of_le_length (by omega)]
  | emit hl _ ih =>
    refine .emit (by rw [S.stable (by simp [hl]), hl]) ?_
    rwa [List.drop_append_of_le_length (S.emit_le hl)]

lemma suffix (h : Reads S xs fs ys) : ys <:+ xs := by
  induction h with
  | here => exact List.suffix_rfl
  | skip _ _ ih => exact ih.trans (List.drop_suffix _ _)
  | emit _ _ ih => exact ih.trans (List.drop_suffix _ _)

/-- What is left to look at holds the frames that are left to find. -/
lemma decode_eq (h : Reads S xs fs ys) :
    decode S xs = (fs ++ (decode S ys).1, (decode S ys).2) := by
  induction h with
  | here => rfl
  | skip hl _ ih => rw [decode_skip hl, ih]
  | emit hl _ ih => rw [decode_emit hl, ih, List.cons_append]

lemma prefix_decode (h : Reads S xs fs ys) : fs <+: (decode S xs).1 := by
  rw [h.decode_eq]
  exact List.prefix_append _ _

lemma decode_of_wait (h : Reads S xs fs ys) (hw : S.look ys = .wait) :
    decode S xs = (fs, ys) := by
  rw [h.decode_eq, decode_wait hw, List.append_nil]

end Reads

/-! ### Chunks -/

variable (S) in
/-- The chunks are appended to the buffer one at a time and decoded as they come: the
frames of each call, and the buffer after the last one. -/
def feed : List α → List (List α) → List (List β) × List α
  | buf, [] => ([], buf)
  | buf, c :: cs =>
    ((decode S (buf ++ c)).1 :: (feed (decode S (buf ++ c)).2 cs).1,
      (feed (decode S (buf ++ c)).2 cs).2)

/-- **Chunks do not matter.** On a buffer in which nothing is left to find, the chunks give
together the frames of the whole stream, and leave what the whole stream leaves. -/
theorem feed_eq_decode {buf : List α} (h : S.look buf = .wait) (cs : List (List α)) :
    (feed S buf cs).1.flatten = (decode S (buf ++ cs.flatten)).1 ∧
      (feed S buf cs).2 = (decode S (buf ++ cs.flatten)).2 := by
  induction cs generalizing buf with
  | nil => simp [feed, decode_wait h]
  | cons c cs ih =>
    obtain ⟨h1, h2⟩ := ih (look_residue (buf ++ c))
    rw [List.flatten_cons, ← List.append_assoc, decode_append (buf ++ c)]
    exact ⟨by simp [feed, h1], by simp [feed, h2]⟩

/-- After any chunks the scanner waits on the buffer. -/
lemma look_feed {buf : List α} (h : S.look buf = .wait) (cs : List (List α)) :
    S.look (feed S buf cs).2 = .wait := by
  rw [(feed_eq_decode h cs).2]
  exact look_residue _

/-- Where the lazier scanner `S` does not wait, `T` decides alike, so what `S` leaves
unread `T` can still finish. -/
lemma decode_refine (hST : ∀ xs, S.look xs ≠ .wait → T.look xs = S.look xs) (xs : List α) :
    decode T xs = ((decode S xs).1 ++ (decode T (decode S xs).2).1,
      (decode T (decode S xs).2).2) := by
  induction xs using decode_induction (S := S) with
  | wait xs h => simp [decode_wait h]
  | skip xs h ih =>
    have ht : T.look xs = .skip := by rw [hST xs (by simp [h]), h]
    rw [decode_skip h, decode_skip ht, ih]
  | emit xs b n h ih =>
    have ht : T.look xs = .emit b n := by rw [hST xs (by simp [h]), h]
    rw [decode_emit h, decode_emit ht, ih]
    simp

/-- **A lazier scanner emits the same frames, call by call.** The two buffers may differ:
the one of `T` is what `T` leaves of the one of `S`. -/
theorem feed_refine (hST : ∀ xs, S.look xs ≠ .wait → T.look xs = S.look xs)
    (hw : ∀ xs, S.look xs = .wait → (decode T xs).1 = []) {bufS bufT : List α}
    (hb : decode T bufS = ([], bufT)) (cs : List (List α)) :
    (feed S bufS cs).1 = (feed T bufT cs).1 := by
  induction cs generalizing bufS bufT with
  | nil => rfl
  | cons c cs ih =>
    have hT : decode T (bufS ++ c) = decode T (bufT ++ c) := by
      rw [decode_append, hb]; simp
    have hres := hw _ (look_residue (S := S) (bufS ++ c))
    have hS := decode_refine hST (bufS ++ c)
    rw [hres, List.append_nil] at hS
    have h1 : (decode S (bufS ++ c)).1 = (decode T (bufT ++ c)).1 := by rw [← hT, hS]
    have h2 : decode T (decode S (bufS ++ c)).2 = ([], (decode T (bufT ++ c)).2) := by
      rw [← hT, hS]; exact Prod.ext hres rfl
    simp [feed, h1, ih h2]

end StreamDecoder
