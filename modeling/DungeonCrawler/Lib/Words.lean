import Mathlib.Data.List.TakeWhile
import Mathlib.Tactic

/-!
The words of a list, which breaks separate, and taking them off the front one by one.
-/

namespace Words

variable {α : Type*} {brk : α → Bool} {l w rest : List α}

/-- The words, without those that are empty. -/
def words (brk : α → Bool) (l : List α) : List (List α) :=
  (l.splitOnP brk).filter fun w => !w.isEmpty

/-- The first word and what comes after it; breaks before the word are skipped. -/
def takeWord (brk : α → Bool) (l : List α) : Option (List α × List α) :=
  let l := l.dropWhile brk
  if l.isEmpty then none
  else some (l.takeWhile fun c => !brk c, l.dropWhile fun c => !brk c)

@[simp] lemma words_nil : words brk [] = [] := by simp [words, List.splitOnP_nil]

/-- A break separates words and belongs to none. -/
lemma words_append_break {c : α} (hc : brk c) (l l' : List α) :
    words brk (l ++ c :: l') = words brk l ++ words brk l' := by
  rw [words, List.splitOnP_append_cons l l' hc, List.filter_append]
  rfl

lemma words_cons_break {c : α} (hc : brk c) (l : List α) : words brk (c :: l) = words brk l := by
  have h := words_append_break hc [] l
  rwa [List.nil_append, words_nil, List.nil_append] at h

lemma words_dropWhile (brk : α → Bool) (l : List α) :
    words brk (l.dropWhile brk) = words brk l := by
  induction l with
  | nil => rfl
  | cons c l ih =>
    rw [List.dropWhile_cons]
    split_ifs with hc
    · rw [ih, words_cons_break hc]
    · rfl

lemma words_of_no_break (hne : w ≠ []) (h : ∀ c ∈ w, brk c = false) : words brk w = [w] := by
  rw [words, List.splitOnP_eq_singleton fun c hc => by simp [h c hc]]
  simp [hne]

/-- A word taken is not empty and has no break, and a break comes after it, if anything. -/
lemma takeWord_spec (h : takeWord brk l = some (w, rest)) :
    l.dropWhile brk = w ++ rest ∧ w ≠ [] ∧ (∀ c ∈ w, brk c = false) ∧
      ∀ c ∈ rest.head?, brk c := by
  unfold takeWord at h
  dsimp only at h
  split_ifs at h with hne
  obtain ⟨rfl, rfl⟩ := Prod.mk.inj (Option.some.inj h)
  refine ⟨List.takeWhile_append_dropWhile.symm, ?_, fun c hc => ?_, fun c hc => ?_⟩
  · obtain ⟨c, l', hl⟩ := List.exists_cons_of_ne_nil (mt List.isEmpty_iff.mpr hne)
    have hc := List.head?_dropWhile_not brk l
    rw [hl, List.head?_cons] at hc
    have hc : brk c = false := by simpa using hc
    rw [hl, List.takeWhile_cons, if_pos (by simp [hc])]
    exact List.cons_ne_nil _ _
  · simpa using List.mem_takeWhile_imp hc
  · have hc' := List.head?_dropWhile_not (fun c => !brk c) (l.dropWhile brk)
    rw [Option.mem_def.mp hc] at hc'
    simpa using hc'

/-- The word taken is the first one, and the others are in the rest. -/
lemma words_of_takeWord (h : takeWord brk l = some (w, rest)) :
    words brk l = w :: words brk rest := by
  obtain ⟨hl, hne, hw, hrest⟩ := takeWord_spec h
  rw [← words_dropWhile brk l, hl]
  cases rest with
  | nil => rw [List.append_nil, words_of_no_break hne hw, words_nil]
  | cons c rest =>
    have hc := hrest c rfl
    rw [words_append_break hc, words_of_no_break hne hw, words_cons_break hc]
    rfl

/-- The first of the words can be taken. -/
lemma takeWord_of_words {ws : List (List α)} (h : words brk l = w :: ws) :
    ∃ rest, takeWord brk l = some (w, rest) ∧ words brk rest = ws := by
  cases ht : takeWord brk l with
  | none =>
    unfold takeWord at ht
    dsimp only at ht
    split_ifs at ht with hempty
    rw [← words_dropWhile, List.isEmpty_iff.mp hempty, words_nil] at h
    cases h
  | some taken =>
    obtain ⟨w', rest⟩ := taken
    obtain ⟨rfl, hrest⟩ := List.cons.inj ((words_of_takeWord ht).symm.trans h)
    exact ⟨rest, rfl, hrest⟩

end Words
