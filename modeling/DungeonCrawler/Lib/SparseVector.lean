import Mathlib.Tactic

/-!
Vectors with places that may be empty, and that grow where a place is needed.
-/

namespace SparseVector

variable {α : Type*} {v : List (Option α)} {i j n : ℕ}

/-- What is at a place; nothing beyond the end. -/
def get (v : List (Option α)) (i : ℕ) : Option α := v[i]?.join

/-- The vector with at least `n` places, the new ones empty. -/
def resize (v : List (Option α)) (n : ℕ) : List (Option α) :=
  v ++ List.replicate (n - v.length) none

@[simp] lemma get_nil (i : ℕ) : get ([] : List (Option α)) i = none := rfl

@[simp] lemma get_resize (v : List (Option α)) (n i : ℕ) : get (resize v n) i = get v i := by
  unfold get resize
  rcases lt_or_ge i v.length with hi | hi
  · rw [List.getElem?_append_left hi]
  · rw [List.getElem?_append_right hi, List.getElem?_eq_none hi, List.getElem?_replicate]
    split_ifs <;> rfl

lemma lt_length_resize (v : List (Option α)) (h : i < n) : i < (resize v n).length := by
  rw [resize, List.length_append, List.length_replicate]
  omega

lemma lt_length_of_get {a : α} (h : get v i = some a) : i < v.length := by
  by_contra hi
  rw [get, List.getElem?_eq_none (not_lt.mp hi)] at h
  cases h

lemma get_set (h : i < v.length) (a : α) (j : ℕ) :
    get (v.set i (some a)) j = if j = i then some a else get v j := by
  unfold get
  split_ifs with hj
  · rw [hj, List.getElem?_set_self h]
    rfl
  · rw [List.getElem?_set_ne (Ne.symm hj)]

lemma get_map {β : Type*} (f : α → β) (v : List (Option α)) (i : ℕ) :
    get (v.map (Option.map f)) i = (get v i).map f := by
  unfold get
  rw [List.getElem?_map]
  rcases v[i]? with _ | _ | a <;> rfl

end SparseVector
