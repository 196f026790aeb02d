import Mathlib.Data.List.Forall2
import Mathlib.Tactic

/-!
Mapping a list with a function that may fail, which fails if it does on any element.
-/

namespace List

variable {α β : Type}

/-- The results are those of the elements, in order. -/
lemma mapM_eq_some_iff {f : α → Option β} {l : List α} {l' : List β} :
    l.mapM f = some l' ↔ Forall₂ (fun a b => f a = some b) l l' := by
  induction l generalizing l' with
  | nil =>
    rw [forall₂_nil_left_iff]
    exact ⟨fun h => (Option.some.inj h).symm, fun h => by rw [h]; rfl⟩
  | cons a l ih =>
    rw [mapM_cons, forall₂_cons_left_iff]
    constructor
    · intro h
      obtain ⟨b, hb, h⟩ := Option.bind_eq_some_iff.mp h
      obtain ⟨bs, hbs, h⟩ := Option.bind_eq_some_iff.mp h
      exact ⟨b, bs, hb, ih.mp hbs, (Option.some.inj h).symm⟩
    · rintro ⟨b, bs, hb, hbs, rfl⟩
      rw [hb, ih.mpr hbs]
      rfl

/-- What was written element by element is read back. -/
lemma mapM_map_of_forall {f : α → Option β} {g : β → α} (l : List β)
    (h : ∀ b ∈ l, f (g b) = some b) : (l.map g).mapM f = some l := by
  rw [mapM_eq_some_iff, forall₂_map_left_iff, forall₂_same]
  exact h

end List
