import Mathlib.Tactic

/-!
Points that hits take away, down to none.

Whoever has points is dead from the hit on that leaves none. The order of the hits does not
matter, only their sum: points that are cut off at zero at every hit are what is left when the
whole sum is cut off once.
-/

structure Vitals where
  points : ℕ
  dead : Bool
  deriving DecidableEq

namespace Vitals

/-- Points before the first hit, which may be none. -/
def fresh (points : ℕ) : Vitals := ⟨points, false⟩

def hit (v : Vitals) (damage : ℕ) : Vitals :=
  ⟨v.points - damage, v.dead || v.points - damage = 0⟩

/-- After all the hits. -/
def hits (v : Vitals) (damages : List ℕ) : Vitals := damages.foldl hit v

@[simp] lemma hits_nil (v : Vitals) : v.hits [] = v := rfl

lemma hits_cons (v : Vitals) (damage : ℕ) (damages : List ℕ) :
    v.hits (damage :: damages) = (v.hit damage).hits damages := rfl

lemma hits_snoc (v : Vitals) (damages : List ℕ) (damage : ℕ) :
    v.hits (damages ++ [damage]) = (v.hits damages).hit damage := by
  simp [hits]

lemma points_hits (v : Vitals) (damages : List ℕ) :
    (v.hits damages).points = v.points - damages.sum := by
  induction damages using List.reverseRecOn with
  | nil => rfl
  | append_singleton damages damage ih =>
    rw [hits_snoc, hit, ih, List.sum_append, List.sum_singleton, Nat.sub_sub]

/-- Only a hit kills, and only one that leaves no points. -/
lemma dead_hits_fresh (points : ℕ) (damages : List ℕ) :
    ((fresh points).hits damages).dead ↔
      damages ≠ [] ∧ ((fresh points).hits damages).points = 0 := by
  induction damages using List.reverseRecOn with
  | nil => simp [fresh]
  | append_singleton damages damage ih =>
    rw [hits_snoc, hit, Bool.or_eq_true, decide_eq_true_eq, ih]
    simp only [ne_eq, List.append_eq_nil_iff, List.cons_ne_nil, and_false, not_false_eq_true,
      true_and]
    omega

end Vitals
