import Mathlib.Tactic

/-!
Integral types of a machine: ranges of numbers, and expressions whose exact result may lie
outside the range. Such an expression of a signed type has no value; of an unsigned type it
wraps around.
-/

/-- An integral type: the number each of its values stands for, its bounds, and the value of
an expression by its exact result, if it has one. -/
structure IntegralType (T : Type) where
  toInt : T → ℤ
  min : T
  max : T
  eval : ℤ → Option T
  min_le : ∀ a, toInt min ≤ toInt a
  le_max : ∀ a, toInt a ≤ toInt max
  min_nonpos : toInt min ≤ 0
  max_nonneg : 0 ≤ toInt max
  eval_toInt : ∀ a, eval (toInt a) = some a
  exists_toInt : ∀ z, toInt min ≤ z → z ≤ toInt max → ∃ a, toInt a = z

namespace IntegralType

variable {T : Type} (I : IntegralType T)

/-- The value of `a + b`. -/
def add (a b : T) : Option T := I.eval (I.toInt a + I.toInt b)

/-- The value of `a - b`. -/
def sub (a b : T) : Option T := I.eval (I.toInt a - I.toInt b)

/-- The conjunction that looks at its second part only where the first holds. -/
def andAlso (p : Bool) (q : Option Bool) : Option Bool := if p then q else some false

/-- The number of the type nearest to `z`. -/
def clamp (z : ℤ) : ℤ := Max.max (I.toInt I.min) (Min.min z (I.toInt I.max))

lemma toInt_injective : Function.Injective I.toInt := by
  intro a b h
  have := I.eval_toInt a
  rw [h, I.eval_toInt b] at this
  exact (Option.some.inj this).symm

/-- An expression inside the range has its exact result for value. -/
lemma eval_of_mem {z : ℤ} (hmin : I.toInt I.min ≤ z) (hmax : z ≤ I.toInt I.max) :
    ∃ c, I.eval z = some c ∧ I.toInt c = z := by
  obtain ⟨c, rfl⟩ := I.exists_toInt z hmin hmax
  exact ⟨c, I.eval_toInt c, rfl⟩

lemma clamp_of_mem {z : ℤ} (hmin : I.toInt I.min ≤ z) (hmax : z ≤ I.toInt I.max) :
    I.clamp z = z := by
  unfold clamp
  omega

lemma clamp_of_gt {z : ℤ} (h : I.toInt I.max < z) : I.clamp z = I.toInt I.max := by
  have := I.min_le I.max
  unfold clamp
  omega

lemma clamp_of_lt {z : ℤ} (h : z < I.toInt I.min) : I.clamp z = I.toInt I.min := by
  have := I.min_le I.max
  unfold clamp
  omega

/-- A condition on an expression that stays inside the range wherever it is looked at. -/
lemma andAlso_eval {p : Bool} {z : ℤ} (test : ℤ → Bool)
    (h : p = true → I.toInt I.min ≤ z ∧ z ≤ I.toInt I.max) :
    andAlso p ((I.eval z).map fun c => test (I.toInt c)) = some (p && test z) := by
  cases p with
  | false => rfl
  | true =>
    obtain ⟨c, hc, hcv⟩ := I.eval_of_mem (h rfl).1 (h rfl).2
    simp [andAlso, hc, hcv]

end IntegralType
