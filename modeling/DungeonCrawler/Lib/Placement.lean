import Mathlib.Logic.Function.Basic
import Mathlib.Logic.Relation
import Mathlib.Data.Set.Basic
import Mathlib.Tactic

/-!
Pieces on cells: a placement says where each piece stands, if it stands anywhere. Pieces are
put, for the first time or again, on cells of the floor that nobody stands on.
-/

namespace Placement

variable {ι α : Type*} {floor : Set α} {place place' : ι → Option α} {i : ι} {c : α}

/-- Every piece stands on the floor and no two on the same cell. -/
structure Legal (floor : Set α) (place : ι → Option α) : Prop where
  on_floor : ∀ i c, place i = some c → c ∈ floor
  apart : ∀ i j c, place i = some c → place j = some c → i = j

def Vacant (place : ι → Option α) (c : α) : Prop := ∀ i, place i ≠ some c

lemma Legal.empty : Legal floor (fun _ : ι => none) where
  on_floor := by simp
  apart := by simp

/-- A piece is put on a vacant cell of the floor; the others stay. -/
def Put (floor : Set α) (place place' : ι → Option α) : Prop :=
  ∃ i c, c ∈ floor ∧ Vacant place c ∧ place' i = some c ∧ ∀ j, j ≠ i → place' j = place j

lemma Put.legal (h : Legal floor place) (hp : Put floor place place') :
    Legal floor place' := by
  obtain ⟨i, c, hc, hv, hi, hj⟩ := hp
  constructor
  · intro j d hd
    by_cases hji : j = i
    · rw [hji, hi] at hd
      rwa [← Option.some.inj hd]
    · rw [hj j hji] at hd
      exact h.on_floor j d hd
  · intro j k d hjd hkd
    by_cases hji : j = i <;> by_cases hki : k = i
    · rw [hji, hki]
    · -- `k` would stand on the vacant cell
      rw [hji, hi] at hjd
      rw [hj k hki, ← hjd] at hkd
      exact absurd hkd (hv k)
    · rw [hki, hi] at hkd
      rw [hj j hji, ← hkd] at hjd
      exact absurd hjd (hv j)
    · rw [hj j hji] at hjd
      rw [hj k hki] at hkd
      exact h.apart j k d hjd hkd

/-- A sequence of puts. -/
def Puts (floor : Set α) : (ι → Option α) → (ι → Option α) → Prop :=
  Relation.ReflTransGen (Put floor)

lemma Puts.refl : Puts floor place place := Relation.ReflTransGen.refl

lemma Puts.trans {place'' : ι → Option α} (h : Puts floor place place')
    (h' : Puts floor place' place'') : Puts floor place place'' :=
  Relation.ReflTransGen.trans h h'

lemma Puts.put (hc : c ∈ floor) (hv : Vacant place c) (hi : place' i = some c)
    (hj : ∀ j, j ≠ i → place' j = place j) : Puts floor place place' :=
  Relation.ReflTransGen.single ⟨i, c, hc, hv, hi, hj⟩

/-- **Puts keep a placement legal.** -/
theorem Puts.legal (hp : Puts floor place place') (h : Legal floor place) :
    Legal floor place' := by
  induction hp with
  | refl => exact h
  | tail _ hput ih => exact hput.legal ih

end Placement
