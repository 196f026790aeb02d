import DungeonCrawler.Lib.UnorderedMap

/-!
Two tables that invert each other: what keeps them inverse and what does not.
-/

namespace Finmap

variable {α β : Type*} [DecidableEq α] [DecidableEq β]
variable {f : Finmap fun _ : α => β} {g : Finmap fun _ : β => α} {a : α} {b : β}

/-- `f` takes `a` to `b` exactly when `g` takes `b` to `a`. -/
def Inverse (f : Finmap fun _ : α => β) (g : Finmap fun _ : β => α) : Prop :=
  ∀ a b, f.lookup a = some b ↔ g.lookup b = some a

namespace Inverse

lemma empty : Inverse (∅ : Finmap fun _ : α => β) (∅ : Finmap fun _ : β => α) := by
  intro a b
  simp

/-- A fresh pair of keys may be linked. -/
lemma insert (h : Inverse f g) (ha : a ∉ f) (hb : b ∉ g) :
    Inverse (f.insert a b) (g.insert b a) := by
  intro x y
  rw [lookup_insert_ite, lookup_insert_ite]
  split_ifs with hx hy hy
  · simp [hx, hy]
  · -- `y` would be linked to `a` already
    have := (h a y).not.mp (by rw [lookup_eq_none.mpr ha]; simp)
    subst hx
    simp [this, Ne.symm hy]
  · have := (h x b).not.mpr (by rw [lookup_eq_none.mpr hb]; simp)
    subst hy
    simp [this, Ne.symm hx]
  · exact h x y

/-- Linking keys with insertions that keep old entries is safe exactly when both keys are
free or both are taken. -/
lemma emplace_iff (h : Inverse f g) :
    Inverse (f.emplace a b) (g.emplace b a) ↔ (a ∈ f ↔ b ∈ g) := by
  by_cases ha : a ∈ f <;> by_cases hb : b ∈ g
  · simp [emplace_of_mem ha, emplace_of_mem hb, ha, hb, h]
  · -- `b` now leads to `a`, which leads elsewhere
    obtain ⟨b', hb'⟩ := mem_iff.mp ha
    rw [emplace_of_mem ha, emplace_of_notMem hb]
    refine iff_of_false (fun hi => hb ?_) (by simp [ha, hb])
    have hab : f.lookup a = some b := (hi a b).mpr (lookup_insert _)
    exact mem_of_lookup_eq_some ((h a b).mp hab)
  · obtain ⟨a', ha'⟩ := mem_iff.mp hb
    rw [emplace_of_notMem ha, emplace_of_mem hb]
    refine iff_of_false (fun hi => ha ?_) (by simp [ha, hb])
    have hba : g.lookup b = some a := (hi a b).mp (lookup_insert _)
    exact mem_of_lookup_eq_some ((h a b).mpr hba)
  · rw [emplace_of_notMem ha, emplace_of_notMem hb]
    exact iff_of_true (h.insert ha hb) (by simp [ha, hb])

/-- Two linked keys may be unlinked. -/
lemma erase (h : Inverse f g) (hb : g.lookup b = some a) :
    Inverse (f.erase a) (g.erase b) := by
  have ha := (h a b).mpr hb
  intro x y
  rw [lookup_erase_ite, lookup_erase_ite]
  split_ifs with hx hy hy
  · simp
  · -- only `b` is linked to `a`
    subst hx
    refine iff_of_false (by simp) fun hy' => hy ?_
    simpa [ha, eq_comm] using (h x y).mpr hy'
  · subst hy
    refine iff_of_false (fun hx' => hx ?_) (by simp)
    simpa [hb, eq_comm] using (h x y).mp hx'
  · exact h x y

end Inverse

end Finmap
