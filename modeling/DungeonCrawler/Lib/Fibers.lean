import DungeonCrawler.Lib.UnorderedMap

/-!
A table of members kept beside its inverse: one table leads from each member to its group,
the other from each group to something that knows the members.
-/

namespace Finmap

variable {κ ι σ : Type*} [DecidableEq κ] [DecidableEq ι]
variable {mem : σ → κ → Prop} {f : Finmap fun _ : κ => ι} {g : Finmap fun _ : ι => σ}
variable {k : κ} {i : ι} {v v' : σ}

/-- `f` takes `k` to `i` exactly when `k` is a member of what `g` stores under `i`. -/
def Fibers (mem : σ → κ → Prop) (f : Finmap fun _ : κ => ι) (g : Finmap fun _ : ι => σ) :
    Prop := ∀ k i, f.lookup k = some i ↔ ∃ v, g.lookup i = some v ∧ mem v k

namespace Fibers

lemma empty : Fibers mem (∅ : Finmap fun _ : κ => ι) (∅ : Finmap fun _ : ι => σ) := by
  intro k i
  simp

lemma not_mem_of_notMem (h : Fibers mem f g) (hk : k ∉ f) (hi : g.lookup i = some v) :
    ¬ mem v k := fun hm => by
  have := (h k i).mpr ⟨v, hi, hm⟩
  rw [lookup_eq_none.mpr hk] at this
  cases this

lemma lookup_eq (h : Fibers mem f g) (hi : g.lookup i = some v) (hm : mem v k) :
    f.lookup k = some i := (h k i).mpr ⟨v, hi, hm⟩

lemma mem_of_lookup (h : Fibers mem f g) (hk : f.lookup k = some i)
    (hi : g.lookup i = some v) : mem v k := by
  obtain ⟨w, hw, hm⟩ := (h k i).mp hk
  rw [hi] at hw
  rwa [Option.some.inj hw]

/-- A new member joins a group, which may be new too. -/
lemma join (h : Fibers mem f g) (hk : k ∉ f)
    (hv : ∀ k', mem v' k' ↔ k' = k ∨ ∃ v, g.lookup i = some v ∧ mem v k') :
    Fibers mem (f.insert k i) (g.insert i v') := by
  intro k' i'
  rw [lookup_insert_ite, lookup_insert_ite]
  by_cases hi : i' = i
  · subst hi
    have hv' := hv k'
    rw [← h k' i'] at hv'
    rcases eq_or_ne k' k with rfl | hk'
    · simp [hv']
    · simp [hv', hk']
  · rw [if_neg hi]
    rcases eq_or_ne k' k with rfl | hk'
    · -- the new member was in no group
      rw [if_pos rfl, ← h k' i', lookup_eq_none.mpr hk]
      simpa using Ne.symm hi
    · rw [if_neg hk']
      exact h k' i'

/-- A member leaves its group. -/
lemma leave (h : Fibers mem f g) (hk : f.lookup k = some i) (hi : g.lookup i = some v)
    (hv : ∀ k', mem v' k' ↔ k' ≠ k ∧ mem v k') :
    Fibers mem (f.erase k) (g.insert i v') := by
  intro k' i'
  rw [lookup_erase_ite, lookup_insert_ite]
  by_cases hi' : i' = i
  · subst hi'
    rcases eq_or_ne k' k with rfl | hk'
    · simp [hv]
    · simp [h k' i', hi, hv, hk']
  · rw [if_neg hi']
    rcases eq_or_ne k' k with rfl | hk'
    · -- the member was in its group only
      rw [if_pos rfl, ← h k' i', hk]
      simpa using Ne.symm hi'
    · rw [if_neg hk']
      exact h k' i'

/-- What is stored for a group may change as long as its members do not. -/
lemma update (h : Fibers mem f g) (hi : g.lookup i = some v)
    (hv : ∀ k', mem v' k' ↔ mem v k') : Fibers mem f (g.insert i v') := by
  intro k' i'
  rw [lookup_insert_ite]
  split_ifs with hi'
  · rw [hi', h k' i, hi]
    simp [hv]
  · exact h k' i'

/-- A group without members may go. -/
lemma dissolve (h : Fibers mem f g) (hi : g.lookup i = some v) (hv : ∀ k', ¬ mem v k') :
    Fibers mem f (g.erase i) := by
  intro k' i'
  rw [lookup_erase_ite]
  split_ifs with hi'
  · rw [hi', h k' i, hi]
    simp [hv]
  · exact h k' i'

/-- A new group, with all its members new. -/
lemma found {ks : List κ} (h : Fibers mem f g) (hi : i ∉ g) (hk : ∀ k ∈ ks, k ∉ f)
    (hv : ∀ k, mem v k ↔ k ∈ ks) :
    Fibers mem (ks.foldl (fun f k => f.emplace k i) f) (g.insert i v) := by
  intro k' i'
  rw [lookup_foldl_emplace ks hk, lookup_insert_ite]
  by_cases hi' : i' = i
  · subst hi'
    by_cases hk' : k' ∈ ks
    · simp [hk', hv]
    · -- nobody was in the group before
      have : f.lookup k' ≠ some i' := fun hf => by
        obtain ⟨w, hw, -⟩ := (h k' i').mp hf
        exact hi (mem_of_lookup_eq_some hw)
      simp [hk', hv, this]
  · rw [if_neg hi']
    by_cases hk' : k' ∈ ks
    · rw [if_pos hk', ← h k' i', lookup_eq_none.mpr (hk k' hk')]
      simpa using Ne.symm hi'
    · rw [if_neg hk']
      exact h k' i'

/-- A group goes with all its members. -/
lemma disband {ks : List κ} (h : Fibers mem f g) (hi : g.lookup i = some v)
    (hv : ∀ k, mem v k ↔ k ∈ ks) :
    Fibers mem (ks.foldl (fun f k => f.erase k) f) (g.erase i) := by
  intro k' i'
  have hgroup : f.lookup k' = some i ↔ k' ∈ ks := by
    rw [h k' i, ← hv]
    simp [hi]
  rw [lookup_foldl_erase, lookup_erase_ite]
  by_cases hk' : k' ∈ ks <;> by_cases hi' : i' = i
  · simp [hk', hi']
  · -- a member of the group was in no other
    rw [if_pos hk', if_neg hi', ← h k' i', hgroup.mpr hk']
    simpa using Ne.symm hi'
  · subst hi'
    simp [hk', hgroup]
  · rw [if_neg hk', if_neg hi']
    exact h k' i'

end Fibers

end Finmap
