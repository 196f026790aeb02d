import Mathlib.Data.Finmap
import Mathlib.Tactic

/-!
Hash tables as finite maps, and the order in which a program visits their keys.

A table is a `Finmap` with a constant value type. Looking up, inserting and erasing are
those of Mathlib; what is added here is insertion that keeps an existing entry, the update
of an entry in place, and the size. The order of iteration of a hash table is not specified, so a
program that iterates takes it as an argument.
-/

namespace Finmap

variable {κ ν : Type*} [DecidableEq κ]

lemma lookup_insert_ite (m : Finmap fun _ : κ => ν) (k k' : κ) (v : ν) :
    (m.insert k v).lookup k' = if k' = k then some v else m.lookup k' := by
  split_ifs with h
  · subst h; exact lookup_insert m
  · exact lookup_insert_of_ne m h

lemma lookup_erase_ite (m : Finmap fun _ : κ => ν) (k k' : κ) :
    (m.erase k).lookup k' = if k' = k then none else m.lookup k' := by
  split_ifs with h
  · subst h; exact lookup_erase k' m
  · exact lookup_erase_ne h

/-- Insertion that does nothing when the key is taken. -/
def emplace (m : Finmap fun _ : κ => ν) (k : κ) (v : ν) : Finmap fun _ : κ => ν :=
  if k ∈ m then m else m.insert k v

lemma emplace_of_mem {m : Finmap fun _ : κ => ν} {k : κ} (h : k ∈ m) (v : ν) :
    m.emplace k v = m := if_pos h

lemma emplace_of_notMem {m : Finmap fun _ : κ => ν} {k : κ} (h : k ∉ m) (v : ν) :
    m.emplace k v = m.insert k v := if_neg h

lemma lookup_emplace (m : Finmap fun _ : κ => ν) (k k' : κ) (v : ν) :
    (m.emplace k v).lookup k' =
      if k' = k then some ((m.lookup k).getD v) else m.lookup k' := by
  by_cases hk : k ∈ m
  · obtain ⟨w, hw⟩ := mem_iff.mp hk
    rw [emplace_of_mem hk]
    split_ifs with h
    · rw [h, hw]; rfl
    · rfl
  · rw [emplace_of_notMem hk, lookup_insert_ite, lookup_eq_none.mpr hk]; rfl

/-- The entry of a key is replaced by its image; a missing key stays missing. -/
def modify (m : Finmap fun _ : κ => ν) (k : κ) (f : ν → ν) : Finmap fun _ : κ => ν :=
  match m.lookup k with
  | some v => m.insert k (f v)
  | none => m

lemma modify_of_lookup {m : Finmap fun _ : κ => ν} {k : κ} {v : ν} (h : m.lookup k = some v)
    (f : ν → ν) : m.modify k f = m.insert k (f v) := by
  simp only [modify, h]

lemma lookup_modify (m : Finmap fun _ : κ => ν) (k k' : κ) (f : ν → ν) :
    (m.modify k f).lookup k' = if k' = k then (m.lookup k).map f else m.lookup k' := by
  unfold modify
  cases hk : m.lookup k with
  | some v => simp [lookup_insert_ite]
  | none =>
    split_ifs with h
    · rw [h, hk]; rfl
    · rfl

lemma mem_modify {m : Finmap fun _ : κ => ν} {k k' : κ} {f : ν → ν} :
    k' ∈ m.modify k f ↔ k' ∈ m := by
  rw [← lookup_isSome, ← lookup_isSome, lookup_modify]
  split_ifs with h
  · rw [h, Option.isSome_map]
  · rfl

lemma keys_insert (m : Finmap fun _ : κ => ν) (k : κ) (v : ν) :
    (m.insert k v).keys = Insert.insert k m.keys := by
  ext k'
  simp [mem_keys, mem_insert]

lemma erase_insert_of_notMem {m : Finmap fun _ : κ => ν} {k : κ} (h : k ∉ m) (v : ν) :
    (m.insert k v).erase k = m := by
  refine ext_lookup fun k' => ?_
  rw [lookup_erase_ite, lookup_insert_ite]
  split_ifs with hk
  · rw [hk, lookup_eq_none.mpr h]
  · rfl

lemma erase_of_notMem {m : Finmap fun _ : κ => ν} {k : κ} (h : k ∉ m) : m.erase k = m := by
  refine ext_lookup fun k' => ?_
  rw [lookup_erase_ite]
  split_ifs with hk
  · rw [hk, lookup_eq_none.mpr h]
  · rfl

/-! ### Several keys at once -/

lemma lookup_foldl_erase (ks : List κ) (m : Finmap fun _ : κ => ν) (k : κ) :
    (ks.foldl (fun m k => m.erase k) m).lookup k = if k ∈ ks then none else m.lookup k := by
  induction ks generalizing m with
  | nil => simp
  | cons a ks ih =>
    rw [List.foldl_cons, ih, lookup_erase_ite]
    by_cases hk : k ∈ ks <;> by_cases ha : k = a <;> simp [hk, ha]

/-- Keys that are not taken all get the value. -/
lemma lookup_foldl_emplace (ks : List κ) {m : Finmap fun _ : κ => ν} (h : ∀ k ∈ ks, k ∉ m)
    (v : ν) (k : κ) :
    (ks.foldl (fun m k => m.emplace k v) m).lookup k =
      if k ∈ ks then some v else m.lookup k := by
  have emplaced : ∀ (ks : List κ) (m : Finmap fun _ : κ => ν),
      (∀ k ∈ ks, k ∉ m ∨ m.lookup k = some v) →
      (ks.foldl (fun m k => m.emplace k v) m).lookup k =
        if k ∈ ks then some v else m.lookup k := by
    intro ks
    induction ks with
    | nil => simp
    | cons a ks ih =>
      intro m h
      have ha : (m.lookup a).getD v = v := by
        rcases h a (List.mem_cons_self ..) with ha | ha
        · rw [lookup_eq_none.mpr ha]; rfl
        · rw [ha]; rfl
      rw [List.foldl_cons, ih, lookup_emplace, ha]
      · by_cases hk : k ∈ ks <;> by_cases hka : k = a <;> simp [hk, hka]
      · -- the rest may hold the first key again
        intro b hb
        rcases eq_or_ne b a with rfl | hba
        · right
          rw [lookup_emplace, if_pos rfl, ha]
        · rw [← lookup_eq_none, lookup_emplace, if_neg hba, lookup_eq_none]
          exact h b (List.mem_cons_of_mem _ hb)
  exact emplaced ks m fun k hk => Or.inl (h k hk)

/-- The number of entries. -/
def size (m : Finmap fun _ : κ => ν) : ℕ := m.keys.card

lemma size_insert_of_notMem {m : Finmap fun _ : κ => ν} {k : κ} (h : k ∉ m) (v : ν) :
    (m.insert k v).size = m.size + 1 := by
  rw [size, keys_insert, Finset.card_insert_of_notMem (by rwa [mem_keys])]; rfl

lemma size_erase_of_mem {m : Finmap fun _ : κ => ν} {k : κ} (h : k ∈ m) :
    (m.erase k).size + 1 = m.size := by
  rw [size, keys_erase]
  exact Finset.card_erase_add_one (by rwa [mem_keys])

omit [DecidableEq κ] in
lemma size_eq_zero {m : Finmap fun _ : κ => ν} : m.size = 0 ↔ ∀ k, k ∉ m := by
  simp [size, Finset.eq_empty_iff_forall_notMem, mem_keys]

end Finmap

/-- An order in which a hash table is visited. All that is known of it is that every key
comes up exactly once. -/
structure IterOrder (κ : Type*) where
  list : Finset κ → List κ
  nodup_list : ∀ s, (list s).Nodup
  mem_list : ∀ s k, k ∈ list s ↔ k ∈ s

namespace IterOrder

noncomputable instance {κ : Type*} : Inhabited (IterOrder κ) :=
  ⟨⟨Finset.toList, Finset.nodup_toList, fun _ _ => Finset.mem_toList⟩⟩

/-- The keys in the order of their numbers. -/
def sortedBy {κ : Type*} (f : κ → ℕ) (hf : f.Injective) : IterOrder κ where
  list s := Quot.liftOn s.1 (List.insertionSort (Order.Preimage f (· ≤ ·))) fun l l' h => by
    have sorted (l : List κ) := List.pairwise_insertionSort (Order.Preimage f (· ≤ ·)) l
    have perm := (List.perm_insertionSort (Order.Preimage f (· ≤ ·)) l).trans
      (h.trans (List.perm_insertionSort (Order.Preimage f (· ≤ ·)) l').symm)
    exact perm.eq_of_pairwise (fun a b _ _ h h' => hf (le_antisymm h h')) (sorted l) (sorted l')
  nodup_list := by
    rintro ⟨⟨l⟩, hl⟩
    exact (List.perm_insertionSort _ l).nodup_iff.mpr hl
  mem_list := by
    rintro ⟨⟨l⟩, hl⟩ k
    exact (List.perm_insertionSort _ l).mem_iff

variable {κ ν : Type*} [DecidableEq κ] (ord : IterOrder κ)

/-- The first key visited, if there is one. -/
def first (s : Finset κ) : Option κ := (ord.list s).head?

omit [DecidableEq κ] in
lemma first_mem {s : Finset κ} {k : κ} (h : ord.first s = some k) : k ∈ s :=
  (ord.mem_list s k).mp (List.mem_of_mem_head? h)

omit [DecidableEq κ] in
lemma first_isSome {s : Finset κ} {k : κ} (h : k ∈ s) : ∃ k', ord.first s = some k' := by
  have hk := (ord.mem_list s k).mpr h
  cases hl : ord.list s with
  | nil => simp [hl] at hk
  | cons a l => exact ⟨a, by simp [first, hl]⟩

omit [DecidableEq κ] in
lemma list_singleton (k : κ) : ord.list {k} = [k] :=
  List.perm_singleton.mp <| (List.perm_ext_iff_of_nodup (ord.nodup_list _)
    (List.nodup_singleton k)).mpr fun k' => by simp [ord.mem_list]

omit [DecidableEq κ] in
/-- A loop whose body is silent about all keys but one says what it says of that one. -/
lemma flatMap_eq {α : Type*} {s : Finset κ} {k : κ} {f : κ → List α} (hk : k ∈ s)
    (h : ∀ k' ≠ k, f k' = []) : (ord.list s).flatMap f = f k := by
  obtain ⟨before, after, hl⟩ := List.append_of_mem ((ord.mem_list s k).mpr hk)
  have hnd := ord.nodup_list s
  rw [hl] at hnd ⊢
  obtain ⟨hb, ha⟩ : k ∉ before ∧ k ∉ after := by
    simp only [List.nodup_append, List.nodup_cons] at hnd
    exact ⟨fun hm => hnd.2.2 k hm k (List.mem_cons_self ..) rfl, hnd.2.1.1⟩
  rw [List.flatMap_append, List.flatMap_cons,
    List.flatMap_eq_nil_iff.mpr fun k' hk' => h k' (ne_of_mem_of_not_mem hk' hb),
    List.flatMap_eq_nil_iff.mpr fun k' hk' => h k' (ne_of_mem_of_not_mem hk' ha),
    List.nil_append, List.append_nil]

lemma list_pair {k k' : κ} (h : k ≠ k') :
    ord.list {k, k'} = [k, k'] ∨ ord.list {k, k'} = [k', k] := by
  have perm : (ord.list {k, k'}).Perm [k, k'] :=
    (List.perm_ext_iff_of_nodup (ord.nodup_list _) (by simp [h])).mpr fun a => by
      simp [ord.mem_list]
  obtain ⟨a, b, hab⟩ := List.length_eq_two.mp perm.length_eq
  rw [hab] at perm ⊢
  have ha : a = k ∨ a = k' := by simpa using perm.subset (List.mem_cons_self ..)
  rcases ha with rfl | rfl
  · exact Or.inl (by rw [List.singleton_perm_singleton.mp (List.perm_cons a |>.mp perm)])
  · have := List.perm_cons a |>.mp (perm.trans (List.Perm.swap ..))
    exact Or.inr (by rw [List.singleton_perm_singleton.mp this])

/-- The entries in the order of the visit. -/
def entries (m : Finmap fun _ : κ => ν) : List (κ × ν) :=
  (ord.list m.keys).filterMap fun k => (m.lookup k).map (Prod.mk k)

lemma mem_entries {m : Finmap fun _ : κ => ν} {k : κ} {v : ν} :
    (k, v) ∈ ord.entries m ↔ m.lookup k = some v := by
  constructor
  · intro h
    obtain ⟨a, -, ha⟩ := List.mem_filterMap.mp h
    obtain ⟨w, hw, hwa⟩ := Option.map_eq_some_iff.mp ha
    obtain ⟨rfl, rfl⟩ := Prod.mk.inj hwa
    exact hw
  · intro h
    refine List.mem_filterMap.mpr ⟨k, ?_, by simp [h]⟩
    rw [ord.mem_list, Finmap.mem_keys]
    exact Finmap.mem_of_lookup_eq_some h

lemma map_fst_entries (m : Finmap fun _ : κ => ν) :
    (ord.entries m).map Prod.fst = ord.list m.keys := by
  have key : ∀ l : List κ, (∀ k ∈ l, k ∈ m) →
      (l.filterMap fun k => (m.lookup k).map (Prod.mk k)).map Prod.fst = l := by
    intro l hl
    induction l with
    | nil => rfl
    | cons k l ih =>
      obtain ⟨v, hv⟩ := Finmap.mem_iff.mp (hl k (List.mem_cons_self ..))
      simp [hv, ih fun k hk => hl k (List.mem_cons_of_mem _ hk)]
  exact key _ fun k hk => Finmap.mem_keys.mp ((ord.mem_list m.keys k).mp hk)

lemma entries_singleton (k : κ) (v : ν) :
    ord.entries ((∅ : Finmap fun _ : κ => ν).insert k v) = [(k, v)] := by
  rw [entries, Finmap.keys_insert, Finmap.keys_empty, insert_empty_eq, list_singleton]
  simp

lemma length_entries (m : Finmap fun _ : κ => ν) : (ord.entries m).length = m.size := by
  rw [← List.length_map Prod.fst, map_fst_entries, Finmap.size,
    ← List.toFinset_card_of_nodup (ord.nodup_list _)]
  congr 1
  ext k
  simp [ord.mem_list]

lemma nodup_entries (m : Finmap fun _ : κ => ν) : (ord.entries m).Nodup :=
  .of_map _ (by rw [map_fst_entries]; exact ord.nodup_list _)

lemma head_entries (m : Finmap fun _ : κ => ν) :
    (ord.entries m).head?.map Prod.fst = ord.first m.keys := by
  rw [first, ← map_fst_entries, List.head?_map]

end IterOrder
