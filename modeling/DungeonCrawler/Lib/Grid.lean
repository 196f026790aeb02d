import Mathlib.Tactic

/-!
Rectangles of cells as lists of rows, and putting a value into a cell.
-/

namespace Grid

variable {α : Type*}

/-- The cell of a row and a column. -/
def cell (grid : List (List α)) (i j : ℕ) : Option α := grid[i]?.bind (·[j]?)

/-- The grid with a value put into a cell; outside the grid nothing is put. -/
def put (grid : List (List α)) (i j : ℕ) (a : α) : List (List α) := grid.modify i (·.set j a)

/-- As many rows as the height, all as long as the width. -/
structure Rectangle (height width : ℕ) (grid : List (List α)) : Prop where
  length : grid.length = height
  row : ∀ row ∈ grid, row.length = width

variable {grid : List (List α)} {height width i j : ℕ} {a : α}

lemma cell_put (i' j' : ℕ) :
    cell (put grid i j a) i' j' =
      if i' = i ∧ j' = j then (cell grid i' j').map fun _ => a else cell grid i' j' := by
  unfold cell put
  rw [List.getElem?_modify]
  by_cases hi : i = i'
  · cases hrow : grid[i']? with
    | none => simp
    | some row =>
      by_cases hj : j = j'
      · subst hi hj
        simp only [and_self, if_true]
        exact List.getElem?_set_self'
      · simp [hi, hj, Ne.symm hj, List.getElem?_set_ne]
  · simp [hi, Ne.symm hi]

lemma Rectangle.put (h : Rectangle height width grid) :
    Rectangle height width (put grid i j a) where
  length := by rw [Grid.put, List.length_modify, h.length]
  row := by
    intro row hrow
    obtain ⟨k, hk, rfl⟩ := List.mem_iff_getElem.mp hrow
    simp only [Grid.put, List.getElem_modify]
    split_ifs
    · rw [List.length_set, h.row _ (List.getElem_mem _)]
    · exact h.row _ (List.getElem_mem _)

lemma rectangle_replicate :
    Rectangle height width (List.replicate height (List.replicate width a)) where
  length := List.length_replicate
  row row hrow := by rw [List.eq_of_mem_replicate hrow, List.length_replicate]

lemma cell_replicate (hi : i < height) (hj : j < width) :
    cell (List.replicate height (List.replicate width a)) i j = some a := by
  simp [cell, hi, hj]

lemma cell_reverse (h : i < grid.length) :
    cell grid.reverse i j = cell grid (grid.length - 1 - i) j := by
  rw [cell, cell, List.getElem?_reverse h]

/-- A value put into the cells of all items of a kind is found where one of them lies. -/
lemma cell_foldl_put {β : Type*} (p : β → Prop) [DecidablePred p] (row col : β → ℕ) (a : α)
    (items : List β) (grid : List (List α)) (i j : ℕ) :
    cell (items.foldl (fun grid b => if p b then put grid (row b) (col b) a else grid) grid) i j =
      if ∃ b ∈ items, p b ∧ i = row b ∧ j = col b
      then (cell grid i j).map fun _ => a else cell grid i j := by
  induction items generalizing grid with
  | nil => simp
  | cons b items ih =>
    rw [List.foldl_cons, ih]
    simp only [List.exists_mem_cons_iff]
    by_cases hb : p b ∧ i = row b ∧ j = col b
    · -- the value is there, whatever comes after
      have hcell : cell (if p b then put grid (row b) (col b) a else grid) i j =
          (cell grid i j).map fun _ => a := by
        rw [if_pos hb.1, cell_put, if_pos hb.2]
      rw [hcell, if_pos (Or.inl hb), Option.map_map]
      split_ifs <;> rfl
    · have hcell : cell (if p b then put grid (row b) (col b) a else grid) i j =
          cell grid i j := by
        split_ifs with hp
        · rw [cell_put, if_neg fun h => hb ⟨hp, h⟩]
        · rfl
      rw [hcell]
      simp only [hb, false_or]

end Grid
