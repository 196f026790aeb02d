import DungeonCrawler.Client.RenderGameState
import DungeonCrawler.Domain.Position
import DungeonCrawler.Lib.Grid

/-!
The rows that are printed of a snapshot.

The checks before the drawing and the grid itself take the coordinates for unsigned numbers,
the loop over the rows takes them for signed ones. The two readings order the corners alike
only when both corners are on one side of `2 ^ 63`.
-/

namespace DungeonCrawler

namespace Ui

/-- The three checks before anything is drawn. -/
structure Displayable (map : GameMapSnapshot) : Prop where
  ordered : ¬ (map.trc_x < map.blc_x ∨ map.trc_y < map.blc_y)
  no_overflow : ¬ (map.trc_x - map.blc_x = 0xFFFFFFFFFFFFFFFF ∨
    map.trc_y - map.blc_y = 0xFFFFFFFFFFFFFFFF)
  small : ¬ map.trc_x - map.blc_x + 1 > kMaxMapCells / (map.trc_y - map.blc_y + 1)

def width (map : GameMapSnapshot) : ℕ := map.trc_x.toNat - map.blc_x.toNat + 1
def height (map : GameMapSnapshot) : ℕ := map.trc_y.toNat - map.blc_y.toNat + 1

/-- The grid with everything placed on it. -/
def gridOf (snapshot : DungeonSnapshot) : List Text :=
  let map := snapshot.game_map
  let grid := List.replicate (height map) (List.replicate (width map) kFloorSymbol)
  let grid := placeOnGrid map kBarrierSymbol grid
    (map.barriers.map fun item => (item.pos_x, item.pos_y))
  let grid := placeOnGrid map kPlayerSymbol grid
    (snapshot.players.map fun item => (item.pos_x, item.pos_y))
  placeOnGrid map kMonsterSymbol grid (snapshot.mobs.map fun item => (item.pos_x, item.pos_y))

/-- A row between its borders. -/
def frame (row : Text) : Text := kVerticalBorder :: row ++ [kVerticalBorder]

def borderOf (map : GameMapSnapshot) : Text :=
  kCorner :: List.replicate (width map) kHorizontalBorder ++ [kCorner]

/-- What is printed below the map. -/
def entityLines (snapshot : DungeonSnapshot) : List Text :=
  (kEntitiesMsg ++ ' ' :: decimal (snapshot.players.length + snapshot.mobs.length)) ::
    (snapshot.players.map (entityLine kPlayerTypeString) ++
      snapshot.mobs.map (entityLine kMonsterTypeString))

/-- The whole text: the rows of the grid, the last one on top, between two borders. -/
def picture (snapshot : DungeonSnapshot) : List Text :=
  kHeaderMsg :: borderOf snapshot.game_map :: ((gridOf snapshot).reverse.map frame ++
    borderOf snapshot.game_map :: entityLines snapshot)

variable {map : GameMapSnapshot} {snapshot : DungeonSnapshot} {grid : List Text}

/-! ### The size of the grid -/

lemma toNat_sub_succ {a b : UInt64} (h : b ≤ a) (hmax : a - b ≠ 0xFFFFFFFFFFFFFFFF) :
    (a - b + 1).toNat = a.toNat - b.toNat + 1 := by
  have hsub := UInt64.toNat_sub_of_le a b h
  have hne : (a - b).toNat ≠ 2 ^ 64 - 1 := fun he => hmax (UInt64.toNat_inj.mp he)
  have := (a - b).toNat_lt
  rw [UInt64.toNat_add, ← hsub]
  change ((a - b).toNat + 1) % 2 ^ 64 = _
  omega

lemma Displayable.width_eq (h : Displayable map) :
    (map.trc_x - map.blc_x + 1).toNat = width map :=
  toNat_sub_succ (UInt64.not_lt.mp fun hl => h.ordered (Or.inl hl))
    fun he => h.no_overflow (Or.inl he)

lemma Displayable.height_eq (h : Displayable map) :
    (map.trc_y - map.blc_y + 1).toNat = height map :=
  toNat_sub_succ (UInt64.not_lt.mp fun hl => h.ordered (Or.inr hl))
    fun he => h.no_overflow (Or.inr he)

/-- Behind the checks the text is that of the rows the loop yields. -/
lemma Displayable.render (h : Displayable snapshot.game_map) :
    renderGameState snapshot =
      (rowLoop (gridOf snapshot) snapshot.game_map.blc_y snapshot.game_map.trc_y.toInt64).map
        fun rows => kHeaderMsg :: borderOf snapshot.game_map :: (rows ++
          borderOf snapshot.game_map :: entityLines snapshot) := by
  unfold renderGameState
  simp only [if_neg h.ordered, if_neg h.no_overflow, if_neg h.small, h.width_eq, h.height_eq]
  congr 1
  funext rows
  simp [borderOf, entityLines]

lemma rectangle_placeOnGrid {h w : ℕ} (symbol : Char) (items : List (UInt64 × UInt64))
    (hg : Grid.Rectangle h w grid) :
    Grid.Rectangle h w (placeOnGrid map symbol grid items) := by
  unfold placeOnGrid
  induction items generalizing grid with
  | nil => exact hg
  | cons item items ih =>
    rw [List.foldl_cons]
    refine ih ?_
    dsimp only
    split_ifs
    · exact hg.put
    · exact hg

lemma rectangle_gridOf (snapshot : DungeonSnapshot) :
    Grid.Rectangle (height snapshot.game_map) (width snapshot.game_map) (gridOf snapshot) :=
  rectangle_placeOnGrid _ _ <| rectangle_placeOnGrid _ _ <| rectangle_placeOnGrid _ _
    Grid.rectangle_replicate

/-! ### The loop over the rows -/

/-- The index of a row, whatever the sign of the bottom. -/
lemma index_row {y bottom : Int64} {k : ℕ} (h : y.toInt = bottom.toInt + k) :
    (y.toUInt64 - bottom.toUInt64).toNat = k := by
  have hy := Position.toNat_toUInt64 y
  have hb := Position.toNat_toUInt64 bottom
  have := y.toInt_lt
  have := y.le_toInt
  have := bottom.toInt_lt
  have := bottom.le_toInt
  have := y.toUInt64.toNat_lt
  have := bottom.toUInt64.toNat_lt
  rw [UInt64.toNat_sub]
  split_ifs at hy hb <;> omega

/-- Below the bottom nothing is printed. -/
lemma rowLoop_below {minY : UInt64} {y : Int64} (h : y.toInt < minY.toInt64.toInt) :
    rowLoop grid minY y = some [] := by
  have hlt : ¬ y ≥ minY.toInt64 := by
    rw [ge_iff_le, Int64.le_iff_toInt_le]
    omega
  rw [rowLoop, if_neg hlt]

/-- From a row of the grid down to a bottom above the least number, the rows are printed. -/
lemma rowLoop_rows {bottom : Int64} (hb : bottom ≠ Int64.minValue) {k : ℕ}
    (hk : k ≤ grid.length) {y : Int64} (hy : y.toInt + 1 = bottom.toInt + k) :
    rowLoop grid bottom.toUInt64 y = some ((grid.take k).reverse.map frame) := by
  induction k generalizing y with
  | zero =>
    rw [rowLoop_below (by rw [Int64.toInt64_toUInt64]; omega)]
    simp
  | succ k ih =>
    have hmin := bottom.minValue_le_toInt
    have hne : y ≠ Int64.minValue := by
      rintro rfl
      exact hb (Int64.toInt_inj.mp (by omega))
    have hge : y ≥ bottom.toUInt64.toInt64 := by
      rw [Int64.toInt64_toUInt64, ge_iff_le, Int64.le_iff_toInt_le]
      omega
    have hrow : grid[(y.toUInt64 - bottom.toUInt64).toNat]? = some grid[k] := by
      rw [index_row (k := k) (by omega), List.getElem?_eq_getElem]
    rw [rowLoop, if_pos hge, hrow]
    dsimp only
    rw [dif_neg hne, ih (by omega) (by rw [toInt_sub_one hne]; omega),
      List.take_succ_eq_append_getElem (by omega), List.reverse_append]
    rfl

/-- Down to the least number the counter overflows. -/
lemma rowLoop_overflows {k : ℕ} {y : Int64} (hy : y.toInt = Int64.minValue.toInt + k) :
    rowLoop grid Int64.minValue.toUInt64 y = none := by
  induction k generalizing y with
  | zero =>
    obtain rfl : y = Int64.minValue := Int64.toInt_inj.mp (by omega)
    rw [rowLoop, if_pos (by decide)]
    split
    · rfl
    · rw [dif_pos rfl]
  | succ k ih =>
    have hge : y ≥ Int64.minValue.toUInt64.toInt64 := by
      rw [Int64.toInt64_toUInt64, ge_iff_le, Int64.le_iff_toInt_le]
      omega
    have hne : y ≠ Int64.minValue := by
      rintro rfl
      omega
    rw [rowLoop, if_pos hge]
    split
    · rfl
    · rw [dif_neg hne, ih (by rw [toInt_sub_one hne]; omega)]
      rfl

/-! ### When all rows are printed -/

/-- A number read as a signed one. -/
lemma toInt_toInt64 (u : UInt64) :
    u.toInt64.toInt = if u.toNat < 2 ^ 63 then (u.toNat : ℤ) else u.toNat - 2 ^ 64 := by
  have h := Position.toNat_toUInt64 u.toInt64
  rw [UInt64.toUInt64_toInt64] at h
  have := u.toInt64.toInt_lt
  have := u.toInt64.le_toInt
  have := u.toNat_lt
  split_ifs at h ⊢ <;> omega

/-- All rows of the grid are printed, and nothing is written outside of it. -/
structure PrintsRows (snapshot : DungeonSnapshot) : Prop where
  lines : ∃ lines, renderGameState snapshot = some lines ∧ lines = picture snapshot ∧
    lines.length = height snapshot.game_map + 4 + snapshot.players.length +
      snapshot.mobs.length
  indices : ∀ x y, isBetween x snapshot.game_map.blc_x snapshot.game_map.trc_x →
    isBetween y snapshot.game_map.blc_y snapshot.game_map.trc_y →
    (y - snapshot.game_map.blc_y).toNat < height snapshot.game_map ∧
      (x - snapshot.game_map.blc_x).toNat < width snapshot.game_map

lemma length_picture (snapshot : DungeonSnapshot) :
    (picture snapshot).length = height snapshot.game_map + 4 + snapshot.players.length +
      snapshot.mobs.length := by
  have := (rectangle_gridOf snapshot).length
  simp only [picture, entityLines, List.length_cons, List.length_append, List.length_map,
    List.length_reverse]
  omega

lemma toNat_sub_lt {a b c : UInt64} (h : isBetween c b a) :
    (c - b).toNat < a.toNat - b.toNat + 1 := by
  obtain ⟨hb, ha⟩ : b ≤ c ∧ c ≤ a := by simpa [isBetween] using h
  have := UInt64.toNat_sub_of_le c b hb
  rw [UInt64.le_iff_toNat_le] at ha hb
  omega

/-- Both corners are on one side of the sign, and the counter can go below the bottom. -/
def SameSide (map : GameMapSnapshot) : Prop :=
  (map.blc_y.toNat < 2 ^ 63 ↔ map.trc_y.toNat < 2 ^ 63) ∧ map.blc_y.toNat ≠ 2 ^ 63

lemma toInt_minValue : Int64.minValue.toInt = -2 ^ 63 := rfl

/-- With corners on one side the text is the picture. -/
lemma Displayable.render_picture (h : Displayable snapshot.game_map)
    (hs : SameSide snapshot.game_map) : renderGameState snapshot = some (picture snapshot) := by
  obtain ⟨hside, hmin⟩ := hs
  have hle : snapshot.game_map.blc_y.toNat ≤ snapshot.game_map.trc_y.toNat :=
    UInt64.le_iff_toNat_le.mp (UInt64.not_lt.mp fun hl => h.ordered (Or.inr hl))
  have hbot := toInt_toInt64 snapshot.game_map.blc_y
  have htop := toInt_toInt64 snapshot.game_map.trc_y
  have hne : snapshot.game_map.blc_y.toInt64 ≠ Int64.minValue := by
    intro he
    rw [he, toInt_minValue] at hbot
    split_ifs at hbot <;> omega
  have htop_row : snapshot.game_map.trc_y.toInt64.toInt + 1 =
      snapshot.game_map.blc_y.toInt64.toInt + height snapshot.game_map := by
    unfold height
    split_ifs at hbot htop <;> omega
  have hlen := (rectangle_gridOf snapshot).length
  have hrows := rowLoop_rows hne hlen.ge htop_row
  rw [UInt64.toUInt64_toInt64, ← hlen, List.take_length] at hrows
  rw [h.render, hrows]
  rfl

/-- With corners on two sides no row is printed. -/
lemma Displayable.render_no_rows (h : Displayable snapshot.game_map)
    (hb : snapshot.game_map.blc_y.toNat < 2 ^ 63) (ht : 2 ^ 63 ≤ snapshot.game_map.trc_y.toNat) :
    renderGameState snapshot = some (kHeaderMsg :: borderOf snapshot.game_map ::
      borderOf snapshot.game_map :: entityLines snapshot) := by
  have hbot := toInt_toInt64 snapshot.game_map.blc_y
  have htop := toInt_toInt64 snapshot.game_map.trc_y
  have := snapshot.game_map.trc_y.toNat_lt
  rw [if_pos hb] at hbot
  rw [if_neg (by omega)] at htop
  rw [h.render, rowLoop_below (by omega)]
  rfl

/-- With the bottom at the least number the counter overflows. -/
lemma Displayable.render_overflows (h : Displayable snapshot.game_map)
    (hb : snapshot.game_map.blc_y.toNat = 2 ^ 63) : renderGameState snapshot = none := by
  have hmin : snapshot.game_map.blc_y = Int64.minValue.toUInt64 := UInt64.toNat_inj.mp hb
  have htop := toInt_toInt64 snapshot.game_map.trc_y
  have hle : snapshot.game_map.blc_y.toNat ≤ snapshot.game_map.trc_y.toNat :=
    UInt64.le_iff_toNat_le.mp (UInt64.not_lt.mp fun hl => h.ordered (Or.inr hl))
  have := snapshot.game_map.trc_y.toNat_lt
  rw [if_neg (by omega)] at htop
  rw [h.render, hmin, rowLoop_overflows (k := snapshot.game_map.trc_y.toNat - 2 ^ 63)]
  · rfl
  · rw [toInt_minValue]
    omega

/-- **When all rows are printed.** Behind the three checks, the loop ends without overflow
and prints every row of the map exactly when the bottom and the top are on one side of
`2 ^ 63` and the bottom is not `2 ^ 63` itself. -/
theorem printsRows_iff (h : Displayable snapshot.game_map) :
    PrintsRows snapshot ↔ SameSide snapshot.game_map := by
  constructor
  · rintro ⟨⟨lines, hr, -, hlen⟩, -⟩
    have hle : snapshot.game_map.blc_y.toNat ≤ snapshot.game_map.trc_y.toNat :=
      UInt64.le_iff_toNat_le.mp (UInt64.not_lt.mp fun hl => h.ordered (Or.inr hl))
    refine ⟨⟨fun hb => ?_, fun ht => by omega⟩, fun hb => ?_⟩
    · by_contra ht
      rw [h.render_no_rows hb (by omega)] at hr
      obtain rfl := Option.some.inj hr
      simp only [entityLines, List.length_cons, List.length_append, List.length_map,
        height] at hlen
      omega
    · rw [h.render_overflows hb] at hr
      cases hr
  · intro hs
    exact ⟨⟨_, h.render_picture hs, rfl, length_picture snapshot⟩,
      fun x y hx hy => ⟨toNat_sub_lt hy, toNat_sub_lt hx⟩⟩

/-- A map of three columns and two rows. -/
theorem printsRows_small :
    PrintsRows ⟨⟨5, 5, 7, 6, []⟩, [], []⟩ ↔ SameSide ⟨5, 5, 7, 6, []⟩ :=
  printsRows_iff ⟨by decide, by decide, by decide⟩

/-- A map of two rows, on the two sides of `2 ^ 63`. -/
def straddling : DungeonSnapshot :=
  ⟨⟨0, 0x7FFFFFFFFFFFFFFF, 0, 0x8000000000000000, []⟩, [], []⟩

/-- None of them is printed. -/
theorem straddling_rows_lost :
    ¬ ∀ snapshot, Displayable snapshot.game_map → PrintsRows snapshot := by
  intro h
  have hd : Displayable straddling.game_map := ⟨by decide, by decide, by decide⟩
  obtain ⟨lines, hr, -, hlen⟩ := (h straddling hd).lines
  rw [hd.render_no_rows (by decide) (by decide)] at hr
  obtain rfl := Option.some.inj hr
  exact absurd hlen (by decide)

end Ui

end DungeonCrawler
