import DungeonCrawler.Client.RenderRows
import DungeonCrawler.Domain.DungeonPlacement

/-!
The picture that a client draws of a dungeon, from the snapshot that the server makes of it.

The server's coordinates are signed, and the snapshot carries them in unsigned fields. Their
differences survive, so the grid is right wherever the map lies; their order survives only on
one side of zero, and the client compares the corners before it draws.
-/

namespace DungeonCrawler

abbrev GameMap.getBottomLeftCorner (map : GameMap) : Position :=
  map.map_size_.bottom_left_corner_

abbrev GameMap.getTopRightCorner (map : GameMap) : Position :=
  map.map_size_.top_right_corner_

namespace Ui

open Placement

/-- Where the players and the monsters of a state stand. -/
def standing (state : DungeonState) : PlayerId ⊕ MobId → Option Position :=
  Sum.elim (EntityManager.mk state.players).at_ (EntityManager.mk state.monsters).at_

/-- A legal map of at most as many cells as are drawn, with everything on a cell of its own. -/
structure Spread (state : DungeonState) : Prop where
  legal : state.game_map.Legal
  small : (state.game_map.getTopRightCorner.x.toInt -
      state.game_map.getBottomLeftCorner.x.toInt + 1) *
    (state.game_map.getTopRightCorner.y.toInt -
      state.game_map.getBottomLeftCorner.y.toInt + 1) ≤ 200 * 200
  apart : Placement.Legal (Dungeon.floor state.game_map) (standing state)

/-- The symbol tells what is on the cell. -/
structure Depicts (state : DungeonState) (pos : Position) (symbol : Char) : Prop where
  monster : (EntityManager.mk state.monsters).isOccupied pos → symbol = 'M'
  player : (EntityManager.mk state.players).isOccupied pos → symbol = '@'
  barrier : state.game_map.isBarrier pos → symbol = 'b'
  floor : ¬ (EntityManager.mk state.monsters).isOccupied pos →
    ¬ (EntityManager.mk state.players).isOccupied pos →
    ¬ state.game_map.isBarrier pos → symbol = '.'

/-- The lines show the map: a row for each `y` from the top down, in it a symbol for each `x`
from the left. -/
structure Draws (state : DungeonState) (rows : List Text) : Prop where
  height : rows.length = (state.game_map.getTopRightCorner.y.toInt -
    state.game_map.getBottomLeftCorner.y.toInt).toNat + 1
  width : ∀ row ∈ rows, row.length = (state.game_map.getTopRightCorner.x.toInt -
    state.game_map.getBottomLeftCorner.x.toInt).toNat + 1
  cells : ∀ pos, state.game_map.isInMap pos → ∃ symbol,
    Grid.cell rows (state.game_map.getTopRightCorner.y.toInt - pos.y.toInt).toNat
      (pos.x.toInt - state.game_map.getBottomLeftCorner.x.toInt).toNat = some symbol ∧
    Depicts state pos symbol

/-- The client draws the map between two borders, with text above and below. -/
def RendersMap (state : DungeonState) (lines : List Text) : Prop :=
  ∃ rows border below, lines = kHeaderMsg :: border :: (rows.map frame ++ border :: below) ∧
    Draws state rows

/-- In each coordinate the corners have one sign, and the bottom is not the least number. -/
structure OneSign (map : GameMap) : Prop where
  x : map.getBottomLeftCorner.x.toInt < 0 ↔
    map.getTopRightCorner.x.toInt < 0
  y : map.getBottomLeftCorner.y.toInt < 0 ↔
    map.getTopRightCorner.y.toInt < 0
  bottom : map.getBottomLeftCorner.y ≠ Int64.minValue

/-- In each coordinate the corners have one sign. -/
structure SignsAgree (map : GameMap) : Prop where
  x : map.getBottomLeftCorner.x.toInt < 0 ↔ map.getTopRightCorner.x.toInt < 0
  y : map.getBottomLeftCorner.y.toInt < 0 ↔ map.getTopRightCorner.y.toInt < 0

/-! ### What is placed on the grid -/

/-- A cell shows the symbol if one of the coordinates that lie on the map is its own. -/
lemma cell_placeOnGrid (map : GameMapSnapshot) (symbol : Char) (grid : List Text)
    (items : List (UInt64 × UInt64)) (i j : ℕ) :
    Grid.cell (placeOnGrid map symbol grid items) i j =
      if ∃ item ∈ items, (isBetween item.1 map.blc_x map.trc_x &&
          isBetween item.2 map.blc_y map.trc_y) ∧
        i = (item.2 - map.blc_y).toNat ∧ j = (item.1 - map.blc_x).toNat
      then (Grid.cell grid i j).map fun _ => symbol else Grid.cell grid i j :=
  Grid.cell_foldl_put (fun item : UInt64 × UInt64 => isBetween item.1 map.blc_x map.trc_x &&
    isBetween item.2 map.blc_y map.trc_y) (fun item => (item.2 - map.blc_y).toNat)
    (fun item => (item.1 - map.blc_x).toNat) symbol items grid i j

/-- The corners of a map in a snapshot. -/
def cornersOf (map : GameMap) (barriers : List BarrierSnapshot) : GameMapSnapshot where
  blc_x := map.getBottomLeftCorner.x.toUInt64
  blc_y := map.getBottomLeftCorner.y.toUInt64
  trc_x := map.getTopRightCorner.x.toUInt64
  trc_y := map.getTopRightCorner.y.toUInt64
  barriers := barriers

def coordinates (pos : Position) : UInt64 × UInt64 := (pos.x.toUInt64, pos.y.toUInt64)

lemma toNat_sub_toUInt64 {a b : Int64} (h : b.toInt ≤ a.toInt) :
    (a.toUInt64 - b.toUInt64).toNat = (a.toInt - b.toInt).toNat :=
  index_row (by omega)

lemma toUInt64_le_iff {a b : Int64} (h : a.toInt < 0 ↔ b.toInt < 0) :
    a.toUInt64 ≤ b.toUInt64 ↔ a.toInt ≤ b.toInt := by
  have ha := Position.toNat_toUInt64 a
  have hb := Position.toNat_toUInt64 b
  rw [UInt64.le_iff_toNat_le]
  split_ifs at ha hb <;> omega

variable {map : GameMap} {pos : Position}

lemma isInMap_iff : map.isInMap pos ↔
    map.getBottomLeftCorner.x.toInt ≤ pos.x.toInt ∧
    map.getBottomLeftCorner.y.toInt ≤ pos.y.toInt ∧
    pos.x.toInt ≤ map.getTopRightCorner.x.toInt ∧
    pos.y.toInt ≤ map.getTopRightCorner.y.toInt := by
  simp only [GameMap.isInMap, MapSize.isInMap, decide_eq_true_eq, ge_iff_le,
    Int64.le_iff_toInt_le]

/-- On a map whose corners have one sign, the unsigned comparison finds the positions of the
map. -/
lemma isBetween_coordinates (barriers : List BarrierSnapshot)
    (hs : SignsAgree map) (hpos : map.isInMap pos) :
    isBetween pos.x.toUInt64 (cornersOf map barriers).blc_x (cornersOf map barriers).trc_x &&
      isBetween pos.y.toUInt64 (cornersOf map barriers).blc_y (cornersOf map barriers).trc_y := by
  obtain ⟨hxl, hyl, hxr, hyr⟩ := isInMap_iff.mp hpos
  obtain ⟨hx, hy⟩ := hs
  simp only [isBetween, cornersOf, ge_iff_le, Bool.and_eq_true, decide_eq_true_eq]
  refine ⟨⟨?_, decide_eq_true ?_⟩, ?_, decide_eq_true ?_⟩
  · exact (toUInt64_le_iff (by omega)).mpr hxl
  · exact (toUInt64_le_iff (by omega)).mpr hxr
  · exact (toUInt64_le_iff (by omega)).mpr hyl
  · exact (toUInt64_le_iff (by omega)).mpr hyr

/-- Different positions have different cells, wherever the corner is. -/
lemma cell_injective {pos pos' : Position} {x y : UInt64}
    (hy : (pos.y.toUInt64 - y).toNat = (pos'.y.toUInt64 - y).toNat)
    (hx : (pos.x.toUInt64 - x).toNat = (pos'.x.toUInt64 - x).toNat) : pos = pos' := by
  have hx := (UInt64.sub_left_inj x).mp (UInt64.toNat_inj.mp hx)
  have hy := (UInt64.sub_left_inj y).mp (UInt64.toNat_inj.mp hy)
  exact Position.ext (congrArg UInt64.toInt64 hx) (congrArg UInt64.toInt64 hy)

/-- The cell of a position of the map shows the symbol if the position is among those placed. -/
lemma cell_place (barriers : List BarrierSnapshot)
    (hs : SignsAgree map) (hpos : map.isInMap pos)
    (symbol : Char) (positions : List Position) {grid : List Text} {under : Char}
    (hg : Grid.cell grid (pos.y.toUInt64 - (cornersOf map barriers).blc_y).toNat
      (pos.x.toUInt64 - (cornersOf map barriers).blc_x).toNat = some under) :
    Grid.cell (placeOnGrid (cornersOf map barriers) symbol grid (positions.map coordinates))
        (pos.y.toUInt64 - (cornersOf map barriers).blc_y).toNat
        (pos.x.toUInt64 - (cornersOf map barriers).blc_x).toNat =
      some (if pos ∈ positions then symbol else under) := by
  have hiff : (∃ item ∈ positions.map coordinates,
      (isBetween item.1 (cornersOf map barriers).blc_x (cornersOf map barriers).trc_x &&
        isBetween item.2 (cornersOf map barriers).blc_y (cornersOf map barriers).trc_y) ∧
      (pos.y.toUInt64 - (cornersOf map barriers).blc_y).toNat =
        (item.2 - (cornersOf map barriers).blc_y).toNat ∧
      (pos.x.toUInt64 - (cornersOf map barriers).blc_x).toNat =
        (item.1 - (cornersOf map barriers).blc_x).toNat) ↔ pos ∈ positions := by
    constructor
    · rintro ⟨item, hitem, -, hi, hj⟩
      obtain ⟨pos', hmem, rfl⟩ := List.mem_map.mp hitem
      rwa [cell_injective hi hj]
    · exact fun hmem => ⟨coordinates pos, List.mem_map_of_mem hmem,
        isBetween_coordinates barriers hs hpos, rfl, rfl⟩
  rw [cell_placeOnGrid, hg]
  simp only [hiff]
  split_ifs <;> rfl

/-! ### The grid of a state -/

variable {state : DungeonState} {outcomes : TickOutcomes}

lemma mem_positions {Id : Type} [DecidableEq Id] (ord : IterOrder Id) (m : EntityManager Id) :
    pos ∈ (ord.entries m.entities_).map (fun e => e.2.position_) ↔ m.isOccupied pos := by
  rw [EntityManager.isOccupied_iff, List.mem_map]
  simp only [EntityManager.at_, Option.map_eq_some_iff]
  constructor
  · rintro ⟨⟨id, e⟩, he, hp⟩
    exact ⟨id, e, ord.mem_entries.mp he, hp⟩
  · rintro ⟨id, e, he, hp⟩
    exact ⟨(id, e), ord.mem_entries.mpr he, hp⟩

/-- What the grid shows on a cell: what is placed last of what is there. -/
def symbolAt (state : DungeonState) (pos : Position) : Char :=
  if (EntityManager.mk state.monsters).isOccupied pos then kMonsterSymbol
  else if (EntityManager.mk state.players).isOccupied pos then kPlayerSymbol
  else if state.game_map.isBarrier pos then kBarrierSymbol
  else kFloorSymbol

/-- On a map with corners of one sign, the grid shows each position its symbol. -/
lemma cell_gridOf (hs : SignsAgree state.game_map) (hpos : state.game_map.isInMap pos) :
    Grid.cell (gridOf (createGameStateDTO outcomes state))
      (pos.y.toUInt64 - (createGameStateDTO outcomes state).game_map.blc_y).toNat
      (pos.x.toUInt64 - (createGameStateDTO outcomes state).game_map.blc_x).toNat =
      some (symbolAt state pos) := by
  set barriers := (createGameStateDTO outcomes state).game_map.barriers
  obtain ⟨hbx, hby⟩ := Bool.and_eq_true_iff.mp (isBetween_coordinates barriers hs hpos)
  have floor := Grid.cell_replicate (a := kFloorSymbol) (toNat_sub_lt hby) (toNat_sub_lt hbx)
  have hbarriers : barriers.map (fun item => (item.pos_x, item.pos_y)) =
      (outcomes.barrierOrder.list state.game_map.barriers_).map coordinates := by
    show List.map _ (List.map _ _) = _
    rw [List.map_map]
    rfl
  have hplayers : (createGameStateDTO outcomes state).players.map
      (fun item => (item.pos_x, item.pos_y)) =
      ((outcomes.playerOrder.entries state.players).map fun e => e.2.position_).map
        coordinates := by
    show List.map _ (List.map _ _) = _
    rw [List.map_map, List.map_map]
    rfl
  have hmobs : (createGameStateDTO outcomes state).mobs.map
      (fun item => (item.pos_x, item.pos_y)) =
      ((outcomes.monsterOrder.entries state.monsters).map fun e => e.2.position_).map
        coordinates := by
    show List.map _ (List.map _ _) = _
    rw [List.map_map, List.map_map]
    rfl
  have withBarriers := cell_place barriers hs hpos kBarrierSymbol
    (outcomes.barrierOrder.list state.game_map.barriers_) floor
  have withPlayers := cell_place barriers hs hpos kPlayerSymbol
    ((outcomes.playerOrder.entries state.players).map fun e => e.2.position_) withBarriers
  have withMobs := cell_place barriers hs hpos kMonsterSymbol
    ((outcomes.monsterOrder.entries state.monsters).map fun e => e.2.position_) withPlayers
  unfold gridOf
  dsimp only
  rw [hbarriers, hplayers, hmobs]
  refine withMobs.trans ?_
  rw [symbolAt]
  simp only [mem_positions outcomes.monsterOrder (EntityManager.mk state.monsters),
    mem_positions outcomes.playerOrder (EntityManager.mk state.players),
    outcomes.barrierOrder.mem_list, GameMap.isBarrier, decide_eq_true_eq]

/-- On a cell of its own everything shows. -/
lemma depicts_symbolAt (h : Placement.Legal (Dungeon.floor state.game_map) (standing state))
    (pos : Position) : Depicts state pos (symbolAt state pos) where
  monster hm := by rw [symbolAt, if_pos hm]; rfl
  player hp := by
    obtain ⟨id, hid⟩ := EntityManager.isOccupied_iff.mp hp
    have hm : ¬ (EntityManager.mk state.monsters).isOccupied pos := by
      rw [EntityManager.isOccupied_iff]
      rintro ⟨id', hid'⟩
      cases h.apart (.inl id) (.inr id') pos hid hid'
    rw [symbolAt, if_neg hm, if_pos hp]
    rfl
  barrier hb := by
    have vacant : ∀ i, standing state i ≠ some pos := fun i hi => by
      have ha : state.game_map.isAvailable pos := h.on_floor i pos hi
      simp [GameMap.isAvailable, hb] at ha
    have hm : ¬ (EntityManager.mk state.monsters).isOccupied pos := by
      rw [EntityManager.isOccupied_iff]
      rintro ⟨id, hid⟩
      exact vacant (.inr id) hid
    have hp : ¬ (EntityManager.mk state.players).isOccupied pos := by
      rw [EntityManager.isOccupied_iff]
      rintro ⟨id, hid⟩
      exact vacant (.inl id) hid
    rw [symbolAt, if_neg hm, if_neg hp, if_pos hb]
    rfl
  floor hm hp hb := by rw [symbolAt, if_neg hm, if_neg hp, if_neg hb]; rfl

/-! ### When the map is drawn -/

/-- The distance of two coordinates of one sign, as the client computes it. -/
lemma toNat_toUInt64_sub {a b : Int64} (h : b.toInt < 0 ↔ a.toInt < 0) :
    a.toUInt64.toNat - b.toUInt64.toNat = (a.toInt - b.toInt).toNat := by
  have ha := Position.toNat_toUInt64 a
  have hb := Position.toNat_toUInt64 b
  have := a.toUInt64.toNat_lt
  have := b.toUInt64.toNat_lt
  split_ifs at ha hb <;> omega

lemma Spread.corners (h : Spread state) :
    state.game_map.getBottomLeftCorner.x.toInt <
        state.game_map.getTopRightCorner.x.toInt ∧
      state.game_map.getBottomLeftCorner.y.toInt <
        state.game_map.getTopRightCorner.y.toInt := by
  obtain ⟨hx, hy⟩ := h.legal.corners
  exact ⟨Int64.lt_iff_toInt_lt.mp hx, Int64.lt_iff_toInt_lt.mp hy⟩

/-- A rectangle that is not too large passes the check of its size, done by a division. -/
lemma small_enough {a b : UInt64} (h : (a.toNat + 1) * (b.toNat + 1) ≤ 200 * 200) :
    (a ≠ 0xFFFFFFFFFFFFFFFF ∧ b ≠ 0xFFFFFFFFFFFFFFFF) ∧ ¬ a + 1 > kMaxMapCells / (b + 1) := by
  have ha : a.toNat + 1 ≤ 200 * 200 := (Nat.le_mul_of_pos_right _ (by omega)).trans h
  have hb : b.toNat + 1 ≤ 200 * 200 := (Nat.le_mul_of_pos_left _ (by omega)).trans h
  have ha1 : (a + 1).toNat = a.toNat + 1 := by
    rw [UInt64.toNat_add]
    change (a.toNat + 1) % 2 ^ 64 = _
    omega
  have hb1 : (b + 1).toNat = b.toNat + 1 := by
    rw [UInt64.toNat_add]
    change (b.toNat + 1) % 2 ^ 64 = _
    omega
  refine ⟨⟨?_, ?_⟩, ?_⟩
  · rintro rfl
    exact absurd ha (by decide)
  · rintro rfl
    exact absurd hb (by decide)
  · rw [gt_iff_lt, UInt64.not_lt, UInt64.le_iff_toNat_le, UInt64.toNat_div, ha1, hb1,
      Nat.le_div_iff_mul_le (by omega)]
    exact h

/-- A legal map whose corners have one sign passes the checks. -/
lemma displayable (h : Spread state) (hs : SignsAgree state.game_map) :
    Displayable (createGameStateDTO outcomes state).game_map := by
  obtain ⟨hltx, hlty⟩ := h.corners
  have hdx := toNat_sub_toUInt64 hltx.le
  have hdy := toNat_sub_toUInt64 hlty.le
  have hcells : (state.game_map.getTopRightCorner.x.toUInt64 -
        state.game_map.getBottomLeftCorner.x.toUInt64).toNat.succ *
      (state.game_map.getTopRightCorner.y.toUInt64 -
        state.game_map.getBottomLeftCorner.y.toUInt64).toNat.succ ≤ 200 * 200 := by
    rw [hdx, hdy]
    zify
    rw [Int.toNat_of_nonneg (by omega), Int.toNat_of_nonneg (by omega)]
    exact h.small
  have hsmall := small_enough hcells
  refine ⟨?_, ?_, hsmall.2⟩
  · rintro (hlt | hlt)
    · exact UInt64.not_lt.mpr ((toUInt64_le_iff hs.x).mpr hltx.le) hlt
    · exact UInt64.not_lt.mpr ((toUInt64_le_iff hs.y).mpr hlty.le) hlt
  · rintro (he | he)
    · exact hsmall.1.1 he
    · exact hsmall.1.2 he

/-- Where a corner check fails, only a message is returned. -/
lemma render_invalid {snapshot : DungeonSnapshot}
    (h : snapshot.game_map.trc_x < snapshot.game_map.blc_x ∨
      snapshot.game_map.trc_y < snapshot.game_map.blc_y) :
    renderGameState snapshot = some [joinWithSpace [kRenderGameState, kInvalidCoordinates]] :=
  if_pos h

/-- Corners on the two sides of zero fail that check. -/
lemma toUInt64_lt_of_signs {a b : Int64} (hb : b.toInt < 0) (ha : 0 ≤ a.toInt) :
    a.toUInt64 < b.toUInt64 := by
  have hla := Position.toNat_toUInt64 a
  have hlb := Position.toNat_toUInt64 b
  have := a.toInt_lt
  have := b.le_toInt
  rw [UInt64.lt_iff_toNat_lt]
  rw [if_pos ha] at hla
  rw [if_neg (by omega)] at hlb
  omega

lemma not_rendersMap_message {msg : Text} : ¬ RendersMap state [msg] := by
  rintro ⟨rows, border, below, heq, -⟩
  cases heq

/-- Where the map is drawn, the corners agree in their signs. -/
lemma signsAgree_of_rendersMap (h : Spread state) {lines : List Text}
    (hr : renderGameState (createGameStateDTO outcomes state) = some lines)
    (hlines : RendersMap state lines) : SignsAgree state.game_map := by
  obtain ⟨hltx, hlty⟩ := h.corners
  have valid : ¬ (state.game_map.getTopRightCorner.x.toUInt64 <
      state.game_map.getBottomLeftCorner.x.toUInt64 ∨
      state.game_map.getTopRightCorner.y.toUInt64 <
        state.game_map.getBottomLeftCorner.y.toUInt64) := by
    intro hlt
    rw [render_invalid hlt] at hr
    obtain rfl := Option.some.inj hr
    exact not_rendersMap_message hlines
  constructor
  · by_contra hx
    exact valid (Or.inl (toUInt64_lt_of_signs (by omega) (by omega)))
  · by_contra hy
    exact valid (Or.inr (toUInt64_lt_of_signs (by omega) (by omega)))

/-- The picture of a snapshot shows the state, on a map whose corners have one sign. -/
lemma draws_gridOf (h : Spread state) (hs : SignsAgree state.game_map) :
    Draws state (gridOf (createGameStateDTO outcomes state)).reverse := by
  obtain ⟨hltx, hlty⟩ := h.corners
  have rect := rectangle_gridOf (createGameStateDTO outcomes state)
  have hheight : height (createGameStateDTO outcomes state).game_map =
      (state.game_map.getTopRightCorner.y.toInt -
        state.game_map.getBottomLeftCorner.y.toInt).toNat + 1 :=
    congrArg Nat.succ (toNat_toUInt64_sub hs.y)
  have hwidth : width (createGameStateDTO outcomes state).game_map =
      (state.game_map.getTopRightCorner.x.toInt -
        state.game_map.getBottomLeftCorner.x.toInt).toNat + 1 :=
    congrArg Nat.succ (toNat_toUInt64_sub hs.x)
  refine ⟨?_, fun row hrow => ?_, fun pos hpos => ?_⟩
  · rw [List.length_reverse, rect.length, hheight]
  · rw [rect.row row (List.mem_reverse.mp hrow), hwidth]
  · obtain ⟨hxl, hyl, hxr, hyr⟩ := isInMap_iff.mp hpos
    refine ⟨symbolAt state pos, ?_, depicts_symbolAt h.apart pos⟩
    -- the row from the top is the row of the grid from the bottom
    have hrow := toNat_sub_toUInt64 hyl
    have hcol := toNat_sub_toUInt64 hxl
    have hlen := rect.length.trans hheight
    rw [Grid.cell_reverse (by omega), ← hcol, hlen]
    have hindex : (state.game_map.getTopRightCorner.y.toInt -
        state.game_map.getBottomLeftCorner.y.toInt).toNat + 1 - 1 -
        (state.game_map.getTopRightCorner.y.toInt - pos.y.toInt).toNat =
        (pos.y.toUInt64 - state.game_map.getBottomLeftCorner.y.toUInt64).toNat := by
      rw [hrow]
      omega
    rw [hindex]
    exact cell_gridOf hs hpos

/-- **When the client draws the map of the server.** For a legal map that is not too large,
with everything on a cell of its own, the client draws the snapshot as the map exactly when
the corners have one sign in each coordinate and the bottom is not the least number. -/
theorem renders_iff (h : Spread state) (outcomes : TickOutcomes) :
    (∃ lines, renderGameState (createGameStateDTO outcomes state) = some lines ∧
      RendersMap state lines) ↔ OneSign state.game_map := by
  constructor
  · rintro ⟨lines, hr, hlines⟩
    have hs := signsAgree_of_rendersMap h hr hlines
    refine ⟨hs.x, hs.y, fun he => ?_⟩
    have hmin : (createGameStateDTO outcomes state).game_map.blc_y.toNat = 2 ^ 63 :=
      congrArg (fun y : Int64 => y.toUInt64.toNat) he
    rw [(displayable h hs).render_overflows hmin] at hr
    cases hr
  · rintro ⟨hx, hy, hbottom⟩
    obtain ⟨-, hlty⟩ := h.corners
    have hb := Position.toNat_toUInt64 state.game_map.getBottomLeftCorner.y
    have ht := Position.toNat_toUInt64 state.game_map.getTopRightCorner.y
    have hmin : state.game_map.getBottomLeftCorner.y.toInt ≠ -2 ^ 63 :=
      fun he => hbottom (Int64.toInt_inj.mp he)
    have := state.game_map.getBottomLeftCorner.y.le_toInt
    have := state.game_map.getTopRightCorner.y.toInt_lt
    have hside : SameSide (createGameStateDTO outcomes state).game_map := by
      show (state.game_map.getBottomLeftCorner.y.toUInt64.toNat < 2 ^ 63 ↔
        state.game_map.getTopRightCorner.y.toUInt64.toNat < 2 ^ 63) ∧
        state.game_map.getBottomLeftCorner.y.toUInt64.toNat ≠ 2 ^ 63
      split_ifs at hb ht <;> omega
    exact ⟨_, (displayable h ⟨hx, hy⟩).render_picture hside, _, _, _, rfl,
      draws_gridOf h ⟨hx, hy⟩⟩

/-- A map with nothing on it. -/
def bare (bottom_left top_right : Position) : DungeonState :=
  ⟨⟨⟨bottom_left, top_right⟩, ∅⟩, ∅, ∅⟩

lemma spread_bare {bottom_left top_right : Position}
    (hc : bottom_left.x < top_right.x ∧ bottom_left.y < top_right.y)
    (hs : (top_right.x.toInt - bottom_left.x.toInt + 1) *
      (top_right.y.toInt - bottom_left.y.toInt + 1) ≤ 200 * 200) :
    Spread (bare bottom_left top_right) where
  legal := ⟨hc, fun pos hpos => absurd hpos (Finset.notMem_empty pos)⟩
  small := hs
  apart := by
    have hnone : standing (bare bottom_left top_right) = fun _ => none := by
      funext i
      cases i <;> rfl
    rw [hnone]
    exact Placement.Legal.empty

/-- The orders and draws of some tick. -/
def someOutcomes : TickOutcomes :=
  ⟨0, 0, fun _ => (0, Direction.kUp), fun _ => 0, byNumber, byNumber, byColumn⟩

/-- A map all of whose coordinates are negative, with a barrier, a player and a monster. -/
def negative : DungeonState where
  game_map := ⟨⟨⟨-4, -3⟩, ⟨-1, -1⟩⟩, {⟨-3, -2⟩}⟩
  players := (EntityManager.empty.addEntity ⟨100, 2, 4⟩ ⟨1⟩ ⟨-2, -2⟩).2.entities_
  monsters := (EntityManager.empty.addEntity ⟨50, 2, 4⟩ ⟨0⟩ ⟨-4, -1⟩).2.entities_

/-- The two that stand on it. -/
lemma stands_negative {i : PlayerId ⊕ MobId} {pos : Position}
    (h : standing negative i = some pos) :
    i = .inl ⟨1⟩ ∧ pos = ⟨-2, -2⟩ ∨ i = .inr ⟨0⟩ ∧ pos = ⟨-4, -1⟩ := by
  have hplayers : (EntityManager.mk negative.players).at_ =
      Function.update (fun _ => none) ⟨1⟩ (some ⟨-2, -2⟩) := by
    rw [← EntityManager.at_empty]
    exact EntityManager.addEntity_at ⟨100, 2, 4⟩ Finmap.notMem_empty
  have hmonsters : (EntityManager.mk negative.monsters).at_ =
      Function.update (fun _ => none) ⟨0⟩ (some ⟨-4, -1⟩) := by
    rw [← EntityManager.at_empty]
    exact EntityManager.addEntity_at ⟨50, 2, 4⟩ Finmap.notMem_empty
  rcases i with p | m
  · have hp := (congrFun hplayers p).symm.trans h
    rw [Function.update_apply] at hp
    split_ifs at hp with hid
    exact Or.inl ⟨congrArg Sum.inl hid, (Option.some.inj hp).symm⟩
  · have hm := (congrFun hmonsters m).symm.trans h
    rw [Function.update_apply] at hm
    split_ifs at hm with hid
    exact Or.inr ⟨congrArg Sum.inr hid, (Option.some.inj hm).symm⟩

lemma spread_negative : Spread negative where
  legal := ⟨by decide, by decide⟩
  small := by decide
  apart := by
    refine ⟨fun i pos h => ?_, fun i j pos hi hj => ?_⟩
    · rcases stands_negative h with ⟨-, rfl⟩ | ⟨-, rfl⟩
      · show negative.game_map.isAvailable _
        decide
      · show negative.game_map.isAvailable _
        decide
    · rcases stands_negative hi with ⟨rfl, rfl⟩ | ⟨rfl, rfl⟩ <;>
        rcases stands_negative hj with ⟨rfl, h⟩ | ⟨rfl, h⟩
      · rfl
      · exact absurd h (by decide)
      · exact absurd h (by decide)
      · rfl

/-- It is drawn. -/
theorem renders_negative :
    ∃ lines, renderGameState (createGameStateDTO someOutcomes negative) = some lines ∧
      RendersMap negative lines :=
  (renders_iff spread_negative someOutcomes).mpr ⟨by decide, by decide, by decide⟩

/-- A map around the origin is not. -/
theorem map_around_origin_not_drawn :
    ¬ ∀ state outcomes, Spread state →
      ∃ lines, renderGameState (createGameStateDTO outcomes state) = some lines ∧
        RendersMap state lines := by
  intro h
  obtain ⟨lines, hr, hlines⟩ := h (bare ⟨-1, -1⟩ ⟨1, 1⟩) someOutcomes
    (spread_bare (by decide) (by decide))
  rw [render_invalid (Or.inl (show (1 : Int64).toUInt64 < (-1 : Int64).toUInt64 by decide))] at hr
  obtain rfl := Option.some.inj hr
  exact not_rendersMap_message hlines

end Ui

end DungeonCrawler
