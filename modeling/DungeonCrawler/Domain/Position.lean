import DungeonCrawler.Common.Config
import DungeonCrawler.Common.Types

/-!
Positions, whose arithmetic saturates, and the map of a dungeon.
-/

namespace DungeonCrawler

@[ext] structure Position where
  x : Int64
  y : Int64
  deriving DecidableEq

namespace Position

def add (a b : Int64) : Int64 :=
  if b > 0 ∧ a > Int64.maxValue - b then Int64.maxValue
  else if b < 0 ∧ a < Int64.minValue - b then Int64.minValue
  else a + b

/-- The same template at an unsigned type. -/
def addUnsigned (a b : UInt64) : UInt64 :=
  let max : UInt64 := 0xFFFFFFFFFFFFFFFF
  if b > 0 ∧ a > max - b then max else a + b

def delta (a b : Int64) : UInt64 :=
  if a ≥ b then a.toUInt64 - b.toUInt64 else b.toUInt64 - a.toUInt64

instance : Add Position where
  add p q := ⟨add q.x p.x, add q.y p.y⟩

def manhattanDistance (p other : Position) : UInt64 :=
  let dx := delta other.x p.x
  let dy := delta other.y p.y
  addUnsigned dx dy

/-! ### Distances as numbers -/

/-- The unsigned reading of a coordinate. -/
lemma toNat_toUInt64 (a : Int64) :
    (a.toUInt64.toNat : ℤ) = if 0 ≤ a.toInt then a.toInt else a.toInt + 2 ^ 64 := by
  have h := BitVec.toInt_eq_toNat_cond a.toBitVec
  change a.toInt = if 2 * a.toUInt64.toNat < 2 ^ 64 then (a.toUInt64.toNat : ℤ)
    else (a.toUInt64.toNat : ℤ) - (2 ^ 64 : ℕ) at h
  have := a.toUInt64.toNat_lt
  split_ifs at h ⊢ <;> omega

/-- The difference of two coordinates is exact, whatever their signs. -/
lemma delta_toNat (a b : Int64) : (delta a b).toNat = (a.toInt - b.toInt).natAbs := by
  have ha := toNat_toUInt64 a
  have hb := toNat_toUInt64 b
  have := a.toInt_lt
  have := a.le_toInt
  have := b.toInt_lt
  have := b.le_toInt
  have hle : a ≥ b ↔ b.toInt ≤ a.toInt := Int64.le_iff_toInt_le
  unfold delta
  split_ifs with h
  · rw [hle] at h
    rw [UInt64.toNat_sub]
    split_ifs at ha hb <;> omega
  · rw [hle] at h
    rw [UInt64.toNat_sub]
    split_ifs at ha hb <;> omega

/-- The sum saturates. -/
lemma addUnsigned_toNat (a b : UInt64) :
    (addUnsigned a b).toNat = min (a.toNat + b.toNat) (2 ^ 64 - 1) := by
  have := a.toNat_lt
  have := b.toNat_lt
  have hsub : ((0xFFFFFFFFFFFFFFFF : UInt64) - b).toNat = 2 ^ 64 - 1 - b.toNat := by
    rw [UInt64.toNat_sub_of_le]
    · rfl
    · rw [UInt64.le_iff_toNat_le]
      change b.toNat ≤ 2 ^ 64 - 1
      omega
  unfold addUnsigned
  dsimp only
  split_ifs with h
  · have h2 : 2 ^ 64 - 1 - b.toNat < a.toNat := by
      rw [← hsub]
      exact UInt64.lt_iff_toNat_lt.mp h.2
    change 2 ^ 64 - 1 = _
    omega
  · have h' : a.toNat + b.toNat < 2 ^ 64 := by
      by_contra hc
      refine h ⟨UInt64.lt_iff_toNat_lt.mpr ?_, UInt64.lt_iff_toNat_lt.mpr ?_⟩
      · change 0 < b.toNat
        omega
      · rw [hsub]
        omega
    rw [UInt64.toNat_add, Nat.mod_eq_of_lt h']
    omega

/-- The Manhattan distance in ℕ, where it cannot overflow. -/
def exactDistance (p q : Position) : ℕ :=
  (p.x.toInt - q.x.toInt).natAbs + (p.y.toInt - q.y.toInt).natAbs

/-- The distance computed is the exact one, cut off at the largest number. -/
lemma manhattanDistance_toNat (p q : Position) :
    (p.manhattanDistance q).toNat = min (p.exactDistance q) (2 ^ 64 - 1) := by
  unfold manhattanDistance exactDistance
  rw [addUnsigned_toNat, delta_toNat, delta_toNat]
  omega

end Position

/-- A byte that is no direction moves nothing. -/
def positionOffsetFromDirection (direction : Direction) : Position :=
  if direction = Direction.kUp then ⟨0, 1⟩
  else if direction = Direction.kDown then ⟨0, -1⟩
  else if direction = Direction.kLeft then ⟨-1, 0⟩
  else if direction = Direction.kRight then ⟨1, 0⟩
  else ⟨0, 0⟩

structure MapSize where
  bottom_left_corner_ : Position
  top_right_corner_ : Position
  deriving DecidableEq

def MapSize.isInMap (size : MapSize) (pos : Position) : Bool :=
  pos.x ≥ size.bottom_left_corner_.x ∧ pos.y ≥ size.bottom_left_corner_.y ∧
    pos.x ≤ size.top_right_corner_.x ∧ pos.y ≤ size.top_right_corner_.y

def getCfgMapSize (cfg : Gameplay) : MapSize :=
  ⟨⟨cfg.default_map_blc_x, cfg.default_map_blc_y⟩,
    ⟨cfg.default_map_trc_x, cfg.default_map_trc_y⟩⟩

structure GameMap where
  map_size_ : MapSize
  barriers_ : Finset Position

namespace GameMap

/-- What the constructor asserts of the corners and `addBarrier` checks of the barriers. -/
structure Legal (map : GameMap) : Prop where
  corners : map.map_size_.bottom_left_corner_.x < map.map_size_.top_right_corner_.x ∧
    map.map_size_.bottom_left_corner_.y < map.map_size_.top_right_corner_.y
  barriers : ∀ pos ∈ map.barriers_, map.map_size_.isInMap pos

/-- The map constructed without arguments. -/
def ofCfg (cfg : Gameplay) : GameMap := ⟨getCfgMapSize cfg, ∅⟩

def isBarrier (map : GameMap) (position : Position) : Bool := position ∈ map.barriers_

def isInMap (map : GameMap) (position : Position) : Bool := map.map_size_.isInMap position

def isAvailable (map : GameMap) (position : Position) : Bool :=
  map.isInMap position && !map.isBarrier position

end GameMap

example : (⟨Int64.maxValue, 0⟩ : Position) + positionOffsetFromDirection Direction.kRight =
    ⟨Int64.maxValue, 0⟩ := by decide

end DungeonCrawler
