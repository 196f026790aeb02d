import DungeonCrawler.Common.GameState
import DungeonCrawler.Common.Strings

/-!
The text of a game state.

The coordinates of a snapshot are unsigned, the counter of the rows is signed. Nothing is
returned where the source has no defined result: when the counter is decremented below the
least number, and when a row is taken from outside the grid.
-/

namespace DungeonCrawler

namespace Ui

def kPlayerSymbol : Char := '@'
def kMonsterSymbol : Char := 'M'
def kBarrierSymbol : Char := 'b'
def kFloorSymbol : Char := '.'
def kVerticalBorder : Char := '#'
def kHorizontalBorder : Char := '#'
def kCorner : Char := '#'

def kPlayerTypeString : Text := "Player".toList
def kMonsterTypeString : Text := "Monster".toList

def kRenderGameState : Text := "[renderGameState]".toList
def kInvalidCoordinates : Text := "Invalid coordinates".toList
def kCoordinateOverflow : Text := "Coordinate overflow".toList
def kHeaderMsg : Text := "=== Game State ===".toList
def kEntitiesMsg : Text := "Entities:".toList
def kTooLargeMsg : Text := "Game map too large to display: width*height > ".toList

def kMaxMapCells : UInt64 := 200 * 200

def isBetween (value low high : UInt64) : Bool := value ≥ low && value ≤ high

/-- The symbol at each of the coordinates that lie on the map; the last one placed stays. -/
def placeOnGrid (map : GameMapSnapshot) (symbol : Char) (grid : List Text)
    (items : List (UInt64 × UInt64)) : List Text :=
  items.foldl (fun grid (x, y) =>
    if isBetween x map.blc_x map.trc_x && isBetween y map.blc_y map.trc_y then
      grid.modify (y - map.blc_y).toNat (·.set (x - map.blc_x).toNat symbol)
    else grid) grid

lemma toInt_sub_one {y : Int64} (h : y ≠ Int64.minValue) : (y - 1).toInt = y.toInt - 1 := by
  have hlt := y.toInt_lt
  have hge := y.le_toInt
  have hne : y.toInt ≠ Int64.minValue.toInt := fun he => h (Int64.toInt_inj.mp he)
  have hmin : Int64.minValue.toInt = -2 ^ 63 := rfl
  have hone : (1 : Int64).toInt = 1 := rfl
  rw [Int64.toInt_sub, hone, Int.bmod_eq_of_le] <;> omega

/-- The rows from `y` down to the bottom, between their borders. -/
def rowLoop (grid : List Text) (minY : UInt64) (y : Int64) : Option (List Text) :=
  if y ≥ minY.toInt64 then
    match grid[(y.toUInt64 - minY).toNat]? with
    | none => none
    | some row =>
      if h : y = Int64.minValue then none
      else (rowLoop grid minY (y - 1)).map ((kVerticalBorder :: row ++ [kVerticalBorder]) :: ·)
  else some []
termination_by (y.toInt - Int64.minValue.toInt).toNat
decreasing_by
  have hge := y.minValue_le_toInt
  have hne : y.toInt ≠ Int64.minValue.toInt := fun he => h (Int64.toInt_inj.mp he)
  rw [toInt_sub_one h]
  omega

def entityLine (type : Text) (entity : EntitySnapshot) : Text :=
  "  Entity ".toList ++ decimal entity.id.toNat ++ " (".toList ++ type ++ ") HP: ".toList ++
    decimal entity.hp.toNat

def renderGameState (snapshot : DungeonSnapshot) : Option (List Text) :=
  let map := snapshot.game_map
  if map.trc_x < map.blc_x ∨ map.trc_y < map.blc_y then
    some [joinWithSpace [kRenderGameState, kInvalidCoordinates]]
  else
    let diffX := map.trc_x - map.blc_x
    let diffY := map.trc_y - map.blc_y
    if diffX = 0xFFFFFFFFFFFFFFFF ∨ diffY = 0xFFFFFFFFFFFFFFFF then
      some [joinWithSpace [kRenderGameState, kCoordinateOverflow]]
    else
      let w64 := diffX + 1
      let h64 := diffY + 1
      if w64 > kMaxMapCells / h64 then
        some [joinWithSpace [kRenderGameState, kTooLargeMsg, decimal kMaxMapCells.toNat]]
      else
        let width := w64.toNat
        let height := h64.toNat
        let grid := List.replicate height (List.replicate width kFloorSymbol)
        let grid := placeOnGrid map kBarrierSymbol grid
          (map.barriers.map fun item => (item.pos_x, item.pos_y))
        let grid := placeOnGrid map kPlayerSymbol grid
          (snapshot.players.map fun item => (item.pos_x, item.pos_y))
        let grid := placeOnGrid map kMonsterSymbol grid
          (snapshot.mobs.map fun item => (item.pos_x, item.pos_y))
        let border := kCorner :: List.replicate width kHorizontalBorder ++ [kCorner]
        let totalEntities := snapshot.players.length + snapshot.mobs.length
        (rowLoop grid map.blc_y map.trc_y.toInt64).map fun rows =>
          [kHeaderMsg, border] ++ rows ++
            [border, kEntitiesMsg ++ ' ' :: decimal totalEntities] ++
            snapshot.players.map (entityLine kPlayerTypeString) ++
            snapshot.mobs.map (entityLine kMonsterTypeString)

end Ui

end DungeonCrawler
