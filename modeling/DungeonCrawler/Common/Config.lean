import Mathlib.Data.UInt

/-!
The settings of the game that the server reads.
-/

namespace DungeonCrawler

/-- The group `gameplay` of the settings. The two radii are configured as floating-point
numbers and read as their casts to 32 bits, which is what is kept here. -/
structure Gameplay where
  lobby_max_players : UInt16
  player_default_hp : UInt32
  monster_default_hp : UInt32
  monsters_per_player : UInt16
  default_radius_attack : UInt32
  default_radius_view : UInt32
  player_default_attack : UInt32
  monster_default_attack : UInt32
  default_map_blc_x : Int64
  default_map_blc_y : Int64
  default_map_trc_x : Int64
  default_map_trc_y : Int64

/-- The values that hold where nothing is configured. -/
def Gameplay.default : Gameplay where
  lobby_max_players := 4
  player_default_hp := 100
  monster_default_hp := 50
  monsters_per_player := 3
  default_radius_attack := 2
  default_radius_view := 4
  player_default_attack := 10
  monster_default_attack := 5
  default_map_blc_x := 0
  default_map_blc_y := 0
  default_map_trc_x := 60
  default_map_trc_y := 30

end DungeonCrawler
