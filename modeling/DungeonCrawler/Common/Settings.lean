import DungeonCrawler.Common.Environment
import DungeonCrawler.Common.Json
import DungeonCrawler.Lib.Runs
import DungeonCrawler.Lib.UnorderedMap

/-!
Loading the settings: defaults, then the leaves of a JSON document, then the environment.

A known key has a field of a fixed type, which changes when a text converts to the type; the
conversions of numbers are an argument. Any other key has an entry in a table of texts.
-/

namespace DungeonCrawler

/-- The conversion of texts to numbers, where they convert. -/
structure LexicalCast where
  uint16 : Text → Option UInt16
  uint32 : Text → Option UInt32
  int64 : Text → Option Int64
  double : Text → Option Float

inductive FieldType
  | string | uint16 | uint32 | int64 | double

/-- Durations are kept as their counts. -/
def FieldType.Value : FieldType → Type
  | .string => Text
  | .uint16 => UInt16
  | .uint32 => UInt32
  | .int64 => Int64
  | .double => Float

def assign_field (cast : LexicalCast) : (t : FieldType) → Text → Option t.Value
  | .string => some
  | .uint16 => cast.uint16
  | .uint32 => cast.uint32
  | .int64 => cast.int64
  | .double => cast.double

namespace Settings

/-- The fields that keys are bound to. -/
inductive Field
  | server_host | server_port | server_max_players | server_tick_rate
  | server_client_disconnect_timeout
  | database_connection_string | database_pool_size
  | gameplay_lobby_max_players | gameplay_map_name | gameplay_match_duration
  | gameplay_player_default_hp | gameplay_monster_default_hp | gameplay_monsters_per_player
  | gameplay_default_radius_attack | gameplay_default_radius_view
  | gameplay_player_default_attack | gameplay_monster_default_attack
  | gameplay_default_map_blc_x | gameplay_default_map_blc_y
  | gameplay_default_map_trc_x | gameplay_default_map_trc_y
  | logger_level | logger_output_dir | logger_format
  deriving DecidableEq

namespace Field

def type : Field → FieldType
  | server_host | database_connection_string | gameplay_map_name | logger_level
  | logger_output_dir | logger_format => .string
  | server_port | server_max_players | database_pool_size | gameplay_lobby_max_players
  | gameplay_monsters_per_player => .uint16
  | gameplay_player_default_hp | gameplay_monster_default_hp | gameplay_player_default_attack
  | gameplay_monster_default_attack => .uint32
  | server_tick_rate | server_client_disconnect_timeout | gameplay_match_duration
  | gameplay_default_map_blc_x | gameplay_default_map_blc_y | gameplay_default_map_trc_x
  | gameplay_default_map_trc_y => .int64
  | gameplay_default_radius_attack | gameplay_default_radius_view => .double

/-- The value that holds where nothing is configured. -/
def default : (f : Field) → f.type.Value
  | server_host => "127.0.0.1".toList
  | server_port => (8080 : UInt16)
  | server_max_players => (100 : UInt16)
  | server_tick_rate => (100 : Int64)
  | server_client_disconnect_timeout => (10 : Int64)
  | database_connection_string => ([] : Text)
  | database_pool_size => (10 : UInt16)
  | gameplay_lobby_max_players => (4 : UInt16)
  | gameplay_map_name => "test".toList
  | gameplay_match_duration => (100 : Int64)
  | gameplay_player_default_hp => (100 : UInt32)
  | gameplay_monster_default_hp => (50 : UInt32)
  | gameplay_monsters_per_player => (3 : UInt16)
  | gameplay_default_radius_attack => (2 : Float)
  | gameplay_default_radius_view => (4 : Float)
  | gameplay_player_default_attack => (10 : UInt32)
  | gameplay_monster_default_attack => (5 : UInt32)
  | gameplay_default_map_blc_x => (0 : Int64)
  | gameplay_default_map_blc_y => (0 : Int64)
  | gameplay_default_map_trc_x => (60 : Int64)
  | gameplay_default_map_trc_y => (30 : Int64)
  | logger_level => "info".toList
  | logger_output_dir => "./logs".toList
  | logger_format => "json".toList

end Field

/-- The keys and the fields they are bound to. -/
def kHandlers : List (Text × Field) :=
  [ -- Server
    ("server.host".toList, .server_host),
    ("server.port".toList, .server_port),
    ("server.max_players".toList, .server_max_players),
    ("server.tick_rate_ms".toList, .server_tick_rate),
    ("server.client_disconnect_timeout_sec".toList, .server_client_disconnect_timeout),
    -- Database
    ("database.connection_string".toList, .database_connection_string),
    ("database.pool_size".toList, .database_pool_size),
    -- Gameplay
    ("gameplay.lobby_max_players".toList, .gameplay_lobby_max_players),
    ("gameplay.map_name".toList, .gameplay_map_name),
    ("gameplay.match_duration_sec".toList, .gameplay_match_duration),
    ("gameplay.player_default_hp".toList, .gameplay_player_default_hp),
    ("gameplay.monster_default_hp".toList, .gameplay_monster_default_hp),
    ("gameplay.monsters_per_player".toList, .gameplay_monsters_per_player),
    ("gameplay.default_radius_attack".toList, .gameplay_default_radius_attack),
    ("gameplay.default_radius_view".toList, .gameplay_default_radius_view),
    ("gameplay.player_default_attack".toList, .gameplay_player_default_attack),
    ("gameplay.monster_default_attack".toList, .gameplay_monster_default_attack),
    ("gameplay.default_map_blc_x".toList, .gameplay_default_map_blc_x),
    ("gameplay.default_map_blc_y".toList, .gameplay_default_map_blc_y),
    ("gameplay.default_map_trc_x".toList, .gameplay_default_map_trc_x),
    ("gameplay.default_map_trc_y".toList, .gameplay_default_map_trc_y),
    -- Logger
    ("logger.level".toList, .logger_level),
    ("logger.output_dir".toList, .logger_output_dir),
    ("logger.format".toList, .logger_format)]

end Settings

structure Settings where
  known : (f : Settings.Field) → f.type.Value
  dynamic_ : Finmap fun _ : Text => Text

namespace Settings

def start : Settings := ⟨Field.default, ∅⟩

variable (cast : LexicalCast)

/-- Setting a field to what a text converts to; `none` is the exception of the conversion. -/
def bind_field (f : Field) (s : Settings) (value : Text) : Option Settings :=
  (assign_field cast f.type value).map fun v => { s with known := Function.update s.known f v }

/-- What a key and a text do to the settings. Both the document and the environment do it. -/
def overrideSetting (s : Settings) (key value : Text) : Settings :=
  match kHandlers.lookup key with
  | none => { s with dynamic_ := s.dynamic_.insert key value }
  | some f => (bind_field cast f s value).getD s

/-! ### The document -/

/-- The key of a member, which at the root has nothing before it. -/
def memberKey (prefix_ key : Text) : Text :=
  if prefix_.isEmpty then key else prefix_ ++ '.' :: key

def elementKey (prefix_ : Text) (i : ℕ) : Text := prefix_ ++ '.' :: decimal i

mutual

def flattenAndStore (s : Settings) (prefix_ : Text) : Json → Settings
  | .object members => storeMembers s prefix_ members
  | .array elements => storeElements s prefix_ 0 elements
  | .string value => overrideSetting cast s prefix_ value
  | .bool b => overrideSetting cast s prefix_ (if b then "true".toList else "false".toList)
  | .other serialized => overrideSetting cast s prefix_ serialized

def storeMembers (s : Settings) (prefix_ : Text) : List (Text × Json) → Settings
  | [] => s
  | (key, value) :: members =>
    storeMembers (flattenAndStore s (memberKey prefix_ key) value) prefix_ members

def storeElements (s : Settings) (prefix_ : Text) (i : ℕ) : List Json → Settings
  | [] => s
  | value :: elements =>
    storeElements (flattenAndStore s (elementKey prefix_ i) value) prefix_ (i + 1) elements

end

/-! ### The environment -/

/-- The name of the variable of a key: dots become underscores, letters upper case. -/
def envKey (key : Text) : Text := (key.map fun c => if c = '.' then '_' else c).map Char.toUpper

abbrev EnvCache := Finmap fun _ : Text => Text

def getEnv (env : Environment) (cache : EnvCache) (key : Text) : Option Text × EnvCache :=
  match cache.lookup key with
  | some value => (some value, cache)
  | none =>
    match env.getenv (envKey key) with
    | some value => (some value, cache.insert key value)
    | none => (none, cache)

/-- One turn of the loop over all keys. -/
def overrideFromEnv (env : Environment) (s : Settings × EnvCache) (key : Text) :
    Settings × EnvCache :=
  match getEnv env s.2 key with
  | (some value, cache) => (overrideSetting cast s.1 key value, cache)
  | (none, cache) => (s.1, cache)

/-- The loading in a fresh process. The tables are visited in any order. -/
def load (env : Environment) (handlerOrder dynamicOrder : IterOrder Text) (doc : Document) :
    Settings :=
  let s := storeMembers cast start [] doc.members
  let allKeys := handlerOrder.list (kHandlers.map Prod.fst).toFinset ++
    dynamicOrder.list s.dynamic_.keys
  (allKeys.foldl (overrideFromEnv cast env) (s, ∅)).1

end Settings

end DungeonCrawler
