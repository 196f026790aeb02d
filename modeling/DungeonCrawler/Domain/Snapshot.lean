import DungeonCrawler.Domain.Dungeon

/-!
What the snapshot of a dungeon shows of its state.

A snapshot carries signed coordinates in unsigned fields. A reader who takes them for signed
numbers again finds the positions, and the entries are the entities of the state, each once.
-/

namespace DungeonCrawler

/-- The entry depicts the entity of the identifier. -/
structure EntitySnapshot.Depicts {Tag : Type} (entry : EntitySnapshot) (id : StrongId Tag)
    (entity : Entity (StrongId Tag)) : Prop where
  id : entry.id = id.get
  state : entry.state = entity.state_.toUint8
  hp : entry.hp = entity.data_.health
  position : (⟨entry.pos_x.toInt64, entry.pos_y.toInt64⟩ : Position) = entity.position_

/-- The entries are those of a table: one for each entity, of the given type, and no more. -/
structure ShowsTable {Tag : Type} (type : UInt8) (entries : List EntitySnapshot)
    (table : Finmap fun _ : StrongId Tag => Entity (StrongId Tag)) : Prop where
  nodup : (entries.map EntitySnapshot.id).Nodup
  covers : ∀ id entity, table.lookup id = some entity →
    ∃ entry ∈ entries, entry.Depicts id entity
  only : ∀ entry ∈ entries, entry.type = type ∧
    ∃ id entity, table.lookup id = some entity ∧ entry.Depicts id entity

/-- The barrier of an entry. -/
def BarrierSnapshot.position (barrier : BarrierSnapshot) : Position :=
  ⟨barrier.pos_x.toInt64, barrier.pos_y.toInt64⟩

structure GameMapSnapshot.Shows (snapshot : GameMapSnapshot) (map : GameMap) : Prop where
  bottom_left : (⟨snapshot.blc_x.toInt64, snapshot.blc_y.toInt64⟩ : Position) =
    map.map_size_.bottom_left_corner_
  top_right : (⟨snapshot.trc_x.toInt64, snapshot.trc_y.toInt64⟩ : Position) =
    map.map_size_.top_right_corner_
  barriers_nodup : (snapshot.barriers.map BarrierSnapshot.position).Nodup
  barriers : ∀ pos, pos ∈ snapshot.barriers.map BarrierSnapshot.position ↔
    pos ∈ map.barriers_

structure DungeonSnapshot.Shows (snapshot : DungeonSnapshot) (state : DungeonState) : Prop where
  game_map : snapshot.game_map.Shows state.game_map
  players : ShowsTable 0 snapshot.players state.players
  mobs : ShowsTable 1 snapshot.mobs state.monsters

variable {Tag : Type}

lemma makeEntitySnapshot_depicts (id : StrongId Tag) (entity : Entity (StrongId Tag))
    (type : UInt8) : (makeEntitySnapshot id entity type).Depicts id entity := by
  refine ⟨rfl, ?_, rfl, rfl⟩
  cases h : entity.state_ <;> simp [makeEntitySnapshot, Entity.isAlive, h]

lemma StrongId.get_injective : Function.Injective (StrongId.get : StrongId Tag → UInt64) :=
  fun _ _ h => StrongId.ext h

/-- The entries made of a table in any order show it. -/
lemma showsTable_entries (ord : IterOrder (StrongId Tag)) (type : UInt8)
    (table : Finmap fun _ : StrongId Tag => Entity (StrongId Tag)) :
    ShowsTable type
      ((ord.entries table).map fun (id, entity) => makeEntitySnapshot id entity type) table where
  nodup := by
    have ids : ((ord.entries table).map fun (id, entity) =>
        makeEntitySnapshot id entity type).map EntitySnapshot.id =
        (ord.list table.keys).map StrongId.get := by
      rw [← ord.map_fst_entries, List.map_map, List.map_map]
      rfl
    rw [ids]
    exact (ord.nodup_list _).map StrongId.get_injective
  covers id entity h := by
    refine ⟨_, List.mem_map.mpr ⟨(id, entity), ord.mem_entries.mpr h, rfl⟩, ?_⟩
    exact makeEntitySnapshot_depicts id entity type
  only entry hentry := by
    obtain ⟨⟨id, entity⟩, hmem, rfl⟩ := List.mem_map.mp hentry
    exact ⟨rfl, id, entity, ord.mem_entries.mp hmem, makeEntitySnapshot_depicts id entity type⟩

/-- The snapshot made of a state shows it. -/
theorem createGameStateDTO_shows (outcomes : TickOutcomes) (state : DungeonState) :
    (createGameStateDTO outcomes state).Shows state where
  game_map := by
    have positions : (createGameStateDTO outcomes state).game_map.barriers.map
        BarrierSnapshot.position = outcomes.barrierOrder.list state.game_map.barriers_ := by
      show (List.map _ (List.map _ _)) = _
      rw [List.map_map]
      exact List.map_id'' (fun _ => rfl) _
    refine ⟨rfl, rfl, ?_, fun pos => ?_⟩
    · rw [positions]
      exact outcomes.barrierOrder.nodup_list _
    · rw [positions]
      exact outcomes.barrierOrder.mem_list _ pos
  players := showsTable_entries outcomes.playerOrder 0 state.players
  mobs := showsTable_entries outcomes.monsterOrder 1 state.monsters

end DungeonCrawler
