import DungeonCrawler.Domain.Dungeon
import DungeonCrawler.Lib.Placement
import DungeonCrawler.Lib.Runs

/-!
Where the entities of a dungeon stand: every operation of a dungeon only puts entities on
available positions, so no two of them ever share one.
-/

namespace DungeonCrawler

namespace Spawner

open EntityManager Finmap

variable {Id : Type} [DecidableEq Id]

/-- Spawning adds the entity on an available position or leaves the table as it was. -/
lemma spawnEntity_at (isAvailable : Position → Bool) (data : EntityData)
    (manager : EntityManager Id) (id : Id) (gen : PositionGenerator) :
    (spawnEntity isAvailable data manager id gen).2.1 = manager ∨
      ∃ pos, isAvailable pos ∧ (spawnEntity isAvailable data manager id gen).2.1.at_ =
        Function.update manager.at_ id (some pos) := by
  unfold spawnEntity
  dsimp only
  split_ifs with hid ha
  · exact Or.inl rfl
  · exact Or.inl rfl
  · right
    have hid' : id ∉ manager.entities_ := by
      rw [← lookup_eq_none]
      simpa [getEntity] using hid
    exact ⟨_, by simpa using ha, addEntity_at data hid'⟩

end Spawner

namespace Dungeon

open Placement Runs

/-- The positions that entities may stand on. -/
def floor (map : GameMap) : Set Position := { pos | map.isAvailable pos }

/-- Players and monsters are the pieces, positions the cells. -/
def placement (d : Dungeon) : PlayerId ⊕ MobId → Option Position :=
  Sum.elim d.players_.at_ d.monsters_.at_

variable {cfg : Gameplay} {d d' d'' : Dungeon} {pos : Position}

lemma isAvailable_iff :
    d.isAvailable pos ↔ pos ∈ floor d.game_map_ ∧ Vacant d.placement pos := by
  simp only [isAvailable, CollisionChecker.isAvailable, Bool.and_eq_true, Bool.not_eq_true',
    ← Bool.not_eq_true, EntityManager.isOccupied_iff, floor, Set.mem_ofPred_eq, Vacant,
    placement, Sum.forall, Sum.elim_inl, Sum.elim_inr, not_exists, and_assoc]

/-- The second dungeon comes from the first by puts on the same map. -/
structure Follows (d d' : Dungeon) : Prop where
  game_map : d'.game_map_ = d.game_map_
  puts : Puts (floor d.game_map_) d.placement d'.placement

lemma Follows.refl : Follows d d := ⟨rfl, .refl⟩

lemma Follows.trans (h : Follows d d') (h' : Follows d' d'') : Follows d d'' :=
  ⟨h'.game_map.trans h.game_map, h.puts.trans (h.game_map ▸ h'.puts)⟩

lemma Follows.foldl {γ : Type} {f : Dungeon → γ → Dungeon} (hf : ∀ d x, Follows d (f d x))
    (l : List γ) : Follows d (l.foldl f d) := by
  induction l generalizing d with
  | nil => exact .refl
  | cons x l ih => exact (hf d x).trans ih

lemma Follows.iterate {f : Dungeon → Dungeon} (hf : ∀ d, Follows d (f d)) (n : ℕ) :
    Follows d (f^[n] d) := by
  induction n generalizing d with
  | zero => exact .refl
  | succ n ih =>
    rw [Function.iterate_succ_apply]
    exact (hf d).trans ih

lemma Follows.of_at (hm : d'.game_map_ = d.game_map_) (hp : d'.players_.at_ = d.players_.at_)
    (hq : d'.monsters_.at_ = d.monsters_.at_) : Follows d d' := by
  refine ⟨hm, ?_⟩
  rw [show d'.placement = d.placement by simp only [placement, hp, hq]]
  exact .refl

lemma Follows.put_player {id : PlayerId} (hm : d'.game_map_ = d.game_map_)
    (ha : d.isAvailable pos)
    (hp : d'.players_.at_ = Function.update d.players_.at_ id (some pos))
    (hq : d'.monsters_.at_ = d.monsters_.at_) : Follows d d' := by
  obtain ⟨hf, hv⟩ := isAvailable_iff.mp ha
  refine ⟨hm, .put (i := .inl id) hf hv (by simp [placement, hp]) ?_⟩
  rintro (j | j) hj
  · have : j ≠ id := fun h => hj (by rw [h])
    simp [placement, hp, this]
  · simp [placement, hq]

lemma Follows.put_monster {id : MobId} (hm : d'.game_map_ = d.game_map_)
    (ha : d.isAvailable pos) (hp : d'.players_.at_ = d.players_.at_)
    (hq : d'.monsters_.at_ = Function.update d.monsters_.at_ id (some pos)) :
    Follows d d' := by
  obtain ⟨hf, hv⟩ := isAvailable_iff.mp ha
  refine ⟨hm, .put (i := .inr id) hf hv (by simp [placement, hq]) ?_⟩
  rintro (j | j) hj
  · simp [placement, hp]
  · have : j ≠ id := fun h => hj (by rw [h])
    simp [placement, hq, this]

/-! ### Every operation follows -/

lemma spawnPlayer_follows (d : Dungeon) (playerId : PlayerId) :
    Follows d (d.spawnPlayer cfg playerId) := by
  rcases Spawner.spawnEntity_at d.isAvailable (getCfgPlayerData cfg) d.players_ playerId
    d.pos_gen_ with h | ⟨pos, ha, h⟩
  · exact .of_at rfl (by simp only [spawnPlayer, h]) rfl
  · exact .put_player rfl ha h rfl

lemma spawnMonster_follows (d : Dungeon) : Follows d (d.spawnMonster cfg) := by
  rcases Spawner.spawnEntity_at d.isAvailable (getCfgMonsterData cfg) d.monsters_
    ⟨d.mob_id_counter_⟩ d.pos_gen_ with h | ⟨pos, ha, h⟩
  · exact .of_at rfl rfl (by simp only [spawnMonster, h])
  · exact .put_monster rfl ha rfl h

lemma runCommand_follows (ord : IterOrder MobId) (d : Dungeon) (c : Command) :
    Follows d (d.runCommand ord c) := by
  cases c with
  | attack player_id damage =>
    simp only [runCommand]
    split
    · exact .refl
    · split
      · exact .refl
      · split
        · exact .refl
        · exact .of_at rfl rfl (EntityManager.modifyEntity_at fun e => e.damage_position _)
  | move player_id direction =>
    simp only [runCommand]
    split
    · exact .refl
    · split_ifs with _ ha
      · exact .refl
      · rcases d.players_.moveEntity_at player_id direction with h | h
        · exact .put_player rfl ha h rfl
        · exact .of_at rfl (by rw [h]) rfl
      · exact .refl

lemma moveMonster_follows (ord : IterOrder MobId) (d : Dungeon) (draw : ℕ × Direction) :
    Follows d (d.moveMonster ord draw) := by
  obtain ⟨idx, dir⟩ := draw
  unfold moveMonster
  dsimp only
  split
  · exact .refl
  · rename_i id monster _
    split_ifs with _ ha
    · exact .refl
    · rcases d.monsters_.moveEntity_at id dir with h | h
      · exact .put_monster rfl ha rfl h
      · exact .of_at rfl rfl (by rw [h])
    · exact .refl

lemma attackPlayer_follows (outcomes : TickOutcomes) (attackPower : HP) (d : Dungeon)
    (idx : ℕ) : Follows d (d.attackPlayer outcomes attackPower idx) := by
  unfold attackPlayer
  split
  · exact .refl
  · split
    · exact .refl
    · split
      · exact .refl
      · refine .of_at rfl (EntityManager.modifyEntity_at fun e => ?_) rfl
        split_ifs
        · exact e.damage_position _
        · rfl

lemma monsterTurn_follows (cfg : Gameplay) (outcomes : TickOutcomes) (d : Dungeon) :
    Follows d (d.monsterTurn cfg outcomes) := by
  unfold monsterTurn
  split_ifs
  · have moved : Follows d (moveRandomMonsters outcomes outcomes.moveCount d) :=
      .foldl (fun d _ => moveMonster_follows _ d _) _
    exact moved.trans (.foldl (fun d _ => attackPlayer_follows _ _ d _) _)
  · exact .refl

lemma processTick_follows (outcomes : TickOutcomes) (d : Dungeon) :
    Follows d (d.processTick cfg outcomes).2 := by
  have emptied : Follows d { d with command_queue_ := [] } := .of_at rfl rfl rfl
  have commands := emptied.trans
    (.foldl (runCommand_follows outcomes.monsterOrder) d.command_queue_)
  have monsters := commands.trans (monsterTurn_follows cfg outcomes _)
  unfold processTick
  dsimp only
  split_ifs <;> exact monsters

lemma step_follows (d : Dungeon) (c : Call) : Follows d (step cfg d c) := by
  cases c with
  | addPlayerAttackCommand player_id damage => exact .of_at rfl rfl rfl
  | addMovePlayerCommand player_id direction => exact .of_at rfl rfl rfl
  | processTick outcomes => exact processTick_follows outcomes d

/-! ### Legal placements -/

/-- All entities, dead or alive, stand inside the map and on no barrier, and no two of them
on the same position. -/
structure Separated (map : GameMap) (d : Dungeon) : Prop where
  players_on_map : ∀ id e, d.players_.getEntity id = some e →
    map.isInMap e.position_ ∧ ¬ map.isBarrier e.position_
  monsters_on_map : ∀ id e, d.monsters_.getEntity id = some e →
    map.isInMap e.position_ ∧ ¬ map.isBarrier e.position_
  players_apart : ∀ id id' e e', d.players_.getEntity id = some e →
    d.players_.getEntity id' = some e' → id ≠ id' → e.position_ ≠ e'.position_
  monsters_apart : ∀ id id' e e', d.monsters_.getEntity id = some e →
    d.monsters_.getEntity id' = some e' → id ≠ id' → e.position_ ≠ e'.position_
  player_monster_apart : ∀ id id' e e', d.players_.getEntity id = some e →
    d.monsters_.getEntity id' = some e' → e.position_ ≠ e'.position_

lemma at_of_getEntity {Id : Type} [DecidableEq Id] {m : EntityManager Id} {id : Id}
    {e : Entity Id} (h : m.getEntity id = some e) : m.at_ id = some e.position_ := by
  rw [EntityManager.at_, show m.entities_.lookup id = some e from h]
  rfl

lemma mem_floor {map : GameMap} :
    pos ∈ floor map ↔ map.isInMap pos ∧ ¬ map.isBarrier pos := by
  simp [floor, GameMap.isAvailable]

lemma separated_of_legal {map : GameMap} (h : Legal (floor map) d.placement) :
    d.Separated map where
  players_on_map id _ he := mem_floor.mp (h.on_floor (.inl id) _ (at_of_getEntity he))
  monsters_on_map id _ he := mem_floor.mp (h.on_floor (.inr id) _ (at_of_getEntity he))
  players_apart id id' _ _ he he' hne hpos := hne <| Sum.inl_injective <|
    h.apart (.inl id) (.inl id') _ (at_of_getEntity he) (hpos ▸ at_of_getEntity he')
  monsters_apart id id' _ _ he he' hne hpos := hne <| Sum.inr_injective <|
    h.apart (.inr id) (.inr id') _ (at_of_getEntity he) (hpos ▸ at_of_getEntity he')
  player_monster_apart id id' _ _ he he' hpos := Sum.inl_ne_inr <|
    h.apart (.inl id) (.inr id') _ (at_of_getEntity he) (hpos ▸ at_of_getEntity he')

/-- The construction puts entities on an empty map. -/
lemma create_follows (game_map : GameMap) (players : List PlayerId)
    (gen : PositionGenerator) :
    Follows ⟨game_map, .empty, .empty, gen, [], 0⟩ (create cfg game_map players gen) := by
  have spawned : Follows ⟨game_map, .empty, .empty, gen, [], 0⟩
    (players.foldl (spawnPlayer cfg) ⟨game_map, .empty, .empty, gen, [], 0⟩) :=
    .foldl spawnPlayer_follows players
  exact spawned.trans (.iterate spawnMonster_follows _)

lemma run_follows (cfg : Gameplay) (d : Dungeon) (calls : List Call) :
    Follows d (run (step cfg) d calls) := .foldl step_follows calls

/-- **Entities keep apart.** In every state of every run of a dungeon, whatever the map, the
players, the commands and the outcomes of chance, all entities stand inside the map, none on
a barrier, and no two on the same position. -/
theorem always_separated (cfg : Gameplay) (game_map : GameMap) (players : List PlayerId)
    (gen : PositionGenerator) (calls : List Call) :
    Always (step cfg) (Separated game_map) (create cfg game_map players gen) calls := by
  intro calls₁ calls₂ _
  have hf := (create_follows game_map players gen).trans
    (run_follows cfg (create cfg game_map players gen) calls₁)
  refine separated_of_legal (hf.puts.legal ?_)
  rw [show placement ⟨game_map, .empty, .empty, gen, [], 0⟩ = fun _ => none by
    funext i
    cases i <;> simp [placement, EntityManager.at_empty]]
  exact Legal.empty

end Dungeon

end DungeonCrawler
