import DungeonCrawler.Domain.Dungeon
import DungeonCrawler.Lib.Fibers
import DungeonCrawler.Lib.Runs

/-!
The registry of running dungeons, and why its three tables never disagree.

A dungeon is reached through a shared pointer in the source; here the table holds its state,
and a dungeon that ticked or took a command is put back under its number.
-/

namespace DungeonCrawler

structure DungeonRegistry where
  dungeons_ : Finmap fun _ : GameId => Dungeon
  player_to_dungeon_ : Finmap fun _ : PlayerId => GameId
  dungeon_to_players_ : Finmap fun _ : GameId => List PlayerId
  next_game_id_ : GameId

namespace DungeonRegistry

open Finmap

def empty : DungeonRegistry := ⟨∅, ∅, ∅, ⟨1⟩⟩

def generateNextId (r : DungeonRegistry) : GameId × DungeonRegistry :=
  (r.next_game_id_, { r with next_game_id_ := ⟨r.next_game_id_.value + 1⟩ })

/-- The positions drawn for spawning are those of the generator. -/
def addDungeon (cfg : Gameplay) (r : DungeonRegistry) (game_map : GameMap)
    (player_ids : List PlayerId) (pos_gen : PositionGenerator) : Bool × DungeonRegistry :=
  if player_ids.isEmpty then (false, r)
  else if player_ids.toFinset.card ≠ player_ids.length then (false, r)
  else if player_ids.any fun pid => pid ∈ r.player_to_dungeon_ then (false, r)
  else
    let dungeon := Dungeon.create cfg game_map player_ids pos_gen
    let (id, r) := r.generateNextId
    if id ∈ r.dungeons_ then (false, r)
    else
      (true, { r with
        dungeons_ := r.dungeons_.insert id dungeon
        player_to_dungeon_ :=
          player_ids.foldl (fun m pid => m.emplace pid id) r.player_to_dungeon_
        dungeon_to_players_ := r.dungeon_to_players_.emplace id player_ids })

def removeDungeon (r : DungeonRegistry) (id : GameId) : Bool × DungeonRegistry :=
  if id ∉ r.dungeons_ then (false, r)
  else
    let r := match r.dungeon_to_players_.lookup id with
      | some players =>
        { r with
          player_to_dungeon_ := players.foldl (fun m pid => m.erase pid) r.player_to_dungeon_
          dungeon_to_players_ := r.dungeon_to_players_.erase id }
      | none => r
    (true, { r with dungeons_ := r.dungeons_.erase id })

def findDungeon (r : DungeonRegistry) (id : GameId) : Option Dungeon := r.dungeons_.lookup id

def findPlayerDungeon (r : DungeonRegistry) (player_id : PlayerId) : Option GameId :=
  r.player_to_dungeon_.lookup player_id

def getAllDungeons (r : DungeonRegistry) : Finmap fun _ : GameId => Dungeon := r.dungeons_

/-- The registry after a call on one of its dungeons. -/
def withDungeon (r : DungeonRegistry) (id : GameId) (dungeon : Dungeon) : DungeonRegistry :=
  { r with dungeons_ := r.dungeons_.insert id dungeon }

/-! ### What the two operations do -/

/-- The tables of the two registries are the same. -/
structure SameTables (r r' : DungeonRegistry) : Prop where
  dungeons : r'.dungeons_ = r.dungeons_
  player_to_dungeon : r'.player_to_dungeon_ = r.player_to_dungeon_
  dungeon_to_players : r'.dungeon_to_players_ = r.dungeon_to_players_

/-- The players may be given a dungeon. -/
structure Admissible (r : DungeonRegistry) (player_ids : List PlayerId) : Prop where
  nonempty : player_ids ≠ []
  nodup : player_ids.Nodup
  free : ∀ p ∈ player_ids, p ∉ r.player_to_dungeon_

/-- The registry with a new dungeon under the number it was at. -/
def added (cfg : Gameplay) (r : DungeonRegistry) (game_map : GameMap)
    (player_ids : List PlayerId) (pos_gen : PositionGenerator) : DungeonRegistry where
  dungeons_ := r.dungeons_.insert r.next_game_id_
    (Dungeon.create cfg game_map player_ids pos_gen)
  player_to_dungeon_ :=
    player_ids.foldl (fun m pid => m.emplace pid r.next_game_id_) r.player_to_dungeon_
  dungeon_to_players_ := r.dungeon_to_players_.emplace r.next_game_id_ player_ids
  next_game_id_ := ⟨r.next_game_id_.value + 1⟩

variable {cfg : Gameplay} {r r' : DungeonRegistry} {game_map : GameMap}
variable {player_ids : List PlayerId} {pos_gen : PositionGenerator} {p : PlayerId} {g : GameId}

/-- Players are refused, or the number is taken and lost, or the dungeon is added. -/
lemma addDungeon_cases (cfg : Gameplay) (r : DungeonRegistry) (game_map : GameMap)
    (player_ids : List PlayerId) (pos_gen : PositionGenerator) :
    (¬ r.Admissible player_ids ∧
      r.addDungeon cfg game_map player_ids pos_gen = (false, r)) ∨
    (r.Admissible player_ids ∧ r.next_game_id_ ∈ r.dungeons_ ∧
      r.addDungeon cfg game_map player_ids pos_gen = (false, r.generateNextId.2)) ∨
    (r.Admissible player_ids ∧ r.next_game_id_ ∉ r.dungeons_ ∧
      r.addDungeon cfg game_map player_ids pos_gen =
        (true, r.added cfg game_map player_ids pos_gen)) := by
  unfold addDungeon
  split_ifs with hempty hdup hbusy
  · exact Or.inl ⟨fun h => h.nonempty (List.isEmpty_iff.mp hempty), rfl⟩
  · exact Or.inl ⟨fun h => hdup (List.toFinset_card_of_nodup h.nodup), rfl⟩
  · obtain ⟨p, hp, hpd⟩ := List.any_eq_true.mp hbusy
    exact Or.inl ⟨fun h => h.free p hp (by simpa using hpd), rfl⟩
  · right
    have admissible : r.Admissible player_ids := by
      refine ⟨fun h => hempty (by simp [h]), ?_, fun p hp hpd => hbusy ?_⟩
      · exact Multiset.coe_nodup.mp (Multiset.toFinset_card_eq_card_iff_nodup.mp
          (not_not.mp hdup))
      · exact List.any_eq_true.mpr ⟨p, hp, by simpa using hpd⟩
    by_cases hid : r.next_game_id_ ∈ r.dungeons_
    · exact Or.inl ⟨admissible, hid, by simp [generateNextId, hid]⟩
    · exact Or.inr ⟨admissible, hid, by simp [generateNextId, hid, added]⟩

/-- The players of a new dungeon come to those of the others. -/
lemma Admissible.mem_added (h : r.Admissible player_ids) :
    p ∈ (r.added cfg game_map player_ids pos_gen).player_to_dungeon_ ↔
      p ∈ player_ids ∨ p ∈ r.player_to_dungeon_ := by
  rw [← lookup_isSome, ← lookup_isSome, added, lookup_foldl_emplace _ h.free]
  split_ifs with hp <;> simp [hp]

/-- The registry without a dungeon and its players. -/
def removed (r : DungeonRegistry) (id : GameId) (players : List PlayerId) : DungeonRegistry :=
  { r with
    dungeons_ := r.dungeons_.erase id
    player_to_dungeon_ := players.foldl (fun m pid => m.erase pid) r.player_to_dungeon_
    dungeon_to_players_ := r.dungeon_to_players_.erase id }

lemma removeDungeon_of_notMem (hg : g ∉ r.dungeons_) : r.removeDungeon g = (false, r) :=
  if_pos hg

lemma removeDungeon_of_lookup (hg : g ∈ r.dungeons_)
    (hp : r.dungeon_to_players_.lookup g = some player_ids) :
    r.removeDungeon g = (true, r.removed g player_ids) := by
  simp [removeDungeon, hg, hp, removed]

/-! ### The invariant -/

/-- The three tables agree, and the players of a dungeon are listed once each. -/
structure Sound (r : DungeonRegistry) : Prop where
  same_keys : ∀ g, g ∈ r.dungeons_ ↔ g ∈ r.dungeon_to_players_
  in_list : ∀ p g, r.player_to_dungeon_.lookup p = some g ↔
    ∃ players, r.dungeon_to_players_.lookup g = some players ∧ p ∈ players
  nonempty : ∀ g players, r.dungeon_to_players_.lookup g = some players → players ≠ []
  nodup : ∀ g players, r.dungeon_to_players_.lookup g = some players → players.Nodup

lemma Sound.fibers (h : r.Sound) :
    Fibers (fun (players : List PlayerId) p => p ∈ players) r.player_to_dungeon_
      r.dungeon_to_players_ := h.in_list

lemma sound_empty : empty.Sound where
  same_keys _ := iff_of_false notMem_empty notMem_empty
  in_list := Fibers.empty
  nonempty := by simp [empty]
  nodup := by simp [empty]

lemma Sound.players_of_mem (h : r.Sound) (hg : g ∈ r.dungeons_) :
    ∃ players, r.dungeon_to_players_.lookup g = some players :=
  mem_iff.mp ((h.same_keys g).mp hg)

/-- Only the numbers of the dungeons matter, not their states. -/
lemma Sound.of_same (h : r.Sound) (hd : ∀ g, g ∈ r'.dungeons_ ↔ g ∈ r.dungeons_)
    (hp : r'.player_to_dungeon_ = r.player_to_dungeon_)
    (hl : r'.dungeon_to_players_ = r.dungeon_to_players_) : r'.Sound where
  same_keys g := by rw [hd, hl, h.same_keys]
  in_list p g := by rw [hp, hl, h.in_list]
  nonempty g := by rw [hl]; exact h.nonempty g
  nodup g := by rw [hl]; exact h.nodup g

/-- The checks of the addition are what the tables need to stay in step. -/
lemma Sound.added (h : r.Sound) (ha : r.Admissible player_ids)
    (hid : r.next_game_id_ ∉ r.dungeons_) :
    (r.added cfg game_map player_ids pos_gen).Sound := by
  have hlist : r.next_game_id_ ∉ r.dungeon_to_players_ := fun hm =>
    hid ((h.same_keys _).mpr hm)
  have emplaced : (r.added cfg game_map player_ids pos_gen).dungeon_to_players_ =
    r.dungeon_to_players_.insert r.next_game_id_ player_ids := emplace_of_notMem hlist _
  have lists : ∀ g players, (r.added cfg game_map player_ids pos_gen).dungeon_to_players_.lookup
      g = some players → players = player_ids ∨
        r.dungeon_to_players_.lookup g = some players := by
    intro g players hg
    rw [emplaced, lookup_insert_ite] at hg
    split_ifs at hg
    · exact Or.inl (Option.some.inj hg).symm
    · exact Or.inr hg
  refine ⟨fun g => ?_, ?_, fun g players hg => ?_, fun g players hg => ?_⟩
  · rw [emplaced]
    simp [DungeonRegistry.added, mem_insert, h.same_keys]
  · intro p g
    rw [emplaced]
    exact h.fibers.found hlist ha.free (fun _ => Iff.rfl) p g
  · rcases lists g players hg with rfl | hg
    · exact ha.nonempty
    · exact h.nonempty g players hg
  · rcases lists g players hg with rfl | hg
    · exact ha.nodup
    · exact h.nodup g players hg

lemma Sound.addDungeon (h : r.Sound) :
    (r.addDungeon cfg game_map player_ids pos_gen).2.Sound := by
  rcases addDungeon_cases cfg r game_map player_ids pos_gen with
    ⟨-, he⟩ | ⟨-, -, he⟩ | ⟨ha, hid, he⟩ <;> rw [he]
  · exact h
  · exact h.of_same (fun _ => Iff.rfl) rfl rfl
  · exact h.added ha hid

lemma Sound.removeDungeon (h : r.Sound) (g : GameId) : (r.removeDungeon g).2.Sound := by
  by_cases hg : g ∈ r.dungeons_
  · obtain ⟨players, hp⟩ := h.players_of_mem hg
    rw [removeDungeon_of_lookup hg hp]
    have lists : ∀ g' players', (r.dungeon_to_players_.erase g).lookup g' = some players' →
        r.dungeon_to_players_.lookup g' = some players' := by
      intro g' players' hg'
      rw [lookup_erase_ite] at hg'
      split_ifs at hg'
      exact hg'
    refine ⟨fun g' => ?_, h.fibers.disband hp fun _ => Iff.rfl,
      fun g' players' hg' => h.nonempty g' players' (lists g' players' hg'),
      fun g' players' hg' => h.nodup g' players' (lists g' players' hg')⟩
    simp [removed, mem_erase, h.same_keys]
  · rwa [removeDungeon_of_notMem hg]

lemma Sound.withDungeon (h : r.Sound) (hg : g ∈ r.dungeons_) (dungeon : Dungeon) :
    (r.withDungeon g dungeon).Sound := by
  refine h.of_same (fun g' => ?_) rfl rfl
  rw [DungeonRegistry.withDungeon, mem_insert, or_iff_right_of_imp]
  rintro rfl
  exact hg

/-- No player is in two dungeons. -/
lemma Sound.one_dungeon (h : r.Sound) {g g' : GameId} {players players' : List PlayerId}
    (hg : r.dungeon_to_players_.lookup g = some players)
    (hg' : r.dungeon_to_players_.lookup g' = some players') (hp : p ∈ players)
    (hp' : p ∈ players') : g = g' := by
  have hlookup := h.fibers.lookup_eq hg hp
  rw [h.fibers.lookup_eq hg' hp'] at hlookup
  exact (Option.some.inj hlookup).symm

lemma sameTables_of_addDungeon_false
    (hf : (r.addDungeon cfg game_map player_ids pos_gen).1 = false) :
    SameTables r (r.addDungeon cfg game_map player_ids pos_gen).2 := by
  rcases addDungeon_cases cfg r game_map player_ids pos_gen with
    ⟨-, he⟩ | ⟨-, -, he⟩ | ⟨-, -, he⟩ <;> rw [he] at hf ⊢
  · exact ⟨rfl, rfl, rfl⟩
  · exact ⟨rfl, rfl, rfl⟩
  · cases hf

lemma removeDungeon_true_of_mem (hg : g ∈ r.dungeons_) : (r.removeDungeon g).1 = true := by
  simp [removeDungeon, hg]

lemma sameTables_of_removeDungeon_false (hf : (r.removeDungeon g).1 = false) :
    SameTables r (r.removeDungeon g).2 := by
  by_cases hg : g ∈ r.dungeons_
  · rw [removeDungeon_true_of_mem hg] at hf
    cases hf
  · rw [removeDungeon_of_notMem hg]
    exact ⟨rfl, rfl, rfl⟩

/-! ### Runs of calls -/

/-- A call on the registry, with the positions drawn where a dungeon is built. -/
inductive Call
  | addDungeon (game_map : GameMap) (player_ids : List PlayerId) (pos_gen : PositionGenerator)
  | removeDungeon (id : GameId)

/-- What a call returns, and the registry after it. -/
def call (cfg : Gameplay) (r : DungeonRegistry) : Call → Bool × DungeonRegistry
  | .addDungeon game_map player_ids pos_gen => r.addDungeon cfg game_map player_ids pos_gen
  | .removeDungeon id => r.removeDungeon id

def step (cfg : Gameplay) (r : DungeonRegistry) (c : Call) : DungeonRegistry := (r.call cfg c).2

lemma Sound.step (h : r.Sound) (c : Call) : (r.step cfg c).Sound := by
  cases c with
  | addDungeon game_map player_ids pos_gen => exact h.addDungeon
  | removeDungeon id => exact h.removeDungeon id

lemma sound_run (cfg : Gameplay) (calls : List Call) : (Runs.run (step cfg) empty calls).Sound :=
  Runs.run_inv (fun _ c h => h.step c) sound_empty calls

/-- The tables agree, no player is in two dungeons, and a call that returns `false` leaves
the tables as they are. -/
structure Consistent (cfg : Gameplay) (r : DungeonRegistry) : Prop extends Sound r where
  one_dungeon : ∀ g g' players players' p, r.dungeon_to_players_.lookup g = some players →
    r.dungeon_to_players_.lookup g' = some players' → p ∈ players → p ∈ players' → g = g'
  failed_call : ∀ c, (r.call cfg c).1 = false → SameTables r (r.call cfg c).2

/-- **The tables of dungeons agree.** In every state of every run of additions and removals,
whatever the maps and the lists of players. -/
theorem always_consistent (cfg : Gameplay) (calls : List Call) :
    Runs.Always (step cfg) (Consistent cfg) empty calls := by
  intro calls₁ _ _
  have sound := sound_run cfg calls₁
  refine ⟨sound, fun g g' players players' p hg hg' => sound.one_dungeon hg hg', fun c => ?_⟩
  cases c with
  | addDungeon game_map player_ids pos_gen => exact sameTables_of_addDungeon_false
  | removeDungeon id => exact sameTables_of_removeDungeon_false

end DungeonRegistry

end DungeonCrawler
