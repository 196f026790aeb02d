import DungeonCrawler.Domain.DungeonPlacement
import DungeonCrawler.Domain.DungeonRegistry
import DungeonCrawler.Domain.DungeonVitals

/-!
Which of the players that a dungeon is made for get into it.

The construction drops what spawning returns. A player for whom no draw was available has no
entity, and the registry books the player all the same.
-/

namespace DungeonCrawler

/-- The `j`-th draw after the `k`-th is the first that meets `ok`, and no more than `n` draws
are lost before it. -/
structure FirstWithin (ok : Position → Prop) (draws : ℕ → Position) (k n j : ℕ) : Prop where
  in_time : j ≤ n
  hit : ok (draws (k + j))
  missed : ∀ i < j, ¬ ok (draws (k + i))

lemma FirstWithin.unique {ok : Position → Prop} {draws : ℕ → Position} {k n j j' : ℕ}
    (h : FirstWithin ok draws k n j) (h' : FirstWithin ok draws k n j') : j = j' := by
  rcases lt_trichotomy j j' with hlt | heq | hlt
  · exact absurd h.hit (h'.missed j hlt)
  · exact heq
  · exact absurd h'.hit (h.missed j' hlt)

lemma FirstWithin.exists_of_hit {ok : Position → Prop} {draws : ℕ → Position} {k n i : ℕ}
    (hi : i ≤ n) (h : ok (draws (k + i))) : ∃ j, FirstWithin ok draws k n j := by
  classical
  have hex : ∃ j, ok (draws (k + j)) := ⟨i, h⟩
  exact ⟨Nat.find hex, (Nat.find_min' hex h).trans hi, Nat.find_spec hex,
    fun _ hj => Nat.find_min hex hj⟩

lemma FirstWithin.now {ok : Position → Prop} {draws : ℕ → Position} {k n : ℕ}
    (h : ok (draws k)) : FirstWithin ok draws k n 0 :=
  ⟨Nat.zero_le _, h, fun _ hi => absurd hi (Nat.not_lt_zero _)⟩

namespace Spawner

open EntityManager Finmap

variable {Id : Type} [DecidableEq Id]
variable {isAvailable : Position → Bool} {draws : ℕ → Position} {k j n : ℕ}
variable {data : EntityData} {manager : EntityManager Id} {id : Id}

/-- The loop stops at the first available draw if that comes in time. -/
lemma drawLoop_found (hj : FirstWithin (isAvailable ·) draws k n j) {attempts : ℕ}
    (ha : attempts + n ≤ kMaxSpawnAttempts + 1) :
    drawLoop isAvailable attempts (draws k) ⟨draws, k + 1⟩ =
      (draws (k + j), ⟨draws, k + j + 1⟩) := by
  induction j generalizing k n attempts with
  | zero =>
    have hit : isAvailable (draws k) := hj.hit
    rw [drawLoop, if_neg (by simp [hit])]
    rfl
  | succ j ih =>
    have hmiss : ¬ isAvailable (draws k) := hj.missed 0 (Nat.succ_pos j)
    have hn := hj.in_time
    have rest : FirstWithin (isAvailable ·) draws (k + 1) (n - 1) j := by
      refine ⟨by omega, ?_, fun i hi => ?_⟩
      · rw [Nat.add_right_comm]
        exact hj.hit
      · rw [Nat.add_right_comm]
        exact hj.missed (i + 1) (by omega)
    rw [drawLoop, if_pos ⟨by simpa using hmiss, by omega⟩]
    simp only [PositionGenerator.generate]
    rw [ih rest (by omega), Nat.add_right_comm]
    rfl

/-- If none in time is available, the loop ends on the last of them. -/
lemma drawLoop_missed (hn : ∀ i < n, ¬ isAvailable (draws (k + i))) {attempts : ℕ}
    (ha : attempts + n = kMaxSpawnAttempts + 1) :
    drawLoop isAvailable attempts (draws k) ⟨draws, k + 1⟩ =
      (draws (k + n), ⟨draws, k + n + 1⟩) := by
  induction n generalizing k attempts with
  | zero =>
    rw [drawLoop, if_neg (by omega)]
    rfl
  | succ n ih =>
    have hmiss : ¬ isAvailable (draws k) := hn 0 (Nat.succ_pos n)
    have next : ∀ i < n, ¬ isAvailable (draws (k + 1 + i)) := fun i hi => by
      rw [Nat.add_right_comm]
      exact hn (i + 1) (by omega)
    rw [drawLoop, if_pos ⟨by simpa using hmiss, by omega⟩]
    simp only [PositionGenerator.generate]
    rw [ih next (by omega), Nat.add_right_comm]
    rfl

lemma spawnEntity_found (hid : id ∉ manager.entities_)
    (hj : FirstWithin (isAvailable ·) draws k kMaxSpawnAttempts j) :
    spawnEntity isAvailable data manager id ⟨draws, k⟩ =
      (true, ⟨manager.entities_.insert id ⟨id, draws (k + j), data, .Alive⟩⟩,
        ⟨draws, k + j + 1⟩) := by
  have hnone : manager.getEntity id = none := lookup_eq_none.mpr hid
  have hit : isAvailable (draws (k + j)) := hj.hit
  simp [spawnEntity, hnone, PositionGenerator.generate,
    drawLoop_found hj (show 1 + kMaxSpawnAttempts ≤ _ by omega), hit, addEntity, hid]

/-- A spawning that meets no available position gives up after one draw more than the
attempts. -/
lemma spawnEntity_exhausted (hid : id ∉ manager.entities_)
    (missed : ∀ i ≤ kMaxSpawnAttempts, ¬ isAvailable (draws (k + i))) :
    spawnEntity isAvailable data manager id ⟨draws, k⟩ =
      (false, manager, ⟨draws, k + kMaxSpawnAttempts + 1⟩) := by
  have hnone : manager.getEntity id = none := lookup_eq_none.mpr hid
  have hend := drawLoop_missed (fun i hi => missed i hi.le) (Nat.add_comm 1 kMaxSpawnAttempts)
  simp [spawnEntity, hnone, PositionGenerator.generate, hend, missed _ le_rfl]

lemma spawnEntity_present (hid : id ∈ manager.entities_) (gen : PositionGenerator) :
    spawnEntity isAvailable data manager id gen = (false, manager, gen) := by
  have hsome : (manager.getEntity id).isSome := by
    rw [getEntity, lookup_isSome]
    exact hid
  rw [spawnEntity, if_pos hsome]

lemma spawnEntity_missed (h : ∀ j, ¬ FirstWithin (isAvailable ·) draws k kMaxSpawnAttempts j) :
    (spawnEntity isAvailable data manager id ⟨draws, k⟩).2.1 = manager := by
  by_cases hid : id ∈ manager.entities_
  · rw [spawnEntity_present hid]
  · rw [spawnEntity_exhausted hid fun i hi hok => (FirstWithin.exists_of_hit hi hok).elim h]

lemma mem_spawnEntity {gen : PositionGenerator} {id' : Id} (h : id' ∈ manager.entities_) :
    id' ∈ (spawnEntity isAvailable data manager id gen).2.1.entities_ := by
  simp only [spawnEntity, addEntity]
  split_ifs <;> simp [h, mem_insert]

lemma mem_of_mem_spawnEntity {gen : PositionGenerator} {id' : Id}
    (h : id' ∈ (spawnEntity isAvailable data manager id gen).2.1.entities_) :
    id' ∈ manager.entities_ ∨ id' = id := by
  simp only [spawnEntity, addEntity] at h
  split_ifs at h
  · exact Or.inl h
  · exact Or.inl h
  · exact Or.inl h
  · exact (mem_insert.mp h).symm

end Spawner

/-- The players to be placed find room one after the other: each meets, within the draws of
one spawning, a position that the map offers and no player before took. -/
def FindsRoom (map : GameMap) (draws : ℕ → Position) : List Position → ℕ → ℕ → Prop
  | _, _, 0 => True
  | taken, k, players + 1 =>
    ∃ j, FirstWithin (fun pos => map.isAvailable pos ∧ pos ∉ taken) draws k
        Spawner.kMaxSpawnAttempts j ∧
      FindsRoom map draws (draws (k + j) :: taken) (k + j + 1) players

namespace Dungeon

open EntityManager Finmap Spawner

variable {cfg : Gameplay} {map : GameMap} {taken : List Position} {d : Dungeon}
variable {ps : List PlayerId} {p q : PlayerId}

/-- A dungeon in which only players stand, on the positions listed. -/
structure Crowd (map : GameMap) (taken : List Position) (d : Dungeon) : Prop where
  game_map : d.game_map_ = map
  no_monsters : d.monsters_ = .empty
  occupied : ∀ pos, d.players_.isOccupied pos ↔ pos ∈ taken

lemma Crowd.isAvailable_iff (h : d.Crowd map taken) (pos : Position) :
    d.isAvailable pos ↔ map.isAvailable pos ∧ pos ∉ taken := by
  have vacant : (EntityManager.empty : EntityManager MobId).isOccupied pos = false := by
    simp [EntityManager.isOccupied, EntityManager.empty]
  simp only [isAvailable, CollisionChecker.isAvailable, h.game_map, h.no_monsters, vacant,
    Bool.and_eq_true, Bool.not_eq_true', Bool.not_false, and_true, ← h.occupied pos,
    Bool.not_eq_true]

lemma Crowd.firstWithin_iff (h : d.Crowd map taken) {draws : ℕ → Position} {k n j : ℕ} :
    FirstWithin (d.isAvailable ·) draws k n j ↔
      FirstWithin (fun pos => map.isAvailable pos ∧ pos ∉ taken) draws k n j := by
  have same : (fun pos => (d.isAvailable pos : Prop)) =
      fun pos => map.isAvailable pos ∧ pos ∉ taken := by
    funext pos
    exact propext (h.isAvailable_iff pos)
  rw [same]

/-- A player who finds room stands on the draw it found. -/
lemma Crowd.spawnPlayer_found (h : d.Crowd map taken) (hp : p ∉ d.players_.entities_) {j : ℕ}
    (hj : FirstWithin (fun pos => map.isAvailable pos ∧ pos ∉ taken) d.pos_gen_.draws
      d.pos_gen_.taken kMaxSpawnAttempts j) :
    (d.spawnPlayer cfg p).Crowd map (d.pos_gen_.draws (d.pos_gen_.taken + j) :: taken) ∧
      p ∈ (d.spawnPlayer cfg p).players_.entities_ ∧
      (d.spawnPlayer cfg p).pos_gen_ = ⟨d.pos_gen_.draws, d.pos_gen_.taken + j + 1⟩ := by
  have hspawn : spawnEntity d.isAvailable (getCfgPlayerData cfg) d.players_ p d.pos_gen_ = _ :=
    spawnEntity_found hp (h.firstWithin_iff.mpr hj)
  have hplayers : (d.spawnPlayer cfg p).players_ = ⟨d.players_.entities_.insert p
      ⟨p, d.pos_gen_.draws (d.pos_gen_.taken + j), getCfgPlayerData cfg, .Alive⟩⟩ :=
    congrArg (fun r => r.2.1) hspawn
  refine ⟨⟨h.game_map, h.no_monsters, fun pos => ?_⟩, ?_, congrArg (fun r => r.2.2) hspawn⟩
  · have stood : d.players_.at_ p = none := by
      simp [at_, lookup_eq_none.mpr hp]
    have hat : (d.players_.addEntity _ p (d.pos_gen_.draws (d.pos_gen_.taken + j))).2.at_ = _ :=
      addEntity_at (getCfgPlayerData cfg) hp
    rw [addEntity, if_neg hp] at hat
    rw [hplayers, isOccupied_iff, hat, List.mem_cons, ← h.occupied pos, isOccupied_iff]
    constructor
    · rintro ⟨q, hq⟩
      rcases eq_or_ne q p with rfl | hqp
      · rw [Function.update_self] at hq
        exact Or.inl (Option.some.inj hq).symm
      · rw [Function.update_of_ne hqp] at hq
        exact Or.inr ⟨q, hq⟩
    · rintro (rfl | ⟨q, hq⟩)
      · exact ⟨p, Function.update_self ..⟩
      · have hqp : q ≠ p := fun he => by
          rw [he, stood] at hq
          cases hq
        exact ⟨q, by rwa [Function.update_of_ne hqp]⟩
  · rw [hplayers]
    exact mem_insert.mpr (Or.inl rfl)

lemma mem_foldl_spawnPlayer (h : p ∈ d.players_.entities_) :
    p ∈ (ps.foldl (spawnPlayer cfg) d).players_.entities_ :=
  Runs.run_inv (I := fun d : Dungeon => p ∈ d.players_.entities_)
    (fun _ _ h => mem_spawnEntity h) h ps

lemma mem_of_mem_foldl_spawnPlayer (h : p ∈ (ps.foldl (spawnPlayer cfg) d).players_.entities_) :
    p ∈ d.players_.entities_ ∨ p ∈ ps := by
  induction ps generalizing d with
  | nil => exact Or.inl h
  | cons q ps ih =>
    rcases ih h with hp | hp
    · rcases mem_of_mem_spawnEntity hp with hp | rfl
      · exact Or.inl hp
      · exact Or.inr (List.mem_cons_self ..)
    · exact Or.inr (List.mem_cons_of_mem _ hp)

/-- All the players of a list get in exactly when they find room one after the other. -/
lemma Crowd.all_mem_iff (h : d.Crowd map taken) (hnd : ps.Nodup)
    (hfree : ∀ p ∈ ps, p ∉ d.players_.entities_) :
    (∀ p ∈ ps, p ∈ (ps.foldl (spawnPlayer cfg) d).players_.entities_) ↔
      FindsRoom map d.pos_gen_.draws taken d.pos_gen_.taken ps.length := by
  induction ps generalizing d taken with
  | nil => simp [FindsRoom]
  | cons p ps ih =>
    obtain ⟨hp, hnd⟩ := List.nodup_cons.mp hnd
    have hpd := hfree p (List.mem_cons_self ..)
    by_cases hroom : ∃ j, FirstWithin (fun pos => map.isAvailable pos ∧ pos ∉ taken)
        d.pos_gen_.draws d.pos_gen_.taken kMaxSpawnAttempts j
    · obtain ⟨j, hj⟩ := hroom
      obtain ⟨crowd, inside, gen⟩ : (d.spawnPlayer cfg p).Crowd _ _ ∧ _ :=
        h.spawnPlayer_found hpd hj
      have rest := ih crowd hnd fun q hq hqd => by
        rcases mem_of_mem_spawnEntity hqd with hqd | rfl
        · exact hfree q (List.mem_cons_of_mem _ hq) hqd
        · exact hp hq
      rw [gen] at rest
      constructor
      · exact fun hall => ⟨j, hj, rest.mp fun q hq => hall q (List.mem_cons_of_mem _ hq)⟩
      · rintro ⟨j', hj', hrest⟩ q hq
        obtain rfl := hj.unique hj'
        rcases List.mem_cons.mp hq with rfl | hq
        · exact mem_foldl_spawnPlayer (d := d.spawnPlayer cfg q) inside
        · exact rest.mpr hrest q hq
    · -- the first player stays outside, and so it does to the end
      have missed : (d.spawnPlayer cfg p).players_ = d.players_ :=
        spawnEntity_missed fun j hj => hroom ⟨j, h.firstWithin_iff.mp hj⟩
      refine iff_of_false (fun hall => ?_) fun ⟨j, hj, _⟩ => hroom ⟨j, hj⟩
      rcases mem_of_mem_foldl_spawnPlayer (d := d.spawnPlayer cfg p)
        (hall p (List.mem_cons_self ..)) with hin | hin
      · rw [missed] at hin
        exact hpd hin
      · exact hp hin

lemma crowd_init (map : GameMap) (gen : PositionGenerator) :
    Crowd map [] ⟨map, .empty, .empty, gen, [], 0⟩ where
  game_map := rfl
  no_monsters := rfl
  occupied pos := by simp [EntityManager.isOccupied, EntityManager.empty]

lemma players_iterate_spawnMonster (n : ℕ) (d : Dungeon) :
    ((spawnMonster cfg)^[n] d).players_ = d.players_ := by
  induction n generalizing d with
  | zero => rfl
  | succ n ih =>
    rw [Function.iterate_succ_apply, ih]
    rfl

/-- Who is in a new dungeon. -/
lemma players_create (gen : PositionGenerator) :
    (create cfg map ps gen).players_ =
      (ps.foldl (spawnPlayer cfg) ⟨map, .empty, .empty, gen, [], 0⟩).players_ :=
  players_iterate_spawnMonster _ _

lemma mem_of_mem_create {gen : PositionGenerator}
    (h : p ∈ (create cfg map ps gen).players_.entities_) : p ∈ ps := by
  rw [players_create] at h
  exact (mem_of_mem_foldl_spawnPlayer h).resolve_left notMem_empty

lemma all_mem_create_iff (hnd : ps.Nodup) (gen : PositionGenerator) :
    (∀ p ∈ ps, p ∈ (create cfg map ps gen).players_.entities_) ↔
      FindsRoom map gen.draws [] gen.taken ps.length := by
  rw [players_create]
  exact (crowd_init map gen).all_mem_iff hnd fun _ _ => notMem_empty

/-- The first draw is available to a new player. -/
lemma spawnPlayer_now (hp : p ∉ d.players_.entities_)
    (h : d.isAvailable (d.pos_gen_.draws d.pos_gen_.taken)) :
    d.spawnPlayer cfg p = { d with
      players_ := ⟨d.players_.entities_.insert p
        ⟨p, d.pos_gen_.draws d.pos_gen_.taken, getCfgPlayerData cfg, .Alive⟩⟩
      pos_gen_ := ⟨d.pos_gen_.draws, d.pos_gen_.taken + 1⟩ } := by
  have hspawn : spawnEntity d.isAvailable (getCfgPlayerData cfg) d.players_ p d.pos_gen_ = _ :=
    spawnEntity_found hp (.now h)
  simp only [spawnPlayer, hspawn]
  rfl

lemma spawnMonster_now (hp : ⟨d.mob_id_counter_⟩ ∉ d.monsters_.entities_)
    (h : d.isAvailable (d.pos_gen_.draws d.pos_gen_.taken)) :
    d.spawnMonster cfg = { d with
      monsters_ := ⟨d.monsters_.entities_.insert ⟨d.mob_id_counter_⟩ ⟨⟨d.mob_id_counter_⟩,
        d.pos_gen_.draws d.pos_gen_.taken, getCfgMonsterData cfg, .Alive⟩⟩
      pos_gen_ := ⟨d.pos_gen_.draws, d.pos_gen_.taken + 1⟩
      mob_id_counter_ := d.mob_id_counter_ + 1 } := by
  have hspawn : spawnEntity d.isAvailable (getCfgMonsterData cfg) d.monsters_
      ⟨d.mob_id_counter_⟩ d.pos_gen_ = _ := spawnEntity_found hp (.now h)
  simp only [spawnMonster, hspawn]
  rfl

/-! ### The players of a dungeon stay -/

lemma isSome_body_iff : (d.body (.inl p)).isSome ↔ p ∈ d.players_.entities_ := by
  rw [body, Sum.elim_inl, bodies, Option.isSome_map, getEntity, lookup_isSome]

lemma mem_run (cfg : Gameplay) (d : Dungeon) (calls : List Call) (p : PlayerId) :
    p ∈ (Runs.run (step cfg) d calls).players_.entities_ ↔ p ∈ d.players_.entities_ := by
  rw [← run_trace, ← isSome_body_iff, ← isSome_body_iff, isSome_body_run]

lemma mem_processTick {outcomes : TickOutcomes} :
    p ∈ (d.processTick cfg outcomes).2.players_.entities_ ↔ p ∈ d.players_.entities_ :=
  mem_run cfg d [.processTick outcomes] p

lemma mem_getPlayers (ord : IterOrder PlayerId) (d : Dungeon) (p : PlayerId) :
    p ∈ d.getPlayers ord ↔ p ∈ d.players_.entities_ := by
  rw [getPlayers, ord.mem_list, mem_keys]

end Dungeon

namespace DungeonRegistry

open Finmap

variable {cfg : Gameplay} {ord : IterOrder PlayerId} {map : GameMap} {ps : List PlayerId}
variable {gen : PositionGenerator} {r : DungeonRegistry}

/-- The players of the dungeon `id` are those recorded for it, when it is made and, as those
who are told of its end are read off it, after whatever happens in it. -/
def BooksItsPlayers (cfg : Gameplay) (ord : IterOrder PlayerId) (r : DungeonRegistry)
    (id : GameId) : Prop :=
  ∃ dungeon, r.findDungeon id = some dungeon ∧ ∀ calls p,
    p ∈ (Runs.run (Dungeon.step cfg) dungeon calls).getPlayers ord ↔
      r.findPlayerDungeon p = some id

/-- The players of the new dungeon are the recorded ones when all of them got into it. -/
lemma Sound.books_iff_mem_create (h : r.Sound) (ha : r.Admissible ps)
    (hid : r.next_game_id_ ∉ r.dungeons_) :
    BooksItsPlayers cfg ord (r.added cfg map ps gen) r.next_game_id_ ↔
      ∀ p ∈ ps, p ∈ (Dungeon.create cfg map ps gen).players_.entities_ := by
  have hfind : (r.added cfg map ps gen).findDungeon r.next_game_id_ =
    some (Dungeon.create cfg map ps gen) := lookup_insert _
  have recorded : ∀ p, (r.added cfg map ps gen).findPlayerDungeon p = some r.next_game_id_ ↔
      p ∈ ps := by
    intro p
    have hlist : r.next_game_id_ ∉ r.dungeon_to_players_ := fun hm =>
      hid ((h.same_keys _).mpr hm)
    have hlookup : (r.added cfg map ps gen).dungeon_to_players_.lookup r.next_game_id_ =
        some ps := by
      rw [DungeonRegistry.added, emplace_of_notMem hlist, lookup_insert]
    rw [findPlayerDungeon, (h.added ha hid).in_list, hlookup]
    simp
  constructor
  · rintro ⟨dungeon, hd, hbooks⟩ p hp
    obtain rfl := Option.some.inj (hfind.symm.trans hd)
    exact (Dungeon.mem_getPlayers ord _ p).mp ((hbooks [] p).mpr ((recorded p).mpr hp))
  · refine fun hall => ⟨_, hfind, fun calls p => ?_⟩
    rw [Dungeon.mem_getPlayers, Dungeon.mem_run, recorded]
    exact ⟨Dungeon.mem_of_mem_create, hall p⟩

/-- **Who gets in.** In every reachable registry, a dungeon added has exactly the players
recorded for it if and only if they find room one after the other. -/
theorem booksItsPlayers_iff_findsRoom (cfg : Gameplay) (ord : IterOrder PlayerId)
    (calls : List Call) (map : GameMap) (ps : List PlayerId) (gen : PositionGenerator)
    (h : ((Runs.run (step cfg) empty calls).addDungeon cfg map ps gen).1 = true) :
    BooksItsPlayers cfg ord ((Runs.run (step cfg) empty calls).addDungeon cfg map ps gen).2
        (Runs.run (step cfg) empty calls).next_game_id_ ↔
      FindsRoom map gen.draws [] gen.taken ps.length := by
  have sound := sound_run cfg calls
  generalize Runs.run (step cfg) empty calls = r at h sound ⊢
  rcases addDungeon_cases cfg r map ps gen with ⟨-, he⟩ | ⟨-, -, he⟩ | ⟨ha, hid, he⟩ <;>
    rw [he] at h ⊢
  · cases h
  · cases h
  · exact (sound.books_iff_mem_create ha hid).trans (Dungeon.all_mem_create_iff ha.nodup gen)

/-- Two players on the default map, on different positions. -/
theorem two_players_find_room :
    BooksItsPlayers .default default
      (empty.addDungeon .default (.ofCfg .default) [⟨1⟩, ⟨2⟩]
        ⟨fun n => ⟨Int64.ofNat (n % 61), 0⟩, 0⟩).2 ⟨1⟩ := by
  refine (booksItsPlayers_iff_findsRoom .default default [] (.ofCfg .default) [⟨1⟩, ⟨2⟩]
    ⟨fun n => ⟨Int64.ofNat (n % 61), 0⟩, 0⟩ rfl).mpr ?_
  refine ⟨0, ⟨Nat.zero_le _, by decide, by simp⟩, 0, ⟨Nat.zero_le _, by decide, by simp⟩, ?_⟩
  trivial

/-- A map of four positions, all but one of them barriers. -/
def cell : GameMap := ⟨⟨⟨0, 0⟩, ⟨1, 1⟩⟩, {⟨0, 1⟩, ⟨1, 0⟩, ⟨1, 1⟩}⟩

/-- The second of two players finds no room where there is room for one, and is recorded. -/
theorem second_player_without_entity :
    ¬ ∀ (cfg : Gameplay) (ord : IterOrder PlayerId) (calls : List Call) (map : GameMap)
      (ps : List PlayerId) (gen : PositionGenerator), map.Legal →
      (∀ n, map.isInMap (gen.draws n)) →
      ((Runs.run (step cfg) empty calls).addDungeon cfg map ps gen).1 = true →
      BooksItsPlayers cfg ord ((Runs.run (step cfg) empty calls).addDungeon cfg map ps gen).2
        (Runs.run (step cfg) empty calls).next_game_id_ := by
  intro h
  have legal : cell.Legal := ⟨by decide, by decide⟩
  have inMap : cell.isInMap ⟨0, 0⟩ := by decide
  have hbooks := h .default default [] cell [⟨1⟩, ⟨2⟩] ⟨fun _ => ⟨0, 0⟩, 0⟩ legal
    (fun _ => inMap) rfl
  have admissible : empty.Admissible [⟨1⟩, ⟨2⟩] :=
    ⟨by simp, by decide, fun _ _ => notMem_empty⟩
  have inside := (sound_empty.books_iff_mem_create admissible notMem_empty).mp hbooks
  obtain ⟨j, -, j', second, -⟩ := (Dungeon.all_mem_create_iff (by decide) _).mp inside
  exact second.hit.2 (List.mem_cons_self ..)

end DungeonRegistry

end DungeonCrawler
