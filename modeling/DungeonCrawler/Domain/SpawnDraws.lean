import DungeonCrawler.Domain.DungeonPlayers

/-!
How many positions one spawning draws.

The counter of attempts is at one before the first draw, and the loop goes on while the counter
is not above `kMaxSpawnAttempts`: the last draw is one more than the constant and the message
about a failed spawning say.
-/

namespace DungeonCrawler

namespace Dungeon

open EntityManager Spawner

/-- What the spawner returns at the players' table, and what it leaves behind. -/
def keepPlayers (d : Dungeon) (r : Bool × EntityManager PlayerId × PositionGenerator) :
    Bool × Dungeon := (r.1, { d with players_ := r.2.1, pos_gen_ := r.2.2 })

def keepMonsters (d : Dungeon) (r : Bool × EntityManager MobId × PositionGenerator) :
    Bool × Dungeon := (r.1, { d with monsters_ := r.2.1, pos_gen_ := r.2.2 })

/-- The spawner at either of its two tables. -/
def spawnEntity (data : EntityData) (d : Dungeon) : PlayerId ⊕ MobId → Bool × Dungeon
  | .inl id =>
    d.keepPlayers (Spawner.spawnEntity d.isAvailable data d.players_ id d.pos_gen_)
  | .inr id =>
    d.keepMonsters (Spawner.spawnEntity d.isAvailable data d.monsters_ id d.pos_gen_)

/-- There is an entity under the identifier. -/
def Holds (d : Dungeon) : PlayerId ⊕ MobId → Prop
  | .inl id => id ∈ d.players_.entities_
  | .inr id => id ∈ d.monsters_.entities_

/-- The position is inside the map, and no barrier, player or monster is there. -/
structure Free (d : Dungeon) (pos : Position) : Prop where
  inside : d.game_map_.isInMap pos
  no_barrier : pos ∉ d.game_map_.barriers_
  no_player : ∀ id, d.players_.at_ id ≠ some pos
  no_monster : ∀ id, d.monsters_.at_ id ≠ some pos

/-- The `i`-th position that the generator yields from now on. -/
def draw (d : Dungeon) (i : ℕ) : Position := d.pos_gen_.draws (d.pos_gen_.taken + i)

/-- The dungeon after `n` draws. -/
def drawn (d : Dungeon) (n : ℕ) : Dungeon :=
  { d with pos_gen_ := ⟨d.pos_gen_.draws, d.pos_gen_.taken + n⟩ }

/-- The dungeon with a new entity. -/
def placed (data : EntityData) (d : Dungeon) (pos : Position) : PlayerId ⊕ MobId → Dungeon
  | .inl id => { d with players_ := (d.players_.addEntity data id pos).2 }
  | .inr id => { d with monsters_ := (d.monsters_.addEntity data id pos).2 }

/-- A spawning that keeps to a limit: under an identifier in use nothing is drawn and nothing
changes; otherwise no more than `limit` positions are drawn, and either the last of them is the
first that is free and the entity is there, or none is free and only the generator changed. -/
structure SpawnsWithin (limit : ℕ) (data : EntityData) (d : Dungeon) (id : PlayerId ⊕ MobId) :
    Prop where
  present : d.Holds id → d.spawnEntity data id = (false, d)
  absent : ¬ d.Holds id → ∃ n ≤ limit,
    (∃ j, n = j + 1 ∧ d.Free (d.draw j) ∧ (∀ i < j, ¬ d.Free (d.draw i)) ∧
      d.spawnEntity data id = (true, (d.placed data (d.draw j) id).drawn n)) ∨
    ((∀ i < n, ¬ d.Free (d.draw i)) ∧ d.spawnEntity data id = (false, d.drawn n))

variable {data : EntityData} {d : Dungeon} {id : PlayerId ⊕ MobId} {j limit : ℕ}

lemma free_iff {pos : Position} : d.Free pos ↔ d.isAvailable pos := by
  simp only [isAvailable, CollisionChecker.isAvailable, GameMap.isAvailable, GameMap.isBarrier,
    Bool.and_eq_true, Bool.not_eq_true', ← Bool.not_eq_true, isOccupied_iff, not_exists,
    decide_eq_true_eq]
  constructor
  · rintro ⟨hin, hbar, hp, hm⟩
    exact ⟨⟨⟨hin, hbar⟩, hp⟩, hm⟩
  · rintro ⟨⟨⟨hin, hbar⟩, hp⟩, hm⟩
    exact ⟨hin, hbar, hp, hm⟩

/-- The dungeon spawns players and monsters this way and drops what is returned. -/
lemma spawnPlayer_eq (cfg : Gameplay) (d : Dungeon) (p : PlayerId) :
    d.spawnPlayer cfg p = (d.spawnEntity (getCfgPlayerData cfg) (.inl p)).2 := rfl

lemma spawnMonster_eq (cfg : Gameplay) (d : Dungeon) :
    d.spawnMonster cfg =
      { (d.spawnEntity (getCfgMonsterData cfg) (.inr ⟨d.mob_id_counter_⟩)).2 with
        mob_id_counter_ := d.mob_id_counter_ + 1 } := rfl

lemma spawnEntity_present (h : d.Holds id) : d.spawnEntity data id = (false, d) := by
  cases id with
  | inl id => exact congrArg d.keepPlayers (Spawner.spawnEntity_present h _)
  | inr id => exact congrArg d.keepMonsters (Spawner.spawnEntity_present h _)

/-- The spawning ends with the first draw that is free, if that is not too late. -/
lemma spawnEntity_found (h : ¬ d.Holds id) (hle : j ≤ kMaxSpawnAttempts)
    (hj : d.Free (d.draw j)) (hmiss : ∀ i < j, ¬ d.Free (d.draw i)) :
    d.spawnEntity data id = (true, (d.placed data (d.draw j) id).drawn (j + 1)) := by
  have first : FirstWithin (d.isAvailable ·) d.pos_gen_.draws d.pos_gen_.taken
      kMaxSpawnAttempts j :=
    ⟨hle, free_iff.mp hj, fun i hi hok => hmiss i hi (free_iff.mpr hok)⟩
  cases id with
  | inl id =>
    have hid : id ∉ d.players_.entities_ := h
    rw [placed, addEntity, if_neg hid]
    exact congrArg d.keepPlayers (Spawner.spawnEntity_found hid first)
  | inr id =>
    have hid : id ∉ d.monsters_.entities_ := h
    rw [placed, addEntity, if_neg hid]
    exact congrArg d.keepMonsters (Spawner.spawnEntity_found hid first)

lemma spawnEntity_exhausted (h : ¬ d.Holds id)
    (hmiss : ∀ i ≤ kMaxSpawnAttempts, ¬ d.Free (d.draw i)) :
    d.spawnEntity data id = (false, d.drawn (kMaxSpawnAttempts + 1)) := by
  have missed : ∀ i ≤ kMaxSpawnAttempts,
      ¬ d.isAvailable (d.pos_gen_.draws (d.pos_gen_.taken + i)) :=
    fun i hi hok => hmiss i hi (free_iff.mpr hok)
  cases id with
  | inl id => exact congrArg d.keepPlayers (Spawner.spawnEntity_exhausted h missed)
  | inr id => exact congrArg d.keepMonsters (Spawner.spawnEntity_exhausted h missed)

/-- Either one of the first draws is free, and there is a first such, or none is. -/
lemma first_free (d : Dungeon) (n : ℕ) :
    (∃ j < n, d.Free (d.draw j) ∧ ∀ i < j, ¬ d.Free (d.draw i)) ∨
      ∀ i < n, ¬ d.Free (d.draw i) := by
  classical
  by_cases hex : ∃ i < n, d.Free (d.draw i)
  · obtain ⟨i, hi, hfree⟩ := hex
    have hany : ∃ i, d.Free (d.draw i) := ⟨i, hfree⟩
    exact .inl ⟨Nat.find hany, (Nat.find_min' hany hfree).trans_lt hi, Nat.find_spec hany,
      fun _ hj => Nat.find_min hany hj⟩
  · push Not at hex
    exact .inr hex

/-- **The draws of a spawning.** One draw more than `kMaxSpawnAttempts` is the limit that
every spawning keeps to. -/
theorem spawnsWithin_succ (data : EntityData) (d : Dungeon) (id : PlayerId ⊕ MobId) :
    d.SpawnsWithin (kMaxSpawnAttempts + 1) data id := by
  refine ⟨spawnEntity_present, fun h => ?_⟩
  rcases d.first_free (kMaxSpawnAttempts + 1) with ⟨j, hlt, hj, hmiss⟩ | hmiss
  · exact ⟨j + 1, hlt, .inl ⟨j, rfl, hj, hmiss, spawnEntity_found h (by omega) hj hmiss⟩⟩
  · exact ⟨_, le_rfl, .inr ⟨hmiss, spawnEntity_exhausted h fun i hi => hmiss i (by omega)⟩⟩

/-- Without a free position among the first draws the spawning goes one draw past them. -/
lemma taken_of_missed (data : EntityData) (h : ¬ d.Holds id)
    (hmiss : ∀ i < kMaxSpawnAttempts, ¬ d.Free (d.draw i)) :
    (d.spawnEntity data id).2.pos_gen_.taken = d.pos_gen_.taken + (kMaxSpawnAttempts + 1) := by
  by_cases hlast : d.Free (d.draw kMaxSpawnAttempts)
  · rw [spawnEntity_found h le_rfl hlast hmiss]
    cases id <;> rfl
  · rw [spawnEntity_exhausted h fun i hi => ?_]
    · rfl
    · rcases hi.lt_or_eq with hi | rfl
      exacts [hmiss i hi, hlast]

lemma SpawnsWithin.taken_le (hs : d.SpawnsWithin limit data id) (h : ¬ d.Holds id) :
    (d.spawnEntity data id).2.pos_gen_.taken ≤ d.pos_gen_.taken + limit := by
  obtain ⟨n, hn, ⟨j, -, -, -, hr⟩ | ⟨-, hr⟩⟩ := hs.absent h
  · rw [hr]
    cases id <;> exact Nat.add_le_add_left hn _
  · rw [hr]
    exact Nat.add_le_add_left hn _

end Dungeon

open Spawner

/-- **The limit on attempts.** A spawning keeps to `kMaxSpawnAttempts` draws exactly when the
identifier is in use or one of so many first draws is free. -/
theorem spawnsWithin_kMaxSpawnAttempts_iff (data : EntityData) (d : Dungeon)
    (id : PlayerId ⊕ MobId) :
    d.SpawnsWithin kMaxSpawnAttempts data id ↔
      d.Holds id ∨ ∃ i < kMaxSpawnAttempts, d.Free (d.draw i) := by
  constructor
  · intro hs
    by_contra hc
    push Not at hc
    have hle := hs.taken_le hc.1
    rw [Dungeon.taken_of_missed data hc.1 hc.2] at hle
    omega
  · intro hc
    refine ⟨Dungeon.spawnEntity_present, fun h => ?_⟩
    rcases d.first_free kMaxSpawnAttempts with ⟨j, hlt, hj, hmiss⟩ | hmiss
    · exact ⟨j + 1, hlt,
        .inl ⟨j, rfl, hj, hmiss, Dungeon.spawnEntity_found h hlt.le hj hmiss⟩⟩
    · obtain ⟨i, hi, hfree⟩ := hc.resolve_left h
      exact absurd hfree (hmiss i hi)

namespace Dungeon

/-- A map of four cells, one with a barrier, that the generator draws a hundred times before
it draws another. -/
def unlucky : Dungeon where
  game_map_ := ⟨⟨⟨0, 0⟩, ⟨1, 1⟩⟩, {⟨0, 0⟩}⟩
  players_ := .empty
  monsters_ := .empty
  pos_gen_ := ⟨fun i => if i < 100 then ⟨0, 0⟩ else ⟨1, 1⟩, 0⟩
  command_queue_ := []
  mob_id_counter_ := 0

/-- There the spawning draws once more than the limit, and succeeds. -/
theorem unlucky_not_spawnsWithin :
    ¬ unlucky.SpawnsWithin kMaxSpawnAttempts ⟨100, 1, 1⟩ (.inl ⟨7⟩) ∧
    (unlucky.spawnEntity ⟨100, 1, 1⟩ (.inl ⟨7⟩)).1 = true ∧
    (unlucky.spawnEntity ⟨100, 1, 1⟩ (.inl ⟨7⟩)).2.pos_gen_.taken = 101 := by
  have h : ¬ unlucky.Holds (.inl ⟨7⟩) := Finmap.notMem_empty
  have hdraw : ∀ i < kMaxSpawnAttempts, unlucky.draw i = ⟨0, 0⟩ := fun i hi => if_pos (by
    change 0 + i < 100
    exact (Nat.zero_add i).symm ▸ hi)
  have hmiss : ∀ i < kMaxSpawnAttempts, ¬ unlucky.Free (unlucky.draw i) := fun i hi hfree =>
    hfree.no_barrier (by rw [hdraw i hi]; decide)
  have hlast : unlucky.Free (unlucky.draw kMaxSpawnAttempts) := by
    refine ⟨by decide, by decide, fun id => ?_, fun id => ?_⟩ <;>
      simp [unlucky, EntityManager.at_, EntityManager.empty]
  have htaken := taken_of_missed ⟨100, 1, 1⟩ h hmiss
  refine ⟨fun hs => ?_, ?_, htaken⟩
  · have hle := hs.taken_le h
    rw [htaken] at hle
    exact absurd hle (by decide)
  · rw [spawnEntity_found h le_rfl hlast hmiss]

end Dungeon
end DungeonCrawler
