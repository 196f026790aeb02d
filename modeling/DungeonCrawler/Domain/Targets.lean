import DungeonCrawler.Domain.Dungeon

/-!
Whom an attack hits: the closest alive target within the radius, by the exact distance.

The search carries the least distance found so far, which starts above the radius. Distances
as the code computes them are cut off far above any radius, so where they are compared they
are exact.
-/

namespace DungeonCrawler

namespace EntityManager

open Finmap

variable {Id : Type} [DecidableEq Id]

/-- An alive target within the radius. -/
def Reaches (fromPos : Position) (radius : UInt32) (target : Entity Id) : Prop :=
  target.isAlive ∧ fromPos.exactDistance target.position_ ≤ radius.toNat

/-- A target in reach such that no alive one is closer. -/
structure Closest (fromPos : Position) (radius : UInt32) (targets : EntityManager Id) (id : Id)
    (target : Entity Id) : Prop where
  getEntity : targets.getEntity id = some target
  reaches : Reaches fromPos radius target
  least : ∀ id' other, targets.getEntity id' = some other → other.isAlive →
    fromPos.exactDistance target.position_ ≤ fromPos.exactDistance other.position_

/-- What an attack makes of the targets: one that is closest takes the damage, or none is in
reach and nothing happens. -/
def Strikes (fromPos : Position) (radius : UInt32) (damage : HP)
    (targets targets' : EntityManager Id) : Prop :=
  (∃ id target target', Closest fromPos radius targets id target ∧
    targets'.getEntity id = some target' ∧ target.Damaged damage target' ∧
    ∀ id' ≠ id, targets'.getEntity id' = targets.getEntity id') ∨
  ((∀ id target, targets.getEntity id = some target → ¬ Reaches fromPos radius target) ∧
    targets' = targets)

/-! ### The search -/

omit [DecidableEq Id] in
/-- What the search returns, from a best so far: that one if no alive target within the
radius is closer, or else the closest one. -/
lemma closestTargetLoop_spec (fromPos : Position) (radius : UInt64)
    (targets : List (Id × Entity Id)) (minDist : UInt64) (closest : Option Id) :
    (closestTargetLoop fromPos radius targets minDist closest = closest ∧
      ∀ t ∈ targets, t.2.isAlive → ¬ (fromPos.manhattanDistance t.2.position_ ≤ radius ∧
        fromPos.manhattanDistance t.2.position_ < minDist)) ∨
    ∃ t ∈ targets, closestTargetLoop fromPos radius targets minDist closest = some t.1 ∧
      t.2.isAlive ∧ fromPos.manhattanDistance t.2.position_ ≤ radius ∧
      fromPos.manhattanDistance t.2.position_ < minDist ∧
      ∀ t' ∈ targets, t'.2.isAlive →
        fromPos.manhattanDistance t.2.position_ ≤ fromPos.manhattanDistance t'.2.position_ := by
  fun_induction closestTargetLoop fromPos radius targets minDist closest with
  | case1 => exact Or.inl ⟨rfl, by simp⟩
  | case2 id target targets minDist closest ha ih =>
    -- a dead target is skipped
    have ha : ¬ target.isAlive := by simpa using ha
    rcases ih with ⟨h, hn⟩ | ⟨t, ht, h, hta, hr, hm, hl⟩
    · exact Or.inl ⟨h, List.forall_mem_cons.mpr ⟨fun h => absurd h ha, hn⟩⟩
    · exact Or.inr ⟨t, List.mem_cons_of_mem _ ht, h, hta, hr, hm,
        List.forall_mem_cons.mpr ⟨fun h => absurd h ha, hl⟩⟩
  | case3 id target targets minDist closest ha dist hd h0 =>
    -- nothing is closer than distance zero
    have ha : target.isAlive := by simpa using ha
    refine Or.inr ⟨(id, target), List.mem_cons_self .., rfl, ha, hd.1, hd.2, fun t' _ _ => ?_⟩
    rw [show fromPos.manhattanDistance target.position_ = 0 from h0]
    exact UInt64.zero_le
  | case4 id target targets minDist closest ha dist hd h0 ih =>
    -- a new best
    have ha : target.isAlive := by simpa using ha
    rcases ih with ⟨h, hn⟩ | ⟨t, ht, h, hta, hr, hm, hl⟩
    · refine Or.inr ⟨(id, target), List.mem_cons_self .., h, ha, hd.1, hd.2,
        List.forall_mem_cons.mpr ⟨fun _ => UInt64.le_refl _, fun t' ht' ha' => ?_⟩⟩
      by_contra hlt
      have hlt := UInt64.not_le.mp hlt
      exact hn t' ht' ha' ⟨UInt64.le_trans (UInt64.le_of_lt hlt) hd.1, hlt⟩
    · exact Or.inr ⟨t, List.mem_cons_of_mem _ ht, h, hta, hr, UInt64.lt_trans hm hd.2,
        List.forall_mem_cons.mpr ⟨fun _ => UInt64.le_of_lt hm, hl⟩⟩
  | case5 id target targets minDist closest ha dist hd ih =>
    -- too far, or no better
    rcases ih with ⟨h, hn⟩ | ⟨t, ht, h, hta, hr, hm, hl⟩
    · exact Or.inl ⟨h, List.forall_mem_cons.mpr ⟨fun _ => hd, hn⟩⟩
    · refine Or.inr ⟨t, List.mem_cons_of_mem _ ht, h, hta, hr, hm,
        List.forall_mem_cons.mpr ⟨fun _ => ?_, hl⟩⟩
      by_contra hlt
      have hlt := UInt64.not_le.mp hlt
      exact hd ⟨UInt64.le_trans (UInt64.le_of_lt hlt) hr, UInt64.lt_trans hlt hm⟩

/-- Up to a radius, the distance computed is the exact one. -/
lemma manhattanDistance_le_iff (p q : Position) (radius : UInt32) :
    p.manhattanDistance q ≤ radius.toUInt64 ↔ p.exactDistance q ≤ radius.toNat := by
  have := radius.toNat_lt
  rw [UInt64.le_iff_toNat_le, p.manhattanDistance_toNat, UInt32.toNat_toUInt64]
  omega

/-- **The search finds a closest target.** Nothing is returned if no alive target is within
the radius. -/
theorem findClosestTarget_spec (ord : IterOrder Id) (fromPos : Position) (radius : UInt32)
    (targets : EntityManager Id) :
    (findClosestTarget ord fromPos radius.toUInt64 targets = none ∧
      ∀ id target, targets.getEntity id = some target → ¬ Reaches fromPos radius target) ∨
    ∃ id target, findClosestTarget ord fromPos radius.toUInt64 targets = some id ∧
      Closest fromPos radius targets id target := by
  have hlt : ∀ dist : UInt64, dist ≤ radius.toUInt64 → dist < radius.toUInt64 + 1 := by
    intro dist h
    have := radius.toNat_lt
    rw [UInt64.le_iff_toNat_le, UInt32.toNat_toUInt64] at h
    rw [UInt64.lt_iff_toNat_lt, UInt64.toNat_add, UInt32.toNat_toUInt64]
    change _ < (_ + 1) % _
    omega
  rcases closestTargetLoop_spec fromPos radius.toUInt64 (ord.entries targets.entities_)
    (radius.toUInt64 + 1) none with ⟨h, hn⟩ | ⟨⟨id, target⟩, ht, h, ha, hr, -, hl⟩
  · refine Or.inl ⟨h, fun id target ht hreach => ?_⟩
    have hd := (manhattanDistance_le_iff ..).mpr hreach.2
    exact hn (id, target) (ord.mem_entries.mpr ht) hreach.1 ⟨hd, hlt _ hd⟩
  · have hreach := (manhattanDistance_le_iff ..).mp hr
    refine Or.inr ⟨id, target, h, ord.mem_entries.mp ht, ⟨ha, hreach⟩,
      fun id' other ho hao => ?_⟩
    have hle := hl (id', other) (ord.mem_entries.mpr ho) hao
    have := radius.toNat_lt
    rw [UInt64.le_iff_toNat_le, Position.manhattanDistance_toNat,
      Position.manhattanDistance_toNat] at hle
    dsimp only at hle hreach
    omega

variable {fromPos : Position} {radius : UInt32} {damage : HP} {targets : EntityManager Id}

lemma closest_of_findClosestTarget {ord : IterOrder Id} {id : Id}
    (hid : findClosestTarget ord fromPos radius.toUInt64 targets = some id) :
    ∃ target, Closest fromPos radius targets id target := by
  rcases findClosestTarget_spec ord fromPos radius targets with ⟨h, -⟩ | ⟨id', target, h, hc⟩
  · rw [h] at hid
    cases hid
  · obtain rfl := Option.some.inj (hid.symm.trans h)
    exact ⟨target, hc⟩

/-- Damaging the target found strikes. -/
lemma strikes_modifyEntity {id : Id} {target : Entity Id} {f : Entity Id → Entity Id}
    (h : Closest fromPos radius targets id target) (hf : f target = target.damage damage) :
    Strikes fromPos radius damage targets (targets.modifyEntity id f) := by
  refine Or.inl ⟨id, target, target.damage damage, h, ?_, target.damaged_damage damage,
    fun id' hne => ?_⟩
  · have hl : targets.entities_.lookup id = some target := h.getEntity
    rw [getEntity, modifyEntity, lookup_modify, if_pos rfl, hl, Option.map_some, hf]
  · rw [getEntity, modifyEntity, lookup_modify, if_neg hne]
    rfl

end EntityManager

namespace Dungeon

open EntityManager

/-- The command of an alive player strikes among the monsters. -/
lemma runCommand_attack (ord : IterOrder MobId) (d : Dungeon) {player_id : PlayerId}
    (damage : HP) {player : Entity PlayerId} (hp : d.players_.getEntity player_id = some player)
    (ha : player.isAlive) :
    ∃ monsters, d.runCommand ord (.attack player_id damage) = { d with monsters_ := monsters } ∧
      Strikes player.position_ player.data_.radius_attack damage d.monsters_ monsters := by
  simp only [runCommand, hp, ha, Bool.not_true, Bool.false_eq_true, if_false]
  rcases findClosestTarget_spec ord player.position_ player.data_.radius_attack d.monsters_ with
    ⟨h, hn⟩ | ⟨id, target, h, hc⟩
  · rw [h]
    exact ⟨d.monsters_, rfl, Or.inr ⟨hn, rfl⟩⟩
  · rw [h]
    exact ⟨_, rfl, strikes_modifyEntity hc rfl⟩

/-- The attack of an alive monster strikes among the players. -/
lemma attackPlayer_alive (outcomes : TickOutcomes) (attackPower : HP) (d : Dungeon) {idx : ℕ}
    {id : MobId} {monster : Entity MobId}
    (hm : (outcomes.monsterOrder.entries d.monsters_.entities_)[idx]? = some (id, monster))
    (ha : monster.isAlive) :
    ∃ players, d.attackPlayer outcomes attackPower idx = { d with players_ := players } ∧
      Strikes monster.position_ monster.data_.radius_attack attackPower d.players_ players := by
  simp only [attackPlayer, hm, ha, Bool.not_true, Bool.false_eq_true, if_false]
  rcases findClosestTarget_spec outcomes.playerOrder monster.position_
    monster.data_.radius_attack d.players_ with ⟨h, hn⟩ | ⟨targetId, target, h, hc⟩
  · rw [h]
    exact ⟨d.players_, rfl, Or.inr ⟨hn, rfl⟩⟩
  · rw [h]
    exact ⟨_, rfl, strikes_modifyEntity hc (if_pos hc.reaches.1)⟩

/-- **An attack hits the closest target.** The search returns nothing exactly when no alive
target is within the radius by the exact distance, and else an alive one within it that is
closest. So the attack command of an alive player, and each attack of an alive monster,
damages one such target, or nothing if there is none, and leaves everything else. -/
theorem attacks_closest :
    (∀ (Id : Type) [DecidableEq Id] (ord : IterOrder Id) (fromPos : Position)
        (radius : UInt32) (targets : EntityManager Id),
      (findClosestTarget ord fromPos radius.toUInt64 targets = none ↔
        ∀ id target, targets.getEntity id = some target → ¬ Reaches fromPos radius target) ∧
      ∀ id, findClosestTarget ord fromPos radius.toUInt64 targets = some id →
        ∃ target, Closest fromPos radius targets id target) ∧
    (∀ (ord : IterOrder MobId) (d : Dungeon) (player_id : PlayerId) (damage : HP)
        (player : Entity PlayerId),
      d.players_.getEntity player_id = some player → player.isAlive →
      ∃ monsters,
        d.runCommand ord (.attack player_id damage) = { d with monsters_ := monsters } ∧
        Strikes player.position_ player.data_.radius_attack damage d.monsters_ monsters) ∧
    ∀ (outcomes : TickOutcomes) (attackPower : HP) (d : Dungeon) (idx : ℕ) (id : MobId)
        (monster : Entity MobId),
      (outcomes.monsterOrder.entries d.monsters_.entities_)[idx]? = some (id, monster) →
      monster.isAlive →
      ∃ players, d.attackPlayer outcomes attackPower idx = { d with players_ := players } ∧
        Strikes monster.position_ monster.data_.radius_attack attackPower d.players_
          players := by
  refine ⟨fun Id _ ord fromPos radius targets => ⟨⟨fun hnone => ?_, fun hn => ?_⟩,
    fun id hid => closest_of_findClosestTarget hid⟩,
    fun ord d player_id damage player hp ha => runCommand_attack ord d damage hp ha,
    fun outcomes attackPower d idx id monster hm ha =>
      attackPlayer_alive outcomes attackPower d hm ha⟩
  · rcases findClosestTarget_spec ord fromPos radius targets with ⟨-, hn⟩ | ⟨id, target, h, -⟩
    · exact hn
    · rw [hnone] at h
      cases h
  · rcases findClosestTarget_spec ord fromPos radius targets with ⟨h, -⟩ | ⟨id, target, -, hc⟩
    · exact h
    · exact absurd hc.reaches (hn id target hc.getEntity)

/-- A player and a monster at one end of the range of the coordinates, and a monster at the other
end. -/
def farApart : Dungeon where
  game_map_ := ⟨⟨⟨Int64.minValue, 0⟩, ⟨Int64.maxValue, 1⟩⟩, ∅⟩
  players_ := (empty.addEntity ⟨100, 4, 4⟩ ⟨1⟩ ⟨Int64.minValue, 0⟩).2
  monsters_ := ((empty.addEntity ⟨50, 4294967295, 4⟩ ⟨0⟩ ⟨Int64.minValue + 3, 1⟩).2.addEntity
    ⟨50, 4294967295, 4⟩ ⟨1⟩ ⟨Int64.maxValue, 0⟩).2
  pos_gen_ := ⟨fun _ => ⟨0, 0⟩, 0⟩
  command_queue_ := []
  mob_id_counter_ := 2

/-- The player attacks, and the monster that is close. What they hit loses its health, and the
player, hit by more than it has left, is dead. -/
theorem attacks_closest_farApart :
    (∃ monsters, farApart.runCommand byNumber (.attack ⟨1⟩ 10) =
        { farApart with monsters_ := monsters } ∧
      Strikes ⟨Int64.minValue, 0⟩ 4 10 farApart.monsters_ monsters ∧
      monsters.getEntity ⟨0⟩ =
        some ⟨⟨0⟩, ⟨Int64.minValue + 3, 1⟩, ⟨40, 4294967295, 4⟩, .Alive⟩ ∧
      monsters.getEntity ⟨1⟩ = some ⟨⟨1⟩, ⟨Int64.maxValue, 0⟩, ⟨50, 4294967295, 4⟩, .Alive⟩) ∧
    ∃ players, farApart.attackPlayer ⟨0, 1, fun _ => (0, Direction.kUp), fun _ => 0, byNumber,
        byNumber, default⟩ 120 0 = { farApart with players_ := players } ∧
      Strikes ⟨Int64.minValue + 3, 1⟩ 4294967295 120 farApart.players_ players ∧
      players.getEntity ⟨1⟩ = some ⟨⟨1⟩, ⟨Int64.minValue, 0⟩, ⟨0, 4, 4⟩, .Dead⟩ := by
  obtain ⟨monsters, hrun, hs⟩ := attacks_closest.2.1 byNumber farApart ⟨1⟩ 10
    ⟨⟨1⟩, ⟨Int64.minValue, 0⟩, ⟨100, 4, 4⟩, .Alive⟩ (by decide +kernel) rfl
  obtain ⟨players, hattack, hs'⟩ := attacks_closest.2.2 ⟨0, 1, fun _ => (0, Direction.kUp),
    fun _ => 0, byNumber, byNumber, default⟩ 120 farApart 0 ⟨0⟩
    ⟨⟨0⟩, ⟨Int64.minValue + 3, 1⟩, ⟨50, 4294967295, 4⟩, .Alive⟩ (by decide +kernel) rfl
  have hmonsters : (farApart.runCommand byNumber (.attack ⟨1⟩ 10)).monsters_ = monsters := by
    rw [hrun]
  have hplayers : (farApart.attackPlayer ⟨0, 1, fun _ => (0, Direction.kUp), fun _ => 0,
      byNumber, byNumber, default⟩ 120 0).players_ = players := by
    rw [hattack]
  refine ⟨⟨monsters, hrun, hs, ?_⟩, players, hattack, hs', ?_⟩
  · rw [← hmonsters]
    decide +kernel
  · rw [← hplayers]
    decide +kernel

end Dungeon

end DungeonCrawler
