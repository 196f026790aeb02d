import DungeonCrawler.Domain.DungeonCommands
import DungeonCrawler.Domain.DungeonPlacement
import DungeonCrawler.Domain.PositionArithmetic
import Mathlib.Combinatorics.SimpleGraph.Walk.Operations

/-!
The ways of the entities: an entity that moves takes one step to a neighbouring position that is
free, so it goes along the floor of the map, and no further than it was told to.
-/

namespace DungeonCrawler

namespace Position

lemma exactDistance_comm (p q : Position) : p.exactDistance q = q.exactDistance p := by
  unfold exactDistance
  omega

lemma exactDistance_triangle (p q r : Position) :
    p.exactDistance r ≤ p.exactDistance q + q.exactDistance r := by
  unfold exactDistance
  omega

lemma exactDistance_eq_zero {p q : Position} : p.exactDistance q = 0 ↔ p = q := by
  rw [Position.ext_iff, ← Int64.toInt_inj, ← Int64.toInt_inj]
  unfold exactDistance
  omega

/-- The offset of a direction is a step along one axis, or none. -/
lemma offset_small (direction : Direction) :
    (positionOffsetFromDirection direction).x.toInt.natAbs +
      (positionOffsetFromDirection direction).y.toInt.natAbs ≤ 1 := by
  unfold positionOffsetFromDirection
  split_ifs <;> decide

/-- Saturation only makes a step shorter. -/
lemma exactDistance_add_le (p offset : Position) : p.exactDistance (p + offset) ≤
    offset.x.toInt.natAbs + offset.y.toInt.natAbs := by
  obtain ⟨hx, hy⟩ := add_saturates p offset
  have := p.x.le_toInt
  have := p.x.toInt_lt
  have := p.y.le_toInt
  have := p.y.toInt_lt
  unfold exactDistance
  rw [hx, hy]
  unfold clamp
  omega

end Position

namespace EntityManager

variable {Id : Type} [DecidableEq Id] {m : EntityManager Id} {id : Id} {e : Entity Id}

lemma at_eq_bodies (m : EntityManager Id) :
    m.at_ = fun id => (m.bodies id).map Entity.position_ := by
  funext id
  rw [at_, bodies, getEntity, Option.map_map]
  rfl

/-- An entity that is alive is moved where it is told. -/
lemma at_moveEntity {dir : Direction} {pos : Position} (he : m.getEntity id = some e)
    (ha : e.isAlive) : (m.moveEntity id dir pos).2.at_ = Function.update m.at_ id (some pos) := by
  funext id'
  simp only [at_eq_bodies, bodies_moveEntity he ha, Function.update_apply]
  split_ifs <;> rfl

end EntityManager

/-- The command moves the player. -/
def Command.moves (player_id : PlayerId) : Command → Bool
  | .move id _ => id = player_id
  | .attack _ _ => false

def Action.executed : Action → Option Command
  | .runCommand _ c => some c
  | _ => none

/-- A monster is moved, if it can be. -/
def Action.isRound : Action → Bool
  | .moveMonster _ _ => true
  | _ => false

namespace Dungeon

open Placement Runs

variable {cfg : Gameplay} {d d' : Dungeon} {x : PlayerId ⊕ MobId} {p : Position}

/-! ### The floor as a graph -/

/-- Positions of the floor that lie next to each other. -/
def neighbours (map : GameMap) : SimpleGraph Position where
  Adj p q := p ∈ floor map ∧ q ∈ floor map ∧ p.exactDistance q = 1
  symm := ⟨fun p q ⟨hp, hq, h⟩ => ⟨hq, hp, by rw [Position.exactDistance_comm, h]⟩⟩
  loopless := ⟨fun p ⟨_, _, h⟩ => by simp [Position.exactDistance] at h⟩

/-- A way is at least as long as its ends are apart. -/
lemma exactDistance_le_length {map : GameMap} {p q : Position}
    (w : (neighbours map).Walk p q) : p.exactDistance q ≤ w.length := by
  induction w with
  | nil => simp [Position.exactDistance]
  | cons h w ih =>
    have := Position.exactDistance_triangle _ _ _ |>.trans (Nat.add_le_add h.2.2.le ih)
    rw [SimpleGraph.Walk.length_cons]
    omega

/-! ### Who moves -/

/-- Who moves in an action, if anybody does: who is told to, is alive and finds the next position
free. -/
def moverOf (d : Dungeon) : Action → Option (PlayerId ⊕ MobId)
  | .runCommand _ (.move player_id direction) =>
    match d.players_.getEntity player_id with
    | none => none
    | some player =>
      if player.isAlive ∧
          d.isAvailable (player.position_ + positionOffsetFromDirection direction) then
        some (.inl player_id)
      else none
  | .moveMonster monsterOrder draw =>
    match (monsterOrder.entries d.monsters_.entities_)[draw.1]? with
    | none => none
    | some (id, monster) =>
      if monster.isAlive ∧
          d.isAvailable (monster.position_ + positionOffsetFromDirection draw.2) then
        some (.inr id)
      else none
  | _ => none

/-- Who moves in a list of actions, once for each move. -/
def movers : Dungeon → List Action → List (PlayerId ⊕ MobId)
  | _, [] => []
  | d, a :: as => (d.moverOf a).toList ++ movers (d.act a) as

/-- What an action does to the place of an entity: if the entity is the one that moves it takes a
step to a position that was available, else it stays. -/
def Goes (x : PlayerId ⊕ MobId) (d d' : Dungeon) (mover : Option (PlayerId ⊕ MobId)) : Prop :=
  (mover = some x ∧ ∃ p direction, d.placement x = some p ∧
      d.isAvailable (p + positionOffsetFromDirection direction) ∧
      d'.placement x = some (p + positionOffsetFromDirection direction)) ∨
    (mover ≠ some x ∧ d'.placement x = d.placement x)

lemma goes_nowhere (h : d'.placement = d.placement) : Goes x d d' none :=
  Or.inr ⟨(nomatch ·), congrFun h x⟩

lemma goes_one {y : PlayerId ⊕ MobId} {direction : Direction} (hy : d.placement y = some p)
    (ha : d.isAvailable (p + positionOffsetFromDirection direction))
    (hd : d'.placement = Function.update d.placement y
      (some (p + positionOffsetFromDirection direction))) : Goes x d d' (some y) := by
  rw [Goes, hd]
  rcases eq_or_ne x y with rfl | hne
  · exact Or.inl ⟨rfl, p, direction, hy, ha, Function.update_self ..⟩
  · exact Or.inr ⟨fun h => hne (Option.some.inj h).symm, Function.update_of_ne hne ..⟩

lemma runCommand_goes (ord : IterOrder MobId) (d : Dungeon) (c : Command)
    (x : PlayerId ⊕ MobId) : Goes x d (d.runCommand ord c) (d.moverOf (.runCommand ord c)) := by
  cases c with
  | attack player_id damage =>
    apply goes_nowhere
    simp only [runCommand]
    cases d.players_.getEntity player_id with
    | none => rfl
    | some player =>
      dsimp only
      split_ifs
      · rfl
      · split
        · rfl
        · simp only [placement, EntityManager.modifyEntity_at fun e => e.damage_position damage]
  | move player_id direction =>
    simp only [runCommand, moverOf]
    cases hp : d.players_.getEntity player_id with
    | none => exact goes_nowhere rfl
    | some player =>
      dsimp only
      cases halive : player.isAlive with
      | false => exact goes_nowhere rfl
      | true =>
        by_cases ha : d.isAvailable (player.position_ + positionOffsetFromDirection direction)
        · simp only [Bool.not_true, Bool.false_eq_true, if_false, ha, if_true, and_self]
          refine goes_one (at_of_getEntity hp) ha ?_
          rw [placement, EntityManager.at_moveEntity hp halive, ← Sum.update_elim_inl]
          rfl
        · simp only [Bool.not_true, Bool.false_eq_true, if_false, ha, and_false]
          exact goes_nowhere rfl

lemma moveMonster_goes (ord : IterOrder MobId) (d : Dungeon) (draw : ℕ × Direction)
    (x : PlayerId ⊕ MobId) :
    Goes x d (d.moveMonster ord draw) (d.moverOf (.moveMonster ord draw)) := by
  simp only [moveMonster, moverOf]
  cases hm : (ord.entries d.monsters_.entities_)[draw.1]? with
  | none => exact goes_nowhere rfl
  | some entry =>
    obtain ⟨id, monster⟩ := entry
    have he : d.monsters_.getEntity id = some monster :=
      ord.mem_entries.mp (List.mem_of_getElem? hm)
    dsimp only
    cases halive : monster.isAlive with
    | false => exact goes_nowhere rfl
    | true =>
      by_cases ha : d.isAvailable (monster.position_ + positionOffsetFromDirection draw.2)
      · simp only [Bool.not_true, Bool.false_eq_true, if_false, ha, if_true, and_self]
        refine goes_one (at_of_getEntity he) ha ?_
        rw [placement, EntityManager.at_moveEntity he halive, ← Sum.update_elim_inr]
        rfl
      · simp only [Bool.not_true, Bool.false_eq_true, if_false, ha, and_false]
        exact goes_nowhere rfl

lemma act_goes (d : Dungeon) (a : Action) (x : PlayerId ⊕ MobId) :
    Goes x d (d.act a) (d.moverOf a) := by
  cases a with
  | push c => exact goes_nowhere rfl
  | popAll => exact goes_nowhere rfl
  | runCommand monsterOrder c => exact runCommand_goes monsterOrder d c x
  | moveMonster monsterOrder draw => exact moveMonster_goes monsterOrder d draw x
  | attackPlayer outcomes attackPower idx =>
    apply goes_nowhere
    simp only [act, attackPlayer]
    cases (outcomes.monsterOrder.entries d.monsters_.entities_)[idx]? with
    | none => rfl
    | some entry =>
      dsimp only
      split_ifs
      · rfl
      · split
        · rfl
        · have hstay (e : Entity PlayerId) :
              (if e.isAlive then e.damage attackPower else e).position_ = e.position_ := by
            split_ifs
            · exact e.damage_position attackPower
            · rfl
          simp only [placement, EntityManager.modifyEntity_at hstay]

/-! ### The way of an entity -/

lemma follows_act (d : Dungeon) (a : Action) : Follows d (d.act a) := by
  cases a with
  | push c => exact .of_at rfl rfl rfl
  | popAll => exact .of_at rfl rfl rfl
  | runCommand monsterOrder c => exact runCommand_follows monsterOrder d c
  | moveMonster monsterOrder draw => exact moveMonster_follows monsterOrder d draw
  | attackPlayer outcomes attackPower idx => exact attackPlayer_follows outcomes attackPower d idx

/-- A step onto an available position is a step to a neighbour. -/
lemma neighbours_adj {direction : Direction} (hl : Legal (floor d.game_map_) d.placement)
    (hp : d.placement x = some p)
    (ha : d.isAvailable (p + positionOffsetFromDirection direction)) :
    (neighbours d.game_map_).Adj p (p + positionOffsetFromDirection direction) := by
  obtain ⟨hfloor, hvacant⟩ := isAvailable_iff.mp ha
  have hle := (Position.exactDistance_add_le p (positionOffsetFromDirection direction)).trans
    (Position.offset_small direction)
  have hne : p.exactDistance (p + positionOffsetFromDirection direction) ≠ 0 := by
    rw [Ne, Position.exactDistance_eq_zero]
    exact fun h => hvacant x (h ▸ hp)
  exact ⟨hl.on_floor x p hp, hfloor, by omega⟩

/-- An entity goes a way along the floor, one step for each of its moves. -/
lemma exists_way {map : GameMap} (us : List Action) (hmap : d.game_map_ = map)
    (hl : Legal (floor map) d.placement) (hp : d.placement x = some p) :
    ∃ (p' : Position) (w : (neighbours map).Walk p p'),
      (run act d us).placement x = some p' ∧ w.length = (movers d us).countP (· = x) := by
  induction us generalizing d p with
  | nil => exact ⟨p, .nil, hp, rfl⟩
  | cons a us ih =>
    have hf := follows_act d a
    have hl' : Legal (floor map) (d.act a).placement := by
      subst hmap
      exact hf.puts.legal hl
    rw [run_cons, movers, List.countP_append]
    rcases act_goes d a x with ⟨hm, q, direction, hq, ha, hx⟩ | ⟨hm, hx⟩
    · obtain rfl := Option.some.inj (hp.symm.trans hq)
      have hadj : (neighbours map).Adj p (p + positionOffsetFromDirection direction) := by
        subst hmap
        exact neighbours_adj hl hp ha
      obtain ⟨p', w, hp', hw⟩ := ih (hf.game_map.trans hmap) hl' hx
      refine ⟨p', .cons hadj w, hp', ?_⟩
      rw [SimpleGraph.Walk.length_cons, hw, hm, Nat.add_comm]
      simp
    · obtain ⟨p', w, hp', hw⟩ := ih (hf.game_map.trans hmap) hl' (hx.trans hp)
      have hzero : (d.moverOf a).toList.countP (· = x) = 0 := by
        rw [List.countP_eq_zero]
        intro y hy
        rw [decide_eq_true_eq]
        exact fun h => hm (h ▸ Option.mem_toList.mp hy)
      exact ⟨p', w, hp', by rw [hw, hzero, Nat.zero_add]⟩

/-! ### No further than told -/

/-- The number of rounds in which monsters are moved. -/
def Call.moveCount : Call → ℕ
  | .processTick outcomes => outcomes.moveCount
  | _ => 0

lemma executed_monsterActions (cfg : Gameplay) (outcomes : TickOutcomes) (d : Dungeon) :
    (monsterActions cfg outcomes d).filterMap Action.executed = [] := by
  unfold monsterActions
  split_ifs
  · simp [List.filterMap_append, List.filterMap_map, Function.comp_def, Action.executed]
  · rfl

/-- What a call carries out, what it gives and what it leaves in the queue. -/
lemma executed_actions (cfg : Gameplay) (d : Dungeon) (c : Call) :
    (d.actions cfg c).filterMap Action.executed ++ (step cfg d c).command_queue_ =
      d.command_queue_ ++ c.command.toList := by
  cases c with
  | addPlayerAttackCommand player_id damage => rfl
  | addMovePlayerCommand player_id direction => rfl
  | processTick outcomes =>
    have hqueue : (d.processTick cfg outcomes).2.command_queue_ = [] := by
      rw [processTick_eq, endTick_queue, runCommands_withQueue, withQueue_queue]
    have hexecuted : (d.command_queue_.map (Action.runCommand outcomes.monsterOrder)).filterMap
        Action.executed = d.command_queue_ := by
      simp [List.filterMap_map, Function.comp_def, Action.executed]
    show _ ++ (d.processTick cfg outcomes).2.command_queue_ = d.command_queue_ ++ []
    rw [hqueue, actions, List.filterMap_append, executed_monsterActions,
      List.filterMap_cons_none rfl, hexecuted, List.append_nil]

/-- Every command is carried out once, in the order in which they were given, or is still in the
queue. -/
lemma executed_trace (cfg : Gameplay) (d : Dungeon) (calls : List Call) :
    (trace cfg d calls).filterMap Action.executed ++
        (run (step cfg) d calls).command_queue_ =
      d.command_queue_ ++ calls.filterMap Call.command := by
  induction calls generalizing d with
  | nil => simp [trace]
  | cons c calls ih =>
    have hcons : (c :: calls).filterMap Call.command =
        c.command.toList ++ calls.filterMap Call.command := by
      cases h : c.command <;> simp [h]
    rw [trace, List.filterMap_append, List.append_assoc, run_cons, ih, ← List.append_assoc,
      executed_actions, hcons, List.append_assoc]

/-- A player moves by a command to do so that is carried out, a monster in a round. -/
lemma moverOf_eq_some {a : Action} {y : PlayerId ⊕ MobId} (h : d.moverOf a = some y) :
    (∃ player_id c, y = .inl player_id ∧ a.executed = some c ∧ c.moves player_id) ∨
      ∃ id, y = .inr id ∧ a.isRound := by
  unfold moverOf at h
  split at h
  · rename_i player_id direction
    split at h
    · cases h
    · split_ifs at h
      exact Or.inl ⟨player_id, .move player_id direction, (Option.some.inj h).symm, rfl,
        decide_eq_true rfl⟩
  · split at h
    · cases h
    · split_ifs at h
      exact Or.inr ⟨_, (Option.some.inj h).symm, rfl⟩
  · cases h

/-- A player moves only by a command carried out. -/
lemma player_movers_le (d : Dungeon) (us : List Action) (player_id : PlayerId) :
    (movers d us).countP (· = .inl player_id) ≤
      (us.filterMap Action.executed).countP (Command.moves player_id) := by
  induction us generalizing d with
  | nil => exact le_rfl
  | cons a us ih =>
    have hone : (d.moverOf a).toList.countP (· = .inl player_id) ≤
        a.executed.toList.countP (Command.moves player_id) := by
      cases hm : d.moverOf a with
      | none => exact Nat.zero_le _
      | some y =>
        rcases moverOf_eq_some hm with ⟨id, c, rfl, hc, hmoves⟩ | ⟨id, rfl, -⟩
        · by_cases hid : id = player_id
          · subst hid
            simp [hc, hmoves]
          · simp [hid]
        · simp
    have hcons : (a :: us).filterMap Action.executed =
        a.executed.toList ++ us.filterMap Action.executed := by
      cases h : a.executed <;> simp [h]
    rw [movers, hcons, List.countP_append, List.countP_append]
    exact Nat.add_le_add hone (ih _)

/-- Monsters move only in the rounds in which they are moved. -/
lemma monster_movers_le (d : Dungeon) (us : List Action) :
    (movers d us).countP Sum.isRight ≤ us.countP Action.isRound := by
  induction us generalizing d with
  | nil => exact le_rfl
  | cons a us ih =>
    have hone : (d.moverOf a).toList.countP Sum.isRight ≤ [a].countP Action.isRound := by
      cases hm : d.moverOf a with
      | none => exact Nat.zero_le _
      | some y =>
        rcases moverOf_eq_some hm with ⟨id, c, rfl, -, -⟩ | ⟨id, rfl, hround⟩
        · simp
        · simp [hround]
    rw [movers, List.countP_append, ← List.singleton_append, List.countP_append]
    exact Nat.add_le_add hone (ih _)

lemma rounds_actions (cfg : Gameplay) (d : Dungeon) (c : Call) :
    (d.actions cfg c).countP Action.isRound ≤ c.moveCount := by
  cases c with
  | addPlayerAttackCommand player_id damage => exact Nat.zero_le _
  | addMovePlayerCommand player_id direction => exact Nat.zero_le _
  | processTick outcomes =>
    have hcommands : (Action.popAll :: d.command_queue_.map
        (Action.runCommand outcomes.monsterOrder)).countP Action.isRound = 0 := by
      simp [List.countP_eq_zero, Action.isRound]
    rw [actions, List.countP_append, hcommands, Nat.zero_add, monsterActions]
    split_ifs
    · have hmoves (n : ℕ) : ((List.range n).map fun i => Action.moveMonster outcomes.monsterOrder
          (outcomes.moves i)).countP Action.isRound = n := by
        simp [List.countP_map, Function.comp_def, Action.isRound]
      have hattacks (n : ℕ) : ((List.range n).map fun i => Action.attackPlayer outcomes
          cfg.monster_default_attack (outcomes.attacks i)).countP Action.isRound = 0 := by
        simp [List.countP_eq_zero, Action.isRound]
      rw [List.countP_append, hmoves, hattacks]
      exact Nat.min_le_left _ _
    · exact Nat.zero_le _

lemma rounds_trace (cfg : Gameplay) (d : Dungeon) (calls : List Call) :
    (trace cfg d calls).countP Action.isRound ≤ (calls.map Call.moveCount).sum := by
  induction calls generalizing d with
  | nil => exact le_rfl
  | cons c calls ih =>
    rw [trace, List.countP_append, List.map_cons, List.sum_cons]
    exact Nat.add_le_add (rounds_actions cfg d c) (ih _)

lemma create_queue (cfg : Gameplay) (map : GameMap) (players : List PlayerId)
    (gen : PositionGenerator) : (create cfg map players gen).command_queue_ = [] := by
  have spawn (d : Dungeon) (p : PlayerId) (h : d.command_queue_ = []) :
      (d.spawnPlayer cfg p).command_queue_ = [] := h
  have spawned : (players.foldl (spawnPlayer cfg)
      ⟨map, .empty, .empty, gen, [], 0⟩).command_queue_ = [] :=
    run_inv (I := fun d : Dungeon => d.command_queue_ = []) spawn rfl players
  have spawnMob (d : Dungeon) (h : d.command_queue_ = []) :
      (d.spawnMonster cfg).command_queue_ = [] := h
  exact Function.Iterate.rec (fun d : Dungeon => d.command_queue_ = []) spawned spawnMob _

lemma legal_create (cfg : Gameplay) (map : GameMap) (players : List PlayerId)
    (gen : PositionGenerator) : (create cfg map players gen).game_map_ = map ∧
      Legal (floor map) (create cfg map players gen).placement := by
  have hf : Follows ⟨map, .empty, .empty, gen, [], 0⟩ (create cfg map players gen) :=
    create_follows map players gen
  refine ⟨hf.game_map, hf.puts.legal ?_⟩
  have hempty : placement ⟨map, .empty, .empty, gen, [], 0⟩ = fun _ => none := by
    funext i
    cases i <;> simp [placement, EntityManager.at_empty]
  rw [hempty]
  exact Legal.empty

/-- **Entities go along the floor.** At every point of a run, within ticks as well, an entity is
where a way over neighbouring positions of the floor leads that has one step for each time it
moved, so no further from where it was put than that. A player did not move more often than
commands to move it were given, nor all the monsters together more often than they were
moved. -/
theorem entities_go_along_floor (cfg : Gameplay) (map : GameMap) (players : List PlayerId)
    (gen : PositionGenerator) (calls : List Call) (n : ℕ) :
    let d := create cfg map players gen
    let us := (trace cfg d calls).take n
    (∀ x p, d.placement x = some p →
      ∃ (p' : Position) (w : (neighbours map).Walk p p'),
        (run act d us).placement x = some p' ∧ w.length = (movers d us).countP (· = x) ∧
          p.exactDistance p' ≤ (movers d us).countP (· = x)) ∧
    (∀ player_id, (movers d us).countP (· = .inl player_id) ≤
      (calls.filterMap Call.command).countP (Command.moves player_id)) ∧
    (movers d us).countP Sum.isRight ≤ (calls.map Call.moveCount).sum := by
  intro d us
  have htrace : us ++ (trace cfg d calls).drop n = trace cfg d calls := List.take_append_drop ..
  obtain ⟨hmap, hl⟩ := legal_create cfg map players gen
  refine ⟨fun x p hp => ?_, fun player_id => ?_, ?_⟩
  · obtain ⟨p', w, hp', hw⟩ := exists_way us hmap hl hp
    exact ⟨p', w, hp', hw, hw ▸ exactDistance_le_length w⟩
  · have hqueue : d.command_queue_ = [] := create_queue cfg map players gen
    have hexecuted := executed_trace cfg d calls
    rw [← htrace, hqueue, List.nil_append, List.filterMap_append, List.append_assoc] at hexecuted
    refine (player_movers_le d us player_id).trans ?_
    rw [← hexecuted, List.countP_append]
    exact Nat.le_add_right _ _
  · refine (monster_movers_le d us).trans (le_trans ?_ (rounds_trace cfg d calls))
    rw [← htrace, List.countP_append]
    exact Nat.le_add_right _ _

end Dungeon

end DungeonCrawler
