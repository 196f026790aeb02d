import DungeonCrawler.Domain.Targets
import DungeonCrawler.Lib.Runs
import DungeonCrawler.Lib.Vitals

/-!
What an entity lives through: the hits it takes, and what is left of it.

A run of a dungeon is taken apart into single actions, so that what happens within a tick can be
told apart: each command that is executed, each move and each attack of a monster. The hits
are read off the actions, with the exact damage of each; what they do to an entity is that of
points taken away one hit after the other.
-/

namespace DungeonCrawler

namespace Entity

variable {Id : Type}

/-- The entity without its identifier. -/
def body (e : Entity Id) : Entity Unit := ⟨(), e.position_, e.data_, e.state_⟩

def vitals (e : Entity Id) : Vitals := ⟨e.data_.health.toNat, e.state_ = .Dead⟩

lemma body_damage (e : Entity Id) (damage : HP) :
    (e.damage damage).body = e.body.damage damage := by
  unfold Entity.damage
  simp only [body]
  split_ifs with h <;> simp [h]

/-- Damage is a hit. -/
lemma vitals_damage (e : Entity Id) (damage : HP) :
    (e.damage damage).vitals = e.vitals.hit damage.toNat := by
  have zero : Health.sub e.data_.health damage = 0 ↔
      e.data_.health.toNat - damage.toNat = 0 := by
    rw [sub_eq_zero, Nat.sub_eq_zero_iff_le]
  unfold Entity.damage vitals Vitals.hit
  dsimp only
  split_ifs with h
  · simp [toNat_sub, zero.mp h]
  · simp [toNat_sub, zero.not.mp h]

end Entity

namespace EntityManager

open Finmap

variable {Id : Type} [DecidableEq Id] {m : EntityManager Id} {id : Id} {e : Entity Id}

/-- The entities without their identifiers. -/
def bodies (m : EntityManager Id) (id : Id) : Option (Entity Unit) :=
  (m.getEntity id).map Entity.body

lemma bodies_of_getEntity (he : m.getEntity id = some e) : m.bodies id = some e.body := by
  rw [bodies, he, Option.map_some]

lemma bodies_addEntity {pos : Position} (data : EntityData) (h : id ∉ m.entities_) :
    (m.addEntity data id pos).2.bodies =
      Function.update m.bodies id (some ⟨(), pos, data, .Alive⟩) := by
  funext id'
  simp only [addEntity, h, if_false, bodies, getEntity, lookup_insert_ite, Function.update_apply]
  split_ifs <;> rfl

lemma bodies_modifyEntity {f : Entity Id → Entity Id} (he : m.getEntity id = some e) :
    (m.modifyEntity id f).bodies = Function.update m.bodies id (some (f e).body) := by
  have hl : m.entities_.lookup id = some e := he
  funext id'
  rw [bodies, getEntity, modifyEntity, lookup_modify, Function.update_apply, hl]
  split_ifs <;> rfl

/-- An entity that is alive is moved. -/
lemma bodies_moveEntity {dir : Direction} {pos : Position} (he : m.getEntity id = some e)
    (ha : e.isAlive) : (m.moveEntity id dir pos).2.bodies =
      Function.update m.bodies id (some (e.body.setPosition pos)) := by
  have hl : m.entities_.lookup id = some e := he
  funext id'
  simp only [bodies, moveEntity, hl, ha, Bool.not_true, Bool.false_eq_true, if_false, getEntity,
    lookup_insert_ite, Function.update_apply]
  split_ifs <;> rfl

end EntityManager

namespace Spawner

open EntityManager Finmap

variable {Id : Type} [DecidableEq Id]

/-- Spawning adds an entity that is alive and as configured, or leaves the table as it was. -/
lemma spawnEntity_bodies (isAvailable : Position → Bool) (data : EntityData)
    (manager : EntityManager Id) (id : Id) (gen : PositionGenerator) :
    (spawnEntity isAvailable data manager id gen).2.1 = manager ∨
      ∃ pos, (spawnEntity isAvailable data manager id gen).2.1.bodies =
        Function.update manager.bodies id (some ⟨(), pos, data, .Alive⟩) := by
  unfold spawnEntity
  dsimp only
  split_ifs with hid ha
  · exact Or.inl rfl
  · exact Or.inl rfl
  · have hid' : id ∉ manager.entities_ := by
      rw [← lookup_eq_none]
      simpa [getEntity] using hid
    exact Or.inr ⟨_, bodies_addEntity data hid'⟩

end Spawner

/-! ### Single actions -/

/-- What happens in a dungeon at a time. -/
inductive Action
  | push (c : Command)
  | popAll
  | runCommand (monsterOrder : IterOrder MobId) (c : Command)
  | moveMonster (monsterOrder : IterOrder MobId) (draw : ℕ × Direction)
  | attackPlayer (outcomes : TickOutcomes) (attackPower : HP) (idx : ℕ)

/-- An attack that found a target. -/
structure Hit where
  attacker : PlayerId ⊕ MobId
  target : PlayerId ⊕ MobId
  damage : HP

namespace Dungeon

open EntityManager Finmap Runs

def act (d : Dungeon) : Action → Dungeon
  | .push c => { d with command_queue_ := d.command_queue_ ++ [c] }
  | .popAll => { d with command_queue_ := [] }
  | .runCommand monsterOrder c => d.runCommand monsterOrder c
  | .moveMonster monsterOrder draw => d.moveMonster monsterOrder draw
  | .attackPlayer outcomes attackPower idx => d.attackPlayer outcomes attackPower idx

/-- The actions of the monsters in a tick. The number of attacks is read after the moves. -/
def monsterActions (cfg : Gameplay) (outcomes : TickOutcomes) (d : Dungeon) : List Action :=
  if d.monsters_.entities_.size > 0 then
    let d' := moveRandomMonsters outcomes outcomes.moveCount d
    (List.range (min outcomes.moveCount d.monsters_.entities_.size)).map
        (fun i => .moveMonster outcomes.monsterOrder (outcomes.moves i)) ++
      (List.range (min outcomes.attackCount d'.monsters_.entities_.size)).map
        fun i => .attackPlayer outcomes cfg.monster_default_attack (outcomes.attacks i)
  else []

/-- The actions of a call on the dungeon. -/
def actions (cfg : Gameplay) (d : Dungeon) : Call → List Action
  | .addPlayerAttackCommand player_id damage => [.push (.attack player_id damage)]
  | .addMovePlayerCommand player_id direction => [.push (.move player_id direction)]
  | .processTick outcomes =>
    let commands := Action.popAll :: d.command_queue_.map (.runCommand outcomes.monsterOrder)
    commands ++ monsterActions cfg outcomes (run act d commands)

/-- The actions of a run. -/
def trace (cfg : Gameplay) : Dungeon → List Call → List Action
  | _, [] => []
  | d, c :: calls => d.actions cfg c ++ trace cfg (d.step cfg c) calls

/-- The hit of an action, if it is an attack of somebody alive that finds a target. -/
def hitOf (d : Dungeon) : Action → Option Hit
  | .runCommand monsterOrder (.attack player_id damage) =>
    match d.players_.getEntity player_id with
    | none => none
    | some player =>
      if player.isAlive then
        (findClosestTarget monsterOrder player.position_ player.data_.radius_attack.toUInt64
          d.monsters_).map fun targetId => ⟨.inl player_id, .inr targetId, damage⟩
      else none
  | .attackPlayer outcomes attackPower idx =>
    match (outcomes.monsterOrder.entries d.monsters_.entities_)[idx]? with
    | none => none
    | some (id, monster) =>
      if monster.isAlive then
        (findClosestTarget outcomes.playerOrder monster.position_
          monster.data_.radius_attack.toUInt64 d.players_).map
            fun targetId => ⟨.inr id, .inl targetId, attackPower⟩
      else none
  | _ => none

/-- The hits of a list of actions. -/
def hits : Dungeon → List Action → List Hit
  | _, [] => []
  | d, a :: as => (d.hitOf a).toList ++ hits (d.act a) as

/-! ### The actions of a run are the run -/

variable {cfg : Gameplay} {d : Dungeon}

lemma run_monsterActions (cfg : Gameplay) (outcomes : TickOutcomes) (d : Dungeon) :
    run act d (monsterActions cfg outcomes d) = d.monsterTurn cfg outcomes := by
  unfold monsterActions monsterTurn
  split_ifs
  · rw [run_append, run, run, List.foldl_map, List.foldl_map]
    rfl
  · rfl

lemma run_actions (cfg : Gameplay) (d : Dungeon) (c : Call) :
    run act d (d.actions cfg c) = d.step cfg c := by
  cases c with
  | processTick outcomes =>
    have commands : run act d (.popAll :: d.command_queue_.map
        (.runCommand outcomes.monsterOrder)) = d.command_queue_.foldl
          (runCommand outcomes.monsterOrder) { d with command_queue_ := [] } := by
      rw [run_cons, run, List.foldl_map]
      rfl
    simp only [actions, run_append, run_monsterActions, commands, step, processTick]
    split_ifs <;> rfl
  | _ => rfl

lemma run_trace (cfg : Gameplay) (d : Dungeon) (calls : List Call) :
    run act d (trace cfg d calls) = run (step cfg) d calls := by
  induction calls generalizing d with
  | nil => rfl
  | cons c calls ih => rw [trace, run_append, run_actions, ih, run_cons]

/-! ### What an action does to an entity -/

/-- What stands under an identifier, be it a player or a monster. -/
def body (d : Dungeon) : PlayerId ⊕ MobId → Option (Entity Unit) :=
  Sum.elim d.players_.bodies d.monsters_.bodies

/-- What an action that is the hit `hit`, or none, does to an entity: one that is its target is
alive and takes the damage; any other stays as it is, or moves if it is alive. -/
def Fares (x : PlayerId ⊕ MobId) (d d' : Dungeon) (hit : Option Hit) : Prop :=
  (∃ h b, hit = some h ∧ h.target = x ∧ d.body x = some b ∧ b.isAlive ∧
      d'.body x = some (b.damage h.damage)) ∨
    ((∀ h, hit = some h → h.target ≠ x) ∧ (d'.body x = d.body x ∨
      ∃ b pos, d.body x = some b ∧ b.isAlive ∧ d'.body x = some (b.setPosition pos)))

variable {x : PlayerId ⊕ MobId} {d' : Dungeon} {b : Entity Unit}

lemma fares_same (h : d'.body = d.body) : Fares x d d' none :=
  Or.inr ⟨fun _ he => (nomatch he), Or.inl (congrFun h x)⟩

lemma fares_hit {h : Hit} (hb : d.body h.target = some b) (ha : b.isAlive)
    (hd : d'.body = Function.update d.body h.target (some (b.damage h.damage))) :
    Fares x d d' (some h) := by
  rw [Fares, hd]
  rcases eq_or_ne x h.target with rfl | hne
  · exact Or.inl ⟨h, b, rfl, rfl, hb, ha, Function.update_self ..⟩
  · refine Or.inr ⟨fun h' he => ?_, Or.inl (Function.update_of_ne hne ..)⟩
    rw [← Option.some.inj he]
    exact hne.symm

lemma fares_move (y : PlayerId ⊕ MobId) (pos : Position) (hb : d.body y = some b) (ha : b.isAlive)
    (hd : d'.body = Function.update d.body y (some (b.setPosition pos))) :
    Fares x d d' none := by
  refine Or.inr ⟨fun _ h => (nomatch h), ?_⟩
  rw [hd]
  rcases eq_or_ne x y with rfl | hne
  · exact Or.inr ⟨b, pos, hb, ha, Function.update_self ..⟩
  · exact Or.inl (Function.update_of_ne hne ..)

/-- The command of a player who is not alive does nothing; one who is moves or attacks. -/
lemma runCommand_fares (ord : IterOrder MobId) (d : Dungeon) (c : Command)
    (x : PlayerId ⊕ MobId) :
    Fares x d (d.runCommand ord c) (d.hitOf (.runCommand ord c)) := by
  cases c with
  | attack player_id damage =>
    simp only [runCommand, hitOf]
    cases hp : d.players_.getEntity player_id with
    | none => exact fares_same rfl
    | some player =>
      dsimp only
      cases ha : player.isAlive with
      | false => exact fares_same rfl
      | true =>
        simp only [Bool.not_true, Bool.false_eq_true, if_false, if_true]
        cases ht : findClosestTarget ord player.position_ player.data_.radius_attack.toUInt64
            d.monsters_ with
        | none => exact fares_same rfl
        | some id =>
          obtain ⟨target, hc⟩ := closest_of_findClosestTarget ht
          refine fares_hit (b := target.body) (bodies_of_getEntity hc.getEntity)
            hc.reaches.1 ?_
          rw [body, bodies_modifyEntity hc.getEntity, Entity.body_damage,
            ← Sum.update_elim_inr]
          rfl
  | move player_id direction =>
    simp only [runCommand, hitOf]
    cases hp : d.players_.getEntity player_id with
    | none => exact fares_same rfl
    | some player =>
      dsimp only
      split_ifs with ha
      · exact fares_same rfl
      · have ha : player.isAlive := by simpa using ha
        refine fares_move (.inl player_id)
          (player.position_ + positionOffsetFromDirection direction) (b := player.body)
          (bodies_of_getEntity hp) ha ?_
        rw [body, bodies_moveEntity hp ha, ← Sum.update_elim_inl]
        rfl
      · exact fares_same rfl

lemma moveMonster_fares (ord : IterOrder MobId) (d : Dungeon) (draw : ℕ × Direction)
    (x : PlayerId ⊕ MobId) : Fares x d (d.moveMonster ord draw) none := by
  unfold moveMonster
  dsimp only
  split
  · exact fares_same rfl
  · rename_i id monster hm
    have he : d.monsters_.getEntity id = some monster :=
      ord.mem_entries.mp (List.mem_of_getElem? hm)
    split_ifs with ha
    · exact fares_same rfl
    · have ha : monster.isAlive := by simpa using ha
      refine fares_move (.inr id) (monster.position_ + positionOffsetFromDirection draw.2)
        (b := monster.body) (bodies_of_getEntity he) ha ?_
      rw [body, bodies_moveEntity he ha, ← Sum.update_elim_inr]
      rfl
    · exact fares_same rfl

lemma attackPlayer_fares (outcomes : TickOutcomes) (attackPower : HP) (d : Dungeon) (idx : ℕ)
    (x : PlayerId ⊕ MobId) : Fares x d (d.attackPlayer outcomes attackPower idx)
      (d.hitOf (.attackPlayer outcomes attackPower idx)) := by
  simp only [attackPlayer, hitOf]
  cases (outcomes.monsterOrder.entries d.monsters_.entities_)[idx]? with
  | none => exact fares_same rfl
  | some entry =>
    obtain ⟨id, monster⟩ := entry
    dsimp only
    cases ha : monster.isAlive with
    | false => exact fares_same rfl
    | true =>
      simp only [Bool.not_true, Bool.false_eq_true, if_false, if_true]
      cases ht : findClosestTarget outcomes.playerOrder monster.position_
          monster.data_.radius_attack.toUInt64 d.players_ with
      | none => exact fares_same rfl
      | some id =>
        obtain ⟨target, hc⟩ := closest_of_findClosestTarget ht
        refine fares_hit (b := target.body) (bodies_of_getEntity hc.getEntity)
          hc.reaches.1 ?_
        rw [body, bodies_modifyEntity hc.getEntity, if_pos hc.reaches.1, Entity.body_damage,
          ← Sum.update_elim_inl]
        rfl

lemma act_fares (d : Dungeon) (a : Action) (x : PlayerId ⊕ MobId) :
    Fares x d (d.act a) (d.hitOf a) := by
  cases a with
  | push c => exact fares_same rfl
  | popAll => exact fares_same rfl
  | runCommand monsterOrder c => exact runCommand_fares monsterOrder d c x
  | moveMonster monsterOrder draw => exact moveMonster_fares monsterOrder d draw x
  | attackPlayer outcomes attackPower idx => exact attackPlayer_fares outcomes attackPower d idx x

/-- Only who is alive attacks. -/
lemma attacker_isAlive {a : Action} {h : Hit} (ha : d.hitOf a = some h) :
    ∃ b, d.body h.attacker = some b ∧ b.isAlive := by
  cases a with
  | runCommand monsterOrder c =>
    cases c with
    | attack player_id damage =>
      simp only [hitOf] at ha
      cases hp : d.players_.getEntity player_id with
      | none => simp [hp] at ha
      | some player =>
        simp only [hp] at ha
        split_ifs at ha with alive
        obtain ⟨id, -, rfl⟩ := Option.map_eq_some_iff.mp ha
        exact ⟨player.body, bodies_of_getEntity hp, alive⟩
    | move player_id direction => cases ha
  | attackPlayer outcomes attackPower idx =>
    simp only [hitOf] at ha
    cases hm : (outcomes.monsterOrder.entries d.monsters_.entities_)[idx]? with
    | none => simp [hm] at ha
    | some entry =>
      simp only [hm] at ha
      split_ifs at ha with alive
      obtain ⟨id, -, rfl⟩ := Option.map_eq_some_iff.mp ha
      have he : d.monsters_.getEntity entry.1 = some entry.2 :=
        outcomes.monsterOrder.mem_entries.mp (List.mem_of_getElem? hm)
      exact ⟨entry.2.body, bodies_of_getEntity he, alive⟩
  | _ => cases ha

/-! ### What a run does to an entity -/

/-- The damage of the hits that an entity took. -/
def damages (x : PlayerId ⊕ MobId) (hs : List Hit) : List ℕ :=
  (hs.filter (·.target = x)).map (·.damage.toNat)

lemma damages_of_other {hs : List Hit} {hit : Option Hit}
    (h : ∀ h, hit = some h → h.target ≠ x) : damages x (hit.toList ++ hs) = damages x hs := by
  cases hit with
  | none => rfl
  | some h' => simp [damages, h h' rfl]

/-- An entity takes the hits of which it is the target. -/
lemma vitals_run (us : List Action) (hb : d.body x = some b) :
    ∃ b', (run act d us).body x = some b' ∧
      b'.vitals = b.vitals.hits (damages x (hits d us)) := by
  induction us generalizing d b with
  | nil => exact ⟨b, hb, rfl⟩
  | cons a us ih =>
    rw [run_cons, hits]
    rcases act_fares d a x with
      ⟨h, b₁, hh, rfl, hb₁, -, hd⟩ | ⟨hother, hsame | ⟨b₁, pos, hb₁, -, hd⟩⟩
    · obtain rfl := Option.some.inj (hb.symm.trans hb₁)
      obtain ⟨b', hb', hv⟩ := ih hd
      refine ⟨b', hb', ?_⟩
      rw [hv, Entity.vitals_damage, ← Vitals.hits_cons, hh]
      simp [damages]
    · rw [damages_of_other hother]
      exact ih (hsame.trans hb)
    · -- a move costs nothing
      obtain rfl := Option.some.inj (hb.symm.trans hb₁)
      rw [damages_of_other hother]
      obtain ⟨b', hb', hv⟩ := ih hd
      exact ⟨b', hb', hv⟩

/-- Nobody comes and nobody goes. -/
lemma isSome_body_run (d : Dungeon) (us : List Action) (x : PlayerId ⊕ MobId) :
    ((run act d us).body x).isSome = (d.body x).isSome := by
  refine run_inv (I := fun d' : Dungeon => (d'.body x).isSome = (d.body x).isSome)
    (fun d' a h => ?_) rfl us
  rw [← h]
  rcases act_fares d' a x with ⟨h, b, -, -, hb, -, hd⟩ | ⟨-, hsame | ⟨b, pos, hb, -, hd⟩⟩
  · rw [hb, hd]
    rfl
  · rw [hsame]
  · rw [hb, hd]
    rfl

/-- Whoever is dead stays where and as it is, and neither is hit nor hits. -/
lemma dead_run (us : List Action) (hb : d.body x = some b) (hdead : ¬ b.isAlive) :
    (run act d us).body x = some b ∧ ∀ h ∈ hits d us, h.target ≠ x ∧ h.attacker ≠ x := by
  induction us generalizing d with
  | nil => exact ⟨hb, fun _ h => (nomatch h)⟩
  | cons a us ih =>
    have other : (∀ h, d.hitOf a = some h → h.target ≠ x) ∧ (d.act a).body x = some b := by
      rcases act_fares d a x with ⟨h, b₁, -, -, hb₁, ha, -⟩ | ⟨hother, hsame | ⟨b₁, -, hb₁, ha, -⟩⟩
      · obtain rfl := Option.some.inj (hb.symm.trans hb₁)
        exact absurd ha hdead
      · exact ⟨hother, hsame.trans hb⟩
      · obtain rfl := Option.some.inj (hb.symm.trans hb₁)
        exact absurd ha hdead
    obtain ⟨stays, spared⟩ := ih other.2
    refine ⟨stays, fun h hh => ?_⟩
    rcases List.mem_append.mp hh with hh | hh
    · have hh := Option.mem_toList.mp hh
      refine ⟨other.1 h hh, ?_⟩
      rintro rfl
      obtain ⟨b₁, hb₁, ha⟩ := attacker_isAlive hh
      obtain rfl := Option.some.inj (hb.symm.trans hb₁)
      exact hdead ha
    · exact spared h hh

/-! ### New entities -/

def spawnData (cfg : Gameplay) : PlayerId ⊕ MobId → EntityData
  | .inl _ => getCfgPlayerData cfg
  | .inr _ => getCfgMonsterData cfg

/-- Everybody is alive and as configured. -/
def Unharmed (cfg : Gameplay) (d : Dungeon) : Prop :=
  ∀ x b, d.body x = some b → b.isAlive ∧ b.data_ = spawnData cfg x

lemma Unharmed.update (h : Unharmed cfg d) (x : PlayerId ⊕ MobId) (pos : Position)
    (hd : d'.body = Function.update d.body x (some ⟨(), pos, spawnData cfg x, .Alive⟩)) :
    Unharmed cfg d' := by
  intro y b hb
  rw [hd, Function.update_apply] at hb
  split_ifs at hb with hy
  · obtain rfl := Option.some.inj hb
    exact ⟨rfl, by rw [hy]⟩
  · exact h y b hb

lemma Unharmed.spawnPlayer (h : Unharmed cfg d) (p : PlayerId) :
    Unharmed cfg (d.spawnPlayer cfg p) := by
  have hbody : (d.spawnPlayer cfg p).body = Sum.elim (Spawner.spawnEntity d.isAvailable
    (getCfgPlayerData cfg) d.players_ p d.pos_gen_).2.1.bodies d.monsters_.bodies := rfl
  rcases Spawner.spawnEntity_bodies d.isAvailable (getCfgPlayerData cfg) d.players_ p d.pos_gen_
    with he | ⟨pos, he⟩
  · intro x b hb
    rw [hbody, he] at hb
    exact h x b hb
  · refine h.update (.inl p) pos ?_
    rw [hbody, he, ← Sum.update_elim_inl]
    rfl

lemma Unharmed.spawnMonster (h : Unharmed cfg d) : Unharmed cfg (d.spawnMonster cfg) := by
  have hbody : (d.spawnMonster cfg).body = Sum.elim d.players_.bodies (Spawner.spawnEntity
    d.isAvailable (getCfgMonsterData cfg) d.monsters_ ⟨d.mob_id_counter_⟩
    d.pos_gen_).2.1.bodies := rfl
  rcases Spawner.spawnEntity_bodies d.isAvailable (getCfgMonsterData cfg) d.monsters_
    ⟨d.mob_id_counter_⟩ d.pos_gen_ with he | ⟨pos, he⟩
  · intro x b hb
    rw [hbody, he] at hb
    exact h x b hb
  · refine h.update (.inr ⟨d.mob_id_counter_⟩) pos ?_
    rw [hbody, he, ← Sum.update_elim_inr]
    rfl

lemma unharmed_create (cfg : Gameplay) (map : GameMap) (players : List PlayerId)
    (gen : PositionGenerator) : Unharmed cfg (create cfg map players gen) := by
  have start : Unharmed cfg ⟨map, .empty, .empty, gen, [], 0⟩ := by
    rintro (p | m) b hb <;> cases hb
  have spawned : Unharmed cfg (players.foldl (Dungeon.spawnPlayer cfg) _) :=
    run_inv (I := Unharmed cfg) (fun _ p h => h.spawnPlayer p) start players
  exact Function.Iterate.rec (Unharmed cfg) spawned (fun _ h => h.spawnMonster) _

/-! ### The law -/

/-- What holds of an entity that has become `body` by the actions `us`, and of the actions `vs`
that follow. -/
structure Lives (cfg : Gameplay) (d : Dungeon) (us vs : List Action) (x : PlayerId ⊕ MobId)
    (body : Entity Unit) : Prop where
  health : body.data_.health.toNat =
    (spawnData cfg x).health.toNat - (damages x (hits d us)).sum
  dead_iff : body.state_ = .Dead ↔
    (∃ h ∈ hits d us, h.target = x) ∧ body.data_.health = 0
  no_more : Always act (fun d' => ∀ body', d'.body x = some body' →
    body'.data_.health ≤ body.data_.health) (run act d us) vs
  stays : body.state_ = .Dead → Always act (fun d' => d'.body x = some body) (run act d us) vs
  spared : body.state_ = .Dead → ∀ h ∈ hits (run act d us) vs, h.target ≠ x ∧ h.attacker ≠ x

lemma damages_ne_nil_iff {hs : List Hit} : damages x hs ≠ [] ↔ ∃ h ∈ hs, h.target = x := by
  simp [damages]

/-- Points only go down. -/
lemma health_run_le {us : List Action} {b' : Entity Unit} (hb : d.body x = some b)
    (hb' : (run act d us).body x = some b') : b'.data_.health ≤ b.data_.health := by
  obtain ⟨b₁, hb₁, hv⟩ := vitals_run us hb
  obtain rfl := Option.some.inj (hb'.symm.trans hb₁)
  have hpoints : b'.data_.health.toNat = _ := congrArg Vitals.points hv
  rw [Vitals.points_hits] at hpoints
  rw [UInt32.le_iff_toNat_le, hpoints]
  exact Nat.sub_le ..

/-- Who is unharmed at the beginning lives by the law. -/
lemma Unharmed.lives (h : Unharmed cfg d) (hb : d.body x = some b) (us vs : List Action) :
    ∃ b', (run act d us).body x = some b' ∧ Lives cfg d us vs x b' := by
  obtain ⟨alive, data⟩ := h x b hb
  have alive : b.state_ = .Alive := by simpa [Entity.isAlive] using alive
  have fresh : b.vitals = .fresh (spawnData cfg x).health.toNat := by
    simp [Entity.vitals, Vitals.fresh, alive, data]
  obtain ⟨b', hb', hv⟩ := vitals_run us hb
  rw [fresh] at hv
  have points : b'.data_.health.toNat = (Vitals.hits _ _).points := congrArg Vitals.points hv
  have dead : b'.state_ = .Dead ↔ b'.vitals.dead := by simp [Entity.vitals]
  have zero : b'.data_.health = 0 ↔ b'.data_.health.toNat = 0 := by
    rw [← UInt32.toNat_inj, UInt32.toNat_zero]
  have rest (hdead : b'.state_ = .Dead) (ws : List Action) :=
    dead_run ws hb' (by simp [Entity.isAlive, hdead])
  refine ⟨b', hb', ?_, ?_, fun ws _ _ b₁ => health_run_le hb', fun hdead ws _ _ => ?_,
    fun hdead => (rest hdead vs).2⟩
  · rw [points, Vitals.points_hits]
    rfl
  · rw [dead, hv, Vitals.dead_hits_fresh, damages_ne_nil_iff, zero, points]
  · exact (rest hdead ws).1

/-- **An entity lives by its hits.** Whatever the settings, the map, the players, the commands
and the outcomes of chance, at every point of a run, within ticks as well, an entity has what
it was spawned with less the sum of the damage of the attacks that chose it, and no less than
none. It is dead if and only if it was hit and has none left; from then on it stays as and
where it is, and is neither chosen by an attack nor makes one. And a tick returns nothing if
and only if no player is alive at its end. -/
theorem lives_by_hits (cfg : Gameplay) (map : GameMap) (players : List PlayerId)
    (gen : PositionGenerator) (calls : List Call) :
    let d := create cfg map players gen
    run act d (trace cfg d calls) = run (step cfg) d calls ∧
    (∀ us vs, trace cfg d calls = us ++ vs → ∀ x,
      (d.body x = none ∧ (run act d us).body x = none) ∨
      ∃ body, (run act d us).body x = some body ∧ Lives cfg d us vs x body) ∧
    ∀ outcomes, let (snapshot, d') := (run (step cfg) d calls).processTick cfg outcomes
      snapshot = none ↔ ¬ d'.SomeoneAlive := by
  refine ⟨run_trace .., fun us vs _ x => ?_, fun outcomes => ?_⟩
  · cases hb : (create cfg map players gen).body x with
    | none =>
      have := isSome_body_run (create cfg map players gen) us x
      rw [hb] at this
      exact Or.inl ⟨rfl, Option.isNone_iff_eq_none.mp (Option.isSome_eq_false_iff.mp this)⟩
    | some b => exact Or.inr ((unharmed_create cfg map players gen).lives hb us vs)
  · have hfst := processTick_fst cfg outcomes (run (step cfg) (create cfg map players gen) calls)
    dsimp only at hfst ⊢
    rw [hfst, ← isGameOver_iff]
    split_ifs with ho <;> simp [ho]

end Dungeon

end DungeonCrawler
