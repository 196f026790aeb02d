import DungeonCrawler.Domain.Position
import DungeonCrawler.Lib.UnorderedMap

/-!
Players and monsters, and the tables that hold them.

Players and monsters differ in the kind of their identifier and in the data they are
configured with; both are one definition with these as parameters.
-/

namespace DungeonCrawler

/-- Identifiers in the order of their numbers. -/
def byNumber {Tag : Type} : IterOrder (StrongId Tag) :=
  .sortedBy (fun id => id.value.toNat) fun ⟨_⟩ ⟨_⟩ h => congrArg StrongId.mk (UInt64.toNat.inj h)

/-- Positions in the order of their columns, and in a column of their rows. -/
def byColumn : IterOrder Position :=
  .sortedBy (fun p => p.x.toUInt64.toNat * 2 ^ 64 + p.y.toUInt64.toNat) fun p q h => by
    have := p.y.toUInt64.toNat_lt
    have := q.y.toUInt64.toNat_lt
    dsimp only at h
    have hx : p.x.toUInt64.toNat = q.x.toUInt64.toNat := by omega
    have hy : p.y.toUInt64.toNat = q.y.toUInt64.toNat := by omega
    exact Position.ext (congrArg Int64.ofUInt64 (UInt64.toNat.inj hx))
      (congrArg Int64.ofUInt64 (UInt64.toNat.inj hy))

abbrev HP := UInt32

/-- Damage beyond what is left takes what is left. -/
def Health.sub (hp_ hp : HP) : HP := if hp_ < hp then 0 else hp_ - hp

inductive EntityState
  | Alive | Dead
  deriving DecidableEq

def EntityState.toUint8 : EntityState → UInt8
  | .Alive => 0
  | .Dead => 1

structure EntityData where
  health : HP
  radius_attack : UInt32
  radius_view : UInt32
  deriving DecidableEq

def getCfgPlayerData (cfg : Gameplay) : EntityData :=
  ⟨cfg.player_default_hp, cfg.default_radius_attack, cfg.default_radius_view⟩

def getCfgMonsterData (cfg : Gameplay) : EntityData :=
  ⟨cfg.monster_default_hp, cfg.default_radius_attack, cfg.default_radius_view⟩

structure Entity (Id : Type) where
  id_ : Id
  position_ : Position
  data_ : EntityData
  state_ : EntityState
  deriving DecidableEq

namespace Entity

variable {Id : Type}

def isAlive (e : Entity Id) : Bool := e.state_ = .Alive

def setPosition (e : Entity Id) (position : Position) : Entity Id :=
  { e with position_ := position }

def damage (e : Entity Id) (damage : HP) : Entity Id :=
  let e := { e with data_ := { e.data_ with health := Health.sub e.data_.health damage } }
  if e.data_.health = 0 then { e with state_ := .Dead } else e

@[simp] lemma setPosition_position (e : Entity Id) (p : Position) :
    (e.setPosition p).position_ = p := rfl

@[simp] lemma damage_position (e : Entity Id) (hp : HP) :
    (e.damage hp).position_ = e.position_ := by
  unfold damage
  dsimp only
  split_ifs <;> rfl

lemma toNat_sub (hp_ hp : HP) : (Health.sub hp_ hp).toNat = hp_.toNat - hp.toNat := by
  unfold Health.sub
  split_ifs with hlt
  · have := UInt32.lt_iff_toNat_lt.mp hlt
    rw [UInt32.toNat_zero]
    omega
  · exact UInt32.toNat_sub_of_le _ _ (UInt32.not_lt.mp hlt)

lemma sub_eq_zero {hp_ hp : HP} : Health.sub hp_ hp = 0 ↔ hp_.toNat ≤ hp.toNat := by
  rw [← UInt32.toNat_inj, toNat_sub, UInt32.toNat_zero]
  omega

/-- Damage of what is left or more is deadly. -/
lemma not_isAlive_damage {e : Entity Id} {hp : HP} (h : e.data_.health ≤ hp) :
    (e.damage hp).isAlive = false := by
  simp [damage, sub_eq_zero.mpr (UInt32.le_iff_toNat_le.mp h), isAlive]

/-- An entity before and after it took damage. It has that much less health, or none, and then
it is dead; it is where it was. -/
structure Damaged (damage : HP) (e e' : Entity Id) : Prop where
  health : e'.data_.health.toNat = e.data_.health.toNat - damage.toNat
  state : e'.state_ = if e.data_.health.toNat ≤ damage.toNat then .Dead else e.state_
  position : e'.position_ = e.position_
  id : e'.id_ = e.id_
  radius_attack : e'.data_.radius_attack = e.data_.radius_attack
  radius_view : e'.data_.radius_view = e.data_.radius_view

lemma damaged_damage (damage : HP) (e : Entity Id) : e.Damaged damage (e.damage damage) := by
  have hzero : Health.sub e.data_.health damage = 0 ↔ e.data_.health.toNat ≤ damage.toNat :=
    sub_eq_zero
  unfold Entity.damage
  dsimp only
  split_ifs with h
  · exact ⟨toNat_sub _ _, (if_pos (hzero.mp h)).symm, rfl, rfl, rfl, rfl⟩
  · exact ⟨toNat_sub _ _, (if_neg (mt hzero.mpr h)).symm, rfl, rfl, rfl, rfl⟩

end Entity

structure EntityManager (Id : Type) where
  entities_ : Finmap fun _ : Id => Entity Id

namespace EntityManager

open Finmap

variable {Id : Type} [DecidableEq Id]

def empty : EntityManager Id := ⟨∅⟩

def getEntity (m : EntityManager Id) (id : Id) : Option (Entity Id) := m.entities_.lookup id

def addEntity (m : EntityManager Id) (data : EntityData) (id : Id) (pos : Position) :
    Bool × EntityManager Id :=
  if id ∈ m.entities_ then (false, m)
  else (true, ⟨m.entities_.insert id ⟨id, pos, data, .Alive⟩⟩)

def moveEntity (m : EntityManager Id) (id : Id) (_dir : Direction) (newPos : Position) :
    Bool × EntityManager Id :=
  match m.entities_.lookup id with
  | none => (false, m)
  | some e =>
    if !e.isAlive then (false, m)
    else (true, ⟨m.entities_.insert id (e.setPosition newPos)⟩)

/-- The entity of an identifier, changed through the pointer that `getEntity` returns. -/
def modifyEntity (m : EntityManager Id) (id : Id) (f : Entity Id → Entity Id) :
    EntityManager Id := ⟨m.entities_.modify id f⟩

def isOccupied (m : EntityManager Id) (pos : Position) : Bool :=
  ∃ id ∈ m.entities_.keys, (m.entities_.lookup id).any fun e => e.position_ = pos

/-- The search over the entities in the order of the table, from the best found so far. -/
def closestTargetLoop (fromPos : Position) (radius : UInt64) :
    List (Id × Entity Id) → UInt64 → Option Id → Option Id
  | [], _, closest => closest
  | (targetId, target) :: targets, minDist, closest =>
    if !target.isAlive then closestTargetLoop fromPos radius targets minDist closest
    else
      let dist := fromPos.manhattanDistance target.position_
      if dist ≤ radius ∧ dist < minDist then
        if dist = 0 then some targetId
        else closestTargetLoop fromPos radius targets dist (some targetId)
      else closestTargetLoop fromPos radius targets minDist closest

def findClosestTarget (ord : IterOrder Id) (fromPos : Position) (radius : UInt64)
    (targets : EntityManager Id) : Option Id :=
  closestTargetLoop fromPos radius (ord.entries targets.entities_) (radius + 1) none

/-! ### Where the entities stand -/

/-- The position of an entity, if there is one under the identifier. -/
def at_ (m : EntityManager Id) (id : Id) : Option Position :=
  (m.entities_.lookup id).map Entity.position_

variable {m : EntityManager Id} {id : Id} {pos : Position}

lemma isOccupied_iff : m.isOccupied pos ↔ ∃ id, m.at_ id = some pos := by
  simp only [isOccupied, decide_eq_true_eq, at_, Option.any_eq_true, Option.map_eq_some_iff]
  constructor
  · rintro ⟨id, -, e, he, hp⟩
    exact ⟨id, e, he, hp⟩
  · rintro ⟨id, e, he, hp⟩
    exact ⟨id, Finmap.mem_keys.mpr (mem_of_lookup_eq_some he), e, he, hp⟩

lemma at_empty : (empty : EntityManager Id).at_ = fun _ => none := by
  funext id
  simp [at_, empty]

/-- A new entity stands where it was added and the others stay. -/
lemma addEntity_at (data : EntityData) (h : id ∉ m.entities_) :
    (m.addEntity data id pos).2.at_ = Function.update m.at_ id (some pos) := by
  funext j
  simp only [addEntity, h, if_false, at_, lookup_insert_ite, Function.update_apply]
  split_ifs <;> rfl

/-- A move puts the entity on the new position or changes nothing. -/
lemma moveEntity_at (id : Id) (dir : Direction) :
    (m.moveEntity id dir pos).2.at_ = Function.update m.at_ id (some pos) ∨
      (m.moveEntity id dir pos).2 = m := by
  unfold moveEntity
  cases h : m.entities_.lookup id with
  | none => exact Or.inr rfl
  | some e =>
    dsimp only
    split_ifs with ha
    · exact Or.inr rfl
    · left
      funext j
      simp only [at_, lookup_insert_ite, Function.update_apply]
      split_ifs <;> simp

lemma modifyEntity_at {f : Entity Id → Entity Id} (hf : ∀ e, (f e).position_ = e.position_) :
    (m.modifyEntity id f).at_ = m.at_ := by
  funext j
  simp only [modifyEntity, at_, lookup_modify]
  split_ifs with h
  · rw [h, Option.map_map]
    congr 1
    funext e
    exact hf e
  · rfl

end EntityManager

end DungeonCrawler
