import DungeonCrawler.Common.Types
import DungeonCrawler.Lib.Fibers

/-!
Lobbies and their registry.

Membership is kept three times: in the lobby itself, in the table from players to lobbies
and in the sets of players by lobby. The size at which a lobby is full is a setting and an
argument, and so is the order in which tables are visited.
-/

namespace DungeonCrawler

structure LobbyPlayerInfo where
  is_ready : Bool
  deriving DecidableEq

structure Lobby where
  id_ : LobbyId
  players_ : Finmap fun _ : PlayerId => LobbyPlayerInfo
  leader_id_ : PlayerId

namespace Lobby

open Finmap

/-- A new lobby has a leader and no players. -/
def create (lid : LobbyId) (pid : PlayerId) : Lobby := ⟨lid, ∅, pid⟩

def containsPlayer (l : Lobby) (playerId : PlayerId) : Bool := playerId ∈ l.players_

def isFull (max : UInt16) (l : Lobby) : Bool := l.players_.size = max.toNat

def isEmpty (l : Lobby) : Bool := l.players_.size = 0

def getPlayerCount (l : Lobby) : ℕ := l.players_.size

def getAllPlayers (ord : IterOrder PlayerId) (l : Lobby) : List PlayerId :=
  ord.list l.players_.keys

def addPlayer (max : UInt16) (l : Lobby) (playerId : PlayerId) : Bool × Lobby :=
  if l.containsPlayer playerId then (false, l)
  else if l.isFull max then (false, l)
  else (true, { l with players_ := l.players_.emplace playerId ⟨false⟩ })

/-- The first player in the table leads. -/
def assignNewLeader (ord : IterOrder PlayerId) (l : Lobby) : Lobby :=
  if l.isEmpty then l
  else
    match ord.first l.players_.keys with
    | some first => { l with leader_id_ := first }
    | none => l

def removePlayer (ord : IterOrder PlayerId) (l : Lobby) (playerId : PlayerId) :
    Bool × Lobby :=
  if playerId ∉ l.players_ then (false, l)
  else
    let l := { l with players_ := l.players_.erase playerId }
    if l.leader_id_ = playerId && !l.isEmpty then (true, l.assignNewLeader ord)
    else (true, l)

def setReady (l : Lobby) (playerId : PlayerId) (is_ready : Bool) : Bool × Lobby :=
  if playerId ∉ l.players_ then (false, l)
  else (true, { l with
    players_ := l.players_.modify playerId fun info => { info with is_ready } })

variable {max : UInt16} {ord : IterOrder PlayerId} {l : Lobby} {p q : PlayerId}

lemma mem_getAllPlayers : q ∈ l.getAllPlayers ord ↔ q ∈ l.players_ := by
  rw [getAllPlayers, ord.mem_list, mem_keys]

lemma addPlayer_of_free (hp : p ∉ l.players_) (hf : l.players_.size ≠ max.toNat) :
    l.addPlayer max p = (true, { l with players_ := l.players_.insert p ⟨false⟩ }) := by
  simp [addPlayer, containsPlayer, isFull, hp, hf, emplace_of_notMem]

lemma addPlayer_of_full (hf : l.players_.size = max.toNat) :
    l.addPlayer max p = (false, l) := by
  unfold addPlayer
  split_ifs with h1 h2
  · rfl
  · rfl
  · simp [isFull, hf] at h2

/-- Removing a member takes it from the table, and what leads afterwards is a member if any
are left and the leader was one. -/
lemma removePlayer_of_mem (ord : IterOrder PlayerId) (hp : p ∈ l.players_) :
    ∃ leader, l.removePlayer ord p = (true, ⟨l.id_, l.players_.erase p, leader⟩) ∧
      (l.leader_id_ ∈ l.players_ → ∀ q, q ∈ l.players_.erase p →
        leader ∈ l.players_.erase p) := by
  unfold removePlayer
  rw [if_neg (by simpa using hp)]
  dsimp only
  split_ifs with h
  · unfold assignNewLeader
    simp only [Bool.and_eq_true, decide_eq_true_eq, Bool.not_eq_true'] at h
    rw [if_neg (by simp [h.2])]
    cases hf : ord.first (l.players_.erase p).keys with
    | some first => exact ⟨first, rfl, fun _ _ _ => Finmap.mem_keys.mp (ord.first_mem hf)⟩
    | none =>
      refine ⟨l.leader_id_, rfl, fun _ q hq => ?_⟩
      obtain ⟨k, hk⟩ := ord.first_isSome (Finmap.mem_keys.mpr hq)
      rw [hf] at hk
      cases hk
  · refine ⟨l.leader_id_, rfl, fun hl q hq => mem_erase.mpr ⟨?_, hl⟩⟩
    rintro rfl
    simp only [Bool.and_eq_true, decide_eq_true_eq, Bool.not_eq_true', true_and,
      Bool.not_eq_false] at h
    simp only [isEmpty, decide_eq_true_eq] at h
    exact size_eq_zero.mp h q hq

/-- A leader that is not removed goes on to lead. -/
lemma removePlayer_leader (l : Lobby) (ord : IterOrder PlayerId) (p : PlayerId)
    (hne : l.leader_id_ ≠ p) : (l.removePlayer ord p).2.leader_id_ = l.leader_id_ := by
  unfold removePlayer
  by_cases hp : p ∈ l.players_
  · simp [hp, hne]
  · rw [if_pos hp]

/-- Marking a player ready leaves the lobby its identifier, its leader and its players. -/
lemma setReady_spec (l : Lobby) (p : PlayerId) (b : Bool) :
    (l.setReady p b).2.id_ = l.id_ ∧ (l.setReady p b).2.leader_id_ = l.leader_id_ ∧
      (∀ q, q ∈ (l.setReady p b).2.players_ ↔ q ∈ l.players_) ∧
      (l.setReady p b).2.players_.size = l.players_.size := by
  unfold setReady
  split_ifs with hp
  · refine ⟨rfl, rfl, fun _ => mem_modify, ?_⟩
    rw [size, size]
    congr 1
    ext q
    rw [mem_keys, mem_keys, mem_modify]
  · exact ⟨rfl, rfl, fun _ => Iff.rfl, rfl⟩

end Lobby

end DungeonCrawler
