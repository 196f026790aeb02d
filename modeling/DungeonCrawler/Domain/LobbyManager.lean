import DungeonCrawler.Domain.LobbyRegistry
import DungeonCrawler.Server.Events

/-!
The handlers of lobby requests. A handler returns the events it publishes and the registry
after it.
-/

namespace DungeonCrawler

namespace LobbyManager

open Finmap LobbyRegistry

inductive LobbyLookupResult
  | Success (lobby_id : LobbyId) (lobby : Lobby)
  | PlayerNotInLobby
  | StaleMapping

/-- The lobby of a player; the mapping to a lobby that is not there is removed. -/
def getLobbyForPlayer (ord : IterOrder PlayerId) (r : LobbyRegistry) (player_id : PlayerId) :
    LobbyLookupResult × LobbyRegistry :=
  match r.getPlayerLobby player_id with
  | none => (.PlayerNotInLobby, r)
  | some lobby_id =>
    match r.findLobby lobby_id with
    | none => (.StaleMapping, (r.removePlayerFromLobby ord player_id).2)
    | some lobby => (.Success lobby_id lobby, r)

def onCreateLobbyRequest (max : UInt16) (ord : IterOrder PlayerId) (r : LobbyRegistry)
    (player_id : PlayerId) : List Event × LobbyRegistry :=
  if r.isPlayerInLobby player_id then ([.lobbyCreationFailedResponse player_id], r)
  else
    let (newId, r) := r.generateNextLobbyId
    let lobby := Lobby.create newId player_id
    match r.addLobby lobby with
    | (false, r) => ([.lobbyCreationFailedResponse player_id], r)
    | (true, r) =>
      match r.addPlayerToLobby max ord player_id newId with
      | (false, r) =>
        ([.lobbyCreationFailedResponse player_id], (r.removeLobby ord newId).2)
      | (true, r) => ([.lobbyCreatedResponse player_id newId], r)

def onJoinLobbyRequest (max : UInt16) (ord : IterOrder PlayerId) (r : LobbyRegistry)
    (player_id : PlayerId) (lobby_id : LobbyId) : List Event × LobbyRegistry :=
  match r.findLobby lobby_id with
  | none => ([.joinLobbyNotExistsResponse player_id], r)
  | some lobby =>
    if lobby.isFull max then ([.joinLobbyFullResponse player_id], r)
    else
      match r.addPlayerToLobby max ord player_id lobby_id with
      | (true, r) => ([.joinLobbyResponse player_id], r)
      | (false, r) => ([.joinLobbyFailedResponse player_id], r)

def onLeaveLobbyRequest (ord : IterOrder PlayerId) (r : LobbyRegistry)
    (player_id : PlayerId) : List Event × LobbyRegistry :=
  match getLobbyForPlayer ord r player_id with
  | (.PlayerNotInLobby, r) => ([.leaveLobbyNotConsistsInLobbyResponse player_id], r)
  | (.StaleMapping, r) => ([.leaveLobbyFailedResponse player_id], r)
  | (.Success _ _, r) =>
    match r.removePlayerFromLobby ord player_id with
    | (true, r) => ([.leaveLobbyResponse player_id], r)
    | (false, r) => ([.leaveLobbyFailedResponse player_id], r)

def onPlayerReadyRequest (ord : IterOrder PlayerId) (r : LobbyRegistry)
    (player_id : PlayerId) (is_ready : Bool) : List Event × LobbyRegistry :=
  match getLobbyForPlayer ord r player_id with
  | (.PlayerNotInLobby, r) | (.StaleMapping, r) =>
    ([.playerReadyFailedResponse player_id], r)
  | (.Success lobby_id lobby, r) =>
    match lobby.setReady player_id is_ready with
    | (true, lobby) =>
      ([.playerReadyResponse player_id],
        { r with lobbies_ := r.lobbies_.insert lobby_id lobby })
    | (false, _) => ([.playerReadyFailedResponse player_id], r)

def onListLobbiesRequest (ord : IterOrder LobbyId) (r : LobbyRegistry)
    (player_id : PlayerId) : List Event × LobbyRegistry :=
  let lobbies_ids := (r.getAllLobbies ord).map Lobby.id_
  ([.listLobbiesResponse player_id lobbies_ids], r)

/-! ### What the handlers publish -/

/-- The player who is told by an event what has become of a lobby request. -/
def lobbyAnswer : Event → Option PlayerId
  | .lobbyCreatedResponse p _ | .lobbyCreationFailedResponse p | .listLobbiesResponse p _
  | .joinLobbyResponse p | .joinLobbyFailedResponse p | .joinLobbyNotExistsResponse p
  | .joinLobbyFullResponse p | .leaveLobbyResponse p | .leaveLobbyFailedResponse p
  | .leaveLobbyNotConsistsInLobbyResponse p | .playerReadyResponse p
  | .playerReadyFailedResponse p => some p
  | _ => none

lemma answer_onCreateLobbyRequest (max : UInt16) (ord : IterOrder PlayerId) (r : LobbyRegistry)
    (p : PlayerId) : ∀ e ∈ (onCreateLobbyRequest max ord r p).1, lobbyAnswer e = some p := by
  unfold onCreateLobbyRequest
  dsimp only
  split_ifs
  · simp [lobbyAnswer]
  · split
    · simp [lobbyAnswer]
    · split <;> simp [lobbyAnswer]

lemma answer_onJoinLobbyRequest (max : UInt16) (ord : IterOrder PlayerId) (r : LobbyRegistry)
    (p : PlayerId) (l : LobbyId) :
    ∀ e ∈ (onJoinLobbyRequest max ord r p l).1, lobbyAnswer e = some p := by
  unfold onJoinLobbyRequest
  split
  · simp [lobbyAnswer]
  · split_ifs
    · simp [lobbyAnswer]
    · split <;> simp [lobbyAnswer]

lemma answer_onLeaveLobbyRequest (ord : IterOrder PlayerId) (r : LobbyRegistry) (p : PlayerId) :
    ∀ e ∈ (onLeaveLobbyRequest ord r p).1, lobbyAnswer e = some p := by
  unfold onLeaveLobbyRequest
  split
  · simp [lobbyAnswer]
  · simp [lobbyAnswer]
  · split <;> simp [lobbyAnswer]

lemma answer_onPlayerReadyRequest (ord : IterOrder PlayerId) (r : LobbyRegistry) (p : PlayerId)
    (is_ready : Bool) :
    ∀ e ∈ (onPlayerReadyRequest ord r p is_ready).1, lobbyAnswer e = some p := by
  unfold onPlayerReadyRequest
  split
  · simp [lobbyAnswer]
  · simp [lobbyAnswer]
  · split <;> simp [lobbyAnswer]

/-! ### What the handlers do to a sound registry -/

variable {max : UInt16} {ord : IterOrder PlayerId} {r : LobbyRegistry} {p : PlayerId}
variable {l : LobbyId}

/-- The registry whose counter was advanced. -/
def advanced (r : LobbyRegistry) : LobbyRegistry :=
  { r with next_id_ := ⟨r.next_id_.value + 1⟩ }

/-- The registry with a new lobby that nobody has joined yet. -/
def founded (r : LobbyRegistry) (p : PlayerId) : LobbyRegistry :=
  { advanced r with lobbies_ := r.lobbies_.insert r.next_id_ ⟨r.next_id_, ∅, p⟩ }

/-- The registry with a new lobby of one player. -/
def opened (r : LobbyRegistry) (p : PlayerId) : LobbyRegistry where
  lobbies_ := r.lobbies_.insert r.next_id_ ⟨r.next_id_, (∅ : Finmap _).insert p ⟨false⟩, p⟩
  player_to_lobby_ := r.player_to_lobby_.insert p r.next_id_
  lobby_players_ := r.lobby_players_.insert r.next_id_ {p}
  next_id_ := ⟨r.next_id_.value + 1⟩

lemma onCreateLobbyRequest_of_free (hp : p ∉ r.player_to_lobby_)
    (hid : r.next_id_ ∉ r.lobbies_) :
    onCreateLobbyRequest max ord r p =
      match (founded r p).addPlayerToLobby max ord p r.next_id_ with
      | (false, r') =>
        ([.lobbyCreationFailedResponse p], (r'.removeLobby ord r.next_id_).2)
      | (true, r') => ([.lobbyCreatedResponse p r.next_id_], r') := by
  simp [onCreateLobbyRequest, isPlayerInLobby, hp, generateNextLobbyId, addLobby,
    Lobby.create, hid, founded, advanced]

/-- A creation is refused, or fails after a number was handed out, or opens a lobby. -/
lemma onCreateLobbyRequest_cases (h : r.Sound max) (ord : IterOrder PlayerId)
    (p : PlayerId) :
    (p ∈ r.player_to_lobby_ ∧
      onCreateLobbyRequest max ord r p = ([.lobbyCreationFailedResponse p], r)) ∨
    (p ∉ r.player_to_lobby_ ∧ (r.next_id_ ∈ r.lobbies_ ∨ max.toNat = 0) ∧
      onCreateLobbyRequest max ord r p = ([.lobbyCreationFailedResponse p], advanced r)) ∨
    (p ∉ r.player_to_lobby_ ∧ r.next_id_ ∉ r.lobbies_ ∧ max.toNat ≠ 0 ∧
      onCreateLobbyRequest max ord r p =
        ([.lobbyCreatedResponse p r.next_id_], opened r p)) := by
  by_cases hp : p ∈ r.player_to_lobby_
  · exact Or.inl ⟨hp, by simp [onCreateLobbyRequest, isPlayerInLobby, hp]⟩
  refine Or.inr ?_
  by_cases hid : r.next_id_ ∈ r.lobbies_
  · refine Or.inl ⟨hp, Or.inl hid, ?_⟩
    simp [onCreateLobbyRequest, isPlayerInLobby, hp, generateNextLobbyId, addLobby,
      Lobby.create, hid, advanced]
  have hset : r.lobby_players_.lookup r.next_id_ = none :=
    lookup_eq_none.mpr ((h.same_keys _).not.mp hid)
  by_cases hm : max.toNat = 0
  · -- a lobby without places is taken down again
    refine Or.inl ⟨hp, Or.inr hm, ?_⟩
    have hfull : (founded r p).addPlayerToLobby max ord p r.next_id_ = (false, founded r p) :=
      addPlayerToLobby_of_full (lookup_insert _) (by rw [hm]; rfl)
    have hremove : ((founded r p).removeLobby ord r.next_id_).2 = advanced r := by
      simp [founded, removeLobby, advanced, hset, erase_insert_of_notMem hid]
    rw [onCreateLobbyRequest_of_free hp hid, hfull]
    simp only [hremove]
  · refine Or.inr ⟨hp, hid, hm, ?_⟩
    have hfree : (founded r p).addPlayerToLobby max ord p r.next_id_ =
        (true, (founded r p).joined p r.next_id_ ⟨r.next_id_, ∅, p⟩) :=
      addPlayerToLobby_of_free hp (lookup_insert _) notMem_empty
        (by simp [founded, advanced, hset]) (by simpa [size, eq_comm] using hm)
    have hjoined : (founded r p).joined p r.next_id_ ⟨r.next_id_, ∅, p⟩ = opened r p := by
      simp [founded, advanced, joined, opened, hset, insert_insert]
    rw [onCreateLobbyRequest_of_free hp hid, hfree, hjoined]

lemma sound_advanced (h : r.Sound max) : (advanced r).Sound max :=
  ⟨h.in_lobby, h.in_set, h.same_keys, h.own_id, h.has_player, h.at_most_max, h.leader_inside⟩

lemma sound_opened (h : r.Sound max) (hp : p ∉ r.player_to_lobby_)
    (hid : r.next_id_ ∉ r.lobbies_) (hm : max.toNat ≠ 0) : (opened r p).Sound max := by
  have hset : r.lobby_players_.lookup r.next_id_ = none :=
    lookup_eq_none.mpr ((h.same_keys _).not.mp hid)
  refine Sound.of_good (h.lobbyFibers.join hp fun q => ?_) (h.setFibers.join hp fun q => ?_)
    (fun l' => ?_) fun l' y hy => ?_
  · simp [Lobby.containsPlayer, lookup_eq_none.mpr hid, mem_insert, notMem_empty]
  · simp [hset]
  · simp [opened, mem_insert, h.same_keys l']
  · rw [findLobby, opened, lookup_insert_ite] at hy
    split_ifs at hy with hl'
    · obtain rfl := Option.some.inj hy
      have hcount : ((∅ : Finmap fun _ : PlayerId => LobbyPlayerInfo).insert p ⟨false⟩).size = 1 :=
        size_insert_of_notMem notMem_empty _
      refine ⟨hl'.symm, ?_, ?_, by simp [Lobby.containsPlayer, mem_insert]⟩
      · rw [Lobby.getPlayerCount, hcount]
      · rw [Lobby.getPlayerCount, hcount]
        omega
    · exact h.good hy

/-- A request to join is answered by whether there is the lobby, has a place and the player
is in no lobby. -/
lemma onJoinLobbyRequest_cases (h : r.Sound max) (ord : IterOrder PlayerId) (p : PlayerId)
    (l : LobbyId) :
    (r.findLobby l = none ∧
      onJoinLobbyRequest max ord r p l = ([.joinLobbyNotExistsResponse p], r)) ∨
    ∃ lobby, r.findLobby l = some lobby ∧
      ((lobby.isFull max ∧ onJoinLobbyRequest max ord r p l = ([.joinLobbyFullResponse p], r)) ∨
      (lobby.isFull max = false ∧ p ∈ r.player_to_lobby_ ∧
        onJoinLobbyRequest max ord r p l = ([.joinLobbyFailedResponse p], r)) ∨
      (lobby.isFull max = false ∧ p ∉ r.player_to_lobby_ ∧
        onJoinLobbyRequest max ord r p l = ([.joinLobbyResponse p], r.joined p l lobby))) := by
  cases hl : r.findLobby l with
  | none => exact Or.inl ⟨rfl, by simp only [onJoinLobbyRequest, hl]⟩
  | some lobby =>
    refine Or.inr ⟨lobby, rfl, ?_⟩
    cases hf : lobby.isFull max with
    | true => exact Or.inl ⟨rfl, by simp only [onJoinLobbyRequest, hl, hf, if_true]⟩
    | false =>
      refine Or.inr ?_
      by_cases hp : p ∈ r.player_to_lobby_
      · refine Or.inl ⟨rfl, hp, ?_⟩
        simp [onJoinLobbyRequest, hl, hf, addPlayerToLobby_of_taken hp]
      · refine Or.inr ⟨rfl, hp, ?_⟩
        have hsize : lobby.players_.size ≠ max.toNat := by simpa [Lobby.isFull] using hf
        simp [onJoinLobbyRequest, hl, hf, h.filed.addPlayerToLobby_of_free ord hp hl hsize]

lemma keeps_onJoinLobbyRequest (h : r.Sound max) :
    Keeps max r (onJoinLobbyRequest max ord r p l).2 := by
  rcases onJoinLobbyRequest_cases h ord p l with
    ⟨-, he⟩ | ⟨lobby, hl, ⟨-, he⟩ | ⟨-, -, he⟩ | ⟨hf, hp, he⟩⟩ <;> rw [he]
  · exact h.keeps_self
  · exact h.keeps_self
  · exact h.keeps_self
  · exact h.keeps_joined hp hl (by simpa [Lobby.isFull] using hf)

/-- In a sound registry no mapping is stale. -/
lemma getLobbyForPlayer_cases (h : r.Sound max) (ord : IterOrder PlayerId) (p : PlayerId) :
    (p ∉ r.player_to_lobby_ ∧ getLobbyForPlayer ord r p = (.PlayerNotInLobby, r)) ∨
      ∃ l lobby, r.player_to_lobby_.lookup p = some l ∧ r.lobbies_.lookup l = some lobby ∧
        p ∈ lobby.players_ ∧ getLobbyForPlayer ord r p = (.Success l lobby, r) := by
  cases hp : r.player_to_lobby_.lookup p with
  | none =>
    left
    exact ⟨lookup_eq_none.mp hp, by simp [getLobbyForPlayer, getPlayerLobby, hp]⟩
  | some l =>
    right
    obtain ⟨lobby, -, hl, hm, -⟩ := h.filed.lobby_of_member hp
    exact ⟨l, lobby, rfl, hl, hm, by simp [getLobbyForPlayer, getPlayerLobby, findLobby, hp, hl]⟩

/-- A request to leave is answered by whether the player is in a lobby. -/
lemma onLeaveLobbyRequest_cases (h : r.Sound max) (ord : IterOrder PlayerId) (p : PlayerId) :
    (p ∉ r.player_to_lobby_ ∧ onLeaveLobbyRequest ord r p =
      ([.leaveLobbyNotConsistsInLobbyResponse p], r)) ∨
    ∃ l, r.player_to_lobby_.lookup p = some l ∧ onLeaveLobbyRequest ord r p =
      ([.leaveLobbyResponse p], (r.removePlayerFromLobby ord p).2) := by
  rcases getLobbyForPlayer_cases h ord p with ⟨hp, he⟩ | ⟨l, lobby, hp, -, -, he⟩
  · exact Or.inl ⟨hp, by simp only [onLeaveLobbyRequest, he]⟩
  · refine Or.inr ⟨l, hp, ?_⟩
    have hok := (h.emptied_one ord hp).1
    simp only [onLeaveLobbyRequest, he]
    split <;> rename_i hr
    · rw [hr]
    · rw [hr] at hok
      cases hok

lemma keeps_onLeaveLobbyRequest (h : r.Sound max) :
    Keeps max r (onLeaveLobbyRequest ord r p).2 := by
  rcases onLeaveLobbyRequest_cases h ord p with ⟨-, he⟩ | ⟨l, -, he⟩ <;> rw [he]
  · exact h.keeps_self
  · exact h.keeps_removePlayerFromLobby ord p

lemma keeps_onPlayerReadyRequest {b : Bool} (h : r.Sound max) :
    Keeps max r (onPlayerReadyRequest ord r p b).2 := by
  unfold onPlayerReadyRequest
  rcases getLobbyForPlayer_cases h ord p with ⟨-, he⟩ | ⟨l, lobby, -, hl, -, he⟩ <;>
    simp only [he]
  · exact h.keeps_self
  · have hs := h.keeps_setReady hl p b
    split <;> rename_i hr
    · rwa [hr] at hs
    · exact h.keeps_self

end LobbyManager

end DungeonCrawler
