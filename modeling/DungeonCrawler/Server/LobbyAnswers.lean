import DungeonCrawler.Server.Games

/-!
What a player is answered to a request about lobbies, and what the request does to the tables.

An answer is the events published and the registry after them. Each request has one way to
succeed, which changes one lobby and one player, and otherwise leaves the tables alone. A
creation that was refused by the registry has used up a number, so only the tables are the same
then.
-/

namespace DungeonCrawler

namespace LobbyRegistry

open Finmap

/-- The tables of two registries are the same; the counter may differ. -/
structure SameTables (r r' : LobbyRegistry) : Prop where
  lobbies : r'.lobbies_ = r.lobbies_
  players : r'.player_to_lobby_ = r.player_to_lobby_
  sets : r'.lobby_players_ = r.lobby_players_

/-- All but one lobby and one player is as before. -/
structure Elsewhere (p : PlayerId) (l : LobbyId) (r r' : LobbyRegistry) : Prop where
  lobbies : ∀ l', l' ≠ l → r'.findLobby l' = r.findLobby l'
  sets : ∀ l', l' ≠ l → r'.lobby_players_.lookup l' = r.lobby_players_.lookup l'
  players : ∀ q, q ≠ p → r'.getPlayerLobby q = r.getPlayerLobby q

/-- The new lobby `l` has the player `p` as its only player and its leader. -/
structure Created (p : PlayerId) (l : LobbyId) (r r' : LobbyRegistry) : Prop
    extends Elsewhere p l r r' where
  fresh : r.findLobby l = none
  number : l = r.next_id_ ∧ r'.next_id_ = ⟨l.value + 1⟩
  inside : r'.getPlayerLobby p = some l
  lobby : ∃ lobby, r'.findLobby l = some lobby ∧ lobby.id_ = l ∧ lobby.leader_id_ = p ∧
    ∀ q, lobby.containsPlayer q ↔ q = p
  set : r'.lobby_players_.lookup l = some {p}

/-- The player `p` is one more player of the lobby `l`. -/
structure Joined (p : PlayerId) (l : LobbyId) (lobby : Lobby) (r r' : LobbyRegistry) : Prop
    extends Elsewhere p l r r' where
  outside : lobby.containsPlayer p = false
  number : r'.next_id_ = r.next_id_
  inside : r'.getPlayerLobby p = some l
  lobby : r'.findLobby l =
    some { lobby with players_ := lobby.players_.insert p ⟨false⟩ }
  set : ∃ players, r.lobby_players_.lookup l = some players ∧
    r'.lobby_players_.lookup l = some (insert p players)

/-- The player `p` is out of the lobby `l`. The lobby is gone if nobody is left in it;
otherwise it is led by one of its players, and by the same one unless that was `p`. -/
structure Left (p : PlayerId) (l : LobbyId) (lobby : Lobby) (r r' : LobbyRegistry) : Prop
    extends Elsewhere p l r r' where
  number : r'.next_id_ = r.next_id_
  outside : r'.getPlayerLobby p = none
  alone : (∀ q, lobby.containsPlayer q → q = p) →
    r'.findLobby l = none ∧ r'.lobby_players_.lookup l = none
  others : ∀ q, lobby.containsPlayer q → q ≠ p → ∃ leader players,
    r'.findLobby l = some ⟨lobby.id_, lobby.players_.erase p, leader⟩ ∧
    leader ∈ lobby.players_.erase p ∧ (lobby.leader_id_ ≠ p → leader = lobby.leader_id_) ∧
    r.lobby_players_.lookup l = some players ∧
    r'.lobby_players_.lookup l = some (players.erase p)

end LobbyRegistry

namespace LobbyManager

open Finmap LobbyRegistry

/-- The answer to a request to create a lobby, if one is to be created just when `creatable`
holds. -/
def CreateAnswered (creatable : Prop) (p : PlayerId) (r : LobbyRegistry)
    (answer : List Event × LobbyRegistry) : Prop :=
  (creatable ∧ ∃ l, answer.1 = [.lobbyCreatedResponse p l] ∧ Created p l r answer.2) ∨
    (¬ creatable ∧ answer.1 = [.lobbyCreationFailedResponse p] ∧ SameTables r answer.2)

/-- The player is in no lobby, and there is the lobby and it is not full. -/
def Joinable (max : UInt16) (r : LobbyRegistry) (p : PlayerId) (l : LobbyId)
    (lobby : Lobby) : Prop :=
  r.getPlayerLobby p = none ∧ r.findLobby l = some lobby ∧ lobby.getPlayerCount < max.toNat

def JoinAnswered (max : UInt16) (p : PlayerId) (l : LobbyId) (r : LobbyRegistry)
    (answer : List Event × LobbyRegistry) : Prop :=
  (∃ lobby, Joinable max r p l lobby ∧ answer.1 = [.joinLobbyResponse p] ∧
      Joined p l lobby r answer.2) ∨
    ((∀ lobby, ¬ Joinable max r p l lobby) ∧ (answer.1 = [.joinLobbyNotExistsResponse p] ∨
      answer.1 = [.joinLobbyFullResponse p] ∨ answer.1 = [.joinLobbyFailedResponse p]) ∧
      answer.2 = r)

def LeaveAnswered (p : PlayerId) (r : LobbyRegistry) (answer : List Event × LobbyRegistry) :
    Prop :=
  (∃ l lobby, r.getPlayerLobby p = some l ∧ r.findLobby l = some lobby ∧
      answer.1 = [.leaveLobbyResponse p] ∧ Left p l lobby r answer.2) ∨
    (r.getPlayerLobby p = none ∧ (answer.1 = [.leaveLobbyNotConsistsInLobbyResponse p] ∨
      answer.1 = [.leaveLobbyFailedResponse p]) ∧ answer.2 = r)

/-- The list has the identifier of every lobby once. -/
def ListAnswered (p : PlayerId) (r : LobbyRegistry) (answer : List Event × LobbyRegistry) :
    Prop :=
  ∃ ids, answer = ([.listLobbiesResponse p ids], r) ∧ ids.Nodup ∧
    ∀ l, l ∈ ids ↔ (r.findLobby l).isSome

/-- All requests that a player can make about lobbies are answered as they should be. -/
structure Answered (max : UInt16) (creatable : Prop) (ord : IterOrder PlayerId)
    (lobbyOrd : IterOrder LobbyId) (r : LobbyRegistry) (p : PlayerId) (l : LobbyId) :
    Prop where
  create : CreateAnswered creatable p r (onCreateLobbyRequest max ord r p)
  join : JoinAnswered max p l r (onJoinLobbyRequest max ord r p l)
  leave : LeaveAnswered p r (onLeaveLobbyRequest ord r p)
  list : ListAnswered p r (onListLobbiesRequest lobbyOrd r p)

variable {max : UInt16} {ord : IterOrder PlayerId} {r : LobbyRegistry} {p : PlayerId}
variable {l : LobbyId} {lobby : Lobby}

lemma created_opened (hid : r.next_id_ ∉ r.lobbies_) :
    Created p r.next_id_ r (opened r p) where
  lobbies _ hl := lookup_insert_of_ne _ hl
  sets _ hl := lookup_insert_of_ne _ hl
  players _ hq := lookup_insert_of_ne _ hq
  fresh := lookup_eq_none.mpr hid
  number := ⟨rfl, rfl⟩
  inside := lookup_insert _
  lobby := ⟨_, lookup_insert _, rfl, rfl, fun q => by
    simp [Lobby.containsPlayer, mem_insert, notMem_empty]⟩
  set := lookup_insert _

/-- A lobby is created unless the player is in one, there is no place in a lobby, or the number
handed out is taken. -/
lemma onCreateLobbyRequest_answered (h : r.Sound max) (ord : IterOrder PlayerId)
    (p : PlayerId) :
    CreateAnswered (r.getPlayerLobby p = none ∧ 0 < max ∧ r.findLobby r.next_id_ = none) p r
      (onCreateLobbyRequest max ord r p) := by
  have places : 0 < max ↔ max.toNat ≠ 0 := by
    rw [UInt16.lt_iff_toNat_lt, UInt16.toNat_zero, Nat.pos_iff_ne_zero]
  rcases onCreateLobbyRequest_cases h ord p with
    ⟨hp, he⟩ | ⟨hp, hid, he⟩ | ⟨hp, hid, hm, he⟩ <;> rw [he]
  · exact Or.inr ⟨fun hc => lookup_eq_none.mp hc.1 hp, rfl, rfl, rfl, rfl⟩
  · -- the number that was handed out is lost
    refine Or.inr ⟨fun hc => ?_, rfl, rfl, rfl, rfl⟩
    rcases hid with hid | hm
    · exact lookup_eq_none.mp hc.2.2 hid
    · exact places.mp hc.2.1 hm
  · exact Or.inl ⟨⟨lookup_eq_none.mpr hp, places.mpr hm, lookup_eq_none.mpr hid⟩, _, rfl,
      created_opened hid⟩

lemma joined_joined (h : r.Sound max) (hp : p ∉ r.player_to_lobby_)
    (hl : r.findLobby l = some lobby) : Joined p l lobby r (r.joined p l lobby) := by
  have outside : p ∉ lobby.players_ := by
    rw [h.filed.mem_iff hl, lookup_eq_none.mpr hp]
    exact (nomatch ·)
  obtain ⟨players, hs⟩ := mem_iff.mp ((h.same_keys l).mp (mem_of_lookup_eq_some hl))
  refine ⟨⟨fun _ hl' => lookup_insert_of_ne _ hl', fun _ hl' => lookup_insert_of_ne _ hl',
    fun _ hq => lookup_insert_of_ne _ hq⟩, ?_, rfl, lookup_insert _, lookup_insert _, players,
    hs, ?_⟩
  · simpa [Lobby.containsPlayer] using outside
  · rw [LobbyRegistry.joined, lookup_insert, hs, Option.getD_some]

lemma not_isFull_iff (h : r.Sound max) (hl : r.findLobby l = some lobby) :
    lobby.isFull max = false ↔ lobby.getPlayerCount < max.toNat := by
  have := h.at_most_max l lobby hl
  rw [Lobby.isFull, decide_eq_false_iff_not, ← Lobby.getPlayerCount]
  omega

/-- A player is joined to a lobby that there is and that is not full, unless in one already. -/
lemma onJoinLobbyRequest_answered (h : r.Sound max) (ord : IterOrder PlayerId) (p : PlayerId)
    (l : LobbyId) : JoinAnswered max p l r (onJoinLobbyRequest max ord r p l) := by
  rcases onJoinLobbyRequest_cases h ord p l with
    ⟨hl, he⟩ | ⟨lobby, hl, ⟨hf, he⟩ | ⟨-, hp, he⟩ | ⟨hf, hp, he⟩⟩ <;> rw [he]
  · refine Or.inr ⟨?_, Or.inl rfl, rfl⟩
    rintro lobby ⟨-, hj, -⟩
    rw [hl] at hj
    cases hj
  · refine Or.inr ⟨?_, Or.inr (Or.inl rfl), rfl⟩
    rintro lobby' ⟨-, hj, hlt⟩
    obtain rfl : lobby = lobby' := Option.some.inj (hl.symm.trans hj)
    rw [← not_isFull_iff h hl, hf] at hlt
    cases hlt
  · exact Or.inr ⟨fun _ hj => lookup_eq_none.mp hj.1 hp, Or.inr (Or.inr rfl), rfl⟩
  · exact Or.inl ⟨lobby, ⟨lookup_eq_none.mpr hp, hl, (not_isFull_iff h hl).mp hf⟩, rfl,
      joined_joined h hp hl⟩

/-- A member that leaves takes nobody along, and the lobby only if nobody stays. -/
lemma left_removePlayerFromLobby (h : r.Sound max) (ord : IterOrder PlayerId)
    (hp : r.getPlayerLobby p = some l) (hl : r.findLobby l = some lobby) :
    Left p l lobby r (r.removePlayerFromLobby ord p).2 := by
  have hm : p ∈ lobby.players_ := (h.filed.mem_iff hl).mpr hp
  obtain ⟨players, hs⟩ := mem_iff.mp ((h.same_keys l).mp (mem_of_lookup_eq_some hl))
  obtain ⟨leader, hr, hinside⟩ := lobby.removePlayer_of_mem ord hm
  have hsame := lobby.removePlayer_leader ord p
  rw [hr] at hsame
  have elsewhere : Elsewhere p l r (r.removePlayerFromLobby ord p).2 := by
    obtain ⟨-, emptied⟩ := h.emptied_one ord hp
    refine ⟨emptied.lobbies, emptied.sets, fun q hq => ?_⟩
    rw [getPlayerLobby, emptied.players, if_neg (by simpa using hq)]
    rfl
  rw [removePlayerFromLobby_of_member hp hl hs hr] at elsewhere ⊢
  have hempty : Lobby.isEmpty ⟨lobby.id_, lobby.players_.erase p, leader⟩ ↔
      ∀ q, lobby.containsPlayer q → q = p := by
    rw [Lobby.isEmpty, decide_eq_true_iff, size_eq_zero]
    simp only [Lobby.containsPlayer, mem_erase, decide_eq_true_eq, not_and]
    exact forall_congr' fun q => not_imp_not
  by_cases he : Lobby.isEmpty ⟨lobby.id_, lobby.players_.erase p, leader⟩
  · rw [if_pos he] at elsewhere ⊢
    refine ⟨elsewhere, rfl, lookup_erase _ _, fun _ => ⟨lookup_erase _ _, lookup_erase _ _⟩,
      fun q hq hqp => ?_⟩
    exact absurd (hempty.mp he q hq) hqp
  · rw [if_neg he] at elsewhere ⊢
    refine ⟨elsewhere, rfl, lookup_erase _ _, fun ha => absurd (hempty.mpr ha) he,
      fun q hq hqp => ⟨leader, players, lookup_insert _, ?_, hsame, hs, lookup_insert _⟩⟩
    have hleader : lobby.leader_id_ ∈ lobby.players_ := by
      simpa [Lobby.containsPlayer] using h.leader_inside l lobby hl
    refine hinside hleader q (mem_erase.mpr ⟨hqp, ?_⟩)
    simpa [Lobby.containsPlayer] using hq

/-- A player in a lobby is let out of it. -/
lemma onLeaveLobbyRequest_answered (h : r.Sound max) (ord : IterOrder PlayerId)
    (p : PlayerId) : LeaveAnswered p r (onLeaveLobbyRequest ord r p) := by
  rcases onLeaveLobbyRequest_cases h ord p with ⟨hp, he⟩ | ⟨l, hp, he⟩ <;> rw [he]
  · exact Or.inr ⟨lookup_eq_none.mpr hp, Or.inl rfl, rfl⟩
  · obtain ⟨lobby, -, hl, -, -⟩ := h.filed.lobby_of_member hp
    exact Or.inl ⟨l, lobby, hp, hl, rfl, left_removePlayerFromLobby h ord hp hl⟩

/-- A lobby is stored under its own identifier, so the list has the keys of the table. -/
lemma map_id_getAllLobbies (h : r.Sound max) (ord : IterOrder LobbyId) :
    (r.getAllLobbies ord).map Lobby.id_ = ord.list r.lobbies_.keys := by
  rw [getAllLobbies, List.map_map, ← ord.map_fst_entries]
  refine List.map_congr_left ?_
  rintro ⟨l, lobby⟩ hl
  exact h.own_id l lobby (ord.mem_entries.mp hl)

lemma onListLobbiesRequest_answered (h : r.Sound max) (ord : IterOrder LobbyId)
    (p : PlayerId) : ListAnswered p r (onListLobbiesRequest ord r p) := by
  refine ⟨ord.list r.lobbies_.keys, ?_, ord.nodup_list _, fun l => ?_⟩
  · rw [onListLobbiesRequest, map_id_getAllLobbies h]
  · rw [ord.mem_list, mem_keys, findLobby, lookup_isSome]

lemma answered_of_sound (h : r.Sound max) (ord : IterOrder PlayerId)
    (lobbyOrd : IterOrder LobbyId) (p : PlayerId) (l : LobbyId) :
    Answered max (r.getPlayerLobby p = none ∧ 0 < max ∧ r.findLobby r.next_id_ = none) ord
      lobbyOrd r p l :=
  ⟨onCreateLobbyRequest_answered h ord p, onJoinLobbyRequest_answered h ord p l,
    onLeaveLobbyRequest_answered h ord p, onListLobbiesRequest_answered h lobbyOrd p⟩

end LobbyManager

namespace Games

open Finmap Runs LobbyRegistry LobbyManager

/-- **Requests about lobbies are answered.** In every state of every run a request of a player
is answered by one event, addressed to the player. A lobby is created for a player in no lobby
if a lobby has places and the number handed out is free, a player in no lobby joins a lobby
that there is and that is not full, and a player in a lobby leaves it; each changes that lobby
and that player only. Any other answer leaves the tables as they were, and the list has every
lobby once. -/
theorem lobby_requests_answered (cfg : Gameplay) (inputs : List Input)
    (ord : IterOrder PlayerId) (lobbyOrd : IterOrder LobbyId) (p : PlayerId) (l : LobbyId) :
    let r := (run (step cfg) Lobbies.init inputs).lobby_registry_
    Answered cfg.lobby_max_players (r.getPlayerLobby p = none ∧ 0 < cfg.lobby_max_players ∧
      r.findLobby r.next_id_ = none) ord lobbyOrd r p l :=
  answered_of_sound (sound_run cfg inputs).lobbies ord lobbyOrd p l

/-! ### A number that is still taken -/

/-- The first lobby is there, and the first player is in none. -/
structure FirstTaken (next : UInt64) (r : LobbyRegistry) : Prop where
  first : (r.findLobby ⟨1⟩).isSome
  free : r.getPlayerLobby ⟨1⟩ = none
  number : r.next_id_ = ⟨next⟩

noncomputable def about (e : Event) : Input := .request (Lobbies.request e)

lemma create_registry (w : Lobbies) (p : PlayerId) :
    (step .default w (about (.createLobbyRequest p))).lobby_registry_ =
      (onCreateLobbyRequest Gameplay.default.lobby_max_players default w.lobby_registry_ p).2 :=
  rfl

lemma leave_registry (w : Lobbies) (p : PlayerId) :
    (step .default w (about (.leaveLobbyRequest p))).lobby_registry_ =
      (onLeaveLobbyRequest default w.lobby_registry_ p).2 := rfl

/-- The first player uses up a number, in a lobby of its own or in vain. -/
lemma FirstTaken.next {next : UInt64} {w : Lobbies} (h : FirstTaken next w.lobby_registry_)
    (hs : Sound .default w) : ∃ inputs, FirstTaken (next + 1)
      (run (step .default) w inputs).lobby_registry_ := by
  have hr := hs.lobbies
  rcases onCreateLobbyRequest_cases hr default ⟨1⟩ with
    ⟨hp, -⟩ | ⟨-, -, he⟩ | ⟨hp, hid, hm, he⟩
  · exact absurd hp (lookup_eq_none.mp h.free)
  · -- the number was taken, and is lost
    refine ⟨[about (.createLobbyRequest ⟨1⟩)], ?_⟩
    rw [run_cons, run_nil, create_registry, he]
    exact ⟨h.first, h.free, by rw [advanced, h.number]⟩
  · -- the lobby opened is left at once
    refine ⟨[about (.createLobbyRequest ⟨1⟩), about (.leaveLobbyRequest ⟨1⟩)], ?_⟩
    have created : Created ⟨1⟩ _ w.lobby_registry_ (opened w.lobby_registry_ ⟨1⟩) :=
      created_opened hid
    rw [run_cons, run_cons, run_nil, leave_registry, create_registry, he]
    have first : (⟨1⟩ : LobbyId) ≠ w.lobby_registry_.next_id_ := by
      intro hf
      have := h.first
      rw [hf, created.fresh] at this
      cases this
    rcases onLeaveLobbyRequest_answered (sound_opened hr hp hid hm) default ⟨1⟩ with
      ⟨l, lobby, hl, -, -, left⟩ | ⟨hno, -⟩
    · obtain rfl : _ = l := Option.some.inj (created.inside.symm.trans hl)
      refine ⟨?_, left.outside, ?_⟩
      · rw [left.lobbies _ first, created.lobbies _ first]
        exact h.first
      · rw [left.number, created.number.2, h.number]
    · rw [created.inside] at hno
      cases hno

/-- Any number may be next while the first lobby is there. -/
lemma exists_firstTaken (n : ℕ) : ∃ inputs, FirstTaken (UInt64.ofNat (n + 2))
    (run (step .default) Lobbies.init inputs).lobby_registry_ := by
  induction n with
  | zero =>
    refine ⟨[about (.createLobbyRequest ⟨2⟩)], ?_⟩
    rw [run_cons, run_nil, create_registry, show Lobbies.init.lobby_registry_ =
      Lobbies.vacant 1 from rfl, Lobbies.create_vacant _ Lobbies.places_default]
    have created : Created ⟨2⟩ ⟨1⟩ (Lobbies.vacant 1) (opened (Lobbies.vacant 1) ⟨2⟩) :=
      created_opened (r := Lobbies.vacant 1) notMem_empty
    refine ⟨?_, created.players ⟨1⟩ (by decide), rfl⟩
    obtain ⟨lobby, hl, -⟩ := created.lobby
    rw [hl]
    rfl
  | succ n ih =>
    obtain ⟨inputs, hi⟩ := ih
    obtain ⟨more, hm⟩ := hi.next (sound_run .default inputs)
    refine ⟨inputs ++ more, ?_⟩
    rw [run_append, Nat.add_right_comm n 1 2, UInt64.ofNat_add (n + 2) 1]
    exact hm

/-- When the counter has come round to the number of the first lobby, a player in no lobby is
refused one though lobbies have places. -/
theorem taken_number_refuses :
    ¬ ∀ (cfg : Gameplay) (inputs : List Input) (ord : IterOrder PlayerId)
      (lobbyOrd : IterOrder LobbyId) (p : PlayerId) (l : LobbyId),
      let r := (run (step cfg) Lobbies.init inputs).lobby_registry_
      Answered cfg.lobby_max_players
        (r.getPlayerLobby p = none ∧ 0 < cfg.lobby_max_players) ord lobbyOrd r p l := by
  intro h
  obtain ⟨inputs, taken⟩ := exists_firstTaken (2 ^ 64 - 1)
  have number : (run (step .default) Lobbies.init inputs).lobby_registry_.next_id_ = ⟨1⟩ :=
    taken.number.trans (by decide)
  rcases onCreateLobbyRequest_answered (sound_run .default inputs).lobbies default ⟨1⟩ with
    ⟨⟨-, -, fresh⟩, -⟩ | ⟨-, failed, -⟩
  · have first := taken.first
    rw [← number, fresh] at first
    cases first
  · rcases (h .default inputs default default ⟨1⟩ ⟨1⟩).create with ⟨-, l, hc, -⟩ | ⟨hno, -⟩
    · rw [failed] at hc
      cases hc
    · exact hno ⟨taken.free, by decide⟩

end Games

end DungeonCrawler
