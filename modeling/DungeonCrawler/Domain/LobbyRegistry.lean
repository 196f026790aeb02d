import DungeonCrawler.Domain.Lobby

/-!
The registry of lobbies and what keeps its three records of membership in step.

A lobby is changed through a shared pointer in the source, and both the caller and the table
see the change; here the table is given the changed lobby.
-/

namespace DungeonCrawler

structure LobbyRegistry where
  lobbies_ : Finmap fun _ : LobbyId => Lobby
  player_to_lobby_ : Finmap fun _ : PlayerId => LobbyId
  lobby_players_ : Finmap fun _ : LobbyId => Finset PlayerId
  next_id_ : LobbyId

namespace LobbyRegistry

open Finmap

def empty : LobbyRegistry := ⟨∅, ∅, ∅, ⟨1⟩⟩

def addLobby (r : LobbyRegistry) (lobby : Lobby) : Bool × LobbyRegistry :=
  let lid := lobby.id_
  if lid ∈ r.lobbies_ then (false, r)
  else (true, { r with lobbies_ := r.lobbies_.insert lid lobby })

def removeLobby (ord : IterOrder PlayerId) (r : LobbyRegistry) (lobby_id : LobbyId) :
    Bool × LobbyRegistry :=
  if lobby_id ∉ r.lobbies_ then (false, r)
  else
    let r := match r.lobby_players_.lookup lobby_id with
      | some players =>
        { r with
          player_to_lobby_ :=
            (ord.list players).foldl (fun m pid => m.erase pid) r.player_to_lobby_
          lobby_players_ := r.lobby_players_.erase lobby_id }
      | none => r
    (true, { r with lobbies_ := r.lobbies_.erase lobby_id })

def findLobby (r : LobbyRegistry) (lobby_id : LobbyId) : Option Lobby :=
  r.lobbies_.lookup lobby_id

def getAllLobbies (ord : IterOrder LobbyId) (r : LobbyRegistry) : List Lobby :=
  (ord.entries r.lobbies_).map Prod.snd

def getPlayerLobby (r : LobbyRegistry) (player_id : PlayerId) : Option LobbyId :=
  r.player_to_lobby_.lookup player_id

def isPlayerInLobby (r : LobbyRegistry) (player_id : PlayerId) : Bool :=
  player_id ∈ r.player_to_lobby_

/-- The identifier handed out, and the registry after; the counter wraps. -/
def generateNextLobbyId (r : LobbyRegistry) : LobbyId × LobbyRegistry :=
  (r.next_id_, { r with next_id_ := ⟨r.next_id_.value + 1⟩ })

def addPlayerToLobby (max : UInt16) (ord : IterOrder PlayerId) (r : LobbyRegistry)
    (player_id : PlayerId) (lobby_id : LobbyId) : Bool × LobbyRegistry :=
  if r.isPlayerInLobby player_id then (false, r)
  else
    match r.lobbies_.lookup lobby_id with
    | none => (false, r)
    | some lobby_found =>
      match lobby_found.addPlayer max player_id with
      | (false, _) => (false, r)
      | (true, lobby) =>
        let playerSet := (r.lobby_players_.lookup lobby_id).getD ∅
        let setInserted : Bool := player_id ∉ playerSet
        let playerSet := insert player_id playerSet
        let mapInserted : Bool := player_id ∉ r.player_to_lobby_
        let player_to_lobby := r.player_to_lobby_.emplace player_id lobby_id
        if !setInserted || !mapInserted then
          let playerSet := if setInserted then playerSet.erase player_id else playerSet
          let player_to_lobby :=
            if mapInserted then player_to_lobby.erase player_id else player_to_lobby
          (false, { r with
            lobbies_ := r.lobbies_.insert lobby_id (lobby.removePlayer ord player_id).2
            player_to_lobby_ := player_to_lobby
            lobby_players_ := r.lobby_players_.insert lobby_id playerSet })
        else
          (true, { r with
            lobbies_ := r.lobbies_.insert lobby_id lobby
            player_to_lobby_ := player_to_lobby
            lobby_players_ := r.lobby_players_.insert lobby_id playerSet })

def removePlayerFromLobby (ord : IterOrder PlayerId) (r : LobbyRegistry)
    (player_id : PlayerId) : Bool × LobbyRegistry :=
  match r.player_to_lobby_.lookup player_id with
  | none => (false, r)
  | some lobbyId =>
    match r.lobbies_.lookup lobbyId with
    | none => (false, { r with player_to_lobby_ := r.player_to_lobby_.erase player_id })
    | some lobby =>
      match lobby.removePlayer ord player_id with
      | (false, _) => (false, { r with player_to_lobby_ := r.player_to_lobby_.erase player_id })
      | (true, lobby) =>
        let playerSet := (r.lobby_players_.lookup lobbyId).getD ∅
        let r := { r with
          lobbies_ := r.lobbies_.insert lobbyId lobby
          player_to_lobby_ := r.player_to_lobby_.erase player_id
          lobby_players_ := r.lobby_players_.insert lobbyId (playerSet.erase player_id) }
        if lobby.isEmpty then
          (true, { r with
            lobbies_ := r.lobbies_.erase lobbyId
            lobby_players_ := r.lobby_players_.erase lobbyId })
        else (true, r)

/-! ### The invariant -/

/-- The three records of membership agree, and every lobby is stored under its own
identifier, has a player, is not overfull and is led by one of its players. -/
structure Sound (max : UInt16) (r : LobbyRegistry) : Prop where
  in_lobby : ∀ p l, r.getPlayerLobby p = some l ↔
    ∃ lobby, r.findLobby l = some lobby ∧ lobby.containsPlayer p
  in_set : ∀ p l, r.getPlayerLobby p = some l ↔
    ∃ players, r.lobby_players_.lookup l = some players ∧ p ∈ players
  same_keys : ∀ l, l ∈ r.lobbies_ ↔ l ∈ r.lobby_players_
  own_id : ∀ l lobby, r.findLobby l = some lobby → lobby.id_ = l
  has_player : ∀ l lobby, r.findLobby l = some lobby → 1 ≤ lobby.getPlayerCount
  at_most_max : ∀ l lobby, r.findLobby l = some lobby → lobby.getPlayerCount ≤ max.toNat
  leader_inside : ∀ l lobby, r.findLobby l = some lobby → lobby.containsPlayer lobby.leader_id_

variable {max : UInt16} {ord : IterOrder PlayerId} {r : LobbyRegistry} {p : PlayerId}
variable {l : LobbyId} {lobby lobby' : Lobby} {players : Finset PlayerId}

lemma Sound.lobbyFibers (h : r.Sound max) :
    Fibers (fun (lobby : Lobby) p => lobby.containsPlayer p) r.player_to_lobby_ r.lobbies_ :=
  h.in_lobby

lemma Sound.setFibers (h : r.Sound max) :
    Fibers (fun (players : Finset PlayerId) p => p ∈ players) r.player_to_lobby_
      r.lobby_players_ := h.in_set

/-- Each of the two records of the members of lobbies agrees with the table of the lobbies of
players. -/
structure Filed (r : LobbyRegistry) : Prop where
  lobbies : Fibers (fun (lobby : Lobby) p => lobby.containsPlayer p) r.player_to_lobby_ r.lobbies_
  sets : Fibers (fun (players : Finset PlayerId) p => p ∈ players) r.player_to_lobby_
    r.lobby_players_

lemma Sound.filed (h : r.Sound max) : r.Filed := ⟨h.in_lobby, h.in_set⟩

lemma filed_empty : empty.Filed := ⟨Fibers.empty, Fibers.empty⟩

lemma sound_empty : empty.Sound max where
  in_lobby := Fibers.empty
  in_set := Fibers.empty
  same_keys _ := iff_of_false notMem_empty notMem_empty
  own_id := by simp [empty, findLobby]
  has_player := by simp [empty, findLobby]
  at_most_max := by simp [empty, findLobby]
  leader_inside := by simp [empty, findLobby]

/-- What is required of a single stored lobby. -/
structure GoodLobby (max : UInt16) (l : LobbyId) (lobby : Lobby) : Prop where
  own_id : lobby.id_ = l
  has_player : 1 ≤ lobby.getPlayerCount
  at_most_max : lobby.getPlayerCount ≤ max.toNat
  leader_inside : lobby.containsPlayer lobby.leader_id_

lemma Sound.good (h : r.Sound max) (hl : r.findLobby l = some lobby) :
    GoodLobby max l lobby :=
  ⟨h.own_id l lobby hl, h.has_player l lobby hl, h.at_most_max l lobby hl,
    h.leader_inside l lobby hl⟩

lemma Sound.of_good
    (hf : Fibers (fun (lobby : Lobby) p => lobby.containsPlayer p) r.player_to_lobby_ r.lobbies_)
    (hs : Fibers (fun (players : Finset PlayerId) p => p ∈ players) r.player_to_lobby_
      r.lobby_players_)
    (hk : ∀ l, l ∈ r.lobbies_ ↔ l ∈ r.lobby_players_)
    (hg : ∀ l lobby, r.findLobby l = some lobby → GoodLobby max l lobby) : r.Sound max :=
  ⟨hf, hs, hk, fun l y h => (hg l y h).own_id, fun l y h => (hg l y h).has_player,
    fun l y h => (hg l y h).at_most_max, fun l y h => (hg l y h).leader_inside⟩

/-- The lobby of a member, and its set of players. -/
lemma Filed.lobby_of_member (h : r.Filed) (hp : r.player_to_lobby_.lookup p = some l) :
    ∃ lobby players, r.lobbies_.lookup l = some lobby ∧ p ∈ lobby.players_ ∧
      r.lobby_players_.lookup l = some players := by
  obtain ⟨lobby, hl, hm⟩ := (h.lobbies p l).mp hp
  obtain ⟨players, hs, -⟩ := (h.sets p l).mp hp
  exact ⟨lobby, players, hl, by simpa [Lobby.containsPlayer] using hm, hs⟩

lemma Filed.mem_iff (h : r.Filed) (hl : r.lobbies_.lookup l = some lobby) :
    p ∈ lobby.players_ ↔ r.player_to_lobby_.lookup p = some l := by
  rw [h.lobbies p l, hl]
  simp [Lobby.containsPlayer]

lemma Filed.notMem_set (h : r.Filed) (hp : p ∉ r.player_to_lobby_) (l : LobbyId) :
    p ∉ (r.lobby_players_.lookup l).getD ∅ := by
  cases hs : r.lobby_players_.lookup l with
  | none => exact Finset.notMem_empty p
  | some players => exact h.sets.not_mem_of_notMem hp hs

/-! ### Joining -/

/-- The registry after a player joined a lobby. -/
def joined (r : LobbyRegistry) (p : PlayerId) (l : LobbyId) (lobby : Lobby) : LobbyRegistry :=
  { r with
    lobbies_ := r.lobbies_.insert l { lobby with players_ := lobby.players_.insert p ⟨false⟩ }
    player_to_lobby_ := r.player_to_lobby_.insert p l
    lobby_players_ :=
      r.lobby_players_.insert l (insert p ((r.lobby_players_.lookup l).getD ∅)) }

lemma addPlayerToLobby_of_free (hp : p ∉ r.player_to_lobby_)
    (hl : r.lobbies_.lookup l = some lobby) (hm : p ∉ lobby.players_)
    (hs : p ∉ (r.lobby_players_.lookup l).getD ∅) (hf : lobby.players_.size ≠ max.toNat) :
    r.addPlayerToLobby max ord p l = (true, r.joined p l lobby) := by
  simp [addPlayerToLobby, isPlayerInLobby, hp, hl, Lobby.addPlayer_of_free hm hf, hs, joined,
    emplace_of_notMem]

lemma addPlayerToLobby_of_full (hl : r.lobbies_.lookup l = some lobby)
    (hf : lobby.players_.size = max.toNat) :
    r.addPlayerToLobby max ord p l = (false, r) := by
  unfold addPlayerToLobby
  split_ifs
  · rfl
  · simp [hl, Lobby.addPlayer_of_full hf]

/-- A good lobby that is not full is good with one more player. -/
lemma GoodLobby.join (hg : GoodLobby max l lobby) (hm : p ∉ lobby.players_)
    (hf : lobby.players_.size ≠ max.toNat) :
    GoodLobby max l { lobby with players_ := lobby.players_.insert p ⟨false⟩ } := by
  have hsize := size_insert_of_notMem hm (⟨false⟩ : LobbyPlayerInfo)
  have hmax : lobby.players_.size ≤ max.toNat := hg.at_most_max
  have hleader : lobby.leader_id_ ∈ lobby.players_ := by
    simpa [Lobby.containsPlayer] using hg.leader_inside
  refine ⟨hg.own_id, ?_, ?_, ?_⟩
  · rw [Lobby.getPlayerCount, hsize]
    omega
  · rw [Lobby.getPlayerCount, hsize]
    omega
  · simp [Lobby.containsPlayer, mem_insert, hleader]

lemma Filed.joined (h : r.Filed) (hp : p ∉ r.player_to_lobby_)
    (hl : r.lobbies_.lookup l = some lobby) : (r.joined p l lobby).Filed := by
  refine ⟨h.lobbies.join hp fun q => ?_, h.sets.join hp fun q => ?_⟩
  · simp [Lobby.containsPlayer, hl, mem_insert]
  · cases hs : r.lobby_players_.lookup l <;> simp

/-- A lobby that is not full takes the player, and the registry stays sound. -/
lemma Sound.joined (h : r.Sound max) (hp : p ∉ r.player_to_lobby_)
    (hl : r.lobbies_.lookup l = some lobby) (hf : lobby.players_.size ≠ max.toNat) :
    (r.joined p l lobby).Sound max := by
  have hm : p ∉ lobby.players_ := by
    rw [h.filed.mem_iff hl, lookup_eq_none.mpr hp]
    exact (nomatch ·)
  have filed := h.filed.joined hp hl
  refine Sound.of_good filed.lobbies filed.sets (fun l' => ?_) fun l' y hy => ?_
  · simp [LobbyRegistry.joined, mem_insert, h.same_keys l']
  · rw [findLobby, LobbyRegistry.joined, lookup_insert_ite] at hy
    split_ifs at hy with hl'
    · obtain rfl := Option.some.inj hy
      rw [hl']
      exact (h.good hl).join hm hf
    · exact h.good hy

lemma addPlayerToLobby_of_taken (hp : p ∈ r.player_to_lobby_) :
    r.addPlayerToLobby max ord p l = (false, r) := by
  simp [addPlayerToLobby, isPlayerInLobby, hp]

/-- A player in no lobby is joined to one that is not full. -/
lemma Filed.addPlayerToLobby_of_free (h : r.Filed) (ord : IterOrder PlayerId)
    (hp : p ∉ r.player_to_lobby_) (hl : r.lobbies_.lookup l = some lobby)
    (hf : lobby.players_.size ≠ max.toNat) :
    r.addPlayerToLobby max ord p l = (true, r.joined p l lobby) := by
  refine LobbyRegistry.addPlayerToLobby_of_free hp hl ?_ (h.notMem_set hp l) hf
  rw [h.mem_iff hl, lookup_eq_none.mpr hp]
  exact (nomatch ·)

/-- Adding a player joins the player to the lobby or changes nothing. -/
lemma Filed.addPlayerToLobby_cases (h : r.Filed) (max : UInt16) (ord : IterOrder PlayerId)
    (p : PlayerId) (l : LobbyId) :
    r.addPlayerToLobby max ord p l = (false, r) ∨
      ∃ lobby, p ∉ r.player_to_lobby_ ∧ r.lobbies_.lookup l = some lobby ∧
        lobby.players_.size ≠ max.toNat ∧
        r.addPlayerToLobby max ord p l = (true, r.joined p l lobby) := by
  by_cases hp : p ∈ r.player_to_lobby_
  · exact Or.inl (addPlayerToLobby_of_taken hp)
  cases hl : r.lobbies_.lookup l with
  | none =>
    left
    simp [addPlayerToLobby, isPlayerInLobby, hp, hl]
  | some lobby =>
    by_cases hf : lobby.players_.size = max.toNat
    · exact Or.inl (addPlayerToLobby_of_full hl hf)
    · exact Or.inr ⟨lobby, hp, rfl, hf, h.addPlayerToLobby_of_free ord hp hl hf⟩

/-! ### Leaving -/

lemma removePlayerFromLobby_of_free (hp : p ∉ r.player_to_lobby_) :
    r.removePlayerFromLobby ord p = (false, r) := by
  simp [removePlayerFromLobby, lookup_eq_none.mpr hp]

/-- The records of the others after a member left, the lobby not yet taken down. -/
def departed (r : LobbyRegistry) (p : PlayerId) (l : LobbyId) (lobby : Lobby)
    (players : Finset PlayerId) : LobbyRegistry :=
  { r with
    lobbies_ := r.lobbies_.insert l lobby
    player_to_lobby_ := r.player_to_lobby_.erase p
    lobby_players_ := r.lobby_players_.insert l (players.erase p) }

/-- The registry without a lobby. -/
def without (r : LobbyRegistry) (l : LobbyId) : LobbyRegistry :=
  { r with
    lobbies_ := r.lobbies_.erase l
    lobby_players_ := r.lobby_players_.erase l }

lemma removePlayerFromLobby_of_member (hp : r.player_to_lobby_.lookup p = some l)
    (hl : r.lobbies_.lookup l = some lobby) (hs : r.lobby_players_.lookup l = some players)
    (hr : lobby.removePlayer ord p = (true, lobby')) :
    r.removePlayerFromLobby ord p =
      (true, if lobby'.isEmpty then (r.departed p l lobby' players).without l
        else r.departed p l lobby' players) := by
  simp only [removePlayerFromLobby, hp, hl, hr, hs, Option.getD_some, departed, without]
  split_ifs <;> rfl

lemma findLobby_without {l' : LobbyId} {y : Lobby} :
    (r.without l).findLobby l' = some y ↔ l' ≠ l ∧ r.findLobby l' = some y := by
  rw [findLobby, without, lookup_erase_ite]
  split_ifs with h <;> simp [h, findLobby]

lemma findLobby_departed {l' : LobbyId} (hne : l' ≠ l) :
    (r.departed p l lobby players).findLobby l' = r.findLobby l' :=
  lookup_insert_of_ne _ hne

lemma Filed.departed (h : r.Filed) (hp : r.player_to_lobby_.lookup p = some l)
    (hl : r.lobbies_.lookup l = some lobby) (hs : r.lobby_players_.lookup l = some players)
    (hplayers : lobby'.players_ = lobby.players_.erase p) :
    (r.departed p l lobby' players).Filed := by
  refine ⟨h.lobbies.leave hp hl fun q => ?_, h.sets.leave hp hs fun q => by simp⟩
  simp [Lobby.containsPlayer, hplayers]

/-- A lobby that nobody is in may go. -/
lemma Filed.without (h : r.Filed) (hl : r.lobbies_.lookup l = some lobby)
    (hs : r.lobby_players_.lookup l = some players) (hnone : ∀ q, q ∉ lobby.players_) :
    (r.without l).Filed := by
  refine ⟨h.lobbies.dissolve hl (by simpa [Lobby.containsPlayer]), h.sets.dissolve hs ?_⟩
  exact fun q hq => hnone q ((h.mem_iff hl).mpr (h.sets.lookup_eq hs hq))

/-- The registry after a member of a lobby was removed; the lobby is gone if nobody is
left. -/
structure Removed (ord : IterOrder PlayerId) (p : PlayerId) (l : LobbyId) (lobby : Lobby)
    (r r' : LobbyRegistry) : Prop where
  filed : r'.Filed
  player_to_lobby : r'.player_to_lobby_ = r.player_to_lobby_.erase p
  lobbies : ∀ l', l' ≠ l → r'.lobbies_.lookup l' = r.lobbies_.lookup l'
  sets : ∀ l', l' ≠ l → r'.lobby_players_.lookup l' = r.lobby_players_.lookup l'
  next_id : r'.next_id_ = r.next_id_
  gone : l ∉ r'.lobbies_ → ∀ q, q ∉ (lobby.removePlayer ord p).2.players_

/-- Removing a player takes the player out of its lobby, if it has one. -/
lemma Filed.removePlayerFromLobby_cases (h : r.Filed) (ord : IterOrder PlayerId)
    (p : PlayerId) :
    (p ∉ r.player_to_lobby_ ∧ r.removePlayerFromLobby ord p = (false, r)) ∨
      ∃ l lobby r', r.player_to_lobby_.lookup p = some l ∧ r.lobbies_.lookup l = some lobby ∧
        r.removePlayerFromLobby ord p = (true, r') ∧ Removed ord p l lobby r r' := by
  cases hp : r.player_to_lobby_.lookup p with
  | none =>
    have hp := lookup_eq_none.mp hp
    exact Or.inl ⟨hp, removePlayerFromLobby_of_free hp⟩
  | some l =>
    obtain ⟨lobby, players, hl, hm, hs⟩ := h.lobby_of_member hp
    obtain ⟨leader, hr, -⟩ := lobby.removePlayer_of_mem ord hm
    refine Or.inr ⟨l, lobby, _, rfl, hl, removePlayerFromLobby_of_member hp hl hs hr, ?_⟩
    have filed : (r.departed p l ⟨lobby.id_, lobby.players_.erase p, leader⟩ players).Filed :=
      h.departed hp hl hs rfl
    split_ifs with he
    · -- nobody is left
      have hnone : ∀ q, q ∉ lobby.players_.erase p := by
        simpa [Lobby.isEmpty, size_eq_zero] using he
      refine ⟨filed.without (lookup_insert _) (lookup_insert _) hnone, rfl, fun l' hl' => ?_,
        fun l' hl' => ?_, rfl, ?_⟩
      · exact (lookup_erase_ne hl').trans (lookup_insert_of_ne _ hl')
      · exact (lookup_erase_ne hl').trans (lookup_insert_of_ne _ hl')
      · rw [hr]
        exact fun _ => hnone
    · refine ⟨filed, rfl, fun l' hl' => lookup_insert_of_ne _ hl',
        fun l' hl' => lookup_insert_of_ne _ hl', rfl, fun hnot => ?_⟩
      exact absurd (mem_insert.mpr (Or.inl rfl)) hnot

/-- A lobby may be added before anybody joins it. -/
lemma Filed.addLobby (h : r.Filed) (hl : lobby.id_ ∉ r.lobbies_)
    (hnone : ∀ q, q ∉ lobby.players_) : (r.addLobby lobby).2.Filed := by
  rw [LobbyRegistry.addLobby, if_neg hl]
  refine ⟨fun q l' => ?_, h.sets⟩
  show r.player_to_lobby_.lookup q = some l' ↔
    ∃ v, (r.lobbies_.insert lobby.id_ lobby).lookup l' = some v ∧ v.containsPlayer q
  rw [h.lobbies q l', lookup_insert_ite]
  split_ifs with hl'
  · rw [hl', lookup_eq_none.mpr hl]
    simp [Lobby.containsPlayer, hnone]
  · rfl

/-- A lobby that is nobody's is taken down. -/
lemma Filed.removeLobby (h : r.Filed) (ord : IterOrder PlayerId)
    (hnone : ∀ q, r.player_to_lobby_.lookup q ≠ some l) :
    (r.removeLobby ord l).2.Filed ∧
      (r.removeLobby ord l).2.player_to_lobby_ = r.player_to_lobby_ ∧
      (r.removeLobby ord l).2.lobbies_ = r.lobbies_.erase l := by
  unfold LobbyRegistry.removeLobby
  by_cases hl : l ∈ r.lobbies_
  swap
  · rw [if_pos hl, erase_of_notMem hl]
    exact ⟨h, rfl, rfl⟩
  rw [if_neg (not_not.mpr hl)]
  obtain ⟨lobby, hlobby⟩ := Finmap.mem_iff.mp hl
  have gone : Fibers (fun (lobby : Lobby) p => lobby.containsPlayer p) r.player_to_lobby_
      (r.lobbies_.erase l) :=
    h.lobbies.dissolve hlobby fun q hq => hnone q (h.lobbies.lookup_eq hlobby hq)
  cases hs : r.lobby_players_.lookup l with
  | none => exact ⟨⟨gone, h.sets⟩, rfl, rfl⟩
  | some players =>
    have empty : ∀ q, q ∉ players := fun q hq => hnone q (h.sets.lookup_eq hs hq)
    have nobody : ord.list players = [] :=
      List.eq_nil_iff_forall_not_mem.mpr fun q hq => empty q ((ord.mem_list players q).mp hq)
    simp only [nobody, List.foldl_nil, and_self, and_true]
    exact ⟨gone, h.sets.dissolve hs empty⟩

/-- A good lobby that a member left is good if somebody is left in it. -/
lemma GoodLobby.leave (hg : GoodLobby max l lobby) (hm : p ∈ lobby.players_)
    (hr : lobby.removePlayer ord p = (true, lobby')) (hne : lobby'.players_.size ≠ 0) :
    GoodLobby max l lobby' := by
  obtain ⟨leader, hr', hlead⟩ := lobby.removePlayer_of_mem ord hm
  obtain rfl : ⟨lobby.id_, lobby.players_.erase p, leader⟩ = lobby' := by
    rw [hr] at hr'
    exact (congrArg Prod.snd hr').symm
  have hsize := size_erase_of_mem hm
  have hmax : lobby.players_.size ≤ max.toNat := hg.at_most_max
  refine ⟨hg.own_id, Nat.one_le_iff_ne_zero.mpr hne, ?_, ?_⟩
  · show (lobby.players_.erase p).size ≤ max.toNat
    omega
  · -- one of those left leads
    obtain ⟨q, hq⟩ : ∃ q, q ∈ lobby.players_.erase p := by
      by_contra hno
      exact hne (size_eq_zero.mpr (not_exists.mp hno))
    have hleader : lobby.leader_id_ ∈ lobby.players_ := by
      simpa [Lobby.containsPlayer] using hg.leader_inside
    simpa [Lobby.containsPlayer] using hlead hleader q hq

/-- A member leaves its lobby, a lobby left empty goes, and the registry stays sound. -/
lemma Sound.removePlayerFromLobby (h : r.Sound max) (ord : IterOrder PlayerId)
    (p : PlayerId) : (r.removePlayerFromLobby ord p).2.Sound max := by
  cases hp : r.player_to_lobby_.lookup p with
  | none => rwa [removePlayerFromLobby_of_free (lookup_eq_none.mp hp)]
  | some l =>
    obtain ⟨lobby, players, hl, hm, hs⟩ := h.filed.lobby_of_member hp
    obtain ⟨leader, hr, -⟩ := lobby.removePlayer_of_mem ord hm
    rw [removePlayerFromLobby_of_member hp hl hs hr]
    generalize hlobby : Lobby.mk lobby.id_ (lobby.players_.erase p) leader = lobby' at hr
    have hplayers : lobby'.players_ = lobby.players_.erase p := by rw [← hlobby]
    have filed := h.filed.departed hp hl hs hplayers
    have keys : ∀ l', l' ∈ (r.departed p l lobby' players).lobbies_ ↔
        l' ∈ (r.departed p l lobby' players).lobby_players_ := fun l' => by
      simp [LobbyRegistry.departed, mem_insert, h.same_keys l']
    dsimp only
    split_ifs with he
    · -- nobody is left
      have hnone : ∀ q, q ∉ lobby'.players_ := by
        simpa [Lobby.isEmpty, size_eq_zero] using he
      have gone := filed.without (lookup_insert _) (lookup_insert _) hnone
      refine Sound.of_good gone.lobbies gone.sets (fun l' => ?_) fun l' y hy => ?_
      · simp [LobbyRegistry.without, mem_erase, keys l']
      · obtain ⟨hne, hy⟩ := findLobby_without.mp hy
        rw [findLobby_departed hne] at hy
        exact h.good hy
    · refine Sound.of_good filed.lobbies filed.sets keys fun l' y hy => ?_
      rcases eq_or_ne l' l with rfl | hne
      · obtain rfl : lobby' = y := by
          simpa [findLobby, LobbyRegistry.departed, lookup_insert] using hy
        have hne : lobby'.players_.size ≠ 0 := by simpa [Lobby.isEmpty] using he
        exact (h.good hl).leave hm hr hne
      · rw [findLobby_departed hne] at hy
        exact h.good hy

/-! ### Operations that open no lobby -/

/-- The second registry is sound and has the counter and no lobbies but those of the first. -/
structure Keeps (max : UInt16) (r r' : LobbyRegistry) : Prop where
  sound : r'.Sound max
  next_id : r'.next_id_ = r.next_id_
  keys : ∀ l ∈ r'.lobbies_, l ∈ r.lobbies_

lemma Sound.keeps_self (h : r.Sound max) : Keeps max r r := ⟨h, rfl, fun _ => id⟩

lemma Keeps.trans {r' r'' : LobbyRegistry} (h : Keeps max r r') (h' : Keeps max r' r'') :
    Keeps max r r'' :=
  ⟨h'.sound, h'.next_id.trans h.next_id, fun l hl => h.keys l (h'.keys l hl)⟩

lemma Sound.keeps_joined (h : r.Sound max) (hp : p ∉ r.player_to_lobby_)
    (hl : r.lobbies_.lookup l = some lobby) (hf : lobby.players_.size ≠ max.toNat) :
    Keeps max r (r.joined p l lobby) := by
  refine ⟨h.joined hp hl hf, rfl, fun l' hl' => ?_⟩
  rcases mem_insert.mp hl' with rfl | hl'
  · exact mem_of_lookup_eq_some hl
  · exact hl'

lemma Sound.keeps_removePlayerFromLobby (h : r.Sound max) (ord : IterOrder PlayerId)
    (p : PlayerId) : Keeps max r (r.removePlayerFromLobby ord p).2 := by
  have sound := h.removePlayerFromLobby ord p
  rcases h.filed.removePlayerFromLobby_cases ord p with ⟨-, he⟩ | ⟨l, lobby, r', -, hl, he, hr⟩ <;>
    rw [he] at sound ⊢
  · exact h.keeps_self
  · refine ⟨sound, hr.next_id, fun l' hl' => ?_⟩
    rcases eq_or_ne l' l with rfl | hne
    · exact mem_of_lookup_eq_some hl
    · obtain ⟨y, hy⟩ := mem_iff.mp hl'
      exact mem_of_lookup_eq_some ((hr.lobbies l' hne).symm.trans hy)

lemma GoodLobby.setReady (hg : GoodLobby max l lobby) (p : PlayerId) (b : Bool) :
    GoodLobby max l (lobby.setReady p b).2 := by
  obtain ⟨hid, hleader, hmem, hsize⟩ := lobby.setReady_spec p b
  refine ⟨?_, ?_, ?_, ?_⟩
  · rw [hid]
    exact hg.own_id
  · rw [Lobby.getPlayerCount, hsize]
    exact hg.has_player
  · rw [Lobby.getPlayerCount, hsize]
    exact hg.at_most_max
  · have hin := hg.leader_inside
    simp only [Lobby.containsPlayer, decide_eq_true_eq] at hin ⊢
    rwa [hleader, hmem]

/-- A lobby whose players are marked ready is as good as before. -/
lemma Sound.keeps_setReady (h : r.Sound max) (hl : r.lobbies_.lookup l = some lobby)
    (p : PlayerId) (b : Bool) :
    Keeps max r { r with lobbies_ := r.lobbies_.insert l (lobby.setReady p b).2 } := by
  obtain ⟨-, -, hmem, -⟩ := lobby.setReady_spec p b
  have keys : ∀ l', l' ∈ r.lobbies_.insert l (lobby.setReady p b).2 ↔ l' ∈ r.lobbies_ := by
    intro l'
    rw [mem_insert, or_iff_right_of_imp]
    rintro rfl
    exact mem_of_lookup_eq_some hl
  refine ⟨Sound.of_good (h.lobbyFibers.update hl fun q => ?_) h.setFibers
    (fun l' => (keys l').trans (h.same_keys l')) fun l' y hy => ?_, rfl, fun l' => (keys l').mp⟩
  · simp [Lobby.containsPlayer, hmem]
  · rw [findLobby, lookup_insert_ite] at hy
    split_ifs at hy with hl'
    · obtain rfl := Option.some.inj hy
      rw [hl']
      exact (h.good hl).setReady p b
    · exact h.good hy

lemma Sound.keeps_removePlayers (h : r.Sound max) (ord : IterOrder PlayerId)
    (ps : List PlayerId) :
    Keeps max r (ps.foldl (fun r p => (r.removePlayerFromLobby ord p).2) r) := by
  induction ps generalizing r with
  | nil => exact h.keeps_self
  | cons p ps ih =>
    have hp := h.keeps_removePlayerFromLobby ord p
    exact hp.trans (ih hp.sound)

/-! ### A lobby is emptied -/

/-- The second registry has the players `ps` of the lobby `l` in no lobby, and all other
players and lobbies as in the first. -/
structure Emptied (l : LobbyId) (ps : List PlayerId) (r r' : LobbyRegistry) : Prop where
  players : ∀ q, r'.player_to_lobby_.lookup q =
    if q ∈ ps then none else r.player_to_lobby_.lookup q
  lobbies : ∀ l', l' ≠ l → r'.lobbies_.lookup l' = r.lobbies_.lookup l'
  sets : ∀ l', l' ≠ l → r'.lobby_players_.lookup l' = r.lobby_players_.lookup l'
  next_id : r'.next_id_ = r.next_id_

/-- A member is removed. -/
lemma Sound.emptied_one (h : r.Sound max) (ord : IterOrder PlayerId)
    (hp : r.player_to_lobby_.lookup p = some l) :
    (r.removePlayerFromLobby ord p).1 = true ∧
      Emptied l [p] r (r.removePlayerFromLobby ord p).2 := by
  rcases h.filed.removePlayerFromLobby_cases ord p with ⟨hno, -⟩ | ⟨l', lobby, r', hl', -, he, hr⟩
  · exact absurd (mem_of_lookup_eq_some hp) hno
  · obtain rfl : l' = l := Option.some.inj (hl'.symm.trans hp)
    rw [he]
    refine ⟨rfl, fun q => ?_, hr.lobbies, hr.sets, hr.next_id⟩
    rw [hr.player_to_lobby, lookup_erase_ite]
    simp only [List.mem_singleton]

/-- Members of a lobby are removed one after the other. -/
lemma Sound.emptied (h : r.Sound max) (ord : IterOrder PlayerId) {ps : List PlayerId}
    (hnd : ps.Nodup) (hps : ∀ p ∈ ps, r.player_to_lobby_.lookup p = some l) :
    Emptied l ps r (ps.foldl (fun r p => (r.removePlayerFromLobby ord p).2) r) := by
  induction ps generalizing r with
  | nil => exact ⟨fun _ => rfl, fun _ _ => rfl, fun _ _ => rfl, rfl⟩
  | cons p ps ih =>
    obtain ⟨hp, hnd⟩ := List.nodup_cons.mp hnd
    have one := (h.emptied_one ord (hps p (List.mem_cons_self ..))).2
    have still : ∀ q ∈ ps, (r.removePlayerFromLobby ord p).2.player_to_lobby_.lookup q =
        some l := by
      intro q hq
      have hqp : q ≠ p := fun he => hp (he ▸ hq)
      rw [one.players, if_neg (by simpa using hqp)]
      exact hps q (List.mem_cons_of_mem _ hq)
    have rest := ih (h.removePlayerFromLobby ord p) hnd still
    refine ⟨fun q => ?_, fun l' hl' => (rest.lobbies l' hl').trans (one.lobbies l' hl'),
      fun l' hl' => (rest.sets l' hl').trans (one.sets l' hl'),
      rest.next_id.trans one.next_id⟩
    rw [List.foldl_cons, rest.players, one.players]
    by_cases hq : q ∈ ps <;> by_cases hqp : q = p <;> simp [hq, hqp]

/-- A lobby all of whose members were removed is gone. -/
lemma Emptied.gone {r' : LobbyRegistry} {ps : List PlayerId} (he : Emptied l ps r r')
    (h : r.Sound max) (h' : r'.Sound max) (hl : r.lobbies_.lookup l = some lobby)
    (hps : ∀ q, q ∈ lobby.players_ → q ∈ ps) : l ∉ r'.lobbies_ := by
  intro hmem
  obtain ⟨left, hleft⟩ := mem_iff.mp hmem
  -- whoever was left would still be in the lobby
  obtain ⟨q, hq⟩ : ∃ q, q ∈ left.players_ := by
    by_contra hno
    have := h'.has_player l left hleft
    rw [Lobby.getPlayerCount, size_eq_zero.mpr (not_exists.mp hno)] at this
    omega
  have hlookup := h'.lobbyFibers.lookup_eq hleft (by simpa [Lobby.containsPlayer] using hq)
  rw [he.players] at hlookup
  split_ifs at hlookup with hin
  have := h.lobbyFibers.mem_of_lookup hlookup hl
  exact hin (hps q (by simpa [Lobby.containsPlayer] using this))

end LobbyRegistry

end DungeonCrawler
