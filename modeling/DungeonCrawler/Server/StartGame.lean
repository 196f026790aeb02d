import DungeonCrawler.Server.Managers

/-!
Who is moved from the lobby to the dungeon when a game starts.

The start reads the members of the lobby twice: those read first fill the dungeon, and those
read second are removed from the lobby. The two are the same players, and each is a member
still when it is removed, only where the other strand leaves them in peace meanwhile.
-/

namespace DungeonCrawler

open Finmap LobbyRegistry Runs

variable {r r' : LobbyRegistry} {last : Lobby → Lobby} {ptr : LobbyPtr} {p : PlayerId}
variable {l : LobbyId} {max : UInt16} {away away' : Finset PlayerId} {ps ps' : List PlayerId}

/-! ### What the holder of a lobby sees -/

/-- A lobby that is held is the one stored, or is empty. -/
structure LobbyPtr.Valid (r : LobbyRegistry) (ptr : LobbyPtr) : Prop where
  stored : ptr.stored → r.lobbies_.lookup ptr.lobby_id = some ptr.lobby
  dropped : ptr.stored = false → ∀ p, p ∉ ptr.lobby.players_

lemma LobbyPtr.valid_of_lookup {lobby : Lobby} (hl : r.lobbies_.lookup l = some lobby) :
    LobbyPtr.Valid r ⟨l, lobby, true⟩ :=
  ⟨fun _ => hl, fun hs => by cases hs⟩

/-- The members of a lobby that is held are the players whose lobby it is, as long as it is
stored. -/
lemma LobbyPtr.Valid.mem_iff (h : ptr.Valid r) (hr : r.Filed) :
    p ∈ ptr.lobby.players_ ↔
      ptr.stored = true ∧ r.player_to_lobby_.lookup p = some ptr.lobby_id := by
  cases hs : ptr.stored with
  | false => exact iff_of_false (h.dropped hs p) (by simp)
  | true => rw [hr.mem_iff (h.stored hs), and_iff_right rfl]

lemma LobbyPtr.stored_of_after (h : (ptr.after r last).stored) : ptr.stored := by
  by_contra hs
  rw [LobbyPtr.after, if_neg hs] at h
  exact hs h

lemma LobbyPtr.after_lobby_id : (ptr.after r last).lobby_id = ptr.lobby_id := by
  unfold LobbyPtr.after
  split_ifs
  · split <;> rfl
  · rfl

lemma LobbyPtr.Valid.after (h : ptr.Valid r)
    (hlast : ptr.stored → ptr.lobby_id ∉ r'.lobbies_ → ∀ p, p ∉ (last ptr.lobby).players_) :
    (ptr.after r' last).Valid r' := by
  unfold LobbyPtr.after
  split_ifs with hs
  · split
    case h_1 lobby hl => exact ⟨fun _ => hl, fun hf => absurd (hs.symm.trans hf) (by decide)⟩
    case h_2 hl => exact ⟨(nomatch ·), fun _ => hlast hs (lookup_eq_none.mp hl)⟩
  · exact ⟨fun hs' => absurd hs' hs, h.dropped⟩

/-- A call on the registry that its members are kept by, and that the holders of lobbies see
as it is. -/
structure Visible (r r' : LobbyRegistry) (last : Lobby → Lobby) : Prop where
  filed : r'.Filed
  valid : ∀ ptr : LobbyPtr, ptr.Valid r → (ptr.after r' last).Valid r'

/-- After a call the members of a lobby that was stored are the players whose lobby it is. -/
lemma Visible.mem_iff (h : Visible r r' last) (hv : ptr.Valid r) :
    p ∈ (ptr.after r' last).lobby.players_ ↔
      ptr.stored = true ∧ r'.player_to_lobby_.lookup p = some ptr.lobby_id := by
  rw [(h.valid ptr hv).mem_iff h.filed, LobbyPtr.after_lobby_id]
  refine ⟨fun ⟨hs, hp⟩ => ⟨LobbyPtr.stored_of_after hs, hp⟩, fun ⟨hs, hp⟩ => ⟨?_, hp⟩⟩
  -- a lobby with a member is stored
  obtain ⟨lobby, -, hl, -⟩ := h.filed.lobby_of_member hp
  unfold LobbyPtr.after
  rw [if_pos hs, show r'.findLobby ptr.lobby_id = some lobby from hl]
  exact hs

/-- A call that drops no lobby. -/
lemma Visible.of_keys (filed : r'.Filed) (hkeys : ∀ l ∈ r.lobbies_, l ∈ r'.lobbies_) :
    Visible r r' last := by
  refine ⟨filed, fun ptr hv => hv.after fun hs hnot => absurd ?_ hnot⟩
  exact hkeys _ (mem_of_lookup_eq_some (hv.stored hs))

lemma visible_generateNextLobbyId (h : r.Filed) : Visible r r.generateNextLobbyId.2 last :=
  .of_keys ⟨h.lobbies, h.sets⟩ fun _ => id

lemma visible_addLobby (h : r.Filed) (lobby : Lobby) (hl : lobby.id_ ∉ r.lobbies_)
    (hnone : ∀ q, q ∉ lobby.players_) : Visible r (r.addLobby lobby).2 last := by
  refine .of_keys (h.addLobby hl hnone) fun l hl' => ?_
  rw [addLobby, if_neg hl]
  exact mem_insert.mpr (Or.inr hl')

lemma visible_joined (h : r.Filed) {lobby : Lobby} (hp : p ∉ r.player_to_lobby_)
    (hl : r.lobbies_.lookup l = some lobby) : Visible r (r.joined p l lobby) last :=
  .of_keys (h.joined hp hl) fun _ hl' => mem_insert.mpr (Or.inr hl')

lemma visible_removed {ord : IterOrder PlayerId} {lobby : Lobby}
    (hl : r.lobbies_.lookup l = some lobby) (h : Removed ord p l lobby r r') :
    Visible r r' fun lobby => (lobby.removePlayer ord p).2 := by
  refine ⟨h.filed, fun ptr hv => hv.after fun hs hnot => ?_⟩
  have stored := hv.stored hs
  rcases eq_or_ne ptr.lobby_id l with he | hne
  · rw [he] at stored hnot
    obtain rfl : lobby = ptr.lobby := Option.some.inj (hl.symm.trans stored)
    exact h.gone hnot
  · rw [← h.lobbies _ hne] at stored
    exact absurd (mem_of_lookup_eq_some stored) hnot

lemma visible_removeLobby (h : r.Filed) (ord : IterOrder PlayerId)
    (hnone : ∀ q, r.player_to_lobby_.lookup q ≠ some l) :
    Visible r (r.removeLobby ord l).2 id := by
  obtain ⟨filed, -, hl⟩ := h.removeLobby ord hnone
  refine ⟨filed, fun ptr hv => hv.after fun hs hnot p hp => ?_⟩
  have hp := ((hv.mem_iff h).mp hp).2
  rw [hl] at hnot
  refine hnot (mem_erase.mpr ⟨fun he => hnone p (he ▸ hp), ?_⟩)
  exact mem_of_lookup_eq_some (hv.stored hs)

/-! ### Who is away -/

/-- A lobby is held, and of the players `ps` those who are not in it are away; nobody who is in
it is away. -/
structure Tracked (r : LobbyRegistry) (away : Finset PlayerId) (ps : List PlayerId)
    (ptr : LobbyPtr) : Prop where
  valid : ptr.Valid r
  here : ∀ p ∈ ptr.lobby.players_, p ∉ away
  gone : ∀ p ∈ ps, p ∉ ptr.lobby.players_ → p ∈ away

lemma Tracked.after (h : Tracked r away ps ptr) (hv : Visible r r' last)
    (here : ∀ p, ptr.stored → r'.player_to_lobby_.lookup p = some ptr.lobby_id → p ∉ away')
    (gone : ∀ p ∈ ps', (ptr.stored → r'.player_to_lobby_.lookup p ≠ some ptr.lobby_id) →
      p ∈ away') : Tracked r' away' ps' (ptr.after r' last) := by
  refine ⟨hv.valid ptr h.valid, fun p hp => ?_, fun p hp hnot => gone p hp fun hs hin => hnot ?_⟩
  · obtain ⟨hs, hp⟩ := (hv.mem_iff h.valid).mp hp
    exact here p hs hp
  · exact (hv.mem_iff h.valid).mpr ⟨hs, hin⟩

lemma Tracked.notMem (h : Tracked r away ps ptr) (hr : r.Filed) (hs : ptr.stored)
    (hp : r.player_to_lobby_.lookup p = some ptr.lobby_id) : p ∉ away :=
  h.here p ((h.valid.mem_iff hr).mpr ⟨hs, hp⟩)

lemma Tracked.mem (h : Tracked r away ps ptr) (hr : r.Filed) (hp : p ∈ ps)
    (hnot : ptr.stored → r.player_to_lobby_.lookup p ≠ some ptr.lobby_id) : p ∈ away :=
  h.gone p hp fun hin => by
    obtain ⟨hs, hl⟩ := (h.valid.mem_iff hr).mp hin
    exact hnot hs hl

lemma Tracked.keep (h : Tracked r away ps ptr) (hr : r.Filed) (hv : Visible r r' last)
    (hmap : r'.player_to_lobby_ = r.player_to_lobby_) :
    Tracked r' away ps (ptr.after r' last) := by
  refine h.after hv (fun p hs hp => h.notMem hr hs ?_) fun p hp hnot => h.mem hr hp ?_
  · rwa [← hmap]
  · rwa [← hmap]

/-- A player joins the lobby, or another one. -/
lemma Tracked.join (h : Tracked r away ps ptr) (hr : r.Filed) (hv : Visible r r' last)
    (hp : p ∉ r.player_to_lobby_) (hmap : r'.player_to_lobby_ = r.player_to_lobby_.insert p l) :
    Tracked r' (if ptr.stored && ptr.lobby_id = l then away.erase p else away) ps
      (ptr.after r' last) := by
  simp only [Bool.and_eq_true, decide_eq_true_eq]
  refine h.after hv (fun q hs hq => ?_) fun q hq hnot => ?_
  · rw [hmap, lookup_insert_ite] at hq
    rcases eq_or_ne q p with rfl | hne
    · rw [if_pos rfl, Option.some.injEq] at hq
      rw [if_pos ⟨hs, hq.symm⟩]
      exact Finset.notMem_erase q away
    · rw [if_neg hne] at hq
      have := h.notMem hr hs hq
      split_ifs
      · exact fun hin => this (Finset.mem_of_mem_erase hin)
      · exact this
  · rw [hmap, lookup_insert_ite] at hnot
    rcases eq_or_ne q p with rfl | hne
    · rw [if_neg fun ⟨hs, hl⟩ => hnot hs (by rw [if_pos rfl, hl])]
      refine h.mem hr hq fun _ => ?_
      rw [lookup_eq_none.mpr hp]
      exact (nomatch ·)
    · rw [if_neg hne] at hnot
      have := h.mem hr hq hnot
      split_ifs
      · exact Finset.mem_erase.mpr ⟨hne, this⟩
      · exact this

/-- A player leaves the lobby, or another one. -/
lemma Tracked.leave (h : Tracked r away ps ptr) (hr : r.Filed) (hv : Visible r r' last)
    (hp : r.player_to_lobby_.lookup p = some l)
    (hmap : r'.player_to_lobby_ = r.player_to_lobby_.erase p) :
    Tracked r' (if ptr.stored && ptr.lobby_id = l then insert p away else away) ps
      (ptr.after r' last) := by
  simp only [Bool.and_eq_true, decide_eq_true_eq]
  refine h.after hv (fun q hs hq => ?_) fun q hq hnot => ?_
  · rw [hmap, lookup_erase_ite] at hq
    rcases eq_or_ne q p with rfl | hne
    · rw [if_pos rfl] at hq
      cases hq
    · rw [if_neg hne] at hq
      have := h.notMem hr hs hq
      split_ifs
      · exact fun hin => this (Finset.mem_of_mem_insert_of_ne hin hne)
      · exact this
  · rw [hmap, lookup_erase_ite] at hnot
    rcases eq_or_ne q p with rfl | hne
    · split_ifs with held
      · exact Finset.mem_insert_self q away
      · refine h.mem hr hq fun hs hin => held ⟨hs, ?_⟩
        exact (Option.some.inj (hp.symm.trans hin)).symm
    · rw [if_neg hne] at hnot
      have := h.mem hr hq hnot
      split_ifs
      · exact Finset.mem_insert_of_mem this
      · exact this

/-- The start itself removes a player, who is not watched any more. -/
lemma Tracked.dismiss (h : Tracked r away (p :: ps) ptr) (hr : r.Filed) (hv : Visible r r' last)
    (hp : p ∉ ps) (hmap : r'.player_to_lobby_ = r.player_to_lobby_.erase p) :
    Tracked r' away ps (ptr.after r' last) := by
  refine h.after hv (fun q hs hq => h.notMem hr hs ?_) fun q hq hnot => ?_
  · rw [hmap, lookup_erase_ite] at hq
    split_ifs at hq
    exact hq
  · have hne : q ≠ p := fun he => hp (he ▸ hq)
    rw [hmap, lookup_erase_ite, if_neg hne] at hnot
    exact h.mem hr (List.mem_cons_of_mem p hq) hnot

/-- All members that are read are in the lobby. -/
lemma Tracked.read (h : Tracked r away ps ptr) (ord : IterOrder PlayerId) :
    Tracked r away (ptr.lobby.getAllPlayers ord) ptr :=
  ⟨h.valid, h.here, fun _ hp hnot => absurd (Lobby.mem_getAllPlayers.mp hp) hnot⟩

/-! ### What is asked of a start -/

/-- Every player that the start removed is one of those it put into the dungeon, and each of
these is still to be removed or was a member of the lobby when it was removed. -/
structure Start.Whole (s : Start) : Prop where
  only_players : ∀ removal ∈ s.removals, removal.removed → removal.player ∈ s.players
  every_player : ∀ p ∈ s.players,
    p ∈ s.left ∨ ∃ removal ∈ s.removals, removal.player = p ∧ removal.member

/-- The player was told that it joined a lobby, and was not told since that it left. -/
def ToldJoined (p : PlayerId) (published : List Event) : Prop :=
  ∃ us vs, published = us ++ .joinLobbyResponse p :: vs ∧ .leaveLobbyResponse p ∉ vs

lemma toldJoined_snoc {published : List Event} {event : Event} :
    ToldJoined p (published ++ [event]) ↔
      event = .joinLobbyResponse p ∨
        (ToldJoined p published ∧ event ≠ .leaveLobbyResponse p) := by
  constructor
  · rintro ⟨us, vs, he, hvs⟩
    rcases List.eq_nil_or_concat vs with rfl | ⟨ws, last, rfl⟩
    · exact Or.inl (by simpa using (List.append_inj' he rfl).2)
    · rw [List.concat_eq_append, ← List.cons_append, ← List.append_assoc] at he
      obtain ⟨rfl, hlast⟩ := List.append_inj' he rfl
      obtain rfl : event = last := by simpa using hlast
      rw [List.concat_eq_append, List.mem_append, List.mem_singleton, not_or] at hvs
      exact Or.inr ⟨⟨us, ws, rfl, hvs.1⟩, fun he => hvs.2 he.symm⟩
  · rintro (rfl | ⟨⟨us, vs, rfl, hvs⟩, he⟩)
    · exact ⟨published, [], rfl, List.not_mem_nil⟩
    · refine ⟨us, vs ++ [event], by simp, fun hin => ?_⟩
      rcases List.mem_append.mp hin with hin | hin
      · exact hvs hin
      · exact he (List.mem_singleton.mp hin).symm

namespace Managers

/-- The starts that have begun to remove players. -/
def starts (m : Managers) : List Start :=
  match m.game with
  | .removePlayers _ start => m.returned ++ [start]
  | _ => m.returned

/-- What is asked of every state: the starts are whole, those that have returned have nobody
left to remove, and whoever was told that it joined a lobby, and has not left it, is in a lobby
or in a dungeon. -/
structure Kept (m : Managers) : Prop where
  whole : ∀ s ∈ m.starts, s.Whole
  nobody_left : ∀ s ∈ m.returned, s.left = []
  nobody_lost : ∀ p, ToldJoined p m.published →
    p ∈ m.lobby_registry_.player_to_lobby_ ∨ p ∈ m.dungeon_registry_.player_to_dungeon_

/-- The strand of the lobby manager does not disturb the next call of the start: when the
members are read a second time, none of the players of the dungeon is away from the lobby; and
when a player is removed it is not away, or, if it is no player of the dungeon, it is in no lobby
any more. -/
def Undisturbed (m : Managers) : Step → Prop
  | .game _ _ =>
    match m.game with
    | .getAllPlayersAgain _ players => ∀ p ∈ players, p ∉ m.away
    | .removePlayers _ ⟨players, pid :: _, _⟩ =>
      if pid ∈ players then pid ∉ m.away else pid ∉ m.lobby_registry_.player_to_lobby_
    | _ => True
  | _ => True

/-! ### The invariant -/

/-- The players whose presence in the lobby matters to the start. -/
def Starting.watched : Starting → List PlayerId
  | .addDungeon _ players | .getAllPlayersAgain _ players => players
  | .removePlayers _ start => start.left
  | _ => []

/-- The players of the new dungeon are in it, and those still to be removed were not removed
before. -/
def Settled (d : DungeonRegistry) : Starting → Prop
  | .getAllPlayersAgain _ players => ∀ p ∈ players, p ∈ d.player_to_dungeon_
  | .removePlayers _ start =>
    (∀ p ∈ start.players, p ∈ d.player_to_dungeon_) ∧ start.left.Nodup ∧
      ∀ removal ∈ start.removals, removal.player ∉ start.left
  | _ => True

/-- A new lobby is nobody's before its creator joins it, and a player whose lobby was not found
is in none. -/
def Handled (r : LobbyRegistry) : Handling → Prop
  | .addCreator _ newId | .removeLobby _ newId => ∀ q, r.player_to_lobby_.lookup q ≠ some newId
  | .findPlayerLobby p l => ∀ l', r.player_to_lobby_.lookup p = some l' → l' = l
  | .removeStale p => p ∉ r.player_to_lobby_
  | _ => True

structure Inv (m : Managers) : Prop where
  filed : m.lobby_registry_.Filed
  tracked : ∀ ptr, m.game.ptr = some ptr →
    Tracked m.lobby_registry_ m.away m.game.watched ptr
  settled : Settled m.dungeon_registry_ m.game
  handled : Handled m.lobby_registry_ m.lobby

variable {m : Managers} {cfg : Gameplay} {ord : IterOrder PlayerId}

lemma inv_init : Inv init := ⟨filed_empty, fun _ h => (nomatch h), trivial, trivial⟩

lemma kept_init : Kept init := by
  refine ⟨fun s hs => absurd hs List.not_mem_nil, fun s hs => absurd hs List.not_mem_nil, ?_⟩
  rintro p ⟨us, vs, he, -⟩
  simp [init] at he

/-! ### The lobby manager -/

@[simp] lemma Starting.ptr_map (f : LobbyPtr → LobbyPtr) (g : Starting) :
    (g.map f).ptr = g.ptr.map f := by
  cases g <;> rfl

@[simp] lemma Starting.watched_map (f : LobbyPtr → LobbyPtr) (g : Starting) :
    (g.map f).watched = g.watched := by
  cases g <;> rfl

lemma settled_map {d : DungeonRegistry} {f : LobbyPtr → LobbyPtr} {g : Starting}
    (h : Settled d g) : Settled d (g.map f) := by
  cases g <;> exact h

/-- A start that holds no lobby has nothing to keep. -/
lemma settled_of_ptr {d : DungeonRegistry} {g : Starting} (h : g.ptr = none) : Settled d g := by
  cases g with
  | getAllPlayersAgain ptr players => cases h
  | removePlayers ptr start => cases h
  | _ => exact trivial

/-- The start holds no lobby, and the lobbies are as they were. -/
lemma Inv.release (h : Inv m) {m' : Managers} (hr : m'.lobby_registry_ = m.lobby_registry_)
    (hl : m'.lobby = m.lobby) (hptr : m'.game.ptr = none) : Inv m' := by
  refine ⟨hr ▸ h.filed, fun ptr he => ?_, settled_of_ptr hptr, hr ▸ hl ▸ h.handled⟩
  cases hptr.symm.trans he

lemma starts_share (last : Lobby → Lobby) : (m.share r last).starts = m.starts := by
  unfold starts share
  cases m.game <;> rfl

/-- What the start under way sees of a call of the lobby manager. -/
structure Shared (m : Managers) (r : LobbyRegistry) (last : Lobby → Lobby)
    (away : Finset PlayerId) : Prop where
  visible : Visible m.lobby_registry_ r last
  tracked : ∀ ptr, m.game.ptr = some ptr → Tracked r away m.game.watched (ptr.after r last)

/-- A call of the lobby manager that changes the registry. -/
lemma Inv.change (h : Inv m) {handling : Handling} {published : List Event}
    (hs : Shared m r last away) (hhandled : Handled r handling)
    (htold : Kept m → ∀ p, ToldJoined p published →
      p ∈ r.player_to_lobby_ ∨ p ∈ m.dungeon_registry_.player_to_dungeon_) :
    let m' := { m.share r last with away, lobby := handling, published }
    Inv m' ∧ (Kept m → Kept m') := by
  refine ⟨⟨hs.visible.filed, fun ptr hptr => ?_, settled_map h.settled, hhandled⟩, fun hk =>
    ⟨?_, hk.nobody_left, htold hk⟩⟩
  · change (m.game.map _).ptr = some ptr at hptr
    show Tracked r away (m.game.map _).watched ptr
    rw [Starting.ptr_map, Option.map_eq_some_iff] at hptr
    obtain ⟨ptr, hptr, rfl⟩ := hptr
    rw [Starting.watched_map]
    exact hs.tracked ptr hptr
  · show ∀ s ∈ (m.share r last).starts, s.Whole
    rw [starts_share]
    exact hk.whole

/-- A call that only reads. -/
lemma Inv.read (h : Inv m) {handling : Handling} {published : List Event}
    (hhandled : Handled m.lobby_registry_ handling)
    (htold : ∀ p, ToldJoined p published → ToldJoined p m.published) :
    let m' := { m with lobby := handling, published }
    Inv m' ∧ (Kept m → Kept m') := by
  refine ⟨⟨h.filed, h.tracked, h.settled, hhandled⟩, fun hk => ⟨hk.whole, hk.nobody_left, ?_⟩⟩
  exact fun p hp => hk.nobody_lost p (htold p hp)

lemma Inv.shared_keep (h : Inv m) (hv : Visible m.lobby_registry_ r last)
    (hmap : r.player_to_lobby_ = m.lobby_registry_.player_to_lobby_) : Shared m r last m.away :=
  ⟨hv, fun ptr hptr => (h.tracked ptr hptr).keep h.filed hv hmap⟩

lemma Inv.shared_self (h : Inv m) : Shared m m.lobby_registry_ last m.away :=
  h.shared_keep (.of_keys h.filed fun _ => id) rfl

lemma holds_of_ptr (hptr : m.game.ptr = some ptr) :
    m.holds l = (ptr.stored && decide (ptr.lobby_id = l)) := by
  rw [holds, hptr]
  rfl

lemma addPlayerToLobby_cases (h : Inv m) (max : UInt16) (ord : IterOrder PlayerId)
    (p : PlayerId) (l : LobbyId) :
    (m.addPlayerToLobby max ord p l = (false, m.share m.lobby_registry_ id)) ∨
      ∃ r away, m.addPlayerToLobby max ord p l = (true, { m.share r id with away }) ∧
        Shared m r id away ∧
        r.player_to_lobby_ = m.lobby_registry_.player_to_lobby_.insert p l := by
  rcases h.filed.addPlayerToLobby_cases max ord p l with he | ⟨lobby, hp, hl, -, he⟩
  · left
    simp [addPlayerToLobby, he, share]
  · right
    have visible : Visible _ _ id := visible_joined h.filed hp hl
    refine ⟨_, if m.holds l then m.away.erase p else m.away, ?_, ⟨visible, fun ptr hptr => ?_⟩, rfl⟩
    · simp [addPlayerToLobby, he]
    · rw [holds_of_ptr hptr]
      exact (h.tracked ptr hptr).join h.filed visible hp rfl

lemma removePlayerFromLobby_cases (h : Inv m) (ord : IterOrder PlayerId) (p : PlayerId) :
    (p ∉ m.lobby_registry_.player_to_lobby_ ∧ ∃ last,
      m.removePlayerFromLobby ord p = (false, m.share m.lobby_registry_ last)) ∨
      p ∈ m.lobby_registry_.player_to_lobby_ ∧ ∃ r last away,
        m.removePlayerFromLobby ord p = (true, { m.share r last with away }) ∧
        Shared m r last away ∧
        r.player_to_lobby_ = m.lobby_registry_.player_to_lobby_.erase p := by
  rcases h.filed.removePlayerFromLobby_cases ord p with ⟨hp, he⟩ | ⟨l, lobby, r, hp, hl, he, hr⟩
  · refine Or.inl ⟨hp, fun lobby => (lobby.removePlayer ord p).2, ?_⟩
    simp [removePlayerFromLobby, he, share]
  · have visible := visible_removed hl hr
    refine Or.inr ⟨mem_of_lookup_eq_some hp, r, _, if m.holds l then insert p m.away else m.away,
      ?_, ⟨visible, fun ptr hptr => ?_⟩, hr.player_to_lobby⟩
    · simp [removePlayerFromLobby, he, getPlayerLobby, hp]
    · rw [holds_of_ptr hptr]
      exact (h.tracked ptr hptr).leave h.filed visible hp hr.player_to_lobby

def isJoin : Event → Bool
  | .joinLobbyResponse _ => true
  | _ => false

/-- An answer other than that a player joined tells nobody so. -/
lemma told_before {published : List Event} {event : Event} (he : isJoin event = false)
    (q : PlayerId) (hq : ToldJoined q (published ++ [event])) :
    ToldJoined q published ∧ event ≠ .leaveLobbyResponse q := by
  refine (toldJoined_snoc.mp hq).resolve_left fun hj => ?_
  rw [hj] at he
  cases he

/-- A call that is refused changes nothing. -/
lemma Inv.refused (h : Inv m) {event : Event} (he : isJoin event = false) :
    let m' := (m.share m.lobby_registry_ last).reply event
    Inv m' ∧ (Kept m → Kept m') :=
  h.change h.shared_self trivial fun hk q hq => hk.nobody_lost q (told_before he q hq).1

/-- A call that only reads, and answers. -/
lemma Inv.answered (h : Inv m) {event : Event} (he : isJoin event = false) :
    Inv (m.reply event) ∧ (Kept m → Kept (m.reply event)) :=
  h.read trivial fun q hq => (told_before he q hq).1

lemma lobbyCall_spec (h : Inv m) (max : UInt16) (ord : IterOrder PlayerId) :
    Inv (m.lobbyCall max ord) ∧ (Kept m → Kept (m.lobbyCall max ord)) := by
  have handled := h.handled
  cases hlobby : m.lobby <;> rw [hlobby] at handled <;> simp only [lobbyCall, hlobby]
  case idle => exact ⟨h, id⟩
  case isPlayerInLobby p =>
    split
    · exact h.answered rfl
    · exact h.read trivial fun _ => id
  case generateNextLobbyId p =>
    exact h.change (h.shared_keep (visible_generateNextLobbyId h.filed) rfl) trivial
      fun hk => hk.nobody_lost
  case addLobby p newId =>
    by_cases hnew : newId ∈ m.lobby_registry_.lobbies_
    · rw [addLobby, if_pos (show (Lobby.create newId p).id_ ∈ _ from hnew)]
      exact h.refused rfl
    · have empty : ∀ q, q ∉ (Lobby.create newId p).players_ := fun _ => notMem_empty
      have visible : Visible _ _ id := visible_addLobby h.filed (Lobby.create newId p) hnew empty
      rw [addLobby, if_neg (show (Lobby.create newId p).id_ ∉ _ from hnew)] at visible ⊢
      refine h.change (h.shared_keep visible rfl) (fun q hq => ?_) fun hk => hk.nobody_lost
      obtain ⟨lobby, -, hl, -⟩ := h.filed.lobby_of_member hq
      exact hnew (mem_of_lookup_eq_some hl)
  case addCreator p newId =>
    rcases addPlayerToLobby_cases h max ord p newId with he | ⟨r, away, he, hs, hmap⟩ <;> rw [he]
    · exact h.change h.shared_self handled fun hk => hk.nobody_lost
    · refine h.change hs trivial fun hk q hq => ?_
      show q ∈ r.player_to_lobby_ ∨ _
      rw [hmap, mem_insert]
      exact (hk.nobody_lost q (told_before rfl q hq).1).imp_left Or.inr
  case removeLobby p newId =>
    obtain ⟨-, hmap, -⟩ := h.filed.removeLobby ord handled
    refine h.change (h.shared_keep (visible_removeLobby h.filed ord handled) hmap) trivial
      fun hk q hq => ?_
    rw [hmap]
    exact hk.nobody_lost q (told_before rfl q hq).1
  case findLobby p l =>
    split
    · exact h.answered rfl
    · exact h.read trivial fun _ => id
  case isFull p ptr =>
    split_ifs
    · exact h.answered rfl
    · exact h.read trivial fun _ => id
  case addPlayerToLobby p l =>
    rcases addPlayerToLobby_cases h max ord p l with he | ⟨r, away, he, hs, hmap⟩ <;> rw [he]
    · exact h.refused rfl
    · refine h.change hs trivial fun hk q hq => ?_
      show q ∈ r.player_to_lobby_ ∨ _
      rw [hmap, mem_insert]
      rcases toldJoined_snoc.mp hq with he | ⟨hq, -⟩
      · cases he
        exact Or.inl (Or.inl rfl)
      · exact (hk.nobody_lost q hq).imp_left Or.inr
  case getPlayerLobby p =>
    split
    · exact h.answered rfl
    · rename_i l hp
      refine h.read (fun l' hl' => ?_) fun _ => id
      exact Option.some.inj (hl'.symm.trans hp)
  case findPlayerLobby p l =>
    split
    · rename_i hl
      refine h.read (fun hp => ?_) fun _ => id
      obtain ⟨l', hl'⟩ := Finmap.mem_iff.mp hp
      obtain ⟨lobby, -, hlobby, -⟩ := h.filed.lobby_of_member hl'
      rw [handled l' hl'] at hlobby
      cases hl.symm.trans hlobby
    · exact h.read trivial fun _ => id
  case removeStale p =>
    rcases removePlayerFromLobby_cases h ord p with ⟨-, last, he⟩ | ⟨hp, -⟩
    · rw [he]
      exact h.refused rfl
    · exact absurd hp handled
  case removePlayerFromLobby p =>
    rcases removePlayerFromLobby_cases h ord p with
      ⟨-, last, he⟩ | ⟨-, r, last, away, he, hs, hmap⟩ <;> rw [he]
    · exact h.refused rfl
    · refine h.change hs trivial fun hk q hq => ?_
      obtain ⟨hq, hne⟩ := told_before rfl q hq
      show q ∈ r.player_to_lobby_ ∨ _
      rw [hmap, mem_erase]
      exact (hk.nobody_lost q hq).imp_left fun hq => ⟨fun he => hne (he ▸ rfl), hq⟩

/-! ### The game manager -/

/-- The start takes a player out of the lobby that the player is in, if any. -/
lemma removePlayer_spec (h : r.Filed) (ord : IterOrder PlayerId) (p : PlayerId) :
    Visible r (r.removePlayerFromLobby ord p).2 (fun lobby => (lobby.removePlayer ord p).2) ∧
      (r.removePlayerFromLobby ord p).2.player_to_lobby_ = r.player_to_lobby_.erase p ∧
      ((r.removePlayerFromLobby ord p).1 = true ↔ p ∈ r.player_to_lobby_) := by
  rcases h.removePlayerFromLobby_cases ord p with ⟨hp, he⟩ | ⟨l, lobby, r', hp, hl, he, hr⟩ <;>
    rw [he]
  · exact ⟨.of_keys h fun _ => id, (erase_of_notMem hp).symm, iff_of_false (nomatch ·) hp⟩
  · exact ⟨visible_removed hl hr, hr.player_to_lobby,
      iff_of_true rfl (mem_of_lookup_eq_some hp)⟩

lemma handled_erase {handling : Handling} {f : LobbyPtr → LobbyPtr} (h : Handled r handling)
    (hmap : r'.player_to_lobby_ = r.player_to_lobby_.erase p) : Handled r' (handling.map f) := by
  have mono {q : PlayerId} {l : LobbyId} (hq : r'.player_to_lobby_.lookup q = some l) :
      r.player_to_lobby_.lookup q = some l := by
    rw [hmap, lookup_erase_ite] at hq
    split_ifs at hq
    exact hq
  cases handling with
  | addCreator q newId => exact fun q' hq' => h q' (mono hq')
  | removeLobby q newId => exact fun q' hq' => h q' (mono hq')
  | findPlayerLobby q l => exact fun l' hl' => h l' (mono hl')
  | removeStale q =>
    intro hq
    obtain ⟨l, hl⟩ := Finmap.mem_iff.mp hq
    exact h (mem_of_lookup_eq_some (mono hl))
  | _ => trivial

variable {pos_gen : PositionGenerator} {players left : List PlayerId} {pid : PlayerId}
variable {removals : List Removal}

lemma Inv.gameCall (h : Inv m) : Inv (m.gameCall cfg ord pos_gen) := by
  have tracked := h.tracked
  have settled := h.settled
  cases hgame : m.game with
  | idle =>
    simp only [Managers.gameCall, hgame]
    exact h
  | getPlayerLobby p =>
    simp only [Managers.gameCall, hgame]
    split <;> exact h.release rfl rfl rfl
  | findLobby l =>
    simp only [Managers.gameCall, hgame]
    split
    · exact h.release rfl rfl rfl
    · rename_i lobby hl
      refine ⟨h.filed, fun ptr hptr => ?_, trivial, h.handled⟩
      obtain rfl := Option.some.inj hptr
      exact ⟨LobbyPtr.valid_of_lookup hl, fun _ _ => Finset.notMem_empty _,
        fun _ hp => absurd hp List.not_mem_nil⟩
  | getAllPlayers ptr =>
    rw [hgame] at tracked
    simp only [Managers.gameCall, hgame]
    refine ⟨h.filed, fun ptr' hptr => ?_, trivial, h.handled⟩
    obtain rfl := Option.some.inj hptr
    exact (tracked ptr rfl).read ord
  | addDungeon ptr players =>
    rw [hgame] at tracked
    simp only [Managers.gameCall, hgame]
    rcases DungeonRegistry.addDungeon_cases cfg m.dungeon_registry_ (.ofCfg cfg) players pos_gen
      with ⟨-, he⟩ | ⟨-, -, he⟩ | ⟨ha, -, he⟩ <;> rw [he]
    · exact h.release rfl rfl rfl
    · exact h.release rfl rfl rfl
    · exact ⟨h.filed, tracked, fun p hp => ha.mem_added.mpr (Or.inl hp), h.handled⟩
  | getAllPlayersAgain ptr players =>
    rw [hgame] at tracked settled
    simp only [Managers.gameCall, hgame]
    refine ⟨h.filed, fun ptr' hptr => ?_, ⟨settled, ord.nodup_list _, ?_⟩, h.handled⟩
    · obtain rfl := Option.some.inj hptr
      exact (tracked ptr rfl).read ord
    · exact fun _ hr => absurd hr List.not_mem_nil
  | removePlayers ptr start =>
    obtain ⟨players, _ | ⟨pid, left⟩, removals⟩ := start
    · simp only [Managers.gameCall, hgame]
      exact h.release rfl rfl rfl
    · rw [hgame] at tracked settled
      rw [gameCall_remove hgame]
      obtain ⟨visible, hmap, -⟩ := removePlayer_spec h.filed ord pid
      obtain ⟨hplayers, hnodup, hremoved⟩ := settled
      obtain ⟨hpid, hleft⟩ := List.nodup_cons.mp hnodup
      refine ⟨visible.filed, fun ptr' hptr => ?_, ⟨hplayers, hleft, fun removal hr => ?_⟩,
        handled_erase h.handled hmap⟩
      · obtain rfl := Option.some.inj hptr
        exact (tracked ptr rfl).dismiss h.filed visible hpid hmap
      · rcases List.mem_append.mp hr with hr | hr
        · exact fun hin => hremoved removal hr (List.mem_cons_of_mem pid hin)
        · obtain rfl := List.mem_singleton.mp hr
          exact hpid

/-- The second reading finds all players of the dungeon where none of them is away. -/
lemma whole_read (h : Tracked r away players ptr) :
    Start.Whole ⟨players, ptr.lobby.getAllPlayers ord, []⟩ ↔ ∀ p ∈ players, p ∉ away := by
  constructor
  · intro hw p hp
    rcases hw.every_player p hp with hin | ⟨removal, hr, -⟩
    · exact h.here p (Lobby.mem_getAllPlayers.mp hin)
    · exact absurd hr List.not_mem_nil
  · refine fun hall => ⟨fun _ hr => absurd hr List.not_mem_nil, fun p hp => Or.inl ?_⟩
    rw [Lobby.mem_getAllPlayers]
    by_contra hnot
    exact hall p hp (h.gone p hp hnot)

/-- The removal of a player keeps the start whole where the player is not away, or is none of
the dungeon and was not removed. -/
lemma whole_remove (removed : Bool) (h : Tracked r away (pid :: left) ptr)
    (hw : Start.Whole ⟨players, pid :: left, removals⟩) (hpid : pid ∉ left)
    (hbefore : ∀ removal ∈ removals, removal.player ∉ pid :: left) :
    Start.Whole ⟨players, left, removals ++ [⟨pid, ptr.lobby.containsPlayer pid, removed⟩]⟩ ↔
      if pid ∈ players then pid ∉ away else removed = false := by
  have member : ptr.lobby.containsPlayer pid = true ↔ pid ∉ away := by
    rw [Lobby.containsPlayer, decide_eq_true_eq]
    exact ⟨h.here pid, fun ha => by_contra fun hnot => ha (h.gone pid List.mem_cons_self hnot)⟩
  constructor
  · intro hw'
    split_ifs with hp
    · rcases hw'.every_player pid hp with hin | ⟨removal, hr, rfl, hm⟩
      · exact absurd hin hpid
      · rcases List.mem_append.mp hr with hr | hr
        · exact absurd List.mem_cons_self (hbefore removal hr)
        · rw [List.mem_singleton.mp hr] at hm
          exact member.mp hm
    · refine Bool.eq_false_iff.mpr fun hr => hp ?_
      exact hw'.only_players _ (List.mem_append_right _ List.mem_cons_self) hr
  · intro hc
    refine ⟨fun removal hr hremoved => ?_, fun p hp => ?_⟩
    · rcases List.mem_append.mp hr with hr | hr
      · exact hw.only_players removal hr hremoved
      · obtain rfl := List.mem_singleton.mp hr
        by_contra hp
        rw [if_neg hp] at hc
        exact absurd (hremoved.symm.trans hc) (by decide)
    · rcases hw.every_player p hp with hin | ⟨removal, hr, he, hm⟩
      · rcases List.mem_cons.mp hin with rfl | hin
        · rw [if_pos hp] at hc
          exact Or.inr ⟨_, List.mem_append_right _ List.mem_cons_self, rfl, member.mpr hc⟩
        · exact Or.inl hin
      · exact Or.inr ⟨removal, List.mem_append_left _ hr, he, hm⟩

/-- Removing a player keeps what is asked exactly where it keeps the start whole: who is removed
and was told that it joined is in the dungeon. -/
lemma kept_remove (h : Inv m) (hk : Kept m)
    (hgame : m.game = .removePlayers ptr ⟨players, pid :: left, removals⟩) :
    Kept (m.gameCall cfg ord pos_gen) ↔ Undisturbed m (.game ord pos_gen) := by
  have tracked : Tracked m.lobby_registry_ m.away (pid :: left) ptr := by
    have := h.tracked ptr (by rw [hgame]; rfl)
    rwa [hgame] at this
  have settled := h.settled
  have whole := hk.whole
  simp only [hgame, starts, Settled, gameCall_remove hgame, Undisturbed] at settled whole ⊢
  obtain ⟨hplayers, hnodup, hbefore⟩ := settled
  obtain ⟨-, hmap, hremoved⟩ := removePlayer_spec h.filed ord pid
  have hiff := whole_remove (m.lobby_registry_.removePlayerFromLobby ord pid).1 tracked
    (whole _ (List.mem_append_right _ List.mem_cons_self)) (List.nodup_cons.mp hnodup).1 hbefore
  rw [Bool.eq_false_iff, ne_eq, hremoved] at hiff
  rw [← hiff]
  refine ⟨fun hk' => hk'.whole _ (List.mem_append_right _ List.mem_cons_self), fun hw =>
    ⟨fun s hs => ?_, hk.nobody_left, fun p hp => ?_⟩⟩
  · rcases List.mem_append.mp hs with hs | hs
    · exact whole s (List.mem_append_left _ hs)
    · rwa [List.mem_singleton.mp hs]
  · show p ∈ (m.lobby_registry_.removePlayerFromLobby ord pid).2.player_to_lobby_ ∨ _
    rw [hmap, mem_erase]
    rcases hk.nobody_lost p hp with hin | hin
    · rcases eq_or_ne p pid with rfl | hne
      · by_cases hpl : p ∈ players
        · exact Or.inr (hplayers p hpl)
        · rw [if_neg hpl] at hiff
          exact absurd hin (hiff.mp hw)
      · exact Or.inl ⟨hne, hin⟩
    · exact Or.inr hin

lemma kept_gameCall (h : Inv m) (hk : Kept m) :
    Kept (m.gameCall cfg ord pos_gen) ↔ Undisturbed m (.game ord pos_gen) := by
  have tracked := h.tracked
  have whole := hk.whole
  cases hgame : m.game with
  | idle =>
    simp only [Managers.gameCall, Undisturbed, hgame]
    exact iff_of_true hk trivial
  | getPlayerLobby p =>
    simp only [Managers.gameCall, Undisturbed, starts, hgame] at whole ⊢
    refine iff_of_true ?_ trivial
    split <;> exact ⟨whole, hk.nobody_left, hk.nobody_lost⟩
  | findLobby l =>
    simp only [Managers.gameCall, Undisturbed, starts, hgame] at whole ⊢
    refine iff_of_true ?_ trivial
    split <;> exact ⟨whole, hk.nobody_left, hk.nobody_lost⟩
  | getAllPlayers ptr =>
    simp only [Managers.gameCall, Undisturbed, starts, hgame] at whole ⊢
    exact iff_of_true ⟨whole, hk.nobody_left, hk.nobody_lost⟩ trivial
  | addDungeon ptr players =>
    simp only [Managers.gameCall, Undisturbed, starts, hgame] at whole ⊢
    refine iff_of_true ?_ trivial
    rcases DungeonRegistry.addDungeon_cases cfg m.dungeon_registry_ (.ofCfg cfg) players pos_gen
      with ⟨-, he⟩ | ⟨-, -, he⟩ | ⟨ha, -, he⟩ <;> rw [he]
    · exact ⟨whole, hk.nobody_left, hk.nobody_lost⟩
    · exact ⟨whole, hk.nobody_left, hk.nobody_lost⟩
    · refine ⟨whole, hk.nobody_left, fun p hp => ?_⟩
      exact (hk.nobody_lost p hp).imp_right fun hp => ha.mem_added.mpr (Or.inr hp)
  | getAllPlayersAgain ptr players =>
    rw [hgame] at tracked
    simp only [Managers.gameCall, Undisturbed, starts, hgame] at whole ⊢
    have ht : Tracked m.lobby_registry_ m.away players ptr := tracked ptr rfl
    rw [← whole_read ht]
    refine ⟨fun hk' => hk'.whole _ (List.mem_append_right _ List.mem_cons_self), fun hw =>
      ⟨fun s hs => ?_, hk.nobody_left, hk.nobody_lost⟩⟩
    rcases List.mem_append.mp hs with hs | hs
    · exact whole s hs
    · rwa [List.mem_singleton.mp hs]
  | removePlayers ptr start =>
    obtain ⟨players, _ | ⟨pid, left⟩, removals⟩ := start
    · simp only [Managers.gameCall, Undisturbed, starts, hgame] at whole ⊢
      refine iff_of_true ⟨whole, fun s hs => ?_, hk.nobody_lost⟩ trivial
      rcases List.mem_append.mp hs with hs | hs
      · exact hk.nobody_left s hs
      · rw [List.mem_singleton.mp hs]
    · exact kept_remove h hk hgame

/-! ### Runs -/

lemma inv_handle (h : Inv m) (handling : Handling) (hh : Handled m.lobby_registry_ handling) :
    Inv (m.handle handling) ∧ (Kept m → Kept (m.handle handling)) := by
  unfold handle
  split
  · exact h.read hh fun _ => id
  · exact ⟨h, id⟩

lemma inv_startGame (h : Inv m) (p : PlayerId) :
    Inv (step cfg m (.startGame p)) ∧ (Kept m → Kept (step cfg m (.startGame p))) := by
  unfold step
  dsimp only
  split
  · rename_i hgame
    refine ⟨h.release rfl rfl rfl, fun hk => ⟨?_, hk.nobody_left, hk.nobody_lost⟩⟩
    have whole := hk.whole
    simp only [starts, hgame] at whole
    exact whole
  · exact ⟨h, id⟩

lemma inv_step (m : Managers) (e : Step) (h : Inv m) : Inv (step cfg m e) := by
  cases e with
  | startGame p => exact (inv_startGame h p).1
  | create p => exact (inv_handle h (.isPlayerInLobby p) trivial).1
  | join p l => exact (inv_handle h (.findLobby p l) trivial).1
  | leave p => exact (inv_handle h (.getPlayerLobby p) trivial).1
  | game ord pos_gen => exact h.gameCall
  | lobby ord => exact (lobbyCall_spec h cfg.lobby_max_players ord).1

lemma kept_step (m : Managers) (e : Step) (h : Inv m) (hk : Kept m) :
    Kept (step cfg m e) ↔ Undisturbed m e := by
  cases e with
  | startGame p => exact iff_of_true ((inv_startGame h p).2 hk) trivial
  | create p => exact iff_of_true ((inv_handle h (.isPlayerInLobby p) trivial).2 hk) trivial
  | join p l => exact iff_of_true ((inv_handle h (.findLobby p l) trivial).2 hk) trivial
  | leave p => exact iff_of_true ((inv_handle h (.getPlayerLobby p) trivial).2 hk) trivial
  | game ord pos_gen => exact kept_gameCall h hk
  | lobby ord => exact iff_of_true ((lobbyCall_spec h cfg.lobby_max_players ord).2 hk) trivial

/-- **Who is moved when a game starts.** Along a run of the two strands the players removed are
those of the dungeon, each a member still, and nobody who joined is lost, exactly when the
lobby manager does not disturb the calls of the starts. -/
theorem always_kept_iff (cfg : Gameplay) (steps : List Step) :
    Always (step cfg) Kept init steps ↔ Along (step cfg) Undisturbed init steps :=
  always_iff_along_of_inv inv_step inv_init kept_step kept_init steps

/-- The first player opens a lobby and starts a game; the second one joins the lobby between
the two readings. -/
def joinsBetween : List Step :=
  let lobby := Step.lobby byNumber
  let game := Step.game byNumber ⟨fun _ => ⟨0, 0⟩, 0⟩
  [.create ⟨1⟩, lobby, lobby, lobby, lobby, .startGame ⟨1⟩, game, game, game,
    .join ⟨2⟩ ⟨1⟩, lobby, lobby, lobby, game, game, game, game]

/-- The second player was told that it joined, and is in neither a lobby nor a dungeon. -/
theorem joined_player_lost :
    ¬ ∀ (cfg : Gameplay) (steps : List Step), Always (step cfg) Kept init steps := by
  intro h
  have told : ToldJoined ⟨2⟩ (run (step .default) init joinsBetween).published :=
    ⟨[.lobbyCreatedResponse ⟨1⟩ ⟨1⟩], [], by decide +kernel, List.not_mem_nil⟩
  rcases (h .default joinsBetween).last.nobody_lost ⟨2⟩ told with hin | hin
  · exact absurd hin (by decide +kernel)
  · exact absurd hin (by decide +kernel)

end Managers

end DungeonCrawler
