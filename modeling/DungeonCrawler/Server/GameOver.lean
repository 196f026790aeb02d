import DungeonCrawler.Server.GameTick

/-!
Over whole runs of the handlers, how often the event that a game is over is posted for a player.

A player is in a game as long as an entity of the player stands in its dungeon. The games that the
player is in, and those that are over by an event for the player, are all the games that began
with the player in them.
-/

namespace DungeonCrawler

namespace Games

open Finmap Runs GameManager

/-- The games that the player is in. -/
def gamesOf (p : PlayerId) (d : DungeonRegistry) : Finset GameId :=
  d.dungeons_.keys.filter fun g => (d.findDungeon g).any (p ∈ ·.players_.entities_)

/-- The games that an input begins with the player in them. -/
def begun (cfg : Gameplay) (p : PlayerId) (w : Lobbies) (i : Input) : Finset GameId :=
  gamesOf p (step cfg w i).dungeon_registry_ \ w.dungeon_registry_.dungeons_.keys

/-- How often a game was posted to be over for the player. -/
def gameOvers (p : PlayerId) (w : Lobbies) : ℕ := w.published.count (.gameOver p)

variable {cfg : Gameplay} {w : Lobbies} {d d' : DungeonRegistry} {p : PlayerId} {g : GameId}
variable {outcomes : GameId → TickOutcomes} {i : Input}

lemma mem_gamesOf : g ∈ gamesOf p d ↔
    ∃ dungeon, d.findDungeon g = some dungeon ∧ p ∈ dungeon.players_.entities_ := by
  simp only [gamesOf, Finset.mem_filter, mem_keys, Option.any_eq_true, decide_eq_true_eq]
  refine and_iff_right_of_imp ?_
  rintro ⟨dungeon, hg, -⟩
  exact mem_of_lookup_eq_some hg

/-- A player is in one game at most. -/
lemma gamesOf_eq (h : Housed d) (hg : g ∈ gamesOf p d) : gamesOf p d = {g} := by
  have recorded {g : GameId} (hg : g ∈ gamesOf p d) : d.findPlayerDungeon p = some g := by
    obtain ⟨dungeon, hd, hp⟩ := mem_gamesOf.mp hg
    exact h.recorded g dungeon hd p hp
  refine Finset.eq_singleton_iff_unique_mem.mpr ⟨hg, fun g' hg' => ?_⟩
  exact Option.some.inj ((recorded hg').symm.trans (recorded hg))

/-- Where no dungeon is new none began. -/
lemma begun_eq_empty (h : ∀ g, w.dungeon_registry_.findDungeon g = none →
    (step cfg w i).dungeon_registry_.findDungeon g = none) : begun cfg p w i = ∅ := by
  refine Finset.sdiff_eq_empty_iff_subset.mpr fun g hg => ?_
  obtain ⟨dungeon, hd, -⟩ := mem_gamesOf.mp hg
  by_contra hnone
  rw [mem_keys] at hnone
  rw [h g (lookup_eq_none.mpr hnone)] at hd
  cases hd

/-! ### What one input does -/

/-- Where every dungeon stays as it was, the games of the player are those of before and those
that began. -/
lemma card_gamesOf (h : ∀ g dungeon, w.dungeon_registry_.findDungeon g = some dungeon →
    (step cfg w i).dungeon_registry_.findDungeon g = some dungeon) :
    (gamesOf p (step cfg w i).dungeon_registry_).card =
      (gamesOf p w.dungeon_registry_).card + (begun cfg p w i).card := by
  have hold : gamesOf p (step cfg w i).dungeon_registry_ ∩ w.dungeon_registry_.dungeons_.keys =
      gamesOf p w.dungeon_registry_ := by
    ext g
    rw [Finset.mem_inter, mem_keys, mem_gamesOf, mem_gamesOf]
    constructor
    · rintro ⟨⟨dungeon, hd, hp⟩, hg⟩
      obtain ⟨dungeon', hd'⟩ := mem_iff.mp hg
      obtain rfl := Option.some.inj ((h g dungeon' hd').symm.trans hd)
      exact ⟨dungeon', hd', hp⟩
    · rintro ⟨dungeon, hd, hp⟩
      exact ⟨⟨dungeon, h g dungeon hd, hp⟩, mem_of_lookup_eq_some hd⟩
  rw [← hold, begun, Finset.card_inter_add_card_sdiff]

/-- A start leaves the dungeons that are there. -/
lemma stays_onStartGameRequestEvent (ord : IterOrder PlayerId) (pos_gen : PositionGenerator)
    (r : LobbyRegistry) (q : PlayerId) {dungeon : Dungeon} (hg : d.findDungeon g = some dungeon) :
    (GameManager.onStartGameRequestEvent cfg ord pos_gen r d q).2.findDungeon g =
      some dungeon := by
  rcases onStartGameRequestEvent_dungeons cfg ord pos_gen r d q with he | ⟨players, he⟩
  · rwa [he]
  · rw [he]
    rcases DungeonRegistry.addDungeon_cases cfg d (.ofCfg cfg) players pos_gen with
      ⟨-, he⟩ | ⟨-, -, he⟩ | ⟨-, hid, he⟩ <;> rw [he]
    · exact hg
    · exact hg
    · have hne : g ≠ d.next_game_id_ := by
        rintro rfl
        exact hid (mem_of_lookup_eq_some hg)
      rw [DungeonRegistry.findDungeon, DungeonRegistry.added, lookup_insert_of_ne _ hne]
      exact hg

/-- What is published for a request tells nobody that a game is over. -/
lemma gameOvers_request (j : Lobbies.Input) :
    gameOvers p (step cfg w (.request j)) = gameOvers p w := by
  have hnone : .gameOver p ∉ (w.handle cfg j).1 := by
    intro hm
    obtain ⟨q, hq, -⟩ := Lobbies.answer_of_handle cfg w j _ hm
    cases hq
  show (w.published ++ (w.handle cfg j).1).count _ = _
  rw [List.count_append, List.count_eq_zero.mpr hnone]
  rfl

lemma stays_request (j : Lobbies.Input) (g : GameId) (dungeon : Dungeon)
    (hg : w.dungeon_registry_.findDungeon g = some dungeon) :
    (step cfg w (.request j)).dungeon_registry_.findDungeon g = some dungeon := by
  obtain ⟨request, playerOrder, lobbyOrder, pos_gen⟩ := j
  cases request with
  | startGameRequest q => exact stays_onStartGameRequestEvent playerOrder pos_gen _ q hg
  | _ => exact hg

/-- A command changes nobody's games. -/
lemma gamesOf_commandDungeon (d : DungeonRegistry) (q : PlayerId) (c : Dungeon.Call) :
    gamesOf p (GameManager.commandDungeon d q (·.step cfg c)) = gamesOf p d := by
  unfold GameManager.commandDungeon
  split
  · rfl
  · rename_i g₁ _
    split
    · rfl
    · rename_i dungeon hd
      ext g
      rw [mem_gamesOf, mem_gamesOf, DungeonRegistry.findDungeon, DungeonRegistry.withDungeon,
        lookup_insert_ite]
      split_ifs with hg
      · rw [hg, hd]
        simp [mem_step]
      · rfl

/-- After a tick the player is still in the game, or one event for the player says that it is
over. -/
lemma card_gameTick (h : Housed d) (ord : IterOrder GameId) :
    (onGameTickEvent cfg ord outcomes d).1.count (.gameOver p) +
      (gamesOf p (onGameTickEvent cfg ord outcomes d).2).card = (gamesOf p d).card := by
  have swept := h.onGameTickEvent cfg ord outcomes
  -- the player is in no game after the tick that the player was not in before
  have hsub : gamesOf p (onGameTickEvent cfg ord outcomes d).2 ⊆ gamesOf p d := by
    intro g hg
    obtain ⟨dungeon', hd', hp⟩ := mem_gamesOf.mp hg
    cases hd : d.findDungeon g with
    | none =>
      rw [(swept.no_others g hd).1] at hd'
      cases hd'
    | some dungeon =>
      have ha := (swept.registered_iff g dungeon hd).mp (by rw [hd']; rfl)
      obtain rfl := Option.some.inj ((swept.goesOn g dungeon hd ha).registered.symm.trans hd')
      exact mem_gamesOf.mpr ⟨dungeon, hd, Dungeon.mem_processTick.mp hp⟩
  rcases (gamesOf p d).eq_empty_or_nonempty with hnone | ⟨g, hg⟩
  · have hquiet : .gameOver p ∉ (onGameTickEvent cfg ord outcomes d).1 := by
      intro hm
      obtain ⟨g, dungeon, hd, -, hp⟩ := swept.told_only p hm
      have hp := Dungeon.mem_processTick.mp hp
      exact Finset.notMem_empty g (hnone ▸ mem_gamesOf.mpr ⟨dungeon, hd, hp⟩)
    rw [hnone] at hsub ⊢
    rw [List.count_eq_zero.mpr hquiet, Finset.subset_empty.mp hsub]
    rfl
  · obtain ⟨dungeon, hd, hp⟩ := mem_gamesOf.mp hg
    rw [gamesOf_eq h hg] at hsub ⊢
    have hplayer : p ∈ (ticked cfg outcomes g dungeon).players_.entities_ :=
      Dungeon.mem_processTick.mpr hp
    by_cases ha : (ticked cfg outcomes g dungeon).SomeoneAlive
    · have goesOn := swept.goesOn g dungeon hd ha
      have hin : g ∈ gamesOf p (onGameTickEvent cfg ord outcomes d).2 :=
        mem_gamesOf.mpr ⟨_, goesOn.registered, hplayer⟩
      rw [List.count_eq_zero.mpr (goesOn.quiet p hplayer),
        hsub.antisymm (Finset.singleton_subset_iff.mpr hin), Nat.zero_add]
    · have ended := swept.ended g dungeon hd ha
      have hout : gamesOf p (onGameTickEvent cfg ord outcomes d).2 = ∅ := by
        refine Finset.eq_empty_of_forall_notMem fun g' hg' => ?_
        obtain ⟨dungeon', hd', -⟩ := mem_gamesOf.mp hg'
        rw [Finset.mem_singleton.mp (hsub hg'), ended.removed] at hd'
        cases hd'
      rw [ended.told p hplayer, hout]
      rfl

/-! ### The account -/

/-- The games that were posted to be over for the player, and those the player is in. -/
def account (p : PlayerId) (w : Lobbies) : ℕ :=
  gameOvers p w + (gamesOf p w.dungeon_registry_).card

/-- A command neither ends nor begins a game. -/
lemma account_command {q : PlayerId} {c : Dungeon.Call}
    (hd : (step cfg w i).dungeon_registry_ =
      GameManager.commandDungeon w.dungeon_registry_ q (·.step cfg c))
    (hp : (step cfg w i).published = w.published) :
    account p (step cfg w i) = account p w + (begun cfg p w i).card := by
  have hgames : gamesOf p (step cfg w i).dungeon_registry_ = gamesOf p w.dungeon_registry_ := by
    rw [hd, gamesOf_commandDungeon]
  have hbegun : begun cfg p w i = ∅ := by
    rw [begun, hgames]
    exact Finset.sdiff_eq_empty_iff_subset.mpr (Finset.filter_subset ..)
  rw [hbegun, Finset.card_empty, Nat.add_zero, account, account, gameOvers, gameOvers, hp, hgames]

lemma account_step (h : Housed w.dungeon_registry_) (i : Input) :
    account p (step cfg w i) = account p w + (begun cfg p w i).card := by
  cases i with
  | request j =>
    rw [account, gameOvers_request, card_gamesOf (stays_request j), ← Nat.add_assoc, account]
  | gameTick ord outcomes =>
    have hnone : begun cfg p w (.gameTick ord outcomes) = ∅ := begun_eq_empty fun g hg =>
      ((h.onGameTickEvent cfg ord outcomes).no_others g hg).1
    rw [hnone, Finset.card_empty, Nat.add_zero, account, account,
      ← card_gameTick h ord]
    show (w.published ++ _).count _ + _ = _
    rw [List.count_append, Nat.add_assoc]
    rfl
  | moveRequest q direction =>
    exact account_command (c := .addMovePlayerCommand q direction) rfl rfl
  | attackRequest q =>
    exact account_command (c := .addPlayerAttackCommand q cfg.player_default_attack) rfl rfl

lemma housed_step (h : Housed w.dungeon_registry_) (i : Input) :
    Housed (step cfg w i).dungeon_registry_ := by
  obtain ⟨calls, hcalls⟩ := exists_calls_step cfg w i
  rw [hcalls]
  exact run_inv (fun _ c h => h.step c) h calls

/-- **Every game is over once.** In every run of requests, ticks and commands, a player is in one
game at most, and the event that a game is over was posted for the player exactly as often as games
began with the player in them, but for the one the player is in. -/
theorem told_once_for_each_game (cfg : Gameplay) (inputs : List Input) (p : PlayerId) :
    let w := run (step cfg) Lobbies.init inputs
    (gamesOf p w.dungeon_registry_).card ≤ 1 ∧
      gameOvers p w + (gamesOf p w.dungeon_registry_).card =
        total (step cfg) (fun w i => (begun cfg p w i).card) Lobbies.init inputs := by
  have housed : Housed Lobbies.init.dungeon_registry_ :=
    ⟨DungeonRegistry.sound_empty, fun _ _ hg => nomatch hg⟩
  refine ⟨?_, ?_⟩
  · have hw : Housed (run (step cfg) Lobbies.init inputs).dungeon_registry_ :=
      run_inv (I := fun w : Lobbies => Housed w.dungeon_registry_)
        (fun _ i h => housed_step h i) housed inputs
    rcases (gamesOf p _).eq_empty_or_nonempty with hnone | ⟨g, hg⟩
    · rw [hnone]
      exact Nat.zero_le _
    · rw [gamesOf_eq hw hg]
      exact le_refl 1
  · have none : account p Lobbies.init = 0 := rfl
    have h := Runs.account (I := fun w : Lobbies => Housed w.dungeon_registry_) (account p)
      (fun w i => (begun cfg p w i).card) (fun _ i h => housed_step h i)
      (fun _ i h => account_step h i) housed inputs
    rwa [none, Nat.zero_add] at h

end Games

end DungeonCrawler
