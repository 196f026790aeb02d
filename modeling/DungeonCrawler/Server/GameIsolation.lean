import DungeonCrawler.Server.GameTick

/-!
Games do not touch each other.

What has become of a dungeon follows from the lobby it was started for, the positions drawn then,
and since then the ticks and the commands of its own players. Other requests, commands and games
leave no trace in it.
-/

namespace DungeonCrawler

namespace Games

open Finmap Runs

/-- The calls that an input makes on the dungeon `g`, if its players are `ps`. -/
def callsOn (cfg : Gameplay) (g : GameId) (ps : List PlayerId) : Input → List Dungeon.Call
  | .request _ => []
  | .gameTick _ outcomes => [.processTick (outcomes g)]
  | .moveRequest p direction => if ps.contains p then [.addMovePlayerCommand p direction] else []
  | .attackRequest p =>
    if ps.contains p then [.addPlayerAttackCommand p cfg.player_default_attack] else []

/-- A request is one to start the game of a lobby with the players `ps`. -/
def Starts (w : Lobbies) (i : Lobbies.Input) (ps : List PlayerId) : Prop :=
  ∃ p l lobby, i.request = .startGameRequest p ∧
    w.lobby_registry_.getPlayerLobby p = some l ∧ w.lobby_registry_.findLobby l = some lobby ∧
    ps = lobby.getAllPlayers i.playerOrder

/-- The dungeon `g` was started for the players `ps`, who are still recorded for it, and has come
to what it is by the ticks since then and the commands of these players. -/
def OnItsOwn (cfg : Gameplay) (inputs : List Input) (g : GameId) (dungeon : Dungeon) : Prop :=
  ∃ us i vs ps, inputs = us ++ .request i :: vs ∧
    Starts (run (step cfg) .init us) i ps ∧
    (run (step cfg) .init us).dungeon_registry_.findDungeon g = none ∧
    (run (step cfg) .init inputs).dungeon_registry_.dungeon_to_players_.lookup g = some ps ∧
    dungeon = run (Dungeon.step cfg) (Dungeon.create cfg (.ofCfg cfg) ps i.pos_gen)
      (vs.flatMap (callsOn cfg g ps))

variable {cfg : Gameplay} {w w' : Lobbies} {d d' : DungeonRegistry} {g : GameId}
variable {ps : List PlayerId} {p : PlayerId} {dungeon dungeon' : Dungeon} {i : Input}

/-- The dungeon was there before the input, and took the calls that the input makes on it. -/
def Took (cfg : Gameplay) (d d' : DungeonRegistry) (i : Input) (g : GameId)
    (dungeon' : Dungeon) : Prop :=
  ∃ dungeon ps, d.findDungeon g = some dungeon ∧ d.dungeon_to_players_.lookup g = some ps ∧
    d'.dungeon_to_players_.lookup g = some ps ∧
    dungeon' = run (Dungeon.step cfg) dungeon (callsOn cfg g ps i)

/-- The input started the dungeon. -/
def Arose (cfg : Gameplay) (w : Lobbies) (d' : DungeonRegistry) (i : Input) (g : GameId)
    (dungeon' : Dungeon) : Prop :=
  ∃ j ps, i = .request j ∧ Starts w j ps ∧ w.dungeon_registry_.findDungeon g = none ∧
    d'.dungeon_to_players_.lookup g = some ps ∧
    dungeon' = Dungeon.create cfg (.ofCfg cfg) ps j.pos_gen

/-- An input that leaves the tables of dungeons alone and makes no call on the dungeon. -/
lemma took_of_same (h : d.Sound) (hd : d'.dungeons_ = d.dungeons_)
    (hl : d'.dungeon_to_players_ = d.dungeon_to_players_)
    (hcalls : ∀ ps, d.dungeon_to_players_.lookup g = some ps → callsOn cfg g ps i = [])
    (hg : d'.findDungeon g = some dungeon') : Took cfg d d' i g dungeon' := by
  rw [DungeonRegistry.findDungeon, hd] at hg
  obtain ⟨ps, hps⟩ := h.players_of_mem (mem_of_lookup_eq_some hg)
  exact ⟨dungeon', ps, hg, hps, hl ▸ hps, by rw [hcalls ps hps, run_nil]⟩

lemma took_request {j : Lobbies.Input} (h : d.Sound) (hg : d.findDungeon g = some dungeon') :
    Took cfg d d (.request j) g dungeon' :=
  took_of_same h rfl rfl (fun _ _ => rfl) hg

/-- An addition adds a dungeon under a new number and leaves the others. -/
lemma added_registered {j : Lobbies.Input} (h : d.Sound)
    (hid : d.next_game_id_ ∉ d.dungeons_)
    (hg : (d.added cfg (.ofCfg cfg) ps j.pos_gen).findDungeon g = some dungeon') :
    Took cfg d (d.added cfg (.ofCfg cfg) ps j.pos_gen) (.request j) g dungeon' ∨
      (d.findDungeon g = none ∧
        (d.added cfg (.ofCfg cfg) ps j.pos_gen).dungeon_to_players_.lookup g = some ps ∧
        dungeon' = Dungeon.create cfg (.ofCfg cfg) ps j.pos_gen) := by
  have hlist : d.next_game_id_ ∉ d.dungeon_to_players_ := fun hm =>
    hid ((h.same_keys _).mpr hm)
  have hlists : (d.added cfg (.ofCfg cfg) ps j.pos_gen).dungeon_to_players_ =
    d.dungeon_to_players_.insert d.next_game_id_ ps := emplace_of_notMem hlist _
  rw [DungeonRegistry.findDungeon, DungeonRegistry.added, lookup_insert_ite] at hg
  rw [hlists]
  split_ifs at hg with hnew
  · refine Or.inr ⟨?_, ?_, (Option.some.inj hg).symm⟩
    · rw [hnew]
      exact lookup_eq_none.mpr hid
    · rw [hnew]
      exact lookup_insert _
  · obtain ⟨ps', hps'⟩ := h.players_of_mem (mem_of_lookup_eq_some hg)
    refine Or.inl ⟨dungeon', ps', hg, hps', ?_, rfl⟩
    rw [hlists, lookup_insert_of_ne _ hnew]
    exact hps'

/-- A request to start adds a dungeon or changes none. -/
lemma startGame_registered {j : Lobbies.Input} (h : Sound cfg w)
    (hj : j.request = .startGameRequest p)
    (hg : (step cfg w (.request j)).dungeon_registry_.findDungeon g = some dungeon') :
    Took cfg w.dungeon_registry_ (step cfg w (.request j)).dungeon_registry_ (.request j) g
        dungeon' ∨
      Arose cfg w (step cfg w (.request j)).dungeon_registry_ (.request j) g dungeon' := by
  have hstep : (step cfg w (.request j)).dungeon_registry_ =
      (GameManager.onStartGameRequestEvent cfg j.playerOrder j.pos_gen w.lobby_registry_
        w.dungeon_registry_ p).2 := by
    simp only [step, Lobbies.step, Lobbies.handle, hj]
  rw [hstep] at hg ⊢
  cases hp : w.lobby_registry_.getPlayerLobby p with
  | none =>
    simp only [GameManager.onStartGameRequestEvent, hp] at hg ⊢
    exact Or.inl (took_request h.dungeons hg)
  | some l =>
    cases hl : w.lobby_registry_.findLobby l with
    | none =>
      simp only [GameManager.onStartGameRequestEvent, hp, hl] at hg ⊢
      exact Or.inl (took_request h.dungeons hg)
    | some lobby =>
      rw [GameManager.onStartGameRequestEvent_of_member hp hl] at hg ⊢
      rcases DungeonRegistry.addDungeon_cases cfg w.dungeon_registry_ (.ofCfg cfg)
        (lobby.getAllPlayers j.playerOrder) j.pos_gen with
        ⟨-, he⟩ | ⟨-, -, he⟩ | ⟨-, hid, he⟩ <;> simp only [he] at hg ⊢
      · exact Or.inl (took_request h.dungeons hg)
      · exact Or.inl (took_of_same h.dungeons rfl rfl (fun _ _ => rfl) hg)
      · rcases added_registered h.dungeons hid hg with htook | ⟨hnone, hps, hdungeon⟩
        · exact Or.inl htook
        · exact Or.inr ⟨j, _, rfl, ⟨p, l, lobby, hj, hp, hl, rfl⟩, hnone, hps, hdungeon⟩

/-- A tick goes over every dungeon that is left after it. -/
lemma gameTick_registered (h : d.Sound) (ord : IterOrder GameId)
    (outcomes : GameId → TickOutcomes)
    (hg : (GameManager.onGameTickEvent cfg ord outcomes d).2.findDungeon g = some dungeon') :
    Took cfg d (GameManager.onGameTickEvent cfg ord outcomes d).2 (.gameTick ord outcomes) g
      dungeon' := by
  have swept := GameManager.swept_onGameTickEvent h cfg ord outcomes
  cases hd : d.findDungeon g with
  | none =>
    rw [swept.no_others g hd] at hg
    cases hg
  | some dungeon =>
    rw [swept.dungeons g dungeon hd] at hg
    split_ifs at hg with hover
    obtain ⟨ps, hps⟩ := h.players_of_mem (mem_of_lookup_eq_some hd)
    have hstays : ¬ GameManager.Over cfg outcomes d g := by
      rintro ⟨dungeon₁, hd₁, hover₁⟩
      obtain rfl := Option.some.inj (hd.symm.trans hd₁)
      exact hover hover₁
    refine ⟨dungeon, ps, hd, hps, ?_, ?_⟩
    · rw [swept.list_stays g hstays, hps]
    · rw [← Option.some.inj hg]
      rfl

/-- A command goes to the dungeon of its player. -/
lemma command_registered (h : d.Sound) (c : Dungeon.Call)
    (hi : ∀ ps, callsOn cfg g ps i = if ps.contains p then [c] else [])
    (hg : (GameManager.commandDungeon d p (·.step cfg c)).findDungeon g = some dungeon') :
    Took cfg d (GameManager.commandDungeon d p (·.step cfg c)) i g dungeon' := by
  -- who is listed for the dungeon is found by the table of players
  have hfound (ps : List PlayerId) (hps : d.dungeon_to_players_.lookup g = some ps) :
      ps.contains p ↔ d.findPlayerDungeon p = some g := by
    rw [DungeonRegistry.findPlayerDungeon, h.in_list, hps]
    simp
  have hother (hne : d.findPlayerDungeon p ≠ some g) (ps : List PlayerId)
      (hps : d.dungeon_to_players_.lookup g = some ps) : callsOn cfg g ps i = [] := by
    rw [hi, if_neg fun hm => hne ((hfound ps hps).mp hm)]
  cases hp : d.findPlayerDungeon p with
  | none =>
    simp only [GameManager.commandDungeon, hp] at hg ⊢
    exact took_of_same h rfl rfl (hother (by simp [hp])) hg
  | some g₁ =>
    cases hd : d.findDungeon g₁ with
    | none =>
      simp only [GameManager.commandDungeon, hp, hd] at hg ⊢
      refine took_of_same h rfl rfl (hother ?_) hg
      rw [hp]
      rintro ⟨rfl⟩
      rw [hd] at hg
      cases hg
    | some dungeon =>
      simp only [GameManager.commandDungeon, hp, hd] at hg ⊢
      by_cases hgg : g = g₁
      · subst hgg
        obtain ⟨ps, hps⟩ := h.players_of_mem (mem_of_lookup_eq_some hd)
        refine ⟨dungeon, ps, hd, hps, hps, ?_⟩
        rw [hi, if_pos ((hfound ps hps).mpr hp)]
        rw [DungeonRegistry.findDungeon, DungeonRegistry.withDungeon, lookup_insert] at hg
        exact (Option.some.inj hg).symm
      · rw [DungeonRegistry.findDungeon, DungeonRegistry.withDungeon, lookup_insert_of_ne _ hgg]
          at hg
        obtain ⟨ps, hps⟩ := h.players_of_mem (mem_of_lookup_eq_some hg)
        refine ⟨dungeon', ps, hg, hps, hps, ?_⟩
        rw [hother (by rw [hp]; exact fun he => hgg (Option.some.inj he).symm) ps hps, run_nil]

/-- What is registered after an input. -/
lemma registered_step (h : Sound cfg w) (i : Input)
    (hg : (step cfg w i).dungeon_registry_.findDungeon g = some dungeon') :
    Took cfg w.dungeon_registry_ (step cfg w i).dungeon_registry_ i g dungeon' ∨
      Arose cfg w (step cfg w i).dungeon_registry_ i g dungeon' := by
  cases i with
  | request j =>
    obtain ⟨request, playerOrder, lobbyOrder, pos_gen⟩ := j
    cases request with
    | startGameRequest p => exact startGame_registered h rfl hg
    | _ => exact Or.inl (took_request h.dungeons hg)
  | gameTick ord outcomes => exact Or.inl (gameTick_registered h.dungeons ord outcomes hg)
  | moveRequest p direction =>
    exact Or.inl (command_registered h.dungeons (.addMovePlayerCommand p direction)
      (fun _ => rfl) hg)
  | attackRequest p =>
    exact Or.inl (command_registered h.dungeons
      (.addPlayerAttackCommand p cfg.player_default_attack) (fun _ => rfl) hg)

/-- Every dungeon that is registered in the end is on its own. -/
def OnTheirOwn (cfg : Gameplay) (inputs : List Input) : Prop :=
  ∀ g dungeon, (run (step cfg) Lobbies.init inputs).dungeon_registry_.findDungeon g =
    some dungeon → OnItsOwn cfg inputs g dungeon

lemma onTheirOwn_nil : OnTheirOwn cfg [] := fun _ _ hg => nomatch hg

/-- One more input. -/
lemma OnTheirOwn.snoc {inputs : List Input} (h : OnTheirOwn cfg inputs) (i : Input) :
    OnTheirOwn cfg (inputs ++ [i]) := by
  intro g dungeon hg
  rw [run_snoc] at hg
  rcases registered_step (sound_run cfg inputs) i hg with
    ⟨before, ps, hbefore, hps, hps', hdungeon⟩ | ⟨j, ps, rfl, hstarts, hnone, hps, hdungeon⟩
  · obtain ⟨us, j, vs, ps', hinputs, hstarts, hnone, hps₁, hrun⟩ := h g before hbefore
    obtain rfl := Option.some.inj (hps.symm.trans hps₁)
    refine ⟨us, j, vs ++ [i], ps, by rw [hinputs]; simp, hstarts, hnone, ?_, ?_⟩
    · rw [run_snoc]
      exact hps'
    · rw [hdungeon, hrun, List.flatMap_append, run_append, List.flatMap_singleton]
  · refine ⟨inputs, j, [], ps, rfl, hstarts, hnone, ?_, hdungeon⟩
    rw [run_snoc]
    exact hps

/-- **Games do not touch each other.** After any requests, ticks and commands. -/
theorem games_on_their_own (cfg : Gameplay) (inputs : List Input) : OnTheirOwn cfg inputs := by
  induction inputs using List.reverseRecOn with
  | nil => exact onTheirOwn_nil
  | append_singleton inputs i ih => exact ih.snoc i

end Games

end DungeonCrawler
