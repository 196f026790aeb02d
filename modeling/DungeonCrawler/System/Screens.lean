import DungeonCrawler.Client.MessageRouter
import DungeonCrawler.Client.Picture
import DungeonCrawler.Domain.DungeonMoves
import DungeonCrawler.Server.GameIsolation
import DungeonCrawler.Server.ResponseSender

/-!
From the dungeons to the screens, in one tick of all games.

The game manager ticks every dungeon and posts its state, the sender of responses serializes what
is posted and passes it to the sessions, and the client that reads it back draws it.
-/

namespace DungeonCrawler

/-- What a dungeon makes a snapshot of. -/
def Dungeon.stateOf (d : Dungeon) : DungeonState :=
  ⟨d.game_map_, d.players_.entities_, d.monsters_.entities_⟩

namespace Ui

/-- A map that a client draws, whatever stands on it. -/
structure Drawable (map : GameMap) : Prop where
  legal : map.Legal
  small : (map.getTopRightCorner.x.toInt - map.getBottomLeftCorner.x.toInt + 1) *
    (map.getTopRightCorner.y.toInt - map.getBottomLeftCorner.y.toInt + 1) ≤ 200 * 200
  one_sign : OneSign map

/-- The client takes the message for a snapshot that shows the state, and draws it if the map can
be drawn at all. -/
structure OnScreen (lib : Libcbor) (state : DungeonState) (bytes : ByteBuffer) : Prop where
  shown : ∃ snapshot, readIncoming lib bytes = .gameState snapshot ∧ snapshot.Shows state
  drawn : Drawable state.game_map →
    ∃ lines, routeMessage lib bytes = some lines ∧ RendersMap state lines

variable {state : DungeonState} {outcomes : TickOutcomes} {lib : Libcbor} {bytes : ByteBuffer}

/-- The corners in the snapshot are on one side of the sign. -/
lemma sameSide_of_oneSign (h : OneSign state.game_map) :
    SameSide (createGameStateDTO outcomes state).game_map := by
  have hb := Position.toNat_toUInt64 state.game_map.getBottomLeftCorner.y
  have ht := Position.toNat_toUInt64 state.game_map.getTopRightCorner.y
  have hy := h.y
  have := state.game_map.getBottomLeftCorner.y.le_toInt
  have := state.game_map.getBottomLeftCorner.y.toInt_lt
  have := state.game_map.getTopRightCorner.y.le_toInt
  have := state.game_map.getTopRightCorner.y.toInt_lt
  have hmin : state.game_map.getBottomLeftCorner.y.toInt ≠ -2 ^ 63 :=
    fun he => h.bottom (Int64.toInt_inj.mp he)
  show (state.game_map.getBottomLeftCorner.y.toUInt64.toNat < 2 ^ 63 ↔
    state.game_map.getTopRightCorner.y.toUInt64.toNat < 2 ^ 63) ∧
    state.game_map.getBottomLeftCorner.y.toUInt64.toNat ≠ 2 ^ 63
  split_ifs at hb ht <;> omega

/-- The serialized snapshot of a state in which all stand on the map and apart. -/
lemma onScreen_createGameStateDTO (h : lib.RoundTrips)
    (hb : serializeGameState lib (createGameStateDTO outcomes state) = some bytes)
    (apart : Placement.Legal (Dungeon.floor state.game_map) (standing state)) :
    OnScreen lib state bytes where
  shown := ⟨_, readIncoming_gameState h hb, createGameStateDTO_shows outcomes state⟩
  drawn hmap := by
    have spread : Spread state := ⟨hmap.legal, hmap.small, apart⟩
    have signs : SignsAgree state.game_map := ⟨hmap.one_sign.x, hmap.one_sign.y⟩
    rw [routeMessage_gameState h hb,
      (displayable spread signs).render_picture (sameSide_of_oneSign hmap.one_sign)]
    exact ⟨_, rfl, _, _, _, rfl, draws_gridOf spread signs⟩

end Ui

namespace Screens

open Finmap Runs Games Ui ResponseSender

/-! ### Where the entities of a registered dungeon stand -/

/-- On the map of new games, apart. -/
structure OnMap (map : GameMap) (d : Dungeon) : Prop where
  game_map : d.game_map_ = map
  apart : Placement.Legal (Dungeon.floor map) d.placement

variable {cfg : Gameplay} {map : GameMap} {d : Dungeon}

lemma onMap_create (ps : List PlayerId) (gen : PositionGenerator) :
    OnMap map (Dungeon.create cfg map ps gen) :=
  let ⟨game_map, apart⟩ := Dungeon.legal_create cfg map ps gen
  ⟨game_map, apart⟩

lemma OnMap.run (h : OnMap map d) (calls : List Dungeon.Call) :
    OnMap map (run (Dungeon.step cfg) d calls) := by
  obtain ⟨rfl, apart⟩ := h
  have follows := Dungeon.run_follows cfg d calls
  exact ⟨follows.game_map, follows.puts.legal apart⟩

/-- Every dungeon that is registered. -/
lemma registered_onMap (cfg : Gameplay) (inputs : List Games.Input) (g : GameId) :
    (run (Games.step cfg) .init inputs).dungeon_registry_.findDungeon g = some d →
      OnMap (.ofCfg cfg) d := by
  induction inputs using List.reverseRecOn generalizing d with
  | nil => intro hg; cases hg
  | append_singleton inputs i ih =>
    rw [run_snoc]
    intro hg
    rcases registered_step (sound_run cfg inputs) i hg with
      ⟨before, ps, hbefore, -, -, rfl⟩ | ⟨j, ps, -, -, -, -, rfl⟩
    · exact (ih hbefore).run _
    · exact onMap_create ps j.pos_gen

/-! ### What is sent for a tick -/

/-- What the sender passes to the sessions for the events. -/
def sentFor (lib : Libcbor) (ord : IterOrder SessionId) (registry : SessionRegistry)
    (events : List Event) : List (SessionPtr × ByteBuffer) :=
  events.flatMap (onEvent lib ord registry)

/-- The games that are still there after the tick, in the order in which it came to them. -/
def goingOn (ord : IterOrder GameId) (before after : DungeonRegistry) : List GameId :=
  (ord.list before.dungeons_.keys).filter (· ∈ after.dungeons_)

/-- The games that go on are those registered after the tick, each once. For each of them there
is one message, which shows the dungeon as it is now; the session that is visited first gets all
of them, and every other session gets as many messages with nothing in them. -/
structure ShowsGames (lib : Libcbor) (ord : IterOrder SessionId) (registry : SessionRegistry)
    (games : List GameId) (after : DungeonRegistry) (sent : List (SessionPtr × ByteBuffer)) :
    Prop where
  nodup : games.Nodup
  mem_games : ∀ g, g ∈ games ↔ (after.findDungeon g).isSome
  messages : ∃ bytes : GameId → ByteBuffer,
    (∀ g d, after.findDungeon g = some d → OnScreen lib d.stateOf (bytes g)) ∧
    ∀ session, registry.findSessionBySessionId session.session_id = some session →
      messagesTo session sent =
        if ord.first registry.sessions_.keys = some session.session_id then games.map bytes
        else games.map fun _ => []
  no_others : ∀ m ∈ sent, registry.findSessionBySessionId m.1.session_id = some m.1

variable {lib : Libcbor} {ord : IterOrder SessionId} {registry : SessionRegistry}
variable {session : SessionPtr} {snapshot : DungeonSnapshot}

lemma messagesTo_flatMap {ι : Type} (l : List ι) (f : ι → List (SessionPtr × ByteBuffer)) :
    messagesTo session (l.flatMap f) = l.flatMap fun i => messagesTo session (f i) := by
  simp only [messagesTo, List.filter_flatMap, List.map_flatMap]

/-- The message goes to the session visited first, and nothing but its place to the others. -/
lemma messagesTo_onGameStateUpdate {bytes : ByteBuffer} (hp : snapshot.players ≠ [])
    (hb : serializeGameState lib snapshot = some bytes)
    (hs : registry.findSessionBySessionId session.session_id = some session) :
    messagesTo session (onGameStateUpdate lib ord registry (some snapshot)) =
      [if ord.first registry.sessions_.keys = some session.session_id then bytes else []] := by
  have hne : snapshot.players.isEmpty = false := by simpa using hp
  simp only [onGameStateUpdate, hne, hb, Bool.false_eq_true, if_false]
  rw [messagesTo_sendToAll bytes SessionRegistry.nodup_getAllSessions
    (SessionRegistry.mem_getAllSessions.mpr hs)]
  simp only [SessionRegistry.head_getAllSessions hs]
  split_ifs <;> rfl

lemma mem_onGameStateUpdate {update : Option DungeonSnapshot} {m : SessionPtr × ByteBuffer}
    (hm : m ∈ onGameStateUpdate lib ord registry update) :
    registry.findSessionBySessionId m.1.session_id = some m.1 := by
  unfold onGameStateUpdate at hm
  split at hm
  · cases hm
  · split_ifs at hm
    · cases hm
    · split at hm
      · cases hm
      · exact SessionRegistry.mem_getAllSessions.mp (mem_sendToAll hm).1

/-! ### The tick -/

variable {outcomes : GameId → TickOutcomes} {r after : DungeonRegistry} {g : GameId}

/-- The message for a game. -/
def updateBytes (lib : Libcbor) (outcomes : GameId → TickOutcomes) (after : DungeonRegistry)
    (g : GameId) : ByteBuffer :=
  match after.findDungeon g with
  | none => []
  | some d => (serializeGameState lib (createGameStateDTO (outcomes g) d.stateOf)).getD []

lemma updateBytes_of_find (h : lib.RoundTrips) (hg : after.findDungeon g = some d) :
    serializeGameState lib (createGameStateDTO (outcomes g) d.stateOf) =
      some (updateBytes lib outcomes after g) := by
  obtain ⟨bytes, hser, -⟩ := gameState_roundTrip h (createGameStateDTO (outcomes g) d.stateOf)
  simp only [updateBytes, hg, hser, Option.getD_some]

/-- A snapshot of a dungeon in which somebody is alive has players in it. -/
lemma players_ne_nil {o : TickOutcomes} (h : d.SomeoneAlive) :
    (createGameStateDTO o d.stateOf).players ≠ [] := by
  obtain ⟨p, player, hp, -⟩ := h
  obtain ⟨entry, he, -⟩ :=
    (createGameStateDTO_shows o d.stateOf).players.covers p player hp
  exact List.ne_nil_of_mem he

/-- What a session gets for one dungeon. -/
lemma messagesTo_posted (ord : IterOrder SessionId) (h : lib.RoundTrips)
    {result : List Event × DungeonRegistry}
    (swept : GameManager.Swept cfg outcomes r result) (hr : r.findDungeon g = some d)
    (hs : registry.findSessionBySessionId session.session_id = some session) :
    messagesTo session (sentFor lib ord registry (GameManager.posted cfg outcomes r g)) =
      if g ∈ result.2.dungeons_ then
        [if ord.first registry.sessions_.keys = some session.session_id then
          updateBytes lib outcomes result.2 g else []]
      else [] := by
  have hafter := swept.dungeons g d hr
  simp only [GameManager.posted, hr]
  by_cases ended : (GameManager.ticked cfg outcomes g d).isGameOver
  · -- nobody is sent that the game is over
    have silent : sentFor lib ord registry (List.map Event.gameOver
        ((GameManager.ticked cfg outcomes g d).getPlayers (outcomes g).playerOrder)) = [] := by
      rw [sentFor, List.flatMap_eq_nil_iff]
      intro e he
      obtain ⟨p, -, rfl⟩ := List.mem_map.mp he
      rfl
    rw [if_pos ended] at hafter
    rw [if_pos ended, if_neg (lookup_eq_none.mp hafter), silent]
    rfl
  · rw [if_neg ended] at hafter
    have alive : (GameManager.ticked cfg outcomes g d).SomeoneAlive :=
      not_not.mp fun hn => ended (Dungeon.isGameOver_iff.mpr hn)
    rw [if_neg ended, if_pos (mem_of_lookup_eq_some hafter), sentFor, List.flatMap_singleton]
    exact messagesTo_onGameStateUpdate (players_ne_nil alive) (updateBytes_of_find h hafter) hs

/-- Nobody but a registered session is sent anything. -/
lemma mem_sentFor_posted {m : SessionPtr × ByteBuffer}
    (hm : m ∈ sentFor lib ord registry (GameManager.posted cfg outcomes r g)) :
    registry.findSessionBySessionId m.1.session_id = some m.1 := by
  obtain ⟨e, he, hm⟩ := List.mem_flatMap.mp hm
  unfold GameManager.posted at he
  split at he
  · cases he
  · dsimp only at he
    split_ifs at he
    · obtain ⟨p, -, rfl⟩ := List.mem_map.mp he
      cases hm
    · obtain rfl := List.mem_singleton.mp he
      change m ∈ onGameStateUpdate lib ord registry (some _) at hm
      exact mem_onGameStateUpdate hm

lemma sentFor_flatMap {ι : Type} (l : List ι) (f : ι → List Event) :
    sentFor lib ord registry (l.flatMap f) = l.flatMap fun i => sentFor lib ord registry (f i) :=
  List.flatMap_assoc

lemma flatMap_ite {α β : Type} (p : α → Prop) [DecidablePred p] (f : α → β) (l : List α) :
    (l.flatMap fun x => if p x then [f x] else []) = (l.filter p).map f := by
  induction l with
  | nil => rfl
  | cons x l ih =>
    rw [List.flatMap_cons, ih, List.filter_cons]
    by_cases hx : p x <;> simp [hx]

/-- The events of a tick are those posted of the dungeons, one dungeon after the other. -/
lemma events_onGameTickEvent (cfg : Gameplay) (gameOrder : IterOrder GameId)
    (outcomes : GameId → TickOutcomes) (r : DungeonRegistry) :
    (GameManager.onGameTickEvent cfg gameOrder outcomes r).1 =
      (gameOrder.list r.dungeons_.keys).flatMap (GameManager.posted cfg outcomes r) :=
  (GameManager.visited_foldl (gameOrder.nodup_list _)
    fun g hg => mem_keys.mp ((gameOrder.mem_list _ g).mp hg)).events

lemma mem_goingOn {gameOrder : IterOrder GameId} {result : List Event × DungeonRegistry}
    (swept : GameManager.Swept cfg outcomes r result) :
    g ∈ goingOn gameOrder r result.2 ↔ (result.2.findDungeon g).isSome := by
  rw [goingOn, List.mem_filter, gameOrder.mem_list, mem_keys, decide_eq_true_eq,
    DungeonRegistry.findDungeon, lookup_isSome, and_iff_right_of_imp]
  intro hg
  by_contra hn
  exact lookup_eq_none.mp (swept.no_others g (lookup_eq_none.mpr hn)) hg

/-- **Screens show the games.** After any requests, ticks and commands, with any table of
sessions, and whatever chance decides in the tick. -/
theorem screens_show_games (cfg : Gameplay) (lib : Libcbor) (h : lib.RoundTrips)
    (inputs : List Games.Input) (gameOrder : IterOrder GameId)
    (outcomes : GameId → TickOutcomes) (ord : IterOrder SessionId)
    (registry : SessionRegistry) :
    let before := (run (Games.step cfg) .init inputs).dungeon_registry_
    let (events, after) := GameManager.onGameTickEvent cfg gameOrder outcomes before
    ShowsGames lib ord registry (goingOn gameOrder before after) after
      (sentFor lib ord registry events) := by
  intro before
  have sound : before.Sound := (sound_run cfg inputs).dungeons
  have swept := GameManager.swept_onGameTickEvent sound cfg gameOrder outcomes
  have events := events_onGameTickEvent cfg gameOrder outcomes before
  have onMap (g : GameId) (d : Dungeon) (hg : (GameManager.onGameTickEvent cfg gameOrder outcomes
      before).2.findDungeon g = some d) : OnMap (.ofCfg cfg) d :=
    registered_onMap cfg (inputs ++ [.gameTick gameOrder outcomes]) g
      (by rw [run_snoc]; exact hg)
  generalize GameManager.onGameTickEvent cfg gameOrder outcomes before = result at *
  obtain ⟨said, after⟩ := result
  obtain rfl : said = _ := events
  dsimp only at onMap ⊢
  refine ⟨(gameOrder.nodup_list _).filter _, fun g => mem_goingOn swept,
    ⟨updateBytes lib outcomes after, fun g d hg => ?_, fun session hs => ?_⟩, fun m hm => ?_⟩
  · obtain ⟨hmap, apart⟩ := onMap g d hg
    rw [← hmap] at apart
    exact onScreen_createGameStateDTO h (updateBytes_of_find h hg) apart
  · have each (g : GameId) (hg : g ∈ gameOrder.list before.dungeons_.keys) :=
      let ⟨d, hd⟩ := mem_iff.mp (mem_keys.mp ((gameOrder.mem_list _ g).mp hg))
      messagesTo_posted ord h swept hd hs
    rw [sentFor_flatMap, messagesTo_flatMap, List.flatMap_congr each,
      flatMap_ite (· ∈ after.dungeons_)]
    split_ifs <;> rfl
  · rw [sentFor_flatMap] at hm
    obtain ⟨g, -, hm⟩ := List.mem_flatMap.mp hm
    exact mem_sentFor_posted hm

/-- A player alone in a game, with two sessions registered, and a tick in which nobody attacks. -/
theorem lone_game_shown :
    let before := (run (Games.step deadly) .init
      [ask (.createLobbyRequest ⟨1⟩), ask (.startGameRequest ⟨1⟩)]).dungeon_registry_
    let registry := [SessionRegistry.Call.addSession (some ⟨1, ⟨1⟩⟩),
      .addSession (some ⟨2, ⟨2⟩⟩), .bindPlayerToSession ⟨1⟩ ⟨1⟩].foldl
        SessionRegistry.step .empty
    let (events, after) := GameManager.onGameTickEvent deadly default (fun _ => Games.outcomes 0)
      before
    ShowsGames .definite default registry (goingOn default before after) after
      (sentFor .definite default registry events) :=
  screens_show_games deadly .definite Libcbor.definite_roundTrips _ default _ default _

end Screens

end DungeonCrawler
