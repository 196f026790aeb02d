import DungeonCrawler.Server.ConnectionManager
import DungeonCrawler.Server.Games
import DungeonCrawler.Server.MsgRouter
import DungeonCrawler.Server.ResponseSender

/-!
The server from the connections it accepts to the answers it sends.

Sessions are numbered as connections are accepted. The router makes an event of a message and
publishes it; a manager handles it at some later time, from its first line to its last, and
publishes its answer, and the sender of responses takes that at some later time again, under the
bindings that hold then.
Beside each event on its way stands who asked: the session the message came on, and the player
the session was bound to when it came.
-/

namespace DungeonCrawler

/-- The session a message came on and its player at that time. -/
structure Asker where
  session : SessionPtr
  player : Option PlayerId
  deriving DecidableEq

/-- The number for the next session, the sessions made so far, the managers, and the requests
and answers on their way. -/
structure TcpServer where
  next_session_id_ : UInt64
  accepted : List SessionPtr
  manager : ConnectionManager
  games : Lobbies
  requests : List (Asker × Event)
  answers : List (Asker × Event)

namespace TcpServer

open Finmap Runs ResponseSender

def init : TcpServer := ⟨1, [], .init, .init, [], []⟩

abbrev registry (w : TcpServer) : SessionRegistry := w.manager.session_registry_

/-- A connection is accepted: a session is made for it, under the next number. -/
def doAccept (w : TcpServer) : TcpServer :=
  { w with
    next_session_id_ := w.next_session_id_ + 1
    accepted := w.accepted ++ [⟨w.accepted.length, ⟨w.next_session_id_⟩⟩] }

/-- What is left to chance while a request is handled. -/
structure Chance where
  now : ℤ
  playerOrder : IterOrder PlayerId
  lobbyOrder : IterOrder LobbyId
  pos_gen : PositionGenerator

/-- The manager that has subscribed to the event handles it; the others let it pass by. -/
def handle (cfg : Gameplay) (timeout : ℤ) (chance : Chance) (w : TcpServer) (e : Event) :
    List Event × TcpServer :=
  match e with
  | .moveRequest p direction =>
    ([], { w with games := Games.step cfg w.games (.moveRequest p direction) })
  | .atackRequest p => ([], { w with games := Games.step cfg w.games (.attackRequest p) })
  | .authRequested _ _ | .reconnectRequested _ _ =>
    let (events, manager) := w.manager.handle timeout ⟨chance.now, e⟩
    (events, { w with manager := manager })
  | e =>
    let (events, r, d) := w.games.handle cfg
      ⟨e, chance.playerOrder, chance.lobbyOrder, chance.pos_gen⟩
    (events, { w with games := ⟨r, d, w.games.published ++ events⟩ })

inductive Step
  | accept
  /-- A session is started: it is published. -/
  | connected (session : SessionPtr)
  /-- A session is over. -/
  | disconnected (now : ℤ) (session : SessionPtr)
  /-- A session received a message. -/
  | received (session : SessionPtr) (buffer : ByteBuffer)
  /-- One of the requests is handled. -/
  | handle (i : ℕ) (chance : Chance)
  /-- One of the answers is sent. -/
  | send (i : ℕ)
  /-- The games have a tick. -/
  | tick (ord : IterOrder GameId) (outcomes : GameId → TickOutcomes)

def step (cfg : Gameplay) (lib : Libcbor) (timeout : ℤ) (w : TcpServer) : Step → TcpServer
  | .accept => w.doAccept
  | .connected session =>
    { w with manager := (w.manager.handleClientConnectedEvent (some session)).2 }
  | .disconnected now session =>
    { w with manager := (w.manager.handleClientDisconnectedEvent now (some session)).2 }
  | .received session buffer =>
    match MessageRouter.onRawMessage lib w.registry session.session_id buffer with
    | none => w
    | some e => { w with requests := w.requests ++
        [(⟨session, w.registry.getPlayerIdBySessionId session.session_id⟩, e)] }
  | .handle i chance =>
    match w.requests[i]? with
    | none => w
    | some (asker, e) =>
      let (events, w') := handle cfg timeout chance w e
      { w' with
        requests := w.requests.eraseIdx i
        answers := w.answers ++ events.map (asker, ·) }
  | .send i => { w with answers := w.answers.eraseIdx i }
  | .tick ord outcomes => { w with games := Games.step cfg w.games (.gameTick ord outcomes) }

/-- What the sender passes to the sessions for one of the answers. -/
def sentFor (lib : Libcbor) (ord : IterOrder SessionId) (w : TcpServer) (i : ℕ) :
    List (SessionPtr × ByteBuffer) :=
  match w.answers[i]? with
  | none => []
  | some (_, e) => onEvent lib ord w.registry e

/-- Fewer than `2 ^ 64` connections are accepted, sessions are those that were made, no message
fills the place of the player on a session that has none, and players join sessions that are
free. -/
def Proper (lib : Libcbor) (timeout : ℤ) (w : TcpServer) : Step → Prop
  | .accept => w.accepted.length < 2 ^ 64 - 1
  | .connected session => session ∈ w.accepted
  | .disconnected _ session => session ∈ w.accepted
  | .received session buffer => session ∈ w.accepted ∧
    ((w.registry.getPlayerIdBySessionId session.session_id).isSome ∨
      ∀ m, deserializeBufferToMessage lib buffer = some m → ¬ FillsPlayerSlot m.type m.args)
  | .handle i chance => ∀ asker e, w.requests[i]? = some (asker, e) →
    ConnectionManager.JoinsInStep timeout w.manager ⟨chance.now, e⟩
  | _ => True

/-- The answer goes to the session that asked, or else to the one that the player who asked has
changed to. -/
def Rightful (w : TcpServer) (asker : Asker) (session : SessionPtr) : Prop :=
  session = asker.session ∨ ∃ p, asker.player = some p ∧
    w.registry.getSessionIdByPlayerId p = some session.session_id ∧
    w.registry.getPlayerIdBySessionId session.session_id = some p ∧
    w.registry.getPlayerIdBySessionId asker.session.session_id ≠ some p

/-! ### The numbers of the sessions -/

/-- Sessions are numbered from one on, and none of the numbers has come up again. -/
structure Numbered (w : TcpServer) : Prop where
  bounded : w.accepted.length < 2 ^ 64
  next : w.next_session_id_.toNat = (w.accepted.length + 1) % 2 ^ 64
  ids : ∀ (k : ℕ) (session : SessionPtr), w.accepted[k]? = some session →
    session = ⟨k, ⟨UInt64.ofNat (k + 1)⟩⟩

variable {w : TcpServer}

lemma numbered_init : init.Numbered := ⟨by decide, by decide, by simp [init]⟩

lemma Numbered.doAccept (h : w.Numbered) (hlt : w.accepted.length < 2 ^ 64 - 1) :
    w.doAccept.Numbered := by
  have hnext : w.next_session_id_ = UInt64.ofNat (w.accepted.length + 1) := by
    rw [← UInt64.toNat_inj, h.next, UInt64.toNat_ofNat']
  have hlen : w.doAccept.accepted.length = w.accepted.length + 1 := List.length_append
  refine ⟨by rw [hlen]; omega, ?_, fun k session hk => ?_⟩
  · rw [hlen]
    show (w.next_session_id_ + 1).toNat = _
    rw [UInt64.toNat_add, h.next, UInt64.toNat_one]
    omega
  · rcases Nat.lt_or_ge k w.accepted.length with hlt | hge
    · exact h.ids k session (by rwa [← List.getElem?_append_left hlt])
    · rw [show w.doAccept.accepted = w.accepted ++ [_] from rfl,
        List.getElem?_append_right hge] at hk
      obtain ⟨hk0, rfl⟩ := List.getElem?_eq_some_iff.mp hk
      obtain rfl : k = w.accepted.length := by
        simp at hk0
        omega
      simp [hnext]

/-- No two sessions have one number. -/
lemma Numbered.unique (h : w.Numbered) {a b : SessionPtr} (ha : a ∈ w.accepted)
    (hb : b ∈ w.accepted) (he : a.session_id = b.session_id) : a = b := by
  obtain ⟨i, hi⟩ := List.getElem?_of_mem ha
  obtain ⟨j, hj⟩ := List.getElem?_of_mem hb
  obtain ⟨hlti, -⟩ := List.getElem?_eq_some_iff.mp hi
  obtain ⟨hltj, -⟩ := List.getElem?_eq_some_iff.mp hj
  have hbound := h.bounded
  rw [h.ids i a hi, h.ids j b hj] at he ⊢
  have hids : (UInt64.ofNat (i + 1)).toNat = (UInt64.ofNat (j + 1)).toNat :=
    congrArg (fun id : SessionId => id.value.toNat) he
  rw [UInt64.toNat_ofNat', UInt64.toNat_ofNat', Nat.mod_eq_of_lt (by omega),
    Nat.mod_eq_of_lt (by omega)] at hids
  obtain rfl : i = j := by omega
  rfl

/-! ### Requests and answers -/

/-- The request is one of the player the session was bound to, or one of the session itself. -/
def AskedBy (asker : Asker) (e : Event) : Prop :=
  (∃ p, e.requestPlayer = some p ∧ asker.player = some p) ∨
    ∃ p, e = .authRequested asker.session.session_id p ∨
      e = .reconnectRequested asker.session.session_id p

/-- Whatever is sent for the event goes to the session of the player. -/
def ForPlayer (p : PlayerId) (e : Event) : Prop :=
  ∀ lib ord registry, ∀ m ∈ onEvent lib ord registry e, registry.findSessionByPlayerId p = some m.1

/-- Whatever is sent for the event goes to the session that asked, or to the session that is the
one of the player who asked. -/
def Answers (asker : Asker) (e : Event) : Prop :=
  ∀ lib ord registry, ∀ m ∈ onEvent lib ord registry e,
    registry.findSessionBySessionId asker.session.session_id = some m.1 ∨
      ∃ p, asker.player = some p ∧ registry.findSessionByPlayerId p = some m.1

variable {cfg : Gameplay} {lib : Libcbor} {timeout : ℤ} {asker : Asker} {e : Event}
variable {p : PlayerId}

/-- What tells a player what has become of a lobby request is for that player. -/
lemma forPlayer_of_answer (h : LobbyManager.lobbyAnswer e = some p) : ForPlayer p e := by
  have sent {e : Event} (h : ∀ lib ord registry, ∃ t args, onEvent lib ord registry e =
      sendResponse lib (registry.findSessionByPlayerId p) t args) : ForPlayer p e := by
    intro lib ord registry m hm
    obtain ⟨t, args, he⟩ := h lib ord registry
    rw [he] at hm
    exact (mem_sendResponse hm).1
  have silent {e : Event} (h : ∀ lib ord registry, onEvent lib ord registry e = []) :
      ForPlayer p e := by
    intro lib ord registry m hm
    rw [h] at hm
    cases hm
  cases e with
  | lobbyCreatedResponse q _ | listLobbiesResponse q _ | lobbyCreationFailedResponse q
  | joinLobbyResponse q | joinLobbyFailedResponse q | leaveLobbyResponse q
  | leaveLobbyFailedResponse q =>
    obtain rfl := Option.some.inj h
    exact sent fun _ _ _ => ⟨_, _, rfl⟩
  | joinLobbyNotExistsResponse q | joinLobbyFullResponse q
  | leaveLobbyNotConsistsInLobbyResponse q | playerReadyResponse q
  | playerReadyFailedResponse q => exact silent fun _ _ _ => rfl
  | _ => cases h

/-- What the manager of connections publishes is for the session that the request came on. -/
lemma answers_of_connection (timeout now : ℤ) {m : ConnectionManager} {q : PlayerId}
    (he : e = .authRequested asker.session.session_id q ∨
      e = .reconnectRequested asker.session.session_id q) :
    ∀ answer ∈ (m.handle timeout ⟨now, e⟩).1, Answers asker answer := by
  have one {answer answer' : Event} (ha : answer ∈ [answer'])
      (h : ∀ lib ord registry, ∃ t args, onEvent lib ord registry answer' =
        sendResponse lib (registry.findSessionBySessionId asker.session.session_id) t args) :
      Answers asker answer := by
    intro lib ord registry m hm
    obtain ⟨t, args, heq⟩ := h lib ord registry
    rw [List.mem_singleton.mp ha, heq] at hm
    exact Or.inl (mem_sendResponse hm).1
  intro answer ha
  rcases he with rfl | rfl
  · by_cases hs : asker.session.session_id ∈ m.session_registry_.sessions_
    · simp only [ConnectionManager.handle, ConnectionManager.auth_registered hs] at ha
      exact one ha fun _ _ _ => ⟨_, _, rfl⟩
    · simp only [ConnectionManager.handle, ConnectionManager.auth_absent hs] at ha
      exact one ha fun _ _ _ => ⟨_, _, rfl⟩
  · by_cases hacc : ConnectionManager.Accepts timeout m now asker.session.session_id q
    · simp only [ConnectionManager.handle, ConnectionManager.reconnect_accepted hacc] at ha
      exact one ha fun _ _ _ => ⟨_, _, rfl⟩
    · simp only [ConnectionManager.handle, ConnectionManager.reconnect_refused hacc] at ha
      exact one ha fun _ _ _ => ⟨_, _, rfl⟩

/-- What is published for a request answers whoever asked. -/
lemma answers_of_handle {chance : Chance} (h : AskedBy asker e) :
    ∀ answer ∈ (handle cfg timeout chance w e).1, Answers asker answer := by
  intro answer ha
  rcases h with ⟨p, hp, hasker⟩ | ⟨q, hq⟩
  · have own (request : Event) (hi : request.requestPlayer = some p)
        (ha : answer ∈ (w.games.handle cfg
          ⟨request, chance.playerOrder, chance.lobbyOrder, chance.pos_gen⟩).1) :
        Answers asker answer :=
      fun lib ord registry m hm =>
        let ⟨q, hq, hp⟩ := Lobbies.answer_of_handle cfg w.games _ answer ha
        Or.inr ⟨q, hp p hi ▸ hasker, forPlayer_of_answer hq lib ord registry m hm⟩
    cases e with
    | createLobbyRequest q => exact own (.createLobbyRequest q) hp ha
    | listLobbiesRequest q => exact own (.listLobbiesRequest q) hp ha
    | joinLobbyRequest q l => exact own (.joinLobbyRequest q l) hp ha
    | leaveLobbyRequest q => exact own (.leaveLobbyRequest q) hp ha
    | startGameRequest q => exact own (.startGameRequest q) hp ha
    | moveRequest q direction => cases ha
    | atackRequest q => cases ha
    | _ => cases hp
  · rcases hq with rfl | rfl
    · exact answers_of_connection timeout chance.now (Or.inl rfl) answer ha
    · exact answers_of_connection timeout chance.now (Or.inr rfl) answer ha

/-- A session that is named in an event is the first argument. -/
lemma session_of_makeEvent {t : MessageTypeVariant} {args : MessageArgs}
    (h : makeEvent t args = some e) :
    (∃ p, e.requestPlayer = some p) ∨
      ((t = .network .kJoin ∨ t = .network .kReconnect) ∧ ∃ s q, args.head? = some s ∧
        (e = .authRequested ⟨s⟩ q ∨ e = .reconnectRequested ⟨s⟩ q)) := by
  unfold makeEvent kEventFactoryMap at h
  split at h
  · cases h
  · rename_i factory hf
    split at hf <;> cases hf
    · obtain ⟨a, b, s, q, rfl, hs, -, rfl⟩ := createEvent₂_eq_some.mp h
      obtain rfl := Option.some.inj hs
      exact Or.inr ⟨Or.inl rfl, a, q, rfl, Or.inl rfl⟩
    · obtain ⟨a, b, s, q, rfl, hs, -, rfl⟩ := createEvent₂_eq_some.mp h
      obtain rfl := Option.some.inj hs
      exact Or.inr ⟨Or.inr rfl, a, q, rfl, Or.inr rfl⟩
    all_goals
      first
      | obtain ⟨a, p, -, -, rfl⟩ := createEvent₁_eq_some.mp h
        exact Or.inl ⟨p, rfl⟩
      | obtain ⟨a, b, p, x, -, -, -, rfl⟩ := createEvent₂_eq_some.mp h
        exact Or.inl ⟨p, rfl⟩

/-- What the router publishes was asked by the session and its player. -/
lemma askedBy_of_onRawMessage {registry : SessionRegistry} {session : SessionPtr}
    {buffer : ByteBuffer} (h : MessageRouter.onRawMessage lib registry session.session_id buffer =
      some e)
    (hproper : (registry.getPlayerIdBySessionId session.session_id).isSome ∨
      ∀ m, deserializeBufferToMessage lib buffer = some m → ¬ FillsPlayerSlot m.type m.args) :
    AskedBy ⟨session, registry.getPlayerIdBySessionId session.session_id⟩ e := by
  unfold MessageRouter.onRawMessage at h
  split at h
  · cases h
  · rename_i message hmessage
    rcases session_of_makeEvent h with ⟨p, hp⟩ | ⟨ht, s, q, hs, hq⟩
    · refine Or.inl ⟨p, hp, ?_⟩
      show registry.getPlayerIdBySessionId session.session_id = some p
      cases hb : registry.getPlayerIdBySessionId session.session_id with
      | some q => rw [MessageRouter.requestPlayer_of_bound hb h hp]
      | none =>
        rw [hb] at hproper
        have hfills := (MessageRouter.request_iff_of_unbound hb).mp ⟨e, p, h, hp⟩
        exact absurd hfills ((hproper.resolve_left (by simp)) message hmessage)
    · refine Or.inr ⟨q, ?_⟩
      have hslot : MessageRouter.slotArgs registry session.session_id message.type =
          [session.session_id.get] := by
        rcases ht with ht | ht <;> rw [ht] <;> rfl
      rw [hslot] at hs
      obtain rfl := Option.some.inj hs
      exact hq

/-! ### Runs -/

/-- The sessions in use were all accepted, and requests and answers on their way stand beside
who asked. -/
structure Inv (w : TcpServer) : Prop where
  numbered : w.Numbered
  registered : ∀ sid session, w.registry.sessions_.lookup sid = some session →
    session ∈ w.accepted
  consistent : w.registry.Consistent
  requests : ∀ request ∈ w.requests,
    request.1.session ∈ w.accepted ∧ AskedBy request.1 request.2
  answers : ∀ answer ∈ w.answers, answer.1.session ∈ w.accepted ∧ Answers answer.1 answer.2

lemma inv_init : init.Inv where
  numbered := numbered_init
  registered _ _ h := by simp [init, ConnectionManager.init, SessionRegistry.empty] at h
  consistent := SessionRegistry.consistent_empty
  requests _ h := absurd h List.not_mem_nil
  answers _ h := absurd h List.not_mem_nil

/-- The manager of connections registers only the sessions published to it. -/
lemma registered_of_step {m : ConnectionManager} {i : ConnectionManager.Input} {s : SessionId}
    {session : SessionPtr}
    (h : (m.step timeout i).session_registry_.sessions_.lookup s = some session) :
    m.session_registry_.sessions_.lookup s = some session ∨
      i.event = .clientConnected (some session) := by
  obtain ⟨now, event⟩ := i
  unfold ConnectionManager.step ConnectionManager.handle at h
  cases event with
  | clientConnected session' =>
    cases session' with
    | none => exact Or.inl h
    | some session' =>
      simp only [ConnectionManager.handleClientConnectedEvent, SessionRegistry.addSession] at h
      split_ifs at h with hs
      · exact Or.inl h
      · rw [lookup_insert_ite] at h
        split_ifs at h
        · exact Or.inr (by rw [Option.some.inj h])
        · exact Or.inl h
  | clientDisconnected session' =>
    cases session' with
    | none => exact Or.inl h
    | some session' =>
      simp only [ConnectionManager.disconnect_registry] at h
      exact Or.inl (SessionRegistry.lookup_of_removeSessionBySessionId h)
  | authRequested s' p =>
    by_cases hs : s' ∈ m.session_registry_.sessions_
    · simp only [ConnectionManager.auth_registered hs,
        SessionRegistry.sessions_bindPlayerToSession] at h
      exact Or.inl h
    · simp only [ConnectionManager.auth_absent hs] at h
      exact Or.inl h
  | reconnectRequested s' p =>
    by_cases ha : ConnectionManager.Accepts timeout m now s' p
    · simp only [ConnectionManager.reconnect_accepted ha,
        SessionRegistry.sessions_bindPlayerToSession] at h
      exact Or.inl h
    · simp only [ConnectionManager.reconnect_refused ha] at h
      exact Or.inl h
  | _ => exact Or.inl h

/-- The manager of connections takes a step: what is on its way stays. -/
lemma Inv.manager (h : w.Inv) (timeout : ℤ) {i : ConnectionManager.Input}
    (hi : ∀ session, i.event = .clientConnected (some session) → session ∈ w.accepted)
    (hj : ConnectionManager.JoinsInStep timeout w.manager i) :
    Inv { w with manager := w.manager.step timeout i } where
  numbered := ⟨h.numbered.bounded, h.numbered.next, h.numbered.ids⟩
  registered sid session hs := (registered_of_step hs).elim (h.registered sid session) (hi session)
  consistent := ConnectionManager.consistent_step h.consistent hj
  requests := h.requests
  answers := h.answers

/-- A handler changes its own manager only. -/
lemma handle_cases (cfg : Gameplay) (timeout : ℤ) (chance : Chance) (w : TcpServer) (e : Event) :
    ∃ manager games, (handle cfg timeout chance w e).2 =
        { w with manager := manager, games := games } ∧
      (manager = w.manager ∨ manager = w.manager.step timeout ⟨chance.now, e⟩ ∧
        ∀ session, e ≠ .clientConnected session) := by
  unfold handle
  split
  · exact ⟨_, _, rfl, Or.inl rfl⟩
  · exact ⟨_, _, rfl, Or.inl rfl⟩
  · exact ⟨_, _, rfl, Or.inr ⟨rfl, by simp⟩⟩
  · exact ⟨_, _, rfl, Or.inr ⟨rfl, by simp⟩⟩
  · exact ⟨_, _, rfl, Or.inl rfl⟩

lemma Inv.games (h : w.Inv) (games : Lobbies) : Inv { w with games := games } :=
  ⟨⟨h.numbered.bounded, h.numbered.next, h.numbered.ids⟩, h.registered, h.consistent,
    h.requests, h.answers⟩

/-- A request is handled: it leaves, and its answers stand beside whoever made it. -/
lemma Inv.handle (h : w.Inv) {i : ℕ} {chance : Chance}
    (hi : w.requests[i]? = some (asker, e))
    (hj : ConnectionManager.JoinsInStep timeout w.manager ⟨chance.now, e⟩) :
    Inv { (handle cfg timeout chance w e).2 with
      requests := w.requests.eraseIdx i
      answers := w.answers ++ (handle cfg timeout chance w e).1.map (asker, ·) } := by
  obtain ⟨haccepted, hasked⟩ := h.requests _ (List.mem_of_getElem? hi)
  obtain ⟨manager, games, hw, hm⟩ := handle_cases cfg timeout chance w e
  have hbase : Inv { w with manager := manager, games := games } := by
    rcases hm with rfl | ⟨rfl, hne⟩
    · exact h.games games
    · exact (h.manager timeout (fun session he => absurd he (hne _)) hj).games games
  rw [hw]
  refine ⟨⟨hbase.numbered.bounded, hbase.numbered.next, hbase.numbered.ids⟩, hbase.registered,
    hbase.consistent, fun request hr => h.requests request (List.mem_of_mem_eraseIdx hr), ?_⟩
  intro answer ha
  rcases List.mem_append.mp ha with ha | ha
  · exact h.answers answer ha
  · obtain ⟨event, hevent, rfl⟩ := List.mem_map.mp ha
    exact ⟨haccepted, answers_of_handle hasked event hevent⟩

lemma Inv.step (h : w.Inv) {a : Step} (ha : Proper lib timeout w a) :
    (step cfg lib timeout w a).Inv := by
  cases a with
  | accept =>
    have hmem {session : SessionPtr} (hs : session ∈ w.accepted) :
        session ∈ w.doAccept.accepted := List.mem_append_left _ hs
    exact ⟨h.numbered.doAccept ha, fun sid session hs => hmem (h.registered sid session hs),
      h.consistent, fun r hr => ⟨hmem (h.requests r hr).1, (h.requests r hr).2⟩,
      fun r hr => ⟨hmem (h.answers r hr).1, (h.answers r hr).2⟩⟩
  | connected session =>
    refine h.manager timeout (i := ⟨0, .clientConnected (some session)⟩)
      (fun session' he => ?_) trivial
    cases he
    exact ha
  | disconnected now session =>
    exact h.manager timeout (i := ⟨now, .clientDisconnected (some session)⟩)
      (fun session' he => by cases he) trivial
  | received session buffer =>
    cases he : MessageRouter.onRawMessage lib w.registry session.session_id buffer with
    | none =>
      simp only [TcpServer.step, he]
      exact h
    | some e =>
      simp only [TcpServer.step, he]
      refine ⟨⟨h.numbered.bounded, h.numbered.next, h.numbered.ids⟩, h.registered, h.consistent,
        fun r hr => ?_, h.answers⟩
      rcases List.mem_append.mp hr with hr | hr
      · exact h.requests r hr
      · obtain rfl := List.mem_singleton.mp hr
        exact ⟨ha.1, askedBy_of_onRawMessage he ha.2⟩
  | handle i chance =>
    cases hi : w.requests[i]? with
    | none =>
      simp only [TcpServer.step, hi]
      exact h
    | some request =>
      obtain ⟨asker, e⟩ := request
      simp only [TcpServer.step, hi]
      exact h.handle hi (ha asker e hi)
  | send i =>
    exact ⟨⟨h.numbered.bounded, h.numbered.next, h.numbered.ids⟩, h.registered, h.consistent,
      h.requests, fun answer hanswer => h.answers answer (List.mem_of_mem_eraseIdx hanswer)⟩
  | tick ord outcomes => exact h.games _

/-- Under the bindings of a state of a run, an answer goes where it should. -/
lemma Inv.rightful (h : w.Inv) {m : SessionPtr × ByteBuffer} {ord : IterOrder SessionId}
    (ha : (asker, e) ∈ w.answers) (hm : m ∈ onEvent lib ord w.registry e) :
    Rightful w asker m.1 := by
  obtain ⟨haccepted, hanswers⟩ := h.answers _ ha
  have found {s : SessionId} (hs : w.registry.sessions_.lookup s = some m.1) :
      m.1.session_id = s ∧ (s = asker.session.session_id → m.1 = asker.session) := by
    have hkey := w.registry.keyed s m.1 hs
    exact ⟨hkey, fun he => h.numbered.unique (h.registered s m.1 hs) haccepted (hkey.trans he)⟩
  rcases hanswers lib ord w.registry m hm with hs | ⟨p, hp, hs⟩
  · exact Or.inl ((found hs).2 rfl)
  · -- the player who asked is bound to the session found, and to no other
    unfold SessionRegistry.findSessionByPlayerId at hs
    split at hs
    · cases hs
    · rename_i s hps
      obtain ⟨hkey, hself⟩ := found hs
      have hsp := (h.consistent.inverse p s).mp hps
      by_cases hasker : w.registry.getPlayerIdBySessionId asker.session.session_id = some p
      · have hps' := (h.consistent.inverse p asker.session.session_id).mpr hasker
        exact Or.inl (hself (Option.some.inj (hps.symm.trans hps')))
      · subst hkey
        exact Or.inr ⟨p, hp, hps, hsp, hasker⟩

/-- **Answers stay with who asked.** However the accepting of connections, the messages of all
sessions, the handlers and the sending of answers interleave, as long as no unbound session names
a player and players join sessions that are free: whatever is sent for an answer goes to the
session on which it was asked for, or, where the player who asked is no longer that session's, to
the one session that the player is bound to now. -/
theorem answers_stay_with_who_asked (cfg : Gameplay) (lib : Libcbor) (timeout : ℤ)
    (steps : List Step) (h : Along (step cfg lib timeout) (Proper lib timeout) init steps)
    (ord : IterOrder SessionId) (i : ℕ) (asker : Asker) (e : Event)
    (hi : (run (step cfg lib timeout) init steps).answers[i]? = some (asker, e)) :
    ∀ m ∈ sentFor lib ord (run (step cfg lib timeout) init steps) i,
      Rightful (run (step cfg lib timeout) init steps) asker m.1 := by
  have hinv : Inv (run (step cfg lib timeout) init steps) :=
    (always_of_along (fun w a hw ha => hw.step ha) inv_init h).last
  intro m hm
  simp only [sentFor, hi] at hm
  exact hinv.rightful (List.mem_of_getElem? hi) hm

/-- A player opens a lobby on one session and comes back on another before the answer is sent. -/
def changesSession (chance : Chance) : List Step :=
  [.accept, .connected ⟨0, ⟨1⟩⟩,
    .received ⟨0, ⟨1⟩⟩ [0x82, 0x19, 0x00, 0x02, 0x07], .handle 0 chance,
    .received ⟨0, ⟨1⟩⟩ [0x81, 0x19, 0x01, 0x00], .handle 0 chance,
    .disconnected 0 ⟨0, ⟨1⟩⟩, .accept, .connected ⟨1, ⟨2⟩⟩,
    .received ⟨1, ⟨2⟩⟩ [0x82, 0x19, 0x00, 0x05, 0x07], .handle 0 chance]

theorem answer_follows_player :
    let chance : Chance := ⟨10, default, default, ⟨fun _ => ⟨0, 0⟩, 0⟩⟩
    let w := run (step .default .flat 30) init (changesSession chance)
    (sentFor .flat default w 1).map Prod.fst = [⟨1, ⟨2⟩⟩] ∧
      ∀ m ∈ sentFor .flat default w 1, Rightful w ⟨⟨0, ⟨1⟩⟩, some ⟨7⟩⟩ m.1 := by
  intro chance w
  refine ⟨by decide +kernel, ?_⟩
  refine answers_stay_with_who_asked .default .flat 30 (changesSession chance) ?_ default 1 _
    (.lobbyCreatedResponse ⟨7⟩ ⟨1⟩) (by decide +kernel)
  have joins {w : TcpServer} {e : Event} (hi : w.requests[0]?.map Prod.snd = some e)
      (hj : ConnectionManager.JoinsInStep 30 w.manager ⟨10, e⟩) (asker : Asker)
      (e' : Event) (hi' : w.requests[0]? = some (asker, e')) :
      ConnectionManager.JoinsInStep 30 w.manager ⟨10, e'⟩ := by
    rw [hi'] at hi
    rwa [show e' = e from Option.some.inj hi]
  have network {buffer : ByteBuffer} (t : NetworkMessageType) (args : MessageArgs)
      (hb : deserializeBufferToMessage .flat buffer = some ⟨.network t, args⟩)
      (m : DeserializedRawMessage) (hm : deserializeBufferToMessage .flat buffer = some m) :
      ¬ FillsPlayerSlot m.type m.args := by
    rw [← Option.some.inj (hb.symm.trans hm)]
    exact id
  simp only [changesSession, along_cons, along_nil, Proper, and_true]
  refine ⟨by decide, by decide, ⟨by decide, Or.inr ?_⟩, ?_,
    ⟨by decide +kernel, Or.inl (by decide +kernel)⟩, ?_, by decide +kernel, by decide +kernel,
    by decide +kernel, ⟨by decide +kernel, Or.inr ?_⟩, ?_⟩
  · exact network .kJoin [7] (by decide)
  · exact joins (e := .authRequested ⟨1⟩ ⟨7⟩) (by decide +kernel)
      (ConnectionManager.joinsInStep_auth.mpr fun _ => Or.inl (by decide +kernel))
  · exact joins (e := .createLobbyRequest ⟨7⟩) (by decide +kernel) trivial
  · exact network .kReconnect [7] (by decide)
  · exact joins (e := .reconnectRequested ⟨2⟩ ⟨7⟩) (by decide +kernel)
      (ConnectionManager.joinsInStep_reconnect.mpr fun _ => by decide +kernel)

end TcpServer

end DungeonCrawler
