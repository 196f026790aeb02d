import DungeonCrawler.Server.GameIsolation
import DungeonCrawler.System.Uplink

/-!
From the console to the dungeon.

The session hands each message it receives to the router, which publishes a request for the
player that the session is bound to; the manager of games takes the requests one after the other
from its strand and gives them to the dungeon of the player. Meanwhile sessions come and go, and
other players make requests of their own.
-/

namespace DungeonCrawler

open Runs ClientController ByteStream

namespace Ui

/-- The call on a dungeon that a line asks for when the player types it. -/
def typedCall (cfg : Gameplay) (p : PlayerId) (line : Text) : Option Dungeon.Call :=
  match Words.words isWhitespace line with
  | [] => none
  | cmd :: rest =>
    if cmd = Commands.kMove then
      (rest.head?.bind directionFromString).map (.addMovePlayerCommand p)
    else if cmd = Commands.kAttack then
      some (.addPlayerAttackCommand p cfg.player_default_attack)
    else none

end Ui

/-- What the manager of games subscribes to as a command. -/
def commandInput : Event → Option Games.Input
  | .moveRequest player_id direction => some (.moveRequest player_id direction)
  | .atackRequest player_id => some (.attackRequest player_id)
  | _ => none

/-- The call that an input makes on the dungeon of the player, if it is a command of the
player. -/
def callBy (cfg : Gameplay) (p : PlayerId) : Games.Input → Option Dungeon.Call
  | .moveRequest q direction =>
    if q = p then some (.addMovePlayerCommand q direction) else none
  | .attackRequest q =>
    if q = p then some (.addPlayerAttackCommand q cfg.player_default_attack) else none
  | _ => none

/-- The call is a command of the player. -/
def isBy (p : PlayerId) : Dungeon.Call → Bool
  | .addPlayerAttackCommand q _ => q = p
  | .addMovePlayerCommand q _ => q = p
  | .processTick _ => false

/-- A connection, how many of the messages received on it the router has taken, the registry of
sessions, the commands on the strand of the manager, and the games. Beside them stands all that
the games were given so far. -/
structure CommandPath where
  link : Uplink
  routed : ℕ
  registry : SessionRegistry
  posted : List Games.Input
  games : Lobbies
  given : List Games.Input

namespace CommandPath

inductive Step
  | link (e : Uplink.Step)
  /-- The router takes the next message. -/
  | route
  /-- The manager takes the next command from its strand. -/
  | handle
  /-- Sessions come and go. -/
  | registry (c : SessionRegistry.Call)
  /-- The handlers take something else. -/
  | games (i : Games.Input)

def give (cfg : Gameplay) (w : CommandPath) (i : Games.Input) : CommandPath :=
  { w with games := Games.step cfg w.games i, given := w.given ++ [i] }

variable (cfg : Gameplay) (lib : Libcbor) (s : SessionId) (p : PlayerId)

def step (w : CommandPath) : Step → CommandPath
  | .link e => { w with link := Uplink.step lib w.link e }
  | .route =>
    match w.link.session.received[w.routed]? with
    | none => w
    | some message => { w with
        routed := w.routed + 1
        posted := w.posted ++
          ((MessageRouter.onRawMessage lib w.registry s message).bind commandInput).toList }
  | .handle =>
    match w.posted with
    | [] => w
    | i :: posted => give cfg { w with posted := posted } i
  | .registry c => { w with registry := SessionRegistry.step w.registry c }
  | .games i => give cfg w i

/-- The session is the one of the player: it is not bound to another one, and nobody else makes
requests in the name of the player. A write that succeeds is one of the connection. -/
def Own (w : CommandPath) : Step → Prop
  | .link e => Uplink.Within w.link e
  | .registry c => ∀ q, (SessionRegistry.step w.registry c).getPlayerIdBySessionId s = some q →
    q = p
  | .games i => callBy cfg p i = none
  | _ => True

/-! ### A message on its way through the router -/

/-- The call that a message asks for on a session of the player. -/
def messageCall (message : ByteBuffer) : Option Dungeon.Call :=
  (deserializeBufferToMessage lib message).bind fun m =>
    ((makeEvent m.type (p.get :: m.args)).bind commandInput).bind (callBy cfg p)

variable {cfg lib s p} {line : Text} {m : ByteBuffer} {registry : SessionRegistry}

open Ui

lemma directionFromString_of_toString {direction : Direction} {name : Text}
    (h : directionToString direction = some name) : directionFromString name = some direction := by
  unfold directionToString at h
  split_ifs at h <;> cases h <;> subst_vars <;> decide

/-- The direction that was sent is the one that is cast back. -/
lemma makeEvent_move (p : PlayerId) (direction : Direction) :
    makeEvent (.domain .kMove) [p.get, direction.byte.toUInt64] =
      some (.moveRequest p direction) := by
  have hlt : direction.byte.toUInt64.toNat < 256 := direction.byte.toNat_lt
  have hcast : safeArgumentCast direction.byte.toUInt64 = some direction := by
    show (if _ then _ else _) = _
    rw [if_pos hlt, UInt8.toUInt8_toUInt64]
  exact createEvent₂_eq_some.mpr ⟨_, _, p, direction, rfl, rfl, hcast, rfl⟩

lemma callBy_move (direction : Direction) :
    callBy cfg p (.moveRequest p direction) = some (.addMovePlayerCommand p direction) := if_pos rfl

lemma callBy_attack : callBy cfg p (.attackRequest p) =
    some (.addPlayerAttackCommand p cfg.player_default_attack) := if_pos rfl

/-- The message made of a line asks for the call that the line asks for. -/
lemma messageCall_of_message (hl : lib.RoundTripsOn CborItem.UintArray)
    (hm : message lib line = some m) : messageCall cfg lib p m = typedCall cfg p line := by
  obtain ⟨typed, t, args, htypes, hsent, hser⟩ := routeCommand_message hm
  obtain ⟨bytes, hser', hdes⟩ := message_roundTrip hl hsent.isReal args
  obtain rfl : bytes = m := Option.some.inj (hser'.symm.trans hser)
  unfold messageCall typedCall
  rw [hdes]
  generalize Words.words isWhitespace line = words at htypes
  cases hsent with
  | join henc => cases htypes; rfl
  | createLobby => cases htypes; rfl
  | listLobby => cases htypes; rfl
  | joinLobby lobbyId => cases htypes; rfl
  | startGame => cases htypes; rfl
  | move direction =>
    cases htypes with
    | move rest hname =>
      simp only [Option.bind_some, makeEvent_move, commandInput, callBy_move, List.head?_cons,
        directionFromString_of_toString hname, Option.map_some]
      rfl
  | attack =>
    cases htypes
    show callBy cfg p (.attackRequest p) = _
    rw [callBy_attack]
    rfl

/-- A line for which no message is made asks for nothing. -/
lemma typedCall_of_no_message (hl : lib.RoundTripsOn CborItem.UintArray)
    (hm : message lib line = none) : typedCall cfg p line = none := by
  have sent {t : MessageTypeVariant} (ht : t.IsReal) (args : MessageArgs) :
      (trySerialize lib t args).2 ≠ none := by
    obtain ⟨bytes, hser, -⟩ := message_roundTrip hl ht args
    simp [trySerialize, hser]
  unfold typedCall
  split
  · rfl
  · rename_i cmd rest hwords
    obtain ⟨iss, hcmd, hrest⟩ := Words.takeWord_of_words hwords
    have hextract : (extract line).getD ([], []) = (cmd, iss) := by
      rw [show extract line = some (cmd, iss) from hcmd]
      rfl
    unfold message routeCommand at hm
    rw [hextract] at hm
    split_ifs with hmove hattack
    · subst hmove
      cases rest with
      | nil => rfl
      | cons name rest =>
        obtain ⟨iss', hname, -⟩ := Words.takeWord_of_words hrest
        have hextract' : extract iss = some (name, iss') := hname
        cases hdir : directionFromString name with
        | none => simp [hdir]
        | some direction =>
          obtain ⟨-, hbyte⟩ := directionFromString_eq_some hdir
          dsimp only at hm
          simp only [hextract', hdir, Option.bind_some, hbyte] at hm
          exact absurd hm (sent (Typed.Sent.move direction).isReal _)
    · subst hattack
      exact absurd hm (sent Typed.Sent.attack.isReal [])
    · rfl

lemma filterMap_typedCall (hl : lib.RoundTripsOn CborItem.UintArray) (commands : List Text) :
    commands.filterMap (typedCall cfg p) =
      (commands.filterMap (message lib)).filterMap (messageCall cfg lib p) := by
  rw [List.filterMap_filterMap]
  refine List.filterMap_congr fun line _ => ?_
  cases hm : message lib line with
  | none => exact typedCall_of_no_message hl hm
  | some m => exact (messageCall_of_message hl hm).symm

/-- Only commands of players are commands. -/
lemma commandInput_of_not_request {t : MessageTypeVariant} {args : MessageArgs}
    (ht : ¬ MessageRouter.IsPlayerRequest t) : (makeEvent t args).bind commandInput = none := by
  have joined (event : SessionId → PlayerId → Event)
      (hevent : ∀ s p, commandInput (event s p) = none) :
      (createEvent₂ event args).bind commandInput = none := by
    cases he : createEvent₂ event args with
    | none => rfl
    | some e =>
      obtain ⟨-, -, s, p, -, -, -, rfl⟩ := createEvent₂_eq_some.mp he
      exact hevent s p
  unfold MessageRouter.IsPlayerRequest at ht
  cases t with
  | monostate => rfl
  | network t => cases t <;> first | rfl | exact joined _ fun _ _ => rfl
  | app t => cases t <;> first | rfl | exact absurd trivial ht
  | domain t => cases t <;> first | rfl | exact absurd trivial ht

/-- On a session that is bound to the player a message makes the call that it asks for. -/
lemma routed_bound (hb : registry.getPlayerIdBySessionId s = some p) (m : ByteBuffer) :
    ((MessageRouter.onRawMessage lib registry s m).bind commandInput).bind (callBy cfg p) =
      messageCall cfg lib p m := by
  unfold MessageRouter.onRawMessage messageCall
  cases deserializeBufferToMessage lib m with
  | none => rfl
  | some message =>
    simp only [Option.bind_some]
    by_cases ht : MessageRouter.IsPlayerRequest message.type
    · rw [MessageRouter.slotArgs_playerRequest ht, hb]
      rfl
    · rw [commandInput_of_not_request ht, commandInput_of_not_request ht]

/-- On a session that is bound to nobody the message of a line makes none. -/
lemma routed_unbound (hl : lib.RoundTripsOn CborItem.UintArray)
    (hb : registry.getPlayerIdBySessionId s = none) (hm : message lib line = some m) :
    (MessageRouter.onRawMessage lib registry s m).bind commandInput = none := by
  obtain ⟨typed, t, args, -, hsent, hser⟩ := routeCommand_message hm
  rw [onRawMessage_serialized hl hsent.isReal hser]
  by_cases ht : MessageRouter.IsPlayerRequest t
  · rw [MessageRouter.slotArgs_playerRequest ht, hb]
    cases hsent <;> rfl
  · exact commandInput_of_not_request ht

/-! ### What is kept -/

/-- A step of the connection takes nothing back that was received. -/
lemma received_step (lib : Libcbor) (u : Uplink) (e : Uplink.Step) :
    u.session.received <+: (Uplink.step lib u e).session.received := by
  have commands (u : Uplink) (lines : List Text) (message : Text → Option ByteBuffer) :
      (lines.foldl (fun u line => u.command line (message line)) u).session = u.session := by
    induction lines generalizing u with
    | nil => rfl
    | cons line lines ih => exact ih _
  cases e with
  | stdin e =>
    unfold Uplink.step
    dsimp only
    rw [commands _ _ fun line => (onStdinLine lib line).2]
  | key key =>
    unfold Uplink.step
    rw [commands _ _ fun _ => (onKeyPressed lib key).2]
  | posted =>
    unfold Uplink.step
    dsimp only
    split <;> exact List.prefix_rfl
  | completed op data =>
    unfold Uplink.step
    dsimp only
    split_ifs <;> exact List.prefix_rfl
  | transfer n => exact List.prefix_rfl
  | arrive n => exact List.prefix_append _ _

/-- A message that was received was made of a command. -/
lemma message_of_received {u : Uplink} (h : Uplink.Carried lib u)
    (hm : m ∈ u.session.received) : ∃ line, message lib line = some m := by
  have hsub := (h.received.1.sublist.trans (List.sublist_append_left _ u.posted)).trans h.routed
  obtain ⟨line, -, hline⟩ := List.mem_filterMap.mp (hsub.subset hm)
  exact ⟨line, hline⟩

/-- The games are what the inputs led to, and the commands of the player among these, with those
on the strand, were asked for by messages that the router has taken, in their order. -/
structure Carries (cfg : Gameplay) (lib : Libcbor) (s : SessionId) (p : PlayerId)
    (w : CommandPath) : Prop where
  link : Uplink.Carried lib w.link
  routed_le : w.routed ≤ w.link.session.received.length
  bound : ∀ q, w.registry.getPlayerIdBySessionId s = some q → q = p
  games : w.games = run (Games.step cfg) .init w.given
  own : Games.OnTheirOwn cfg w.given
  calls : ((w.given ++ w.posted).filterMap (callBy cfg p)).Sublist
    ((w.link.session.received.take w.routed).filterMap (messageCall cfg lib p))

variable {w : CommandPath}

lemma Carries.give (h : Carries cfg lib s p w) {i : Games.Input} {posted : List Games.Input}
    (hp : ((w.given ++ i :: posted).filterMap (callBy cfg p)).Sublist
      ((w.given ++ w.posted).filterMap (callBy cfg p))) :
    Carries cfg lib s p (CommandPath.give cfg { w with posted := posted } i) := by
  refine ⟨h.link, h.routed_le, h.bound, ?_, h.own.snoc i, ?_⟩
  · show Games.step cfg w.games i = _
    rw [h.games]
    exact (run_snoc ..).symm
  · show (((w.given ++ [i]) ++ posted).filterMap (callBy cfg p)).Sublist _
    rw [List.append_assoc, List.singleton_append]
    exact hp.trans h.calls

/-- What the router posts for a message. -/
def postedFor (lib : Libcbor) (s : SessionId) (w : CommandPath) (m : ByteBuffer) :
    List Games.Input :=
  ((MessageRouter.onRawMessage lib w.registry s m).bind commandInput).toList

lemma filterMap_toList {α β : Type} (o : Option α) (f : α → Option β) :
    o.toList.filterMap f = (o.bind f).toList := by
  cases o with
  | none => rfl
  | some a => cases h : f a <;> simp [h]

lemma filterMap_take_succ {α β : Type} {l : List α} {n : ℕ} {a : α} {f : α → Option β}
    (h : l[n]? = some a) :
    (l.take (n + 1)).filterMap f = (l.take n).filterMap f ++ (f a).toList := by
  rw [List.take_add_one, h, List.filterMap_append, filterMap_toList]
  rfl

/-- The next message makes the call that it asks for, or none while the session is bound to
nobody. -/
lemma Carries.postedFor (h : Carries cfg lib s p w) (hl : lib.RoundTripsOn CborItem.UintArray)
    (hm : m ∈ w.link.session.received) :
    (CommandPath.postedFor lib s w m).filterMap (callBy cfg p) =
      if (w.registry.getPlayerIdBySessionId s).isSome then (messageCall cfg lib p m).toList
      else [] := by
  unfold CommandPath.postedFor
  cases hb : w.registry.getPlayerIdBySessionId s with
  | none =>
    obtain ⟨line, hline⟩ := message_of_received h.link hm
    rw [routed_unbound hl hb hline]
    rfl
  | some q =>
    obtain rfl := h.bound q hb
    rw [filterMap_toList, routed_bound hb]
    rfl

lemma Carries.route (h : Carries cfg lib s p w) (hl : lib.RoundTripsOn CborItem.UintArray) :
    Carries cfg lib s p (CommandPath.step cfg lib s w .route) := by
  unfold CommandPath.step
  dsimp only
  split
  · exact h
  · rename_i m hm
    obtain ⟨hlt, -⟩ := List.getElem?_eq_some_iff.mp hm
    refine ⟨h.link, hlt, h.bound, h.games, h.own, ?_⟩
    show ((w.given ++ (w.posted ++ CommandPath.postedFor lib s w m)).filterMap _).Sublist
      ((w.link.session.received.take (w.routed + 1)).filterMap (messageCall cfg lib p))
    rw [filterMap_take_succ hm, ← List.append_assoc, List.filterMap_append,
      h.postedFor hl (List.mem_of_getElem? hm)]
    refine h.calls.append ?_
    split_ifs
    · exact List.Sublist.refl _
    · exact List.nil_sublist _

lemma Carries.step (h : Carries cfg lib s p w) (hl : lib.RoundTripsOn CborItem.UintArray)
    (e : Step) (ho : Own cfg s p w e) : Carries cfg lib s p (CommandPath.step cfg lib s w e) := by
  cases e with
  | link e =>
    have hreceived := received_step lib w.link e
    refine ⟨h.link.step e ho, h.routed_le.trans hreceived.length_le, h.bound, h.games, h.own, ?_⟩
    obtain ⟨more, hmore⟩ := hreceived
    show ((w.given ++ w.posted).filterMap (callBy cfg p)).Sublist
      (((Uplink.step lib w.link e).session.received.take w.routed).filterMap _)
    rw [← hmore, List.take_append_of_le_length h.routed_le]
    exact h.calls
  | route => exact h.route hl
  | handle =>
    unfold CommandPath.step
    dsimp only
    split
    · exact h
    · rename_i i posted hposted
      exact h.give (by rw [hposted])
  | registry c => exact ⟨h.link, h.routed_le, ho, h.games, h.own, h.calls⟩
  | games i =>
    have hnone : callBy cfg p i = none := ho
    have hgiven : (w.given ++ i :: w.posted).filterMap (callBy cfg p) =
        (w.given ++ w.posted).filterMap (callBy cfg p) := by
      rw [List.filterMap_append, List.filterMap_append, List.filterMap_cons_none hnone]
    exact h.give (by rw [hgiven])

/-! ### What the dungeons took -/

/-- The server has just started. -/
def start (link : Uplink) : CommandPath := ⟨link, 0, .empty, [], .init, []⟩

lemma carries_start {link : Uplink} (h : Uplink.Carried lib link) :
    Carries cfg lib s p (start link) :=
  ⟨h, Nat.zero_le _, (fun _ hq => nomatch hq), rfl, Games.onTheirOwn_nil, List.nil_sublist _⟩

/-- Of the calls that inputs make on a dungeon, those of one of its players are the commands of
that player among the inputs. -/
lemma filter_callsOn (g : GameId) (ps : List PlayerId) (inputs : List Games.Input) :
    (inputs.flatMap (Games.callsOn cfg g ps)).filter (isBy p) =
      if ps.contains p then inputs.filterMap (callBy cfg p) else [] := by
  -- a command of any player, on a dungeon of the players `ps`
  have command {q : PlayerId} {call : Dungeon.Call} (hq : isBy p call = decide (q = p)) :
      (if ps.contains q then [call] else []).filter (isBy p) =
        if ps.contains p then (if q = p then some call else none).toList else [] := by
    by_cases hqp : q = p
    · simp only [hqp, if_true]
      split_ifs <;> simp [hq, hqp]
    · simp only [hqp, if_false]
      split_ifs <;> simp [hq, hqp]
  have one (i : Games.Input) : (Games.callsOn cfg g ps i).filter (isBy p) =
      if ps.contains p then (callBy cfg p i).toList else [] := by
    cases i with
    | request j => simp [Games.callsOn, callBy]
    | gameTick ord outcomes => simp [Games.callsOn, callBy, isBy]
    | moveRequest q direction => exact command rfl
    | attackRequest q => exact command rfl
  induction inputs with
  | nil => simp
  | cons i inputs ih =>
    rw [List.flatMap_cons, List.filter_append, one, ih]
    split_ifs
    · cases hi : callBy cfg p i <;> simp [hi]
    · rfl

/-- What has become of a dungeon: it was made when the inputs had come so far, and of the calls it
took since then those of the player are the ones listed. -/
def Took (cfg : Gameplay) (p : PlayerId) (w : CommandPath) (g : GameId) (dungeon : Dungeon)
    (us vs : List Games.Input) (calls : List Dungeon.Call) : Prop :=
  ∃ i ps, w.given = us ++ .request i :: vs ∧
    w.games.dungeon_registry_.dungeon_to_players_.lookup g = some ps ∧
    dungeon = run (Dungeon.step cfg) (Dungeon.create cfg (.ofCfg cfg) ps i.pos_gen) calls ∧
    calls.filter (isBy p) = if ps.contains p then vs.filterMap (callBy cfg p) else []

lemma Carries.took (h : Carries cfg lib s p w) {g : GameId} {dungeon : Dungeon}
    (hg : w.games.dungeon_registry_.findDungeon g = some dungeon) :
    ∃ us vs calls, Took cfg p w g dungeon us vs calls := by
  rw [h.games] at hg
  obtain ⟨us, i, vs, ps, hgiven, -, -, hps, hrun⟩ := h.own g dungeon hg
  exact ⟨us, vs, _, i, ps, hgiven, h.games ▸ hps, hrun, filter_callsOn g ps vs⟩

lemma Carries.sublist (h : Carries cfg lib s p w) (hl : lib.RoundTripsOn CborItem.UintArray) :
    (w.given.filterMap (callBy cfg p)).Sublist
      (w.link.commands.filterMap (typedCall cfg p)) := by
  have hreceived := (h.link.received.1.sublist.trans
    (List.sublist_append_left _ w.link.posted)).trans h.link.routed
  have taken := (List.sublist_append_left w.given w.posted).filterMap (callBy cfg p)
  rw [filterMap_typedCall hl]
  exact (taken.trans h.calls).trans
    (((List.take_sublist _ _).trans hreceived).filterMap (messageCall cfg lib p))

/-- Every dungeon is what calls have made of it among which those of the player were typed, each
at most once and in their order. -/
def TookTyped (cfg : Gameplay) (p : PlayerId) (w : CommandPath) : Prop :=
  ∀ g dungeon, w.games.dungeon_registry_.findDungeon g = some dungeon → ∃ ps gen calls,
    dungeon = run (Dungeon.step cfg) (Dungeon.create cfg (.ofCfg cfg) ps gen) calls ∧
    (calls.filter (isBy p)).Sublist (w.link.commands.filterMap (typedCall cfg p))

lemma Carries.tookTyped (h : Carries cfg lib s p w) (hl : lib.RoundTripsOn CborItem.UintArray) :
    TookTyped cfg p w := by
  intro g dungeon hg
  obtain ⟨us, vs, calls, i, ps, hgiven, -, hrun, hcalls⟩ := h.took hg
  refine ⟨ps, i.pos_gen, calls, hrun, ?_⟩
  rw [hcalls]
  split_ifs
  · have later : (vs.filterMap (callBy cfg p)).Sublist (w.given.filterMap (callBy cfg p)) := by
      rw [hgiven]
      exact ((List.sublist_cons_self _ _).trans (List.sublist_append_right _ _)).filterMap _
    exact later.trans (h.sublist hl)
  · exact List.nil_sublist _

/-- **Dungeons take what was typed.** In every run of the server with a connection whose session is
the player's own, however the console, the keyboard, the client, the socket, the session, the
router, the manager of games, other sessions and the requests of other players interleave. -/
theorem dungeons_take_what_was_typed (cfg : Gameplay) (lib : Libcbor)
    (hl : lib.RoundTripsOn CborItem.UintArray) (s : SessionId) (p : PlayerId)
    {opened : Client.Strand} (ho : Client.Opened opened) (reader : StdinReader.Reading)
    (waiting : List Text) {steps : List Step}
    (hw : Along (step cfg lib s) (Own cfg s p)
      (start (Uplink.start lib reader waiting opened)) steps) :
    TookTyped cfg p
      (run (step cfg lib s) (start (Uplink.start lib reader waiting opened)) steps) :=
  Carries.tookTyped (always_of_along (I := Carries cfg lib s p) (fun _ e h hw => h.step hl e hw)
    (carries_start (Uplink.carried_start ho reader waiting)) hw).last hl

lemma bound_to_of {o : Option PlayerId} (h : o = none ∨ o = some p) : ∀ q, o = some q → q = p := by
  rintro q rfl
  simpa using h

/-- The player enters a game, types a line, presses a key, and both commands are carried out. -/
noncomputable def attackAndMove : List Step :=
  [.registry (.addSession (some ⟨1, ⟨1⟩⟩)), .registry (.bindPlayerToSession ⟨7⟩ ⟨1⟩),
    .games (Games.ask (.createLobbyRequest ⟨7⟩)), .games (Games.ask (.startGameRequest ⟨7⟩)),
    .link (.stdin (.data "ATTACK\n".toList)), .link (.stdin .completed), .link (.key 'W'),
    .link .posted, .link (.transfer 30), .link .posted, .link (.arrive 9),
    .link (.completed ⟨.write, 1⟩ []), .link (.transfer 40), .link (.arrive 50),
    .route, .handle, .route, .games (.moveRequest ⟨8⟩ Direction.kUp), .handle]

theorem attack_and_move_taken :
    let opened := run Client.step Client.init [.startConnect,
      .completed ⟨.resolve, 1⟩ (.success []), .completed ⟨.connect, 1⟩ (.success [])]
    TookTyped Games.deadly ⟨7⟩ (run (step Games.deadly .definite ⟨1⟩)
      (start (Uplink.start .definite .init [] opened)) attackAndMove) := by
  intro opened
  refine dungeons_take_what_was_typed Games.deadly .definite
    Libcbor.definite_roundTrips.uintArrays ⟨1⟩ ⟨7⟩
    ⟨[], [.completed ⟨.resolve, 1⟩ (.success [])], [], ?_, by decide, rfl⟩ _ _ ?_
  · simp [along_cons, along_nil, Client.Dials]
  · simp only [attackAndMove, along_cons, along_nil, Own, Uplink.Within, and_true, true_and]
    exact ⟨bound_to_of (by decide +kernel), bound_to_of (by decide +kernel), rfl, rfl,
      fun _ => by decide +kernel, by decide⟩

/-! ### When nothing gets lost -/

/-- Sends find room, and the session is bound whenever the router takes a message. -/
def Undisturbed (s : SessionId) (w : CommandPath) : Step → Prop
  | .link e => Uplink.FindsRoom w.link e
  | .route => (w.registry.getPlayerIdBySessionId s).isSome
  | _ => True

/-- All that was asked for is with the games or on the strand. -/
structure CarriesAll (cfg : Gameplay) (lib : Libcbor) (s : SessionId) (p : PlayerId)
    (w : CommandPath) : Prop extends Carries cfg lib s p w where
  none_dropped : Uplink.NoneDropped lib w.link
  all_calls : (w.given ++ w.posted).filterMap (callBy cfg p) =
    (w.link.session.received.take w.routed).filterMap (messageCall cfg lib p)

lemma CarriesAll.step (h : CarriesAll cfg lib s p w) (hl : lib.RoundTripsOn CborItem.UintArray)
    (e : Step) (ho : Own cfg s p w e) (hu : Undisturbed s w e) :
    CarriesAll cfg lib s p (CommandPath.step cfg lib s w e) := by
  refine ⟨h.toCarries.step hl e ho, ?_, ?_⟩
  · cases e with
    | link e => exact h.none_dropped.step h.link e ho hu
    | route =>
      unfold CommandPath.step
      dsimp only
      split <;> exact h.none_dropped
    | handle =>
      unfold CommandPath.step
      dsimp only
      split <;> exact h.none_dropped
    | registry c => exact h.none_dropped
    | games i => exact h.none_dropped
  · cases e with
    | link e =>
      obtain ⟨more, hmore⟩ := received_step lib w.link e
      show _ = ((Uplink.step lib w.link e).session.received.take w.routed).filterMap _
      rw [← hmore, List.take_append_of_le_length h.routed_le]
      exact h.all_calls
    | route =>
      unfold CommandPath.step
      dsimp only
      split
      · exact h.all_calls
      · rename_i m hm
        show (w.given ++ (w.posted ++ CommandPath.postedFor lib s w m)).filterMap _ =
          (w.link.session.received.take (w.routed + 1)).filterMap (messageCall cfg lib p)
        have hbound : (w.registry.getPlayerIdBySessionId s).isSome := hu
        rw [filterMap_take_succ hm, ← List.append_assoc, List.filterMap_append, h.all_calls,
          h.postedFor hl (List.mem_of_getElem? hm), if_pos hbound]
    | handle =>
      unfold CommandPath.step
      dsimp only
      split
      · exact h.all_calls
      · rename_i i posted hposted
        show ((w.given ++ [i]) ++ posted).filterMap _ = _
        rw [List.append_assoc, List.singleton_append, ← hposted]
        exact h.all_calls
    | registry c => exact h.all_calls
    | games i =>
      have hnone : callBy cfg p i = none := ho
      show ((w.given ++ [i]) ++ w.posted).filterMap _ = _
      rw [List.append_assoc, List.singleton_append, List.filterMap_append,
        List.filterMap_cons_none hnone, ← List.filterMap_append]
      exact h.all_calls

/-- Nothing is on its way any more. -/
def Settled (w : CommandPath) : Prop :=
  w.link.posted = [] ∧ Uplink.Quiet w.link ∧ w.routed = w.link.session.received.length ∧
    w.posted = []

/-- The dungeon of the player has taken all that was typed, but for what was with the games before
it was made. -/
def TookAll (cfg : Gameplay) (p : PlayerId) (w : CommandPath) : Prop :=
  ∀ g dungeon, w.games.dungeon_registry_.findDungeon g = some dungeon →
    w.games.dungeon_registry_.findPlayerDungeon p = some g →
    ∃ us i vs ps calls, w.given = us ++ .request i :: vs ∧
      dungeon = run (Dungeon.step cfg) (Dungeon.create cfg (.ofCfg cfg) ps i.pos_gen) calls ∧
      us.filterMap (callBy cfg p) ++ calls.filter (isBy p) =
        w.link.commands.filterMap (typedCall cfg p)

lemma CarriesAll.given (h : CarriesAll cfg lib s p w) (hl : lib.RoundTripsOn CborItem.UintArray)
    (hs : Settled w) : w.given.filterMap (callBy cfg p) =
      w.link.commands.filterMap (typedCall cfg p) := by
  obtain ⟨hlink, hquiet, hrouted, hposted⟩ := hs
  have hall := h.all_calls
  have hnone := h.none_dropped
  rw [hposted, List.append_nil, hrouted, List.take_length, h.link.received.2 hquiet] at hall
  rw [Uplink.NoneDropped, hlink, List.append_nil] at hnone
  rw [hall, hnone, filterMap_typedCall hl]

lemma CarriesAll.tookAll (h : CarriesAll cfg lib s p w)
    (hl : lib.RoundTripsOn CborItem.UintArray) (hs : Settled w) : TookAll cfg p w := by
  intro g dungeon hg hp
  obtain ⟨us, vs, calls, i, ps, hgiven, hps, hrun, hcalls⟩ := h.took hg
  have sound : w.games.dungeon_registry_.Sound := by
    rw [h.games]
    exact (Games.sound_run cfg w.given).dungeons
  have hmem : ps.contains p := by
    rw [DungeonRegistry.findPlayerDungeon, sound.in_list, hps] at hp
    simpa using hp
  refine ⟨us, i, vs, ps, calls, hgiven, hrun, ?_⟩
  have start : callBy cfg p (.request i) = none := rfl
  rw [hcalls, if_pos hmem, ← h.given hl hs, hgiven, List.filterMap_append,
    List.filterMap_cons_none start]

/-- **No command gets lost.** If the session is the player's own and bound whenever a message is
routed, and every send that runs finds room, then once nothing is on its way the dungeon of the
player has taken all commands typed, in their order, but for those that came before the game
began. -/
theorem dungeon_takes_all_that_was_typed (cfg : Gameplay) (lib : Libcbor)
    (hl : lib.RoundTripsOn CborItem.UintArray) (s : SessionId) (p : PlayerId)
    {opened : Client.Strand} (ho : Client.Opened opened) (reader : StdinReader.Reading)
    (waiting : List Text) {steps : List Step}
    (hw : Along (step cfg lib s) (fun w e => Own cfg s p w e ∧ Undisturbed s w e)
      (start (Uplink.start lib reader waiting opened)) steps) :
    let w := run (step cfg lib s) (start (Uplink.start lib reader waiting opened)) steps
    Settled w → TookAll cfg p w := by
  have hstart : CarriesAll cfg lib s p (start (Uplink.start lib reader waiting opened)) :=
    ⟨carries_start (Uplink.carried_start ho reader waiting),
      Uplink.noneDropped_start ho reader waiting, rfl⟩
  exact (always_of_along (I := CarriesAll cfg lib s p)
    (fun _ e h hw => h.step hl e hw.1 hw.2) hstart hw).last.tookAll hl

theorem attack_and_move_all_taken :
    let opened := run Client.step Client.init [.startConnect,
      .completed ⟨.resolve, 1⟩ (.success []), .completed ⟨.connect, 1⟩ (.success [])]
    TookAll Games.deadly ⟨7⟩ (run (step Games.deadly .definite ⟨1⟩)
      (start (Uplink.start .definite .init [] opened)) attackAndMove) := by
  intro opened
  refine dungeon_takes_all_that_was_typed Games.deadly .definite
    Libcbor.definite_roundTrips.uintArrays ⟨1⟩ ⟨7⟩
    ⟨[], [.completed ⟨.resolve, 1⟩ (.success [])], [], ?_, by decide, rfl⟩ _ _ ?_
    ⟨by decide +kernel, by decide +kernel, by decide +kernel, by decide +kernel⟩
  · simp [along_cons, along_nil, Client.Dials]
  · simp only [attackAndMove, along_cons, along_nil, Own, Undisturbed, Uplink.Within,
      Uplink.FindsRoom, and_true, true_and]
    exact ⟨bound_to_of (by decide +kernel), bound_to_of (by decide +kernel), rfl, rfl,
      by decide +kernel, by decide +kernel, fun _ => by decide +kernel, by decide +kernel⟩

end CommandPath

end DungeonCrawler
