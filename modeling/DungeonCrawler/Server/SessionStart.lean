import DungeonCrawler.Server.ConnectionManager
import DungeonCrawler.Server.Session

/-!
The start of a session on the accepting thread, beside the strand of the session.

`start` first posts the first read to the strand and then publishes that a client connected.
From the post on, the strand runs on another thread: it reads, routes what it has read, and
disconnects. The handler of a disconnect looks the player of the session up and then removes
the session, in two calls on the registry. Calls for other sessions come in between.
-/

namespace DungeonCrawler

namespace SessionStart

open Finmap Runs

/-- Where `start` stands. Adding the session is all that is left to do after the post. -/
inductive Thread
  | entered | posted | returned
  deriving DecidableEq

/-- What the strand is in the middle of. -/
inductive Doing
  | nothing
  | processing (messages : List ByteBuffer)
  | lookingUp
  | removing
  deriving DecidableEq

/-- An accepted session and the manager of connections. The messages that were routed while
the session was not yet added are kept beside them. -/
structure Accepted where
  thread : Thread
  doing : Doing
  read_posted : Bool
  reading : Bool
  socket_is_open : Bool
  state_ : Session.State
  manager : ConnectionManager
  early : List ByteBuffer

def init (manager : ConnectionManager) : Accepted :=
  ⟨.entered, .nothing, false, false, true, .Connected, manager, []⟩

def doRead (a : Accepted) : Accepted :=
  if !a.socket_is_open then a else { a with reading := true }

/-- The part of a disconnect before its event is handled. -/
def doDisconnect (a : Accepted) : Accepted :=
  if a.state_ = .Disconnected then a
  else { a with state_ := .Disconnected, socket_is_open := false, doing := .lookingUp }

/-- The first half of the handler of a disconnect. -/
def lookUp (m : ConnectionManager) (now : ℤ) (session_id : SessionId) : ConnectionManager :=
  match m.session_registry_.getPlayerIdBySessionId session_id with
  | some player_id =>
    { m with disconnected_players_ := m.disconnected_players_.insert player_id now }
  | none => m

/-- The second half. -/
def remove (m : ConnectionManager) (session_id : SessionId) : ConnectionManager :=
  { m with session_registry_ := (m.session_registry_.removeSessionBySessionId session_id).2 }

lemma handleClientDisconnectedEvent_eq (m : ConnectionManager) (now : ℤ) (session : SessionPtr) :
    (m.handleClientDisconnectedEvent now (some session)).2 =
      remove (lookUp m now session.session_id) session.session_id := by
  cases h : m.session_registry_.getPlayerIdBySessionId session.session_id <;>
    simp [ConnectionManager.handleClientDisconnectedEvent, lookUp, remove, h]

/-- The call adds or removes a session of the identifier. -/
def Concerns (session_id : SessionId) : SessionRegistry.Call → Bool
  | .addSession (some session) => session.session_id = session_id
  | .removeSessionBySessionId sid => sid = session_id
  | _ => false

inductive Step
  -- the accepting thread
  | postRead
  | publishConnected
  -- the strand
  | doRead
  | readCompleted (messages : List ByteBuffer)
  | routeNext
  | readFailed
  | disconnect
  | lookUpPlayer (now : ℤ)
  | removeSession
  -- other threads, and the handlers of what was routed
  | elsewhere (call : SessionRegistry.Call)

/-- The strand starts on a handler only when it is doing nothing. A step that is not the next
one of its thread changes nothing, nor does a call elsewhere for this session: identifiers are
handed out once. -/
def step (session : SessionPtr) (a : Accepted) : Step → Accepted
  | .postRead =>
    if a.thread = .entered then { a with thread := .posted, read_posted := true } else a
  | .publishConnected =>
    if a.thread = .posted then
      { a with
        thread := .returned
        manager := (a.manager.handleClientConnectedEvent (some session)).2 }
    else a
  | .doRead =>
    if a.doing = .nothing ∧ a.read_posted then SessionStart.doRead { a with read_posted := false }
    else a
  | .readCompleted messages =>
    if a.doing = .nothing ∧ a.reading then
      { a with reading := false, doing := .processing messages }
    else a
  | .routeNext =>
    match a.doing with
    | .processing (message :: messages) =>
      { a with
        doing := .processing messages
        early := if a.thread = .returned then a.early else a.early ++ [message] }
    | .processing [] => SessionStart.doRead { a with doing := .nothing }
    | _ => a
  | .readFailed =>
    if a.doing = .nothing ∧ a.reading then doDisconnect { a with reading := false } else a
  | .disconnect => if a.doing = .nothing then doDisconnect a else a
  | .lookUpPlayer now =>
    if a.doing = .lookingUp then
      { a with doing := .removing, manager := lookUp a.manager now session.session_id }
    else a
  | .removeSession =>
    if a.doing = .removing then
      { a with doing := .nothing, manager := remove a.manager session.session_id }
    else a
  | .elsewhere call =>
    if Concerns session.session_id call then a
    else { a with manager := { a.manager with
      session_registry_ := SessionRegistry.step a.manager.session_registry_ call } }

/-- The session has disconnected, the handler of the event included. -/
def Accepted.Disconnected (a : Accepted) : Prop :=
  a.state_ = .Disconnected ∧ a.doing ≠ .lookingUp ∧ a.doing ≠ .removing

def Accepted.Registered (a : Accepted) (session : SessionPtr) : Prop :=
  session.session_id ∈ a.manager.session_registry_.sessions_

/-- Once `start` has returned and the session has disconnected, the session is not in the
registry, and no message was routed before the session was added. -/
structure Orderly (session : SessionPtr) (a : Accepted) : Prop where
  gone : a.thread = .returned → a.Disconnected → ¬ a.Registered session
  none_early : a.early = []

/-- The session is added before it has disconnected, and a message is routed after that. -/
def AddsInTime (a : Accepted) : Step → Prop
  | .publishConnected => a.thread = .posted → ¬ a.Disconnected
  | .routeNext => ∀ message messages, a.doing = .processing (message :: messages) →
    a.thread = .returned
  | _ => True

/-! ### The registry -/

variable {session : SessionPtr} {a a' : Accepted} {r : SessionRegistry} {s : SessionId}

/-- A call for another session leaves this one where it is. -/
lemma mem_step_of_not_concerns {call : SessionRegistry.Call} (h : Concerns s call = false) :
    s ∈ (SessionRegistry.step r call).sessions_ ↔ s ∈ r.sessions_ := by
  cases call with
  | addSession session =>
    cases session with
    | none => rfl
    | some session =>
      have hne : s ≠ session.session_id := by
        rintro rfl
        simp [Concerns] at h
      exact SessionRegistry.mem_addSession.trans (or_iff_right hne)
  | bindPlayerToSession p t =>
    show s ∈ (r.bindPlayerToSession p t).2.sessions_ ↔ _
    rw [SessionRegistry.sessions_bindPlayerToSession]
  | removeSessionBySessionId t =>
    have hne : s ≠ t := by
      rintro rfl
      simp [Concerns] at h
    exact SessionRegistry.mem_removeSessionBySessionId.trans (and_iff_right hne)

/-! ### One step -/

/-- A step that neither adds the session nor ends its disconnect. -/
lemma Orderly.keep (h : Orderly session a) (ht : a'.thread = .returned → a.thread = .returned)
    (hd : a'.Disconnected → a.Disconnected) (hr : a'.Registered session → a.Registered session)
    (he : a'.early = a.early) : Orderly session a' :=
  ⟨fun ht' hd' hr' => h.gone (ht ht') (hd hd') (hr hr'), he.trans h.none_early⟩

lemma Orderly.doRead (h : Orderly session a) : Orderly session (doRead a) := by
  unfold SessionStart.doRead
  split_ifs
  · exact h
  · exact h.keep id id id rfl

/-- A disconnect is not over before the session is looked for in the registry. -/
lemma Orderly.doDisconnect (h : Orderly session a) : Orderly session (doDisconnect a) := by
  unfold SessionStart.doDisconnect
  split_ifs
  · exact h
  · exact ⟨fun _ hd => absurd rfl hd.2.1, h.none_early⟩

lemma Orderly.step_iff (h : Orderly session a) (e : Step) :
    Orderly session (step session a e) ↔ AddsInTime a e := by
  cases e with
  | postRead =>
    refine iff_of_true ?_ trivial
    rw [step]
    split_ifs with hc
    · exact ⟨fun ht => absurd ht (by simp), h.none_early⟩
    · exact h
  | publishConnected =>
    rw [step, AddsInTime]
    split_ifs with hc
    · constructor
      · intro h' _ hd
        exact h'.gone rfl hd (SessionRegistry.mem_addSession.mpr (Or.inl rfl))
      · exact fun hd => ⟨fun _ hd' => absurd hd' (hd hc), h.none_early⟩
    · exact iff_of_true h fun hc' => absurd hc' hc
  | doRead =>
    refine iff_of_true ?_ trivial
    rw [step]
    split_ifs
    · exact Orderly.doRead (h.keep id id id rfl)
    · exact h
  | readCompleted messages =>
    refine iff_of_true ?_ trivial
    rw [step]
    split_ifs with hc
    · refine h.keep id (fun hd => ⟨hd.1, ?_, ?_⟩) id rfl <;> simp [hc.1]
    · exact h
  | routeNext =>
    rw [step, AddsInTime]
    split <;> rename_i hdoing
    · -- the only step that routes a message
      rename_i message messages
      have rest (early : List ByteBuffer) (he : early = a.early) :
          Orderly session { a with doing := .processing messages, early := early } :=
        h.keep id (fun hd => ⟨hd.1, by simp [hdoing]⟩) id he
      by_cases ht : a.thread = .returned
      · rw [if_pos ht]
        exact iff_of_true (rest _ rfl) fun _ _ _ => ht
      · rw [if_neg ht]
        refine iff_of_false (fun h' => ?_) fun h' => ht (h' message messages hdoing)
        exact absurd h'.none_early (by simp)
    · refine iff_of_true (Orderly.doRead ?_) ?_
      · exact h.keep id (fun hd => ⟨hd.1, by simp [hdoing]⟩) id rfl
      · simp [hdoing]
    · refine iff_of_true h fun message messages he => ?_
      exact absurd he (by rename_i hno; exact hno message messages)
  | readFailed =>
    refine iff_of_true ?_ trivial
    rw [step]
    split_ifs
    · exact Orderly.doDisconnect (h.keep id id id rfl)
    · exact h
  | disconnect =>
    refine iff_of_true ?_ trivial
    rw [step]
    split_ifs
    · exact h.doDisconnect
    · exact h
  | lookUpPlayer now =>
    refine iff_of_true ?_ trivial
    rw [step]
    split_ifs
    · exact ⟨fun _ hd => absurd rfl hd.2.2, h.none_early⟩
    · exact h
  | removeSession =>
    refine iff_of_true ?_ trivial
    rw [step]
    split_ifs
    · exact ⟨fun _ _ hr => (SessionRegistry.mem_removeSessionBySessionId.mp hr).1 rfl, h.none_early⟩
    · exact h
  | elsewhere call =>
    refine iff_of_true ?_ trivial
    rw [step]
    split_ifs with hc
    · exact h
    · exact h.keep id id (mem_step_of_not_concerns (by simpa using hc)).mp rfl

lemma orderly_init (manager : ConnectionManager) : Orderly session (init manager) :=
  ⟨fun ht => absurd ht (by simp [init]), rfl⟩

/-- **When sessions come and go in order.** Along a run of the accepting thread, the strand
and the other threads, a session that has disconnected is not in the registry once `start`
has returned, and no message is routed before the session was added, exactly when the session
is added before its disconnect is over and before any of its messages is routed. -/
theorem always_orderly_iff (session : SessionPtr) (manager : ConnectionManager)
    (steps : List Step) :
    Always (step session) (Orderly session) (init manager) steps ↔
      Along (step session) AddsInTime (init manager) steps :=
  always_iff_along (fun _ e h => h.step_iff e) (orderly_init manager) steps

/-- A connection that is lost before it was announced leaves its session in the registry. -/
theorem lost_session_stays :
    ¬ ∀ (session : SessionPtr) (manager : ConnectionManager) (steps : List Step),
      session.session_id ∉ manager.session_registry_.sessions_ →
      Always (step session) (Orderly session) (init manager) steps := by
  intro h
  have ho := (h ⟨1, ⟨1⟩⟩ .init [.postRead, .doRead, .readFailed, .lookUpPlayer 0,
    .removeSession, .publishConnected] notMem_empty).last
  refine ho.gone rfl ⟨rfl, ?_, ?_⟩ ?_
  · decide
  · decide
  · exact SessionRegistry.mem_addSession.mpr (Or.inl rfl)

end SessionStart

end DungeonCrawler
