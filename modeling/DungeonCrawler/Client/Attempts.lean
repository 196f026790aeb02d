import DungeonCrawler.Client.Client

/-!
The handlers of an attempt to connect after it is over.

No handler knows the attempt it belongs to: one that runs late acts on the client as it
stands by then. What it does is harmless only in some states.
-/

namespace DungeonCrawler

namespace Client

open Runs

/-- The attempt of the operation was superseded by a later one. -/
def Superseded (t : Strand) (op : Op) : Prop := op.attempt < t.attempt

/-- The state and the queue are those before the step. -/
def Untouched (before after : Strand) : Prop :=
  after.client.state_ = before.client.state_ ∧
    after.client.write_queue_ = before.client.write_queue_

/-- What is asked of a step: once a disconnect was handled the client is not connected before
a later `startConnect`, and the handlers of an attempt that was ended or superseded leave the
state and the queue alone, and the socket of a later attempt. -/
def Safe (before : Strand) (e : Step) : Prop :=
  let after := step before e
  (after.ended → after.client.state_ ≠ .Connected) ∧
    ∀ op result, e = .completed op result →
      (before.ended → Untouched before after) ∧
      (Superseded before op → Untouched before after ∧
        after.client.socket_ = before.client.socket_)

/-- The handler finds the client in a state in which it does no harm: an address is resolved
for the last attempt; a connection is made while no disconnect was handled, for the last
attempt or when the client is connected already; a write of an earlier attempt completes while
nothing is queued or the client is not connected; and an operation of an earlier attempt fails
while the client is disconnected. -/
def Harmless (t : Strand) : Step → Prop
  | .completed op result => op ∈ t.pending →
    match result with
    | .failure => Superseded t op → t.client.state_ = .Disconnected
    | .success _ =>
      match op.kind with
      | .resolve => ¬ Superseded t op
      | .connect => t.ended = false ∧ (Superseded t op → t.client.state_ = .Connected)
      | .read => True
      | .write => Superseded t op →
        t.client.write_queue_ = [] ∨ t.client.state_ ≠ .Connected
  | _ => True

/-- A client after its disconnect was handled is disconnected, and an open socket is that of
the last attempt. -/
structure Settled (t : Strand) : Prop where
  disconnected : t.ended → t.client.state_ = .Disconnected
  socket : ∀ attempt, t.client.socket_ = some attempt → t.attempt ≤ attempt

variable {t t' : Strand} {op : Op} {data : ByteBuffer}

lemma settled_init : Settled init := ⟨fun h => (nomatch h), fun _ h => (nomatch h)⟩

lemma Settled.same (h : Settled t) (hs : SameConnection t t') : Settled t' := by
  refine ⟨fun he => ?_, fun attempt ha => ?_⟩
  · rw [hs.ended] at he
    rw [hs.state, h.disconnected he]
  · rw [hs.socket] at ha
    rw [hs.attempt]
    exact h.socket attempt ha

lemma Settled.handleDisconnect (h : Settled t) : Settled (handleDisconnect t) := by
  obtain ⟨hstate, -, hattempt, hsocket⟩ := handleDisconnect_spec t
  refine ⟨fun _ => hstate, fun attempt ha => ?_⟩
  rw [hattempt]
  rcases hsocket with hs | hs <;> rw [hs] at ha
  · exact h.socket attempt ha
  · cases ha

/-- The next buffer is taken off the queue of a connected client. -/
lemma doWrite_queue {attempt : ℕ} (hw : t.client.writing_ = false) :
    (doWrite attempt t).client.write_queue_ = t.client.write_queue_ ↔
      t.client.write_queue_ = [] ∨ t.client.state_ ≠ .Connected := by
  unfold doWrite
  split
  · simp_all
  · rename_i message queue hq
    split_ifs with hc
    · have hs : t.client.state_ ≠ .Connected := by simpa [hw, isConnected] using hc
      simp [hs]
    · have hs : t.client.state_ = .Connected := by simpa [hw, isConnected] using hc
      simp [Strand.start, hs, hq]

/-! ### One step -/

/-- What is left when the completion of an operation is taken off the list. -/
def Strand.without (t : Strand) (op : Op) : Strand := { t with pending := t.pending.erase op }

lemma settled_step (h : Settled t) (e : Step) (hc : Harmless t e) : Settled (step t e) := by
  cases e with
  | startConnect => exact ⟨fun he => (nomatch he), fun _ ha => (nomatch ha)⟩
  | disconnect => exact h.handleDisconnect
  | send message => exact h.same (sameConnection_send t message)
  | completed op result =>
    unfold step
    dsimp only
    split_ifs with hp
    · have hc := hc hp
      have h' : Settled (t.without op) := ⟨h.disconnected, h.socket⟩
      obtain ⟨kind, attempt⟩ := op
      cases result with
      | failure =>
        cases kind with
        | write => exact Settled.handleDisconnect ⟨h'.disconnected, h'.socket⟩
        | _ => exact h'.handleDisconnect
      | success data =>
        cases kind with
        | resolve =>
          refine ⟨h.disconnected, fun a ha => ?_⟩
          obtain rfl : attempt = a := Option.some.inj ha
          exact not_lt.mp hc
        | connect =>
          have connected : Settled { t.without ⟨.connect, attempt⟩ with
              client := { t.client with state_ := .Connected } } :=
            ⟨fun he => absurd (hc.1.symm.trans he) (by decide), h.socket⟩
          exact connected.same (SameConnection.doRead (.refl _) attempt)
        | read => exact h'.same (sameConnection_read _ attempt data)
        | write => exact h'.same (sameConnection_write _ attempt data)
    · exact h

/-- A step that leaves the connection alone where the client may not be connected. -/
lemma Settled.not_connected (h : Settled t) (hs : SameConnection t t') (he : t'.ended) :
    t'.client.state_ ≠ .Connected := by
  rw [(h.same hs).disconnected he]
  decide

/-- A handler that reports a failure is harmless where the client is disconnected. -/
lemma safe_failure (h : Settled t) (op : Op) (hc : t'.client = t.client ∨
    t'.client = { t.client with writing_ := false }) :
    ((handleDisconnect t').ended → (handleDisconnect t').client.state_ ≠ .Connected) ∧
      (t.ended → Untouched t (handleDisconnect t')) ∧
      (Superseded t op → Untouched t (handleDisconnect t') ∧
        (handleDisconnect t').client.socket_ = t.client.socket_) ↔
      (Superseded t op → t.client.state_ = .Disconnected) := by
  have hstate : (handleDisconnect t').client.state_ = .Disconnected := (handleDisconnect_spec t').1
  have untouched (hd : t.client.state_ = .Disconnected) :
      Untouched t (handleDisconnect t') ∧
        (handleDisconnect t').client.socket_ = t.client.socket_ := by
    rcases hc with hc | hc <;>
      rw [handleDisconnect_of_disconnected (by rw [hc]; exact hd), Untouched, hc] <;>
      exact ⟨⟨rfl, rfl⟩, rfl⟩
  refine ⟨fun ⟨_, _, hsup⟩ hop => ?_, fun hop => ⟨fun _ => ?_, fun he => ?_, ?_⟩⟩
  · rw [← hstate]
    exact (hsup hop).1.1.symm
  · rw [hstate]
    exact (nomatch ·)
  · exact (untouched (h.disconnected he)).1
  · exact fun hs => untouched (hop hs)

/-- What is asked of a completion handler. -/
def SafeHandler (before after : Strand) (op : Op) : Prop :=
  (after.ended → after.client.state_ ≠ .Connected) ∧
    (before.ended → Untouched before after) ∧
    (Superseded before op → Untouched before after ∧
      after.client.socket_ = before.client.socket_)

lemma safe_completed {result : Result} :
    Safe t (.completed op result) ↔ SafeHandler t (step t (.completed op result)) op := by
  refine and_congr_right fun _ => ⟨fun h => h op result rfl, ?_⟩
  rintro h op' result' he
  cases he
  exact h

lemma safe_resolve (h : Settled t) (attempt : ℕ) (data : ByteBuffer) :
    SafeHandler t (complete (t.without ⟨.resolve, attempt⟩) ⟨.resolve, attempt⟩ (.success data))
      ⟨.resolve, attempt⟩ ↔ ¬ Superseded t ⟨.resolve, attempt⟩ := by
  refine ⟨fun ⟨_, _, hsup⟩ hs => ?_, fun hs => ⟨fun he => ?_, fun _ => ⟨rfl, rfl⟩, (absurd · hs)⟩⟩
  · -- the socket would have been open for the earlier attempt before
    have hsocket : some attempt = t.client.socket_ := (hsup hs).2
    exact absurd (h.socket attempt hsocket.symm) (not_le.mpr hs)
  · have hstate : t.client.state_ ≠ .Connected := h.not_connected (.refl t) he
    exact hstate

lemma safe_connect (t : Strand) (attempt : ℕ) (data : ByteBuffer) :
    SafeHandler t (complete (t.without ⟨.connect, attempt⟩) ⟨.connect, attempt⟩ (.success data))
      ⟨.connect, attempt⟩ ↔
      t.ended = false ∧ (Superseded t ⟨.connect, attempt⟩ → t.client.state_ = .Connected) := by
  have hclient : (complete (t.without ⟨.connect, attempt⟩) ⟨.connect, attempt⟩
      (.success data)).client = { t.client with state_ := .Connected } := doRead_client _ _
  have hended : (complete (t.without ⟨.connect, attempt⟩) ⟨.connect, attempt⟩
      (.success data)).ended = t.ended := (SameConnection.doRead (.refl _) attempt).ended
  simp only [SafeHandler, Untouched, hclient, hended]
  refine ⟨fun ⟨hnot, _, hsup⟩ => ⟨?_, fun hs => (hsup hs).1.1.symm⟩, fun ⟨he, hsup⟩ => ?_⟩
  · exact Bool.eq_false_of_not_eq_true fun he => hnot he rfl
  · rw [he]
    exact ⟨(nomatch ·), (nomatch ·), fun hs => ⟨⟨(hsup hs).symm, trivial⟩, trivial⟩⟩

lemma safe_read (h : Settled t) (attempt : ℕ) (data : ByteBuffer) :
    SafeHandler t (complete (t.without ⟨.read, attempt⟩) ⟨.read, attempt⟩ (.success data))
      ⟨.read, attempt⟩ := by
  have h' : Settled (t.without ⟨.read, attempt⟩) := ⟨h.disconnected, h.socket⟩
  have same := sameConnection_read (t.without ⟨.read, attempt⟩) attempt data
  have queue : (complete (t.without ⟨.read, attempt⟩) ⟨.read, attempt⟩
      (.success data)).client.write_queue_ = t.client.write_queue_ := by
    show (doRead attempt _).client.write_queue_ = _
    rw [doRead_client]
    rfl
  exact ⟨h'.not_connected same, fun _ => ⟨same.state, queue⟩,
    fun _ => ⟨⟨same.state, queue⟩, same.socket⟩⟩

lemma safe_write (h : Settled t) (attempt : ℕ) (data : ByteBuffer) :
    SafeHandler t (complete (t.without ⟨.write, attempt⟩) ⟨.write, attempt⟩ (.success data))
      ⟨.write, attempt⟩ ↔ (Superseded t ⟨.write, attempt⟩ →
        t.client.write_queue_ = [] ∨ t.client.state_ ≠ .Connected) := by
  have h' : Settled (t.without ⟨.write, attempt⟩) := ⟨h.disconnected, h.socket⟩
  have same := sameConnection_write (t.without ⟨.write, attempt⟩) attempt data
  have queue : (complete (t.without ⟨.write, attempt⟩) ⟨.write, attempt⟩
      (.success data)).client.write_queue_ = t.client.write_queue_ ↔
      t.client.write_queue_ = [] ∨ t.client.state_ ≠ .Connected := by
    rw [complete_write]
    exact doWrite_queue rfl
  refine ⟨fun ⟨_, _, hsup⟩ hs => queue.mp (hsup hs).1.2, fun hs => ⟨h'.not_connected same, ?_, ?_⟩⟩
  · exact fun he => ⟨same.state, queue.mpr (Or.inr (h.not_connected (.refl t) he))⟩
  · exact fun hop => ⟨⟨same.state, queue.mpr (hs hop)⟩, same.socket⟩

/-- A completion handler is safe exactly where it is harmless. -/
lemma safeHandler_iff (h : Settled t) (op : Op) (result : Result) (hp : op ∈ t.pending) :
    SafeHandler t (complete (t.without op) op result) op ↔ Harmless t (.completed op result) := by
  simp only [Harmless, hp, forall_const]
  obtain ⟨kind, attempt⟩ := op
  cases result with
  | failure =>
    cases kind with
    | write => exact safe_failure h _ (Or.inr rfl)
    | _ => exact safe_failure h _ (Or.inl rfl)
  | success data =>
    cases kind with
    | resolve => exact safe_resolve h attempt data
    | connect => exact safe_connect t attempt data
    | read => exact iff_of_true (safe_read h attempt data) trivial
    | write => exact safe_write h attempt data

lemma safe_iff_harmless (h : Settled t) (e : Step) : Safe t e ↔ Harmless t e := by
  cases e with
  | startConnect =>
    exact iff_of_true ⟨fun he => (nomatch he), fun _ _ he => (nomatch he)⟩ trivial
  | disconnect =>
    refine iff_of_true ⟨fun _ => ?_, fun _ _ he => (nomatch he)⟩ trivial
    rw [show (step t .disconnect).client.state_ = _ from (handleDisconnect_spec t).1]
    decide
  | send message =>
    refine iff_of_true ⟨fun he => ?_, fun _ _ he => (nomatch he)⟩ trivial
    exact h.not_connected (sameConnection_send t message) he
  | completed op result =>
    rw [safe_completed]
    by_cases hp : op ∈ t.pending
    · rw [show step t (.completed op result) = complete (t.without op) op result from if_pos hp]
      exact safeHandler_iff h op result hp
    · rw [show step t (.completed op result) = t from if_neg hp]
      refine iff_of_true ⟨h.not_connected (.refl t), fun _ => ⟨rfl, rfl⟩,
        fun _ => ⟨⟨rfl, rfl⟩, rfl⟩⟩ fun hp' => absurd hp' hp

/-- **When late handlers do no harm.** Along a run of the client's strand every step is safe
exactly when every handler that runs finds the client in a state in which it is harmless. -/
theorem safe_along_iff (steps : List Step) :
    Along step Safe init steps ↔ Along step Harmless init steps := by
  rw [along_iff_eachStep]
  refine eachStep_iff_along (fun us e hus => ?_) steps
  have settled := always_of_along (fun t e => settled_step (e := e)) settled_init hus
  exact safe_iff_harmless settled.last e

/-- The address of an attempt is resolved after the client disconnected; the connection made
for it connects the client again. -/
theorem reconnects_after_disconnect :
    ¬ ∀ steps, Along step Safe init steps := by
  intro h
  have hs := h [.startConnect, .disconnect, .completed ⟨.resolve, 1⟩ (.success []),
    .completed ⟨.connect, 1⟩ (.success [])]
    [.startConnect, .disconnect, .completed ⟨.resolve, 1⟩ (.success [])] _ [] rfl
  exact hs.1 (by decide) (by decide)

end Client

end DungeonCrawler
