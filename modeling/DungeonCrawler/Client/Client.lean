import DungeonCrawler.Common.FrameCodec
import DungeonCrawler.Lib.Runs

/-!
The network client, driven by its strand.

A call of `startConnect`, `disconnect` or `send` is one step, and so is each completion of an
asynchronous operation, with success or an error. The operations whose completion has not run
yet are kept beside the client, with the attempt to connect that they were started for: a
handler does not know it, but what it may do depends on it. Cancelling an operation or
closing the socket only hastens completions. The callbacks of the user post to the strand and
change nothing here.
-/

namespace DungeonCrawler

namespace Client

open FrameCodec

def kMaxQueueSize : ℕ := 1000

inductive ConnectionState
  | Disconnected | Connecting | Connected
  deriving DecidableEq

end Client

/-- The socket is closed or open for an attempt. -/
structure Client where
  socket_ : Option ℕ
  read_buffer_ : ByteBuffer
  write_queue_ : List ByteBuffer
  current_write_message_ : ByteBuffer
  writing_ : Bool
  state_ : Client.ConnectionState
  deriving DecidableEq

namespace Client

open FrameCodec

inductive OpKind
  | resolve | connect | read | write
  deriving DecidableEq

/-- An asynchronous operation that was started for an attempt. -/
structure Op where
  kind : OpKind
  attempt : ℕ
  deriving DecidableEq

/-- A client and what was seen of it: the number of attempts so far, whether a disconnect was
handled since the last one began, the operations outstanding, and, of the last attempt, the
messages accepted and the buffers handed to `async_write`. -/
structure Strand where
  client : Client
  attempt : ℕ
  ended : Bool
  pending : List Op
  accepted : List ByteBuffer
  handed : List ByteBuffer
  deriving DecidableEq

def init : Strand := ⟨⟨none, [], [], [], false, .Disconnected⟩, 0, false, [], [], []⟩

def isConnected (c : Client) : Bool := c.state_ = .Connected

def resetState (c : Client) : Client :=
  { c with write_queue_ := [], writing_ := false, current_write_message_ := [], read_buffer_ := [] }

def closeSocket (c : Client) : Client := { c with socket_ := none }

/-- The resolver is cancelled, too. -/
def cleanupSocket (c : Client) : Client := closeSocket c

/-- An operation is started. -/
def Strand.start (t : Strand) (op : Op) : Strand := { t with pending := t.pending ++ [op] }

def handleDisconnect (t : Strand) : Strand :=
  let t := { t with ended := true }
  if t.client.state_ = .Disconnected then t
  else { t with client := closeSocket (resetState { t.client with state_ := .Disconnected }) }

def doRead (attempt : ℕ) (t : Strand) : Strand :=
  if !t.client.isConnected then t else t.start ⟨.read, attempt⟩

def doWrite (attempt : ℕ) (t : Strand) : Strand :=
  match t.client.write_queue_ with
  | [] => t
  | message :: queue =>
    if t.client.writing_ || !t.client.isConnected then t
    else
      { t with
        client := { t.client with
          write_queue_ := queue, current_write_message_ := message, writing_ := true }
        handed := t.handed ++ [message] }.start ⟨.write, attempt⟩

/-- The part of `startConnect` that runs on the strand; a new attempt begins. -/
def startConnect (t : Strand) : Strand :=
  let client := { resetState (cleanupSocket t.client) with state_ := .Connecting }
  { t with
    client := client
    attempt := t.attempt + 1
    ended := false
    accepted := []
    handed := [] }.start ⟨.resolve, t.attempt + 1⟩

/-- The part of `send` that runs on the strand. -/
def send (t : Strand) (message : ByteBuffer) : Strand :=
  if !t.client.isConnected || t.client.socket_.isNone then t
  else
    let encoded := encodeFrame message
    if encoded.isEmpty then t
    else if t.client.write_queue_.length ≥ kMaxQueueSize then t
    else
      let t := { t with
        client := { t.client with write_queue_ := t.client.write_queue_ ++ [encoded] }
        accepted := t.accepted ++ [message] }
      if !t.client.writing_ then doWrite t.attempt t else t

/-- How an operation ends; a read brings bytes. -/
inductive Result
  | success (data : ByteBuffer)
  | failure
  deriving DecidableEq

/-- The completion handlers. An operation that a handler starts is for the same attempt. -/
def complete (t : Strand) (op : Op) : Result → Strand
  | .success data =>
    match op.kind with
    | .resolve =>
      { t with client := { t.client with socket_ := some op.attempt } }.start
        ⟨.connect, op.attempt⟩
    | .connect => doRead op.attempt { t with client := { t.client with state_ := .Connected } }
    | .read =>
      let (_, read_buffer) := extractFrames (t.client.read_buffer_ ++ data)
      doRead op.attempt { t with client := { t.client with read_buffer_ := read_buffer } }
    | .write =>
      let t := { t with client := { t.client with writing_ := false } }
      if !t.client.write_queue_.isEmpty then doWrite op.attempt t else t
  | .failure =>
    match op.kind with
    | .write => handleDisconnect { t with client := { t.client with writing_ := false } }
    | _ => handleDisconnect t

inductive Step
  | startConnect
  | disconnect
  | send (message : ByteBuffer)
  | completed (op : Op) (result : Result)
  deriving DecidableEq

/-- Only an outstanding operation completes, and it completes once. -/
def step (t : Strand) : Step → Strand
  | .startConnect => startConnect t
  | .disconnect => handleDisconnect t
  | .send message => send t message
  | .completed op result =>
    if op ∈ t.pending then complete { t with pending := t.pending.erase op } op result else t

/-! ### What the handlers leave alone -/

variable {t t' : Strand} {attempt : ℕ}

/-- The second strand stands where the first one does, up to the writes. -/
structure SameConnection (t t' : Strand) : Prop where
  state : t'.client.state_ = t.client.state_
  socket : t'.client.socket_ = t.client.socket_
  attempt : t'.attempt = t.attempt
  ended : t'.ended = t.ended

lemma SameConnection.refl (t : Strand) : SameConnection t t := ⟨rfl, rfl, rfl, rfl⟩

lemma SameConnection.doRead (h : SameConnection t t') (attempt : ℕ) :
    SameConnection t (doRead attempt t') := by
  unfold Client.doRead
  split_ifs <;> exact ⟨h.state, h.socket, h.attempt, h.ended⟩

lemma SameConnection.doWrite (h : SameConnection t t') (attempt : ℕ) :
    SameConnection t (doWrite attempt t') := by
  unfold Client.doWrite
  split
  · exact h
  · split_ifs <;> exact ⟨h.state, h.socket, h.attempt, h.ended⟩

lemma sameConnection_send (t : Strand) (message : ByteBuffer) :
    SameConnection t (send t message) := by
  unfold send
  dsimp only
  split_ifs
  · exact .refl t
  · exact .refl t
  · exact .refl t
  · refine SameConnection.doWrite ?_ _
    exact ⟨rfl, rfl, rfl, rfl⟩
  · exact ⟨rfl, rfl, rfl, rfl⟩

/-- The handler of a write that succeeded writes on. -/
lemma complete_write (t : Strand) (attempt : ℕ) (data : ByteBuffer) :
    complete t ⟨.write, attempt⟩ (.success data) =
      doWrite attempt { t with client := { t.client with writing_ := false } } := by
  unfold complete
  dsimp only
  split_ifs with hq
  · rfl
  · have hq : t.client.write_queue_ = [] := by simpa using hq
    simp [doWrite, hq]

lemma sameConnection_write (t : Strand) (attempt : ℕ) (data : ByteBuffer) :
    SameConnection t (complete t ⟨.write, attempt⟩ (.success data)) := by
  rw [complete_write]
  refine SameConnection.doWrite ?_ attempt
  exact ⟨rfl, rfl, rfl, rfl⟩

lemma sameConnection_read (t : Strand) (attempt : ℕ) (data : ByteBuffer) :
    SameConnection t (complete t ⟨.read, attempt⟩ (.success data)) := by
  refine SameConnection.doRead ?_ attempt
  exact ⟨rfl, rfl, rfl, rfl⟩

lemma doRead_client (attempt : ℕ) (t : Strand) : (doRead attempt t).client = t.client := by
  unfold doRead
  split_ifs <;> rfl

lemma handleDisconnect_of_disconnected (h : t.client.state_ = .Disconnected) :
    handleDisconnect t = { t with ended := true } := if_pos h

lemma handleDisconnect_of_connected (h : t.client.state_ ≠ .Disconnected) :
    handleDisconnect t = { t with
      client := closeSocket (resetState { t.client with state_ := .Disconnected })
      ended := true } := if_neg h

/-- After a disconnect was handled the client is disconnected. -/
lemma handleDisconnect_spec (t : Strand) :
    (handleDisconnect t).client.state_ = .Disconnected ∧ (handleDisconnect t).ended = true ∧
      (handleDisconnect t).attempt = t.attempt ∧
      ((handleDisconnect t).client.socket_ = t.client.socket_ ∨
        (handleDisconnect t).client.socket_ = none) := by
  by_cases h : t.client.state_ = .Disconnected
  · rw [handleDisconnect_of_disconnected h]
    exact ⟨h, rfl, rfl, Or.inl rfl⟩
  · rw [handleDisconnect_of_connected h]
    exact ⟨rfl, rfl, rfl, Or.inr rfl⟩

end Client

end DungeonCrawler
