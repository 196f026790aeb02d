import DungeonCrawler.Common.FrameCodec
import DungeonCrawler.Lib.Runs

/-!
The writing side of a server session.

A session is driven by its strand: each call of `send`, each completion of a write and each
disconnect is one step. The writes handed to the socket and not yet completed are kept
beside the session, with all the buffers handed over and all the messages sent so far.
-/

namespace DungeonCrawler

namespace Session

open FrameCodec Runs

inductive State
  | Connected | Disconnected
  deriving DecidableEq

end Session

structure Session where
  socket_is_open : Bool
  write_queue_ : List ByteBuffer
  state_ : Session.State
  deriving DecidableEq

namespace Session

open FrameCodec Runs

/-- A session and what was seen of it: the messages sent while it was connected, the buffers
handed to `async_write`, and those of them whose write has not completed. -/
structure Strand where
  session : Session
  sent : List ByteBuffer
  handed : List ByteBuffer
  outstanding : List ByteBuffer
  deriving DecidableEq

def init : Strand := ⟨⟨true, [], .Connected⟩, [], [], []⟩

def doWrite (t : Strand) : Strand :=
  if !t.session.socket_is_open then t
  else
    match t.session.write_queue_ with
    | [] => t
    | msg_ptr :: queue =>
      { t with
        session := { t.session with write_queue_ := queue }
        handed := t.handed ++ [msg_ptr]
        outstanding := t.outstanding ++ [msg_ptr] }

/-- The part of `send` that runs on the strand. -/
def send (t : Strand) (msg : ByteBuffer) : Strand :=
  if t.session.state_ ≠ .Connected then t
  else
    let t := { t with sent := t.sent ++ [msg] }
    let encoded := encodeFrame msg
    if encoded.isEmpty then t
    else
      let idle := t.session.write_queue_.isEmpty
      let t := { t with session :=
        { t.session with write_queue_ := t.session.write_queue_ ++ [encoded] } }
      if idle then doWrite t else t

def doDisconnect (t : Strand) : Strand :=
  if t.session.state_ = .Disconnected then t
  else { t with session := ⟨false, [], .Disconnected⟩ }

/-- The completion of one of the outstanding writes, with success or an error. -/
def onWritten (t : Strand) (i : ℕ) (success : Bool) : Strand :=
  if i < t.outstanding.length then
    let t := { t with outstanding := t.outstanding.eraseIdx i }
    if success then
      if !t.session.write_queue_.isEmpty then doWrite t else t
    else doDisconnect t
  else t

inductive Step
  | send (msg : ByteBuffer)
  | written (i : ℕ) (success : Bool)
  | disconnect

def step (t : Strand) : Step → Strand
  | .send msg => send t msg
  | .written i success => onWritten t i success
  | .disconnect => doDisconnect t

/-- The frames of the messages that a frame can carry. -/
def frames (sent : List ByteBuffer) : List ByteBuffer :=
  (sent.filter fun msg => msg.length ≤ kMaxMessageSize).map encodeFrame

/-- At most one write is outstanding; the buffers handed over, then those queued, are the
frames of the messages sent, in their order; and while nothing is outstanding nothing
waits. -/
structure Serialized (t : Strand) : Prop where
  one_outstanding : t.outstanding.length ≤ 1
  in_order : t.handed ++ t.session.write_queue_ = frames t.sent
  none_waits : t.outstanding = [] → t.session.write_queue_ = []

/-- A message that will be written is sent while no write is outstanding. -/
def SendsWhenQuiet (t : Strand) : Step → Prop
  | .send msg => t.session.state_ = .Connected → msg.length ≤ kMaxMessageSize →
    t.outstanding = []
  | _ => True

/-! ### The queue between two steps -/

lemma frames_snoc (sent : List ByteBuffer) (msg : ByteBuffer) :
    frames (sent ++ [msg]) =
      frames sent ++ if msg.length ≤ kMaxMessageSize then [encodeFrame msg] else [] := by
  unfold frames
  split_ifs with h <;> simp [List.filter_append, h]

/-- The queue is empty between two steps: what is put on it leaves it in the same step. -/
structure Drained (t : Strand) : Prop where
  queue : t.session.write_queue_ = []
  socket : t.session.state_ = .Connected → t.session.socket_is_open
  handed : t.handed = frames t.sent

lemma drained_init : Drained init := ⟨rfl, fun _ => rfl, rfl⟩

/-- What `send` does on a drained session. -/
lemma send_cases {t : Strand} (h : Drained t) (msg : ByteBuffer) :
    (t.session.state_ = .Connected ∧ msg.length ≤ kMaxMessageSize ∧
      send t msg = { t with
        sent := t.sent ++ [msg]
        handed := t.handed ++ [encodeFrame msg]
        outstanding := t.outstanding ++ [encodeFrame msg] }) ∨
    (t.session.state_ = .Connected ∧ kMaxMessageSize < msg.length ∧
      send t msg = { t with sent := t.sent ++ [msg] }) ∨
    (t.session.state_ ≠ .Connected ∧ send t msg = t) := by
  obtain ⟨⟨is_open, queue, state⟩, sent, handed, outstanding⟩ := t
  obtain ⟨rfl, hs, -⟩ := h
  by_cases hc : state = .Connected
  · obtain rfl : is_open = true := hs hc
    by_cases hm : msg.length ≤ kMaxMessageSize
    · have he := encodeFrame_isEmpty.not.mpr (not_lt.mpr hm)
      exact Or.inl ⟨hc, hm, by simp [send, hc, he, doWrite]⟩
    · have he := encodeFrame_isEmpty.mpr (not_le.mp hm)
      exact Or.inr (Or.inl ⟨hc, not_le.mp hm, by simp [send, hc, he]⟩)
  · exact Or.inr (Or.inr ⟨hc, by simp [send, hc]⟩)

lemma doDisconnect_cases (t : Strand) :
    doDisconnect t = t ∨ doDisconnect t = { t with session := ⟨false, [], .Disconnected⟩ } := by
  unfold doDisconnect
  split_ifs
  · exact Or.inl rfl
  · exact Or.inr rfl

lemma Drained.doDisconnect {t : Strand} (h : Drained t) : Drained (doDisconnect t) := by
  rcases doDisconnect_cases t with he | he
  · rwa [he]
  · rw [he]
    exact ⟨rfl, by simp, h.handed⟩

/-- A completion finds nothing to write. -/
lemma onWritten_cases {t : Strand} (h : Drained t) (i : ℕ) (success : Bool) :
    onWritten t i success = t ∨
      onWritten t i success = { t with outstanding := t.outstanding.eraseIdx i } ∨
      onWritten t i success =
        Session.doDisconnect { t with outstanding := t.outstanding.eraseIdx i } := by
  unfold onWritten
  split_ifs with hi hs
  · exact Or.inr (Or.inl (by simp [h.queue]))
  · exact Or.inr (Or.inr rfl)
  · exact Or.inl rfl

lemma Drained.step {t : Strand} (h : Drained t) (e : Step) : Drained (step t e) := by
  cases e with
  | send msg =>
    rcases send_cases h msg with ⟨hc, hm, he⟩ | ⟨hc, hm, he⟩ | ⟨hc, he⟩
    · rw [Session.step, he]
      exact ⟨h.queue, h.socket, by simp [h.handed, frames_snoc, hm]⟩
    · rw [Session.step, he]
      exact ⟨h.queue, h.socket, by simp [h.handed, frames_snoc, not_le.mpr hm]⟩
    · rw [Session.step, he]
      exact h
  | written i success =>
    have hd : Drained { t with outstanding := t.outstanding.eraseIdx i } :=
      ⟨h.queue, h.socket, h.handed⟩
    rcases onWritten_cases h i success with he | he | he <;> rw [Session.step, he]
    · exact h
    · exact hd
    · exact hd.doDisconnect
  | disconnect => exact h.doDisconnect

lemma serialized_iff {t : Strand} (h : Drained t) :
    Serialized t ↔ t.outstanding.length ≤ 1 := by
  refine ⟨fun hs => hs.one_outstanding, fun ho => ⟨ho, ?_, fun _ => h.queue⟩⟩
  rw [h.queue, List.append_nil, h.handed]

lemma doDisconnect_outstanding (t : Strand) :
    (doDisconnect t).outstanding = t.outstanding := by
  rcases doDisconnect_cases t with he | he <;> rw [he]

/-- A step keeps one write at most exactly when it does not start a second one. -/
lemma outstanding_step_iff {t : Strand} (h : Drained t) (ho : t.outstanding.length ≤ 1)
    (e : Step) : (step t e).outstanding.length ≤ 1 ↔ SendsWhenQuiet t e := by
  cases e with
  | send msg =>
    unfold SendsWhenQuiet
    rcases send_cases h msg with ⟨hc, hm, he⟩ | ⟨hc, hm, he⟩ | ⟨hc, he⟩ <;>
      rw [step, he]
    · -- the only step that starts a write
      simp [hc, hm]
    · exact iff_of_true ho fun _ hm' => absurd hm' (not_le.mpr hm)
    · exact iff_of_true ho fun hc' => absurd hc' hc
  | written i success =>
    refine iff_of_true ?_ trivial
    have hl := List.length_eraseIdx_le t.outstanding i
    rcases onWritten_cases h i success with he | he | he <;> rw [step, he]
    · exact ho
    · exact hl.trans ho
    · rw [doDisconnect_outstanding]
      exact hl.trans ho
  | disconnect =>
    refine iff_of_true ?_ trivial
    rwa [step, doDisconnect_outstanding]

/-- **When writes are serialized.** Along a run of the strand at most one write is
outstanding, and the buffers handed over are the frames of the messages sent in their
order, exactly when no message that will be written is sent while a write is
outstanding. -/
theorem always_serialized_iff (steps : List Step) :
    Always step Serialized init steps ↔ Along step SendsWhenQuiet init steps := by
  refine always_iff_along_of_inv (J := Drained) (fun t e h => h.step e) drained_init
    (fun t e h hs => ?_) ((serialized_iff drained_init).mpr (by decide)) steps
  rw [serialized_iff (h.step e)]
  exact outstanding_step_iff h hs.one_outstanding e

/-- Two messages sent before the first write completes are two writes at once. -/
theorem second_send_overlaps :
    ¬ ∀ steps, (∀ msg, Step.send msg ∈ steps → msg.length ≤ kMaxMessageSize) →
      Always step Serialized init steps := by
  intro h
  have hs := (h [.send [1], .send [2]] (by simp [kMaxMessageSize])).last
  exact absurd hs.one_outstanding (by decide)

end Session

end DungeonCrawler
