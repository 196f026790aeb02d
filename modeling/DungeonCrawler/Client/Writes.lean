import DungeonCrawler.Client.Client

/-!
The writes of one connection.

The flag `writing_`, the queue and the buffer handed to `async_write` change together: a
write is outstanding exactly while the flag is set, and only then something is queued.
-/

namespace DungeonCrawler

namespace Client

open Runs FrameCodec

/-! ### One connection -/

/-- While an attempt is under way no connection is made. -/
def Dials (_ : Strand) : Step → Prop
  | .send _ => True
  | .completed op (.success _) => op.kind ≠ .connect
  | _ => False

/-- A connection was made: that of the last attempt, the first one since it began, and no
disconnect was handled meanwhile. -/
def Opened (t : Strand) : Prop :=
  ∃ history steps data,
    let dialed := run step (startConnect (run step init history)) steps
    Along step Dials (startConnect (run step init history)) steps ∧
      ⟨.connect, dialed.attempt⟩ ∈ dialed.pending ∧
      t = step dialed (.completed ⟨.connect, dialed.attempt⟩ (.success data))

/-- A step within a connection: a message is sent, or an operation completes; a write that
completes is one of the connection. -/
def Within (t : Strand) : Step → Prop
  | .send _ => True
  | .completed op (.success _) => op.kind = .write → op.attempt = t.attempt
  | _ => False

/-- The message is short enough and there is room in the queue. -/
def Accepts (t : Strand) (message : ByteBuffer) : Prop :=
  message.length ≤ kMaxMessageSize ∧ t.client.write_queue_.length < kMaxQueueSize

instance (t : Strand) (message : ByteBuffer) : Decidable (Accepts t message) :=
  inferInstanceAs (Decidable (_ ∧ _))

/-- The message that arrives with a step, if it is accepted. -/
def arrival (t : Strand) : Step → List ByteBuffer
  | .send message => if Accepts t message then [message] else []
  | _ => []

/-- The messages accepted along a run, in the order of their arrival. -/
def arrivals (t : Strand) : List Step → List ByteBuffer
  | [] => []
  | e :: es => arrival t e ++ arrivals (step t e) es

/-- What is asked of the writes after some steps of a connection. -/
structure InOrder (opened : Strand) (steps : List Step) (t : Strand) : Prop where
  single : t.pending.count ⟨.write, t.attempt⟩ ≤ 1
  order : t.handed ++ t.client.write_queue_ = (arrivals opened steps).map encodeFrame
  bounded : t.client.write_queue_.length ≤ kMaxQueueSize
  progress : t.client.write_queue_ ≠ [] → ⟨.write, t.attempt⟩ ∈ t.pending
  refused : ∀ message, ¬ Accepts t message → step t (.send message) = t

variable {t t' : Strand} {op : Op} {attempt : ℕ} {data : ByteBuffer}

/-! ### The attempts of the outstanding operations -/

/-- No operation is of an attempt yet to come. -/
def Tagged (t : Strand) : Prop := ∀ op ∈ t.pending, op.attempt ≤ t.attempt

lemma Tagged.mono (h : Tagged t) (hp : ∀ op ∈ t'.pending, op ∈ t.pending)
    (ha : t.attempt ≤ t'.attempt) : Tagged t' :=
  fun op hop => (h op (hp op hop)).trans ha

lemma Tagged.same (h : Tagged t) (hp : t'.pending = t.pending) (ha : t'.attempt = t.attempt) :
    Tagged t' :=
  h.mono (fun _ hop => hp ▸ hop) ha.ge

lemma Tagged.start (h : Tagged t) (ha : op.attempt ≤ t.attempt) : Tagged (t.start op) := by
  intro op' hop
  rcases List.mem_append.mp hop with hop | hop
  · exact h op' hop
  · obtain rfl := List.mem_singleton.mp hop
    exact ha

lemma Tagged.doRead (h : Tagged t) (ha : attempt ≤ t.attempt) : Tagged (doRead attempt t) := by
  unfold Client.doRead
  split_ifs
  · exact h
  · exact h.start ha

lemma Tagged.doWrite (h : Tagged t) (ha : attempt ≤ t.attempt) :
    Tagged (doWrite attempt t) := by
  unfold Client.doWrite
  split
  · exact h
  · split_ifs
    · exact h
    · refine Tagged.start ?_ ha
      exact h.same rfl rfl

lemma Tagged.handleDisconnect (h : Tagged t) : Tagged (handleDisconnect t) := by
  by_cases hs : t.client.state_ = .Disconnected
  · rw [handleDisconnect_of_disconnected hs]
    exact h.same rfl rfl
  · rw [handleDisconnect_of_connected hs]
    exact h.same rfl rfl

lemma Tagged.send (h : Tagged t) (message : ByteBuffer) : Tagged (send t message) := by
  unfold Client.send
  dsimp only
  split_ifs
  · exact h
  · exact h
  · exact h
  · refine Tagged.doWrite ?_ le_rfl
    exact h.same rfl rfl
  · exact h.same rfl rfl

lemma Tagged.complete (h : Tagged t) (ha : op.attempt ≤ t.attempt) (result : Result) :
    Tagged (complete t op result) := by
  obtain ⟨kind, attempt⟩ := op
  cases result with
  | failure =>
    cases kind with
    | write => exact Tagged.handleDisconnect (h.same rfl rfl)
    | _ => exact h.handleDisconnect
  | success data =>
    cases kind with
    | resolve => exact Tagged.start (h.same rfl rfl) ha
    | connect => exact Tagged.doRead (h.same rfl rfl) ha
    | read => exact Tagged.doRead (h.same rfl rfl) ha
    | write =>
      rw [complete_write]
      exact Tagged.doWrite (h.same rfl rfl) ha

lemma tagged_step (t : Strand) (e : Step) (h : Tagged t) : Tagged (step t e) := by
  cases e with
  | startConnect => exact Tagged.start (h.mono (fun _ hop => hop) (Nat.le_succ _)) le_rfl
  | disconnect => exact h.handleDisconnect
  | send message => exact h.send message
  | completed op result =>
    unfold step
    dsimp only
    split_ifs with hp
    · have erased : Tagged { t with pending := t.pending.erase op } :=
        h.mono (fun _ => List.mem_of_mem_erase) le_rfl
      exact erased.complete (h op hp) result
    · exact h

/-- No write is outstanding for an attempt that is about to begin. -/
lemma tagged_run (history : List Step) : Tagged (run step init history) :=
  run_inv tagged_step (fun _ hop => absurd hop (List.not_mem_nil)) history

/-! ### An attempt under way -/

/-- Nothing is written before the connection is made; its address is resolved first, which
opens the socket. -/
structure Dialing (t : Strand) : Prop where
  state : t.client.state_ ≠ .Connected
  queue : t.client.write_queue_ = []
  idle : t.client.writing_ = false
  fresh : t.accepted = [] ∧ t.handed = []
  none : ⟨.write, t.attempt⟩ ∉ t.pending
  socket : ⟨.connect, t.attempt⟩ ∈ t.pending → t.client.socket_.isSome

lemma dialing_startConnect (h : Tagged t) : Dialing (startConnect t) := by
  have fresh (kind : OpKind) (hk : kind ≠ .resolve) :
      ⟨kind, t.attempt + 1⟩ ∉ (startConnect t).pending := by
    intro hop
    rcases List.mem_append.mp hop with hop | hop
    · have := h _ hop
      exact absurd this (Nat.not_succ_le_self _)
    · obtain ⟨rfl, -⟩ := Op.mk.inj (List.mem_singleton.mp hop)
      exact hk rfl
  exact ⟨(nomatch ·), rfl, rfl, ⟨rfl, rfl⟩, fresh .write (by decide),
    fun hop => absurd hop (fresh .connect (by decide))⟩

lemma send_of_not_connected (h : t.client.state_ ≠ .Connected) (message : ByteBuffer) :
    send t message = t :=
  if_pos (by simp [isConnected, h])

lemma Dialing.doRead (h : Dialing t) : Dialing (doRead attempt t) := by
  rw [show Client.doRead attempt t = t from if_pos (by simp [isConnected, h.state])]
  exact h

lemma Dialing.doWrite (h : Dialing t) : Dialing (doWrite attempt t) := by
  unfold Client.doWrite
  rw [h.queue]
  exact h

lemma dialing_step (h : Dialing t) (e : Step) (hd : Dials t e) : Dialing (step t e) := by
  cases e with
  | startConnect => exact hd.elim
  | disconnect => exact hd.elim
  | send message =>
    rw [show step t (.send message) = t from send_of_not_connected h.state message]
    exact h
  | completed op result =>
    cases result with
    | failure => exact hd.elim
    | success data =>
      unfold step
      dsimp only
      split_ifs with hp
      · obtain ⟨kind, attempt⟩ := op
        have erased {op'} (hop : op' ∈ t.pending.erase ⟨kind, attempt⟩) : op' ∈ t.pending :=
          List.mem_of_mem_erase hop
        cases kind with
        | resolve =>
          refine ⟨h.state, h.queue, h.idle, h.fresh, fun hop => ?_, fun _ => rfl⟩
          rcases List.mem_append.mp hop with hop | hop
          · exact h.none (erased hop)
          · exact nomatch (List.mem_singleton.mp hop)
        | connect => exact absurd rfl hd
        | read =>
          refine Dialing.doRead ?_
          exact ⟨h.state, h.queue, h.idle, h.fresh, fun hop => h.none (erased hop),
            fun hop => h.socket (erased hop)⟩
        | write =>
          rw [complete_write]
          refine Dialing.doWrite ?_
          exact ⟨h.state, h.queue, rfl, h.fresh, fun hop => h.none (erased hop),
            fun hop => h.socket (erased hop)⟩
      · exact h

lemma dialing_run {history steps : List Step}
    (hd : Along step Dials (startConnect (run step init history)) steps) :
    Dialing (run step (startConnect (run step init history)) steps) :=
  (always_of_along (I := Dialing) (fun _ e h hd => dialing_step h e hd)
    (dialing_startConnect (tagged_run history)) hd).last

/-! ### A connection -/

/-- The buffers handed over, and the queue behind them, are the accepted messages. -/
structure Ordered (t : Strand) : Prop where
  state : t.client.state_ = .Connected
  socket : t.client.socket_.isSome
  order : t.handed ++ t.client.write_queue_ = t.accepted.map encodeFrame
  bounded : t.client.write_queue_.length ≤ kMaxQueueSize

/-- The one write outstanding is marked by the flag, and while it is clear nothing is
queued. -/
structure Connection (t : Strand) : Prop extends Ordered t where
  outstanding : t.pending.count ⟨.write, t.attempt⟩ = t.client.writing_.toNat
  idle : t.client.writing_ = false → t.client.write_queue_ = []

/-- No write is outstanding, and the flag is clear; something may be queued. -/
structure Idle (t : Strand) : Prop extends Ordered t where
  none : t.pending.count ⟨.write, t.attempt⟩ = 0
  clear : t.client.writing_ = false

/-- What is queued is written next. -/
lemma Idle.doWrite (h : Idle t) : Connection (doWrite t.attempt t) := by
  unfold Client.doWrite
  split
  case h_1 hq =>
    refine ⟨h.toOrdered, ?_, fun _ => hq⟩
    rw [h.none, h.clear]
    rfl
  case h_2 message queue hq =>
    rw [if_neg (by simp [isConnected, h.state, h.clear])]
    have hb := h.bounded
    rw [hq, List.length_cons] at hb
    refine ⟨⟨h.state, h.socket, ?_, Nat.le_of_succ_le hb⟩, ?_, (nomatch ·)⟩
    · show t.handed ++ [message] ++ queue = t.accepted.map encodeFrame
      rw [← h.order, hq, List.append_assoc, List.singleton_append]
    · show (t.pending ++ [_]).count (⟨.write, t.attempt⟩ : Op) = 1
      rw [List.count_append, h.none, List.count_singleton_self]

/-! ### Sending -/

/-- The strand with a message queued. -/
def enqueue (t : Strand) (message : ByteBuffer) : Strand :=
  { t with
    client := { t.client with
      write_queue_ := t.client.write_queue_ ++ [encodeFrame message] }
    accepted := t.accepted ++ [message] }

lemma Ordered.enqueue (h : Ordered t) {message : ByteBuffer} (ha : Accepts t message) :
    Ordered (enqueue t message) := by
  refine ⟨h.state, h.socket, ?_, ?_⟩
  · show t.handed ++ (t.client.write_queue_ ++ [encodeFrame message]) =
      (t.accepted ++ [message]).map encodeFrame
    rw [← List.append_assoc, h.order, List.map_append, List.map_singleton]
  · show (t.client.write_queue_ ++ [encodeFrame message]).length ≤ kMaxQueueSize
    rw [List.length_append, List.length_singleton]
    exact ha.2

lemma send_of_accepts (h : Ordered t) {message : ByteBuffer} (ha : Accepts t message) :
    send t message =
      if t.client.writing_ = false then doWrite t.attempt (enqueue t message)
      else enqueue t message := by
  have hopen : ¬ (!t.client.isConnected || t.client.socket_.isNone) = true := by
    have := Option.isSome_iff_ne_none.mp h.socket
    simp [isConnected, h.state, this]
  have hcode : ¬ (encodeFrame message).isEmpty = true := by
    rw [encodeFrame_isEmpty, not_lt]
    exact ha.1
  unfold send
  dsimp only
  rw [if_neg hopen, if_neg hcode, if_neg (not_le.mpr ha.2)]
  simp only [Bool.not_eq_true', enqueue]

lemma send_of_not_accepts {message : ByteBuffer} (ha : ¬ Accepts t message) :
    send t message = t := by
  unfold send
  dsimp only
  split_ifs with hopen hcode hroom
  · rfl
  · rfl
  · rfl
  all_goals
    refine absurd ⟨?_, not_le.mp hroom⟩ ha
    exact not_lt.mp fun hl => hcode (encodeFrame_isEmpty.mpr hl)

lemma doWrite_accepted (attempt : ℕ) (t : Strand) :
    (doWrite attempt t).accepted = t.accepted := by
  unfold doWrite
  split
  · rfl
  · split_ifs <;> rfl

/-- A message that is sent is handed over or queued if it is accepted. -/
lemma Connection.send (h : Connection t) (message : ByteBuffer) :
    Connection (send t message) ∧
      (send t message).accepted = t.accepted ++ arrival t (.send message) := by
  by_cases ha : Accepts t message
  · have ordered := h.toOrdered.enqueue ha
    rw [send_of_accepts h.toOrdered ha, show arrival t (.send message) = [message] from if_pos ha]
    split_ifs with hw
    · have idle : Idle (enqueue t message) := by
        refine ⟨ordered, ?_, hw⟩
        show t.pending.count ⟨.write, t.attempt⟩ = 0
        rw [h.outstanding, hw]
        rfl
      exact ⟨idle.doWrite, doWrite_accepted _ _⟩
    · exact ⟨⟨ordered, h.outstanding, fun hf => absurd hf hw⟩, rfl⟩
  · rw [send_of_not_accepts ha, show arrival t (.send message) = [] from if_neg ha,
      List.append_nil]
    exact ⟨h, rfl⟩

/-! ### Completions -/

/-- The write outstanding is over when it completes. -/
lemma Connection.written (h : Connection t) :
    Idle { t with
      client := { t.client with writing_ := false }
      pending := t.pending.erase ⟨.write, t.attempt⟩ } := by
  refine ⟨⟨h.state, h.socket, h.order, h.bounded⟩, ?_, rfl⟩
  show (t.pending.erase ⟨.write, t.attempt⟩).count ⟨.write, t.attempt⟩ = 0
  have hle := h.outstanding.trans_le (Bool.toNat_le _)
  rw [List.count_erase_self]
  omega

lemma Connection.erase (h : Connection t) (op : Op) (hk : op.kind ≠ .write) :
    Connection { t with pending := t.pending.erase op } := by
  refine ⟨⟨h.state, h.socket, h.order, h.bounded⟩, ?_, h.idle⟩
  show (t.pending.erase op).count ⟨.write, t.attempt⟩ = t.client.writing_.toNat
  rw [List.count_erase_of_ne, h.outstanding]
  exact fun he => hk (congrArg Op.kind he.symm)

lemma Connection.start (h : Connection t) (hk : op.kind ≠ .write) :
    Connection (t.start op) := by
  refine ⟨⟨h.state, h.socket, h.order, h.bounded⟩, ?_, h.idle⟩
  show (t.pending ++ [op]).count ⟨.write, t.attempt⟩ = t.client.writing_.toNat
  rw [List.count_append, h.outstanding, Nat.add_eq_left, List.count_eq_zero, List.mem_singleton]
  exact fun he => hk (congrArg Op.kind he.symm)

lemma Connection.doRead (h : Connection t) : Connection (doRead attempt t) := by
  unfold Client.doRead
  split_ifs
  · exact h
  · exact h.start (nomatch ·)

lemma doRead_accepted (attempt : ℕ) (t : Strand) :
    (doRead attempt t).accepted = t.accepted := by
  unfold doRead
  split_ifs <;> rfl

lemma Connection.complete (h : Connection t)
    (hw : Within t (.completed op (.success data))) :
    Connection (complete { t with pending := t.pending.erase op } op (.success data)) ∧
      (complete { t with pending := t.pending.erase op } op (.success data)).accepted =
        t.accepted := by
  obtain ⟨kind, attempt⟩ := op
  cases kind with
  | resolve =>
    have erased := h.erase ⟨.resolve, attempt⟩ (nomatch ·)
    refine ⟨Connection.start ?_ (nomatch ·), rfl⟩
    exact ⟨⟨erased.state, rfl, erased.order, erased.bounded⟩, erased.outstanding, erased.idle⟩
  | connect =>
    have erased := h.erase ⟨.connect, attempt⟩ (nomatch ·)
    refine ⟨Connection.doRead ?_, doRead_accepted _ _⟩
    exact ⟨⟨rfl, erased.socket, erased.order, erased.bounded⟩, erased.outstanding, erased.idle⟩
  | read =>
    have erased := h.erase ⟨.read, attempt⟩ (nomatch ·)
    refine ⟨Connection.doRead ?_, doRead_accepted _ _⟩
    exact ⟨⟨erased.state, erased.socket, erased.order, erased.bounded⟩, erased.outstanding,
      erased.idle⟩
  | write =>
    obtain rfl : attempt = t.attempt := hw rfl
    rw [complete_write]
    exact ⟨h.written.doWrite, doWrite_accepted _ _⟩

lemma connection_step (h : Connection t) (e : Step) (hw : Within t e) :
    Connection (step t e) ∧ (step t e).accepted = t.accepted ++ arrival t e := by
  cases e with
  | startConnect => exact hw.elim
  | disconnect => exact hw.elim
  | send message => exact h.send message
  | completed op result =>
    rw [show arrival t (.completed op result) = [] from rfl, List.append_nil]
    cases result with
    | failure => exact hw.elim
    | success data =>
      unfold step
      dsimp only
      split_ifs with hp
      · exact h.complete hw
      · exact ⟨h, rfl⟩

lemma connection_run (h : Connection t) {steps : List Step} (hw : Along step Within t steps) :
    Connection (run step t steps) ∧
      (run step t steps).accepted = t.accepted ++ arrivals t steps := by
  induction steps generalizing t with
  | nil => exact ⟨h, (List.append_nil _).symm⟩
  | cons e es ih =>
    obtain ⟨he, hes⟩ := along_cons.mp hw
    obtain ⟨hstep, haccepted⟩ := connection_step h e he
    obtain ⟨hrun, harrivals⟩ := ih hstep hes
    refine ⟨hrun, ?_⟩
    rw [run_cons, harrivals, haccepted, List.append_assoc, arrivals]

/-- The connection that is made last is open, and nothing was written. -/
lemma Dialing.connect (h : Dialing t) (hp : ⟨.connect, t.attempt⟩ ∈ t.pending)
    (data : ByteBuffer) :
    Connection (step t (.completed ⟨.connect, t.attempt⟩ (.success data))) ∧
      (step t (.completed ⟨.connect, t.attempt⟩ (.success data))).accepted = [] := by
  rw [show step t (.completed ⟨.connect, t.attempt⟩ (.success data)) =
    complete _ _ _ from if_pos hp]
  refine ⟨Connection.doRead ?_, (doRead_accepted _ _).trans h.fresh.1⟩
  refine ⟨⟨rfl, h.socket hp, ?_, ?_⟩, ?_, fun _ => h.queue⟩
  · show t.handed ++ t.client.write_queue_ = t.accepted.map encodeFrame
    rw [h.fresh.1, h.fresh.2, h.queue]
    rfl
  · show t.client.write_queue_.length ≤ kMaxQueueSize
    rw [h.queue]
    exact Nat.zero_le _
  · show (t.pending.erase _).count ⟨.write, t.attempt⟩ = t.client.writing_.toNat
    rw [h.idle, List.count_eq_zero.mpr fun hop => h.none (List.mem_of_mem_erase hop)]
    rfl

/-- **The writes of a connection.** From the moment a connection was made until it ends, at
most one write is outstanding, the buffers handed to it are the accepted messages in the
order in which they arrived, the queue is bounded and never left behind, and a message that is
refused changes nothing. -/
theorem writes_in_order {opened : Strand} (ho : Opened opened) {steps : List Step}
    (hw : Along step Within opened steps) :
    InOrder opened steps (run step opened steps) := by
  obtain ⟨history, dials, data, hd, hp, rfl⟩ := ho
  obtain ⟨connected, haccepted⟩ := (dialing_run hd).connect hp data
  obtain ⟨h, harrivals⟩ := connection_run connected hw
  rw [haccepted, List.nil_append] at harrivals
  refine ⟨?_, ?_, h.bounded, fun hq => ?_, fun message => send_of_not_accepts⟩
  · rw [h.outstanding]
    exact Bool.toNat_le _
  · rw [h.order, harrivals]
  · refine List.count_pos_iff.mp (Nat.pos_of_ne_zero fun hz => hq (h.idle ?_))
    rw [h.outstanding] at hz
    exact Bool.toNat_eq_zero.mp hz

theorem two_messages_in_order :
    let opened := run step init [.startConnect, .completed ⟨.resolve, 1⟩ (.success []),
      .completed ⟨.connect, 1⟩ (.success [])]
    let steps : List Step := [.send [1], .send [2], .completed ⟨.write, 1⟩ (.success [])]
    InOrder opened steps (run step opened steps) := by
  refine writes_in_order ⟨[], [.completed ⟨.resolve, 1⟩ (.success [])], [], ?_, by decide, rfl⟩ ?_
  · simp [along_cons, along_nil, Dials]
  · simp only [along_cons, along_nil, Within]
    decide

end Client

end DungeonCrawler
