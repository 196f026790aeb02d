import DungeonCrawler.Client.MessageRouter
import DungeonCrawler.Common.FrameStream
import DungeonCrawler.Server.ResponseSender
import DungeonCrawler.Server.Session

/-!
From the server to the screen.

The sender of responses gives messages to a session, whose strand writes them to the socket;
the client on the other side reads what arrives and takes each frame for what it is.
-/

namespace DungeonCrawler

open Runs FrameCodec ByteStream

/-- Both ends of a connection: the strand of the session, its writes to the socket, and the
reading of the client. -/
structure Downlink where
  strand : Session.Strand
  socket : Sender UInt8
  client : Receiver UInt8 ByteBuffer
  deriving DecidableEq

namespace Downlink

def start : Downlink := ⟨Session.init, ⟨[], []⟩, ⟨0, [], []⟩⟩

/-- The strand took a step; the buffers it handed over are writes of the socket. -/
def advance (d : Downlink) (strand : Session.Strand) : Downlink :=
  { d with
    strand := strand
    socket := (strand.handed.drop d.strand.handed.length).foldl Sender.start d.socket }

inductive Step
  | session (e : Session.Step)
  /-- The socket takes some bytes of one of the outstanding writes. -/
  | transfer (i n : ℕ)
  /-- The client reads some bytes. -/
  | arrive (n : ℕ)

/-- A write succeeds when its buffer is on the stream. -/
def Completes (d : Downlink) : Session.Step → Prop
  | .written i true => d.socket.remaining[i]? = some []
  | _ => True

instance (d : Downlink) (e : Session.Step) : Decidable (Completes d e) := by
  unfold Completes
  split <;> infer_instance

/-- The writes of the socket after a step that may end one of them. -/
def ended (socket : Sender UInt8) : Session.Step → Sender UInt8
  | .written i _ => socket.finish i
  | _ => socket

/-- Nothing is put on the stream once the socket is closed. -/
def step (d : Downlink) : Step → Downlink
  | .session e =>
    if Completes d e then
      advance { d with socket := ended d.socket e } (Session.step d.strand e)
    else d
  | .transfer i n =>
    if d.strand.session.socket_is_open then { d with socket := d.socket.transfer i n } else d
  | .arrive n => { d with client := onRead d.socket.stream d.client n }

/-! ### What is kept -/

/-- No message that will be written is sent while a write is outstanding. -/
def SendsWhenQuiet (d : Downlink) : Step → Prop
  | .session e => Session.SendsWhenQuiet d.strand e
  | _ => True

/-- The writes of the socket are those outstanding, one at most; the stream is made of the
buffers handed over, all of them while the session is connected; and the client is on its way
through it. -/
structure Carried (d : Downlink) : Prop where
  drained : Session.Drained d.strand
  single : d.strand.outstanding.length ≤ 1
  paired : d.socket.remaining.length = d.strand.outstanding.length
  in_order : d.strand.session.state_ = .Connected → d.socket.InOrder d.strand.handed
  closed : d.strand.session.state_ ≠ .Connected → d.strand.session.socket_is_open = false
  written : d.socket.stream <+: d.strand.handed.flatten
  in_step : d.client.InStep scanner d.socket.stream

variable {d : Downlink}

lemma carried_start : Carried start where
  drained := Session.drained_init
  single := Nat.zero_le _
  paired := rfl
  in_order _ := rfl
  closed h := absurd rfl h
  written := List.nil_prefix
  in_step := .start _

/-- Handing nothing over leaves the writes alone. -/
lemma advance_same {strand : Session.Strand} (h : strand.handed = d.strand.handed) :
    advance d strand = { d with strand := strand } := by
  unfold advance
  rw [h, List.drop_length]
  rfl

lemma Carried.send (h : Carried d) (msg : ByteBuffer)
    (hs : Session.SendsWhenQuiet d.strand (.send msg)) :
    Carried (advance d (Session.send d.strand msg)) := by
  have drained : Session.Drained (Session.send d.strand msg) := h.drained.step (.send msg)
  have single := (Session.outstanding_step_iff h.drained h.single (.send msg)).mpr hs
  change (Session.send d.strand msg).outstanding.length ≤ 1 at single
  rcases Session.send_cases h.drained msg with ⟨hc, hm, he⟩ | ⟨hc, hm, he⟩ | ⟨hc, he⟩
  · rw [he] at drained single ⊢
    have hdrop : (d.strand.handed ++ [encodeFrame msg]).drop d.strand.handed.length =
      [encodeFrame msg] := List.drop_left
    unfold advance
    dsimp only
    rw [hdrop]
    refine ⟨drained, single, ?_, fun _ => (h.in_order hc).start _, fun hn => absurd hc hn, ?_,
      h.in_step⟩
    · show (d.socket.remaining ++ [_]).length = (d.strand.outstanding ++ [_]).length
      rw [List.length_append, List.length_append, h.paired]
    · exact (h.written.trans (by simp))
  · rw [he] at drained ⊢
    rw [advance_same (by rfl)]
    exact ⟨drained, h.single, h.paired, h.in_order, h.closed, h.written, h.in_step⟩
  · rw [he, advance_same (by rfl)]
    exact h

/-- A session that is over puts nothing more on the stream. -/
lemma Carried.disconnect (h : Carried d) (socket : Sender UInt8) (outstanding : List ByteBuffer)
    (hs : socket.stream = d.socket.stream) (hp : socket.remaining.length = outstanding.length)
    (ho : outstanding.length ≤ 1) :
    Carried (advance { d with socket := socket }
      (Session.doDisconnect { d.strand with outstanding := outstanding })) := by
  have hdrained : Session.Drained { d.strand with outstanding := outstanding } :=
    ⟨h.drained.queue, h.drained.socket, h.drained.handed⟩
  have drained := hdrained.doDisconnect
  unfold Session.doDisconnect at drained ⊢
  split_ifs at drained ⊢ with hd
  · change d.strand.session.state_ = .Disconnected at hd
    have hn : d.strand.session.state_ ≠ .Connected := by
      rw [hd]
      decide
    rw [advance_same (by rfl)]
    exact ⟨drained, ho, hp, fun hc => absurd hc hn, fun _ => h.closed hn,
      hs ▸ h.written, hs ▸ h.in_step⟩
  · rw [advance_same (by rfl)]
    exact ⟨drained, ho, hp, (nomatch ·), fun _ => rfl, hs ▸ h.written, hs ▸ h.in_step⟩

lemma Carried.completed (h : Carried d) (i : ℕ) (success : Bool)
    (hc : Completes d (.written i success)) :
    Carried (advance { d with socket := d.socket.finish i }
      (Session.onWritten d.strand i success)) := by
  by_cases hi : i < d.strand.outstanding.length
  · have hp : (d.socket.finish i).remaining.length =
        (d.strand.outstanding.eraseIdx i).length := by
      show (d.socket.remaining.eraseIdx i).length = _
      rw [List.length_eraseIdx_of_lt hi, List.length_eraseIdx_of_lt (h.paired ▸ hi), h.paired]
    have ho : (d.strand.outstanding.eraseIdx i).length ≤ 1 :=
      (List.length_eraseIdx_le _ _).trans h.single
    unfold Session.onWritten
    rw [if_pos hi]
    cases success with
    | true =>
      have hq : (!d.strand.session.write_queue_.isEmpty) = false := by simp [h.drained.queue]
      dsimp only
      rw [hq, advance_same (by rfl)]
      exact ⟨⟨h.drained.queue, h.drained.socket, h.drained.handed⟩, ho, hp,
        fun hconnected => (h.in_order hconnected).finish hc, h.closed, h.written, h.in_step⟩
    | false => exact h.disconnect _ _ rfl hp ho
  · have hfinish : d.socket.finish i = d.socket := by
      unfold Sender.finish
      rw [List.eraseIdx_of_length_le (by rw [h.paired]; exact not_lt.mp hi)]
    unfold Session.onWritten
    rw [if_neg hi, hfinish, advance_same (by rfl)]
    exact h

/-- Only one write makes progress, and only while the session is connected. -/
lemma Carried.transfer (h : Carried d) (i n : ℕ) : Carried (step d (.transfer i n)) := by
  unfold step
  dsimp only
  split_ifs with hopen
  · have hc : d.strand.session.state_ = .Connected := by
      by_contra hn
      rw [h.closed hn] at hopen
      exact Bool.noConfusion hopen
    have horder := (h.in_order hc).transfer (h.paired.trans_le h.single) i n
    refine ⟨h.drained, h.single, ?_, fun _ => horder, h.closed, horder.stream_le, ?_⟩
    · exact (Sender.length_transfer _ _ _).trans h.paired
    · obtain ⟨more, hmore⟩ := Sender.stream_transfer d.socket i n
      show d.client.InStep scanner (d.socket.transfer i n).stream
      rw [← hmore]
      exact h.in_step.append more
  · exact h

lemma Carried.step (h : Carried d) (e : Step) (hs : SendsWhenQuiet d e) :
    Carried (Downlink.step d e) := by
  cases e with
  | session e =>
    unfold Downlink.step
    dsimp only
    split_ifs with hc
    · cases e with
      | send msg => exact h.send msg hs
      | written i success => exact h.completed i success hc
      | disconnect => exact h.disconnect d.socket d.strand.outstanding rfl h.paired h.single
    · exact h
  | transfer i n => exact h.transfer i n
  | arrive n =>
    exact ⟨h.drained, h.single, h.paired, h.in_order, h.closed, h.written,
      inStep_onRead h.in_step n⟩

/-! ### What the client makes of it -/

section Readable

open ResponseSender

variable {lib : Libcbor} {ord : IterOrder SessionId} {registry : SessionRegistry}
variable {event : Event} {m : SessionPtr × ByteBuffer}

/-- The client takes the payload for the message or the snapshot it was made of. -/
def Readable (lib : Libcbor) (payload : ByteBuffer) : Prop :=
  (∃ t args, serializeMessageToBuffer lib t args = some payload ∧
    Ui.readIncoming lib payload = .message ⟨t, args⟩) ∨
  ∃ snapshot, serializeGameState lib snapshot = some payload ∧
    Ui.readIncoming lib payload = .gameState snapshot

lemma readable_sendResponse (h : lib.RoundTrips) {session : Option SessionPtr}
    {t : MessageTypeVariant} {args : MessageArgs} (ht : t.IsReal)
    (hm : m ∈ sendResponse lib session t args) : Readable lib m.2 := by
  have hbuf := (mem_sendResponse hm).2
  exact Or.inl ⟨t, args, hbuf, Ui.readIncoming_message h ht hbuf⟩

lemma readable_onGameStateUpdate (h : lib.RoundTrips) {snapshot : Option DungeonSnapshot}
    (hm : m ∈ onGameStateUpdate lib ord registry snapshot) (hne : m.2 ≠ []) :
    Readable lib m.2 := by
  unfold onGameStateUpdate at hm
  split at hm
  · cases hm
  · rename_i snapshot
    split_ifs at hm
    · cases hm
    · split at hm
      · cases hm
      · rename_i bytes hbytes
        rcases (mem_sendToAll hm).2 with he | he
        · rw [he]
          exact Or.inr ⟨snapshot, hbytes, Ui.readIncoming_gameState h hbytes⟩
        · exact absurd he hne

/-- Whatever the sender of responses gives to a session is readable, if it is not empty. -/
lemma readable_onEvent (h : lib.RoundTrips) (hm : m ∈ onEvent lib ord registry event)
    (hne : m.2 ≠ []) : Readable lib m.2 := by
  unfold onEvent at hm
  dsimp only at hm
  split at hm
  all_goals first
    | refine readable_sendResponse h ?_ hm
      exact fun hreal => nomatch hreal
    | exact readable_onGameStateUpdate h hm hne
    | cases hm

end Readable

/-- What is sent comes from the sender of responses. -/
def FromSender (lib : Libcbor) : Step → Prop
  | .session (.send msg) => ∃ ord registry event session,
      (session, msg) ∈ ResponseSender.onEvent lib ord registry event
  | _ => True

/-- The messages that a frame can carry. -/
def carriable (sent : List ByteBuffer) : List ByteBuffer :=
  sent.filter fun msg => msg.length ≤ kMaxMessageSize

/-- Nothing is on its way. -/
def Quiet (d : Downlink) : Prop :=
  d.strand.session.state_ = .Connected ∧ d.socket.remaining.flatten = [] ∧
    d.client.carried = d.socket.stream.length

instance (d : Downlink) : Decidable (Quiet d) := inferInstanceAs (Decidable (_ ∧ _ ∧ _))

/-- What is asked of a connection: of what was sent and fits into a frame the client received the
beginning, in its order and each message once, all of it when nothing is on its way, and it takes
every message that is not empty for what it is. -/
structure Delivered (lib : Libcbor) (d : Downlink) : Prop where
  in_order : d.client.received <+: carriable d.strand.sent
  complete : Quiet d → d.client.received = carriable d.strand.sent
  readable : ∀ payload ∈ d.client.received, payload ≠ [] → Readable lib payload

lemma Carried.received (h : Carried d) :
    d.client.received <+: carriable d.strand.sent ∧
      (Quiet d → d.client.received = carriable d.strand.sent) := by
  have hshort : ∀ p ∈ carriable d.strand.sent, p.length ≤ kMaxMessageSize :=
    fun p hp => by simpa using (List.mem_filter.mp hp).2
  have hhanded : d.strand.handed = (carriable d.strand.sent).map encodeFrame := h.drained.handed
  obtain ⟨rest, hrest⟩ := h.written
  rw [hhanded] at hrest
  obtain ⟨hstart, -⟩ := received_in_order h.in_step hshort hrest
  refine ⟨hstart, fun ⟨hconnected, hremaining, hcarried⟩ => ?_⟩
  have hall := h.in_order hconnected
  unfold Sender.InOrder at hall
  rw [hremaining, hhanded] at hall
  exact ((received_in_order h.in_step hshort hall).2 hcarried rfl).1

variable {lib : Libcbor}

lemma doDisconnect_sent (t : Session.Strand) : (Session.doDisconnect t).sent = t.sent := by
  rcases Session.doDisconnect_cases t with he | he <;> rw [he]

/-- The strand keeps the messages sent, and adds the one of a send. -/
lemma mem_sent_step {e : Step} {m : ByteBuffer} (hd : Session.Drained d.strand)
    (h : m ∈ (step d e).strand.sent) :
    m ∈ d.strand.sent ∨ e = .session (.send m) := by
  cases e with
  | session e =>
    unfold step at h
    dsimp only at h
    split_ifs at h
    · change m ∈ (Session.step d.strand e).sent at h
      cases e with
      | send msg =>
        change m ∈ (Session.send d.strand msg).sent at h
        rcases Session.send_cases hd msg with ⟨-, -, he⟩ | ⟨-, -, he⟩ | ⟨-, he⟩ <;> rw [he] at h
        · exact (List.mem_append.mp h).imp_right fun hm => by rw [List.mem_singleton.mp hm]
        · exact (List.mem_append.mp h).imp_right fun hm => by rw [List.mem_singleton.mp hm]
        · exact Or.inl h
      | written i success =>
        change m ∈ (Session.onWritten d.strand i success).sent at h
        rcases Session.onWritten_cases hd i success with he | he | he <;> rw [he] at h
        · exact Or.inl h
        · exact Or.inl h
        · rw [doDisconnect_sent] at h
          exact Or.inl h
      | disconnect =>
        change m ∈ (Session.doDisconnect d.strand).sent at h
        rw [doDisconnect_sent] at h
        exact Or.inl h
    · exact Or.inl h
  | transfer i n =>
    unfold step at h
    dsimp only at h
    split_ifs at h <;> exact Or.inl h
  | arrive n => exact Or.inl h

lemma readable_step (hl : lib.RoundTrips) {e : Step} (hd : Session.Drained d.strand)
    (h : ∀ m ∈ d.strand.sent, m ≠ [] → Readable lib m) (he : FromSender lib e) :
    ∀ m ∈ (step d e).strand.sent, m ≠ [] → Readable lib m := by
  intro m hm hne
  rcases mem_sent_step hd hm with hm | rfl
  · exact h m hm hne
  · obtain ⟨ord, registry, event, session, hsent⟩ := he
    exact readable_onEvent hl hsent hne

/-- **Responses arrive.** In every run of a connection in which the sender of responses gives
the session its messages while no write is outstanding, however the bytes are cut, the client
receives the beginning of what was sent and fits into frames, in order and each message once, and
takes each for what it is, but for the empty messages of a broadcast. -/
theorem responses_arrive (lib : Libcbor) (hl : lib.RoundTrips) (steps : List Step)
    (hw : Along step (fun d e => SendsWhenQuiet d e ∧ FromSender lib e) start steps) :
    Delivered lib (run step start steps) := by
  obtain ⟨carried, hreadable⟩ :=
    (always_of_along (I := fun d => Carried d ∧ ∀ m ∈ d.strand.sent, m ≠ [] → Readable lib m)
      (fun _ e h hw => ⟨h.1.step e hw.1, readable_step hl h.1.drained h.2 hw.2⟩)
      ⟨carried_start, fun _ hm => absurd hm List.not_mem_nil⟩ hw).last
  obtain ⟨hstart, hall⟩ := carried.received
  refine ⟨hstart, hall, fun payload hp => hreadable payload ?_⟩
  exact (List.mem_filter.mp (hstart.subset hp)).1

/-- The welcome, in two pieces. -/
theorem welcome_arrives :
    let welcome : ByteBuffer := [0x81, 0x1B, 0, 0, 0, 0, 0, 0, 0, 3]
    Delivered .definite (run step start [.session (.send welcome), .transfer 0 5, .arrive 3,
      .transfer 0 90, .session (.written 0 true), .arrive 90]) := by
  refine responses_arrive .definite Libcbor.definite_roundTrips _ ?_
  simp only [along_cons, along_nil, SendsWhenQuiet, FromSender, and_true, true_and]
  refine ⟨⟨fun _ _ => rfl, default, ?_⟩, trivial⟩
  refine ⟨.step .empty (.addSession (some ⟨1, ⟨1⟩⟩)), .playerAuthenticated ⟨1⟩ ⟨7⟩, ⟨1, ⟨1⟩⟩, ?_⟩
  decide

end Downlink

end DungeonCrawler
