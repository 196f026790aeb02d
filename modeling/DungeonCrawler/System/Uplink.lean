import DungeonCrawler.Client.ClientController
import DungeonCrawler.Client.Writes
import DungeonCrawler.Common.FrameStream
import DungeonCrawler.Common.StdinReader

/-!
From the console to the server.

The controller turns typed lines and pressed keys into messages and posts them to the strand
of the client; the strand queues them and writes them one at a time to the socket; the session
on the other side reads what arrives and hands on the frames. All of this interleaves in any
order, and pieces are cut anywhere.
-/

namespace DungeonCrawler

open Runs FrameCodec ByteStream ClientController

/-- Both ends of a connection: the reader of the console, the commands given to the controller,
the messages whose `send` has been posted and not run, the strand of the client, its writes to
the socket, and the reading of the session. -/
structure Uplink where
  reader : StdinReader.Reading
  commands : List Text
  posted : List ByteBuffer
  strand : Client.Strand
  socket : Sender UInt8
  session : Receiver UInt8 ByteBuffer

namespace Uplink

/-- The connection was made while the sends of some commands were posted. -/
def start (lib : Libcbor) (reader : StdinReader.Reading) (waiting : List Text)
    (opened : Client.Strand) : Uplink :=
  ⟨reader, waiting, waiting.filterMap (message lib), opened, ⟨[], []⟩, ⟨0, [], []⟩⟩

/-- The controller routes a command and posts its message. -/
def command (u : Uplink) (command : Text) (message : Option ByteBuffer) : Uplink :=
  { u with commands := u.commands ++ [command], posted := u.posted ++ message.toList }

/-- The strand took a step; the buffers it handed over are writes of the socket. -/
def advance (u : Uplink) (strand : Client.Strand) : Uplink :=
  { u with
    strand := strand
    socket := (strand.handed.drop u.strand.handed.length).foldl Sender.start u.socket }

inductive Step
  /-- The reader of the console goes on. -/
  | stdin (e : StdinReader.Step)
  /-- The keyboard reader reports a key. -/
  | key (key : Char)
  /-- The first of the posted sends runs. -/
  | posted
  /-- An operation of the client succeeds. -/
  | completed (op : Client.Op) (data : ByteBuffer)
  /-- The socket takes some bytes of the outstanding write. -/
  | transfer (n : ℕ)
  /-- The session reads some bytes. -/
  | arrive (n : ℕ)

/-- An outstanding operation can succeed; a write does when its buffer is on the stream. -/
def Completes (u : Uplink) (op : Client.Op) : Prop :=
  op ∈ u.strand.pending ∧ (op.kind = .write → u.socket.remaining[0]? = some [])

instance (u : Uplink) (op : Client.Op) : Decidable (Completes u op) :=
  inferInstanceAs (Decidable (_ ∧ _))

def step (lib : Libcbor) (u : Uplink) : Step → Uplink
  | .stdin e =>
    let reader := StdinReader.step u.reader e
    (reader.called.drop u.reader.called.length).foldl
      (fun u line => u.command line (onStdinLine lib line).2) { u with reader := reader }
  | .key key =>
    (keyCommands key).foldl (fun u cmd => u.command cmd (onKeyPressed lib key).2) u
  | .posted =>
    match u.posted with
    | [] => u
    | message :: posted => advance { u with posted := posted } (Client.send u.strand message)
  | .completed op data =>
    if Completes u op then
      let socket := if op.kind = .write then u.socket.finish 0 else u.socket
      advance { u with socket := socket } (Client.step u.strand (.completed op (.success data)))
    else u
  | .transfer n => { u with socket := u.socket.transfer 0 n }
  | .arrive n => { u with session := onRead u.socket.stream u.session n }

/-- A write that succeeds is one of the connection. -/
def Within (u : Uplink) : Step → Prop
  | .completed op _ => op.kind = .write → op.attempt = u.strand.attempt
  | _ => True

/-- No message is dropped: the send that runs finds room. -/
def FindsRoom (u : Uplink) : Step → Prop
  | .posted => ∀ message ∈ u.posted.head?, Client.Accepts u.strand message
  | _ => True

/-! ### The writes that a step of the strand starts -/

section Starts

open Client

variable {t : Strand} {op : Op}

/-- The second strand has handed over some buffers more, and that many more writes of the
connection are outstanding than a number. -/
def Hands (t t' : Strand) (outstanding : ℕ) : Prop :=
  ∃ new, t'.handed = t.handed ++ new ∧ t'.attempt = t.attempt ∧
    t'.pending.count ⟨.write, t.attempt⟩ = outstanding + new.length

lemma hands_refl (t : Strand) : Hands t t (t.pending.count ⟨.write, t.attempt⟩) :=
  ⟨[], by simp, rfl, rfl⟩

lemma hands_doWrite (t : Strand) :
    Hands t (doWrite t.attempt t) (t.pending.count ⟨.write, t.attempt⟩) := by
  unfold doWrite
  split
  · exact hands_refl t
  · rename_i message queue hqueue
    split_ifs
    · exact hands_refl t
    · refine ⟨[message], rfl, rfl, ?_⟩
      show (t.pending ++ [_]).count _ = _
      rw [List.count_append, List.count_singleton_self]
      rfl

lemma hands_send (h : Ordered t) (message : ByteBuffer) :
    Hands t (send t message) (t.pending.count ⟨.write, t.attempt⟩) := by
  by_cases ha : Accepts t message
  · rw [send_of_accepts h ha]
    split_ifs
    · exact hands_doWrite (enqueue t message)
    · exact hands_refl t
  · rw [send_of_not_accepts ha]
    exact hands_refl t

/-- An operation that is no write starts none when it succeeds. -/
lemma hands_complete (hk : op.kind ≠ .write) (data : ByteBuffer) :
    Hands t (complete { t with pending := t.pending.erase op } op (.success data))
      (t.pending.count ⟨.write, t.attempt⟩) := by
  obtain ⟨kind, attempt⟩ := op
  have herase : (t.pending.erase ⟨kind, attempt⟩).count ⟨.write, t.attempt⟩ =
      t.pending.count ⟨.write, t.attempt⟩ :=
    List.count_erase_of_ne fun he => hk (congrArg Op.kind he).symm
  have hread (t' : Strand) (hh : t'.handed = t.handed) (ha : t'.attempt = t.attempt)
      (hp : t'.pending = t.pending.erase ⟨kind, attempt⟩) :
      Hands t (doRead attempt t') (t.pending.count ⟨.write, t.attempt⟩) := by
    unfold doRead
    split_ifs
    · exact ⟨[], by simp [hh], ha, by rw [hp]; exact herase⟩
    · refine ⟨[], by simp [hh, Strand.start], ha, ?_⟩
      show (t'.pending ++ [_]).count _ = _
      rw [List.count_append, hp, herase]
      rfl
  cases kind with
  | resolve =>
    refine ⟨[], by simp [complete, Strand.start], rfl, ?_⟩
    show (t.pending.erase _ ++ [_]).count _ = _
    rw [List.count_append, herase]
    rfl
  | connect => exact hread _ rfl rfl rfl
  | read => exact hread _ rfl rfl rfl
  | write => exact absurd rfl hk

/-- The write that succeeds is outstanding no more. -/
lemma hands_written (data : ByteBuffer) :
    Hands t (complete { t with pending := t.pending.erase ⟨.write, t.attempt⟩ }
      ⟨.write, t.attempt⟩ (.success data)) (t.pending.count ⟨.write, t.attempt⟩ - 1) := by
  rw [complete_write, ← List.count_erase_self]
  exact hands_doWrite { t with
    client := { t.client with writing_ := false }
    pending := t.pending.erase ⟨.write, t.attempt⟩ }

end Starts

/-! ### What is kept -/

/-- The writes of the socket are those outstanding, the stream is made of the buffers handed
over, the session is on its way through it, and what was accepted or is posted was routed from
commands, in their order. -/
structure Carried (lib : Libcbor) (u : Uplink) : Prop where
  connection : Client.Connection u.strand
  outstanding : u.socket.remaining.length =
    u.strand.pending.count ⟨.write, u.strand.attempt⟩
  in_order : u.socket.InOrder u.strand.handed
  in_step : u.session.InStep scanner u.socket.stream
  routed : (u.strand.accepted ++ u.posted).Sublist (u.commands.filterMap (message lib))
  short : ∀ m ∈ u.strand.accepted, m.length ≤ kMaxMessageSize

variable {lib : Libcbor} {u : Uplink}

/-- A step of the strand that hands over some buffers, while the posted sends and the writes of
the socket may change. -/
lemma Carried.advance (h : Carried lib u) {strand : Client.Strand} {posted : List ByteBuffer}
    (socket : Sender UInt8) (hc : Client.Connection strand)
    (hh : Hands u.strand strand socket.remaining.length)
    (ho : socket.InOrder u.strand.handed) (hstream : socket.stream = u.socket.stream)
    (hrouted : (strand.accepted ++ posted).Sublist (u.strand.accepted ++ u.posted))
    (hshort : ∀ m ∈ strand.accepted, m.length ≤ kMaxMessageSize) :
    Carried lib (Uplink.advance { u with posted := posted, socket := socket } strand) := by
  obtain ⟨new, hhanded, hattempt, hcount⟩ := hh
  have hsocket : (strand.handed.drop u.strand.handed.length).foldl Sender.start socket =
      new.foldl Sender.start socket := by
    rw [hhanded, List.drop_left]
  unfold Uplink.advance
  rw [hsocket]
  refine ⟨hc, ?_, ?_, ?_, hrouted.trans h.routed, hshort⟩
  · show (new.foldl Sender.start socket).remaining.length =
      strand.pending.count ⟨.write, strand.attempt⟩
    rw [Sender.foldl_start, List.length_append, hattempt, hcount]
  · show (new.foldl Sender.start socket).InOrder strand.handed
    rw [hhanded]
    exact ho.startAll new
  · show u.session.InStep scanner (new.foldl Sender.start socket).stream
    rw [Sender.foldl_start, hstream]
    exact h.in_step

lemma filterMap_snoc (commands : List Text) (line : Text) :
    (commands ++ [line]).filterMap (message lib) =
      commands.filterMap (message lib) ++ (message lib line).toList := by
  rw [List.filterMap_append]
  cases hm : message lib line <;> simp [hm]

lemma Carried.command (h : Carried lib u) (line : Text) :
    Carried lib (u.command line (message lib line)) := by
  refine ⟨h.connection, h.outstanding, h.in_order, h.in_step, ?_, h.short⟩
  show (u.strand.accepted ++ (u.posted ++ (message lib line).toList)).Sublist
    ((u.commands ++ [line]).filterMap (message lib))
  rw [filterMap_snoc, ← List.append_assoc]
  exact h.routed.append_right _

lemma Carried.commands (h : Carried lib u) (lines : List Text) :
    Carried lib (lines.foldl (fun u line => u.command line (message lib line)) u) := by
  induction lines generalizing u with
  | nil => exact h
  | cons line lines ih => exact ih (h.command line)

lemma accepted_opened {opened : Client.Strand} (ho : Client.Opened opened) :
    opened.accepted = [] := by
  obtain ⟨history, dials, data, hd, hp, rfl⟩ := ho
  exact ((Client.dialing_run hd).connect hp data).2

/-- When the connection is made nothing was written. -/
lemma carried_start {opened : Client.Strand} (ho : Client.Opened opened)
    (reader : StdinReader.Reading) (waiting : List Text) :
    Carried lib (start lib reader waiting opened) := by
  obtain ⟨history, dials, data, hd, hp, rfl⟩ := ho
  have dialing := Client.dialing_run hd
  obtain ⟨connected, haccepted⟩ := dialing.connect hp data
  set dialed := run Client.step (Client.startConnect (run Client.step Client.init history)) dials
  set opened := Client.step dialed (.completed ⟨.connect, dialed.attempt⟩ (.success data)) with ho
  have hidle : opened.client.writing_ = false := by
    rw [ho, show Client.step dialed (.completed ⟨.connect, dialed.attempt⟩ (.success data)) =
      Client.doRead _ _ from if_pos hp, Client.doRead_client]
    exact dialing.idle
  have hhanded : opened.handed = [] := by
    have horder := connected.order
    rw [haccepted] at horder
    exact (List.append_eq_nil_iff.mp horder).1
  refine ⟨connected, ?_, ?_, .start _, ?_, ?_⟩
  · show 0 = opened.pending.count ⟨.write, opened.attempt⟩
    rw [connected.outstanding, hidle]
    rfl
  · show [] ++ [].flatten = opened.handed.flatten
    rw [hhanded]
    rfl
  · show (opened.accepted ++ waiting.filterMap (message lib)).Sublist _
    rw [haccepted]
    exact List.Sublist.refl _
  · show ∀ m ∈ opened.accepted, _
    rw [haccepted]
    exact fun m hm => absurd hm List.not_mem_nil

lemma Carried.posted (h : Carried lib u) : Carried lib (step lib u .posted) := by
  unfold step
  dsimp only
  split
  · exact h
  · rename_i message posted hposted
    obtain ⟨connection, haccepted⟩ := h.connection.send message
    have harrival : Client.arrival u.strand (.send message) =
      if Client.Accepts u.strand message then [message] else [] := rfl
    refine h.advance u.socket connection
      (h.outstanding ▸ hands_send h.connection.toOrdered message) h.in_order rfl ?_ fun m hm => ?_
    · rw [haccepted, harrival, hposted, List.append_assoc]
      refine List.Sublist.append_left ?_ _
      split_ifs
      · exact List.Sublist.refl _
      · exact List.sublist_cons_self _ _
    · rw [haccepted, harrival] at hm
      rcases List.mem_append.mp hm with hm | hm
      · exact h.short m hm
      · split_ifs at hm with ha
        · obtain rfl := List.mem_singleton.mp hm
          exact ha.1
        · exact absurd hm List.not_mem_nil

lemma Carried.completed (h : Carried lib u) {op : Client.Op} {data : ByteBuffer}
    (hw : Within u (.completed op data)) : Carried lib (step lib u (.completed op data)) := by
  unfold step
  dsimp only
  split_ifs with hc hk
  · -- the write of the connection, which is on the stream
    obtain ⟨kind, attempt⟩ := op
    obtain rfl : kind = .write := hk
    obtain rfl : attempt = u.strand.attempt := hw rfl
    obtain ⟨hp, hdone⟩ := hc
    replace hdone : u.socket.remaining[0]? = some [] := hdone rfl
    obtain ⟨connection, haccepted⟩ := Client.connection_step h.connection
      (.completed ⟨.write, u.strand.attempt⟩ (.success data)) fun _ => rfl
    rw [show Client.arrival _ (.completed _ _) = [] from rfl, List.append_nil] at haccepted
    have hstep : Client.step u.strand (.completed ⟨.write, u.strand.attempt⟩ (.success data)) =
      Client.complete _ _ _ := if_pos hp
    have hlen : (u.socket.finish 0).remaining.length =
        u.strand.pending.count ⟨.write, u.strand.attempt⟩ - 1 := by
      obtain ⟨hlt, -⟩ := List.getElem?_eq_some_iff.mp hdone
      show (u.socket.remaining.eraseIdx 0).length = _
      rw [List.length_eraseIdx_of_lt hlt, h.outstanding]
    refine h.advance (u.socket.finish 0) connection ?_ (h.in_order.finish hdone) rfl ?_ ?_
    · rw [hstep, hlen]
      exact hands_written data
    · rw [haccepted]
    · rw [haccepted]
      exact h.short
  · obtain ⟨connection, haccepted⟩ := Client.connection_step h.connection
      (.completed op (.success data)) fun hk' => absurd hk' hk
    rw [show Client.arrival _ (.completed _ _) = [] from rfl, List.append_nil] at haccepted
    have hstep : Client.step u.strand (.completed op (.success data)) =
      Client.complete _ _ _ := if_pos hc.1
    refine h.advance u.socket connection ?_ h.in_order rfl ?_ ?_
    · rw [hstep, h.outstanding]
      exact hands_complete hk data
    · rw [haccepted]
    · rw [haccepted]
      exact h.short
  · exact h

/-- At most one write is outstanding, so a transfer goes on where the stream ends. -/
lemma Carried.transfer (h : Carried lib u) (n : ℕ) : Carried lib (step lib u (.transfer n)) := by
  have hone : u.socket.remaining.length ≤ 1 := by
    rw [h.outstanding, h.connection.outstanding]
    exact Bool.toNat_le _
  refine ⟨h.connection, ?_, h.in_order.transfer hone 0 n, ?_, h.routed, h.short⟩
  · exact (Sender.length_transfer _ _ _).trans h.outstanding
  · obtain ⟨more, hmore⟩ := Sender.stream_transfer u.socket 0 n
    show u.session.InStep scanner (u.socket.transfer 0 n).stream
    rw [← hmore]
    exact h.in_step.append more

lemma Carried.step (h : Carried lib u) (e : Step) (hw : Within u e) :
    Carried lib (Uplink.step lib u e) := by
  cases e with
  | stdin e =>
    have hread : Carried lib { u with reader := StdinReader.step u.reader e } :=
      ⟨h.connection, h.outstanding, h.in_order, h.in_step, h.routed, h.short⟩
    unfold Uplink.step
    simp only [onStdinLine_message]
    exact hread.commands _
  | key key =>
    show Carried lib ((keyCommands key).foldl
      (fun u cmd => u.command cmd (onKeyPressed lib key).2) u)
    rw [onKeyPressed_message, keyCommands]
    cases hkey : Ui.commandFromKey key with
    | none => exact h
    | some cmd => exact h.command cmd
  | posted => exact h.posted
  | completed op data => exact h.completed hw
  | transfer n => exact h.transfer n
  | arrive n =>
    exact ⟨h.connection, h.outstanding, h.in_order, inStep_onRead h.in_step n, h.routed, h.short⟩

/-! ### What the server receives -/

/-- The payload is the message of a command typed in the line, and on every session that may
send it the router publishes the request of that command for it. -/
def Requested (lib : Libcbor) (line : Text) (payload : ByteBuffer) : Prop :=
  ∃ typed, Ui.Types (Words.words isWhitespace line) typed ∧
    ∀ registry s p, typed.MaySend registry s p →
      ∃ e, MessageRouter.onRawMessage lib registry s payload = some e ∧ typed.Requests s p e

lemma requested_of_message (h : lib.RoundTripsOn CborItem.UintArray) {line : Text}
    {payload : ByteBuffer} (hm : message lib line = some payload) :
    Requested lib line payload := by
  obtain ⟨typed, t, args, htypes, hsent, hser⟩ := Ui.routeCommand_message hm
  refine ⟨typed, htypes, fun registry s p hs => ?_⟩
  rw [Ui.onRawMessage_serialized h hsent.isReal hser]
  exact hsent.event hs

/-- The commands that the messages of a part of them come from. -/
lemma exists_lines {commands : List Text} {payloads : List ByteBuffer}
    (h : payloads.Sublist (commands.filterMap (message lib))) :
    ∃ lines, lines.Sublist commands ∧
      List.Forall₂ (fun line payload => message lib line = some payload) lines payloads := by
  induction commands generalizing payloads with
  | nil =>
    obtain rfl := List.sublist_nil.mp h
    exact ⟨[], List.Sublist.refl _, .nil⟩
  | cons command commands ih =>
    cases hm : message lib command with
    | none =>
      rw [List.filterMap_cons_none hm] at h
      obtain ⟨lines, hsub, hall⟩ := ih h
      exact ⟨lines, hsub.cons _, hall⟩
    | some payload =>
      rw [List.filterMap_cons_some hm] at h
      rcases List.sublist_cons_iff.mp h with h | ⟨rest, rfl, hrest⟩
      · obtain ⟨lines, hsub, hall⟩ := ih h
        exact ⟨lines, hsub.cons _, hall⟩
      · obtain ⟨lines, hsub, hall⟩ := ih hrest
        exact ⟨command :: lines, hsub.cons_cons _, .cons hm hall⟩

/-- Nothing is on its way: the queue is empty, the write outstanding is on the stream, and the
stream has come in. -/
def Quiet (u : Uplink) : Prop :=
  u.strand.client.write_queue_ = [] ∧ u.socket.remaining.flatten = [] ∧
    u.session.carried = u.socket.stream.length

instance (u : Uplink) : Decidable (Quiet u) := inferInstanceAs (Decidable (_ ∧ _ ∧ _))

/-- What is asked of a connection: what the session received are the messages of commands that
were given, in their order and each one once, understood as they were meant; it is the
beginning of what the client accepted, and all of it when nothing is on its way. -/
structure Arrives (lib : Libcbor) (u : Uplink) : Prop where
  requested : ∃ lines, lines.Sublist u.commands ∧
    List.Forall₂ (Requested lib) lines u.session.received
  in_order : u.session.received <+: u.strand.accepted
  complete : Quiet u → u.session.received = u.strand.accepted

lemma Carried.received (h : Carried lib u) :
    u.session.received <+: u.strand.accepted ∧
      (Quiet u → u.session.received = u.strand.accepted) := by
  have hs : u.socket.stream ++
      (u.socket.remaining.flatten ++ u.strand.client.write_queue_.flatten) =
        (u.strand.accepted.map encodeFrame).flatten := by
    rw [← List.append_assoc, show u.socket.stream ++ _ = _ from h.in_order,
      ← List.flatten_append, h.connection.order]
  obtain ⟨hstart, hall⟩ := received_in_order h.in_step h.short hs
  refine ⟨hstart, fun ⟨hqueue, hremaining, hcarried⟩ => (hall hcarried ?_).1⟩
  rw [hqueue, hremaining]
  rfl

lemma Carried.arrives (hl : lib.RoundTripsOn CborItem.UintArray) (h : Carried lib u) :
    Arrives lib u := by
  obtain ⟨hstart, hall⟩ := h.received
  refine ⟨?_, hstart, hall⟩
  have hsub : u.session.received.Sublist (u.commands.filterMap (message lib)) :=
    (hstart.sublist.trans (List.sublist_append_left _ _)).trans h.routed
  obtain ⟨lines, hlines, hmessages⟩ := exists_lines hsub
  exact ⟨lines, hlines, hmessages.imp fun _ _ hm => requested_of_message hl hm⟩

/-- **Commands arrive in order.** In every run of a connection, however the console, the
keyboard, the strand, the socket and the session interleave and however the bytes are cut,
what the session received are the messages of commands given to the controller, each at most
once and in their order, and the server makes of each the request that was typed. -/
theorem commands_arrive (lib : Libcbor) (hl : lib.RoundTripsOn CborItem.UintArray)
    {opened : Client.Strand} (ho : Client.Opened opened) (reader : StdinReader.Reading)
    (waiting : List Text) {steps : List Step}
    (hw : Along (step lib) Within (start lib reader waiting opened) steps) :
    Arrives lib (run (step lib) (start lib reader waiting opened) steps) :=
  Carried.arrives hl (always_of_along (I := Carried lib) (fun _ e h hw => h.step e hw)
    (carried_start ho reader waiting) hw).last

/-- A typed line and a pressed key. -/
theorem attack_and_move_arrive :
    let opened := run Client.step Client.init [.startConnect,
      .completed ⟨.resolve, 1⟩ (.success []), .completed ⟨.connect, 1⟩ (.success [])]
    let steps : List Step := [.stdin (.data "ATTACK\n".toList), .stdin .completed, .key 'W',
      .posted, .transfer 30, .posted, .arrive 9, .completed ⟨.write, 1⟩ [], .transfer 40,
      .arrive 50]
    Arrives .definite (run (step .definite) (start .definite .init [] opened) steps) := by
  refine commands_arrive .definite Libcbor.definite_roundTrips.uintArrays
    ⟨[], [.completed ⟨.resolve, 1⟩ (.success [])], [], ?_, by decide, rfl⟩ _ _ ?_
  · simp [along_cons, along_nil, Client.Dials]
  · simp only [along_cons, along_nil, Within, and_true, true_and]
    intro _
    decide

/-! ### When nothing is dropped -/

/-- All messages routed so far were accepted or are posted. -/
def NoneDropped (lib : Libcbor) (u : Uplink) : Prop :=
  u.strand.accepted ++ u.posted = u.commands.filterMap (message lib)

lemma noneDropped_start {opened : Client.Strand} (ho : Client.Opened opened)
    (reader : StdinReader.Reading) (waiting : List Text) :
    NoneDropped lib (start lib reader waiting opened) := by
  show opened.accepted ++ _ = _
  rw [accepted_opened ho, List.nil_append]
  rfl

lemma NoneDropped.command (h : NoneDropped lib u) (line : Text) :
    NoneDropped lib (u.command line (message lib line)) := by
  have hline : [line].filterMap (message lib) = (message lib line).toList := by
    cases hm : message lib line <;> simp [hm]
  show u.strand.accepted ++ (u.posted ++ (message lib line).toList) =
    (u.commands ++ [line]).filterMap (message lib)
  rw [List.filterMap_append, hline, ← List.append_assoc, h]

lemma NoneDropped.commands (h : NoneDropped lib u) (lines : List Text) :
    NoneDropped lib (lines.foldl (fun u line => u.command line (message lib line)) u) := by
  induction lines generalizing u with
  | nil => exact h
  | cons line lines ih => exact ih (h.command line)

lemma NoneDropped.step (h : NoneDropped lib u) (hc : Carried lib u) (e : Step)
    (hw : Within u e) (hr : FindsRoom u e) : NoneDropped lib (Uplink.step lib u e) := by
  cases e with
  | stdin e =>
    unfold Uplink.step
    simp only [onStdinLine_message]
    exact NoneDropped.commands (u := { u with reader := StdinReader.step u.reader e }) h _
  | key key =>
    show NoneDropped lib ((keyCommands key).foldl
      (fun u cmd => u.command cmd (onKeyPressed lib key).2) u)
    rw [onKeyPressed_message, keyCommands]
    cases hkey : Ui.commandFromKey key with
    | none => exact h
    | some cmd => exact h.command cmd
  | posted =>
    unfold Uplink.step
    dsimp only
    split
    · exact h
    · rename_i message posted hposted
      have ha : Client.Accepts u.strand message := hr message (by rw [hposted]; rfl)
      have haccepted := (hc.connection.send message).2
      rw [show Client.arrival u.strand (.send message) = [message] from if_pos ha] at haccepted
      show (Client.send u.strand message).accepted ++ posted = _
      rw [haccepted, List.append_assoc, List.singleton_append, ← hposted]
      exact h
  | completed op data =>
    unfold Uplink.step
    dsimp only
    by_cases hcompletes : Completes u op
    · rw [if_pos hcompletes]
      have hwithin : Client.Within u.strand (.completed op (.success data)) := hw
      have haccepted := (Client.connection_step hc.connection _ hwithin).2
      rw [show Client.arrival _ (.completed _ _) = [] from rfl, List.append_nil] at haccepted
      show (Client.step u.strand _).accepted ++ u.posted = _
      rw [haccepted]
      exact h
    · rw [if_neg hcompletes]
      exact h
  | transfer n => exact h
  | arrive n => exact h

/-- **No command is lost.** If every send that runs finds room in the queue, the session has
received the messages of all commands given, in their order, once nothing is posted and nothing
on its way. -/
theorem every_command_arrives (lib : Libcbor) {opened : Client.Strand}
    (ho : Client.Opened opened) (reader : StdinReader.Reading) (waiting : List Text)
    (steps : List Step)
    (hw : Along (step lib) (fun u e => Within u e ∧ FindsRoom u e)
      (start lib reader waiting opened) steps) :
    let u := run (step lib) (start lib reader waiting opened) steps
    u.posted = [] → Quiet u → u.session.received = u.commands.filterMap (message lib) := by
  intro u hposted hquiet
  have hstart : Carried lib (start lib reader waiting opened) := carried_start ho reader waiting
  have hnone : NoneDropped lib (start lib reader waiting opened) :=
    noneDropped_start ho reader waiting
  obtain ⟨hcarried, hdropped⟩ :=
    (always_of_along (I := fun u => Carried lib u ∧ NoneDropped lib u)
      (fun _ e h hw => ⟨h.1.step e hw.1, h.2.step h.1 e hw.1 hw.2⟩) ⟨hstart, hnone⟩ hw).last
  rw [hcarried.received.2 hquiet, ← hdropped, hposted, List.append_nil]

theorem attack_and_move_received :
    let opened := run Client.step Client.init [.startConnect,
      .completed ⟨.resolve, 1⟩ (.success []), .completed ⟨.connect, 1⟩ (.success [])]
    let steps : List Step := [.stdin (.data "ATTACK\n".toList), .stdin .completed, .key 'W',
      .posted, .transfer 30, .posted, .arrive 9, .completed ⟨.write, 1⟩ [], .transfer 40,
      .arrive 50]
    let u := run (step .definite) (start .definite .init [] opened) steps
    u.session.received = u.commands.filterMap (message .definite) := by
  intro opened steps u
  refine every_command_arrives .definite
    ⟨[], [.completed ⟨.resolve, 1⟩ (.success [])], [], ?_, by decide, rfl⟩ .init [] steps ?_
    (by decide +kernel) (by decide +kernel)
  · simp [along_cons, along_nil, Client.Dials]
  · simp only [steps, along_cons, along_nil, Within, FindsRoom, and_true, true_and]
    decide +kernel

end Uplink

end DungeonCrawler
