import DungeonCrawler.Server.SessionRegistry

/-!
The connection manager: sessions that come and go, and players that join and come back.

A handler runs to its end under one reading of the clock, which it makes only where it needs
the time. It returns the events it publishes and the manager after it.
-/

namespace DungeonCrawler

structure ConnectionManager where
  session_registry_ : SessionRegistry
  disconnected_players_ : Finmap fun _ : PlayerId => ℤ

namespace ConnectionManager

open Finmap Runs

def init : ConnectionManager := ⟨.empty, ∅⟩

def handleClientConnectedEvent (m : ConnectionManager) (session : Option SessionPtr) :
    List Event × ConnectionManager :=
  match session with
  | none => ([], m)
  | some session =>
    ([], { m with session_registry_ := (m.session_registry_.addSession session).2 })

def handleClientDisconnectedEvent (m : ConnectionManager) (now : ℤ)
    (session : Option SessionPtr) : List Event × ConnectionManager :=
  match session with
  | none => ([], m)
  | some session =>
    let session_id := session.session_id
    let player_id := m.session_registry_.getPlayerIdBySessionId session_id
    let m := match player_id with
      | some player_id =>
        { m with disconnected_players_ := m.disconnected_players_.insert player_id now }
      | none => m
    ([], { m with
      session_registry_ := (m.session_registry_.removeSessionBySessionId session_id).2 })

/-- The events and the registry of the request; the entry of the player is erased after it. -/
def handlePlayerReconnectRequestedEvent (client_disconnect_timeout : ℤ)
    (m : ConnectionManager) (now : ℤ) (session_id : SessionId) (player_id : PlayerId) :
    List Event × ConnectionManager :=
  let (published, registry) :=
    match m.disconnected_players_.lookup player_id with
    | some then_ =>
      let duration := now - then_
      if duration > client_disconnect_timeout then
        ([.playerReconnectionFailed session_id player_id], m.session_registry_)
      else
        match m.session_registry_.bindPlayerToSession player_id session_id with
        | (true, registry) => ([.playerReconnected session_id player_id], registry)
        | (false, registry) => ([.playerReconnectionFailed session_id player_id], registry)
    | none => ([.playerReconnectionFailed session_id player_id], m.session_registry_)
  (published, ⟨registry, m.disconnected_players_.erase player_id⟩)

def handlePlayerAuthRequestedEvent (m : ConnectionManager) (session_id : SessionId)
    (player_id : PlayerId) : List Event × ConnectionManager :=
  match m.session_registry_.bindPlayerToSession player_id session_id with
  | (true, registry) =>
    ([.playerAuthenticated session_id player_id], { m with session_registry_ := registry })
  | (false, registry) =>
    ([.playerAuthenticationFailed session_id player_id],
      { m with session_registry_ := registry })

/-- An event of the bus and the clock at the time it is handled. -/
structure Input where
  now : ℤ
  event : Event

/-- The events that the manager subscribes to are handled, others pass by. -/
def handle (timeout : ℤ) (m : ConnectionManager) (i : Input) :
    List Event × ConnectionManager :=
  match i.event with
  | .clientConnected session => m.handleClientConnectedEvent session
  | .clientDisconnected session => m.handleClientDisconnectedEvent i.now session
  | .reconnectRequested s p => m.handlePlayerReconnectRequestedEvent timeout i.now s p
  | .authRequested s p => m.handlePlayerAuthRequestedEvent s p
  | _ => ([], m)

def step (timeout : ℤ) (m : ConnectionManager) (i : Input) : ConnectionManager :=
  (m.handle timeout i).2

/-- The events that report a player as present on a session. -/
def ReportsPresent (e : Event) (s : SessionId) (p : PlayerId) : Prop :=
  e = .playerAuthenticated s p ∨ e = .playerReconnected s p

/-- The step disconnects a session bound to the player. -/
def Disconnects (p : PlayerId) (m : ConnectionManager) (i : Input) : Prop :=
  ∃ session, i.event = .clientDisconnected (some session) ∧
    m.session_registry_.getPlayerIdBySessionId session.session_id = some p

def Unbound (p : PlayerId) (m : ConnectionManager) : Prop :=
  m.session_registry_.isPlayerIdBound p = false

/-- What a step promises to the receivers of its events, after the given history. -/
def JoinLaw (timeout : ℤ) (history : List Input) (i : Input) : Prop :=
  let before := run (step timeout) init history
  ∀ e ∈ (before.handle timeout i).1, ∀ s p,
    (ReportsPresent e s p →
      SessionRegistry.BoundOnlyHere before.session_registry_
        (before.handle timeout i).2.session_registry_ s p) ∧
    (e = .playerReconnected s p →
      Since (step timeout)
        (fun m d => Disconnects p m d ∧ i.now - d.now ≤ timeout) (Unbound p) init history)

/-- A join of a registered session finds player and session both free, or bound to each
other; an accepted reconnection finds both free. -/
def JoinsInStep (timeout : ℤ) (m : ConnectionManager) (i : Input) : Prop :=
  let r := m.session_registry_
  match i.event with
  | .authRequested s p => s ∈ r.sessions_ →
    (p ∉ r.player_to_session_ ∧ s ∉ r.session_to_player_) ∨
      r.player_to_session_.lookup p = some s
  | .reconnectRequested s p => s ∈ r.sessions_ →
    (∃ then_, m.disconnected_players_.lookup p = some then_ ∧ i.now - then_ ≤ timeout) →
      p ∉ r.player_to_session_ ∧ s ∉ r.session_to_player_
  | _ => True

/-! ### What one step does -/

variable {timeout : ℤ} {m : ConnectionManager} {i : Input} {now : ℤ}
variable {s : SessionId} {p : PlayerId}

/-- A request to reconnect is granted. -/
def Accepts (timeout : ℤ) (m : ConnectionManager) (now : ℤ) (s : SessionId)
    (p : PlayerId) : Prop :=
  s ∈ m.session_registry_.sessions_ ∧
    ∃ then_, m.disconnected_players_.lookup p = some then_ ∧ now - then_ ≤ timeout

lemma reconnect_accepted (h : Accepts timeout m now s p) :
    m.handlePlayerReconnectRequestedEvent timeout now s p =
      ([.playerReconnected s p], ⟨(m.session_registry_.bindPlayerToSession p s).2,
        m.disconnected_players_.erase p⟩) := by
  obtain ⟨hs, t, ht, hd⟩ := h
  simp [handlePlayerReconnectRequestedEvent, ht, not_lt.mpr hd,
    SessionRegistry.bindPlayerToSession_registered hs]

lemma reconnect_refused (h : ¬ Accepts timeout m now s p) :
    m.handlePlayerReconnectRequestedEvent timeout now s p =
      ([.playerReconnectionFailed s p],
        ⟨m.session_registry_, m.disconnected_players_.erase p⟩) := by
  unfold handlePlayerReconnectRequestedEvent
  cases ht : m.disconnected_players_.lookup p with
  | none => rfl
  | some t =>
    by_cases hd : now - t ≤ timeout
    · have hs : s ∉ m.session_registry_.sessions_ := fun hs => h ⟨hs, t, ht, hd⟩
      simp [not_lt.mpr hd, SessionRegistry.bindPlayerToSession_absent hs]
    · simp [not_le.mp hd]

lemma auth_registered (hs : s ∈ m.session_registry_.sessions_) :
    m.handlePlayerAuthRequestedEvent s p = ([.playerAuthenticated s p],
      { m with session_registry_ := (m.session_registry_.bindPlayerToSession p s).2 }) := by
  simp [handlePlayerAuthRequestedEvent, SessionRegistry.bindPlayerToSession_registered hs]

lemma auth_absent (hs : s ∉ m.session_registry_.sessions_) :
    m.handlePlayerAuthRequestedEvent s p = ([.playerAuthenticationFailed s p], m) := by
  simp [handlePlayerAuthRequestedEvent, SessionRegistry.bindPlayerToSession_absent hs]

lemma disconnect_registry (session : SessionPtr) :
    (m.handleClientDisconnectedEvent now (some session)).2.session_registry_ =
      (m.session_registry_.removeSessionBySessionId session.session_id).2 := by
  unfold handleClientDisconnectedEvent
  cases h : m.session_registry_.getPlayerIdBySessionId session.session_id <;> simp [h]

/-- An entry of the table and an unbound player are left by a step only where they were, or
where the step disconnects the player. -/
lemma entry_of_step {t : ℤ} (ht : (m.step timeout i).disconnected_players_.lookup p = some t)
    (hp : Unbound p (m.step timeout i)) :
    (m.disconnected_players_.lookup p = some t ∧ Unbound p m) ∨
      (Disconnects p m i ∧ i.now = t) := by
  obtain ⟨now, event⟩ := i
  unfold step handle at ht hp
  cases event with
  | clientConnected session =>
    left
    cases session with
    | none => exact ⟨ht, hp⟩
    | some session =>
      refine ⟨ht, ?_⟩
      simp only [handleClientConnectedEvent, Unbound, SessionRegistry.addSession] at hp
      split_ifs at hp <;> exact hp
  | clientDisconnected session =>
    cases session with
    | none => exact Or.inl ⟨ht, hp⟩
    | some session =>
      by_cases hb :
          m.session_registry_.getPlayerIdBySessionId session.session_id = some p
      · right
        simp only [handleClientDisconnectedEvent, hb, lookup_insert] at ht
        exact ⟨⟨session, rfl, hb⟩, Option.some.inj ht⟩
      · left
        -- the entry written, if any, is another player's
        cases hq : m.session_registry_.getPlayerIdBySessionId session.session_id with
        | none =>
          simp only [handleClientDisconnectedEvent, hq] at ht hp
          exact ⟨ht, SessionRegistry.unbound_of_remove hb hp⟩
        | some q =>
          have hpq : p ≠ q := by
            rintro rfl
            exact hb hq
          simp only [handleClientDisconnectedEvent, hq, lookup_insert_of_ne _ hpq] at ht hp
          exact ⟨ht, SessionRegistry.unbound_of_remove hb hp⟩
  | authRequested s q =>
    left
    by_cases hs : s ∈ m.session_registry_.sessions_
    · simp only [auth_registered hs] at ht hp
      exact ⟨ht, SessionRegistry.unbound_of_bind hp⟩
    · simp only [auth_absent hs] at ht hp
      exact ⟨ht, hp⟩
  | reconnectRequested s q =>
    left
    by_cases ha : Accepts timeout m now s q
    · simp only [reconnect_accepted ha, lookup_erase_ite] at ht hp
      split_ifs at ht
      exact ⟨ht, SessionRegistry.unbound_of_bind hp⟩
    · simp only [reconnect_refused ha, lookup_erase_ite] at ht hp
      split_ifs at ht
      exact ⟨ht, hp⟩
  | _ => exact Or.inl ⟨ht, hp⟩

/-- The entry of an unbound player is the time of the disconnect since which the player has
been unbound. -/
lemma since_of_entry (es : List Input) {t : ℤ}
    (ht : (run (step timeout) init es).disconnected_players_.lookup p = some t)
    (hp : Unbound p (run (step timeout) init es)) :
    Since (step timeout) (fun m d => Disconnects p m d ∧ d.now = t) (Unbound p) init es := by
  induction es using List.reverseRecOn with
  | nil => simp [init] at ht
  | append_singleton es i ih =>
    rw [run_snoc] at ht hp
    rcases entry_of_step ht hp with ⟨ht', hp'⟩ | hd
    · exact (ih ht' hp').keep hp
    · exact Since.start hd hp

/-! ### When the reports are right -/

lemma joinsInStep_auth : JoinsInStep timeout m ⟨now, .authRequested s p⟩ ↔
    (s ∈ m.session_registry_.sessions_ →
      (p ∉ m.session_registry_.player_to_session_ ∧
        s ∉ m.session_registry_.session_to_player_) ∨
      m.session_registry_.player_to_session_.lookup p = some s) := Iff.rfl

lemma joinsInStep_reconnect : JoinsInStep timeout m ⟨now, .reconnectRequested s p⟩ ↔
    (Accepts timeout m now s p → p ∉ m.session_registry_.player_to_session_ ∧
      s ∉ m.session_registry_.session_to_player_) := by
  rw [Accepts, and_imp]
  rfl

/-- A run whose joins all find what they should keeps the registry consistent. -/
lemma consistent_step (h : m.session_registry_.Consistent) (hj : JoinsInStep timeout m i) :
    (m.step timeout i).session_registry_.Consistent := by
  obtain ⟨now, event⟩ := i
  unfold step handle
  cases event with
  | clientConnected session =>
    cases session with
    | none => exact h
    | some session => exact h.addSession (some session)
  | clientDisconnected session =>
    cases session with
    | none => exact h
    | some session =>
      simp only [disconnect_registry]
      exact h.removeSessionBySessionId session.session_id
  | authRequested s p =>
    by_cases hs : s ∈ m.session_registry_.sessions_
    · simp only [auth_registered hs]
      refine h.bindPlayerToSession_iff.mpr fun _ => ?_
      rcases joinsInStep_auth.mp hj hs with ⟨hp, hs'⟩ | hp
      · exact iff_of_false hp hs'
      · exact iff_of_true (mem_of_lookup_eq_some hp)
          (mem_of_lookup_eq_some ((h.inverse p s).mp hp))
    · simp only [auth_absent hs]
      exact h
  | reconnectRequested s p =>
    by_cases ha : Accepts timeout m now s p
    · simp only [reconnect_accepted ha]
      obtain ⟨hp, hs'⟩ := joinsInStep_reconnect.mp hj ha
      exact h.bindPlayerToSession_iff.mpr fun _ => iff_of_false hp hs'
    · simp only [reconnect_refused ha]
      exact h
  | _ => exact h

lemma consistent_run {es : List Input} (h : Along (step timeout) (JoinsInStep timeout) init es) :
    (run (step timeout) init es).session_registry_.Consistent :=
  (always_of_along (I := fun m => m.session_registry_.Consistent)
    (fun _ _ => consistent_step) SessionRegistry.consistent_empty h).last

lemma joinLaw_of_silent {us : List Input}
    (h : ∀ e ∈ ((run (step timeout) init us).handle timeout i).1, ∀ s p,
      e ≠ .playerAuthenticated s p ∧ e ≠ .playerReconnected s p) : JoinLaw timeout us i := by
  intro e he s p
  obtain ⟨ha, hr⟩ := h e he s p
  exact ⟨fun hp => hp.elim (fun h => absurd h ha) fun h => absurd h hr, fun h => absurd h hr⟩

/-- Where a player is reported authenticated, the law is about the binding alone. -/
lemma joinLaw_authenticated {us : List Input}
    (h : ((run (step timeout) init us).handle timeout i).1 = [.playerAuthenticated s p]) :
    JoinLaw timeout us i ↔
      SessionRegistry.BoundOnlyHere (run (step timeout) init us).session_registry_
        ((run (step timeout) init us).handle timeout i).2.session_registry_ s p := by
  simp only [JoinLaw, h]
  constructor
  · intro hl
    exact (hl _ (List.mem_singleton_self _) s p).1 (Or.inl rfl)
  · intro hb e he s' p'
    obtain rfl := List.mem_singleton.mp he
    refine ⟨?_, by simp⟩
    rintro (he | he)
    · obtain ⟨rfl, rfl⟩ := Event.playerAuthenticated.inj he
      exact hb
    · cases he

/-- Where a player is reported reconnected, it is about the history too. -/
lemma joinLaw_reconnected {us : List Input}
    (h : ((run (step timeout) init us).handle timeout i).1 = [.playerReconnected s p]) :
    JoinLaw timeout us i ↔
      SessionRegistry.BoundOnlyHere (run (step timeout) init us).session_registry_
          ((run (step timeout) init us).handle timeout i).2.session_registry_ s p ∧
        Since (step timeout) (fun m d => Disconnects p m d ∧ i.now - d.now ≤ timeout)
          (Unbound p) init us := by
  simp only [JoinLaw, h]
  constructor
  · intro hl
    obtain ⟨hb, hs⟩ := hl _ (List.mem_singleton_self _) s p
    exact ⟨hb (Or.inr rfl), hs rfl⟩
  · rintro ⟨hb, hs⟩ e he s' p'
    obtain rfl := List.mem_singleton.mp he
    constructor
    · rintro (he | he)
      · cases he
      · obtain ⟨rfl, rfl⟩ := Event.playerReconnected.inj he
        exact hb
    · intro he
      obtain ⟨rfl, rfl⟩ := Event.playerReconnected.inj he
      exact hs

/-- A free player with a recent entry has been free since its disconnect. -/
lemma since_of_accepts {us : List Input}
    (ha : Accepts timeout (run (step timeout) init us) now s p)
    (hp : p ∉ (run (step timeout) init us).session_registry_.player_to_session_) :
    Since (step timeout) (fun m d => Disconnects p m d ∧ now - d.now ≤ timeout)
      (Unbound p) init us := by
  obtain ⟨-, t, ht, hd⟩ := ha
  have hu : Unbound p (run (step timeout) init us) :=
    SessionRegistry.isPlayerIdBound_eq_false.mpr (lookup_eq_none.mpr hp)
  exact (since_of_entry us ht hu).mono fun m d ⟨hm, hn⟩ => ⟨hm, hn ▸ hd⟩

/-- After a history that kept the registry consistent, the next step keeps the law exactly
when its join finds what it should. -/
lemma joinLaw_iff (us : List Input)
    (h : (run (step timeout) init us).session_registry_.Consistent) :
    JoinLaw timeout us i ↔ JoinsInStep timeout (run (step timeout) init us) i := by
  obtain ⟨now, event⟩ := i
  cases event with
  | authRequested s p =>
    rw [joinsInStep_auth]
    by_cases hs : s ∈ (run (step timeout) init us).session_registry_.sessions_
    · have he := auth_registered (p := p) hs
      rw [joinLaw_authenticated (s := s) (p := p) (by simp [handle, he]),
        ← h.boundOnlyHere_iff hs]
      simp only [handle, he, hs, true_imp_iff]
    · refine iff_of_true (joinLaw_of_silent ?_) fun hs' => absurd hs' hs
      simp [handle, auth_absent hs]
  | reconnectRequested s p =>
    rw [joinsInStep_reconnect]
    by_cases ha : Accepts timeout (run (step timeout) init us) now s p
    · have he := reconnect_accepted ha
      have hb := h.boundOnlyHere_iff (p := p) ha.1
      rw [joinLaw_reconnected (s := s) (p := p) (by simp [handle, he])]
      simp only [handle, he, ha, true_imp_iff, hb]
      constructor
      · rintro ⟨hfree | hs, hsince⟩
        · exact hfree
        · have hp := SessionRegistry.isPlayerIdBound_eq_false.mp hsince.last
          simp [hp] at hs
      · intro hfree
        exact ⟨Or.inl hfree, since_of_accepts ha hfree.1⟩
    · refine iff_of_true (joinLaw_of_silent ?_) fun ha' => absurd ha' ha
      simp [handle, reconnect_refused ha]
  | clientConnected session =>
    refine iff_of_true (joinLaw_of_silent ?_) trivial
    cases session <;> simp [handle, handleClientConnectedEvent]
  | clientDisconnected session =>
    refine iff_of_true (joinLaw_of_silent ?_) trivial
    cases session <;> simp [handle, handleClientDisconnectedEvent]
  | _ => exact iff_of_true (joinLaw_of_silent (by simp [handle])) trivial

/-- **When players are reported present rightly.** Along a run, every report of a player
on a session finds the two bound to each other and the player nowhere else, and every
reconnection follows a disconnect within the time allowed since which the player has been
unbound, exactly when every join of a registered session finds player and session both free
or bound to each other, and every accepted reconnection finds both free. -/
theorem joinLaw_iff_joinsInStep (timeout : ℤ) (es : List Input) :
    EachStep (JoinLaw timeout) es ↔ Along (step timeout) (JoinsInStep timeout) init es :=
  eachStep_iff_along (fun us _ hC => joinLaw_iff us (consistent_run hC)) es

/-- A player that joins on a second session is reported present there and stays bound to
the first. -/
theorem second_join_breaks_joinLaw :
    ¬ ∀ timeout (es : List Input), (es.map Input.now).Pairwise (· ≤ ·) →
      EachStep (JoinLaw timeout) es := by
  intro h
  have hq := h 30 ([⟨0, .clientConnected (some ⟨1, ⟨1⟩⟩)⟩,
    ⟨1, .clientConnected (some ⟨2, ⟨2⟩⟩)⟩, ⟨2, .authRequested ⟨1⟩ ⟨7⟩⟩] ++
    [⟨3, .authRequested ⟨2⟩ ⟨7⟩⟩]) (by decide) _ _ [] rfl
  obtain ⟨hb, -⟩ := hq (.playerAuthenticated ⟨2⟩ ⟨7⟩) (by decide) ⟨2⟩ ⟨7⟩
  exact absurd (hb (Or.inl rfl)).1 (by decide)

end ConnectionManager

end DungeonCrawler
