import DungeonCrawler.Lib.InverseMaps
import DungeonCrawler.Lib.Runs
import DungeonCrawler.Server.Events

/-!
The registry of sessions and of the players bound to them.

Each function returns what the source returns and the registry after the call; a call holds
the mutex from its first line to its last and is one step.
-/

namespace DungeonCrawler

/-- Every session is stored under its own identifier. -/
def KeyedBySession (sessions : Finmap fun _ : SessionId => SessionPtr) : Prop :=
  ∀ sid session, sessions.lookup sid = some session → session.session_id = sid

namespace KeyedBySession

open Finmap

variable {sessions : Finmap fun _ : SessionId => SessionPtr}

lemma empty : KeyedBySession ∅ := by
  intro sid session h
  simp at h

lemma insert (h : KeyedBySession sessions) (session : SessionPtr) :
    KeyedBySession (sessions.insert session.session_id session) := by
  intro sid session' hs
  rw [lookup_insert_ite] at hs
  split_ifs at hs with hk
  · rw [hk, ← Option.some.inj hs]
  · exact h sid session' hs

lemma erase (h : KeyedBySession sessions) (sid : SessionId) :
    KeyedBySession (sessions.erase sid) := by
  intro sid' session hs
  rw [lookup_erase_ite] at hs
  split_ifs at hs
  exact h sid' session hs

end KeyedBySession

structure SessionRegistry where
  sessions_ : Finmap fun _ : SessionId => SessionPtr
  player_to_session_ : Finmap fun _ : PlayerId => SessionId
  session_to_player_ : Finmap fun _ : SessionId => PlayerId
  keyed : KeyedBySession sessions_

namespace SessionRegistry

open Finmap Runs

def empty : SessionRegistry := ⟨∅, ∅, ∅, .empty⟩

def addSession (r : SessionRegistry) (session : Option SessionPtr) : Bool × SessionRegistry :=
  match session with
  | none => (false, r)
  | some session =>
    let sid := session.session_id
    if sid ∈ r.sessions_ then (false, r)
    else (true, { r with
      sessions_ := r.sessions_.insert sid session
      keyed := r.keyed.insert session })

def removeSessionBySessionId (r : SessionRegistry) (sid : SessionId) :
    Bool × SessionRegistry :=
  if sid ∉ r.sessions_ then (false, r)
  else
    let r := { r with sessions_ := r.sessions_.erase sid, keyed := r.keyed.erase sid }
    match r.session_to_player_.lookup sid with
    | none => (true, r)
    | some pid =>
      (true, { r with
        player_to_session_ := r.player_to_session_.erase pid
        session_to_player_ := r.session_to_player_.erase sid })

def findSessionBySID (r : SessionRegistry) (sid : SessionId) : Option SessionPtr :=
  r.sessions_.lookup sid

def findSessionBySessionId (r : SessionRegistry) (sid : SessionId) : Option SessionPtr :=
  r.findSessionBySID sid

def findSessionByPlayerId (r : SessionRegistry) (pid : PlayerId) : Option SessionPtr :=
  match r.player_to_session_.lookup pid with
  | none => none
  | some sid => r.findSessionBySID sid

def isPlayerIdBound (r : SessionRegistry) (pid : PlayerId) : Bool :=
  pid ∈ r.player_to_session_

def getPlayerIdBySessionId (r : SessionRegistry) (sid : SessionId) : Option PlayerId :=
  r.session_to_player_.lookup sid

def getSessionIdByPlayerId (r : SessionRegistry) (pid : PlayerId) : Option SessionId :=
  r.player_to_session_.lookup pid

/-- The sessions in the order in which the table is visited. -/
def getAllSessions (ord : IterOrder SessionId) (r : SessionRegistry) : List SessionPtr :=
  (ord.entries r.sessions_).map Prod.snd

def bindPlayerToSession (r : SessionRegistry) (pid : PlayerId) (sid : SessionId) :
    Bool × SessionRegistry :=
  if sid ∉ r.sessions_ then (false, r)
  else (true, { r with
    player_to_session_ := r.player_to_session_.emplace pid sid
    session_to_player_ := r.session_to_player_.emplace sid pid })

/-! ### The invariant -/

/-- The two tables of bindings invert each other and every session bound is registered. -/
structure Consistent (r : SessionRegistry) : Prop where
  inverse : Inverse r.player_to_session_ r.session_to_player_
  registered : ∀ p s, r.player_to_session_.lookup p = some s → s ∈ r.sessions_

variable {r : SessionRegistry} {p : PlayerId} {s s' : SessionId}

lemma Consistent.mem_sessions (h : r.Consistent) (hs : s ∈ r.session_to_player_) :
    s ∈ r.sessions_ := by
  obtain ⟨p, hp⟩ := mem_iff.mp hs
  exact h.registered p s ((h.inverse p s).mpr hp)

lemma consistent_empty : empty.Consistent where
  inverse := Inverse.empty
  registered := by simp [empty]

lemma Consistent.addSession (h : r.Consistent) (session : Option SessionPtr) :
    (r.addSession session).2.Consistent := by
  unfold SessionRegistry.addSession
  cases session with
  | none => exact h
  | some session =>
    dsimp only
    split_ifs with hs
    · exact h
    · refine ⟨h.inverse, fun p s hp => ?_⟩
      exact mem_insert.mpr (Or.inr (h.registered p s hp))

/-- What a removal leaves, when there was something to remove: the session is gone, and with
it the binding of its player. -/
lemma removeSessionBySessionId_bound (hs : s ∈ r.sessions_)
    (hp : r.session_to_player_.lookup s = some p) :
    (r.removeSessionBySessionId s).2 =
      ⟨r.sessions_.erase s, r.player_to_session_.erase p, r.session_to_player_.erase s,
        r.keyed.erase s⟩ := by
  simp [SessionRegistry.removeSessionBySessionId, hs, hp]

lemma removeSessionBySessionId_unbound (hs : s ∈ r.sessions_)
    (hp : r.session_to_player_.lookup s = none) :
    (r.removeSessionBySessionId s).2 =
      { r with sessions_ := r.sessions_.erase s, keyed := r.keyed.erase s } := by
  simp [SessionRegistry.removeSessionBySessionId, hs, hp]

lemma removeSessionBySessionId_absent (hs : s ∉ r.sessions_) :
    (r.removeSessionBySessionId s).2 = r := by
  simp [SessionRegistry.removeSessionBySessionId, hs]

/-- Once added, a session is there, whether or not it was there before. -/
lemma mem_addSession {session : SessionPtr} :
    s ∈ (r.addSession (some session)).2.sessions_ ↔ s = session.session_id ∨ s ∈ r.sessions_ := by
  unfold SessionRegistry.addSession
  dsimp only
  split_ifs with hs
  · refine ⟨Or.inr, ?_⟩
    rintro (rfl | hs')
    · exact hs
    · exact hs'
  · exact mem_insert

lemma mem_removeSessionBySessionId :
    s ∈ (r.removeSessionBySessionId s').2.sessions_ ↔ s ≠ s' ∧ s ∈ r.sessions_ := by
  by_cases hs' : s' ∈ r.sessions_
  · cases hp : r.session_to_player_.lookup s' with
    | none =>
      rw [removeSessionBySessionId_unbound hs' hp]
      exact mem_erase
    | some p =>
      rw [removeSessionBySessionId_bound hs' hp]
      exact mem_erase
  · rw [removeSessionBySessionId_absent hs']
    refine ⟨fun hs => ⟨?_, hs⟩, And.right⟩
    rintro rfl
    exact hs' hs

lemma lookup_of_removeSessionBySessionId {session : SessionPtr}
    (h : (r.removeSessionBySessionId s').2.sessions_.lookup s = some session) :
    r.sessions_.lookup s = some session := by
  by_cases hs' : s' ∈ r.sessions_
  · have he : (r.sessions_.erase s').lookup s = some session := by
      cases hp : r.session_to_player_.lookup s' with
      | none => rwa [removeSessionBySessionId_unbound hs' hp] at h
      | some p => rwa [removeSessionBySessionId_bound hs' hp] at h
    rw [lookup_erase_ite] at he
    split_ifs at he
    exact he
  · rwa [removeSessionBySessionId_absent hs'] at h

lemma sessions_bindPlayerToSession :
    (r.bindPlayerToSession p s).2.sessions_ = r.sessions_ := by
  unfold SessionRegistry.bindPlayerToSession
  split_ifs <;> rfl

lemma Consistent.removeSessionBySessionId (h : r.Consistent) (s : SessionId) :
    (r.removeSessionBySessionId s).2.Consistent := by
  by_cases hs : s ∈ r.sessions_
  · cases hp : r.session_to_player_.lookup s with
    | none =>
      rw [removeSessionBySessionId_unbound hs hp]
      refine ⟨h.inverse, fun q t hq => mem_erase.mpr ⟨?_, h.registered q t hq⟩⟩
      -- the session removed is nobody's
      rintro rfl
      simp [(h.inverse q t).mp hq] at hp
    | some p =>
      rw [removeSessionBySessionId_bound hs hp]
      refine ⟨h.inverse.erase hp, fun q t hq => ?_⟩
      rw [lookup_erase_ite] at hq
      split_ifs at hq with hqp
      refine mem_erase.mpr ⟨?_, h.registered q t hq⟩
      rintro rfl
      simp [(h.inverse q t).mp hq, hqp] at hp
  · rwa [removeSessionBySessionId_absent hs]

lemma bindPlayerToSession_registered (hs : s ∈ r.sessions_) :
    r.bindPlayerToSession p s = (true, ⟨r.sessions_, r.player_to_session_.emplace p s,
      r.session_to_player_.emplace s p, r.keyed⟩) := by
  simp [SessionRegistry.bindPlayerToSession, hs]

lemma bindPlayerToSession_absent (hs : s ∉ r.sessions_) :
    r.bindPlayerToSession p s = (false, r) := by
  simp [SessionRegistry.bindPlayerToSession, hs]

/-- A bind keeps the registry consistent exactly when the session is unknown, or player and
session are both free or both bound. -/
lemma Consistent.bindPlayerToSession_iff (h : r.Consistent) :
    (r.bindPlayerToSession p s).2.Consistent ↔
      (s ∈ r.sessions_ → (p ∈ r.player_to_session_ ↔ s ∈ r.session_to_player_)) := by
  by_cases hs : s ∈ r.sessions_
  · rw [bindPlayerToSession_registered hs]
    refine ⟨fun hc _ => h.inverse.emplace_iff.mp hc.inverse, fun hc => ?_⟩
    refine ⟨h.inverse.emplace_iff.mpr (hc hs), fun q t hq => ?_⟩
    rw [lookup_emplace] at hq
    split_ifs at hq with hqp
    · cases hp : r.player_to_session_.lookup p with
      | none =>
        obtain rfl : s = t := by simpa [hp] using hq
        exact hs
      | some t' =>
        obtain rfl : t' = t := by simpa [hp] using hq
        exact h.registered p t' hp
    · exact h.registered q t hq
  · rw [bindPlayerToSession_absent hs]
    exact iff_of_true h fun hs' => absurd hs' hs

/-! ### Who is left unbound -/

lemma isPlayerIdBound_eq_false :
    r.isPlayerIdBound p = false ↔ r.player_to_session_.lookup p = none := by
  simp [isPlayerIdBound, lookup_eq_none]

/-- A bind unbinds nobody. -/
lemma unbound_of_bind {q : PlayerId}
    (h : (r.bindPlayerToSession q s).2.isPlayerIdBound p = false) :
    r.isPlayerIdBound p = false := by
  rw [isPlayerIdBound_eq_false] at h ⊢
  by_cases hs : s ∈ r.sessions_
  · rw [bindPlayerToSession_registered hs, lookup_emplace] at h
    split_ifs at h
    exact h
  · rwa [bindPlayerToSession_absent hs] at h

/-- A removal unbinds nobody but the player of the session. -/
lemma unbound_of_remove (hne : r.getPlayerIdBySessionId s ≠ some p)
    (h : (r.removeSessionBySessionId s).2.isPlayerIdBound p = false) :
    r.isPlayerIdBound p = false := by
  rw [isPlayerIdBound_eq_false] at h ⊢
  by_cases hs : s ∈ r.sessions_
  · cases hq : r.session_to_player_.lookup s with
    | none => rwa [removeSessionBySessionId_unbound hs hq] at h
    | some q =>
      have hpq : p ≠ q := by
        rintro rfl
        exact hne hq
      rwa [removeSessionBySessionId_bound hs hq, lookup_erase_ne hpq] at h
  · rwa [removeSessionBySessionId_absent hs] at h

/-- The registry after the bind leads from the player to the session and back, and before
it the player was bound to no other session. -/
def BoundOnlyHere (before after : SessionRegistry) (s : SessionId) (p : PlayerId) : Prop :=
  after.getSessionIdByPlayerId p = some s ∧ after.getPlayerIdBySessionId s = some p ∧
    ∀ s', before.getSessionIdByPlayerId p = some s' ∨
      before.getPlayerIdBySessionId s' = some p → s' = s

lemma Consistent.boundOnlyHere_iff (h : r.Consistent) (hs : s ∈ r.sessions_) :
    BoundOnlyHere r (r.bindPlayerToSession p s).2 s p ↔
      (p ∉ r.player_to_session_ ∧ s ∉ r.session_to_player_) ∨
        r.player_to_session_.lookup p = some s := by
  rw [bindPlayerToSession_registered hs, BoundOnlyHere]
  simp only [getSessionIdByPlayerId, getPlayerIdBySessionId, lookup_emplace, if_true]
  constructor
  · rintro ⟨hp, hq, -⟩
    cases hp' : r.player_to_session_.lookup p with
    | some s' => exact Or.inr (by simpa [hp'] using hp)
    | none =>
      refine Or.inl ⟨lookup_eq_none.mp hp', lookup_eq_none.mp ?_⟩
      -- a session that leads to `p` would be led to by `p`
      cases hq' : r.session_to_player_.lookup s with
      | none => rfl
      | some q =>
        obtain rfl : q = p := by simpa [hq'] using hq
        simp [(h.inverse q s).mpr hq'] at hp'
  · rintro (⟨hp, hs'⟩ | hp)
    · rw [lookup_eq_none.mpr hp, lookup_eq_none.mpr hs']
      refine ⟨rfl, rfl, fun s' hs' => ?_⟩
      rw [← h.inverse p s', lookup_eq_none.mpr hp] at hs'
      simp at hs'
    · rw [hp, (h.inverse p s).mp hp]
      refine ⟨rfl, rfl, fun s' hs' => ?_⟩
      rw [← h.inverse p s', hp] at hs'
      simpa [eq_comm] using hs'

/-! ### The list of all sessions -/

section

variable {ord : IterOrder SessionId} {session : SessionPtr}

lemma mem_getAllSessions :
    session ∈ r.getAllSessions ord ↔ r.sessions_.lookup session.session_id = some session := by
  unfold getAllSessions
  constructor
  · intro h
    obtain ⟨⟨sid, session'⟩, hm, rfl⟩ := List.mem_map.mp h
    have hl := (ord.mem_entries).mp hm
    rwa [r.keyed sid session' hl]
  · intro h
    exact List.mem_map.mpr ⟨_, ord.mem_entries.mpr h, rfl⟩

lemma nodup_getAllSessions : (r.getAllSessions ord).Nodup := by
  unfold getAllSessions
  refine List.Nodup.map_on ?_ (ord.nodup_entries _)
  rintro ⟨s, a⟩ ha ⟨t, b⟩ hb (rfl : a = b)
  rw [← r.keyed s a (ord.mem_entries.mp ha), ← r.keyed t a (ord.mem_entries.mp hb)]

lemma head_getAllSessions (h : r.sessions_.lookup session.session_id = some session) :
    (r.getAllSessions ord).head? = some session ↔
      ord.first r.sessions_.keys = some session.session_id := by
  rw [← ord.head_entries, getAllSessions, List.head?_map]
  cases he : (ord.entries r.sessions_).head? with
  | none => simp
  | some kv =>
    obtain ⟨sid, a⟩ := kv
    have hl := ord.mem_entries.mp (List.mem_of_mem_head? he)
    have hk := r.keyed sid a hl
    simp only [Option.map_some, Option.some.injEq]
    constructor
    · rintro rfl
      exact hk.symm
    · rintro rfl
      rw [h] at hl
      exact (Option.some.inj hl).symm

end

/-! ### Runs -/

inductive Call
  | addSession (session : Option SessionPtr)
  | bindPlayerToSession (pid : PlayerId) (sid : SessionId)
  | removeSessionBySessionId (sid : SessionId)

def step (r : SessionRegistry) : Call → SessionRegistry
  | .addSession session => (r.addSession session).2
  | .bindPlayerToSession pid sid => (r.bindPlayerToSession pid sid).2
  | .removeSessionBySessionId sid => (r.removeSessionBySessionId sid).2

/-- However calls bind, a session that leads to a player is registered. -/
def LeadersRegistered (r : SessionRegistry) : Prop := ∀ s ∈ r.session_to_player_, s ∈ r.sessions_

lemma LeadersRegistered.step (h : r.LeadersRegistered) (c : Call) :
    (step r c).LeadersRegistered := by
  cases c with
  | addSession session =>
    cases session with
    | none => exact h
    | some session =>
      show (r.addSession (some session)).2.LeadersRegistered
      unfold SessionRegistry.addSession
      dsimp only
      split_ifs with hs
      · exact h
      · exact fun t ht => mem_insert.mpr (Or.inr (h t ht))
  | bindPlayerToSession p s =>
    show (r.bindPlayerToSession p s).2.LeadersRegistered
    by_cases hs : s ∈ r.sessions_
    · rw [bindPlayerToSession_registered hs]
      intro t ht
      obtain ⟨q, hq⟩ := mem_iff.mp ht
      rw [lookup_emplace] at hq
      split_ifs at hq with hts
      · rwa [hts]
      · exact h t (mem_of_lookup_eq_some hq)
    · rwa [bindPlayerToSession_absent hs]
  | removeSessionBySessionId s =>
    show (r.removeSessionBySessionId s).2.LeadersRegistered
    by_cases hs : s ∈ r.sessions_
    · cases hp : r.session_to_player_.lookup s with
      | none =>
        rw [removeSessionBySessionId_unbound hs hp]
        refine fun t ht => mem_erase.mpr ⟨?_, h t ht⟩
        rintro rfl
        exact lookup_eq_none.mp hp ht
      | some p =>
        rw [removeSessionBySessionId_bound hs hp]
        intro t ht
        obtain ⟨hne, ht⟩ := mem_erase.mp ht
        exact mem_erase.mpr ⟨hne, h t ht⟩
    · rwa [removeSessionBySessionId_absent hs]

lemma leadersRegistered_run (calls : List Call) : (run step empty calls).LeadersRegistered :=
  run_inv (fun _ c h => h.step c) (fun _ hs => absurd hs notMem_empty) calls

/-- A call that binds finds player and registered session both free or both bound. -/
def BindsInStep (r : SessionRegistry) : Call → Prop
  | .bindPlayerToSession pid sid =>
    sid ∈ r.sessions_ → (pid ∈ r.player_to_session_ ↔ sid ∈ r.session_to_player_)
  | _ => True

lemma Consistent.step_iff (h : r.Consistent) (c : Call) :
    (step r c).Consistent ↔ BindsInStep r c := by
  cases c with
  | addSession session => exact iff_of_true (h.addSession session) trivial
  | bindPlayerToSession pid sid => exact h.bindPlayerToSession_iff
  | removeSessionBySessionId sid => exact iff_of_true (h.removeSessionBySessionId sid) trivial

/-- What the users of the registry rely on. -/
structure Sound (r : SessionRegistry) : Prop where
  inverse : ∀ p s, r.player_to_session_.lookup p = some s ↔
    r.session_to_player_.lookup s = some p
  bound_to_registered : ∀ p s, r.player_to_session_.lookup p = some s → s ∈ r.sessions_
  bound_registered : ∀ s ∈ r.session_to_player_, s ∈ r.sessions_
  find : ∀ p, r.isPlayerIdBound p → ∃ session, r.findSessionByPlayerId p = some session
  remove : ∀ p s s', s' ≠ s →
    (r.getSessionIdByPlayerId p = some s' →
      (r.removeSessionBySessionId s).2.getSessionIdByPlayerId p = some s') ∧
    (r.getPlayerIdBySessionId s' = some p →
      (r.removeSessionBySessionId s).2.getPlayerIdBySessionId s' = some p)

lemma Consistent.find (h : r.Consistent) (hp : r.isPlayerIdBound p) :
    ∃ session, r.findSessionByPlayerId p = some session := by
  obtain ⟨s, hs⟩ := mem_iff.mp (by simpa [isPlayerIdBound] using hp)
  obtain ⟨session, hsession⟩ := mem_iff.mp (h.registered p s hs)
  exact ⟨session, by simp [findSessionByPlayerId, findSessionBySID, hs, hsession]⟩

lemma Consistent.remove_frame (h : r.Consistent) (hne : s' ≠ s)
    (hp : r.player_to_session_.lookup p = some s') :
    (r.removeSessionBySessionId s).2.player_to_session_.lookup p = some s' := by
  by_cases hs : s ∈ r.sessions_
  · cases hq : r.session_to_player_.lookup s with
    | none => rwa [removeSessionBySessionId_unbound hs hq]
    | some q =>
      -- the player unbound is not `p`, who has another session
      have hpq : p ≠ q := by
        rintro rfl
        rw [(h.inverse p s).mpr hq] at hp
        exact hne (Option.some.inj hp).symm
      rwa [removeSessionBySessionId_bound hs hq, lookup_erase_ne hpq]
  · rwa [removeSessionBySessionId_absent hs]

lemma sound_iff_consistent : r.Sound ↔ r.Consistent := by
  refine ⟨fun h => ⟨h.inverse, h.bound_to_registered⟩, fun h => ?_⟩
  refine ⟨h.inverse, h.registered, fun s => h.mem_sessions, fun p => h.find, ?_⟩
  refine fun p s s' hne => ⟨h.remove_frame hne, fun hp => ?_⟩
  have hc := h.removeSessionBySessionId s
  exact (hc.inverse p s').mp (h.remove_frame hne ((h.inverse p s').mpr hp))

/-- **When the bindings stay sound.** From the empty registry, every state of a run is sound
exactly when no call binds a free player to a taken session or a bound player to a free
one. -/
theorem always_sound_iff (calls : List Call) :
    Always step Sound empty calls ↔ Along step BindsInStep empty calls := by
  refine always_iff_along (fun r c h => ?_) (sound_iff_consistent.mpr consistent_empty) calls
  rw [sound_iff_consistent] at h ⊢
  exact h.step_iff c

/-- The player bound to one session and then to another stays with the first, but the
second session leads to the player too. -/
theorem rebind_not_sound :
    ¬ ∀ calls, Always step Sound empty calls := by
  intro h
  have hs := (h [.addSession (some ⟨1, ⟨400⟩⟩), .addSession (some ⟨2, ⟨500⟩⟩),
    .bindPlayerToSession ⟨30⟩ ⟨400⟩, .bindPlayerToSession ⟨30⟩ ⟨500⟩]).last
  have hp := (hs.inverse ⟨30⟩ ⟨500⟩).mpr (by decide)
  exact absurd hp (by decide)

end SessionRegistry

end DungeonCrawler
