import DungeonCrawler.Server.MsgDispatcher
import DungeonCrawler.Server.SessionRegistry

/-!
The router puts the session or the player in front of the arguments of a message and
publishes the event the factories make of it.
-/

namespace DungeonCrawler

namespace MessageRouter

def checkPlayer (registry : SessionRegistry) (session_id : SessionId) : Option PlayerId :=
  registry.getPlayerIdBySessionId session_id

/-- The arguments before those of the message are moved behind them. -/
def slotArgs (registry : SessionRegistry) (session_id : SessionId)
    (type : MessageTypeVariant) : MessageArgs :=
  let args : MessageArgs := []
  let args :=
    if isNetworkMessage type then
      match asNetworkMessage type with
      | some .kJoin | some .kReconnect => args ++ [session_id.get]
      | _ => args
    else args
  let args :=
    if isAppMessage type then
      match asAppMessage type with
      | some .kJoinParty | some .kLeaveParty | some .kCreateParty | some .kListParties
      | some .kStartGame =>
        match checkPlayer registry session_id with
        | some pid => args ++ [pid.get]
        | none => args
      | _ => args
    else args
  if isDomainMessage type then
    match asDomainMessage type with
    | some .kMove | some .kAttack =>
      match checkPlayer registry session_id with
      | some pid => args ++ [pid.get]
      | none => args
    | _ => args
  else args

/-- The event published for a raw message, if one is. -/
def onRawMessage (lib : Libcbor) (registry : SessionRegistry) (session_id : SessionId)
    (buffer : ByteBuffer) : Option Event :=
  match deserializeBufferToMessage lib buffer with
  | none => none
  | some message =>
    makeEvent message.type (slotArgs registry session_id message.type ++ message.args)

/-- The types of the requests that a player makes. -/
def IsPlayerRequest : MessageTypeVariant → Prop
  | .app .kCreateParty | .app .kListParties | .app .kJoinParty | .app .kLeaveParty
  | .app .kStartGame | .domain .kMove | .domain .kAttack => True
  | _ => False

variable {lib : Libcbor} {registry : SessionRegistry} {s : SessionId} {buffer : ByteBuffer}
variable {t : MessageTypeVariant} {args : MessageArgs} {p : PlayerId}

lemma slotArgs_playerRequest (ht : IsPlayerRequest t) :
    slotArgs registry s t = ((registry.getPlayerIdBySessionId s).map StrongId.get).toList := by
  unfold IsPlayerRequest at ht
  split at ht
  all_goals first
    | contradiction
    | cases h : registry.getPlayerIdBySessionId s <;>
        simp [slotArgs, checkPlayer, h, isNetworkMessage, isAppMessage, isDomainMessage,
          getLevelId, asAppMessage, asDomainMessage]

lemma isPlayerRequest_of_fills (h : FillsPlayerSlot t args) : IsPlayerRequest t := by
  unfold FillsPlayerSlot at h
  split at h <;> trivial

/-- What the router publishes for a session bound to a player has that player. -/
lemma requestPlayer_of_bound {e : Event} {q : PlayerId}
    (hb : registry.getPlayerIdBySessionId s = some q)
    (h : makeEvent t (slotArgs registry s t ++ args) = some e)
    (hp : e.requestPlayer = some p) : q = p := by
  have ht := isPlayerRequest_of_fills (makeEvent_request_iff.mp ⟨e, p, h, hp⟩)
  have hh := makeEvent_requestPlayer h hp
  rw [slotArgs_playerRequest ht, hb] at hh
  exact StrongId.ext (Option.some.inj hh)

/-- On a session bound to no player the arguments of the client stand alone. -/
lemma request_iff_of_unbound (hb : registry.getPlayerIdBySessionId s = none) :
    (∃ e p, makeEvent t (slotArgs registry s t ++ args) = some e ∧
      e.requestPlayer = some p) ↔ FillsPlayerSlot t args := by
  by_cases ht : IsPlayerRequest t
  · rw [slotArgs_playerRequest ht, hb]
    exact makeEvent_request_iff
  · rw [makeEvent_request_iff]
    exact iff_of_false (fun h => ht (isPlayerRequest_of_fills h))
      fun h => ht (isPlayerRequest_of_fills h)

/-- The requests published for the message are made by the player bound to the session. -/
def RequestsOwnPlayer (lib : Libcbor) (registry : SessionRegistry) (s : SessionId)
    (buffer : ByteBuffer) : Prop :=
  ∀ e p, onRawMessage lib registry s buffer = some e → e.requestPlayer = some p →
    registry.getPlayerIdBySessionId s = some p

/-- **When requests come from their own player.** The player of every lobby or game request
published for a message is the one the registry binds to the session, exactly when there is
such a player or the message does not decode to a request whose own arguments already fill
the player's slot and the others. -/
theorem requestsOwnPlayer_iff (lib : Libcbor) (registry : SessionRegistry) (s : SessionId)
    (buffer : ByteBuffer) :
    RequestsOwnPlayer lib registry s buffer ↔
      (∃ p, registry.getPlayerIdBySessionId s = some p) ∨
        ∀ m, deserializeBufferToMessage lib buffer = some m →
          ¬ FillsPlayerSlot m.type m.args := by
  cases hb : registry.getPlayerIdBySessionId s with
  | some q =>
    refine iff_of_true (fun e p h hp => ?_) (Or.inl ⟨q, rfl⟩)
    unfold onRawMessage at h
    split at h
    · cases h
    · rw [hb, requestPlayer_of_bound hb h hp]
  | none =>
    simp only [RequestsOwnPlayer, onRawMessage, hb, reduceCtorEq, exists_false, false_or,
      imp_false]
    cases hm : deserializeBufferToMessage lib buffer with
    | none => simp
    | some m =>
      simp only [Option.some.injEq, forall_eq', ← request_iff_of_unbound hb]
      push Not
      rfl

/-- A session bound to no player sends a request to create a party with one argument, and
the lobby request published is made by the player of that argument. -/
theorem unbound_session_forges :
    ¬ ∀ (lib : Libcbor) (registry : SessionRegistry) (s : SessionId) (buffer : ByteBuffer),
      RequestsOwnPlayer lib registry s buffer := by
  intro h
  have hp := h .flat .empty ⟨1⟩ [0x82, 0x19, 0x01, 0x00, 0x05] (.createLobbyRequest ⟨5⟩) ⟨5⟩
    (by decide) rfl
  exact absurd hp (by decide)

end MessageRouter

end DungeonCrawler
