import DungeonCrawler.Common.Serder
import DungeonCrawler.Server.Events

/-!
The factories that turn a message into an event.
-/

namespace DungeonCrawler

/-- A type that an argument of a message is cast to. -/
class ArgumentType (α : Type) where
  safeArgumentCast : UInt64 → Option α

export ArgumentType (safeArgumentCast)

instance {Tag : Type} : ArgumentType (StrongId Tag) where
  safeArgumentCast value := some ⟨value⟩

-- The enumeration checks the range of its underlying type only.
instance : ArgumentType Direction where
  safeArgumentCast value := if value.toNat < 256 then some ⟨value.toUInt8⟩ else none

variable {α β : Type} [ArgumentType α] [ArgumentType β]

def createEvent₁ (event : α → Event) (args : MessageArgs) : Option Event :=
  match args with
  | [a] => do return event (← safeArgumentCast a)
  | _ => none

def createEvent₂ (event : α → β → Event) (args : MessageArgs) : Option Event :=
  match args with
  | [a, b] => do return event (← safeArgumentCast a) (← safeArgumentCast b)
  | _ => none

def kEventFactoryMap : MessageTypeVariant → Option (MessageArgs → Option Event)
  | .network .kJoin => some (createEvent₂ Event.authRequested)
  | .network .kReconnect => some (createEvent₂ Event.reconnectRequested)
  | .app .kCreateParty => some (createEvent₁ Event.createLobbyRequest)
  | .app .kListParties => some (createEvent₁ Event.listLobbiesRequest)
  | .app .kJoinParty => some (createEvent₂ Event.joinLobbyRequest)
  | .app .kLeaveParty => some (createEvent₁ Event.leaveLobbyRequest)
  | .app .kStartGame => some (createEvent₁ Event.startGameRequest)
  | .domain .kMove => some (createEvent₂ Event.moveRequest)
  | .domain .kAttack => some (createEvent₁ Event.atackRequest)
  | _ => none

def makeEvent (msg_type : MessageTypeVariant) (msg_args : MessageArgs) : Option Event :=
  match kEventFactoryMap msg_type with
  | none => none
  | some factory => factory msg_args

lemma createEvent₁_eq_some {event : α → Event} {args : MessageArgs} {e : Event} :
    createEvent₁ event args = some e ↔
      ∃ a x, args = [a] ∧ safeArgumentCast a = some x ∧ e = event x := by
  unfold createEvent₁
  constructor
  · intro h
    split at h
    · obtain ⟨x, hx, he⟩ := Option.bind_eq_some_iff.mp h
      exact ⟨_, x, rfl, hx, (Option.some.inj he).symm⟩
    · cases h
  · rintro ⟨a, x, rfl, hx, rfl⟩
    simp [hx]

lemma createEvent₂_eq_some {event : α → β → Event} {args : MessageArgs} {e : Event} :
    createEvent₂ event args = some e ↔
      ∃ a b x y, args = [a, b] ∧ safeArgumentCast a = some x ∧ safeArgumentCast b = some y ∧
        e = event x y := by
  unfold createEvent₂
  constructor
  · intro h
    split at h
    · obtain ⟨x, hx, h⟩ := Option.bind_eq_some_iff.mp h
      obtain ⟨y, hy, he⟩ := Option.bind_eq_some_iff.mp h
      exact ⟨_, _, x, y, rfl, hx, hy, (Option.some.inj he).symm⟩
    · cases h
  · rintro ⟨a, b, x, y, rfl, hx, hy, rfl⟩
    simp [hx, hy]

@[simp] lemma safeArgumentCast_strongId {Tag : Type} (value : UInt64) :
    safeArgumentCast value = some (⟨value⟩ : StrongId Tag) := rfl

lemma safeArgumentCast_direction {value : UInt64} :
    (∃ d : Direction, safeArgumentCast value = some d) ↔ value.toNat < 256 := by
  show (∃ d : Direction, (if value.toNat < 256 then some (⟨value.toUInt8⟩ : Direction)
    else none) = some d) ↔ _
  split_ifs with h <;> simp [h]

/-- The arguments fill every slot of the factory of a lobby or game request, the player's
slot included. -/
def FillsPlayerSlot (msg_type : MessageTypeVariant) (args : MessageArgs) : Prop :=
  match msg_type with
  | .app .kCreateParty | .app .kListParties | .app .kLeaveParty | .app .kStartGame
  | .domain .kAttack => args.length = 1
  | .app .kJoinParty => args.length = 2
  | .domain .kMove => ∃ a d, args = [a, d] ∧ d.toNat < 256
  | _ => False

/-! ### The player of a request -/

section

variable {γ : Type} [ArgumentType γ] {args : MessageArgs} {e : Event} {p : PlayerId}
variable {event₁ : PlayerId → Event} {event₂ : PlayerId → γ → Event}

lemma head_of_createEvent₁ (hev : ∀ q, (event₁ q).requestPlayer = some q)
    (h : createEvent₁ event₁ args = some e) (hp : e.requestPlayer = some p) :
    args.head? = some p.get := by
  obtain ⟨a, q, rfl, hq, rfl⟩ := createEvent₁_eq_some.mp h
  obtain rfl : q = p := by simpa [hev] using hp
  obtain rfl : ⟨a⟩ = q := by simpa using hq
  rfl

lemma head_of_createEvent₂ (hev : ∀ q c, (event₂ q c).requestPlayer = some q)
    (h : createEvent₂ event₂ args = some e) (hp : e.requestPlayer = some p) :
    args.head? = some p.get := by
  obtain ⟨a, b, q, y, rfl, hq, -, rfl⟩ := createEvent₂_eq_some.mp h
  obtain rfl : q = p := by simpa [hev] using hp
  obtain rfl : ⟨a⟩ = q := by simpa using hq
  rfl

lemma createEvent₁_request_iff (hev : ∀ q, (event₁ q).requestPlayer = some q) :
    (∃ e p, createEvent₁ event₁ args = some e ∧ e.requestPlayer = some p) ↔
      args.length = 1 := by
  constructor
  · rintro ⟨e, p, h, -⟩
    obtain ⟨a, x, rfl, -⟩ := createEvent₁_eq_some.mp h
    rfl
  · intro h
    obtain ⟨a, rfl⟩ := List.length_eq_one_iff.mp h
    exact ⟨event₁ ⟨a⟩, ⟨a⟩, createEvent₁_eq_some.mpr ⟨a, ⟨a⟩, rfl, rfl, rfl⟩, hev _⟩

lemma createEvent₂_request_iff (hev : ∀ q c, (event₂ q c).requestPlayer = some q) :
    (∃ e p, createEvent₂ event₂ args = some e ∧ e.requestPlayer = some p) ↔
      ∃ a b, args = [a, b] ∧ ∃ y : γ, safeArgumentCast b = some y := by
  constructor
  · rintro ⟨e, p, h, -⟩
    obtain ⟨a, b, x, y, rfl, -, hy, -⟩ := createEvent₂_eq_some.mp h
    exact ⟨a, b, rfl, y, hy⟩
  · rintro ⟨a, b, rfl, y, hy⟩
    exact ⟨event₂ ⟨a⟩ y, ⟨a⟩, createEvent₂_eq_some.mpr ⟨a, b, ⟨a⟩, y, rfl, rfl, hy, rfl⟩,
      hev _ _⟩

/-- An event of a session is no request of a player. -/
lemma createEvent₂_no_request {event : SessionId → PlayerId → Event}
    (hev : ∀ s q, (event s q).requestPlayer = none) (h : createEvent₂ event args = some e) :
    e.requestPlayer = none := by
  obtain ⟨a, b, x, y, rfl, -, -, rfl⟩ := createEvent₂_eq_some.mp h
  exact hev x y

end

variable {t : MessageTypeVariant} {args : MessageArgs} {e : Event} {p : PlayerId}

/-- Every factory of a request takes the player from the first argument. -/
lemma makeEvent_requestPlayer (h : makeEvent t args = some e)
    (hp : e.requestPlayer = some p) : args.head? = some p.get := by
  unfold makeEvent kEventFactoryMap at h
  split at h
  · cases h
  · rename_i factory hf
    split at hf <;> cases hf
    -- joining and reconnecting come first in the table
    · simp [createEvent₂_no_request (fun _ _ => rfl) h] at hp
    · simp [createEvent₂_no_request (fun _ _ => rfl) h] at hp
    · exact head_of_createEvent₁ (fun _ => rfl) h hp
    · exact head_of_createEvent₁ (fun _ => rfl) h hp
    · exact head_of_createEvent₂ (fun _ _ => rfl) h hp
    · exact head_of_createEvent₁ (fun _ => rfl) h hp
    · exact head_of_createEvent₁ (fun _ => rfl) h hp
    · exact head_of_createEvent₂ (fun _ _ => rfl) h hp
    · exact head_of_createEvent₁ (fun _ => rfl) h hp

/-- A request comes out exactly when the arguments fill its factory. -/
lemma makeEvent_request_iff :
    (∃ e p, makeEvent t args = some e ∧ e.requestPlayer = some p) ↔
      FillsPlayerSlot t args := by
  have session : ∀ {event : SessionId → PlayerId → Event},
      (∀ s q, (event s q).requestPlayer = none) →
      ((∃ e p, createEvent₂ event args = some e ∧ e.requestPlayer = some p) ↔ False) := by
    intro event hev
    refine iff_of_false ?_ id
    rintro ⟨e, p, h, hp⟩
    simp [createEvent₂_no_request hev h] at hp
  have lobby : (∃ e p, createEvent₂ Event.joinLobbyRequest args = some e ∧
      e.requestPlayer = some p) ↔ args.length = 2 := by
    rw [createEvent₂_request_iff fun _ _ => rfl, List.length_eq_two]
    simp
  have move : (∃ e p, createEvent₂ Event.moveRequest args = some e ∧
      e.requestPlayer = some p) ↔ ∃ a d, args = [a, d] ∧ d.toNat < 256 := by
    rw [createEvent₂_request_iff fun _ _ => rfl]
    simp only [safeArgumentCast_direction]
  unfold makeEvent kEventFactoryMap FillsPlayerSlot
  rcases t with _ | t | t | t
  · simp
  · cases t <;> first | exact session fun _ _ => rfl | simp
  · cases t <;>
      first | exact lobby | exact createEvent₁_request_iff fun _ => rfl | simp
  · cases t <;> first | exact move | exact createEvent₁_request_iff fun _ => rfl | simp

end DungeonCrawler
