import DungeonCrawler.Lib.Runs
import DungeonCrawler.Lib.SparseVector
import DungeonCrawler.Lib.UnorderedMap

/-!
The event bus: signals in a vector under the identifiers of the event types, and a table from
the types to the identifiers.

The identifiers are given out by one counter for all buses, so a vector has places of types
that its bus never saw. An event goes to its callbacks by its static type, through the vector
and a cast that is not checked, or by its dynamic type, through the table. A result is `none`
where the program has no defined behaviour: a cast of a holder to another type, or a place of
the vector that is empty or not there.
-/

namespace DungeonCrawler

/-- The event types and which of them derives from which. -/
structure EventHierarchy (Ty : Type) where
  derives : Ty → Ty → Bool
  refl : ∀ T, derives T T

/-- The identifiers given out so far, and the next one. -/
structure EventTypeIdCounter (Ty : Type) [DecidableEq Ty] where
  ids : Finmap fun _ : Ty => ℕ
  next : ℕ
  lt_next : ∀ T i, ids.lookup T = some i → i < next
  injective : ∀ T T' i, ids.lookup T = some i → ids.lookup T' = some i → T = T'

/-- The connected slots of a signal, each with the number of its connection, and the event
type that the signal is for. -/
structure SignalHolder (Ty C : Type) where
  eventType : Ty
  signal : List (ℕ × C)

structure EventBus (Ty C : Type) [DecidableEq Ty] where
  event_type_ids_ : Finmap fun _ : Ty => ℕ
  signals_ : List (Option (SignalHolder Ty C))

variable {Ty C : Type} [DecidableEq Ty]

namespace EventTypeIdCounter

def start : EventTypeIdCounter Ty where
  ids := ∅
  next := 0
  lt_next := by simp
  injective := by simp

/-- The counter with the next identifier given to a type that has none. -/
def nextId (c : EventTypeIdCounter Ty) (T : Ty) : EventTypeIdCounter Ty where
  ids := c.ids.insert T c.next
  next := c.next + 1
  lt_next T' i h := by
    rw [Finmap.lookup_insert_ite] at h
    split_ifs at h
    · cases h
      exact Nat.lt_succ_self _
    · exact (c.lt_next T' i h).trans (Nat.lt_succ_self _)
  injective T' T'' i h h' := by
    rw [Finmap.lookup_insert_ite] at h h'
    split_ifs at h h' with hT hT' hT'
    · rw [hT, hT']
    · cases h
      exact absurd (c.lt_next _ _ h') (Nat.lt_irrefl _)
    · cases h'
      exact absurd (c.lt_next _ _ h) (Nat.lt_irrefl _)
    · exact c.injective _ _ _ h h'

def get (c : EventTypeIdCounter Ty) (T : Ty) : ℕ × EventTypeIdCounter Ty :=
  match c.ids.lookup T with
  | some id => (id, c)
  | none => (c.next, c.nextId T)

end EventTypeIdCounter

namespace SignalHolder

/-- The cast of a pointer to a holder, which nothing checks. -/
def staticCast (T : Ty) (h : SignalHolder Ty C) : Option (SignalHolder Ty C) :=
  if h.eventType = T then some h else none

def connect (h : SignalHolder Ty C) (slot : ℕ × C) : SignalHolder Ty C :=
  { h with signal := h.signal ++ [slot] }

def disconnect (conn : ℕ) (h : SignalHolder Ty C) : SignalHolder Ty C :=
  { h with signal := h.signal.filter fun slot => slot.1 ≠ conn }

/-- The callbacks that the signal calls, in order. -/
def callbacks (h : SignalHolder Ty C) : List C := h.signal.map Prod.snd

/-- The dispatch of an event of dynamic type `T`. -/
def dispatch (H : EventHierarchy Ty) (h : SignalHolder Ty C) (T : Ty) : List C :=
  if H.derives T h.eventType then h.callbacks else []

end SignalHolder

namespace EventBus

def create : EventBus Ty C := ⟨∅, []⟩

/-- The bus with a signal for the type, and the place of the signal. -/
def getOrCreateSignal (bus : EventBus Ty C) (c : EventTypeIdCounter Ty) (T : Ty) :
    EventBus Ty C × ℕ × EventTypeIdCounter Ty :=
  let (type_id, c) := c.get T
  let signals :=
    if type_id ≥ bus.signals_.length then SparseVector.resize bus.signals_ (type_id + 1)
    else bus.signals_
  let signals :=
    if (SparseVector.get signals type_id).isNone then signals.set type_id (some ⟨T, []⟩)
    else signals
  (⟨bus.event_type_ids_.emplace T type_id, signals⟩, type_id, c)

/-- A slot is connected to the signal of the type. The log asks for the identifier again. -/
def subscribe (bus : EventBus Ty C) (c : EventTypeIdCounter Ty) (T : Ty) (slot : ℕ × C) :
    Option (EventBus Ty C × EventTypeIdCounter Ty) :=
  let (bus, type_id, c) := bus.getOrCreateSignal c T
  ((SparseVector.get bus.signals_ type_id).bind (SignalHolder.staticCast T)).map fun holder =>
    ({ bus with signals_ := bus.signals_.set type_id (some (holder.connect slot)) }, (c.get T).2)

/-- The callbacks that an event reaches by its static type. -/
def publish (bus : EventBus Ty C) (c : EventTypeIdCounter Ty) (T : Ty) :
    Option (List C) × EventTypeIdCounter Ty :=
  let (type_id, c) := c.get T
  match SparseVector.get bus.signals_ type_id with
  | none => (some [], c)
  | some holder => ((holder.staticCast T).map SignalHolder.callbacks, c)

/-- The callbacks that an event reaches by its dynamic type, through a base reference. -/
def publishBase (H : EventHierarchy Ty) (bus : EventBus Ty C) (T : Ty) : Option (List C) :=
  match bus.event_type_ids_.lookup T with
  | none => some []
  | some type_id => (SparseVector.get bus.signals_ type_id).map fun holder => holder.dispatch H T

/-- A connection is closed; it belongs to one signal, if to any. -/
def disconnect (bus : EventBus Ty C) (conn : ℕ) : EventBus Ty C :=
  { bus with signals_ := bus.signals_.map (Option.map (SignalHolder.disconnect conn)) }

end EventBus

/-! ### Several buses and one counter -/

/-- What the program does with its buses. A disconnect names the number of a connection. -/
inductive BusOp (Bus Ty C : Type)
  | subscribe (bus : Bus) (T : Ty) (callback : C)
  | disconnect (conn : ℕ)
  | publish (bus : Bus) (T : Ty)
  | publishBase (bus : Bus) (T : Ty)

/-- The counter, the buses, and how many connections were made. -/
structure Buses (Bus Ty C : Type) [DecidableEq Ty] where
  counter : EventTypeIdCounter Ty
  bus : Bus → EventBus Ty C
  connections : ℕ

variable {Bus : Type} [DecidableEq Bus]

namespace Buses

def start : Buses Bus Ty C := ⟨.start, fun _ => .create, 0⟩

def step (H : EventHierarchy Ty) (w : Buses Bus Ty C) : BusOp Bus Ty C → Option (Buses Bus Ty C)
  | .subscribe b T callback =>
    ((w.bus b).subscribe w.counter T (w.connections, callback)).map fun r =>
      ⟨r.2, Function.update w.bus b r.1, w.connections + 1⟩
  | .disconnect conn => some { w with bus := fun b => (w.bus b).disconnect conn }
  | .publish b T =>
    ((w.bus b).publish w.counter T).1.map fun _ =>
      { w with counter := ((w.bus b).publish w.counter T).2 }
  | .publishBase b T => ((w.bus b).publishBase H T).map fun _ => w

def run (H : EventHierarchy Ty) (ops : List (BusOp Bus Ty C)) : Option (Buses Bus Ty C) :=
  ops.foldlM (step H) start

end Buses

/-! ### What the buses are for -/

structure Subscription (Bus Ty C : Type) where
  conn : ℕ
  bus : Bus
  eventType : Ty
  callback : C

/-- The connected subscriptions of all buses in the order they were made. -/
structure Subscriptions (Bus Ty C : Type) where
  connected : List (Subscription Bus Ty C)
  connections : ℕ

namespace Subscriptions

def step (l : Subscriptions Bus Ty C) : BusOp Bus Ty C → Subscriptions Bus Ty C
  | .subscribe b T callback => ⟨l.connected ++ [⟨l.connections, b, T, callback⟩], l.connections + 1⟩
  | .disconnect conn => { l with connected := l.connected.filter fun s => s.conn ≠ conn }
  | .publish _ _ => l
  | .publishBase _ _ => l

def after (ops : List (BusOp Bus Ty C)) : Subscriptions Bus Ty C := Runs.run step ⟨[], 0⟩ ops

/-- The subscriptions of one bus for one type. -/
def slots (l : Subscriptions Bus Ty C) (b : Bus) (T : Ty) : List (ℕ × C) :=
  (l.connected.filter fun s => s.bus = b ∧ s.eventType = T).map fun s => (s.conn, s.callback)

/-- The callbacks that an event of the type is for. -/
def callbacks (l : Subscriptions Bus Ty C) (b : Bus) (T : Ty) : List C :=
  (l.slots b T).map Prod.snd

variable (l : Subscriptions Bus Ty C)

lemma slots_subscribe_self (b : Bus) (T : Ty) (callback : C) :
    (l.step (.subscribe b T callback)).slots b = fun T' =>
      if T' = T then l.slots b T' ++ [(l.connections, callback)] else l.slots b T' := by
  funext T'
  simp only [step, slots, List.filter_append, List.map_append]
  split_ifs with hT
  · simp [hT]
  · simp [Ne.symm hT]

lemma slots_subscribe_other {b b' : Bus} (hb : b' ≠ b) (T : Ty) (callback : C) :
    (l.step (.subscribe b T callback)).slots b' = l.slots b' := by
  funext T'
  simp [step, slots, Ne.symm hb]

lemma slots_disconnect (conn : ℕ) (b : Bus) :
    (l.step (.disconnect conn)).slots b = fun T =>
      (l.slots b T).filter fun slot => slot.1 ≠ conn := by
  funext T
  simp only [step, slots, List.filter_filter, List.filter_map]
  congr 1
  exact List.filter_congr fun s _ => Bool.and_comm _ _

end Subscriptions

/-! ### Identifiers -/

namespace EventTypeIdCounter

variable {c c' : EventTypeIdCounter Ty}

/-- The identifiers given out stay. -/
def Extends (c c' : EventTypeIdCounter Ty) : Prop :=
  ∀ T i, c.ids.lookup T = some i → c'.ids.lookup T = some i

lemma extends_get (c : EventTypeIdCounter Ty) (T : Ty) : c.Extends (c.get T).2 := by
  intro T' i h
  unfold get
  split
  · exact h
  · rename_i hT
    rw [nextId, Finmap.lookup_insert_ite, if_neg]
    · exact h
    · rintro rfl
      rw [hT] at h
      cases h

/-- The type has the identifier that it gets. -/
lemma lookup_get (c : EventTypeIdCounter Ty) (T : Ty) :
    (c.get T).2.ids.lookup T = some (c.get T).1 := by
  unfold get
  split
  · assumption
  · exact Finmap.lookup_insert _

/-- Asking again changes nothing. -/
lemma get_get (c : EventTypeIdCounter Ty) (T : Ty) : ((c.get T).2.get T).2 = (c.get T).2 := by
  have h := c.lookup_get T
  generalize (c.get T).2 = c' at h ⊢
  rw [get, h]

/-- No other type has the identifier that a type gets. -/
lemma eq_of_lookup_get {T T' : Ty} (h : c.ids.lookup T' = some (c.get T).1) : T' = T :=
  (c.get T).2.injective _ _ _ (c.extends_get T _ _ h) (c.lookup_get T)

end EventTypeIdCounter

/-! ### The two indices agree -/

namespace EventBus

/-- The vector and the table of a bus hold the same signals, each under the identifier of its
type, with the slots it should have; and types without a signal have no slots. -/
structure Agrees (c : EventTypeIdCounter Ty) (bus : EventBus Ty C) (slots : Ty → List (ℕ × C)) :
    Prop where
  holder : ∀ i h, SparseVector.get bus.signals_ i = some h →
    c.ids.lookup h.eventType = some i ∧ bus.event_type_ids_.lookup h.eventType = some i ∧
      h.signal = slots h.eventType
  index : ∀ T i, bus.event_type_ids_.lookup T = some i →
    ∃ h, SparseVector.get bus.signals_ i = some h ∧ h.eventType = T
  silent : ∀ T, T ∉ bus.event_type_ids_ → slots T = []

namespace Agrees

variable {c c' : EventTypeIdCounter Ty} {bus : EventBus Ty C} {slots : Ty → List (ℕ × C)} {T : Ty}

lemma create : (EventBus.create : EventBus Ty C).Agrees c fun _ => [] where
  holder i h hi := by simp [EventBus.create] at hi
  index T i hT := by simp [EventBus.create] at hT
  silent _ _ := rfl

lemma mono (hc : c.Extends c') (h : bus.Agrees c slots) : bus.Agrees c' slots where
  holder i s hi :=
    ⟨hc _ _ (h.holder i s hi).1, (h.holder i s hi).2⟩
  index := h.index
  silent := h.silent

/-- The signal under the identifier of a type is for that type. -/
lemma eventType_eq (h : bus.Agrees c slots) {s : SignalHolder Ty C}
    (hs : SparseVector.get bus.signals_ (c.get T).1 = some s) : s.eventType = T :=
  c.eq_of_lookup_get (h.holder _ _ hs).1

/-- Where there is no signal under the identifier of a type, the table does not know it. -/
lemma notMem (h : bus.Agrees c slots) (hs : SparseVector.get bus.signals_ (c.get T).1 = none) :
    T ∉ bus.event_type_ids_ := by
  intro hT
  obtain ⟨i, hi⟩ := Finmap.mem_iff.mp hT
  obtain ⟨s, hget, rfl⟩ := h.index T i hi
  have hid := c.extends_get s.eventType _ _ (h.holder i s hget).1
  rw [c.lookup_get] at hid
  rw [Option.some.inj hid, hget] at hs
  cases hs

/-- **The static route** reaches the slots of the type. -/
lemma publish (h : bus.Agrees c slots) (T : Ty) :
    bus.publish c T = (some ((slots T).map Prod.snd), (c.get T).2) := by
  unfold EventBus.publish
  dsimp only
  rcases hs : SparseVector.get bus.signals_ (c.get T).1 with _ | s
  · rw [h.silent T (h.notMem hs)]
    rfl
  · have hT := h.eventType_eq hs
    have hsig := (h.holder _ _ hs).2.2
    rw [hT] at hsig
    simp [SignalHolder.staticCast, hT, SignalHolder.callbacks, hsig]

/-- **The dynamic route** reaches them too. -/
lemma publishBase (h : bus.Agrees c slots) (H : EventHierarchy Ty) (T : Ty) :
    bus.publishBase H T = some ((slots T).map Prod.snd) := by
  unfold EventBus.publishBase
  rcases hi : bus.event_type_ids_.lookup T with _ | i
  · rw [h.silent T (Finmap.lookup_eq_none.mp hi)]
    rfl
  · obtain ⟨s, hget, rfl⟩ := h.index T i hi
    have hsig := (h.holder i s hget).2.2
    simp [hget, SignalHolder.dispatch, H.refl, SignalHolder.callbacks, hsig]

lemma disconnect (h : bus.Agrees c slots) (conn : ℕ) :
    (bus.disconnect conn).Agrees c fun T => (slots T).filter fun slot => slot.1 ≠ conn where
  holder i s hs := by
    rw [EventBus.disconnect, SparseVector.get_map] at hs
    obtain ⟨s', hs', rfl⟩ := Option.map_eq_some_iff.mp hs
    obtain ⟨hid, htab, hsig⟩ := h.holder i s' hs'
    refine ⟨hid, htab, ?_⟩
    rw [SignalHolder.disconnect, hsig]
  index T i hi := by
    obtain ⟨s, hs, hT⟩ := h.index T i hi
    refine ⟨s.disconnect conn, ?_, hT⟩
    rw [EventBus.disconnect, SparseVector.get_map, hs]
    rfl
  silent T hT := by rw [h.silent T hT, List.filter_nil]

/-- A signal put at the place of its type, which the table knows or gets to know. -/
lemma put (h : bus.Agrees c slots) {bus' : EventBus Ty C} {slots' : Ty → List (ℕ × C)}
    {s : SignalHolder Ty C} {i : ℕ} (hid : c.ids.lookup s.eventType = some i)
    (hget : ∀ j, SparseVector.get bus'.signals_ j =
      if j = i then some s else SparseVector.get bus.signals_ j)
    (htab : ∀ T, bus'.event_type_ids_.lookup T =
      if T = s.eventType then some i else bus.event_type_ids_.lookup T)
    (hsig : s.signal = slots' s.eventType)
    (hother : ∀ T, T ≠ s.eventType → slots' T = slots T) : bus'.Agrees c slots' where
  holder j s' hs' := by
    rw [hget] at hs'
    split_ifs at hs' with hj
    · cases hs'
      exact ⟨hj ▸ hid, by rw [htab, if_pos rfl, hj], hsig⟩
    · obtain ⟨hid', htab', hsig'⟩ := h.holder j s' hs'
      have hne : s'.eventType ≠ s.eventType := by
        intro heq
        rw [heq, hid] at hid'
        exact hj (Option.some.inj hid').symm
      exact ⟨hid', by rw [htab, if_neg hne, htab'], by rw [hother _ hne, hsig']⟩
  index T j hT := by
    rw [htab] at hT
    split_ifs at hT with hne
    · cases hT
      exact ⟨s, by rw [hget, if_pos rfl], hne.symm⟩
    · obtain ⟨s', hs', rfl⟩ := h.index T j hT
      have hj : j ≠ i := by
        rintro rfl
        exact hne (c.injective _ _ _ (h.holder j s' hs').1 hid)
      exact ⟨s', by rw [hget, if_neg hj, hs'], rfl⟩
  silent T hT := by
    rw [← Finmap.lookup_eq_none, htab] at hT
    split_ifs at hT with hne
    rw [hother T hne, h.silent T (Finmap.lookup_eq_none.mp hT)]

/-- Getting or creating a signal: the slots are as before, and there is a signal for the type
under its identifier. -/
lemma getOrCreateSignal (h : bus.Agrees c slots) (T : Ty) :
    (bus.getOrCreateSignal c T).1.Agrees (c.get T).2 slots ∧
      (bus.getOrCreateSignal c T).2 = c.get T ∧
      ∃ s, SparseVector.get (bus.getOrCreateSignal c T).1.signals_ (c.get T).1 = some s ∧
        s.eventType = T := by
  have h' := h.mono (c.extends_get T)
  -- the vector with room for the place
  set v := if (c.get T).1 ≥ bus.signals_.length then
    SparseVector.resize bus.signals_ ((c.get T).1 + 1) else bus.signals_ with hv
  have hget : ∀ i, SparseVector.get v i = SparseVector.get bus.signals_ i := by
    intro i
    rw [hv]
    split_ifs
    · exact SparseVector.get_resize _ _ i
    · rfl
  have hlen : (c.get T).1 < v.length := by
    rw [hv]
    split_ifs with hge
    · exact SparseVector.lt_length_resize _ (Nat.lt_succ_self _)
    · exact not_le.mp hge
  rcases hs : SparseVector.get bus.signals_ (c.get T).1 with _ | s
  · -- there was none
    have hnot := h.notMem hs
    have hres : bus.getOrCreateSignal c T =
        (⟨bus.event_type_ids_.insert T (c.get T).1, v.set (c.get T).1 (some ⟨T, []⟩)⟩,
          c.get T) := by
      unfold EventBus.getOrCreateSignal
      dsimp only
      rw [← hv, if_pos (by rw [hget, hs]; rfl), Finmap.emplace_of_notMem hnot]
    have hput : ∀ j, SparseVector.get (v.set (c.get T).1 (some ⟨T, []⟩)) j =
        if j = (c.get T).1 then some ⟨T, []⟩ else SparseVector.get bus.signals_ j := fun j => by
      rw [SparseVector.get_set hlen, hget]
    rw [hres]
    refine ⟨h'.put (s := ⟨T, []⟩) (c.lookup_get T) hput ?_ (h.silent T hnot).symm fun _ _ => rfl,
      rfl, ⟨T, []⟩, ?_, rfl⟩
    · exact fun T' => Finmap.lookup_insert_ite _ _ _ _
    · rw [hput, if_pos rfl]
  · -- it is there
    have hT := h.eventType_eq hs
    have htab := (h.holder _ _ hs).2.1
    rw [hT] at htab
    have hres : bus.getOrCreateSignal c T = (⟨bus.event_type_ids_, v⟩, c.get T) := by
      unfold EventBus.getOrCreateSignal
      dsimp only
      rw [← hv, if_neg (by rw [hget, hs]; simp),
        Finmap.emplace_of_mem (Finmap.mem_iff.mpr ⟨_, htab⟩)]
    rw [hres]
    refine ⟨h'.put (s := s) (by rw [hT]; exact c.lookup_get T) (fun j => ?_) (fun T' => ?_)
      (h.holder _ _ hs).2.2 fun _ _ => rfl, rfl, s, ?_, hT⟩
    · rw [hget]
      split_ifs with hj
      · rw [hj, hs]
      · rfl
    · rw [hT]
      split_ifs with hT'
      · rw [hT', htab]
      · rfl
    · rw [hget, hs]

/-- **Subscribing** has a defined result: the slot is the last of its type, on either index. -/
lemma subscribe (h : bus.Agrees c slots) (T : Ty) (slot : ℕ × C) :
    ∃ bus', bus.subscribe c T slot = some (bus', (c.get T).2) ∧
      bus'.Agrees (c.get T).2 fun T' => if T' = T then slots T' ++ [slot] else slots T' := by
  obtain ⟨hag, hres, s, hs, rfl⟩ := h.getOrCreateSignal T
  rcases hg : bus.getOrCreateSignal c s.eventType with ⟨bus₁, type_id, c₁⟩
  rw [hg] at hag hres hs
  obtain rfl : type_id = (c.get s.eventType).1 := congrArg Prod.fst hres
  obtain rfl : c₁ = (c.get s.eventType).2 := congrArg Prod.snd hres
  obtain ⟨hid, htab, hsig⟩ := hag.holder _ _ hs
  have hcast : SignalHolder.staticCast s.eventType s = some s := if_pos rfl
  rw [EventBus.subscribe, hg]
  dsimp only
  rw [hs, Option.bind_some, hcast, c.get_get]
  refine ⟨_, rfl, hag.put (s := s.connect slot) hid (fun j => ?_) (fun T' => ?_) ?_
    fun T' hne => if_neg hne⟩
  · exact SparseVector.get_set (SparseVector.lt_length_of_get hs) _ j
  · split_ifs with hT'
    · rw [hT']
      exact htab
    · rfl
  · change s.signal ++ [slot] =
      if s.eventType = s.eventType then slots s.eventType ++ [slot] else slots s.eventType
    rw [if_pos rfl, hsig]

end Agrees

end EventBus

/-! ### Whole runs -/

namespace Buses

/-- The buses agree with the subscriptions made so far. -/
structure Simulates (w : Buses Bus Ty C) (l : Subscriptions Bus Ty C) : Prop where
  connections : w.connections = l.connections
  agrees : ∀ b, (w.bus b).Agrees w.counter (l.slots b)

variable {w : Buses Bus Ty C} {l : Subscriptions Bus Ty C}

lemma simulates_start : (start : Buses Bus Ty C).Simulates ⟨[], 0⟩ := ⟨rfl, fun _ => .create⟩

/-- **One operation.** It has a defined result, which agrees with what the operation does to
the subscriptions. -/
lemma Simulates.step (h : w.Simulates l) (H : EventHierarchy Ty) (op : BusOp Bus Ty C) :
    ∃ w', w.step H op = some w' ∧ w'.Simulates (l.step op) := by
  cases op with
  | subscribe b T callback =>
    obtain ⟨bus', hres, hag⟩ := (h.agrees b).subscribe T (w.connections, callback)
    refine ⟨_, by rw [Buses.step, hres, Option.map_some], ?_, fun b' => ?_⟩
    · exact congrArg (· + 1) h.connections
    · change EventBus.Agrees _ (Function.update w.bus b bus' b') _
      by_cases hb : b' = b
      · subst hb
        rw [Function.update_self, l.slots_subscribe_self, ← h.connections]
        exact hag
      · rw [Function.update_of_ne hb, l.slots_subscribe_other hb]
        exact (h.agrees b').mono (w.counter.extends_get T)
  | disconnect conn =>
    refine ⟨_, rfl, h.connections, fun b => ?_⟩
    rw [l.slots_disconnect]
    exact (h.agrees b).disconnect conn
  | publish b T =>
    refine ⟨{ w with counter := (w.counter.get T).2 }, ?_, h.connections, fun b' => ?_⟩
    · rw [Buses.step, (h.agrees b).publish]
      rfl
    · exact (h.agrees b').mono (w.counter.extends_get T)
  | publishBase b T =>
    refine ⟨w, ?_, h⟩
    rw [Buses.step, (h.agrees b).publishBase]
    rfl

/-- **The run.** Every run has a defined result that agrees with the subscriptions. -/
lemma run_simulates (H : EventHierarchy Ty) (ops : List (BusOp Bus Ty C)) :
    ∃ w, run H ops = some w ∧ w.Simulates (Subscriptions.after ops) := by
  induction ops using List.reverseRecOn with
  | nil => exact ⟨_, rfl, simulates_start⟩
  | append_singleton ops op ih =>
    obtain ⟨w, hrun, hw⟩ := ih
    obtain ⟨w', hstep, hw'⟩ := hw.step H op
    refine ⟨w', ?_, ?_⟩
    · rw [run] at hrun ⊢
      rw [List.foldlM_append, hrun, Option.bind_eq_bind, Option.bind_some, List.foldlM_cons,
        hstep]
      rfl
    · rwa [Subscriptions.after, Runs.run_snoc]

end Buses

/-- **Two routes, one delivery.** After any operations on any buses, an event reaches the same
callbacks by its static type and by its dynamic type: those subscribed to its type on the bus
and not disconnected since, in the order of their subscriptions. Nothing undefined happens on
the way. -/
theorem publish_routes_agree (H : EventHierarchy Ty) (ops : List (BusOp Bus Ty C)) :
    ∃ w, Buses.run H ops = some w ∧ ∀ b T,
      ((w.bus b).publish w.counter T).1 = some ((Subscriptions.after ops).callbacks b T) ∧
      (w.bus b).publishBase H T = some ((Subscriptions.after ops).callbacks b T) := by
  obtain ⟨w, hrun, hw⟩ := Buses.run_simulates H ops
  refine ⟨w, hrun, fun b T => ⟨?_, (hw.agrees b).publishBase H T⟩⟩
  rw [(hw.agrees b).publish]
  rfl

end DungeonCrawler
