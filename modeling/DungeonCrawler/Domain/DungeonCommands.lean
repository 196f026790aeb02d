import DungeonCrawler.Domain.DungeonVitals

/-!
A tick while commands come in.

The queue of commands is guarded by a lock of its own, so a command may be given at any time,
between two commands that a tick carries out as well. The tick carries out what it popped at its
beginning; what comes later waits for the next one. Seen from outside a tick happens at once,
when it pops the queue, and every command is carried out once, in the order they were given.
-/

namespace DungeonCrawler

namespace Dungeon

open Runs

/-! ### What the queue has to do with the rest -/

variable {cfg : Gameplay} {d : Dungeon} {q : List Command}

def withQueue (d : Dungeon) (q : List Command) : Dungeon := { d with command_queue_ := q }

@[simp] lemma withQueue_self (d : Dungeon) : d.withQueue d.command_queue_ = d := rfl

@[simp] lemma withQueue_queue (d : Dungeon) (q : List Command) :
    (d.withQueue q).command_queue_ = q := rfl

@[simp] lemma withQueue_withQueue (d : Dungeon) (q q' : List Command) :
    (d.withQueue q).withQueue q' = d.withQueue q' := rfl

@[simp] lemma withQueue_players (d : Dungeon) (q : List Command) :
    (d.withQueue q).players_ = d.players_ := rfl

@[simp] lemma withQueue_monsters (d : Dungeon) (q : List Command) :
    (d.withQueue q).monsters_ = d.monsters_ := rfl

@[simp] lemma isAvailable_withQueue (d : Dungeon) (q : List Command) :
    (d.withQueue q).isAvailable = d.isAvailable := rfl

@[simp] lemma isGameOver_withQueue (d : Dungeon) (q : List Command) :
    (d.withQueue q).isGameOver = d.isGameOver := rfl

/-- What does the same whatever is in the queue, and leaves the queue alone. -/
def Queueless (f : Dungeon → Dungeon) : Prop :=
  ∀ d q, f (d.withQueue q) = (f d).withQueue q

lemma Queueless.queue {f : Dungeon → Dungeon} (hf : Queueless f) (d : Dungeon) :
    (f d).command_queue_ = d.command_queue_ := by
  have h := hf d d.command_queue_
  rw [withQueue_self] at h
  rw [h, withQueue_queue]

lemma Queueless.foldl {γ : Type} {f : Dungeon → γ → Dungeon} (hf : ∀ x, Queueless (f · x))
    (l : List γ) : Queueless (fun d => l.foldl f d) := by
  intro d q
  induction l generalizing d with
  | nil => rfl
  | cons x l ih =>
    have hx : f (d.withQueue q) x = (f d x).withQueue q := hf x d q
    simp only [List.foldl_cons, hx]
    exact ih _

lemma queueless_runCommand (ord : IterOrder MobId) (c : Command) :
    Queueless (runCommand ord · c) := by
  intro d q
  cases c with
  | attack player_id damage =>
    simp only [runCommand, withQueue_players, withQueue_monsters]
    cases d.players_.getEntity player_id with
    | none => rfl
    | some player =>
      dsimp only
      cases EntityManager.findClosestTarget ord player.position_
          player.data_.radius_attack.toUInt64 d.monsters_ <;> split_ifs <;> rfl
  | move player_id direction =>
    simp only [runCommand, withQueue_players, isAvailable_withQueue]
    cases d.players_.getEntity player_id with
    | none => rfl
    | some player =>
      obtain ⟨available, ha⟩ : ∃ b, d.isAvailable
        (player.position_ + positionOffsetFromDirection direction) = b := ⟨_, rfl⟩
      simp only [ha]
      cases available <;> cases player.isAlive <;> rfl

lemma queueless_moveMonster (ord : IterOrder MobId) (draw : ℕ × Direction) :
    Queueless (moveMonster ord · draw) := by
  intro d q
  simp only [moveMonster, withQueue_monsters, isAvailable_withQueue]
  cases (ord.entries d.monsters_.entities_)[draw.1]? with
  | none => rfl
  | some entry =>
    obtain ⟨available, ha⟩ : ∃ b, d.isAvailable
      (entry.2.position_ + positionOffsetFromDirection draw.2) = b := ⟨_, rfl⟩
    simp only [ha]
    cases available <;> cases entry.2.isAlive <;> rfl

lemma queueless_attackPlayer (outcomes : TickOutcomes) (attackPower : HP) (idx : ℕ) :
    Queueless (attackPlayer outcomes attackPower · idx) := by
  intro d q
  simp only [attackPlayer, withQueue_players, withQueue_monsters]
  cases (outcomes.monsterOrder.entries d.monsters_.entities_)[idx]? with
  | none => rfl
  | some entry =>
    dsimp only
    cases EntityManager.findClosestTarget outcomes.playerOrder entry.2.position_
        entry.2.data_.radius_attack.toUInt64 d.players_ <;> split_ifs <;> rfl

lemma queueless_monsterTurn (cfg : Gameplay) (outcomes : TickOutcomes) :
    Queueless (monsterTurn cfg outcomes) := by
  intro d q
  have moves : Queueless (moveRandomMonsters outcomes outcomes.moveCount) := fun d q =>
    Queueless.foldl (fun i => queueless_moveMonster _ (outcomes.moves i)) _ d q
  have attacks : Queueless
      (performRandomAttacks outcomes cfg.monster_default_attack outcomes.attackCount) :=
    fun d q => Queueless.foldl (fun i => queueless_attackPlayer _ _ (outcomes.attacks i)) _ d q
  unfold monsterTurn
  rw [show (d.withQueue q).monsters_ = d.monsters_ from rfl]
  split_ifs
  · dsimp only
    rw [moves, attacks]
  · rfl

/-! ### The tick, command by command -/

/-- What is left of a tick once its commands are carried out. -/
def endTick (cfg : Gameplay) (outcomes : TickOutcomes) (d : Dungeon) :
    Option DungeonSnapshot × Dungeon :=
  let d := monsterTurn cfg outcomes d
  if d.isGameOver then (none, d)
  else
    let state : DungeonState :=
      ⟨d.game_map_, d.players_.entities_, d.monsters_.entities_⟩
    (some (createGameStateDTO outcomes state), d)

def runCommands (outcomes : TickOutcomes) (commands : List Command) (d : Dungeon) : Dungeon :=
  commands.foldl (runCommand outcomes.monsterOrder) d

lemma processTick_eq (cfg : Gameplay) (outcomes : TickOutcomes) (d : Dungeon) :
    d.processTick cfg outcomes =
      endTick cfg outcomes (runCommands outcomes d.command_queue_ (d.withQueue [])) := rfl

lemma runCommands_withQueue (outcomes : TickOutcomes) (commands : List Command) (d : Dungeon)
    (q : List Command) : runCommands outcomes commands (d.withQueue q) =
      (runCommands outcomes commands d).withQueue q :=
  Queueless.foldl (queueless_runCommand outcomes.monsterOrder) commands d q

/-- What a tick returns does not depend on the queue, which it leaves alone from then on. -/
lemma endTick_withQueue (cfg : Gameplay) (outcomes : TickOutcomes) (d : Dungeon)
    (q : List Command) : endTick cfg outcomes (d.withQueue q) =
      ((endTick cfg outcomes d).1, (endTick cfg outcomes d).2.withQueue q) := by
  unfold endTick
  dsimp only
  rw [queueless_monsterTurn, isGameOver_withQueue]
  split_ifs <;> rfl

lemma endTick_queue (cfg : Gameplay) (outcomes : TickOutcomes) (d : Dungeon) :
    (endTick cfg outcomes d).2.command_queue_ = d.command_queue_ := by
  have h := endTick_withQueue cfg outcomes d d.command_queue_
  rw [withQueue_self] at h
  rw [h, withQueue_queue]

/-! ### Commands that come while a tick runs -/

def Call.ofCommand : Command → Call
  | .attack player_id damage => .addPlayerAttackCommand player_id damage
  | .move player_id direction => .addMovePlayerCommand player_id direction

/-- The command that a call gives. -/
def Call.command : Call → Option Command
  | .addPlayerAttackCommand player_id damage => some (.attack player_id damage)
  | .addMovePlayerCommand player_id direction => some (.move player_id direction)
  | .processTick _ => none

@[simp] lemma Call.command_ofCommand (c : Command) : (Call.ofCommand c).command = some c := by
  cases c <;> rfl

lemma step_ofCommand (cfg : Gameplay) (d : Dungeon) (c : Command) :
    step cfg d (.ofCommand c) = d.withQueue (d.command_queue_ ++ [c]) := by
  cases c <;> rfl

/-- A dungeon with the tick that runs, if one does, and the commands it has yet to carry out.
Beside it stand what the ticks returned, the commands carried out, and the calls, each from the
moment it took effect. -/
structure Play where
  dungeon : Dungeon
  tick : Option (TickOutcomes × List Command)
  returned : List (Option DungeonSnapshot)
  executed : List Command
  calls : List Call

namespace Play

def init (d : Dungeon) : Play := ⟨d, none, [], [], []⟩

/-- What is done under a lock, and so at once. -/
inductive Event
  /-- a command is pushed -/
  | push (c : Command)
  /-- a tick begins: it pops all commands -/
  | popAll (outcomes : TickOutcomes)
  /-- the tick carries out the next command -/
  | command
  /-- the monsters have their turn, and the tick returns -/
  | monsters

/-- Ticks do not overlap: while one runs no other begins. -/
def step (cfg : Gameplay) (t : Play) : Event → Play
  | .push c =>
    { t with
      dungeon := t.dungeon.withQueue (t.dungeon.command_queue_ ++ [c])
      calls := t.calls ++ [.ofCommand c] }
  | .popAll outcomes =>
    match t.tick with
    | some _ => t
    | none =>
      { t with
        dungeon := t.dungeon.withQueue []
        tick := some (outcomes, t.dungeon.command_queue_)
        calls := t.calls ++ [.processTick outcomes] }
  | .command =>
    match t.tick with
    | some (outcomes, c :: commands) =>
      { t with
        dungeon := t.dungeon.runCommand outcomes.monsterOrder c
        tick := some (outcomes, commands)
        executed := t.executed ++ [c] }
    | _ => t
  | .monsters =>
    match t.tick with
    | some (outcomes, []) =>
      let (snapshot, d) := endTick cfg outcomes t.dungeon
      { t with dungeon := d, tick := none, returned := t.returned ++ [snapshot] }
    | _ => t

/-- What the tick that runs has yet to carry out. -/
def popped (t : Play) : List Command := (t.tick.map Prod.snd).getD []

/-- What the tick that runs will return and leave behind if nothing comes in between. -/
def rest (cfg : Gameplay) (t : Play) : List (Option DungeonSnapshot) × Dungeon :=
  match t.tick with
  | none => ([], t.dungeon)
  | some (outcomes, commands) =>
    let (snapshot, d) := endTick cfg outcomes (runCommands outcomes commands t.dungeon)
    ([snapshot], d)

end Play

/-- What a call returns, if it is a tick. -/
def returns (cfg : Gameplay) (d : Dungeon) : Call → List (Option DungeonSnapshot)
  | .processTick outcomes => [(d.processTick cfg outcomes).1]
  | _ => []

/-- What the ticks of a list of calls return. -/
def snapshots (cfg : Gameplay) : Dungeon → List Call → List (Option DungeonSnapshot)
  | _, [] => []
  | d, c :: calls => returns cfg d c ++ snapshots cfg (d.step cfg c) calls

lemma snapshots_snoc (cfg : Gameplay) (d : Dungeon) (calls : List Call) (c : Call) :
    snapshots cfg d (calls ++ [c]) =
      snapshots cfg d calls ++ returns cfg (run (step cfg) d calls) c := by
  induction calls generalizing d with
  | nil => simp [snapshots]
  | cons c' calls ih => rw [List.cons_append, snapshots, ih, snapshots, run_cons, List.append_assoc]

namespace Play

variable {t : Play} {c : Command} {outcomes : TickOutcomes}

lemma rest_withQueue (cfg : Gameplay) (t : Play) (q : List Command) :
    rest cfg { t with dungeon := t.dungeon.withQueue q } =
      ((rest cfg t).1, (rest cfg t).2.withQueue q) := by
  unfold rest
  cases t.tick with
  | none => rfl
  | some running =>
    dsimp only
    rw [runCommands_withQueue, endTick_withQueue]

lemma rest_queue (cfg : Gameplay) (t : Play) :
    (rest cfg t).2.command_queue_ = t.dungeon.command_queue_ := by
  have h := rest_withQueue cfg t t.dungeon.command_queue_
  rw [withQueue_self] at h
  rw [h, withQueue_queue]

/-- What holds of a dungeon after any interleaving: with the tick that runs done it is where the
calls lead, one after the other, its ticks return what they return then, and the commands were
carried out in order as far as they were. -/
structure Atomic (cfg : Gameplay) (d : Dungeon) (t : Play) : Prop where
  left : (rest cfg t).2 = run (Dungeon.step cfg) d t.calls
  returned : t.returned ++ (rest cfg t).1 = snapshots cfg d t.calls
  order : t.executed ++ (t.popped ++ t.dungeon.command_queue_) =
    d.command_queue_ ++ t.calls.filterMap Call.command

lemma Atomic.push (h : Atomic cfg d t) (c : Command) :
    Atomic cfg d (step cfg t (.push c)) := by
  have hrest : rest cfg (step cfg t (.push c)) = ((rest cfg t).1,
      (rest cfg t).2.withQueue (t.dungeon.command_queue_ ++ [c])) :=
    rest_withQueue cfg t (t.dungeon.command_queue_ ++ [c])
  refine ⟨?_, ?_, ?_⟩
  · rw [hrest]
    show _ = run _ d (t.calls ++ [_])
    rw [run_snoc, ← h.left, step_ofCommand, rest_queue]
  · rw [hrest]
    show t.returned ++ (rest cfg t).1 = snapshots cfg d (t.calls ++ [_])
    rw [snapshots_snoc, ← h.returned]
    cases c <;> simp [Call.ofCommand, returns]
  · show t.executed ++ (t.popped ++ (t.dungeon.command_queue_ ++ [c])) =
      d.command_queue_ ++ (t.calls ++ [_]).filterMap Call.command
    rw [List.filterMap_append, ← List.append_assoc d.command_queue_, ← h.order]
    simp

lemma Atomic.popAll (h : Atomic cfg d t) (outcomes : TickOutcomes) :
    Atomic cfg d (step cfg t (.popAll outcomes)) := by
  unfold step
  dsimp only
  cases ht : t.tick with
  | some running => exact h
  | none =>
    have hleft : t.dungeon = run (Dungeon.step cfg) d t.calls := by
      rw [← h.left, rest, ht]
    have hreturned : t.returned = snapshots cfg d t.calls := by
      rw [← h.returned, rest, ht, List.append_nil]
    refine ⟨?_, ?_, ?_⟩
    · show (endTick cfg outcomes (runCommands outcomes _ _)).2 = run _ d (t.calls ++ [_])
      rw [← processTick_eq, run_snoc, ← hleft]
      rfl
    · show t.returned ++ [(endTick cfg outcomes (runCommands outcomes _ _)).1] =
        snapshots cfg d (t.calls ++ [_])
      rw [← processTick_eq, snapshots_snoc, ← hleft, ← hreturned]
      rfl
    · have horder := h.order
      rw [popped, ht] at horder
      have hnone : [Call.processTick outcomes].filterMap Call.command = [] := rfl
      rw [List.filterMap_append, hnone, List.append_nil]
      simpa [popped] using horder

lemma Atomic.command (h : Atomic cfg d t) : Atomic cfg d (step cfg t .command) := by
  unfold step
  dsimp only
  split
  · rename_i outcomes c commands ht
    have hsame : rest cfg { t with
        dungeon := t.dungeon.runCommand outcomes.monsterOrder c
        tick := some (outcomes, commands)
        executed := t.executed ++ [c] } = rest cfg t := by
      rw [rest, rest, ht]
      rfl
    refine ⟨?_, ?_, ?_⟩
    · rw [hsame]
      exact h.left
    · rw [hsame]
      exact h.returned
    · have horder := h.order
      rw [popped, ht] at horder
      rw [← horder, show (runCommand outcomes.monsterOrder t.dungeon c).command_queue_ =
        t.dungeon.command_queue_ from (queueless_runCommand _ c).queue t.dungeon]
      simp [popped]
  · exact h

lemma Atomic.monsters (h : Atomic cfg d t) : Atomic cfg d (step cfg t .monsters) := by
  unfold step
  dsimp only
  split
  · rename_i outcomes ht
    have hrest : rest cfg t = ([(endTick cfg outcomes t.dungeon).1],
        (endTick cfg outcomes t.dungeon).2) := by
      rw [rest, ht]
      rfl
    refine ⟨?_, ?_, ?_⟩
    · rw [← h.left, hrest]
      rfl
    · rw [← h.returned, hrest]
      simp [rest]
    · have horder := h.order
      rw [popped, ht] at horder
      rw [← horder, endTick_queue]
      rfl
  · exact h

lemma atomic_step (cfg : Gameplay) (d : Dungeon) (t : Play) (e : Event) (h : Atomic cfg d t) :
    Atomic cfg d (step cfg t e) := by
  cases e with
  | push c => exact h.push c
  | popAll outcomes => exact h.popAll outcomes
  | command => exact h.command
  | monsters => exact h.monsters

/-! ### When calls take effect -/

/-- The call that takes effect at an event. -/
def Event.call : Event → Option Call
  | .push c => some (.ofCommand c)
  | .popAll outcomes => some (.processTick outcomes)
  | _ => none

def Event.pushed : Event → Option Command
  | .push c => some c
  | _ => none

/-- Every call takes effect at an event of its own, and every push does. -/
lemma calls_step (cfg : Gameplay) (t : Play) (e : Event) :
    ∃ now : List Call, (step cfg t e).calls = t.calls ++ now ∧
      now.Sublist e.call.toList ∧ now.filterMap Call.command = e.pushed.toList := by
  cases e with
  | push c => exact ⟨[.ofCommand c], rfl, .refl _, by simp [Event.pushed]⟩
  | popAll outcomes =>
    cases ht : t.tick with
    | some running => exact ⟨[], by simp [step, ht], List.nil_sublist _, rfl⟩
    | none => exact ⟨[.processTick outcomes], by simp [step, ht], .refl _, rfl⟩
  | command =>
    refine ⟨[], ?_, List.nil_sublist _, rfl⟩
    unfold step
    dsimp only
    split <;> simp
  | monsters =>
    refine ⟨[], ?_, List.nil_sublist _, rfl⟩
    unfold step
    dsimp only
    split <;> simp

lemma calls_run (cfg : Gameplay) (d : Dungeon) (events : List Event) :
    (run (step cfg) (init d) events).calls.Sublist (events.filterMap Event.call) ∧
      (run (step cfg) (init d) events).calls.filterMap Call.command =
        events.filterMap Event.pushed := by
  induction events using List.reverseRecOn with
  | nil => exact ⟨.refl _, rfl⟩
  | append_singleton events e ih =>
    obtain ⟨now, hcalls, hsub, hcommands⟩ := calls_step cfg (run (step cfg) (init d) events) e
    rw [run_snoc, hcalls, List.filterMap_append, List.filterMap_append, List.filterMap_append, ih.2,
      hcommands]
    refine ⟨?_, by cases e <;> rfl⟩
    refine ih.1.append (hsub.trans ?_)
    cases e <;> exact .refl _

/-- The tick that runs comes to its end by itself. -/
lemma ends (cfg : Gameplay) (t : Play) :
    ∃ more : List Event, (∀ e ∈ more, e.call = none) ∧ (run (step cfg) t more).tick = none := by
  rcases ht : t.tick with _ | ⟨outcomes, commands⟩
  · exact ⟨[], fun _ he => (nomatch he), ht⟩
  · induction commands generalizing t with
    | nil => exact ⟨[.monsters], by simp [Event.call], by simp [step, ht]⟩
    | cons c commands ih =>
      obtain ⟨more, hmore, htick⟩ := ih (step cfg t .command) (by simp [step, ht])
      exact ⟨.command :: more, by simpa [Event.call] using hmore, htick⟩

/-- What is asked of a dungeon on which calls came as they liked. While no tick runs it is what
the calls lead to one after the other, each at the moment it took effect, and the ticks returned
what they return then; every command given was carried out once and in order, or waits for its
turn; and a tick that runs can come to its end without anybody's help. -/
structure Linearizes (cfg : Gameplay) (d : Dungeon) (events : List Event) (t : Play) :
    Prop where
  sequential : t.tick = none →
    t.dungeon = run (Dungeon.step cfg) d t.calls ∧ t.returned = snapshots cfg d t.calls
  in_time : t.calls.Sublist (events.filterMap Event.call)
  given : t.calls.filterMap Call.command = events.filterMap Event.pushed
  once : t.executed ++ (t.popped ++ t.dungeon.command_queue_) =
    d.command_queue_ ++ events.filterMap Event.pushed
  ends : ∃ more : List Event, (∀ e ∈ more, e.call = none) ∧ (run (step cfg) t more).tick = none

/-- **Ticks are atomic.** However commands come in while ticks run. -/
theorem ticks_are_atomic (cfg : Gameplay) (d : Dungeon) (events : List Event) :
    Linearizes cfg d events (run (step cfg) (init d) events) := by
  have start : Atomic cfg d (init d) := ⟨rfl, rfl, by simp [init, popped]⟩
  have atomic := run_inv (atomic_step cfg d) start events
  obtain ⟨in_time, given⟩ := calls_run cfg d events
  refine ⟨fun ht => ⟨?_, ?_⟩, in_time, given, ?_, ends cfg _⟩
  · rw [← atomic.left, rest, ht]
  · rw [← atomic.returned, rest, ht, List.append_nil]
  · rw [atomic.order, given]

end Play

end Dungeon

end DungeonCrawler
