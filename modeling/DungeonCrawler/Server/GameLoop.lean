import DungeonCrawler.Lib.Runs
import DungeonCrawler.Lib.SteadyTimer

/-!
The game loop: a timer whose handler publishes a tick and waits again.

The handlers run on any of the threads, and the flag may change between any two of their
actions: a handler looks at the flag, publishes, looks at it again, and sets the timer and waits.
The handlers at each of these points are counted. To start is to clear the flag and then to go on
like a handler that has published; to stop is to set the flag and then to cancel the timer.
-/

namespace DungeonCrawler

open Runs

structure GameLoop where
  stopped_ : Bool
  timer_ : SteadyTimer
  /-- Calls of `stop` that have set the flag and not yet cancelled the timer. -/
  stopping : ℕ
  /-- Handlers that found the loop running and have not published. -/
  checked : ℕ
  /-- Calls of `start` that have cleared the flag, and handlers that have published or found an
  error of the timer, that have not looked at the flag since. -/
  scheduling : ℕ
  /-- Calls that are about to set the timer. -/
  arming : ℕ
  ticks : ℕ
  deriving DecidableEq

namespace GameLoop

def init : GameLoop := ⟨false, .init, 0, 0, 0, 0, 0⟩

inductive Step
  /-- `start` clears the flag. -/
  | start
  /-- `stop` sets the flag. -/
  | stop
  /-- `stop` cancels the timer. -/
  | cancel
  /-- The time of the timer has come. -/
  | expire
  /-- The handler of a cancelled wait runs. -/
  | aborted
  /-- The handler of a wait runs, with or without an error of the timer. -/
  | woken (error : Bool)
  | publish
  | schedule
  | arm
  deriving DecidableEq

def start (g : GameLoop) : GameLoop :=
  { g with stopped_ := false, scheduling := g.scheduling + 1 }

def step (g : GameLoop) : Step → GameLoop
  | .start => g.start
  | .stop => { g with stopped_ := true, stopping := g.stopping + 1 }
  | .cancel =>
    if g.stopping = 0 then g
    else { g with timer_ := g.timer_.cancel, stopping := g.stopping - 1 }
  | .expire => { g with timer_ := g.timer_.expire }
  | .aborted => { g with timer_ := g.timer_.runAborted }
  | .woken error =>
    if g.timer_.fired = 0 then g
    else
      let g := { g with timer_ := g.timer_.runFired }
      if g.stopped_ then g
      else if error then { g with scheduling := g.scheduling + 1 }
      else { g with checked := g.checked + 1 }
  | .publish =>
    if g.checked = 0 then g
    else { g with checked := g.checked - 1, scheduling := g.scheduling + 1, ticks := g.ticks + 1 }
  | .schedule =>
    if g.scheduling = 0 then g
    else
      let g := { g with scheduling := g.scheduling - 1 }
      if g.stopped_ then g else { g with arming := g.arming + 1 }
  | .arm =>
    if g.arming = 0 then g
    else { g with arming := g.arming - 1, timer_ := g.timer_.rearm }

/-- The waits and handlers that go on with the loop. -/
def chains (g : GameLoop) : ℕ :=
  g.timer_.waiting + g.timer_.fired + g.checked + g.scheduling + g.arming

/-- The loop is not started while it is being stopped. -/
def NotWhileStopping (g : GameLoop) (e : Step) : Prop := e = .start → g.stopping = 0

/-- What is kept of a loop that was started. -/
structure Kept (g : GameLoop) : Prop where
  alive : g.stopped_ = false → 0 < g.chains
  stopping : 0 < g.stopping → g.stopped_ = true

variable {g : GameLoop}

lemma paid_step (g : GameLoop) (e : Step) (timer : g.timer_.Paid (g.ticks + g.checked)) :
    (step g e).timer_.Paid ((step g e).ticks + (step g e).checked) := by
  cases e with
  | start => exact timer
  | stop => exact timer
  | cancel =>
    unfold step
    dsimp only
    split_ifs
    · exact timer
    · exact timer.cancel
  | expire => exact timer.expire
  | aborted => exact timer.runAborted
  | woken error =>
    unfold step
    dsimp only
    split_ifs with hf hs he
    · exact timer
    · exact (timer.runFired (Nat.pos_of_ne_zero hf)).mono (Nat.le_succ _)
    · exact (timer.runFired (Nat.pos_of_ne_zero hf)).mono (Nat.le_succ _)
    · exact timer.runFired (Nat.pos_of_ne_zero hf)
  | publish =>
    unfold step
    dsimp only
    split_ifs with hc
    · exact timer
    · refine timer.mono ?_
      show g.ticks + 1 + (g.checked - 1) ≤ g.ticks + g.checked
      omega
  | schedule =>
    unfold step
    dsimp only
    split_ifs <;> exact timer
  | arm =>
    unfold step
    dsimp only
    split_ifs
    · exact timer
    · exact timer.rearm

lemma paid_run (steps : List Step) :
    (run step init.start steps).timer_.Paid
      ((run step init.start steps).ticks + (run step init.start steps).checked) :=
  run_inv (I := fun g : GameLoop => g.timer_.Paid (g.ticks + g.checked)) paid_step
    SteadyTimer.paid_init steps

lemma kept_start : Kept init.start := ⟨fun _ => by decide, by decide⟩

lemma kept_step (g : GameLoop) (e : Step) (h : Kept g) (hc : NotWhileStopping g e) :
    Kept (step g e) := by
  obtain ⟨alive, stopping⟩ := h
  unfold chains at alive
  cases e with
  | start =>
    refine ⟨fun _ => ?_, fun hs => absurd (hc rfl) (Nat.pos_iff_ne_zero.mp hs)⟩
    show 0 < _ + (g.scheduling + 1) + g.arming
    omega
  | stop => exact ⟨fun hr => (by cases hr), fun _ => rfl⟩
  | cancel =>
    unfold step
    dsimp only
    split_ifs with hs
    · exact ⟨alive, stopping⟩
    · have hstopped := stopping (Nat.pos_of_ne_zero hs)
      exact ⟨fun hr => absurd hstopped (Bool.eq_false_iff.mp hr), fun _ => hstopped⟩
  | expire =>
    refine ⟨fun hr => ?_, stopping⟩
    have hpos := alive hr
    rw [← g.timer_.expire_outstanding] at hpos
    exact hpos
  | aborted => exact ⟨alive, stopping⟩
  | woken error =>
    unfold step
    dsimp only
    split_ifs with hf hs he
    · exact ⟨alive, stopping⟩
    · exact ⟨fun hr => absurd hs (Bool.eq_false_iff.mp hr), stopping⟩
    · refine ⟨fun _ => ?_, stopping⟩
      show 0 < _ + (g.scheduling + 1) + g.arming
      omega
    · refine ⟨fun _ => ?_, stopping⟩
      show 0 < _ + (g.checked + 1) + g.scheduling + g.arming
      omega
  | publish =>
    unfold step
    dsimp only
    split_ifs with hc
    · exact ⟨alive, stopping⟩
    · refine ⟨fun _ => ?_, stopping⟩
      show 0 < _ + (g.scheduling + 1) + g.arming
      omega
  | schedule =>
    unfold step
    dsimp only
    split_ifs with hp hs
    · exact ⟨alive, stopping⟩
    · exact ⟨fun hr => absurd hs (Bool.eq_false_iff.mp hr), stopping⟩
    · refine ⟨fun _ => ?_, stopping⟩
      show 0 < _ + (g.arming + 1)
      omega
  | arm =>
    unfold step
    dsimp only
    split_ifs with ha
    · exact ⟨alive, stopping⟩
    · refine ⟨fun _ => ?_, stopping⟩
      show 0 < g.timer_.rearm.waiting + _ + _ + _ + _
      rw [SteadyTimer.rearm_waiting]
      omega

/-! ### A loop started once -/

/-- Only `start` adds to the waits and handlers. -/
lemma chains_step (h : g.timer_.waiting ≤ 1) (h1 : g.chains ≤ 1) {e : Step} (he : e ≠ .start) :
    (step g e).chains ≤ 1 := by
  unfold chains at h1
  cases e with
  | start => exact absurd rfl he
  | stop => exact h1
  | cancel =>
    unfold step
    dsimp only
    split_ifs
    · exact h1
    · show 0 + g.timer_.fired + g.checked + g.scheduling + g.arming ≤ 1
      omega
  | expire =>
    have hsum := g.timer_.expire_outstanding
    show g.timer_.expire.waiting + g.timer_.expire.fired + g.checked + g.scheduling + g.arming ≤ 1
    omega
  | aborted => exact h1
  | woken error =>
    unfold step
    dsimp only
    split_ifs with hf
    · exact h1
    · show g.timer_.waiting + (g.timer_.fired - 1) + g.checked + g.scheduling + g.arming ≤ 1
      omega
    · show g.timer_.waiting + (g.timer_.fired - 1) + g.checked + (g.scheduling + 1) + g.arming ≤ 1
      omega
    · show g.timer_.waiting + (g.timer_.fired - 1) + (g.checked + 1) + g.scheduling + g.arming ≤ 1
      omega
  | publish =>
    unfold step
    dsimp only
    split_ifs with hc
    · exact h1
    · show g.timer_.waiting + g.timer_.fired + (g.checked - 1) + (g.scheduling + 1) + g.arming ≤ 1
      omega
  | schedule =>
    unfold step
    dsimp only
    split_ifs with hp
    · exact h1
    · show g.timer_.waiting + g.timer_.fired + g.checked + (g.scheduling - 1) + g.arming ≤ 1
      omega
    · show g.timer_.waiting + g.timer_.fired + g.checked + (g.scheduling - 1) + (g.arming + 1) ≤ 1
      omega
  | arm =>
    unfold step
    dsimp only
    split_ifs with ha
    · exact h1
    · show g.timer_.rearm.waiting + g.timer_.fired + g.checked + g.scheduling + (g.arming - 1) ≤ 1
      rw [SteadyTimer.rearm_waiting]
      omega

lemma chains_run {steps : List Step} (h : g.timer_.Paid (g.ticks + g.checked))
    (h1 : g.chains ≤ 1) (hs : .start ∉ steps) : (run step g steps).chains ≤ 1 := by
  induction steps generalizing g with
  | nil => exact h1
  | cons e es ih =>
    obtain ⟨he, hes⟩ := List.ne_and_not_mem_of_not_mem_cons hs
    exact ih (paid_step g e h) (chains_step h.single h1 he.symm) hes

/-! ### A loop that was stopped -/

/-- A handler that looks at the flag after it was set publishes nothing. -/
lemma ticks_step {n : ℕ} (hs : g.stopped_ = true) (h : g.ticks + g.checked ≤ n) {e : Step}
    (he : e ≠ .start) :
    (step g e).stopped_ = true ∧ (step g e).ticks + (step g e).checked ≤ n := by
  cases e with
  | start => exact absurd rfl he
  | stop => exact ⟨rfl, h⟩
  | cancel =>
    unfold step
    dsimp only
    split_ifs <;> exact ⟨hs, h⟩
  | expire => exact ⟨hs, h⟩
  | aborted => exact ⟨hs, h⟩
  | woken error =>
    unfold step
    dsimp only
    rw [if_pos hs]
    split_ifs <;> exact ⟨hs, h⟩
  | publish =>
    unfold step
    dsimp only
    split_ifs with hc
    · exact ⟨hs, h⟩
    · refine ⟨hs, ?_⟩
      show g.ticks + 1 + (g.checked - 1) ≤ n
      omega
  | schedule =>
    unfold step
    dsimp only
    rw [if_pos hs]
    split_ifs <;> exact ⟨hs, h⟩
  | arm =>
    unfold step
    dsimp only
    split_ifs <;> exact ⟨hs, h⟩

lemma ticks_run {n : ℕ} {steps : List Step} (hs : g.stopped_ = true)
    (h : g.ticks + g.checked ≤ n) (hstart : .start ∉ steps) :
    (run step g steps).ticks ≤ n := by
  induction steps generalizing g with
  | nil => exact (Nat.le_add_right _ _).trans h
  | cons e es ih =>
    obtain ⟨he, hes⟩ := List.ne_and_not_mem_of_not_mem_cons hstart
    obtain ⟨hs', h'⟩ := ticks_step hs h he.symm
    exact ih hs' h' hes

/-! ### A loop that runs -/

lemma ticks_of_checked (h : 0 < g.checked) :
    (run step g [.publish]).ticks = g.ticks + 1 := by
  have hc : g.checked ≠ 0 := Nat.pos_iff_ne_zero.mp h
  simp [step, hc]

lemma ticks_of_fired (hs : g.stopped_ = false) (h : 0 < g.timer_.fired) :
    (run step g [.woken false, .publish]).ticks = g.ticks + 1 := by
  have hf : g.timer_.fired ≠ 0 := Nat.pos_iff_ne_zero.mp h
  simp [step, hf, hs]

lemma ticks_of_waiting (hs : g.stopped_ = false) (h : 0 < g.timer_.waiting) :
    (run step g [.expire, .woken false, .publish]).ticks = g.ticks + 1 := by
  refine ticks_of_fired (g := step g .expire) hs ?_
  show 0 < g.timer_.expire.fired
  rw [SteadyTimer.expire_of_waiting h]
  exact Nat.add_pos_right _ h

lemma ticks_of_arming (hs : g.stopped_ = false) (h : 0 < g.arming) :
    (run step g [.arm, .expire, .woken false, .publish]).ticks = g.ticks + 1 := by
  have ha : g.arming ≠ 0 := Nat.pos_iff_ne_zero.mp h
  have harm : step g .arm = { g with arming := g.arming - 1, timer_ := g.timer_.rearm } :=
    if_neg ha
  rw [run_cons, harm]
  exact ticks_of_waiting hs (by simp)

lemma ticks_of_scheduling (hs : g.stopped_ = false) (h : 0 < g.scheduling) :
    (run step g [.schedule, .arm, .expire, .woken false, .publish]).ticks = g.ticks + 1 := by
  have hp : g.scheduling ≠ 0 := Nat.pos_iff_ne_zero.mp h
  have hschedule : step g .schedule =
      { g with scheduling := g.scheduling - 1, arming := g.arming + 1 } := by
    simp [step, hp, hs]
  rw [run_cons, hschedule]
  exact ticks_of_arming hs (Nat.succ_pos _)

/-- What is asked of a loop after some steps: one wait is pending at most, and no tick is
published without a time that came; while it is not stopped it can always tick again, without
anyone's help, unless it was started while it was being stopped; if it was started once, one wait
or handler goes on with it; and once it is stopped it publishes what handlers past the flag were
about to publish and no more. -/
structure Regular (steps : List Step) (g : GameLoop) : Prop where
  single : g.timer_.waiting ≤ 1
  paid : g.ticks ≤ g.timer_.expiries
  goes_on : Along step NotWhileStopping init.start steps → g.stopped_ = false →
    ∃ more, .start ∉ more ∧ .stop ∉ more ∧ (run step g more).ticks = g.ticks + 1
  alone : .start ∉ steps → g.chains ≤ 1
  ends : g.stopped_ = true → ∀ more, .start ∉ more →
    (run step g more).ticks ≤ g.ticks + g.checked

/-- **The loop is regular.** After any interleaving of the calls, the timer and the handlers. -/
theorem regular_run (steps : List Step) : Regular steps (run step init.start steps) := by
  have timer := paid_run steps
  set g := run step init.start steps with hg
  refine ⟨timer.single, ?_, fun hc hs => ?_, fun hstart => ?_, fun hs more hmore => ?_⟩
  · have := timer.paid
    omega
  · have kept : Kept g := (always_of_along kept_step kept_start hc).last
    have hpos := kept.alive hs
    unfold chains at hpos
    by_cases hwaiting : 0 < g.timer_.waiting
    · exact ⟨_, by decide, by decide, ticks_of_waiting hs hwaiting⟩
    by_cases hfired : 0 < g.timer_.fired
    · exact ⟨_, by decide, by decide, ticks_of_fired hs hfired⟩
    by_cases hchecked : 0 < g.checked
    · exact ⟨_, by decide, by decide, ticks_of_checked hchecked⟩
    by_cases hscheduling : 0 < g.scheduling
    · exact ⟨_, by decide, by decide, ticks_of_scheduling hs hscheduling⟩
    · exact ⟨_, by decide, by decide, ticks_of_arming hs (by omega)⟩
  · exact chains_run SteadyTimer.paid_init (by decide) hstart
  · exact ticks_run hs le_rfl hmore

end GameLoop

end DungeonCrawler
