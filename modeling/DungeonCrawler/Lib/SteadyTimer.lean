import Mathlib.Tactic

/-!
A timer with asynchronous waits.

The waits that are pending end together, when the time has come or when they are cancelled;
setting a new time cancels them. The handler of a wait that has ended is queued and runs later.
A loop that waits again from its own handler has one wait pending at most, and wakes at most as
often as the time has come.
-/

/-- The waits that are pending, the handlers queued because the time had come and because their
wait was cancelled, and how often the time has come with a wait pending. -/
structure SteadyTimer where
  waiting : ℕ
  fired : ℕ
  aborted : ℕ
  expiries : ℕ
  deriving DecidableEq

namespace SteadyTimer

def init : SteadyTimer := ⟨0, 0, 0, 0⟩

def cancel (t : SteadyTimer) : SteadyTimer :=
  { t with waiting := 0, aborted := t.aborted + t.waiting }

/-- A new time is set. -/
def expiresAfter (t : SteadyTimer) : SteadyTimer := t.cancel

def asyncWait (t : SteadyTimer) : SteadyTimer := { t with waiting := t.waiting + 1 }

/-- A new time is set and waited for. -/
def rearm (t : SteadyTimer) : SteadyTimer := t.expiresAfter.asyncWait

/-- The time has come. -/
def expire (t : SteadyTimer) : SteadyTimer :=
  if t.waiting = 0 then t
  else { t with waiting := 0, fired := t.fired + t.waiting, expiries := t.expiries + 1 }

/-- A queued handler of a wait that was cancelled runs. -/
def runAborted (t : SteadyTimer) : SteadyTimer := { t with aborted := t.aborted - 1 }

/-- A queued handler of a wait whose time had come runs. -/
def runFired (t : SteadyTimer) : SteadyTimer := { t with fired := t.fired - 1 }

variable {t : SteadyTimer} {woken : ℕ}

@[simp] lemma rearm_waiting (t : SteadyTimer) : t.rearm.waiting = 1 := Nat.zero_add 1
@[simp] lemma rearm_fired (t : SteadyTimer) : t.rearm.fired = t.fired := rfl
@[simp] lemma cancel_waiting (t : SteadyTimer) : t.cancel.waiting = 0 := rfl
@[simp] lemma cancel_fired (t : SteadyTimer) : t.cancel.fired = t.fired := rfl
@[simp] lemma runAborted_waiting (t : SteadyTimer) : t.runAborted.waiting = t.waiting := rfl
@[simp] lemma runAborted_fired (t : SteadyTimer) : t.runAborted.fired = t.fired := rfl
@[simp] lemma runFired_waiting (t : SteadyTimer) : t.runFired.waiting = t.waiting := rfl
@[simp] lemma runFired_fired (t : SteadyTimer) : t.runFired.fired = t.fired - 1 := rfl

lemma expire_of_waiting (h : 0 < t.waiting) : t.expire =
    { t with waiting := 0, fired := t.fired + t.waiting, expiries := t.expiries + 1 } :=
  if_neg (Nat.pos_iff_ne_zero.mp h)

/-- The waits pending and the handlers queued for them are together as many as before. -/
lemma expire_outstanding (t : SteadyTimer) :
    t.expire.waiting + t.expire.fired = t.waiting + t.fired := by
  unfold expire
  split_ifs with h
  · rfl
  · show 0 + (t.fired + t.waiting) = t.waiting + t.fired
    omega

/-- One wait is pending at most, and each time that came woke one handler at most. -/
structure Paid (t : SteadyTimer) (woken : ℕ) : Prop where
  single : t.waiting ≤ 1
  paid : woken + t.fired ≤ t.expiries

lemma paid_init : Paid init 0 := ⟨Nat.zero_le _, le_rfl⟩

lemma Paid.rearm (h : Paid t woken) : Paid t.rearm woken := ⟨le_of_eq (rearm_waiting t), h.paid⟩

lemma Paid.cancel (h : Paid t woken) : Paid t.cancel woken := ⟨Nat.zero_le _, h.paid⟩

lemma Paid.runAborted (h : Paid t woken) : Paid t.runAborted woken := ⟨h.single, h.paid⟩

lemma Paid.expire (h : Paid t woken) : Paid t.expire woken := by
  have h1 := h.single
  have h2 := h.paid
  unfold SteadyTimer.expire
  split_ifs
  · exact h
  · refine ⟨Nat.zero_le _, ?_⟩
    show woken + (t.fired + t.waiting) ≤ t.expiries + 1
    omega

/-- A handler that runs may wake the loop. -/
lemma Paid.runFired (h : Paid t woken) (hf : 0 < t.fired) : Paid t.runFired (woken + 1) := by
  refine ⟨h.single, ?_⟩
  have h2 := h.paid
  show woken + 1 + (t.fired - 1) ≤ t.expiries
  omega

lemma Paid.mono (h : Paid t woken) {woken' : ℕ} (hle : woken' ≤ woken) : Paid t woken' :=
  ⟨h.single, (Nat.add_le_add_right hle _).trans h.paid⟩

end SteadyTimer
