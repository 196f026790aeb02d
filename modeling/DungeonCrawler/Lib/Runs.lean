import Mathlib.Tactic

/-!
Runs of a machine that takes one event after another: what a step preserves a run
preserves, and what a run does wrong it does wrong at one of its steps.
-/

namespace Runs

variable {σ ε : Type*} (step : σ → ε → σ)

/-- The state after a list of events. -/
def run (s : σ) (es : List ε) : σ := es.foldl step s

@[simp] lemma run_nil (s : σ) : run step s [] = s := rfl
@[simp] lemma run_cons (s : σ) (e : ε) (es : List ε) :
    run step s (e :: es) = run step (step s e) es := rfl
lemma run_append (s : σ) (us vs : List ε) :
    run step s (us ++ vs) = run step (run step s us) vs := by
  simp [run, List.foldl_append]
lemma run_snoc (s : σ) (es : List ε) (e : ε) :
    run step s (es ++ [e]) = step (run step s es) e := by
  simp [run_append]

/-- Every step of the run is taken in a state and on an event related by `C`. -/
def Along (C : σ → ε → Prop) (s : σ) (es : List ε) : Prop :=
  ∀ us e vs, es = us ++ e :: vs → C (run step s us) e

/-- Every state the run passes through, its first and its last one included, meets `I`. -/
def Always (I : σ → Prop) (s : σ) (es : List ε) : Prop :=
  ∀ us vs, es = us ++ vs → I (run step s us)

/-- Some step of the run met `P`, and every state from the one it led to on meets `I`. -/
def Since (P : σ → ε → Prop) (I : σ → Prop) (s : σ) (es : List ε) : Prop :=
  ∃ us e vs, es = us ++ e :: vs ∧ P (run step s us) e ∧
    Always step I (step (run step s us) e) vs

/-- Every step of the run meets `Q`, which may look at the whole history before it. -/
def EachStep (Q : List ε → ε → Prop) (es : List ε) : Prop :=
  ∀ us e vs, es = us ++ e :: vs → Q us e

variable {step} {C : σ → ε → Prop} {I : σ → Prop} {Q : List ε → ε → Prop} {s : σ}

lemma eachStep_nil : EachStep Q [] := by
  intro us e vs h
  simp at h

lemma eachStep_snoc {es : List ε} {e : ε} :
    EachStep Q (es ++ [e]) ↔ EachStep Q es ∧ Q es e := by
  constructor
  · refine fun h => ⟨fun us a vs he => h us a (vs ++ [e]) (by simp [he]), h es e [] rfl⟩
  · rintro ⟨h, hq⟩ us a vs he
    rcases List.eq_nil_or_concat vs with rfl | ⟨ws, b, rfl⟩
    · obtain ⟨rfl, ha⟩ := List.append_inj' he rfl
      obtain rfl : e = a := by simpa using ha
      exact hq
    · rw [List.concat_eq_append, ← List.cons_append, ← List.append_assoc] at he
      obtain ⟨rfl, -⟩ := List.append_inj' he rfl
      exact h us a ws rfl

lemma along_iff_eachStep {es : List ε} :
    Along step C s es ↔ EachStep (fun us e => C (run step s us) e) es := Iff.rfl

lemma along_nil : Along step C s [] := eachStep_nil

lemma along_snoc {es : List ε} {e : ε} :
    Along step C s (es ++ [e]) ↔ Along step C s es ∧ C (run step s es) e := by
  rw [along_iff_eachStep, eachStep_snoc, ← along_iff_eachStep]

lemma along_cons {es : List ε} {e : ε} :
    Along step C s (e :: es) ↔ C s e ∧ Along step C (step s e) es := by
  constructor
  · refine fun h => ⟨h [] e es rfl, fun us a vs he => ?_⟩
    exact h (e :: us) a vs (by rw [he, List.cons_append])
  · rintro ⟨hc, h⟩ us a vs he
    rcases us with _ | ⟨b, us⟩
    · obtain ⟨rfl, -⟩ := List.cons.inj he
      exact hc
    · obtain ⟨rfl, rfl⟩ := List.cons.inj he
      exact h us a vs rfl

lemma always_nil : Always step I s [] ↔ I s := by
  constructor
  · exact fun h => h [] [] rfl
  · intro h us vs he
    obtain ⟨rfl, rfl⟩ := List.append_eq_nil_iff.mp he.symm
    exact h

lemma always_snoc {es : List ε} {e : ε} :
    Always step I s (es ++ [e]) ↔ Always step I s es ∧ I (step (run step s es) e) := by
  constructor
  · intro h
    refine ⟨fun us vs he => h us (vs ++ [e]) (by simp [he]), ?_⟩
    have := h (es ++ [e]) [] (by simp)
    rwa [run_snoc] at this
  · rintro ⟨h, hl⟩ us vs he
    rcases List.eq_nil_or_concat vs with rfl | ⟨ws, b, rfl⟩
    · rw [List.append_nil] at he
      rwa [← he, run_snoc]
    · rw [List.concat_eq_append, ← List.append_assoc] at he
      obtain ⟨rfl, -⟩ := List.append_inj' he rfl
      exact h us ws rfl

lemma Always.last {es : List ε} (h : Always step I s es) : I (run step s es) :=
  h es [] (by simp)

section Since

variable {P : σ → ε → Prop} {es : List ε} {e : ε}

lemma Since.start (hP : P (run step s es) e) (hI : I (step (run step s es) e)) :
    Since step P I s (es ++ [e]) :=
  ⟨es, e, [], rfl, hP, always_nil.mpr hI⟩

lemma Since.keep (h : Since step P I s es) (hI : I (step (run step s es) e)) :
    Since step P I s (es ++ [e]) := by
  obtain ⟨us, a, vs, rfl, hP, hvs⟩ := h
  refine ⟨us, a, vs ++ [e], by simp, hP, always_snoc.mpr ⟨hvs, ?_⟩⟩
  simpa [run_append] using hI

lemma Since.last (h : Since step P I s es) : I (run step s es) := by
  obtain ⟨us, a, vs, rfl, -, hvs⟩ := h
  simpa [run_append] using hvs.last

lemma Since.mono {P' : σ → ε → Prop} (h : Since step P I s es)
    (hP : ∀ s e, P s e → P' s e) : Since step P' I s es := by
  obtain ⟨us, a, vs, he, hp, hvs⟩ := h
  exact ⟨us, a, vs, he, hP _ _ hp, hvs⟩

end Since

/-- **Invariants.** What every step preserves holds at the end of every run. -/
theorem run_inv (h : ∀ s e, I s → I (step s e)) (hs : I s) (es : List ε) :
    I (run step s es) := by
  induction es using List.reverseRecOn with
  | nil => exact hs
  | append_singleton es e ih => rw [run_snoc]; exact h _ _ ih

/-- **Invariants under a side condition.** What every step that meets `C` preserves holds
in every state of a run whose steps all meet `C`. -/
theorem always_of_along (h : ∀ s e, I s → C s e → I (step s e)) (hs : I s) {es : List ε}
    (hC : Along step C s es) : Always step I s es := by
  induction es using List.reverseRecOn with
  | nil => exact always_nil.mpr hs
  | append_singleton es e ih =>
    obtain ⟨h1, h2⟩ := along_snoc.mp hC
    have ih' := ih h1
    exact always_snoc.mpr ⟨ih', h _ _ ih'.last h2⟩

/-- **The exact side condition.** If, from a state that meets `I`, the next one meets `I`
exactly when the step meets `C`, then a run stays in `I` exactly when all its steps
meet `C`. -/
theorem always_iff_along (h : ∀ s e, I s → (I (step s e) ↔ C s e)) (hs : I s)
    (es : List ε) : Always step I s es ↔ Along step C s es := by
  refine ⟨fun hI => ?_, always_of_along (fun s e hi hc => (h s e hi).mpr hc) hs⟩
  intro us e vs he
  have hu : I (run step s us) := hI us (e :: vs) he
  have hn : I (run step s (us ++ [e])) := hI (us ++ [e]) vs (by simp [he])
  rw [run_snoc] at hn
  exact (h _ _ hu).mp hn

/-- The exact side condition for a property whose step needs an invariant that all runs
keep. -/
theorem always_iff_along_of_inv {J : σ → Prop} (hJ : ∀ s e, J s → J (step s e)) (hs : J s)
    (h : ∀ s e, J s → I s → (I (step s e) ↔ C s e)) (hi : I s) (es : List ε) :
    Always step I s es ↔ Along step C s es := by
  have both : Always step (fun s => J s ∧ I s) s es ↔ Along step C s es :=
    always_iff_along (fun s e ⟨hj, hi⟩ => by simp [hJ s e hj, h s e hj hi]) ⟨hs, hi⟩ es
  refine Iff.trans ⟨fun ha us vs he => ?_, fun ha us vs he => (ha us vs he).2⟩ both
  exact ⟨run_inv hJ hs us, ha us vs he⟩

/-- The exact side condition for a property of steps that looks at the history: it is
enough to compare the two at a step all of whose predecessors met `C`. -/
theorem eachStep_iff_along (h : ∀ us e, Along step C s us → (Q us e ↔ C (run step s us) e))
    (es : List ε) : EachStep Q es ↔ Along step C s es := by
  induction es using List.reverseRecOn with
  | nil => exact ⟨fun _ => eachStep_nil, fun _ => eachStep_nil⟩
  | append_singleton es e ih =>
    rw [eachStep_snoc, along_snoc, ih]
    exact and_congr_right fun hC => h es e hC

/-! ### Accounts -/

section Account

variable {M : Type*} [AddMonoid M]

/-- What the steps of a run contribute, one after the other. -/
def total (step : σ → ε → σ) (f : σ → ε → M) : σ → List ε → M
  | _, [] => 0
  | s, e :: es => f s e + total step f (step s e) es

lemma total_snoc (f : σ → ε → M) (s : σ) (es : List ε) (e : ε) :
    total step f s (es ++ [e]) = total step f s es + f (run step s es) e := by
  induction es generalizing s with
  | nil => simp [total]
  | cons a es ih => rw [List.cons_append, total, ih, total, add_assoc, run_cons]

/-- **Accounts.** A quantity to which every step adds what it contributes is at the end what it
was at the beginning and all that the run contributed. -/
theorem account (v : σ → M) (f : σ → ε → M) (hI : ∀ s e, I s → I (step s e))
    (h : ∀ s e, I s → v (step s e) = v s + f s e) (hs : I s) (es : List ε) :
    v (run step s es) = v s + total step f s es := by
  induction es using List.reverseRecOn with
  | nil => exact (add_zero _).symm
  | append_singleton es e ih =>
    rw [run_snoc, h _ _ (run_inv hI hs es), ih, total_snoc, add_assoc]

end Account

/-! ### The first write -/

/-- **The first write.** What is seen of the state, where an event writes it only if nothing was
written before, is at the end what was there or else what the first writing event wrote. -/
theorem view_run_first {α : Type*} (view : σ → Option α) (write : ε → Option α)
    (hI : ∀ s e, I s → I (step s e))
    (h : ∀ s e, I s → view (step s e) = (view s).or (write e)) (hs : I s) (es : List ε) :
    view (run step s es) = (view s).or (es.findSome? write) := by
  induction es generalizing s with
  | nil => exact (Option.or_none).symm
  | cons e es ih =>
    rw [run_cons, ih (hI s e hs), h s e hs, Option.or_assoc, List.findSome?_cons]
    cases write e <;> rfl

/-! ### The last write -/

section LastWrite

variable {α : Type*}

/-- **The last write.** What is seen of the state, where every event either writes it or leaves
it, is at the end what the last writing event wrote. -/
theorem view_run (view : σ → α) (write : ε → Option α)
    (h : ∀ s e, view (step s e) = (write e).getD (view s)) (s : σ) (es : List ε) :
    view (run step s es) = (es.filterMap write).getLast?.getD (view s) := by
  induction es using List.reverseRecOn with
  | nil => rfl
  | append_singleton es e ih =>
    rw [run_snoc, h, ih, List.filterMap_append]
    cases hw : write e with
    | none => simp [hw]
    | some a => simp [hw]

/-- If all writes come from one element of a list, it matters only whether it is there. -/
lemma getLast?_filterMap_of_one {κ β : Type*} [DecidableEq κ] {w : κ → Option β} {k : κ}
    (h : ∀ x, x ≠ k → w x = none) (l : List κ) :
    (l.filterMap w).getLast? = if k ∈ l then w k else none := by
  induction l using List.reverseRecOn with
  | nil => rfl
  | append_singleton l x ih =>
    rw [List.filterMap_append]
    by_cases hx : x = k
    · subst hx
      cases hw : w x with
      | none => simp [hw, ih]
      | some b => simp [hw]
    · simp [h x hx, ih, Ne.symm hx]

end LastWrite

end Runs
