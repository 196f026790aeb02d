import Mathlib.Tactic

/-!
Readers take a value off the front of a list of symbols and leave the rest. What is read is
compared with what was written: a reader reads a value from some symbols if it does so
whatever comes after them.
-/

abbrev Reader (σ α : Type) := StateT (List σ) Option α

namespace Reader

variable {σ α β : Type}

/-- The reader takes exactly the symbols `bs`, and they are the value `a`. -/
def Reads (r : Reader σ α) (bs : List σ) (a : α) : Prop :=
  ∀ rest, r.run (bs ++ rest) = some (a, rest)

lemma reads_pure (a : α) : Reads (pure a : Reader σ α) [] a := fun _ => rfl

lemma Reads.bind {r : Reader σ α} {f : α → Reader σ β} {bs cs : List σ} {a : α} {b : β}
    (h : Reads r bs a) (h' : Reads (f a) cs b) : Reads (r >>= f) (bs ++ cs) b := by
  intro rest
  rw [StateT.run_bind, List.append_assoc, h]
  exact h' rest

lemma Reads.map {r : Reader σ α} {f : α → β} {bs : List σ} {a : α} (h : Reads r bs a) :
    Reads (f <$> r) bs (f a) := by
  intro rest
  rw [StateT.run_map, h]
  rfl

/-- All of the input is read. -/
lemma Reads.run {r : Reader σ α} {bs : List σ} {a : α} (h : Reads r bs a) :
    r.run bs = some (a, []) := by
  simpa using h []

/-- What is read of a symbol and the ones after it. -/
lemma Reads.cons {r : Reader σ α} {f : α → Reader σ β} {b : σ} {cs : List σ} {a : α} {c : β}
    (h : Reads r [b] a) (h' : Reads (f a) cs c) : Reads (r >>= f) (b :: cs) c := h.bind h'

/-- The next symbol. -/
def next : Reader σ σ
  | [] => none
  | b :: bs => some (b, bs)

lemma reads_next (b : σ) : Reads next [b] b := fun _ => rfl

/-- A number of values, one after the other. -/
def times (r : Reader σ α) : ℕ → Reader σ (List α)
  | 0 => pure []
  | n + 1 => do
    let a ← r
    let as ← times r n
    pure (a :: as)

lemma Reads.times {r : Reader σ α} {enc : α → List σ} {as : List α}
    (h : ∀ a ∈ as, Reads r (enc a) a) : Reads (times r as.length) (as.flatMap enc) as := by
  induction as with
  | nil => exact reads_pure []
  | cons a as ih =>
    have rest := ih fun b hb => h b (List.mem_cons_of_mem _ hb)
    have both : Reads (Reader.times r as.length >>= fun as => pure (a :: as))
        (as.flatMap enc ++ []) (a :: as) := rest.bind (reads_pure _)
    rw [List.append_nil] at both
    exact (h a (List.mem_cons_self ..)).bind both

/-- Symbols are read as they are. -/
lemma reads_symbols (bs : List σ) : Reads (times next bs.length) bs bs := by
  have h : Reads (Reader.times next bs.length) (bs.flatMap fun b => [b]) bs :=
    .times fun b _ => reads_next b
  rwa [List.flatMap_singleton'] at h

/-- The number of marks before the first symbol that is none, which is read too. -/
def unary [DecidableEq σ] (mark : σ) : List σ → Option (ℕ × List σ)
  | [] => none
  | b :: bs =>
    if b = mark then (unary mark bs).map fun (n, rest) => (n + 1, rest) else some (0, bs)

lemma reads_unary [DecidableEq σ] {mark stop : σ} (h : stop ≠ mark) (n : ℕ) :
    Reads (unary mark : Reader σ ℕ) (List.replicate n mark ++ [stop]) n := by
  intro rest
  induction n with
  | zero => simp [StateT.run, unary, h]
  | succ n ih =>
    have ih' : unary mark (List.replicate n mark ++ [stop] ++ rest) = some (n, rest) := ih
    simp only [StateT.run, List.replicate_succ, List.cons_append, unary, if_true, ih',
      Option.map_some]

end Reader
