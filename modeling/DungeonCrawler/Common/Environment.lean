import DungeonCrawler.Common.Strings

/-!
The environment of a process: strings, and what the C library finds in them.

A string sets the variable whose name stands before its first `=`. The library compares the name
it is asked for with the start of every string. So it finds the variables by their names, but a
name with an `=` in it, which no variable has, may match the start of a variable's value too.
-/

namespace DungeonCrawler

/-- What C takes a string for: it ends at the first NUL. -/
def cString (s : Text) : Text := s.takeWhile fun c => c ≠ '\x00'

/-- The strings of the environment in their order. As C strings they have no NUL in them. -/
structure Environment where
  environ : List Text
  no_nul : ∀ ep ∈ environ, '\x00' ∉ ep

namespace Environment

/-- What follows in a string that starts with a name and `=`. -/
def valueAfter (name ep : Text) : Option Text :=
  if (name ++ ['=']).isPrefixOf ep then some (ep.drop (name.length + 1)) else none

/-- The first match in the order of the strings. -/
def getenv (env : Environment) (s : Text) : Option Text :=
  let name := cString s
  if name.isEmpty then none else env.environ.findSome? (valueAfter name)

/-- The variable that a string sets, and its value. -/
def assignment (ep : Text) : Option (Text × Text) :=
  let name := ep.takeWhile fun c => c ≠ '='
  if name.isEmpty then none else (valueAfter name ep).map fun value => (name, value)

/-- The value of the variable of a name. -/
def value (env : Environment) (name : Text) : Option Text :=
  (env.environ.filterMap assignment).lookup name

/-- No variable has such a name. -/
def Unnamable (name : Text) : Prop := '\x00' ∈ name ∨ '=' ∈ name

variable {env : Environment} {name value : Text}

lemma valueAfter_eq_some {ep : Text} :
    valueAfter name ep = some value ↔ ep = name ++ '=' :: value := by
  unfold valueAfter
  split_ifs with h
  · obtain ⟨rest, rfl⟩ := List.isPrefixOf_iff_prefix.mp h
    simp
  · refine ⟨fun hnone => ?_, ?_⟩
    · cases hnone
    · rintro rfl
      exact absurd (List.isPrefixOf_iff_prefix.mpr ⟨value, by simp⟩) h

lemma takeWhile_append_eq (h : '=' ∉ name) (rest : Text) :
    (name ++ '=' :: rest).takeWhile (fun c => c ≠ '=') = name := by
  rw [List.takeWhile_append_of_pos, List.takeWhile_cons_of_neg (by simp), List.append_nil]
  exact fun c hc => decide_eq_true fun heq => h (heq ▸ hc)

lemma assignment_eq_some {ep : Text} :
    assignment ep = some (name, value) ↔ name ≠ [] ∧ '=' ∉ name ∧ ep = name ++ '=' :: value := by
  unfold assignment
  dsimp only
  constructor
  · intro h
    split_ifs at h with hne
    obtain ⟨v, hv, heq⟩ := Option.map_eq_some_iff.mp h
    obtain ⟨rfl, rfl⟩ := Prod.mk.inj heq
    refine ⟨by simpa using hne, fun hmem => ?_, valueAfter_eq_some.mp hv⟩
    simpa using List.mem_takeWhile_imp hmem
  · rintro ⟨hne, heq, rfl⟩
    rw [takeWhile_append_eq heq, if_neg (by simpa using hne), valueAfter_eq_some.mpr rfl,
      Option.map_some]

/-- By the name of a variable the library finds its strings. -/
lemma lookup_assignment (hne : name ≠ []) (heq : '=' ∉ name) (environ : List Text) :
    (environ.filterMap assignment).lookup name = environ.findSome? (valueAfter name) := by
  induction environ with
  | nil => rfl
  | cons ep environ ih =>
    rw [List.findSome?_cons, List.filterMap_cons]
    rcases hv : valueAfter name ep with _ | v
    · rcases ha : assignment ep with _ | ⟨name', v'⟩
      · exact ih
      · have hother : name ≠ name' := by
          rintro rfl
          rw [valueAfter_eq_some.mpr (assignment_eq_some.mp ha).2.2] at hv
          cases hv
        rw [List.lookup_cons, beq_false_of_ne hother]
        exact ih
    · rw [assignment_eq_some.mpr ⟨hne, heq, valueAfter_eq_some.mp hv⟩]
      simp

lemma cString_of_notMem {s : Text} (h : '\x00' ∉ s) : cString s = s :=
  List.takeWhile_eq_self_iff.mpr fun _ hc => decide_eq_true fun heq => h (heq ▸ hc)

lemma exists_assignment (h : env.value name = some value) :
    ∃ ep ∈ env.environ, assignment ep = some (name, value) := by
  obtain ⟨l₁, l₂, heq, -⟩ := List.lookup_eq_some_iff.mp h
  have hmem : (name, value) ∈ env.environ.filterMap assignment := by simp [heq]
  exact List.mem_filterMap.mp hmem

lemma value_of_unnamable (h : Unnamable name) : env.value name = none := by
  by_contra hne
  obtain ⟨v, hv⟩ := Option.ne_none_iff_exists'.mp hne
  obtain ⟨ep, hep, ha⟩ := exists_assignment hv
  obtain ⟨-, heq, rfl⟩ := assignment_eq_some.mp ha
  exact h.elim (fun hnul => env.no_nul _ hep (List.mem_append_left _ hnul)) heq

lemma value_nil : env.value [] = none := by
  by_contra hne
  obtain ⟨v, hv⟩ := Option.ne_none_iff_exists'.mp hne
  obtain ⟨ep, -, ha⟩ := exists_assignment hv
  exact (assignment_eq_some.mp ha).1 rfl

/-- **The library finds the variable** of any name that a variable may have. -/
theorem getenv_eq_value (h : ¬ Unnamable name) : env.getenv name = env.value name := by
  obtain ⟨hnul, heq⟩ := not_or.mp h
  unfold getenv
  dsimp only
  rw [cString_of_notMem hnul]
  by_cases hne : name = []
  · rw [hne, value_nil]
    rfl
  · rw [if_neg (by simpa using hne)]
    exact (lookup_assignment hne heq env.environ).symm

/-- A name with an `=` in it matches the string of another variable. -/
example : getenv ⟨["A=B=C".toList], by simp⟩ "A=B".toList = some "C".toList := by decide

end Environment

end DungeonCrawler
