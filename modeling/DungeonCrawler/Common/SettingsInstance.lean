import DungeonCrawler.Common.SettingsPrecedence

/-!
The settings of a process, over all calls that initialize them.

The first call that can read its file loads the settings. A call whose file does not parse ends
in an exception and leaves nothing behind, and later calls are ignored.
-/

namespace DungeonCrawler

open Runs

/-- What is found under a path. -/
inductive ConfigFile
  /-- The path is empty, or no file is there. -/
  | absent
  | unparsable
  | parsed (jv : Json)

namespace Settings

/-- What a process keeps: the instance with its flag `loaded_`, and the variables beside it. -/
structure Process where
  instance_ : Option (Settings × Bool)
  initialized_ : Bool
  s_loadDone : Bool
  s_envCache : EnvCache

/-- A call of `initialize`, with the file and the environment that it finds, and the orders in
which it visits the two tables. -/
structure Call where
  file : ConfigFile
  env : Environment
  handlerOrder : IterOrder Text
  dynamicOrder : IterOrder Text

/-- The dynamic setting of a key. -/
def get (s : Settings) (key default_value : Text) : Text :=
  (s.dynamic_.lookup key).getD default_value

variable (cast : LexicalCast)

/-- The file is read; `none` is the exception. -/
def readFile (s : Settings) : ConfigFile → Option Settings
  | .absent => some s
  | .unparsable => none
  | .parsed jv => some (flattenAndStore cast { s with dynamic_ := ∅ } [] jv)

/-- The pass over the environment. -/
def overrideAll (c : Call) (s : Settings) (cache : EnvCache) : Settings × EnvCache :=
  let allKeys := c.handlerOrder.list (kHandlers.map Prod.fst).toFinset ++
    c.dynamicOrder.list s.dynamic_.keys
  allKeys.foldl (overrideFromEnv cast c.env) (s, cache)

namespace Process

def fresh : Process := ⟨none, false, false, ∅⟩

/-- Loading into an instance; `none` is the exception. -/
def load (p : Process) (this : Settings × Bool) (c : Call) :
    Option ((Settings × Bool) × Process) :=
  if p.s_loadDone then some (this, p)
  else (readFile cast this.1 c.file).map fun s =>
    let (s, cache) := overrideAll cast c s p.s_envCache
    ((s, true), { p with s_loadDone := true, s_envCache := cache })

/-- Whether the call returned, and the process after it. -/
def initializeFrom (p : Process) (c : Call) : Bool × Process :=
  if p.initialized_ then (true, p)
  else
    let this : Settings × Bool := (start, false)
    match p.load cast this c with
    | none => (false, { p with instance_ := some this })
    | some (this, p) => (true, { p with instance_ := some this, initialized_ := true })

/-- The instance, where asking for it throws nothing. -/
def mutableInstance (p : Process) : Option Settings :=
  if !p.initialized_ then none else p.instance_.map Prod.fst

def isInitialized (p : Process) : Bool := p.initialized_ && p.instance_.any Prod.snd

end Process

/-- What a call loads in a fresh process, if it can read its file. -/
def loaded (c : Call) : Option Settings :=
  (readFile cast start c.file).map fun s => (overrideAll cast c s ∅).1

/-- A missing file counts as a document without members. -/
def Call.Reads (c : Call) (doc : Document) : Prop :=
  c.file = .absent ∧ doc.members = [] ∨ c.file = .parsed (.object doc.members)

/-- The settings are what the first call that could read its file has loaded. -/
structure LoadedOnce (calls : List Call) (p : Process) : Prop where
  first : p.mutableInstance = calls.findSome? (loaded cast)
  isInitialized : p.isInitialized = p.mutableInstance.isSome
  throws : ∀ c, (p.initializeFrom cast c).1 = false ↔
    p.mutableInstance = none ∧ c.file = .unparsable
  configured : ∀ us c vs doc, calls = us ++ c :: vs → (∀ c' ∈ us, c'.file = .unparsable) →
    c.Reads doc → ∃ s, p.mutableInstance = some s ∧
      Configured cast (fun key => c.env.getenv (envKey key)) doc s ∧
      ∀ key default_value, kHandlers.lookup key = none → s.get key default_value =
        ((doc.texts key).getLast?.map fun text =>
          (c.env.getenv (envKey key)).getD text).getD default_value

/-- Nothing was loaded, nor any variable read, or else the instance is loaded. -/
inductive Process.Stands (p : Process) : Prop
  | fresh (hi : p.initialized_ = false) (hdone : p.s_loadDone = false)
    (hcache : p.s_envCache = ∅)
  | loaded (s : Settings) (hi : p.initialized_ = true) (hs : p.instance_ = some (s, true))

variable {cast} {p : Process} {c : Call} {calls : List Call}

lemma loaded_eq_none : loaded cast c = none ↔ c.file = .unparsable := by
  rw [loaded, Option.map_eq_none_iff]
  cases c.file <;> simp [readFile]

lemma loaded_of_reads {doc : Document} (h : c.Reads doc) :
    loaded cast c = some (Settings.load cast c.env c.handlerOrder c.dynamicOrder doc) := by
  rcases h with ⟨hfile, hdoc⟩ | hfile
  · rw [loaded, hfile, Settings.load, hdoc]
    rfl
  · rw [loaded, hfile]
    rfl

namespace Process

lemma mutableInstance_fresh (h : p.initialized_ = false) : p.mutableInstance = none := by
  simp [mutableInstance, h]

lemma mutableInstance_loaded {s : Settings} (hi : p.initialized_ = true)
    (hs : p.instance_ = some (s, true)) : p.mutableInstance = some s := by
  simp [mutableInstance, hi, hs]

/-- What a call does in a process that has not loaded. -/
lemma initializeFrom_fresh (hi : p.initialized_ = false) (hdone : p.s_loadDone = false)
    (hcache : p.s_envCache = ∅) (c : Call) :
    (p.initializeFrom cast c).1 = (Settings.loaded cast c).isSome ∧
      (p.initializeFrom cast c).2.mutableInstance = Settings.loaded cast c ∧
      (p.initializeFrom cast c).2.Stands := by
  have hload : p.load cast (start, false) c = (readFile cast start c.file).map fun s =>
      (((overrideAll cast c s ∅).1, true),
        { p with s_loadDone := true, s_envCache := (overrideAll cast c s ∅).2 }) := by
    rw [load, if_neg (by simp [hdone]), hcache]
  rw [initializeFrom, if_neg (by simp [hi]), Settings.loaded]
  simp only [hload]
  cases hread : readFile cast start c.file with
  | none => exact ⟨rfl, mutableInstance_fresh hi, .fresh hi hdone hcache⟩
  | some s => exact ⟨rfl, mutableInstance_loaded rfl rfl, .loaded _ rfl rfl⟩

lemma initializeFrom_loaded (hi : p.initialized_ = true) (c : Call) :
    p.initializeFrom cast c = (true, p) := if_pos hi

lemma Stands.initializeFrom (h : p.Stands) (c : Call) : (p.initializeFrom cast c).2.Stands := by
  cases h with
  | fresh hi hdone hcache => exact (initializeFrom_fresh hi hdone hcache c).2.2
  | loaded s hi hs =>
    rw [initializeFrom_loaded hi]
    exact .loaded s hi hs

/-- Only a process that has not loaded takes what a call loads. -/
lemma Stands.mutableInstance_initializeFrom (h : p.Stands) (c : Call) :
    (p.initializeFrom cast c).2.mutableInstance =
      p.mutableInstance.or (Settings.loaded cast c) := by
  cases h with
  | fresh hi hdone hcache =>
    rw [(initializeFrom_fresh hi hdone hcache c).2.1, mutableInstance_fresh hi, Option.none_or]
  | loaded s hi hs =>
    rw [initializeFrom_loaded hi, mutableInstance_loaded hi hs, Option.some_or]

lemma Stands.isInitialized (h : p.Stands) : p.isInitialized = p.mutableInstance.isSome := by
  cases h with
  | fresh hi hdone hcache =>
    rw [Process.isInitialized, mutableInstance_fresh hi, hi]
    rfl
  | loaded s hi hs =>
    rw [Process.isInitialized, mutableInstance_loaded hi hs, hi, hs]
    rfl

lemma Stands.throws (h : p.Stands) (c : Call) : (p.initializeFrom cast c).1 = false ↔
    p.mutableInstance = none ∧ c.file = .unparsable := by
  cases h with
  | fresh hi hdone hcache =>
    rw [(initializeFrom_fresh hi hdone hcache c).1, Option.isSome_eq_false_iff,
      Option.isNone_iff_eq_none, loaded_eq_none]
    exact (and_iff_right (mutableInstance_fresh hi)).symm
  | loaded s hi hs =>
    rw [initializeFrom_loaded hi, mutableInstance_loaded hi hs]
    simp

end Process

/-- **The settings are loaded once.** Whatever calls initialize the settings of a process, with
whatever files and environments: the first one that can read its file loads them, for good. -/
theorem loadedOnce_run (cast : LexicalCast) (calls : List Call) :
    LoadedOnce cast calls (run (fun p c => (Process.initializeFrom cast p c).2) .fresh calls) := by
  have stands : Process.fresh.Stands := .fresh rfl rfl rfl
  have hrun : (run (fun p c => (Process.initializeFrom cast p c).2) .fresh calls).Stands :=
    run_inv (fun _ c h => h.initializeFrom c) stands calls
  have hfirst := view_run_first (I := Process.Stands) Process.mutableInstance (loaded cast)
    (fun _ c h => h.initializeFrom c) (fun _ c h => h.mutableInstance_initializeFrom c) stands calls
  refine ⟨hfirst, hrun.isInitialized, hrun.throws, fun us c vs doc hcalls hus hreads => ?_⟩
  have hnone : us.findSome? (loaded cast) = none :=
    List.findSome?_eq_none_iff.mpr fun c' hc' => loaded_eq_none.mpr (hus c' hc')
  have hconf := load_configured cast c.env c.handlerOrder c.dynamicOrder doc
  refine ⟨_, ?_, hconf, fun key default_value hk => ?_⟩
  · rw [hfirst, hcalls, List.findSome?_append, hnone, List.findSome?_cons, loaded_of_reads hreads]
    rfl
  · rw [get, hconf.dynamic key hk]

end Settings

end DungeonCrawler
