import DungeonCrawler.Common.Settings

/-!
Where the settings come from: the environment before the document before the defaults.

Flattening a document is a run over its leaves, and the pass over the environment goes on with
it. So what a field or an entry holds at the end is what was last written to it.
-/

namespace DungeonCrawler

open Runs Environment

/-! ### Keys of leaves -/

lemma dotted_append_cons (a b : Text) (path : List Text) :
    dotted ((a ++ b) :: path) = a ++ dotted (b :: path) := by
  cases path <;> simp [dotted, List.intercalate]

lemma dotted_cons_cons (p key : Text) (path : List Text) :
    dotted (p :: key :: path) = p ++ '.' :: dotted (key :: path) := by
  simp [dotted, List.intercalate]

namespace Settings

/-- The key that a leaf has below a key. -/
def keyed (prefix_ : Text) (l : List Text × Text) : Text × Text :=
  (l.1.foldl memberKey prefix_, l.2)

lemma memberKey_of_ne_nil {p : Text} (hp : p ≠ []) (key : Text) :
    memberKey p key = p ++ '.' :: key := if_neg (by simpa using hp)

lemma memberKey_ne_nil {p key : Text} (hk : key ≠ []) : memberKey p key ≠ [] := by
  unfold memberKey
  split_ifs
  · exact hk
  · simp

lemma elementKey_eq {p : Text} (hp : p ≠ []) (i : ℕ) : elementKey p i = memberKey p (decimal i) :=
  (memberKey_of_ne_nil hp _).symm

/-- Below a key that is not empty the dots come out right. -/
lemma foldl_memberKey {p : Text} (hp : p ≠ []) (path : List Text) :
    path.foldl memberKey p = dotted (p :: path) := by
  induction path generalizing p with
  | nil => simp [dotted, List.intercalate]
  | cons key path ih =>
    have hdot : dotted (('.' :: key) :: path) = '.' :: dotted (key :: path) :=
      dotted_append_cons ['.'] key path
    rw [List.foldl_cons, memberKey_of_ne_nil hp, ih (by simp), dotted_append_cons, hdot,
      dotted_cons_cons]

variable (cast : LexicalCast)

/-- One leaf or one variable at a time. -/
def step (s : Settings) (p : Text × Text) : Settings := overrideSetting cast s p.1 p.2

mutual

/-- **Flattening** is a run over the leaves. -/
lemma flattenAndStore_eq {p : Text} (hp : p ≠ []) (s : Settings) :
    (j : Json) → j.Named →
      flattenAndStore cast s p j = run (step cast) s (j.leaves.map (keyed p))
  | .object members, h => by
    rw [flattenAndStore, Json.leaves]
    exact storeMembers_eq p s members h
  | .array elements, h => by
    rw [flattenAndStore, Json.leaves]
    exact storeElements_eq hp s 0 elements h
  | .string _, _ => rfl
  | .bool _, _ => rfl
  | .other _, _ => rfl

lemma storeMembers_eq (p : Text) (s : Settings) :
    (members : List (Text × Json)) → Json.MembersNamed members →
      storeMembers cast s p members =
        run (step cast) s ((Json.membersLeaves members).map (keyed p))
  | [], _ => rfl
  | (key, value) :: members, h => by
    obtain ⟨hkey, hvalue, hmembers⟩ := h
    rw [storeMembers, Json.membersLeaves, List.map_append, run_append, List.map_map,
      flattenAndStore_eq (memberKey_ne_nil hkey) s value hvalue,
      storeMembers_eq p _ members hmembers]
    rfl

lemma storeElements_eq {p : Text} (hp : p ≠ []) (s : Settings) (i : ℕ) :
    (elements : List Json) → Json.ElementsNamed elements →
      storeElements cast s p i elements =
        run (step cast) s ((Json.elementsLeaves i elements).map (keyed p))
  | [], _ => rfl
  | value :: elements, h => by
    obtain ⟨hvalue, helements⟩ := h
    have hne : elementKey p i ≠ [] := by simp [elementKey]
    rw [storeElements, Json.elementsLeaves, List.map_append, run_append, List.map_map,
      flattenAndStore_eq hne s value hvalue, storeElements_eq hp _ (i + 1) elements helements,
      elementKey_eq hp]
    rfl

end

lemma path_of_mem {members : List (Text × Json)} (h : Json.MembersNamed members)
    {l : List Text × Text} (hl : l ∈ Json.membersLeaves members) :
    ∃ key path, key ≠ [] ∧ l.1 = key :: path := by
  induction members with
  | nil => simp [Json.membersLeaves] at hl
  | cons m members ih =>
    obtain ⟨key, value⟩ := m
    obtain ⟨hkey, -, hmembers⟩ := h
    rw [Json.membersLeaves, List.mem_append] at hl
    rcases hl with hl | hl
    · obtain ⟨l', -, rfl⟩ := List.mem_map.mp hl
      exact ⟨key, l'.1, hkey, rfl⟩
    · exact ih hmembers hl

/-- The leaves of a document under their keys. -/
def docLeaves (doc : Document) : List (Text × Text) :=
  (Json.membersLeaves doc.members).map fun l => (dotted l.1, l.2)

/-- The document is stored leaf by leaf, each under its dotted path. -/
lemma storeMembers_doc (doc : Document) (s : Settings) :
    storeMembers cast s [] doc.members = run (step cast) s (docLeaves doc) := by
  rw [storeMembers_eq cast [] s doc.members doc.named, docLeaves]
  congr 1
  refine List.map_congr_left fun l hl => ?_
  obtain ⟨key, path, hkey, hp⟩ := path_of_mem doc.named hl
  rw [keyed, hp, List.foldl_cons, ← foldl_memberKey hkey]
  rfl

/-! ### What one text does -/

/-- The key that is bound to a field. -/
def Field.key (f : Field) : Text :=
  ((kHandlers.find? fun p => p.2 = f).map Prod.fst).getD []

/-- The table, evaluated once: a key finds its field, a field has no other key, and a variable
may have its name. -/
lemma handlers_spec : ∀ p ∈ kHandlers,
    kHandlers.lookup p.1 = some p.2 ∧ p.1 = p.2.key ∧ '\x00' ∉ p.1 ∧ '=' ∉ p.1 := by
  decide +kernel

lemma exists_handler (f : Field) : ∃ p ∈ kHandlers, p.2 = f := by
  cases f <;> decide

lemma lookup_key (f : Field) : kHandlers.lookup f.key = some f := by
  obtain ⟨p, hp, rfl⟩ := exists_handler f
  obtain ⟨hlookup, hkey, -⟩ := handlers_spec p hp
  rw [← hkey, hlookup]

lemma not_unnamable_key (f : Field) : ¬ Unnamable f.key := by
  obtain ⟨p, hp, rfl⟩ := exists_handler f
  obtain ⟨-, hkey, hnul, heq⟩ := handlers_spec p hp
  rw [← hkey]
  exact not_or.mpr ⟨hnul, heq⟩

lemma mem_of_lookup {key : Text} {f : Field} (h : kHandlers.lookup key = some f) :
    (key, f) ∈ kHandlers := by
  obtain ⟨l₁, l₂, heq, -⟩ := List.lookup_eq_some_iff.mp h
  rw [heq]
  exact List.mem_append_right _ (List.mem_cons_self ..)

lemma eq_key_of_lookup {key : Text} {f : Field} (h : kHandlers.lookup key = some f) :
    key = f.key :=
  (handlers_spec (key, f) (mem_of_lookup h)).2.1

/-- A key with a NUL or an `=` is not bound. -/
lemma lookup_of_unnamable {key : Text} (h : Unnamable key) : kHandlers.lookup key = none := by
  by_contra hk
  obtain ⟨f, hf⟩ := Option.ne_none_iff_exists'.mp hk
  rw [eq_key_of_lookup hf] at h
  exact not_unnamable_key f h

lemma mem_handlers_iff {key : Text} :
    key ∈ (kHandlers.map Prod.fst).toFinset ↔ kHandlers.lookup key ≠ none := by
  rw [List.mem_toFinset, List.mem_map]
  constructor
  · rintro ⟨p, hp, rfl⟩ hnone
    exact absurd (List.lookup_eq_none_iff.mp hnone p hp) (by rw [bne_self_eq_false]; decide)
  · intro h
    obtain ⟨f, hf⟩ := Option.ne_none_iff_exists'.mp h
    exact ⟨_, mem_of_lookup hf, rfl⟩

/-- A field is written by texts under its key that convert. -/
lemma known_step (f : Field) (s : Settings) (p : Text × Text) :
    (step cast s p).known f =
      (if p.1 = f.key then assign_field cast f.type p.2 else none).getD (s.known f) := by
  unfold step overrideSetting
  rcases hl : kHandlers.lookup p.1 with _ | g
  · have hne : p.1 ≠ f.key := fun h => by
      rw [h, lookup_key] at hl
      cases hl
    rw [if_neg hne]
    rfl
  · have hg := eq_key_of_lookup hl
    by_cases hgf : g = f
    · subst hgf
      rw [if_pos hg]
      cases hv : assign_field cast g.type p.2 with
      | none => simp [bind_field, hv]
      | some v => simp [bind_field, hv]
    · have hne : p.1 ≠ f.key := fun h => by
        rw [h, lookup_key] at hl
        exact hgf (Option.some.inj hl).symm
      rw [if_neg hne]
      cases hv : assign_field cast g.type p.2 with
      | none => simp [bind_field, hv]
      | some v => simp [bind_field, hv, Function.update_of_ne (Ne.symm hgf)]

/-- The entry of a key that is not known is written by every text under it. -/
lemma dynamic_step {key : Text} (hk : kHandlers.lookup key = none) (s : Settings)
    (p : Text × Text) :
    (step cast s p).dynamic_.lookup key =
      (if p.1 = key then some (some p.2) else none).getD (s.dynamic_.lookup key) := by
  unfold step overrideSetting
  rcases hl : kHandlers.lookup p.1 with _ | g
  · rw [Finmap.lookup_insert_ite]
    by_cases h : p.1 = key
    · rw [if_pos h.symm, if_pos h]
      rfl
    · rw [if_neg (Ne.symm h), if_neg h]
      rfl
  · have hne : p.1 ≠ key := fun h => by
      rw [h, hk] at hl
      cases hl
    rw [if_neg hne]
    cases hv : assign_field cast g.type p.2 with
    | none => simp [bind_field, hv]
    | some v => simp [bind_field, hv]

/-! ### The pass over the environment -/

variable (env : Environment)

/-- What the cache holds is what the environment holds. -/
def Cached (cache : EnvCache) : Prop :=
  ∀ key value, cache.lookup key = some value → env.getenv (envKey key) = some value

variable {env} in
lemma getEnv_eq {cache : EnvCache} (h : Cached env cache) (key : Text) :
    (getEnv env cache key).1 = env.getenv (envKey key) ∧ Cached env (getEnv env cache key).2 := by
  unfold getEnv
  rcases hc : cache.lookup key with _ | value
  · rcases hv : env.getenv (envKey key) with _ | value
    · exact ⟨rfl, h⟩
    · refine ⟨rfl, fun key' value' hl => ?_⟩
      rw [Finmap.lookup_insert_ite] at hl
      split_ifs at hl with hk
      · rw [hk, hv, hl]
      · exact h key' value' hl
  · exact ⟨(h key value hc).symm, h⟩

/-- The variables of the keys that are set. -/
def envWrites (keys : List Text) : List (Text × Text) :=
  keys.filterMap fun key => (env.getenv (envKey key)).map fun value => (key, value)

/-- **The environment** goes on with the run of the leaves. -/
lemma foldl_overrideFromEnv (keys : List Text) {s : Settings × EnvCache} (h : Cached env s.2) :
    (keys.foldl (overrideFromEnv cast env) s).1 = run (step cast) s.1 (envWrites env keys) := by
  induction keys generalizing s with
  | nil => rfl
  | cons key keys ih =>
    obtain ⟨hval, hcache⟩ := getEnv_eq h key
    rcases hg : getEnv env s.2 key with ⟨_ | value, cache⟩
    · rw [hg] at hval hcache
      have hnone : env.getenv (envKey key) = none := hval.symm
      have hturn : overrideFromEnv cast env s key = (s.1, cache) := by rw [overrideFromEnv, hg]
      rw [List.foldl_cons, hturn, ih hcache]
      simp [envWrites, hnone]
    · rw [hg] at hval hcache
      have hsome : env.getenv (envKey key) = some value := hval.symm
      have hturn : overrideFromEnv cast env s key = (step cast s.1 (key, value), cache) := by
        rw [overrideFromEnv, hg]
        rfl
      rw [List.foldl_cons, hturn, ih hcache]
      simp [envWrites, hsome]

/-! ### Precedence -/

/-- All keys that the pass over the environment visits. -/
def allKeys (handlerOrder dynamicOrder : IterOrder Text) (s : Settings) : List Text :=
  handlerOrder.list (kHandlers.map Prod.fst).toFinset ++ dynamicOrder.list s.dynamic_.keys

lemma load_eq (handlerOrder dynamicOrder : IterOrder Text) (doc : Document) :
    load cast env handlerOrder dynamicOrder doc =
      run (step cast) start (docLeaves doc ++ envWrites env
        (allKeys handlerOrder dynamicOrder (run (step cast) start (docLeaves doc)))) := by
  have hcache : Cached env ∅ := fun key value h => by simp at h
  unfold load
  dsimp only
  rw [storeMembers_doc, run_append]
  exact foldl_overrideFromEnv cast env _ hcache

lemma texts_docLeaves (doc : Document) (key : Text) :
    ((docLeaves doc).filter fun p => p.1 = key).map Prod.snd = doc.texts key := by
  rw [docLeaves, List.filter_map, List.map_map]
  rfl

lemma filterMap_under {β : Type} (g : Text → Option β) (key : Text) (l : List (Text × Text)) :
    l.filterMap (fun p => if p.1 = key then g p.2 else none) =
      ((l.filter fun p => p.1 = key).map Prod.snd).filterMap g := by
  induction l with
  | nil => rfl
  | cons p l ih =>
    by_cases h : p.1 = key
    · simp [List.filterMap_cons, h, ih]
    · simp [h, ih]

/-- What is written last under a key: by its variable, if the pass visits the key, or else by a
leaf of the document. -/
lemma getLast?_writes {β : Type} (g : Text → Option β) (key : Text) (doc : Document)
    (keys : List Text) :
    ((docLeaves doc ++ envWrites env keys).filterMap
        fun p => if p.1 = key then g p.2 else none).getLast? =
      (if key ∈ keys then (env.getenv (envKey key)).bind g else none).or
        ((doc.texts key).filterMap g).getLast? := by
  have henv : ((envWrites env keys).filterMap
      fun p => if p.1 = key then g p.2 else none).getLast? =
        if key ∈ keys then (env.getenv (envKey key)).bind g else none := by
    rw [envWrites, List.filterMap_filterMap]
    rw [getLast?_filterMap_of_one (k := key)]
    · simp [Option.bind_map]
    · intro key' hne
      simp [Option.bind_map, hne]
  rw [List.filterMap_append, List.getLast?_append, henv, filterMap_under, texts_docLeaves]

/-- The settings that a document and an environment ask for, where `var` is the variable of a
key. A field has the value of its variable, if that is set and converts, or else of the last
leaf under its key that converts, or else its default; another key has an entry if there is a
leaf under it, with the text of its variable, if that is set, or else of the last leaf. -/
structure Configured (var : Text → Option Text) (doc : Document) (s : Settings) : Prop where
  known : ∀ f : Field, s.known f =
    ((var f.key).bind (assign_field cast f.type)).getD
      (((doc.texts f.key).filterMap (assign_field cast f.type)).getLast?.getD f.default)
  dynamic : ∀ key, kHandlers.lookup key = none →
    s.dynamic_.lookup key = (doc.texts key).getLast?.map fun text => (var key).getD text

/-- The entries after the document alone. -/
lemma dynamic_docLeaves {key : Text} (hk : kHandlers.lookup key = none) (doc : Document) :
    (run (step cast) start (docLeaves doc)).dynamic_.lookup key = (doc.texts key).getLast? := by
  have hview := view_run (fun s : Settings => s.dynamic_.lookup key)
    (fun p : Text × Text => if p.1 = key then some (some p.2) else none)
    (dynamic_step cast hk) start (docLeaves doc)
  rw [filterMap_under fun text => some (some text), texts_docLeaves, List.filterMap_eq_map',
    List.getLast?_map] at hview
  rw [hview]
  cases (doc.texts key).getLast? <;> rfl

/-- The pass visits every known key. -/
lemma key_mem_allKeys (f : Field) (handlerOrder dynamicOrder : IterOrder Text) (s : Settings) :
    f.key ∈ allKeys handlerOrder dynamicOrder s := by
  refine List.mem_append_left _ ((handlerOrder.mem_list _ _).mpr (mem_handlers_iff.mpr ?_))
  rw [lookup_key]
  exact Option.some_ne_none f

/-- Of the other keys it visits those with an entry. -/
lemma mem_allKeys_iff {key : Text} (hk : kHandlers.lookup key = none)
    (handlerOrder dynamicOrder : IterOrder Text) (s : Settings) :
    key ∈ allKeys handlerOrder dynamicOrder s ↔ s.dynamic_.lookup key ≠ none := by
  rw [allKeys, List.mem_append, handlerOrder.mem_list, mem_handlers_iff, dynamicOrder.mem_list,
    Finmap.mem_keys, Ne, Ne, Finmap.lookup_eq_none, not_not]
  exact or_iff_right fun h => h hk

/-- **Precedence.** Loading gives the settings asked for, with the variables as the C library
finds them. -/
theorem load_configured (handlerOrder dynamicOrder : IterOrder Text) (doc : Document) :
    Configured cast (fun key => env.getenv (envKey key)) doc
      (load cast env handlerOrder dynamicOrder doc) := by
  rw [load_eq]
  set keys := allKeys handlerOrder dynamicOrder (run (step cast) start (docLeaves doc)) with hkeys
  refine ⟨fun f => ?_, fun key hk => ?_⟩
  · have hview := view_run (fun s : Settings => s.known f)
      (fun p : Text × Text => if p.1 = f.key then assign_field cast f.type p.2 else none)
      (known_step cast f) start (docLeaves doc ++ envWrites env keys)
    rw [getLast?_writes, if_pos (key_mem_allKeys f _ _ _)] at hview
    rw [hview]
    cases (env.getenv (envKey f.key)).bind (assign_field cast f.type) <;> rfl
  · have hview := view_run (fun s : Settings => s.dynamic_.lookup key)
      (fun p : Text × Text => if p.1 = key then some (some p.2) else none)
      (dynamic_step cast hk) start (docLeaves doc ++ envWrites env keys)
    rw [getLast?_writes env fun text => some (some text), List.filterMap_eq_map',
      List.getLast?_map] at hview
    have hmem : key ∈ keys ↔ (doc.texts key).getLast? ≠ none := by
      rw [hkeys, mem_allKeys_iff hk, dynamic_docLeaves cast hk]
    rw [hview]
    rcases ht : (doc.texts key).getLast? with _ | text
    · rw [if_neg (fun h => hmem.mp h ht)]
      rfl
    · rw [if_pos (hmem.mpr (by rw [ht]; simp))]
      cases env.getenv (envKey key) <;> rfl

/-! ### Names that no variable has -/

/-- Letters that become upper case are not below `A`, nor is what they become. -/
lemma toUpper_eq_iff {c d : Char} (hd : d.val.toNat < 65) : c.toUpper = d ↔ c = d := by
  unfold Char.toUpper
  split
  · rename_i h
    obtain ⟨hlo, hhi⟩ := h
    rw [UInt32.le_iff_toNat_le] at hlo hhi
    change 97 ≤ c.val.toNat at hlo
    change c.val.toNat ≤ 122 at hhi
    have hsub : ('A'.val - 'a'.val).toNat = 4294967264 := by decide
    have hup : (c.val + ('A'.val - 'a'.val)).toNat = c.val.toNat - 32 := by
      rw [UInt32.toNat_add, hsub]
      omega
    constructor
    · rintro rfl
      dsimp only at hd
      omega
    · rintro rfl
      omega
  · rfl

/-- A character below the letters is in the name of a variable where it is in the key, unless it
is a dot. -/
lemma envChar_eq_iff {c d : Char} (hd : d.val.toNat < 65) (hdot : d ≠ '.') :
    (if c = '.' then '_' else c).toUpper = d ↔ c = d := by
  rw [toUpper_eq_iff hd]
  split_ifs with hc
  · constructor
    · rintro rfl
      exact absurd hd (by decide)
    · rintro rfl
      exact absurd hc hdot
  · rfl

lemma mem_envKey {d : Char} (hd : d.val.toNat < 65) (hdot : d ≠ '.') {key : Text} :
    d ∈ envKey key ↔ d ∈ key := by
  rw [envKey, List.map_map, List.mem_map]
  constructor
  · rintro ⟨c, hc, h⟩
    rwa [← (envChar_eq_iff hd hdot).mp h]
  · exact fun h => ⟨d, h, (envChar_eq_iff hd hdot).mpr rfl⟩

lemma unnamable_envKey {key : Text} : Unnamable (envKey key) ↔ Unnamable key :=
  or_congr (mem_envKey (by decide) (by decide)) (mem_envKey (by decide) (by decide))

lemma cString_envKey (key : Text) : cString (envKey key) = envKey (cString key) := by
  rw [envKey, envKey, List.map_map, List.map_map, cString, cString, List.takeWhile_map]
  congr 2
  funext c
  have hnul : (if c = '.' then '_' else c).toUpper = '\x00' ↔ c = '\x00' :=
    envChar_eq_iff (by decide) (by decide)
  simp only [Function.comp_apply, ne_eq, hnul]

variable {env} in
/-- What the library finds for a key: the first string that starts with the part before a NUL, as
the name of a variable, and `=`. -/
lemma getenv_envKey {key value : Text} : env.getenv (envKey key) = some value ↔
    cString key ≠ [] ∧ env.environ.findSome? (valueAfter (envKey (cString key))) = some value := by
  have hnil : (envKey (cString key)).isEmpty = true ↔ cString key = [] := by simp [envKey]
  unfold Environment.getenv
  dsimp only
  rw [cString_envKey]
  split_ifs with h
  · refine ⟨fun hnone => ?_, fun hsome => absurd (hnil.mp h) hsome.1⟩
    cases hnone
  · exact (and_iff_right (mt hnil.mpr h)).symm

end Settings

open Settings

/-- **The settings asked for.** Loading gives them exactly when no key with a NUL or an `=`, under
which the document has a leaf, is mistaken for a variable: where the part of the key before a
NUL, as the name of a variable, stands before an `=` at the start of a string, the first such
string goes on with the text of the last leaf. -/
theorem configured_iff (cast : LexicalCast) (env : Environment)
    (handlerOrder dynamicOrder : IterOrder Text) (doc : Document) :
    Configured cast (fun key => env.value (envKey key)) doc
        (load cast env handlerOrder dynamicOrder doc) ↔
      ∀ key text, '\x00' ∈ key ∨ '=' ∈ key → (doc.texts key).getLast? = some text →
        cString key ≠ [] → ∀ value,
          env.environ.findSome? (valueAfter (envKey (cString key))) = some value →
            value = text := by
  have hload := load_configured cast env handlerOrder dynamicOrder doc
  constructor
  · intro h key text hkey ht hne value hv
    have hk : kHandlers.lookup key = none := lookup_of_unnamable hkey
    have hget : env.getenv (envKey key) = some value := getenv_envKey.mpr ⟨hne, hv⟩
    have h₁ := h.dynamic key hk
    have h₂ := hload.dynamic key hk
    rw [ht, value_of_unnamable (unnamable_envKey.mpr hkey)] at h₁
    rw [ht, hget, h₁] at h₂
    exact (Option.some.inj h₂).symm
  · intro h
    refine ⟨fun f => ?_, fun key hk => ?_⟩
    · rw [hload.known f, getenv_eq_value (mt unnamable_envKey.mp (not_unnamable_key f))]
    · rw [hload.dynamic key hk]
      by_cases hkey : Unnamable key
      · rcases ht : (doc.texts key).getLast? with _ | text
        · rfl
        · rw [value_of_unnamable (unnamable_envKey.mpr hkey)]
          rcases hv : env.getenv (envKey key) with _ | value
          · rfl
          · obtain ⟨hne, hfind⟩ := getenv_envKey.mp hv
            rw [h key text hkey ht hne value hfind]
            rfl
      · rw [getenv_eq_value (mt unnamable_envKey.mp hkey)]

namespace Settings

/-- A document with a NUL in the name of a member. -/
def nulDocument : Document where
  members := [("mod".toList, .object [(['a', '\x00', 'b'], .string "x".toList)])]
  named := ⟨by decide, ⟨by decide, trivial, trivial⟩, trivial⟩

/-- An environment with one variable. -/
def modEnvironment : Environment where
  environ := ["MOD_A=y".toList]
  no_nul := by simp

/-- No text converts to a number. -/
def noNumbers : LexicalCast :=
  ⟨fun _ => none, fun _ => none, fun _ => none, fun _ => none⟩

/-- There the key `mod.a`, NUL, `b` gets the text of the variable `MOD_A`: these settings are
not the ones asked for. -/
theorem nulDocument_not_configured :
    ¬ Configured noNumbers (fun key => modEnvironment.value (envKey key)) nulDocument
        (load noNumbers modEnvironment default default nulDocument) ∧
      (load noNumbers modEnvironment default default nulDocument).dynamic_.lookup
        "mod.a\x00b".toList = some "y".toList := by
  have hload := load_configured noNumbers modEnvironment default default nulDocument
  have hk : kHandlers.lookup "mod.a\x00b".toList = none := lookup_of_unnamable (.inl (by decide))
  have hentry := hload.dynamic _ hk
  refine ⟨fun h => ?_, hentry.trans (by decide)⟩
  have h₁ := h.dynamic _ hk
  rw [hentry] at h₁
  revert h₁
  decide

end Settings

end DungeonCrawler
