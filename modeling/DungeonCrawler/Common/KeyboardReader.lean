import DungeonCrawler.Lib.Runs
import DungeonCrawler.Lib.SteadyTimer
import DungeonCrawler.Lib.UnorderedMap

/-!
The keyboard reader: the state of the keys, polled on a timer.

A poll asks the display which keys are down and calls back for the keys it watches, for each
one that is down or, if the reader is edge-triggered, for each one that was not down at the
poll before. The display translates the symbol of a key into a code and reports a bit for every
code; the callback does not stop the reader.
-/

namespace DungeonCrawler

open Runs

/-- The bits that the display reports, one for each code of a key. -/
abbrev Keymap := Vector UInt8 32

/-- What the reader was made to do: it was started, or it polled. -/
inductive Sample
  | started
  | polled (keymap : Keymap)

/-- A reader and what was seen of it: its starts and polls, and the keys the callback was given.
The display, if it could be opened, has a code for the symbol of a key, or none, which is zero. -/
structure KeyboardReader where
  edge_triggered_ : Bool
  display_ : Option (Char → UInt8)
  running_ : Bool
  timer_ : SteadyTimer
  prev_state_ : Finmap fun _ : Char => Bool
  key_code_map_ : Finmap fun _ : Char => UInt8
  x11_keymap_ : Keymap
  samples : List Sample
  called : List Char

namespace KeyboardReader

def kKeys : List Char := ['w', 'a', 's', 'd', 'x', '1', '2', '3', '4', '5', '6', '7']

def init (edge_triggered : Bool) (display : Option (Char → UInt8)) : KeyboardReader :=
  ⟨edge_triggered, display, false, .init, ∅, ∅, .replicate 32 0, [], []⟩

/-- The bit of a code in the bytes of a keymap. -/
def bitOf (keymap : Keymap) (kc : UInt8) : Bool :=
  keymap.get ⟨kc.toNat / 8, by have := kc.toNat_lt; omega⟩ &&& (1 <<< (kc &&& 7)) ≠ 0

def isKeyDown (t : KeyboardReader) (key : Char) : Bool :=
  match t.display_ with
  | none => false
  | some _ =>
    match t.key_code_map_.lookup key.toLower with
    | none => false
    | some kc => bitOf t.x11_keymap_ kc

def fetchKeyState (t : KeyboardReader) (keymap : Keymap) : KeyboardReader :=
  match t.display_ with
  | none => t
  | some _ => { t with x11_keymap_ := keymap }

/-- The body of the loop over the keys. -/
def pollKey (t : KeyboardReader) (key : Char) : KeyboardReader :=
  let now_down := t.isKeyDown key
  if t.edge_triggered_ then
    let prev_down := (t.prev_state_.lookup key).getD false
    let t := if now_down && !prev_down then { t with called := t.called ++ [key] } else t
    { t with prev_state_ := t.prev_state_.insert key now_down }
  else if now_down then { t with called := t.called ++ [key] }
  else t

def poll (t : KeyboardReader) (keymap : Keymap) : KeyboardReader :=
  if !t.running_ then t
  else
    let t := { t.fetchKeyState keymap with samples := t.samples ++ [Sample.polled keymap] }
    let t := kKeys.foldl pollKey t
    if t.running_ then { t with timer_ := t.timer_.rearm } else t

/-- The codes of the keys are translated once. -/
def translate (keycode : Char → UInt8) (codes : Finmap fun _ : Char => UInt8) :
    Finmap fun _ : Char => UInt8 :=
  kKeys.foldl (fun codes key =>
    let lower := key.toLower
    let kc := keycode lower
    if kc ≠ 0 then codes.insert lower kc else codes) codes

def start (t : KeyboardReader) (keymap : Keymap) : KeyboardReader :=
  if t.running_ then t
  else
    let t := { t with running_ := true, samples := t.samples ++ [Sample.started] }
    let t :=
      if t.edge_triggered_ then
        { t with prev_state_ := kKeys.foldl (fun prev key => prev.insert key false) t.prev_state_ }
      else t
    let t :=
      match t.display_ with
      | none => t
      | some keycode => { t with key_code_map_ := translate keycode t.key_code_map_ }
    t.poll keymap

inductive Step
  /-- With the keymap that a poll finds. -/
  | start (keymap : Keymap)
  | stop
  | expire
  /-- The handler of a cancelled wait runs. -/
  | aborted
  /-- The handler of a wait runs, with the keymap that a poll finds. -/
  | woken (keymap : Keymap)

def step (t : KeyboardReader) : Step → KeyboardReader
  | .start keymap => t.start keymap
  | .stop => { t with running_ := false, timer_ := t.timer_.cancel }
  | .expire => { t with timer_ := t.timer_.expire }
  | .aborted => { t with timer_ := t.timer_.runAborted }
  | .woken keymap =>
    if t.timer_.fired = 0 then t
    else
      let t := { t with timer_ := t.timer_.runFired }
      if t.running_ then t.poll keymap else t

/-! ### What should be reported -/

/-- The display has a code for the key, and its bit is set. -/
def down (display : Option (Char → UInt8)) (keymap : Keymap) (key : Char) : Bool :=
  match display with
  | none => false
  | some keycode => keycode key ≠ 0 && bitOf keymap (keycode key)

/-- The key is down at a poll; when the reader is started no key counts as down. -/
def pressedAt (display : Option (Char → UInt8)) (samples : List Sample) (n : ℕ)
    (key : Char) : Bool :=
  match samples[n]? with
  | some (.polled keymap) => down display keymap key
  | _ => false

/-- The keys to be reported at a poll: those that are down and, for an edge-triggered reader,
were not down at the poll before. -/
def reportedAt (edge_triggered : Bool) (display : Option (Char → UInt8))
    (samples : List Sample) (n : ℕ) : List Char :=
  kKeys.filter fun key => pressedAt display samples n key &&
    !(edge_triggered && decide (0 < n) && pressedAt display samples (n - 1) key)

/-- Poll by poll, in the order in which the keys are watched. -/
def reported (edge_triggered : Bool) (display : Option (Char → UInt8))
    (samples : List Sample) : List Char :=
  (List.range samples.length).flatMap (reportedAt edge_triggered display samples)

variable {edge_triggered : Bool} {display : Option (Char → UInt8)} {samples : List Sample}
variable {t : KeyboardReader} {key : Char} {keymap : Keymap}

lemma pressedAt_append {n : ℕ} (h : n < samples.length) (sample : Sample) :
    pressedAt display (samples ++ [sample]) n key = pressedAt display samples n key := by
  unfold pressedAt
  rw [List.getElem?_append_left h]

/-- A sample more adds what is to be reported at it. -/
lemma reported_snoc (sample : Sample) :
    reported edge_triggered display (samples ++ [sample]) =
      reported edge_triggered display samples ++
        reportedAt edge_triggered display (samples ++ [sample]) samples.length := by
  unfold reported
  rw [List.length_append, List.length_singleton, List.range_succ, List.flatMap_append,
    List.flatMap_singleton]
  congr 1
  refine List.flatMap_congr fun n hn => ?_
  have hlt : n < samples.length := List.mem_range.mp hn
  unfold reportedAt
  simp only [pressedAt_append hlt, pressedAt_append ((Nat.sub_le n 1).trans_lt hlt)]

lemma pressedAt_started (samples : List Sample) (key : Char) :
    pressedAt display (samples ++ [.started]) samples.length key = false := by
  unfold pressedAt
  rw [List.getElem?_concat_length]

lemma reportedAt_started (samples : List Sample) :
    reportedAt edge_triggered display (samples ++ [.started]) samples.length = [] := by
  unfold reportedAt
  simp [pressedAt_started]

/-! ### A poll -/

/-- The callback is given the key. -/
def reports (t : KeyboardReader) (key : Char) : Bool :=
  t.isKeyDown key && !(t.edge_triggered_ && (t.prev_state_.lookup key).getD false)

lemma pollKey_eq (t : KeyboardReader) (key : Char) :
    pollKey t key = { t with
      called := t.called ++ if t.reports key then [key] else []
      prev_state_ :=
        if t.edge_triggered_ then t.prev_state_.insert key (t.isKeyDown key)
        else t.prev_state_ } := by
  unfold pollKey reports
  generalize t.isKeyDown key = now_down
  obtain ⟨edge_triggered, display, running, timer, prev, codes, keymap, samples, called⟩ := t
  dsimp only
  generalize (prev.lookup key).getD false = prev_down
  cases edge_triggered <;> cases now_down <;> cases prev_down <;> simp

/-- The loop reports keys in their order and remembers their state. -/
lemma foldl_pollKey {keys : List Char} (hk : keys.Nodup) (t : KeyboardReader) :
    keys.foldl pollKey t = { t with
      called := t.called ++ keys.filter t.reports
      prev_state_ :=
        if t.edge_triggered_ then
          keys.foldl (fun prev key => prev.insert key (t.isKeyDown key)) t.prev_state_
        else t.prev_state_ } := by
  induction keys generalizing t with
  | nil => simp
  | cons key keys ih =>
    obtain ⟨hkey, hk⟩ := List.nodup_cons.mp hk
    rw [List.foldl_cons, ih hk, pollKey_eq]
    have hrest : keys.filter (reports { t with
        called := t.called ++ if t.reports key then [key] else []
        prev_state_ :=
          if t.edge_triggered_ then t.prev_state_.insert key (t.isKeyDown key)
          else t.prev_state_ }) = keys.filter t.reports := by
      refine List.filter_congr fun other hother => ?_
      have hne : other ≠ key := fun he => hkey (he ▸ hother)
      have hprev : (if t.edge_triggered_ then t.prev_state_.insert key (t.isKeyDown key)
          else t.prev_state_).lookup other = t.prev_state_.lookup other := by
        split_ifs
        · exact Finmap.lookup_insert_of_ne _ hne
        · rfl
      unfold reports
      rw [← hprev]
      rfl
    rw [hrest, List.filter_cons]
    congr 1
    · cases t.edge_triggered_ <;> rfl
    · cases t.reports key <;> simp

lemma lookup_foldl_insert (keys : List Char) (f : Char → Bool)
    (prev : Finmap fun _ : Char => Bool) (key : Char) :
    (keys.foldl (fun prev key => prev.insert key (f key)) prev).lookup key =
      if key ∈ keys then some (f key) else prev.lookup key := by
  induction keys generalizing prev with
  | nil => simp
  | cons a keys ih =>
    rw [List.foldl_cons, ih, Finmap.lookup_insert_ite]
    by_cases hk : key ∈ keys <;> by_cases ha : key = a <;> simp [hk, ha]

/-! ### What is kept -/

/-- What was reported is what should have been, one wait is pending at most, the codes are those
of the display, all of them while the reader runs, and an edge-triggered reader remembers the
last poll. -/
structure Kept (t : KeyboardReader) : Prop where
  called : t.called = reported t.edge_triggered_ t.display_ t.samples
  single : t.timer_.waiting ≤ 1
  codes : ∀ key kc, t.key_code_map_.lookup key = some kc →
    ∃ keycode, t.display_ = some keycode ∧ keycode key = kc ∧ kc ≠ 0
  translated : t.running_ → ∀ keycode, t.display_ = some keycode → ∀ key ∈ kKeys,
    keycode key ≠ 0 → t.key_code_map_.lookup key = some (keycode key)
  prev : t.running_ → t.edge_triggered_ → ∀ key ∈ kKeys,
    (t.prev_state_.lookup key).getD false =
      pressedAt t.display_ t.samples (t.samples.length - 1) key

/-- While the reader runs a wait or its handler is there. -/
def Alive (t : KeyboardReader) : Prop := t.running_ → 0 < t.timer_.waiting + t.timer_.fired

lemma toLower_of_mem (hk : key ∈ kKeys) : key.toLower = key := by
  fin_cases hk <;> rfl

/-- The cached codes and keymap tell whether the key is down. -/
lemma Kept.isKeyDown (h : Kept t) (hr : t.running_) (hk : key ∈ kKeys) :
    t.isKeyDown key = down t.display_ t.x11_keymap_ key := by
  unfold KeyboardReader.isKeyDown down
  rw [toLower_of_mem hk]
  cases hd : t.display_ with
  | none => rfl
  | some keycode =>
    dsimp only
    by_cases hzero : keycode key = 0
    · cases hl : t.key_code_map_.lookup key with
      | none => simp [hzero]
      | some kc =>
        obtain ⟨keycode', hd', rfl, hne⟩ := h.codes key kc hl
        obtain rfl : keycode = keycode' := Option.some.inj (hd.symm.trans hd')
        exact absurd hzero hne
    · rw [h.translated hr keycode hd key hk hzero]
      simp [hzero]

lemma pressedAt_polled (samples : List Sample) :
    pressedAt display (samples ++ [.polled keymap]) samples.length key =
      down display keymap key := by
  unfold pressedAt
  rw [List.getElem?_concat_length]

/-- The sample before the last one. -/
lemma pressedAt_before (samples : List Sample) (sample : Sample) :
    (decide (0 < samples.length) &&
      pressedAt display (samples ++ [sample]) (samples.length - 1) key) =
        pressedAt display samples (samples.length - 1) key := by
  cases samples with
  | nil => rfl
  | cons first samples =>
    rw [pressedAt_append (by simp)]
    simp

/-- The reader with the keymap of a poll. -/
def polled (t : KeyboardReader) (keymap : Keymap) : KeyboardReader :=
  { t with
    x11_keymap_ := if t.display_.isSome then keymap else t.x11_keymap_
    samples := t.samples ++ [.polled keymap] }

lemma fetchKeyState_polled (t : KeyboardReader) (keymap : Keymap) :
    { t.fetchKeyState keymap with samples := t.samples ++ [Sample.polled keymap] } =
      t.polled keymap := by
  unfold fetchKeyState polled
  split <;> rename_i hd <;> simp [hd]

lemma poll_of_running (hr : t.running_) (keymap : Keymap) :
    t.poll keymap = { t.polled keymap with
      called := t.called ++ kKeys.filter (t.polled keymap).reports
      prev_state_ :=
        if t.edge_triggered_ then
          kKeys.foldl (fun prev key => prev.insert key ((t.polled keymap).isKeyDown key))
            t.prev_state_
        else t.prev_state_
      timer_ := t.timer_.rearm } := by
  unfold poll
  rw [hr, fetchKeyState_polled]
  dsimp only [Bool.not_true]
  rw [foldl_pollKey (by decide)]
  exact if_pos hr

lemma Kept.isKeyDown_polled (h : Kept t) (hr : t.running_) (hk : key ∈ kKeys) :
    (t.polled keymap).isKeyDown key = down t.display_ keymap key := by
  have hkept : Kept { t with
      x11_keymap_ := if t.display_.isSome then keymap else t.x11_keymap_ } :=
    ⟨h.called, h.single, h.codes, h.translated, h.prev⟩
  have hdown := hkept.isKeyDown hr hk
  change (t.polled keymap).isKeyDown key = down t.display_ _ key at hdown
  rw [hdown]
  unfold down
  cases t.display_ <;> rfl

/-- A poll reports what it should. -/
lemma Kept.poll (h : Kept t) (hr : t.running_) (keymap : Keymap) :
    Kept (t.poll keymap) ∧ Alive (t.poll keymap) := by
  rw [poll_of_running hr]
  have hdown {key : Char} (hk : key ∈ kKeys) : (t.polled keymap).isKeyDown key =
      pressedAt t.display_ (t.samples ++ [.polled keymap]) t.samples.length key := by
    rw [h.isKeyDown_polled hr hk, pressedAt_polled]
  refine ⟨⟨?_, ?_, h.codes, h.translated, fun _ he key hk => ?_⟩, fun _ => ?_⟩
  · show t.called ++ kKeys.filter (t.polled keymap).reports =
      reported t.edge_triggered_ t.display_ (t.samples ++ [.polled keymap])
    rw [h.called, reported_snoc]
    congr 1
    refine List.filter_congr fun key hk => ?_
    unfold reports
    rw [hdown hk]
    congr 2
    show (t.edge_triggered_ && (t.prev_state_.lookup key).getD false) = _
    rw [Bool.and_assoc, pressedAt_before]
    cases he : t.edge_triggered_ with
    | false => rfl
    | true => rw [h.prev hr he key hk]
  · exact le_of_eq (SteadyTimer.rearm_waiting _)
  · change t.edge_triggered_ = true at he
    dsimp only
    rw [if_pos he, lookup_foldl_insert, if_pos hk]
    show (t.polled keymap).isKeyDown key = pressedAt t.display_ (t.samples ++ [.polled keymap])
      ((t.samples ++ [Sample.polled keymap]).length - 1) key
    rw [List.length_append, List.length_singleton, Nat.add_sub_cancel, hdown hk]
  · show 0 < t.timer_.rearm.waiting + _
    rw [SteadyTimer.rearm_waiting]
    omega

lemma lookup_foldl_translate (keycode : Char → UInt8) (keys : List Char)
    (codes : Finmap fun _ : Char => UInt8) (key : Char) :
    (keys.foldl (fun codes key => if keycode key ≠ 0 then codes.insert key (keycode key) else codes)
      codes).lookup key =
      if key ∈ keys ∧ keycode key ≠ 0 then some (keycode key) else codes.lookup key := by
  induction keys generalizing codes with
  | nil => simp
  | cons a keys ih =>
    rw [List.foldl_cons, ih]
    by_cases hmem : key ∈ keys ∧ keycode key ≠ 0
    · rw [if_pos hmem, if_pos ⟨List.mem_cons_of_mem _ hmem.1, hmem.2⟩]
    · rw [if_neg hmem]
      by_cases ha : key = a
      · subst ha
        by_cases hzero : keycode key = 0
        · simp [hzero]
        · rw [if_pos hzero, Finmap.lookup_insert, if_pos ⟨List.mem_cons_self, hzero⟩]
      · have hother : ¬ (key ∈ a :: keys ∧ keycode key ≠ 0) :=
          fun h => hmem ⟨(List.mem_cons.mp h.1).resolve_left ha, h.2⟩
        rw [if_neg hother]
        split_ifs
        · rw [Finmap.lookup_insert_of_ne _ ha]
        · rfl

lemma lookup_translate (keycode : Char → UInt8) (codes : Finmap fun _ : Char => UInt8)
    (key : Char) : (translate keycode codes).lookup key =
      if key ∈ kKeys ∧ keycode key ≠ 0 then some (keycode key) else codes.lookup key := by
  have hlower : translate keycode codes = kKeys.foldl
      (fun codes key => if keycode key ≠ 0 then codes.insert key (keycode key) else codes)
      codes := by
    refine List.foldl_ext _ _ _ fun codes key hk => ?_
    rw [toLower_of_mem hk]
  rw [hlower, lookup_foldl_translate]

/-- The reader before its first poll. -/
def readied (t : KeyboardReader) : KeyboardReader :=
  { t with
    running_ := true
    samples := t.samples ++ [.started]
    prev_state_ :=
      if t.edge_triggered_ then kKeys.foldl (fun prev key => prev.insert key false) t.prev_state_
      else t.prev_state_
    key_code_map_ :=
      match t.display_ with
      | none => t.key_code_map_
      | some keycode => translate keycode t.key_code_map_ }

lemma start_of_not_running (hr : ¬ t.running_) (keymap : Keymap) :
    t.start keymap = t.readied.poll keymap := by
  unfold start readied
  rw [if_neg hr]
  obtain ⟨edge_triggered, display, running, timer, prev, codes, keymap', samples, called⟩ := t
  cases edge_triggered <;> cases display <;> rfl

lemma Kept.readied (h : Kept t) : Kept t.readied := by
  refine ⟨?_, h.single, fun key kc hl => ?_, fun _ keycode hd key hk hne => ?_,
    fun _ he key hk => ?_⟩
  · show t.called = reported t.edge_triggered_ t.display_ (t.samples ++ [.started])
    rw [reported_snoc, reportedAt_started, List.append_nil]
    exact h.called
  · unfold KeyboardReader.readied at hl
    dsimp only at hl
    split at hl
    · exact h.codes key kc hl
    · rename_i keycode hd
      rw [lookup_translate] at hl
      split_ifs at hl with hk
      · obtain rfl := Option.some.inj hl
        exact ⟨keycode, hd, rfl, hk.2⟩
      · exact h.codes key kc hl
  · change t.display_ = some keycode at hd
    unfold KeyboardReader.readied
    simp only [hd]
    rw [lookup_translate, if_pos ⟨hk, hne⟩]
  · change t.edge_triggered_ = true at he
    unfold KeyboardReader.readied
    dsimp only
    rw [if_pos he, lookup_foldl_insert _ (fun _ => false), if_pos hk, List.length_append,
      List.length_singleton, Nat.add_sub_cancel, pressedAt_started]
    rfl

/-- A reader that is started polls at once; one that runs is left alone. -/
lemma Kept.start (h : Kept t) (ha : Alive t) (keymap : Keymap) :
    Kept (t.start keymap) ∧ Alive (t.start keymap) := by
  by_cases hr : t.running_
  · rw [show t.start keymap = t from if_pos hr]
    exact ⟨h, ha⟩
  · rw [start_of_not_running hr]
    exact h.readied.poll rfl keymap

lemma kept_step (t : KeyboardReader) (e : Step) (h : Kept t ∧ Alive t) :
    Kept (step t e) ∧ Alive (step t e) := by
  obtain ⟨kept, alive⟩ := h
  cases e with
  | start keymap => exact kept.start alive keymap
  | stop => exact ⟨⟨kept.called, Nat.zero_le _, kept.codes, (nomatch ·), (nomatch ·)⟩, (nomatch ·)⟩
  | expire =>
    refine ⟨⟨kept.called, ?_, kept.codes, kept.translated, kept.prev⟩, fun hr => ?_⟩
    · have hsingle := kept.single
      show t.timer_.expire.waiting ≤ 1
      unfold SteadyTimer.expire
      split_ifs
      · exact hsingle
      · exact Nat.zero_le _
    · show 0 < t.timer_.expire.waiting + t.timer_.expire.fired
      rw [t.timer_.expire_outstanding]
      exact alive hr
  | aborted =>
    exact ⟨⟨kept.called, kept.single, kept.codes, kept.translated, kept.prev⟩, alive⟩
  | woken keymap =>
    have hkept : Kept { t with timer_ := t.timer_.runFired } :=
      ⟨kept.called, kept.single, kept.codes, kept.translated, kept.prev⟩
    unfold step
    dsimp only
    split_ifs with hf hr
    · exact ⟨kept, alive⟩
    · exact hkept.poll hr keymap
    · exact ⟨hkept, fun hr' => absurd hr' hr⟩

/-- A reader that is stopped reports nothing until it is started. -/
lemma called_run {more : List Step} (hr : t.running_ = false)
    (hmore : ∀ keymap, .start keymap ∉ more) : (run step t more).called = t.called := by
  induction more generalizing t with
  | nil => rfl
  | cons e es ih =>
    have hes : ∀ keymap, .start keymap ∉ es :=
      fun keymap hmem => hmore keymap (List.mem_cons_of_mem _ hmem)
    have hstep : (step t e).running_ = false ∧ (step t e).called = t.called := by
      cases e with
      | start keymap => exact absurd List.mem_cons_self (hmore keymap)
      | stop => exact ⟨rfl, rfl⟩
      | expire => exact ⟨hr, rfl⟩
      | aborted => exact ⟨hr, rfl⟩
      | woken keymap =>
        unfold step
        dsimp only
        split_ifs with hf hrun
        · exact ⟨hr, rfl⟩
        · exact absurd hrun (Bool.eq_false_iff.mp hr)
        · exact ⟨hr, rfl⟩
    rw [run_cons, ih hstep.1 hes, hstep.2]

/-- What is asked of a reader: the callback was given, poll by poll, the keys that were down, or
had gone down since the poll before or the start; one wait is pending at most, and while the
reader runs there is one, or its handler; and a reader that is stopped reports nothing until it
is started. -/
structure Reports (t : KeyboardReader) : Prop where
  called : t.called = reported t.edge_triggered_ t.display_ t.samples
  single : t.timer_.waiting ≤ 1
  goes_on : t.running_ = true → 0 < t.timer_.waiting + t.timer_.fired
  quiet : t.running_ = false → ∀ more, (∀ keymap, .start keymap ∉ more) →
    (run step t more).called = t.called

/-- **Keys are reported as they are pressed.** For any display, edge-triggered or not, after any
interleaving of the calls, the timer and the handlers. -/
theorem keys_reported (edge_triggered : Bool) (display : Option (Char → UInt8))
    (steps : List Step) : Reports (run step (init edge_triggered display) steps) := by
  have hinit : Kept (init edge_triggered display) := by
    refine ⟨rfl, Nat.zero_le _, fun key kc hl => ?_, (nomatch ·), (nomatch ·)⟩
    exact absurd hl (by simp [init])
  obtain ⟨kept, alive⟩ := run_inv (I := fun t => Kept t ∧ Alive t) kept_step
    ⟨hinit, (nomatch ·)⟩ steps
  exact ⟨kept.called, kept.single, alive, fun hr _ hmore => called_run hr hmore⟩

end KeyboardReader

end DungeonCrawler
