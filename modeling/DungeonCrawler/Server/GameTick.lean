import DungeonCrawler.Server.Games

/-!
One tick of all games.

The loop over the dungeons collects those that are over, and a second loop removes them. What
the first loop did after some of the dungeons is stated of the dungeons visited so far; the
second needs the tables of the registry to agree, and what is told to the players needs in
addition that nobody stands in a dungeon without being recorded for it.
-/

namespace DungeonCrawler

namespace GameManager

open Finmap Runs

/-! ### The registries of dungeons that calls lead to -/

/-- A call on the registry, or on one of its dungeons. -/
inductive Call
  | registry (c : DungeonRegistry.Call)
  | dungeon (id : GameId) (c : Dungeon.Call)

def step (cfg : Gameplay) (r : DungeonRegistry) : Call → DungeonRegistry
  | .registry c => r.step cfg c
  | .dungeon id c =>
    match r.findDungeon id with
    | none => r
    | some dungeon => r.withDungeon id (dungeon.step cfg c)

/-- The tables agree, and those who stand in a dungeon are recorded for it. -/
structure Housed (r : DungeonRegistry) : Prop where
  sound : r.Sound
  recorded : ∀ g dungeon, r.findDungeon g = some dungeon →
    ∀ p ∈ dungeon.players_.entities_, r.findPlayerDungeon p = some g

variable {cfg : Gameplay} {outcomes : GameId → TickOutcomes} {r r' : DungeonRegistry}
variable {g g' : GameId} {gs : List GameId} {p : PlayerId} {dungeon : Dungeon}

lemma mem_step {d : Dungeon} (c : Dungeon.Call) :
    p ∈ (d.step cfg c).players_.entities_ ↔ p ∈ d.players_.entities_ :=
  d.mem_run cfg [c] p

lemma Housed.added {map : GameMap} {ps : List PlayerId} {gen : PositionGenerator}
    (h : Housed r) (ha : r.Admissible ps) (hid : r.next_game_id_ ∉ r.dungeons_) :
    Housed (r.added cfg map ps gen) := by
  refine ⟨h.sound.added ha hid, fun g dungeon hg p hp => ?_⟩
  rw [DungeonRegistry.findPlayerDungeon, DungeonRegistry.added, lookup_foldl_emplace _ ha.free]
  rw [DungeonRegistry.findDungeon, DungeonRegistry.added, lookup_insert_ite] at hg
  split_ifs at hg with hnew
  · -- the new dungeon has only the players it was made for
    obtain rfl := Option.some.inj hg
    rw [if_pos (Dungeon.mem_of_mem_create hp), hnew]
  · have old := h.recorded g dungeon hg p hp
    rw [if_neg fun hps => ha.free p hps (mem_of_lookup_eq_some old)]
    exact old

/-! ### The second loop -/

/-- The dungeons `gs` are gone, and nobody is recorded for them. -/
structure Dropped (gs : List GameId) (r r' : DungeonRegistry) : Prop where
  dungeons : ∀ g, r'.findDungeon g = if g ∈ gs then none else r.findDungeon g
  lists : ∀ g, r'.dungeon_to_players_.lookup g =
    if g ∈ gs then none else r.dungeon_to_players_.lookup g
  players : ∀ p g, r'.findPlayerDungeon p = some g ↔ r.findPlayerDungeon p = some g ∧ g ∉ gs

/-- A removal takes the players recorded for the dungeon along. -/
lemma dropped_one (h : r.Sound) (g : GameId) : Dropped [g] r (r.removeDungeon g).2 := by
  by_cases hg : g ∈ r.dungeons_
  · obtain ⟨ps, hps⟩ := h.players_of_mem hg
    have recorded : ∀ p, p ∈ ps ↔ r.player_to_dungeon_.lookup p = some g := fun p => by
      rw [h.in_list, hps]
      simp
    rw [DungeonRegistry.removeDungeon_of_lookup hg hps]
    refine ⟨fun g' => ?_, fun g' => ?_, fun p g' => ?_⟩ <;> simp only [List.mem_singleton]
    · exact lookup_erase_ite _ _ _
    · exact lookup_erase_ite _ _ _
    · rw [DungeonRegistry.findPlayerDungeon, DungeonRegistry.removed, lookup_foldl_erase]
      split_ifs with hp
      · rw [DungeonRegistry.findPlayerDungeon, (recorded p).mp hp, Option.some_inj]
        refine iff_of_false not_false ?_
        rintro ⟨he, hne⟩
        exact hne he.symm
      · refine (and_iff_left_of_imp ?_).symm
        rintro hg' rfl
        exact hp ((recorded p).mpr hg')
  · -- nobody is recorded for a dungeon that is not there
    have hlist : g ∉ r.dungeon_to_players_ := (h.same_keys g).not.mp hg
    rw [DungeonRegistry.removeDungeon_of_notMem hg]
    refine ⟨fun g' => ?_, fun g' => ?_, fun p g' => ?_⟩ <;> simp only [List.mem_singleton]
    · split_ifs with he
      · rw [he]
        exact lookup_eq_none.mpr hg
      · rfl
    · split_ifs with he
      · rw [he]
        exact lookup_eq_none.mpr hlist
      · rfl
    · refine (and_iff_left_of_imp ?_).symm
      rintro hp rfl
      obtain ⟨ps, hps, -⟩ := (h.in_list p g').mp hp
      exact hlist (mem_of_lookup_eq_some hps)

lemma dropped_foldl (h : r.Sound) (gs : List GameId) :
    Dropped gs r (gs.foldl (fun r g => (r.removeDungeon g).2) r) := by
  induction gs generalizing r with
  | nil => exact ⟨fun _ => rfl, fun _ => rfl, fun _ _ => by simp⟩
  | cons g gs ih =>
    have one := dropped_one h g
    have rest := ih (h.removeDungeon g)
    refine ⟨fun g' => ?_, fun g' => ?_, fun p g' => ?_⟩
    · rw [List.foldl_cons, rest.dungeons, one.dungeons]
      by_cases hg : g' ∈ gs <;> by_cases hgg : g' = g <;> simp [hg, hgg]
    · rw [List.foldl_cons, rest.lists, one.lists]
      by_cases hg : g' ∈ gs <;> by_cases hgg : g' = g <;> simp [hg, hgg]
    · rw [List.foldl_cons, rest.players, one.players]
      simp only [List.mem_cons, List.not_mem_nil, or_false, not_or, and_assoc]

/-! ### The first loop -/

/-- The dungeon after its tick. -/
def ticked (cfg : Gameplay) (outcomes : GameId → TickOutcomes) (g : GameId)
    (dungeon : Dungeon) : Dungeon := (dungeon.processTick cfg (outcomes g)).2

/-- What a tick has to say of a dungeon in which somebody is alive. -/
def update (outcomes : GameId → TickOutcomes) (g : GameId) (dungeon : Dungeon) : Event :=
  .gameStateUpdate g (some (createGameStateDTO (outcomes g)
    ⟨dungeon.game_map_, dungeon.players_.entities_, dungeon.monsters_.entities_⟩))

/-- What is posted of a dungeon: its state, or to each player that the game is over. -/
def posted (cfg : Gameplay) (outcomes : GameId → TickOutcomes) (r : DungeonRegistry)
    (g : GameId) : List Event :=
  match r.findDungeon g with
  | none => []
  | some dungeon =>
    let dungeon := ticked cfg outcomes g dungeon
    if dungeon.isGameOver then
      (dungeon.getPlayers (outcomes g).playerOrder).map .gameOver
    else [update outcomes g dungeon]

/-- The dungeon is over at the end of its tick. -/
def Over (cfg : Gameplay) (outcomes : GameId → TickOutcomes) (r : DungeonRegistry)
    (g : GameId) : Prop :=
  ∃ dungeon, r.findDungeon g = some dungeon ∧ (ticked cfg outcomes g dungeon).isGameOver

/-- The loop has visited the dungeons `gs`. -/
structure Visited (cfg : Gameplay) (outcomes : GameId → TickOutcomes) (r : DungeonRegistry)
    (gs : List GameId) (acc : List Event × List GameId × DungeonRegistry) : Prop where
  events : acc.1 = gs.flatMap (posted cfg outcomes r)
  removals : ∀ g, g ∈ acc.2.1 ↔ g ∈ gs ∧ Over cfg outcomes r g
  dungeons : ∀ g, acc.2.2.findDungeon g =
    if g ∈ gs then (r.findDungeon g).map (ticked cfg outcomes g) else r.findDungeon g
  players : acc.2.2.player_to_dungeon_ = r.player_to_dungeon_
  lists : acc.2.2.dungeon_to_players_ = r.dungeon_to_players_

lemma tickDungeon_of_find {events : List Event} {removals : List GameId}
    (hg : r.findDungeon g = some dungeon) :
    tickDungeon cfg outcomes (events, removals, r) g =
      (events ++ posted cfg outcomes r g,
        if (ticked cfg outcomes g dungeon).isGameOver then removals ++ [g] else removals,
        r.withDungeon g (ticked cfg outcomes g dungeon)) := by
  have hfst := dungeon.processTick_fst cfg (outcomes g)
  unfold posted ticked update
  rcases hp : dungeon.processTick cfg (outcomes g) with ⟨snapshot, dungeon'⟩
  rw [hp] at hfst
  simp only at hfst
  simp only [tickDungeon, hg, hp, hfst]
  cases dungeon'.isGameOver <;> rfl

/-- The next dungeon is one that was not visited, so it is still as it was. -/
lemma Visited.snoc {acc : List Event × List GameId × DungeonRegistry}
    (h : Visited cfg outcomes r gs acc) (hnew : g ∉ gs) (hg : r.findDungeon g = some dungeon) :
    Visited cfg outcomes r (gs ++ [g]) (tickDungeon cfg outcomes acc g) := by
  obtain ⟨events, removals, d⟩ := acc
  have hd : d.findDungeon g = some dungeon := by
    have := h.dungeons g
    rwa [if_neg hnew, hg] at this
  have same : posted cfg outcomes d g = posted cfg outcomes r g := by
    simp only [posted, hd, hg]
  have isOver : Over cfg outcomes r g ↔ (ticked cfg outcomes g dungeon).isGameOver := by
    simp [Over, hg]
  rw [tickDungeon_of_find hd, same]
  refine ⟨?_, fun g' => ?_, fun g' => ?_, h.players, h.lists⟩
  · rw [List.flatMap_append, ← h.events, List.flatMap_singleton]
  · have := h.removals g'
    dsimp only at this ⊢
    rcases eq_or_ne g' g with rfl | hne
    · split_ifs with he <;> simp [this, isOver, he]
    · split_ifs <;> simpa [hne] using this
  · have := h.dungeons g'
    rw [DungeonRegistry.findDungeon] at this
    rw [DungeonRegistry.withDungeon, DungeonRegistry.findDungeon, lookup_insert_ite, this]
    by_cases he : g' = g
    · simp [he, hg]
    · simp [he]

/-- The dungeons are visited one after the other, each once. -/
lemma visited_foldl (hnd : gs.Nodup) (hgs : ∀ g ∈ gs, g ∈ r.dungeons_) :
    Visited cfg outcomes r gs (gs.foldl (tickDungeon cfg outcomes) ([], [], r)) := by
  induction gs using List.reverseRecOn with
  | nil => exact ⟨rfl, fun _ => by simp, fun _ => by simp, rfl, rfl⟩
  | append_singleton gs g ih =>
    obtain ⟨hnd, -, hnew⟩ := List.nodup_append.mp hnd
    obtain ⟨dungeon, hg⟩ := mem_iff.mp (hgs g (by simp))
    rw [List.foldl_append, List.foldl_cons, List.foldl_nil]
    exact (ih hnd fun g hg => hgs g (by simp [hg])).snoc
      (fun hm => hnew g hm g (List.mem_singleton_self g) rfl) hg

/-! ### What is posted -/

def isUpdateOf (g : GameId) : Event → Bool
  | .gameStateUpdate g' _ => g' = g
  | _ => false

lemma filter_posted_of_ne (hne : g' ≠ g) :
    (posted cfg outcomes r g').filter (isUpdateOf g) = [] := by
  rw [List.filter_eq_nil_iff]
  intro e he
  unfold posted at he
  split at he
  · cases he
  · dsimp only at he
    split_ifs at he
    · obtain ⟨p, -, rfl⟩ := List.mem_map.mp he
      simp [isUpdateOf]
    · rw [List.mem_singleton.mp he]
      simpa [update, isUpdateOf] using hne

lemma gameOver_mem_posted : .gameOver p ∈ posted cfg outcomes r g ↔
    ∃ dungeon, r.findDungeon g = some dungeon ∧ (ticked cfg outcomes g dungeon).isGameOver ∧
      p ∈ (ticked cfg outcomes g dungeon).players_.entities_ := by
  unfold posted
  split <;> rename_i hg
  · simp [hg]
  · dsimp only
    split_ifs with he <;> simp [hg, he, update, Dungeon.mem_getPlayers]

/-- The game is over for a player only by the dungeon the player is recorded for. -/
lemma Housed.recorded_of_gameOver (h : Housed r)
    (hm : .gameOver p ∈ posted cfg outcomes r g) : r.findPlayerDungeon p = some g := by
  obtain ⟨dungeon, hg, -, hp⟩ := gameOver_mem_posted.mp hm
  exact h.recorded g dungeon hg p (Dungeon.mem_processTick.mp hp)

/-- The game is over once for each player of a dungeon. -/
lemma count_posted (hg : r.findDungeon g = some dungeon)
    (ho : (ticked cfg outcomes g dungeon).isGameOver)
    (hp : p ∈ (ticked cfg outcomes g dungeon).players_.entities_) :
    (posted cfg outcomes r g).count (.gameOver p) = 1 := by
  have injective : Function.Injective Event.gameOver := fun _ _ => Event.gameOver.inj
  simp only [posted, hg, if_pos ho, List.count_map_of_injective _ _ injective]
  exact List.count_eq_one_of_mem (IterOrder.nodup_list _ _) ((Dungeon.mem_getPlayers ..).mpr hp)

/-! ### The whole tick -/

/-- A dungeon goes on as `dungeon`: its state is posted once, and none of its players is told
that the game is over. -/
structure GoesOn (outcomes : GameId → TickOutcomes) (g : GameId) (dungeon : Dungeon)
    (events : List Event) (r r' : DungeonRegistry) : Prop where
  registered : r'.findDungeon g = some dungeon
  list : r'.dungeon_to_players_.lookup g = r.dungeon_to_players_.lookup g
  update : events.filter (isUpdateOf g) = [update outcomes g dungeon]
  quiet : ∀ p ∈ dungeon.players_.entities_, .gameOver p ∉ events

/-- A dungeon ended as `dungeon`: each of its players is told so once, and those recorded for
it are free. -/
structure Ended (g : GameId) (dungeon : Dungeon) (events : List Event) (r r' : DungeonRegistry) :
    Prop where
  removed : r'.findDungeon g = none
  list : r'.dungeon_to_players_.lookup g = none
  update : events.filter (isUpdateOf g) = []
  told : ∀ p ∈ dungeon.players_.entities_, events.count (.gameOver p) = 1
  free : ∀ p, r.findPlayerDungeon p = some g →
    r'.findPlayerDungeon p = none ∧ r'.Admissible [p]

/-- Every dungeon had its tick, and goes on or ended according to whether a player in it is
alive afterwards; nothing else changed and nobody else was told anything. -/
structure Ticked (cfg : Gameplay) (outcomes : GameId → TickOutcomes) (r : DungeonRegistry)
    (result : List Event × DungeonRegistry) : Prop where
  registered_iff : ∀ g dungeon, r.findDungeon g = some dungeon →
    ((result.2.findDungeon g).isSome ↔ (ticked cfg outcomes g dungeon).SomeoneAlive)
  goesOn : ∀ g dungeon, r.findDungeon g = some dungeon →
    (ticked cfg outcomes g dungeon).SomeoneAlive →
    GoesOn outcomes g (ticked cfg outcomes g dungeon) result.1 r result.2
  ended : ∀ g dungeon, r.findDungeon g = some dungeon →
    ¬ (ticked cfg outcomes g dungeon).SomeoneAlive →
    Ended g (ticked cfg outcomes g dungeon) result.1 r result.2
  no_others : ∀ g, r.findDungeon g = none →
    result.2.findDungeon g = none ∧ result.1.filter (isUpdateOf g) = []
  players : ∀ p, (∀ g dungeon, r.findPlayerDungeon p = some g →
      r.findDungeon g = some dungeon → (ticked cfg outcomes g dungeon).SomeoneAlive) →
    result.2.findPlayerDungeon p = r.findPlayerDungeon p
  told_only : ∀ p, .gameOver p ∈ result.1 → ∃ g dungeon, r.findDungeon g = some dungeon ∧
    ¬ (ticked cfg outcomes g dungeon).SomeoneAlive ∧
    p ∈ (ticked cfg outcomes g dungeon).players_.entities_

/-- The first loop leaves the tables in step. -/
lemma Visited.sound {acc : List Event × List GameId × DungeonRegistry}
    (h : Visited cfg outcomes r gs acc) (hr : r.Sound) : acc.2.2.Sound := by
  refine hr.of_same (fun g => ?_) h.players h.lists
  rw [← lookup_isSome, ← lookup_isSome]
  have := h.dungeons g
  rw [DungeonRegistry.findDungeon] at this
  rw [this]
  split_ifs
  · rw [Option.isSome_map]
    rfl
  · rfl

/-- The events are those posted of the dungeons, and the tables are those of the registry
without the dungeons that are over. -/
structure Swept (cfg : Gameplay) (outcomes : GameId → TickOutcomes) (r : DungeonRegistry)
    (result : List Event × DungeonRegistry) : Prop where
  dungeons : ∀ g dungeon, r.findDungeon g = some dungeon → result.2.findDungeon g =
    if (ticked cfg outcomes g dungeon).isGameOver then none
    else some (ticked cfg outcomes g dungeon)
  no_others : ∀ g, r.findDungeon g = none → result.2.findDungeon g = none
  list_gone : ∀ g, Over cfg outcomes r g → result.2.dungeon_to_players_.lookup g = none
  list_stays : ∀ g, ¬ Over cfg outcomes r g →
    result.2.dungeon_to_players_.lookup g = r.dungeon_to_players_.lookup g
  players : ∀ p g, result.2.findPlayerDungeon p = some g ↔
    r.findPlayerDungeon p = some g ∧ ¬ Over cfg outcomes r g
  filter : ∀ g q, (∀ g' ≠ g, (posted cfg outcomes r g').filter q = []) →
    result.1.filter q = (posted cfg outcomes r g).filter q
  said : ∀ e ∈ result.1, ∃ g, e ∈ posted cfg outcomes r g

/-- After the first loop the second one removes what is over. -/
lemma Visited.swept {acc : List Event × List GameId × DungeonRegistry} {ord : IterOrder GameId}
    (h : Visited cfg outcomes r (ord.list r.dungeons_.keys) acc) (hr : r.Sound) :
    Swept cfg outcomes r
      (acc.1, acc.2.1.foldl (fun r g => (r.removeDungeon g).2) acc.2.2) := by
  have dropped := dropped_foldl (h.sound hr) acc.2.1
  have listed : ∀ g, g ∈ ord.list r.dungeons_.keys ↔ (r.findDungeon g).isSome := fun g => by
    rw [ord.mem_list, mem_keys, DungeonRegistry.findDungeon, lookup_isSome]
  have isOver : ∀ g, g ∈ acc.2.1 ↔ Over cfg outcomes r g := fun g => by
    rw [h.removals, and_iff_right_of_imp]
    rintro ⟨dungeon, hg, -⟩
    rw [listed, hg]
    rfl
  refine ⟨fun g dungeon hg => ?_, fun g hg => ?_, fun g ho => ?_, fun g ho => ?_, fun p g => ?_,
    fun g q hq => ?_, fun e he => ?_⟩
  · have := isOver g
    rw [dropped.dungeons, h.dungeons, if_pos ((listed g).mpr (by rw [hg]; rfl)), hg]
    simp only [Over, hg, Option.some.injEq, exists_eq_left'] at this
    simp only [this, Option.map_some]
  · rw [dropped.dungeons, h.dungeons, hg]
    simp
  · rw [dropped.lists, if_pos ((isOver g).mpr ho)]
  · rw [dropped.lists, if_neg ((isOver g).not.mpr ho), h.lists]
  · rw [dropped.players, isOver, DungeonRegistry.findPlayerDungeon, h.players]
    rfl
  · rw [h.events, List.filter_flatMap]
    by_cases hg : g ∈ r.dungeons_.keys
    · exact ord.flatMap_eq hg hq
    · -- nothing is posted of a dungeon that is not there
      have silent : posted cfg outcomes r g = [] := by
        rw [mem_keys] at hg
        simp only [posted, DungeonRegistry.findDungeon, lookup_eq_none.mpr hg]
      rw [silent, List.filter_nil, List.flatMap_eq_nil_iff]
      intro g' hg'
      refine hq g' ?_
      rintro rfl
      exact hg ((ord.mem_list _ g').mp hg')
  · rw [h.events] at he
    obtain ⟨g, -, hg⟩ := List.mem_flatMap.mp he
    exact ⟨g, hg⟩

lemma swept_onGameTickEvent (h : r.Sound) (cfg : Gameplay) (ord : IterOrder GameId)
    (outcomes : GameId → TickOutcomes) :
    Swept cfg outcomes r (onGameTickEvent cfg ord outcomes r) :=
  Visited.swept (visited_foldl (ord.nodup_list _) fun g hg =>
    mem_keys.mp ((ord.mem_list _ g).mp hg)) h

lemma over_iff (hg : r.findDungeon g = some dungeon) :
    Over cfg outcomes r g ↔ ¬ (ticked cfg outcomes g dungeon).SomeoneAlive := by
  simp [Over, hg, Dungeon.isGameOver_iff]

variable {result : List Event × DungeonRegistry}

lemma Swept.goesOn (h : Swept cfg outcomes r result) (hr : Housed r)
    (hg : r.findDungeon g = some dungeon)
    (ha : (ticked cfg outcomes g dungeon).SomeoneAlive) :
    GoesOn outcomes g (ticked cfg outcomes g dungeon) result.1 r result.2 := by
  have going : ¬ (ticked cfg outcomes g dungeon).isGameOver := by
    rw [Dungeon.isGameOver_iff, not_not]
    exact ha
  refine ⟨?_, h.list_stays g fun ho => (over_iff hg).mp ho ha, ?_, fun p hp hm => ?_⟩
  · rw [h.dungeons g dungeon hg, if_neg going]
  · rw [h.filter g _ fun g' => filter_posted_of_ne]
    simp [posted, hg, going, GameManager.update, isUpdateOf]
  · -- only the end of the player's own dungeon is told to the player
    obtain ⟨g', hg'⟩ := h.said _ hm
    have recorded := hr.recorded g dungeon hg p (Dungeon.mem_processTick.mp hp)
    rw [hr.recorded_of_gameOver hg'] at recorded
    obtain rfl := Option.some.inj recorded
    obtain ⟨dungeon', hd, ho, -⟩ := gameOver_mem_posted.mp hg'
    obtain rfl := Option.some.inj (hg.symm.trans hd)
    exact going ho

lemma Swept.ended (h : Swept cfg outcomes r result) (hr : Housed r)
    (hg : r.findDungeon g = some dungeon)
    (ha : ¬ (ticked cfg outcomes g dungeon).SomeoneAlive) :
    Ended g (ticked cfg outcomes g dungeon) result.1 r result.2 := by
  have ended := Dungeon.isGameOver_iff.mpr ha
  have isOver := (over_iff hg).mpr ha
  refine ⟨?_, h.list_gone g isOver, ?_, fun p hp => ?_, fun p hp => ?_⟩
  · rw [h.dungeons g dungeon hg, if_pos ended]
  · rw [h.filter g _ fun g' => filter_posted_of_ne]
    simp [posted, hg, ended, isUpdateOf]
  · have silent : ∀ g' ≠ g, (posted cfg outcomes r g').filter (· == .gameOver p) = [] := by
      intro g' hne
      rw [List.filter_eq_nil_iff]
      intro e he heq
      rw [beq_iff_eq] at heq
      rw [heq] at he
      have recorded := hr.recorded g dungeon hg p (Dungeon.mem_processTick.mp hp)
      rw [hr.recorded_of_gameOver he] at recorded
      exact hne (Option.some.inj recorded)
    rw [List.count_eq_length_filter, h.filter g _ silent, ← List.count_eq_length_filter]
    exact count_posted hg ended hp
  · have free : result.2.findPlayerDungeon p = none := by
      refine Option.eq_none_iff_forall_ne_some.mpr fun g' hg' => ?_
      obtain ⟨hp', hno⟩ := (h.players p g').mp hg'
      obtain rfl := Option.some.inj (hp.symm.trans hp')
      exact hno isOver
    refine ⟨free, List.cons_ne_nil p [], List.nodup_singleton p, fun q hq => ?_⟩
    rw [List.mem_singleton.mp hq]
    exact lookup_eq_none.mp free

/-- Every dungeon is dealt with, if the tables agree and the dungeons have recorded players
only. -/
lemma Housed.onGameTickEvent (h : Housed r) (cfg : Gameplay) (ord : IterOrder GameId)
    (outcomes : GameId → TickOutcomes) :
    Ticked cfg outcomes r (GameManager.onGameTickEvent cfg ord outcomes r) := by
  have swept := swept_onGameTickEvent h.sound cfg ord outcomes
  refine ⟨fun g dungeon hg => ?_, fun g dungeon hg ha => swept.goesOn h hg ha,
    fun g dungeon hg ha => swept.ended h hg ha, fun g hg => ⟨swept.no_others g hg, ?_⟩,
    fun p hp => ?_, fun p hm => ?_⟩
  · rw [swept.dungeons g dungeon hg, ← not_iff_not, ← Dungeon.isGameOver_iff]
    split_ifs with ho <;> simp [ho]
  · rw [swept.filter g _ fun g' => filter_posted_of_ne]
    simp [posted, hg]
  · refine Option.ext fun g => ?_
    rw [swept.players, and_iff_left_of_imp]
    rintro hg ⟨dungeon, hd, ho⟩
    exact Dungeon.isGameOver_iff.mp ho (hp g dungeon hg hd)
  · obtain ⟨g, hg⟩ := swept.said _ hm
    obtain ⟨dungeon, hd, ho, hp⟩ := gameOver_mem_posted.mp hg
    exact ⟨g, dungeon, hd, Dungeon.isGameOver_iff.mp ho, hp⟩

/-! ### Every registry that calls lead to -/

lemma Housed.removeDungeon (h : Housed r) (g : GameId) : Housed (r.removeDungeon g).2 := by
  have dropped := dropped_one h.sound g
  refine ⟨h.sound.removeDungeon g, fun g' dungeon hg' p hp => ?_⟩
  rw [dropped.dungeons] at hg'
  split_ifs at hg' with hm
  exact (dropped.players p g').mpr ⟨h.recorded g' dungeon hg' p hp, hm⟩

lemma Housed.withDungeon (h : Housed r) (hg : r.findDungeon g = some dungeon)
    (c : Dungeon.Call) : Housed (r.withDungeon g (dungeon.step cfg c)) := by
  refine ⟨h.sound.withDungeon (mem_of_lookup_eq_some hg) _, fun g' dungeon' hg' p hp => ?_⟩
  rw [DungeonRegistry.findDungeon, DungeonRegistry.withDungeon, lookup_insert_ite] at hg'
  split_ifs at hg' with he
  · obtain rfl := Option.some.inj hg'
    rw [he]
    exact h.recorded g dungeon hg p ((mem_step c).mp hp)
  · exact h.recorded g' dungeon' hg' p hp

lemma Housed.step (h : Housed r) (c : Call) : Housed (step cfg r c) := by
  cases c with
  | registry c =>
    cases c with
    | addDungeon map ps gen =>
      show Housed (r.addDungeon cfg map ps gen).2
      rcases DungeonRegistry.addDungeon_cases cfg r map ps gen with
        ⟨-, he⟩ | ⟨-, -, he⟩ | ⟨ha, hid, he⟩ <;> rw [he]
      · exact h
      · exact ⟨h.sound.of_same (fun _ => Iff.rfl) rfl rfl, h.recorded⟩
      · exact h.added ha hid
    | removeDungeon id => exact h.removeDungeon id
  | dungeon id c =>
    unfold GameManager.step
    dsimp only
    split
    · exact h
    · rename_i hg
      exact h.withDungeon hg c

lemma housed_run (cfg : Gameplay) (calls : List Call) : Housed (run (step cfg) .empty calls) :=
  run_inv (fun _ c h => h.step c)
    ⟨DungeonRegistry.sound_empty, by simp [DungeonRegistry.empty, DungeonRegistry.findDungeon]⟩
    calls

/-! ### The registry of the server is one of these -/

/-- The first loop ticks the dungeons. -/
lemma tickDungeon_step (acc : List Event × List GameId × DungeonRegistry) (g : GameId) :
    (tickDungeon cfg outcomes acc g).2.2 =
      step cfg acc.2.2 (.dungeon g (.processTick (outcomes g))) := by
  obtain ⟨events, removals, d⟩ := acc
  simp only [tickDungeon, step]
  cases d.findDungeon g with
  | none => rfl
  | some dungeon =>
    simp only [Dungeon.step]
    split <;> rename_i he <;> rw [he]

lemma foldl_tickDungeon_run (cfg : Gameplay) (outcomes : GameId → TickOutcomes)
    (gs : List GameId) (acc : List Event × List GameId × DungeonRegistry) :
    (gs.foldl (tickDungeon cfg outcomes) acc).2.2 =
      run (step cfg) acc.2.2 (gs.map fun g => .dungeon g (.processTick (outcomes g))) := by
  induction gs generalizing acc with
  | nil => rfl
  | cons g gs ih => rw [List.foldl_cons, ih, tickDungeon_step, List.map_cons, run_cons]

lemma foldl_removeDungeon_run (gs : List GameId) (d : DungeonRegistry) :
    gs.foldl (fun r g => (r.removeDungeon g).2) d =
      run (step cfg) d (gs.map fun g => .registry (.removeDungeon g)) := by
  rw [run, List.foldl_map]
  rfl

/-- A command of a player is a call on the player's dungeon. -/
lemma exists_calls_commandDungeon (d : DungeonRegistry) (p : PlayerId) (c : Dungeon.Call) :
    ∃ calls, commandDungeon d p (·.step cfg c) = run (step cfg) d calls := by
  unfold commandDungeon
  split
  · exact ⟨[], rfl⟩
  · rename_i g _
    refine ⟨[.dungeon g c], ?_⟩
    show _ = step cfg d (.dungeon g c)
    cases hd : d.findDungeon g with
    | none => simp only [step, hd]
    | some dungeon => simp only [step, hd]

/-- What a request, a tick or a command does to the dungeons are calls. -/
lemma exists_calls_step (cfg : Gameplay) (w : Lobbies) (i : Games.Input) :
    ∃ calls, (Games.step cfg w i).dungeon_registry_ =
      run (step cfg) w.dungeon_registry_ calls := by
  cases i with
  | request input =>
    obtain ⟨request, playerOrder, lobbyOrder, pos_gen⟩ := input
    cases request with
    | startGameRequest p =>
      rcases Games.onStartGameRequestEvent_dungeons cfg playerOrder pos_gen w.lobby_registry_
        w.dungeon_registry_ p with he | ⟨players, he⟩
      · exact ⟨[], he⟩
      · exact ⟨[.registry (.addDungeon (.ofCfg cfg) players pos_gen)], he⟩
    | _ => exact ⟨[], rfl⟩
  | gameTick ord outcomes =>
    refine ⟨(ord.list w.dungeon_registry_.dungeons_.keys).map
      (fun g => .dungeon g (.processTick (outcomes g))) ++
      ((ord.list w.dungeon_registry_.dungeons_.keys).foldl (tickDungeon cfg outcomes)
        ([], [], w.dungeon_registry_)).2.1.map fun g => .registry (.removeDungeon g), ?_⟩
    have ticks := foldl_tickDungeon_run cfg outcomes
      (ord.list w.dungeon_registry_.dungeons_.keys) ([], [], w.dungeon_registry_)
    rw [run_append, ← ticks, ← foldl_removeDungeon_run]
    rfl
  | moveRequest p direction =>
    exact exists_calls_commandDungeon _ p (.addMovePlayerCommand p direction)
  | attackRequest p =>
    exact exists_calls_commandDungeon _ p (.addPlayerAttackCommand p cfg.player_default_attack)

/-- The registry of the server is always one that calls lead to. -/
lemma exists_calls (cfg : Gameplay) (inputs : List Games.Input) :
    ∃ calls, (run (Games.step cfg) Lobbies.init inputs).dungeon_registry_ =
      run (step cfg) .empty calls := by
  refine run_inv (I := fun w : Lobbies => ∃ calls, w.dungeon_registry_ =
    run (step cfg) .empty calls) (fun w i h => ?_) ⟨[], rfl⟩ inputs
  obtain ⟨calls, hc⟩ := h
  obtain ⟨more, hm⟩ := exists_calls_step cfg w i
  exact ⟨calls ++ more, by rw [hm, hc, run_append]⟩

/-! ### Every dungeon is dealt with -/

/-- **A tick deals with every dungeon.** In every state that additions, removals, commands and
ticks lead to, whatever is drawn and in whatever order the dungeons are visited, a tick leaves
registered exactly the dungeons in which a player is alive at its end. Of each of these the
state is posted once; each player of the others is told once that the game is over, and those
recorded for them are free again. Nothing changes for anybody else. -/
theorem tick_deals_with_all (cfg : Gameplay) (calls : List Call) (ord : IterOrder GameId)
    (outcomes : GameId → TickOutcomes) :
    let r := run (step cfg) .empty calls
    Ticked cfg outcomes r (onGameTickEvent cfg ord outcomes r) :=
  (housed_run cfg calls).onGameTickEvent cfg ord outcomes

/-- One hit kills a player. -/
def oneHit : Gameplay := { Gameplay.default with player_default_hp := 5, monsters_per_player := 1 }

/-- Two games, each of one player with a monster beside. -/
def twoGames : List Call :=
  let map : GameMap := ⟨⟨⟨0, 0⟩, ⟨3, 3⟩⟩, ∅⟩
  let pos_gen : PositionGenerator := ⟨fun n => if n = 0 then ⟨0, 0⟩ else ⟨1, 0⟩, 0⟩
  [.registry (.addDungeon map [⟨1⟩] pos_gen), .registry (.addDungeon map [⟨2⟩] pos_gen)]

/-- The monster of the first game attacks. -/
def firstAttacks (g : GameId) : TickOutcomes where
  moveCount := 0
  attackCount := if g = ⟨1⟩ then 1 else 0
  moves _ := (0, .kUp)
  attacks _ := 0
  playerOrder := byNumber
  monsterOrder := byNumber
  barrierOrder := byColumn

/-- The first game ends with the tick, and the second one goes on. -/
theorem tick_deals_with_all_two :
    let r := run (step oneHit) .empty twoGames
    let result := onGameTickEvent oneHit byNumber firstAttacks r
    Ticked oneHit firstAttacks r result ∧
      result.1.count (.gameOver ⟨1⟩) = 1 ∧ .gameOver ⟨2⟩ ∉ result.1 ∧
      result.2.findDungeon ⟨1⟩ = none ∧ (result.2.findDungeon ⟨2⟩).isSome ∧
      result.2.findPlayerDungeon ⟨1⟩ = none ∧ result.2.findPlayerDungeon ⟨2⟩ = some ⟨2⟩ := by
  intro r result
  have h : Ticked oneHit firstAttacks r result :=
    tick_deals_with_all oneHit twoGames byNumber firstAttacks
  refine ⟨h, ?_, ?_, ?_, ?_, ?_, ?_⟩
  · decide +kernel
  · decide +kernel
  · decide +kernel
  · decide +kernel
  · decide +kernel
  · decide +kernel

end GameManager

end DungeonCrawler
