import DungeonCrawler.Domain.Position
import DungeonCrawler.Lib.Runs

/-!
Maps as they are made: corners that are asserted, then barriers that are added and removed.
-/

namespace DungeonCrawler

def MapSize.isCorrect (size : MapSize) : Bool :=
  size.bottom_left_corner_.x < size.top_right_corner_.x ∧
    size.bottom_left_corner_.y < size.top_right_corner_.y

/-- The constructor. A program whose assertion fails does not go on. -/
def MapSize.make (blc trc : Position) : Option MapSize :=
  let size : MapSize := ⟨blc, trc⟩
  if size.isCorrect then some size else none

namespace GameMap

open Runs

def ofSize (map_size : MapSize) : GameMap := ⟨map_size, ∅⟩

def addBarrier (map : GameMap) (position : Position) : Bool × GameMap :=
  if !map.isInMap position then (false, map)
  else if map.isBarrier position then (false, map)
  else (true, { map with barriers_ := insert position map.barriers_ })

def removeBarrier (map : GameMap) (position : Position) : Bool × GameMap :=
  if map.isBarrier position then
    (true, { map with barriers_ := map.barriers_.erase position })
  else (false, map)

inductive Call
  | addBarrier (position : Position)
  | removeBarrier (position : Position)
  deriving DecidableEq

def Call.result (map : GameMap) : Call → Bool × GameMap
  | .addBarrier position => map.addBarrier position
  | .removeBarrier position => map.removeBarrier position

def step (map : GameMap) (call : Call) : GameMap := (call.result map).2

/-- What the answer of a call says about the barriers at a position. -/
def Call.change (pos : Position) (map : GameMap) (call : Call) : ℤ :=
  match call, (call.result map).1 with
  | .addBarrier position, true => if position = pos then 1 else 0
  | .removeBarrier position, true => if position = pos then -1 else 0
  | _, false => 0

/-- How many barriers stand at a position. -/
def standing (pos : Position) (map : GameMap) : ℤ := if map.isBarrier pos then 1 else 0

variable {map : GameMap} {size : MapSize} {pos : Position}

lemma step_map_size (map : GameMap) (call : Call) :
    (step map call).map_size_ = map.map_size_ := by
  cases call <;> simp only [step, Call.result, addBarrier, removeBarrier] <;> split_ifs <;> rfl

/-- A call keeps the barriers in the map. -/
lemma Legal.step (h : map.Legal) (call : Call) : (step map call).Legal := by
  refine ⟨by rw [step_map_size]; exact h.corners, ?_⟩
  rw [step_map_size]
  intro p hp
  cases call with
  | addBarrier position =>
    simp only [GameMap.step, Call.result, addBarrier] at hp
    split_ifs at hp with hin hb
    · exact h.barriers p hp
    · exact h.barriers p hp
    · rcases Finset.mem_insert.mp hp with rfl | hp
      · simpa [isInMap] using hin
      · exact h.barriers p hp
  | removeBarrier position =>
    simp only [GameMap.step, Call.result, removeBarrier] at hp
    split_ifs at hp
    · exact h.barriers p (Finset.mem_of_mem_erase hp)
    · exact h.barriers p hp

/-- The answer of a call tells what it does to the barriers. -/
lemma standing_step (map : GameMap) (call : Call) :
    standing pos (step map call) = standing pos map + call.change pos map := by
  cases call with
  | addBarrier position =>
    simp only [step, Call.result, Call.change, addBarrier]
    split_ifs with hin hb
    · simp
    · simp
    · by_cases hpos : position = pos
      · subst hpos
        simp [standing, isBarrier, show position ∉ map.barriers_ by simpa [isBarrier] using hb]
      · simp [standing, isBarrier, hpos, Ne.symm hpos]
  | removeBarrier position =>
    simp only [step, Call.result, Call.change, removeBarrier]
    split_ifs with hb
    · by_cases hpos : position = pos
      · subst hpos
        simp [standing, isBarrier, show position ∈ map.barriers_ by simpa [isBarrier] using hb]
      · simp [standing, isBarrier, hpos, Ne.symm hpos]
    · simp

/-- Barriers in the map can be added one after the other. -/
lemma exists_calls (size : MapSize) {barriers : Finset Position}
    (h : ∀ pos ∈ barriers, size.isInMap pos) :
    ∃ calls, run step (ofSize size) calls = ⟨size, barriers⟩ := by
  induction barriers using Finset.induction_on with
  | empty => exact ⟨[], rfl⟩
  | insert pos barriers hnew ih =>
    obtain ⟨hpos, hrest⟩ := (Finset.forall_mem_insert ..).mp h
    obtain ⟨calls, hcalls⟩ := ih hrest
    refine ⟨calls ++ [.addBarrier pos], ?_⟩
    rw [run_snoc, hcalls]
    simp [step, Call.result, addBarrier, isInMap, isBarrier, hpos, hnew]

lemma legal_ofSize {blc trc : Position} (h : MapSize.make blc trc = some size) :
    (ofSize size).Legal := by
  unfold MapSize.make at h
  dsimp only at h
  split_ifs at h with hc
  obtain rfl := Option.some.inj h
  exact ⟨by simpa [MapSize.isCorrect, ofSize] using hc, by simp [ofSize]⟩

/-- **The maps that are made.** A map can be made, from corners that pass the assertion and by any
calls, exactly when it is legal. And whatever the calls were, of those that answered true at a
position one more added a barrier than removed one if there is a barrier, and as many otherwise. -/
theorem made_iff_legal :
    (∀ map : GameMap, map.Legal ↔ ∃ blc trc size calls, MapSize.make blc trc = some size ∧
      run step (ofSize size) calls = map) ∧
    ∀ size calls pos, total step (fun map call => call.change pos map) (ofSize size) calls =
      standing pos (run step (ofSize size) calls) := by
  refine ⟨fun map => ⟨fun h => ?_, ?_⟩, fun size calls pos => ?_⟩
  · obtain ⟨calls, hcalls⟩ := exists_calls map.map_size_ h.barriers
    refine ⟨map.map_size_.bottom_left_corner_, map.map_size_.top_right_corner_, map.map_size_,
      calls, ?_, hcalls⟩
    exact if_pos (by simpa [MapSize.isCorrect] using h.corners)
  · rintro ⟨blc, trc, size, calls, hsize, rfl⟩
    exact run_inv (fun _ call h => h.step call) (legal_ofSize hsize) calls
  · rw [account (I := fun _ => True) (standing pos) (fun map call => call.change pos map)
      (fun _ _ h => h) (fun map call _ => standing_step map call) trivial calls]
    exact (zero_add _).symm

end GameMap

end DungeonCrawler
