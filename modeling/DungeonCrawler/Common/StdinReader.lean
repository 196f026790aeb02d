import DungeonCrawler.Common.Types
import DungeonCrawler.Lib.Runs
import DungeonCrawler.Lib.StreamDecoder

/-!
The reader of the console.

Characters come in pieces, as the descriptor has them. When a line end is in the buffer the
handler takes the line off its front, hands it to the callback and reads on; the descriptor
is read only while no line end is there. The end of the input, or a cancelled read, ends the
reading: what is in the buffer then is no line.
-/

namespace DungeonCrawler

namespace StdinReader

open Runs StreamDecoder

/-- A reader and what was seen of it: whether a read failed, the characters that came in, and
the lines that the callback was given. -/
structure Reading where
  buffer_ : Text
  stopped : Bool
  typed : Text
  called : List Text
  deriving DecidableEq

def Reading.init : Reading := ⟨[], false, [], []⟩

/-- The number of characters up to the first line end, which is one of them. -/
def readUntil (buffer : Text) : Option ℕ := (buffer.idxOf? '\n').map (· + 1)

def trimEnd (line : Text) : Text :=
  let line := if line.getLast? = some '\n' then line.dropLast else line
  if line.getLast? = some '\r' then line.dropLast else line

/-- The handler of a read that succeeded. -/
def onRead (t : Reading) (length : ℕ) : Reading :=
  let line := t.buffer_.take length
  { t with buffer_ := t.buffer_.drop length, called := t.called ++ [trimEnd line] }

inductive Step
  /-- The descriptor has some characters. -/
  | data (piece : Text)
  /-- The handler runs for a line that is there. -/
  | completed
  /-- The input ends, or the read is cancelled. -/
  | failed

def step (t : Reading) (e : Step) : Reading :=
  if t.stopped then t
  else
    match e, readUntil t.buffer_ with
    | .data piece, none => { t with buffer_ := t.buffer_ ++ piece, typed := t.typed ++ piece }
    | .completed, some length => onRead t length
    | .failed, none => { t with stopped := true }
    | _, _ => t

/-- A line without the return before its end, if there is one. -/
def dropReturn (line : Text) : Text :=
  if line.getLast? = some '\r' then line.dropLast else line

/-- The lines of a text. What comes after the last line end is none. -/
def lines (text : Text) : List Text := (text.splitOn '\n').dropLast.map dropReturn

/-! ### Taking a line off -/

variable {text line rest : Text} {n : ℕ}

lemma readUntil_eq_none : readUntil text = none ↔ '\n' ∉ text := by
  rw [readUntil, Option.map_eq_none_iff, List.idxOf?_eq_none_iff]

/-- What is read is a line with its end. -/
lemma readUntil_eq_some (h : readUntil text = some n) :
    ∃ line, '\n' ∉ line ∧ n = line.length + 1 ∧ text = line ++ '\n' :: text.drop n := by
  obtain ⟨i, hi, rfl⟩ := Option.map_eq_some_iff.mp h
  obtain ⟨hlt, hget, hbefore⟩ := List.idxOf?_eq_some_iff.mp hi
  refine ⟨text.take i, fun hmem => ?_, by simp; omega, ?_⟩
  · obtain ⟨j, hj, hnewline⟩ := List.getElem_of_mem hmem
    rw [List.getElem_take] at hnewline
    exact hbefore j (by simp at hj; omega) hnewline
  · conv_lhs => rw [← List.take_append_drop i text, List.drop_eq_getElem_cons hlt, hget]

lemma readUntil_line (h : '\n' ∉ line) (rest : Text) :
    readUntil (line ++ '\n' :: rest) = some (line.length + 1) := by
  rw [readUntil, Option.map_eq_some_iff]
  refine ⟨line.length, List.idxOf?_eq_some_iff.mpr ⟨by simp, by simp, fun j hj hget => h ?_⟩, rfl⟩
  rw [List.getElem_append_left hj] at hget
  exact hget ▸ List.getElem_mem hj

lemma trimEnd_line (line : Text) : trimEnd (line ++ ['\n']) = dropReturn line := by
  simp [trimEnd, dropReturn]

/-- The reader's turn: it waits for a line end, or takes the line up to it. -/
def look (text : Text) : Verdict Text :=
  match readUntil text with
  | none => .wait
  | some n => .emit (trimEnd (text.take n)) n

lemma look_eq_emit (h : look text = .emit line n) :
    readUntil text = some n ∧ line = trimEnd (text.take n) := by
  unfold look at h
  split at h
  · cases h
  · rename_i hn
    obtain ⟨rfl, rfl⟩ := Verdict.emit.inj h
    exact ⟨hn, rfl⟩

lemma look_ne_skip : look text ≠ .skip := by
  unfold look
  split <;> exact fun h => nomatch h

/-- The scanner of lines. -/
def scanner : Scanner Char Text where
  look := look
  skip_ne_nil h := absurd h look_ne_skip
  emit_pos h := by
    obtain ⟨line, -, rfl, -⟩ := readUntil_eq_some (look_eq_emit h).1
    exact Nat.succ_pos _
  emit_le {xs b n} h := by
    obtain ⟨line, -, rfl, htext⟩ := readUntil_eq_some (look_eq_emit h).1
    rw [htext]
    simp
  stable {xs} h ys := by
    cases hn : readUntil xs with
    | none => exact absurd (by rw [look, hn]) h
    | some n =>
      obtain ⟨line, hline, rfl, htext⟩ := readUntil_eq_some hn
      have happ : readUntil (xs ++ ys) = some (line.length + 1) := by
        rw [htext, List.append_assoc]
        exact readUntil_line hline _
      have hle : line.length + 1 ≤ xs.length := by
        rw [htext]
        simp
      simp only [look, hn, happ, List.take_append_of_le_length hle]

lemma lines_of_not_mem (h : '\n' ∉ text) : lines text = [] := by
  rw [lines, List.splitOn_eq_singleton h]
  rfl

lemma lines_line (h : '\n' ∉ line) (rest : Text) :
    lines (line ++ '\n' :: rest) = dropReturn line :: lines rest := by
  rw [lines, List.splitOn_append_cons_self_of_not_mem h,
    List.dropLast_cons_of_ne_nil (List.splitOn_ne_nil _ _)]
  rfl

/-- The scanner finds the lines. -/
lemma decode_eq_lines (text : Text) : (decode scanner text).1 = lines text := by
  induction text using decode_induction (S := scanner) with
  | wait text h =>
    have hnone : readUntil text = none := by
      cases hn : readUntil text with
      | none => rfl
      | some n => simp [scanner, look, hn] at h
    rw [decode_wait h, lines_of_not_mem (readUntil_eq_none.mp hnone)]
  | skip text h =>
    change look text = .skip at h
    exact absurd h look_ne_skip
  | emit text line n h ih =>
    obtain ⟨hn, rfl⟩ := look_eq_emit h
    obtain ⟨line, hline, rfl, htext⟩ := readUntil_eq_some hn
    rw [decode_emit_fst h, ih]
    conv_rhs => rw [htext, lines_line hline]
    congr 1
    rw [← trimEnd_line]
    congr 1
    conv_lhs => rw [htext]
    simp [List.take_append]

/-! ### Reading -/

/-- The reader is on its way through what came in. -/
lemma reads_step (t : Reading) (e : Step) (h : Reads scanner t.typed t.called t.buffer_) :
    Reads scanner (step t e).typed (step t e).called (step t e).buffer_ := by
  unfold step
  split_ifs
  · exact h
  · split
    · exact h.append _
    · rename_i length hlength
      have hlook : scanner.look t.buffer_ = .emit (trimEnd (t.buffer_.take length)) length := by
        simp [scanner, look, hlength]
      exact h.trans (.emit hlook (.here _))
    · exact h
    · exact h

/-- A failed read leaves no line behind. -/
lemma stopped_step (t : Reading) (e : Step) (h : t.stopped → '\n' ∉ t.buffer_) :
    (step t e).stopped → '\n' ∉ (step t e).buffer_ := by
  unfold step
  split_ifs with hs
  · exact h
  · split
    · exact fun hstop => absurd hstop hs
    · exact fun hstop => absurd hstop hs
    · rename_i hnone
      exact fun _ => readUntil_eq_none.mp hnone
    · exact h

/-- **The callback is given the lines.** In whatever pieces the characters came in, the lines
given to the callback, and those in the buffer, are the lines of what was typed; when the
input has ended the callback was given them all, and what came after the last line end was
given to nobody. -/
theorem called_lines (steps : List Step) :
    let t := run step .init steps
    lines t.typed = t.called ++ lines t.buffer_ ∧ t.buffer_ <:+ t.typed ∧
      ('\n' ∉ t.buffer_ → t.called = lines t.typed) ∧ (t.stopped → t.called = lines t.typed) := by
  intro t
  have hreads : Reads scanner t.typed t.called t.buffer_ :=
    run_inv (I := fun t : Reading => Reads scanner t.typed t.called t.buffer_) reads_step
      (.here _) steps
  have hstopped : t.stopped → '\n' ∉ t.buffer_ :=
    run_inv (I := fun t : Reading => t.stopped → '\n' ∉ t.buffer_) stopped_step (by decide) steps
  have hlines : lines t.typed = t.called ++ lines t.buffer_ := by
    rw [← decode_eq_lines, hreads.decode_eq, ← decode_eq_lines]
  have hall (h : '\n' ∉ t.buffer_) : t.called = lines t.typed := by
    rw [hlines, lines_of_not_mem h, List.append_nil]
  exact ⟨hlines, hreads.suffix, hall, fun h => hall (hstopped h)⟩

end StdinReader

end DungeonCrawler
