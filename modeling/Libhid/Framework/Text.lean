import Mathlib.Data.List.Basic
import Mathlib.Tactic.Common

/-!
# Lines and words

A text is a list of characters.  `lines` cuts it at its newlines, as a file is read, and `words` at
its separators, without the empty pieces.  A text written as lines is read as these lines
(`lines_flatMap`), and words written with a separator behind each are read as these words
(`words_flatMap`).
-/

namespace Framework

section Words

variable {α : Type*} {sep : α → Bool} {x : α} {xs ys w : List α} {ws : List (List α)}

/-- The pieces between the separators, without the empty ones. -/
def words (sep : α → Bool) (text : List α) : List (List α) :=
  (text.splitOnP sep).filter fun w => !w.isEmpty

@[simp] lemma words_nil (sep : α → Bool) : words sep [] = [] := by
  simp [words]

lemma words_append_cons (hx : sep x = true) (xs ys : List α) :
    words sep (xs ++ x :: ys) = words sep xs ++ words sep ys := by
  rw [words, List.splitOnP_append_cons xs ys hx, List.filter_append]
  rfl

/-- A text without separators is one word. -/
lemma words_word (hne : w ≠ []) (hw : ∀ a ∈ w, sep a = false) : words sep w = [w] := by
  have hsplit : w.splitOnP sep = [w] := List.splitOnP_eq_singleton hw
  simp [words, hsplit, hne]

/-- A separator in front of a text is no matter. -/
lemma words_cons (hx : sep x = true) (xs : List α) : words sep (x :: xs) = words sep xs := by
  have h := words_append_cons hx [] xs
  rwa [words_nil, List.nil_append] at h

/-- **Words written with a separator behind each are read as these words.** -/
theorem words_flatMap (hx : sep x = true) (hws : ∀ w ∈ ws, w ≠ [] ∧ ∀ a ∈ w, sep a = false) :
    words sep (ws.flatMap (· ++ [x])) = ws := by
  induction ws with
  | nil => exact words_nil sep
  | cons w ws ih =>
      obtain ⟨⟨hne, hw⟩, hrest⟩ := List.forall_mem_cons.mp hws
      rw [List.flatMap_cons, List.append_assoc, List.singleton_append, words_append_cons hx,
        words_word hne hw, ih hrest]
      rfl

end Words

section Lines

variable {α : Type*} [DecidableEq α] {nl : α} {ls : List (List α)}

/-- The lines of a file, without their newlines; there is no line behind the last newline. -/
def lines (nl : α) (text : List α) : List (List α) :=
  let pieces := text.splitOn nl
  if pieces.getLast? = some [] then pieces.dropLast else pieces

/-- **A text written as lines is read as these lines.** -/
theorem lines_flatMap (hls : ∀ l ∈ ls, nl ∉ l) : lines nl (ls.flatMap (· ++ [nl])) = ls := by
  have hsplit : (ls.flatMap (· ++ [nl])).splitOn nl = ls ++ [[]] := by
    induction ls with
    | nil => simp
    | cons l ls ih =>
        obtain ⟨hl, hrest⟩ := List.forall_mem_cons.mp hls
        rw [List.flatMap_cons, List.append_assoc, List.singleton_append,
          List.splitOn_append_cons_self_of_not_mem hl, ih hrest]
        rfl
  simp [lines, hsplit]

end Lines

end Framework
