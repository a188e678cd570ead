/-
Module: LeadAssistant.Library.Lines
Layer: Library
Purpose: The lines of a text, cut at every newline. Texts joined with one newline have their lines
  one after another, and texts joined with an empty line have one more between them.
Trusted boundary: none
Main exports: Lines.lines, Lines.lines_injective, Lines.lines_newline, Lines.lines_gap
-/
import Mathlib.Data.List.Basic

namespace Lines

/-- The lines of a text, as lists of characters. -/
def lines (text : String) : List (List Char) :=
  text.toList.splitOn '\n'

/-- A text is known by its lines. -/
theorem lines_injective {text other : String} (same : lines text = lines other) :
    text = other := by
  apply String.toList_inj.mp
  calc text.toList = ['\n'].intercalate (lines text) := (List.intercalate_splitOn '\n').symm
    _ = ['\n'].intercalate (lines other) := by rw [same]
    _ = other.toList := List.intercalate_splitOn '\n'

theorem lines_newline (text other : String) :
    lines (text ++ "\n" ++ other) = lines text ++ lines other := by
  unfold lines
  have spelled : (text ++ "\n" ++ other).toList = text.toList ++ '\n' :: other.toList := by
    simp [String.toList_append]
  rw [spelled]
  exact List.splitOn_append_cons_self text.toList other.toList

theorem lines_gap (text other : String) :
    lines (text ++ "\n\n" ++ other) = lines text ++ [] :: lines other := by
  have twice : text ++ "\n\n" ++ other = text ++ "\n" ++ ("" ++ "\n" ++ other) := by
    rw [show "\n\n" = "\n" ++ ("" ++ "\n") from rfl]
    simp only [String.append_assoc]
  rw [twice, lines_newline, lines_newline]
  rfl

/-- A text without a newline is its own line. -/
theorem lines_of_notMem {text : String} (whole : '\n' ∉ text.toList) :
    lines text = [text.toList] :=
  List.splitOn_eq_singleton whole

end Lines
