import ForbiddenHosts.Text.Pieces

/-!
# Lines by their separators

Cutting a text by `pieces` is the library's `List.splitOn`.  So the items of a list of lines are
what `trimmedLines` says outright: the parts between line feeds, each trimmed, without those that
are blank.
-/
namespace ForbiddenHosts.Text

theorem pieces_cons_of_ne {separator c : Char} (h : c ≠ separator) (text : List Char) :
    pieces separator (c :: text) = (pieces separator text).modifyHead (c :: ·) := by
  have hne := pieces_ne_nil separator text
  rw [pieces, List.foldr_cons, ← pieces, if_neg h]
  cases hpieces : pieces separator text with
  | nil => exact absurd hpieces hne
  | cons piece others => rfl

theorem pieces_eq_splitOn (separator : Char) (text : List Char) :
    pieces separator text = text.splitOn separator := by
  induction text with
  | nil => rfl
  | cons c text ih =>
    rw [List.splitOn_cons_eq_if_modifyHead]
    by_cases h : c = separator
    · rw [if_pos (by simpa using h), h, pieces_separator, ih]
    · rw [if_neg (by simpa using h), pieces_cons_of_ne h, ih]

/-- The lines of a text, trimmed, without the blank ones. -/
def trimmedLines (text : List Char) : List String :=
  (((text.splitOn '\n').map trim).filter fun line => line ≠ []).map String.ofList

theorem lines_eq (text : String) : lines text = trimmedLines text.toList := by
  rw [lines, items, pieces_eq_splitOn, trimmedLines]
  refine congrArg (List.map String.ofList) (List.filter_congr ?_)
  intro line _
  cases line <;> rfl

end ForbiddenHosts.Text
