import ForbiddenHosts.Text.Blank

/-!
# Separated texts

A **separated text** is cut at every occurrence of one separator character (`pieces`); there is
always one piece more than there are separators.  Its **items** are the pieces that are not blank,
each trimmed.

Two formats are separated texts.  In a list of lines the separator is the line feed: a carriage
return before it is a blank at the end of the line and falls to trimming, and no other character
ends a line.  In a comma list the separator is the comma.
-/
namespace ForbiddenHosts.Text

/-- Cuts a text at every separator; the separators belong to no piece. -/
def pieces (separator : Char) (text : List Char) : List (List Char) :=
  text.foldr
    (fun c done =>
      if c = separator then [] :: done
      else match done with
        | [] => [[c]]
        | piece :: others => (c :: piece) :: others)
    [[]]

@[simp] theorem pieces_nil (separator : Char) : pieces separator [] = [[]] := rfl

@[simp] theorem pieces_separator (separator : Char) (text : List Char) :
    pieces separator (separator :: text) = [] :: pieces separator text := by
  simp [pieces]

theorem pieces_ne_nil (separator : Char) (text : List Char) : pieces separator text ≠ [] := by
  cases text with
  | nil => simp
  | cons c text =>
    by_cases h : c = separator
    · simp [h]
    · simp only [pieces, List.foldr_cons, h, ↓reduceIte]
      split <;> simp

/-- The trimmed pieces of a separated text that are not blank. -/
def items (separator : Char) (text : List Char) : List (List Char) :=
  ((pieces separator text).map trim).filter (fun item => !item.isEmpty)

/-- The items of a list of lines. -/
def lines (text : String) : List String :=
  (items '\n' text.toList).map String.ofList

/-- The items of a comma list. -/
def commaList (text : String) : List String :=
  (items ',' text.toList).map String.ofList

/-- The first line of a text, without the line break that ends it: a line feed, with the carriage
return before it if there is one. -/
def firstLine (text : String) : String :=
  match (pieces '\n' text.toList) with
  | line :: _ :: _ =>
    String.ofList (if line.getLast? = some '\r' then line.dropLast else line)
  | _ => text

/-- The texts between the line feeds of a text. -/
def allLines (text : String) : List String :=
  (pieces '\n' text.toList).map String.ofList

/-- The texts between the commas, with nothing trimmed and nothing dropped. -/
def commaPieces (text : String) : List String :=
  (pieces ',' text.toList).map String.ofList

end ForbiddenHosts.Text
