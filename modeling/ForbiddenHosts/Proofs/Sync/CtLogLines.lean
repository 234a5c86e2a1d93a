import ForbiddenHosts.Proofs.Hostname.Equality
import ForbiddenHosts.Proofs.Sync.Sources
import ForbiddenHosts.Proofs.Sync.Stage
import ForbiddenHosts.Proofs.Text.Items
import ForbiddenHosts.Proofs.Text.LossyLines

/-!
# The CT log list, line by line

The body of a CT log list is decoded as a whole, and a download may be damaged anywhere.  `Linewise`
says that damage stays on its line: what is read from two parts with a line feed between them is
what is read from either part by itself, merged, so a list is read as if each of its lines were
decoded alone (`lineHostname?`).  And nothing is refused: a body that arrives whole under a status
of success is a list, whatever bytes it holds.

This holds of every body (`linewise`).
-/
namespace ForbiddenHosts.CtLog

open Http

/-- The hostname of a line of bytes; a line of blanks has none. -/
def lineHostname? (line : Bytes) : Option String :=
  let trimmed := Text.trim (Utf8.decode line)
  if trimmed = [] then none else some (String.ofList trimmed)

/-! ### Decoded lines -/

theorem trimmedLines_decode_lineFeed (front back : Bytes) :
    Text.trimmedLines (Utf8.decode (front ++ 0x0A :: back)) =
      Text.trimmedLines (Utf8.decode front) ++ Text.trimmedLines (Utf8.decode back) := by
  rw [Utf8.decode_lineFeed, Text.trimmedLines_lineFeed]

theorem trimmedLines_decode_line {line : Bytes} (h : 0x0A ∉ line) :
    Text.trimmedLines (Utf8.decode line) = (lineHostname? line).toList := by
  rw [Text.trimmedLines_of_not_mem (Utf8.lineFeed_not_mem_decode h), lineHostname?]
  by_cases htrim : Text.trim (Utf8.decode line) = []
  · simp [htrim]
  · simp [htrim]

/-- **The lines of decoded bytes are the lines of the bytes, each decoded alone.** -/
theorem trimmedLines_decode_lines {lines : List Bytes} (h : ∀ line ∈ lines, 0x0A ∉ line) :
    Text.trimmedLines (Utf8.decode ([0x0A].intercalate lines)) =
      lines.filterMap lineHostname? := by
  induction lines with
  | nil => rfl
  | cons line lines ih =>
    have hline := trimmedLines_decode_line (h line List.mem_cons_self)
    have hothers := ih fun l hl => h l (List.mem_cons_of_mem _ hl)
    cases lines with
    | nil =>
      have hjoined : [0x0A].intercalate [line] = line := by simp [List.intercalate]
      rw [hjoined, hline]
      cases hhostname : lineHostname? line <;> simp [hhostname]
    | cons next lines =>
      have hjoined : [0x0A].intercalate (line :: next :: lines) =
          line ++ 0x0A :: [0x0A].intercalate (next :: lines) := by
        simp [List.intercalate]
      rw [hjoined, trimmedLines_decode_lineFeed, hline, hothers,
        List.filterMap_cons (l := next :: lines)]
      cases lineHostname? line <;> rfl

/-! ### Lists -/

theorem hostnames_hostnamesOf_lineFeed (front back : Bytes) :
    (hostnamesOf (front ++ 0x0A :: back)).hostnames =
      ((hostnamesOf front).merge (hostnamesOf back).hostnames).2.hostnames := by
  rw [(Sync.coherent_hostnamesOf front).hostnames_merge, Sync.hostnames_hostnamesOf,
    Sync.hostnames_hostnamesOf, Sync.hostnames_hostnamesOf,
    FirstPlaces.eraseDups_append_eraseDups, FirstPlaces.eraseDups_eraseDups_append,
    Sync.ctLogHostnames, trimmedLines_decode_lineFeed]
  rfl

/-- **A list is read line by line**: from two parts with a line feed between them, and from any
lines. -/
structure Linewise (front back : Bytes) (lines : List Bytes) : Prop where
  /-- What is read from two parts is the list of the first with that of the second merged into
  it. -/
  parts : (hostnamesOf (front ++ 0x0A :: back) ==
    ((hostnamesOf front).merge (hostnamesOf back).hostnames).2) = true
  /-- So the hostnames are those of the one list and then those that are new in the other. -/
  hostnames_parts : (hostnamesOf (front ++ 0x0A :: back)).hostnames =
    ((hostnamesOf front).hostnames ++ (hostnamesOf back).hostnames).eraseDups
  /-- What is read from lines are the hostnames of the lines, each decoded alone, at their first
  places. -/
  hostnames_lines : (hostnamesOf ([0x0A].intercalate lines)).hostnames =
    (lines.filterMap lineHostname?).eraseDups
  /-- Who fetches a list has what is read from its body, and no body that arrives whole under a
  status of success is refused. -/
  fetched : ∀ (σ : Type) (network : Network σ) (before : σ) (address : String) (request : Request)
    (body : Bytes) (after : σ),
    StageYields network before address "*/*" request body after →
      ((fetch address).over network before).result = .ok (hostnamesOf body)

/-- **Damage stays on its line.** -/
theorem linewise (front back : Bytes) (lines : List Bytes) (h : ∀ line ∈ lines, 0x0A ∉ line) :
    Linewise front back lines where
  parts := by
    have hmerged := (Sync.coherent_hostnamesOf front).merge (hostnamesOf back).hostnames
    refine ((Sync.coherent_hostnamesOf _).beq_iff hmerged).mpr ?_
    exact hostnames_hostnamesOf_lineFeed front back
  hostnames_parts := by
    rw [hostnames_hostnamesOf_lineFeed, (Sync.coherent_hostnamesOf front).hostnames_merge]
  hostnames_lines := by
    rw [Sync.hostnames_hostnamesOf, Sync.ctLogHostnames, trimmedLines_decode_lines h]
  fetched _ _ _ _ _ _ _ yields := (settles_fetch_of_yields yields).result_eq

/-! ### A damaged list -/

/-- A line whose last character is cut off, a line that starts with what was cut off, a line with a
carriage return behind an ill-formed byte, a blank line, and the first line again. -/
def damagedLines : List Bytes :=
  [[0x61, 0xE2, 0x82], [0xAC, 0x62], [0x63, 0xFF, 0x0D], [0x20], [0x61, 0xE2, 0x82]]

/-- Of lines that are damaged at either end, none loses its neighbour. -/
theorem linewise_damagedLines :
    (∀ line ∈ damagedLines, 0x0A ∉ line) ∧
      Linewise [0x61, 0xE2] [0x82, 0x62] damagedLines ∧
        (hostnamesOf ([0x61, 0xE2] ++ 0x0A :: [0x82, 0x62])).hostnames = ["a\uFFFD", "\uFFFDb"] ∧
          (hostnamesOf ([0x0A].intercalate damagedLines)).hostnames =
            ["a\uFFFD", "\uFFFDb", "c\uFFFD"] := by
  have hno : ∀ line ∈ damagedLines, 0x0A ∉ line := by decide
  have h := linewise [0x61, 0xE2] [0x82, 0x62] damagedLines hno
  have hfirst : (hostnamesOf [0x61, 0xE2]).hostnames = ["a\uFFFD"] := by
    rw [Sync.hostnames_hostnamesOf]
    decide
  have hsecond : (hostnamesOf [0x82, 0x62]).hostnames = ["\uFFFDb"] := by
    rw [Sync.hostnames_hostnamesOf]
    decide
  refine ⟨hno, h, ?_, ?_⟩
  · rw [h.hostnames_parts, hfirst, hsecond]
    decide
  · rw [h.hostnames_lines]
    decide

end ForbiddenHosts.CtLog
