import ForbiddenHosts.Proofs.Hostname.Merge
import ForbiddenHosts.Proofs.Text.Items

/-!
# The format of a list of lines

A list of hostnames is written one hostname on a line.  `Writes` is that format, said without the
reader: on a line a hostname may have blanks on either side; a line may hold nothing but blanks, or
a hostname that an earlier line carries already; and a line ends in a line feed, with a carriage
return before it or without, except the last one, which need not end at all.

`readsLines_ofLines` is the main statement: reading yields nothing but hostnames that a line can
carry, a text that writes hostnames is read as these, each at its first place, and there is no text
that does not write what is read from it.  So a line is cut nowhere inside, whatever characters
stand there, and how lines are ended makes no difference.
-/
namespace ForbiddenHosts.Text

/-! ### Lines -/

/-- What ends a line. -/
inductive LineEnd where
  | lineFeed
  | carriageReturnLineFeed
  deriving DecidableEq, Repr

/-- The characters that end a line. -/
def LineEnd.text : LineEnd → List Char
  | lineFeed => ['\n']
  | carriageReturnLineFeed => ['\r', '\n']

/-- Blanks that stand on one line. -/
structure Padding (text : List Char) : Prop where
  blank : Blank text
  no_lineFeed : '\n' ∉ text

/-- A line carries a hostname, with blanks on either side or without. -/
structure Carries (line : List Char) (hostname : String) : Prop where
  isItem : IsItem '\n' hostname.toList
  padded : ∃ before after, Padding before ∧ Padding after ∧
    line = before ++ hostname.toList ++ after

/-- What a line adds to the hostnames of earlier lines. -/
inductive Adds (earlier : List String) : List Char → List String → Prop where
  /-- A blank line adds nothing. -/
  | blank {line : List Char} (blank : Padding line) : Adds earlier line []
  /-- A line adds the hostname that it carries. -/
  | hostname {line : List Char} {hostname : String} (carries : Carries line hostname) :
      Adds earlier line [hostname]
  /-- A line that carries a hostname of an earlier line adds nothing. -/
  | repeated {line : List Char} {hostname : String} (carries : Carries line hostname)
      (known : hostname ∈ earlier) : Adds earlier line []

/-- A text writes hostnames, one on a line, after the hostnames of earlier lines. -/
inductive Writes : List String → List String → List Char → Prop where
  /-- The last line does not end. -/
  | last {earlier added : List String} {line : List Char} (adds : Adds earlier line added) :
      Writes earlier added line
  /-- A line ends, and others follow. -/
  | line {earlier added hostnames : List String} {line rest : List Char}
      (adds : Adds earlier line added) (ending : LineEnd)
      (others : Writes (earlier ++ added) hostnames rest) :
      Writes earlier (added ++ hostnames) (line ++ ending.text ++ rest)

/-- Lines with the ends that they have, and what stands behind the last of these ends. -/
def ended (lines : List (List Char × LineEnd)) (last : List Char) : List Char :=
  lines.flatMap (fun line => line.1 ++ line.2.text) ++ last

/-! ### Reading what is written -/

variable {earlier added hostnames : List String} {line text : List Char} {hostname : String}

/-- A carriage return at the end of a line is one blank more. -/
theorem trimmedLines_carriageReturn (h : '\n' ∉ line) :
    trimmedLines (line ++ ['\r']) = trimmedLines line := by
  have hblank : Blank ['\r'] := by
    intro c hc
    rw [List.mem_singleton.mp hc]
    decide
  have hno : '\n' ∉ line ++ ['\r'] := by simp [h]
  rw [trimmedLines_of_not_mem hno, trimmedLines_of_not_mem h, trim_append_blank hblank]

/-- **How a line ends makes no difference.** -/
theorem trimmedLines_ended (h : '\n' ∉ line) (ending : LineEnd) (rest : List Char) :
    trimmedLines (line ++ ending.text ++ rest) = trimmedLines line ++ trimmedLines rest := by
  cases ending with
  | lineFeed =>
    have hsplit : line ++ LineEnd.lineFeed.text ++ rest = line ++ '\n' :: rest := by
      simp [LineEnd.text]
    rw [hsplit, trimmedLines_lineFeed]
  | carriageReturnLineFeed =>
    have hsplit : line ++ LineEnd.carriageReturnLineFeed.text ++ rest =
        (line ++ ['\r']) ++ '\n' :: rest := by
      simp [LineEnd.text]
    rw [hsplit, trimmedLines_lineFeed, trimmedLines_carriageReturn h]

theorem Carries.no_lineFeed (h : Carries line hostname) : '\n' ∉ line := by
  obtain ⟨before, after, hbefore, hafter, rfl⟩ := h.padded
  simp [hbefore.no_lineFeed, hafter.no_lineFeed, h.isItem.no_separator]

theorem Carries.trimmedLines_eq (h : Carries line hostname) : trimmedLines line = [hostname] := by
  obtain ⟨before, after, hbefore, hafter, rfl⟩ := h.padded
  rw [trimmedLines_eq_items, items_padded hbefore.blank hbefore.no_lineFeed hafter.blank
    hafter.no_lineFeed h.isItem, List.map_singleton, String.ofList_toList]

theorem Adds.no_lineFeed (h : Adds earlier line added) : '\n' ∉ line := by
  cases h with
  | blank blank => exact blank.no_lineFeed
  | hostname carries => exact carries.no_lineFeed
  | repeated carries _ => exact carries.no_lineFeed

/-- What is read from a line behind earlier ones is what the line adds. -/
theorem Adds.eraseDups_eq (h : Adds earlier line added) :
    (earlier ++ trimmedLines line).eraseDups = (earlier ++ added).eraseDups := by
  cases h with
  | blank blank =>
    rw [trimmedLines_eq_items, items_blank blank.no_lineFeed blank.blank]
    rfl
  | hostname carries => rw [carries.trimmedLines_eq]
  | repeated carries known =>
    rw [carries.trimmedLines_eq, List.append_nil, List.eraseDups_append,
      FirstPlaces.removeAll_eq_nil (by simpa using known), List.eraseDups_nil, List.append_nil]

/-- **A text that writes hostnames is read as these**, behind those of earlier lines. -/
theorem Writes.eraseDups_eq (h : Writes earlier hostnames text) :
    (earlier ++ trimmedLines text).eraseDups = (earlier ++ hostnames).eraseDups := by
  induction h with
  | last adds => exact adds.eraseDups_eq
  | @line earlier added hostnames line rest adds ending others ih =>
    calc (earlier ++ trimmedLines (line ++ ending.text ++ rest)).eraseDups
        = ((earlier ++ trimmedLines line) ++ trimmedLines rest).eraseDups := by
          rw [trimmedLines_ended adds.no_lineFeed, List.append_assoc]
      _ = ((earlier ++ trimmedLines line).eraseDups ++ trimmedLines rest).eraseDups :=
          (FirstPlaces.eraseDups_eraseDups_append _ _).symm
      _ = ((earlier ++ added) ++ trimmedLines rest).eraseDups := by
          rw [adds.eraseDups_eq, FirstPlaces.eraseDups_eraseDups_append]
      _ = (earlier ++ (added ++ hostnames)).eraseDups := by rw [ih, List.append_assoc]

/-! ### Every text writes -/

/-- A line is blank, or it carries a hostname. -/
theorem padding_or_carries (h : '\n' ∉ line) :
    Padding line ∨ ∃ hostname, Carries line hostname := by
  obtain ⟨before, after, hbefore, hafter, hline⟩ := exists_padding line
  by_cases htrim : trim line = []
  · refine Or.inl ⟨?_, h⟩
    rw [hline, htrim, List.append_nil]
    exact hbefore.append hafter
  · -- what stands around the trimmed part is on the line too
    have hbefore' : '\n' ∉ before := fun hc => h (by rw [hline]; simp [hc])
    have hafter' : '\n' ∉ after := fun hc => h (by rw [hline]; simp [hc])
    refine Or.inr ⟨String.ofList (trim line), ?_, before, after, ⟨hbefore, hbefore'⟩,
      ⟨hafter, hafter'⟩, ?_⟩
    · rw [String.toList_ofList]
      exact ⟨htrim, trimmed_trim line, fun hc => h (mem_of_mem_trim hc)⟩
    · rw [String.toList_ofList]
      exact hline

/-- A line adds something that is new, or nothing. -/
theorem exists_adds (h : '\n' ∉ line) (nodup : earlier.Nodup) :
    ∃ added, Adds earlier line added ∧ (earlier ++ added).Nodup := by
  rcases padding_or_carries h with hblank | ⟨hostname, hcarries⟩
  · exact ⟨[], .blank hblank, by rwa [List.append_nil]⟩
  by_cases hknown : hostname ∈ earlier
  · exact ⟨[], .repeated hcarries hknown, by rwa [List.append_nil]⟩
  · refine ⟨[hostname], .hostname hcarries, ?_⟩
    refine List.nodup_append.mpr ⟨nodup, by simp, ?_⟩
    intro a ha b hb hab
    rw [List.mem_singleton] at hb
    exact hknown (hb ▸ hab ▸ ha)

/-- **Every text writes hostnames**, none of them twice. -/
theorem exists_writes (text : List Char) (nodup : earlier.Nodup) :
    ∃ hostnames, Writes earlier hostnames text ∧ (earlier ++ hostnames).Nodup := by
  -- the induction is on the lines of the text
  have hlines : ∀ lines : List (List Char), lines ≠ [] → (∀ line ∈ lines, '\n' ∉ line) →
      ∀ earlier : List String, earlier.Nodup →
        ∃ hostnames, Writes earlier hostnames (['\n'].intercalate lines) ∧
          (earlier ++ hostnames).Nodup := by
    intro lines
    induction lines with
    | nil => exact fun hne => absurd rfl hne
    | cons line others ih =>
      intro _ hno earlier hearlier
      obtain ⟨added, hadds, hnodup⟩ := exists_adds (hno line List.mem_cons_self) hearlier
      cases others with
      | nil => exact ⟨added, by simpa [List.intercalate] using Writes.last hadds, hnodup⟩
      | cons next others =>
        obtain ⟨hostnames, hwrites, hall⟩ := ih (List.cons_ne_nil _ _)
          (fun l hl => hno l (List.mem_cons_of_mem _ hl)) (earlier ++ added) hnodup
        refine ⟨added ++ hostnames, ?_, by rwa [← List.append_assoc]⟩
        have hline := Writes.line hadds .lineFeed hwrites
        simpa [List.intercalate, LineEnd.text] using hline
  have hno : ∀ line ∈ text.splitOn '\n', '\n' ∉ line := fun _ hline => not_mem_of_mem_splitOn hline
  have hsplit : ['\n'].intercalate (text.splitOn '\n') = text := List.intercalate_splitOn '\n'
  rw [← hsplit]
  exact hlines _ (List.splitOn_ne_nil _ _) hno earlier nodup

end ForbiddenHosts.Text

namespace ForbiddenHosts.HostnameList

open Text

theorem hostnames_ofLines (text : String) :
    (ofLines text).hostnames = (trimmedLines text.toList).eraseDups := by
  rw [ofLines, hostnames_ofList, lines_eq]

/-- **A text is read as a list of lines.** -/
structure ReadsLines (text : String) (list : HostnameList) : Prop where
  /-- Each hostname is one that a line can carry: it is not empty, no blank is at its ends, and it
  holds no line feed. -/
  isItem : ∀ hostname ∈ list.hostnames, IsItem '\n' hostname.toList
  /-- Whatever hostnames the text writes, the list has them, each at its first place. -/
  written : ∀ hostnames, Writes [] hostnames text.toList → list.hostnames = hostnames.eraseDups
  /-- The text writes the hostnames of the list. -/
  writes : Writes [] list.hostnames text.toList
  /-- A text that a line can carry is one hostname, whatever characters are inside. -/
  whole : IsItem '\n' text.toList → list.hostnames = [text]
  /-- The same lines with other ends are read alike. -/
  endings : ∀ (lines lines' : List (List Char × LineEnd)) (last : List Char),
    (∀ line ∈ lines, '\n' ∉ line.1) → lines'.map Prod.fst = lines.map Prod.fst →
      text.toList = ended lines last →
        (ofLines (String.ofList (ended lines' last))).hostnames = list.hostnames

theorem isItem_of_mem_trimmedLines {text : List Char} {hostname : String}
    (h : hostname ∈ trimmedLines text) : IsItem '\n' hostname.toList := by
  rw [trimmedLines_eq_items] at h
  obtain ⟨item, hitem, rfl⟩ := List.mem_map.mp h
  rw [String.toList_ofList]
  exact isItem_of_mem_items hitem

theorem trimmedLines_endedLines {lines : List (List Char × LineEnd)} {last : List Char}
    (h : ∀ line ∈ lines, '\n' ∉ line.1) :
    trimmedLines (ended lines last) =
      (lines.map Prod.fst).flatMap trimmedLines ++ trimmedLines last := by
  induction lines with
  | nil => rfl
  | cons line lines ih =>
    have hended : ended (line :: lines) last = line.1 ++ line.2.text ++ ended lines last := by
      simp [ended]
    rw [hended, trimmedLines_ended (h line List.mem_cons_self),
      ih fun l hl => h l (List.mem_cons_of_mem _ hl)]
    simp

/-- **Reading recognises exactly the format of lists of lines.** -/
theorem readsLines_ofLines (text : String) : ReadsLines text (ofLines text) where
  isItem := by
    intro hostname hmem
    rw [hostnames_ofLines, List.mem_eraseDups] at hmem
    exact isItem_of_mem_trimmedLines hmem
  written := by
    intro hostnames hwrites
    rw [hostnames_ofLines]
    exact hwrites.eraseDups_eq
  writes := by
    obtain ⟨hostnames, hwrites, hnodup⟩ := exists_writes text.toList List.nodup_nil
    have hread : (ofLines text).hostnames = hostnames := by
      rw [hostnames_ofLines]
      exact hwrites.eraseDups_eq.trans (FirstPlaces.eraseDups_eq_self hnodup)
    rwa [hread]
  whole := by
    intro hitem
    have hnone : Padding [] := ⟨fun _ hc => absurd hc List.not_mem_nil, List.not_mem_nil⟩
    have hcarries : Carries text.toList text :=
      ⟨hitem, [], [], hnone, hnone, by rw [List.nil_append, List.append_nil]⟩
    rw [hostnames_ofLines, hcarries.trimmedLines_eq]
    rfl
  endings := by
    intro lines lines' last hno hsame htext
    have hno' : ∀ line ∈ lines', '\n' ∉ line.1 := by
      intro line hline
      have hmem : line.1 ∈ lines.map Prod.fst := by
        rw [← hsame]
        exact List.mem_map_of_mem hline
      obtain ⟨line', hline', heq⟩ := List.mem_map.mp hmem
      rw [← heq]
      exact hno line' hline'
    rw [hostnames_ofLines, hostnames_ofLines, String.toList_ofList, htext,
      trimmedLines_endedLines hno, trimmedLines_endedLines hno', hsame]

/-! ### A text of every kind of line -/

/-- A line with a line separator and a next-line character around and inside its hostname, a blank
line, a line with a lone carriage return inside, a repeated hostname, and a last line without an
end. -/
def mixedLines : String :=
  "\u2028a\u0085b \r\n\u3000\nc\rd\r\r\n a\u0085b\n\te"

theorem writes_mixedLines : Writes [] ["a\u0085b", "c\rd", "e"] mixedLines.toList := by
  have hpadding (text : List Char) (hblank : text.all isBlank = true) (hno : '\n' ∉ text) :
      Padding text := ⟨List.all_eq_true.mp hblank, hno⟩
  have hitem (hostname : String) (hne : hostname.toList ≠ [])
      (hhead : hostname.toList.head?.all (fun c => !isBlank c) = true)
      (hlast : hostname.toList.getLast?.all (fun c => !isBlank c) = true)
      (hno : '\n' ∉ hostname.toList) : IsItem '\n' hostname.toList := by
    refine ⟨hne, ⟨fun c hc => ?_, fun c hc => ?_⟩, hno⟩
    · simpa [hc] using hhead
    · simpa [hc] using hlast
  have ha : IsItem '\n' "a\u0085b".toList :=
    hitem _ (by decide) (by decide) (by decide) (by decide)
  have hc : IsItem '\n' "c\rd".toList := hitem _ (by decide) (by decide) (by decide) (by decide)
  have he : IsItem '\n' "e".toList := hitem _ (by decide) (by decide) (by decide) (by decide)
  have hfirst : Carries ['\u2028', 'a', '\u0085', 'b', ' '] "a\u0085b" :=
    ⟨ha, ['\u2028'], [' '], hpadding _ (by decide) (by decide), hpadding _ (by decide) (by decide),
      by decide⟩
  have hthird : Carries ['c', '\r', 'd', '\r'] "c\rd" :=
    ⟨hc, [], ['\r'], hpadding _ (by decide) (by decide), hpadding _ (by decide) (by decide),
      by decide⟩
  have hfourth : Carries [' ', 'a', '\u0085', 'b'] "a\u0085b" :=
    ⟨ha, [' '], [], hpadding _ (by decide) (by decide), hpadding _ (by decide) (by decide),
      by decide⟩
  have hlast : Carries ['\t', 'e'] "e" :=
    ⟨he, ['\t'], [], hpadding _ (by decide) (by decide), hpadding _ (by decide) (by decide),
      by decide⟩
  have hblank : Padding ['\u3000'] := hpadding _ (by decide) (by decide)
  exact .line (.hostname hfirst) .carriageReturnLineFeed
    (.line (.blank hblank) .lineFeed
      (.line (.hostname hthird) .carriageReturnLineFeed
        (.line (.repeated hfourth (by decide)) .lineFeed (.last (.hostname hlast)))))

/-- What the text of mixed lines writes is read from it. -/
theorem readsLines_mixedLines :
    Writes [] ["a\u0085b", "c\rd", "e"] mixedLines.toList ∧
      (ofLines mixedLines).hostnames = ["a\u0085b", "c\rd", "e"] :=
  ⟨writes_mixedLines, (readsLines_ofLines mixedLines).written _ writes_mixedLines⟩

end ForbiddenHosts.HostnameList
