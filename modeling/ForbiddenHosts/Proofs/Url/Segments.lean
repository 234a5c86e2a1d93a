import ForbiddenHosts.Proofs.Text.Items
import ForbiddenHosts.Proofs.Url.Encoding

/-!
# Segments of a path

Reading a path leaves segments that are encoded, hold no slash of either kind and are no dot
segments, and it leaves at least one of them.  The text of such segments is read back as these
segments; the only text that comes back as another path is the empty one, which is read as one empty
segment.
-/
namespace ForbiddenHosts.Url

open Text

variable {text : List Char} {segments : List (List Char)}

/-- A segment as reading leaves it. -/
structure Segment (text : List Char) : Prop where
  encoded : Encoded inPathSet text
  noSlash : ∀ c ∈ text, isSlash true c = false
  notSingle : isSingleDot text = false
  notDouble : isDoubleDot text = false

theorem segment_nil : Segment [] := ⟨nofun, nofun, rfl, rfl⟩

theorem Segment.free (h : Segment text) : Free ['?', '#'] text := free_path h.encoded

theorem Segment.slash_not_mem (h : Segment text) : '/' ∉ text := fun hmem =>
  absurd (h.noSlash '/' hmem) (by decide)

/-! ### What reading leaves -/

/-- Encoding writes no slash. -/
theorem noSlash_percentEncode (h : ∀ c ∈ text, isSlash true c = false) :
    ∀ c ∈ percentEncode inPathSet text, isSlash true c = false := by
  have hcode : Encoded (isSlash true) codeChars := encoded_of_all (by decide)
  intro c hc
  rcases mem_percentEncode hc with ⟨hmem, _⟩ | hmem
  · exact h c hmem
  · exact hcode c hmem

theorem segmentTexts_ne_nil (text : List Char) : segmentTexts true text ≠ [] := pieces_ne_nil _ _

theorem noSlash_of_mem_segmentTexts {piece : List Char} (h : piece ∈ segmentTexts true text) :
    ∀ c ∈ piece, isSlash true c = false := by
  rw [segmentTexts, pieces_eq_splitOn] at h
  intro c hc
  obtain ⟨hmem, hne⟩ := of_mem_of_mem_splitOn h hc
  obtain ⟨d, _, hd⟩ := List.mem_map.mp hmem
  by_cases hslash : isSlash true d = true
  · rw [if_pos hslash] at hd
    exact absurd hd.symm hne
  · rw [if_neg hslash] at hd
    rw [← hd]
    simpa using hslash

section Walking

variable {w : Walk} {last : Bool}

/-- One step of a walk along a path that is no file's. -/
theorem add_unfiled (w : Walk) (last : Bool) (text : List Char) :
    (w.add false last text).done =
      (let segment := percentEncode inPathSet (dropBreaks text)
      let close := fun (segments : List (List Char)) => if last then [] :: segments else segments
      if isDoubleDot segment then close (climb w.done)
      else if isSingleDot segment then close w.done
      else segment :: w.done) := by
  simp only [Walk.add, Bool.false_and, Bool.false_eq_true, if_false]
  split
  · rfl
  · split <;> rfl

theorem climb_subset : ∀ segments : List (List Char), climb segments ⊆ segments
  | [] => List.Subset.refl _
  | last :: above => by
    rw [climb]
    split
    · exact List.Subset.refl _
    · exact List.subset_cons_self _ _

/-- **A step leaves segments** if there were segments only. -/
theorem segment_add (h : ∀ s ∈ w.done, Segment s) (hslash : ∀ c ∈ text, isSlash true c = false) :
    ∀ s ∈ (w.add false last text).done, Segment s := by
  have hclose : ∀ segments : List (List Char), (∀ s ∈ segments, Segment s) →
      ∀ s ∈ (if last then [] :: segments else segments), Segment s := by
    intro segments hsegments
    split
    · exact List.forall_mem_cons.mpr ⟨segment_nil, hsegments⟩
    · exact hsegments
  rw [add_unfiled]
  simp only
  split
  · exact hclose _ fun s hs => h s (climb_subset _ hs)
  · split
    · exact hclose _ h
    · rename_i hdouble hsingle
      refine List.forall_mem_cons.mpr ⟨⟨encoded_percentEncode inPathSet_codeChars _, ?_, ?_, ?_⟩, h⟩
      · exact noSlash_percentEncode fun c hc => hslash c (List.mem_of_mem_filter hc)
      · simpa using hsingle
      · simpa using hdouble

/-- The last step leaves something. -/
theorem add_last_ne_nil (w : Walk) (text : List Char) : (w.add false true text).done ≠ [] := by
  rw [add_unfiled]
  simp only
  split
  · exact List.cons_ne_nil _ _
  · split <;> exact List.cons_ne_nil _ _

theorem segment_addAll {texts : List (List Char)} (h : ∀ s ∈ w.done, Segment s)
    (hslash : ∀ text ∈ texts, ∀ c ∈ text, isSlash true c = false) :
    ∀ s ∈ (w.addAll false texts).done, Segment s := by
  induction texts generalizing w with
  | nil => exact h
  | cons text texts ih =>
    obtain ⟨htext, htexts⟩ := List.forall_mem_cons.mp hslash
    exact ih (segment_add h htext) htexts

theorem addAll_ne_nil {texts : List (List Char)} (h : texts ≠ []) :
    (w.addAll false texts).done ≠ [] := by
  induction texts generalizing w with
  | nil => exact absurd rfl h
  | cons text texts ih =>
    rw [Walk.addAll]
    cases texts with
    | nil => exact add_last_ne_nil w text
    | cons other texts => exact ih (List.cons_ne_nil _ _)

/-- **The path of a special URL** is one segment at least, and segments only. -/
theorem segment_readSegments (text : List Char) :
    readSegments true text ≠ [] ∧ ∀ s ∈ readSegments true text, Segment s := by
  rw [readSegments, Walk.segments]
  refine ⟨?_, ?_⟩
  · have hne := addAll_ne_nil (w := Walk.start)
      (segmentTexts_ne_nil ((afterSlash? true text).getD text))
    simpa using hne
  · intro s hs
    exact segment_addAll (w := Walk.start) nofun
      (fun _ htext => noSlash_of_mem_segmentTexts htext) s (List.mem_reverse.mp hs)

/-! ### Reading back -/

theorem add_segment (h : Segment text) : (w.add false last text).done = text :: w.done := by
  have hsegment : percentEncode inPathSet (dropBreaks text) = text := by
    rw [h.free.dropBreaks_eq, h.encoded.percentEncode_eq]
  rw [add_unfiled, hsegment]
  simp [h.notSingle, h.notDouble]

theorem addAll_segments (h : ∀ s ∈ segments, Segment s) :
    (w.addAll false segments).done = segments.reverse ++ w.done := by
  induction segments generalizing w with
  | nil => rfl
  | cons s segments ih =>
    obtain ⟨hs, hsegments⟩ := List.forall_mem_cons.mp h
    rw [Walk.addAll, ih hsegments, add_segment hs]
    simp

end Walking

theorem pieces_segmentsText {s : List Char} (h : ∀ s' ∈ s :: segments, '/' ∉ s') :
    pieces '/' (s ++ segmentsText segments) = s :: segments := by
  rw [pieces_eq_splitOn]
  induction segments generalizing s with
  | nil =>
    rw [segmentsText, List.flatMap_nil, List.append_nil]
    exact List.splitOn_eq_singleton (h s List.mem_cons_self)
  | cons next segments ih =>
    obtain ⟨hs, hsegments⟩ := List.forall_mem_cons.mp h
    show (s ++ '/' :: (next ++ segmentsText segments)).splitOn '/' = _
    rw [List.splitOn_append_cons_self, List.splitOn_eq_singleton hs, ih hsegments]
    rfl

/-- A path is read as one segment at least. -/
def orEmptySegment : List (List Char) → List (List Char)
  | [] => [[]]
  | segments => segments

theorem orEmptySegment_of_ne_nil (h : segments ≠ []) : orEmptySegment segments = segments := by
  cases segments with
  | nil => exact absurd rfl h
  | cons s segments => rfl

/-- **Segments are read back from their text.** -/
theorem readSegments_segmentsText (h : ∀ s ∈ segments, Segment s) :
    readSegments true (segmentsText segments) = orEmptySegment segments := by
  cases segments with
  | nil => rfl
  | cons s segments =>
    have hafter : afterSlash? true (segmentsText (s :: segments)) =
        some (s ++ segmentsText segments) := rfl
    have hpieces : segmentTexts true (s ++ segmentsText segments) = s :: segments := by
      have hmap : (s ++ segmentsText segments).map (fun c => if isSlash true c then '/' else c) =
          s ++ segmentsText segments := by
        refine (List.map_congr_left ?_).trans (List.map_id _)
        intro c hc
        by_cases hslash : isSlash true c = true
        · -- no segment holds a slash, so this one stands before a segment
          rw [if_pos hslash]
          rcases List.mem_append.mp hc with hc | hc
          · rw [(h s List.mem_cons_self).noSlash c hc] at hslash
            cases hslash
          · obtain ⟨s', hs', hc⟩ := List.mem_flatMap.mp hc
            rcases List.mem_cons.mp hc with rfl | hc
            · rfl
            · rw [(h s' (List.mem_cons_of_mem s hs')).noSlash c hc] at hslash
              cases hslash
        · rw [if_neg hslash]
          rfl
      rw [segmentTexts, hmap]
      exact pieces_segmentsText fun s' hs' => (h s' hs').slash_not_mem
    rw [readSegments, hafter, Option.getD_some, hpieces, Walk.segments, addAll_segments h]
    simp [Walk.start, orEmptySegment]

/-! ### Slashes at the end -/

theorem segmentsText_append (front back : List (List Char)) :
    segmentsText (front ++ back) = segmentsText front ++ segmentsText back :=
  List.flatMap_append

theorem free_segmentsText (h : ∀ s ∈ segments, Segment s) :
    Free ['?', '#'] (segmentsText segments) := by
  intro c hc
  obtain ⟨s, hs, hc⟩ := List.mem_flatMap.mp hc
  rcases List.mem_cons.mp hc with rfl | hc
  · decide
  · exact (h s hs).free c hc

/-- Segments without the empty ones at their end. -/
def dropEmptyEnd (segments : List (List Char)) : List (List Char) :=
  segments.rdropWhile List.isEmpty

theorem segment_dropEmptyEnd (h : ∀ s ∈ segments, Segment s) :
    ∀ s ∈ dropEmptyEnd segments, Segment s :=
  fun s hs => h s ((List.rdropWhile_prefix List.isEmpty segments).subset hs)

/-- **Slashes at the end of a path are its empty segments there.** -/
theorem dropEndWhile_segmentsText (h : ∀ s ∈ segments, Segment s) :
    dropEndWhile (· == '/') (segmentsText segments) = segmentsText (dropEmptyEnd segments) := by
  induction segments using List.reverseRecOn with
  | nil => rfl
  | append_singleton segments s ih =>
    have hsegments : ∀ s' ∈ segments, Segment s' := fun s' hs' =>
      h s' (List.mem_append_left _ hs')
    have hs : Segment s := h s (by simp)
    have hlast : segmentsText [s] = '/' :: s := by simp [segmentsText]
    rw [segmentsText_append, hlast, dropEmptyEnd, List.rdropWhile_concat]
    by_cases hempty : s = []
    · rw [hempty, if_pos List.isEmpty_nil, dropEndWhile_append_of_pos (by simp), ih hsegments]
      rfl
    · rw [if_neg (by simpa using hempty), segmentsText_append, hlast]
      refine dropEndWhile_eq_self ?_
      intro c hc
      have hmem : s.getLast? = some c := by
        obtain ⟨d, tail, hd⟩ := List.exists_cons_of_ne_nil hempty
        rw [List.getLast?_append_of_ne_nil _ (List.cons_ne_nil _ _)] at hc
        rw [hd] at hc ⊢
        rwa [List.getLast?_cons_cons] at hc
      have hne : c ≠ '/' := by
        rintro rfl
        exact hs.slash_not_mem (List.mem_of_getLast? hmem)
      simpa using hne

end ForbiddenHosts.Url
