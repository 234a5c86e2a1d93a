import ForbiddenHosts.Proofs.Url.Authorities
import ForbiddenHosts.Proofs.Url.Segments

/-!
# The normal form of a URL

A URL whose scheme implies a port has an authority and a rooted path (`Parts`).  Reading leaves all
its parts in normal form (`normal_of_parse`), and parts in normal form are read back from their text
(`Parts.Normal.parse_text`).  So writing a URL and reading it again changes nothing (`parse_text`).

The path of parts may be empty, as no path that was read is: then it is read as one empty segment.
With this, the text of a URL less the slashes at its end is a text of parts too, and so is that text
with segments put behind it (`Parts.under`).
-/
namespace ForbiddenHosts.Url

open Text

variable {scheme : String} {text front place : List Char}

/-! ### Schemes that imply a port -/

/-- The schemes that imply a port. -/
def portSchemes : List String := ["http", "ws", "https", "wss", "ftp"]

theorem mem_portSchemes (h : (defaultPort? scheme).isSome) : scheme ∈ portSchemes := by
  rw [defaultPort?] at h
  split at h
  · rename_i hweb
    rcases hweb with rfl | rfl <;> decide
  · split at h
    · rename_i _ hsecure
      rcases hsecure with rfl | rfl <;> decide
    · split at h
      · rename_i hftp
        rw [hftp]
        decide
      · cases h

theorem forall_portSchemes {p : String → Prop} (hall : ∀ scheme ∈ portSchemes, p scheme)
    (h : (defaultPort? scheme).isSome) : p scheme := hall scheme (mem_portSchemes h)

theorem readScheme?_toList (h : (defaultPort? scheme).isSome) :
    readScheme? scheme.toList = some scheme :=
  forall_portSchemes (p := fun scheme => readScheme? scheme.toList = some scheme) (by decide) h

theorem free_scheme (h : (defaultPort? scheme).isSome) : Free [':'] scheme.toList := by
  refine forall_portSchemes (p := fun scheme => Free [':'] scheme.toList) ?_ h
  have hall : ∀ scheme ∈ portSchemes, scheme.toList.all
      (fun c => decide ((0x20 < c.toNat ∧ c.toNat < 0x7F) ∧ c ∉ [':'])) = true := by decide
  exact fun scheme hscheme => free_of_all (hall scheme hscheme)

theorem isFile_eq_false (h : (defaultPort? scheme).isSome) : isFile scheme = false :=
  forall_portSchemes (p := fun scheme => isFile scheme = false) (by decide) h

/-! ### Parts -/

/-- The parts of a URL with an authority and a rooted path. -/
structure Parts where
  scheme : String
  authority : Authority
  segments : List (List Char)
  query : Option String
  fragment : Option String

/-- The URL that has the parts. -/
def Parts.url (p : Parts) : Url :=
  ⟨p.scheme, some p.authority, .rooted (p.segments.map String.ofList), p.query, p.fragment⟩

/-- Parts as reading leaves them. -/
structure Parts.Normal (p : Parts) : Prop where
  scheme : (defaultPort? p.scheme).isSome
  authority : p.authority.Normal p.scheme
  segments : ∀ s ∈ p.segments, Segment s
  query : ∀ query, p.query = some query → Encoded (inQuerySet true) query.toList
  fragment : ∀ fragment, p.fragment = some fragment → Encoded inFragmentSet fragment.toList

/-- A part behind its mark, if there is one. -/
def marked (mark : Char) : Option String → List Char
  | none => []
  | some part => mark :: part.toList

/-- The text of the authority and the path. -/
def Parts.placeText (p : Parts) : List Char :=
  '/' :: '/' :: p.authority.text ++ segmentsText p.segments

theorem Parts.path_text_url (p : Parts) : p.url.path.text = segmentsText p.segments := by
  simp [url, Path.text, Function.comp_def]

theorem Parts.chars_url (p : Parts) :
    p.url.chars =
      p.scheme.toList ++ ':' :: p.placeText ++ marked '?' p.query ++ marked '#' p.fragment := by
  have hauthority : p.url.authority = some p.authority := rfl
  rw [chars, p.path_text_url, hauthority]
  show p.scheme.toList ++ ':' :: p.placeText ++
    (match p.query with | none => [] | some query => '?' :: query.toList) ++
    (match p.fragment with | none => [] | some fragment => '#' :: fragment.toList) = _
  cases p.query <;> cases p.fragment <;> rfl

/-! ### What reading leaves -/

section Reading

variable {authority : Option Authority} {path : Path} {more : Bool}

theorem readPlace_of_defaultPort? (h : (defaultPort? scheme).isSome) (place : List Char)
    (more : Bool) :
    readPlace scheme place more = (do
      let text := (dropBreaks place).dropWhile (isSlash true)
      let (authority, rest) ← readAuthority scheme (text.takeWhile (!isSlash true ·)) more
      return (some authority, .rooted ((readSegments true
        (rest ++ text.dropWhile (!isSlash true ·))).map String.ofList))) := by
  rw [readPlace]
  simp only [isFile_eq_false h, isSpecial_of_defaultPort? h]
  rfl

theorem normal_of_readPlace (hdefault : (defaultPort? scheme).isSome)
    (h : readPlace scheme place more = .ok (authority, path)) :
    ∃ a segments, authority = some a ∧ a.Normal scheme ∧
      path = .rooted (segments.map String.ofList) ∧ segments ≠ [] ∧ ∀ s ∈ segments, Segment s := by
  rw [readPlace_of_defaultPort? hdefault] at h
  simp only at h
  generalize hread : readAuthority scheme _ more = read at h
  cases read with
  | error fault => cases h
  | ok read =>
    obtain ⟨a, rest⟩ := read
    cases h
    obtain ⟨hne, hsegments⟩ := segment_readSegments
      (rest ++ ((dropBreaks place).dropWhile (isSlash true)).dropWhile (!isSlash true ·))
    exact ⟨a, _, rfl, normal_of_readAuthority (isSpecial_of_defaultPort? hdefault) hread, rfl,
      hne, hsegments⟩

/-- **What is read has its parts in normal form**, and a path that is not empty. -/
theorem normal_of_parse {text : String} {u : Url} (h : Url.parse text = .ok u)
    (hdefault : (defaultPort? u.scheme).isSome) :
    ∃ p : Parts, p.Normal ∧ p.segments ≠ [] ∧ p.url = u := by
  rw [Url.parse] at h
  simp only at h
  split at h
  · rename_i rest scheme _ _
    generalize hplace : readPlace scheme _ _ = read at h
    cases read with
    | error fault => cases h
    | ok read =>
      obtain ⟨authority, path⟩ := read
      cases h
      obtain ⟨a, segments, rfl, ha, rfl, hne, hsegments⟩ := normal_of_readPlace hdefault hplace
      refine ⟨⟨scheme, a, segments, _, _⟩, ⟨hdefault, ha, hsegments, ?_, ?_⟩, hne, rfl⟩
      · intro query hquery
        obtain ⟨q, _, rfl⟩ := Option.map_eq_some_iff.mp hquery
        rw [String.toList_ofList, isSpecial_of_defaultPort? hdefault]
        exact encoded_percentEncode inQuerySet_codeChars _
      · intro fragment hfragment
        obtain ⟨f, _, rfl⟩ := Option.map_eq_some_iff.mp hfragment
        rw [String.toList_ofList]
        exact encoded_percentEncode inFragmentSet_codeChars _
  · cases h

end Reading

/-! ### Reading back -/

theorem isSlash_eq_false {c : Char} (h : c ∉ ['/', '\\']) : isSlash true c = false := by
  simp only [List.mem_cons, List.not_mem_nil, or_false, not_or] at h
  simp [isSlash, h]

theorem cutAt_marked {mark : Char} (h : mark ∉ front) (part : Option String) :
    cutAt mark (front ++ marked mark part) = (front, part.map String.toList) := by
  cases part with
  | none =>
    rw [marked, List.append_nil]
    exact cutAt_of_not_mem h
  | some part => exact cutAt_append h part.toList

/-- An encoded part is kept as it is. -/
theorem map_encode_eq {inSet : Char → Bool} {part : Option String}
    (h : ∀ text, part = some text → Encoded inSet text.toList ∧ ∃ marks, Free marks text.toList) :
    (part.map String.toList).map
      (fun text => String.ofList (percentEncode inSet (dropBreaks text))) = part := by
  cases part with
  | none => rfl
  | some text =>
    obtain ⟨hencoded, marks, hfree⟩ := h text rfl
    rw [Option.map_some, Option.map_some, hfree.dropBreaks_eq, hencoded.percentEncode_eq,
      String.ofList_toList]

namespace Parts.Normal

variable {p : Parts}

theorem free_placeText (h : p.Normal) : Free ['?', '#'] p.placeText := by
  have hauthority : Free ['?', '#'] p.authority.text := h.authority.free.mono (by decide)
  exact ((hauthority.cons (by decide)).cons (by decide)).append (free_segmentsText h.segments)

theorem free_query (h : p.Normal) : ∀ query, p.query = some query → Free ['#'] query.toList :=
  fun query hquery => Url.free_query (h.query query hquery)

theorem free_fragment (h : p.Normal) :
    ∀ fragment, p.fragment = some fragment → Free [] fragment.toList :=
  fun fragment hfragment => Url.free_fragment (h.fragment fragment hfragment)

theorem free_marked_query (h : p.Normal) : Free ['#'] (marked '?' p.query) := by
  cases hquery : p.query with
  | none => exact free_nil _
  | some query => exact (h.free_query query hquery).cons (by decide)

theorem free_marked_fragment (h : p.Normal) : Free [] (marked '#' p.fragment) := by
  cases hfragment : p.fragment with
  | none => exact free_nil _
  | some fragment => exact (h.free_fragment fragment hfragment).cons (by decide)

/-- Nothing in the text of a URL is taken off before it is read. -/
theorem free_chars (h : p.Normal) : Free [] p.url.chars := by
  have hnone : ∀ {marks text : List Char}, Free marks text → Free [] text :=
    fun hfree => hfree.mono (List.nil_subset _)
  have hplace := (hnone (free_scheme h.scheme)).append
    ((hnone h.free_placeText).cons (c := ':') (by decide))
  rw [p.chars_url]
  exact (hplace.append (hnone h.free_marked_query)).append h.free_marked_fragment

/-- The authority and the path are read back. -/
theorem readPlace_placeText (h : p.Normal) (more : Bool) :
    readPlace p.scheme p.placeText more =
      .ok (some p.authority, .rooted ((orEmptySegment p.segments).map String.ofList)) := by
  have hslash : ∀ c ∈ p.authority.text, isSlash true c = false := by
    intro c hc
    exact isSlash_eq_false fun hmem => (h.authority.free c hc).2
      ((by decide : ['/', '\\'] ⊆ ['/', '\\', '?', '#']) hmem)
  have hkept : ∀ c ∈ p.authority.text, (!isSlash true c) = true := by
    intro c hc
    rw [hslash c hc]
    rfl
  have hbreaks : dropBreaks p.placeText = p.placeText := h.free_placeText.dropBreaks_eq
  -- the slashes in front go, and the authority, which is not empty, ends at the path
  have htext : p.placeText.dropWhile (isSlash true) =
      p.authority.text ++ segmentsText p.segments := by
    obtain ⟨c, text, hcons⟩ := List.exists_cons_of_ne_nil h.authority.text_ne_nil
    have hc := hslash c (hcons ▸ List.mem_cons_self)
    show (p.authority.text ++ segmentsText p.segments).dropWhile (isSlash true) = _
    rw [hcons, List.cons_append, List.dropWhile_cons_of_neg (by simp [hc])]
  have hends : (p.authority.text ++ segmentsText p.segments).takeWhile (!isSlash true ·) =
        p.authority.text ∧
      (p.authority.text ++ segmentsText p.segments).dropWhile (!isSlash true ·) =
        segmentsText p.segments := by
    cases p.segments with
    | nil =>
      have hempty : segmentsText [] = [] := rfl
      rw [hempty, List.append_nil]
      exact ⟨List.takeWhile_eq_self_iff.mpr hkept, List.dropWhile_eq_nil_iff.mpr hkept⟩
    | cons s segments =>
      exact ⟨takeWhile_append_of_not hkept rfl, dropWhile_append_of_not hkept rfl⟩
  rw [readPlace_of_defaultPort? h.scheme]
  simp only [hbreaks, htext, hends.1, hends.2, h.authority.readAuthority_text h.scheme more]
  show Except.ok (some p.authority,
    Path.rooted ((readSegments true (segmentsText p.segments)).map String.ofList)) = _
  rw [readSegments_segmentsText h.segments]

/-- **Parts in normal form are read back from their text.** -/
theorem parse_text (h : p.Normal) :
    Url.parse p.url.text = .ok { p with segments := orEmptySegment p.segments }.url := by
  have hcolon : ':' ∉ p.scheme.toList := (free_scheme h.scheme).not_mem (by decide)
  have hhash : '#' ∉ p.placeText ++ marked '?' p.query :=
    ((h.free_placeText.mono (by decide)).append h.free_marked_query).not_mem (by decide)
  have hmark : '?' ∉ p.placeText := h.free_placeText.not_mem (by decide)
  have hquery := map_encode_eq fun query hq => ⟨h.query query hq, _, h.free_query query hq⟩
  have hfragment := map_encode_eq fun fragment hf =>
    ⟨h.fragment fragment hf, _, h.free_fragment fragment hf⟩
  have hcut := cutAt_append hcolon (p.placeText ++ marked '?' p.query ++ marked '#' p.fragment)
  rw [← List.cons_append, ← List.append_assoc, ← List.cons_append, ← List.append_assoc] at hcut
  rw [Url.parse, Url.text, String.toList_ofList, h.free_chars.strip_eq, p.chars_url, hcut]
  simp only [(free_scheme h.scheme).dropBreaks_eq, readScheme?_toList h.scheme,
    cutAt_marked hhash, cutAt_marked hmark, h.readPlace_placeText,
    isSpecial_of_defaultPort? h.scheme, hquery, hfragment]
  rfl

end Parts.Normal

/-- **Reading what was written changes nothing.** -/
theorem parse_text {text : String} {u : Url} (h : Url.parse text = .ok u)
    (hdefault : (defaultPort? u.scheme).isSome) : Url.parse u.text = .ok u := by
  obtain ⟨p, hp, hne, rfl⟩ := normal_of_parse h hdefault
  rw [hp.parse_text, orEmptySegment_of_ne_nil hne]

/-! ### Segments behind a text -/

/-- A part of a URL with segments in place of the slashes at its end. -/
def extend (part : String) (more : List (List Char)) : String :=
  String.ofList (dropEndWhile (· == '/') part.toList ++ segmentsText more)

/-- Parts whose text has segments in place of the slashes at its end.  They belong to the part that
ends the text: only without a query and a fragment is it the path. -/
def Parts.under (p : Parts) (more : List (List Char)) : Parts :=
  match p.fragment, p.query with
  | some fragment, _ => { p with fragment := some (extend fragment more) }
  | none, some query => { p with query := some (extend query more) }
  | none, none => { p with segments := dropEmptyEnd p.segments ++ more }

section Under

variable {p : Parts} {more : List (List Char)} {query fragment : String}

theorem Parts.under_of_fragment (h : p.fragment = some fragment) :
    p.under more = { p with fragment := some (extend fragment more) } := by
  rw [under, h]

theorem Parts.under_of_query (hf : p.fragment = none) (hq : p.query = some query) :
    p.under more = { p with query := some (extend query more) } := by
  rw [under, hf, hq]

theorem Parts.under_of_path (hf : p.fragment = none) (hq : p.query = none) :
    p.under more = { p with segments := dropEmptyEnd p.segments ++ more } := by
  rw [under, hf, hq]

theorem Parts.scheme_under (p : Parts) (more : List (List Char)) :
    (p.under more).scheme = p.scheme := by
  rw [under]
  split <;> rfl

theorem Parts.authority_under (p : Parts) (more : List (List Char)) :
    (p.under more).authority = p.authority := by
  rw [under]
  split <;> rfl

/-- A path that is not empty does not get empty by segments. -/
theorem Parts.segments_under_ne_nil (h : p.segments ≠ []) (hmore : more ≠ []) :
    (p.under more).segments ≠ [] := by
  rw [under]
  split
  · exact h
  · exact h
  · simp [hmore]

theorem dropEndWhile_marked {mark : Char} (h : (mark == '/') = false) (front : List Char)
    (part : String) :
    dropEndWhile (· == '/') (front ++ marked mark (some part)) ++ segmentsText more =
      front ++ marked mark (some (extend part more)) := by
  have hlast : (front ++ [mark]).getLast? = some mark := by simp
  have hdrop := dropEndWhile_append_of_getLast? (p := (· == '/')) hlast h part.toList
  rw [List.append_assoc, List.singleton_append] at hdrop
  rw [marked, hdrop, marked, extend, String.toList_ofList]
  simp

/-- The slashes at the end of an authority with a path are those of the path. -/
theorem Parts.Normal.dropEndWhile_placeText (h : p.Normal) :
    dropEndWhile (· == '/') (p.scheme.toList ++ ':' :: p.placeText) ++ segmentsText more =
      p.scheme.toList ++ ':' ::
        { p with segments := dropEmptyEnd p.segments ++ more }.placeText := by
  obtain ⟨c, hc⟩ : ∃ c, p.authority.text.getLast? = some c :=
    ⟨_, List.getLast?_eq_some_getLast h.authority.text_ne_nil⟩
  have hlast : (p.scheme.toList ++ ':' :: '/' :: '/' :: p.authority.text).getLast? = some c := by
    simp [List.getLast?_append, List.getLast?_cons, hc]
  have hslash : (c == '/') = false := by
    have hne := (h.authority.free c (List.mem_of_getLast? hc)).2
    simp only [List.mem_cons, not_or] at hne
    simp [hne.1]
  have hdrop := dropEndWhile_append_of_getLast? (p := (· == '/')) hlast hslash
    (segmentsText p.segments)
  rw [dropEndWhile_segmentsText h.segments] at hdrop
  have hplace : p.scheme.toList ++ ':' :: p.placeText =
      p.scheme.toList ++ ':' :: '/' :: '/' :: p.authority.text ++ segmentsText p.segments := by
    simp [Parts.placeText]
  rw [hplace, hdrop]
  simp [Parts.placeText, segmentsText_append]

/-- **Segments behind a text, less the slashes at its end**, are a text of the parts `under`. -/
theorem Parts.Normal.chars_under (h : p.Normal) (more : List (List Char)) :
    (p.under more).url.chars =
      dropEndWhile (· == '/') p.url.chars ++ segmentsText more := by
  have hnone : ∀ (front : List Char) (mark : Char), front ++ marked mark none = front :=
    fun front _ => List.append_nil front
  rw [Parts.chars_url, Parts.chars_url]
  cases hfragment : p.fragment with
  | some fragment =>
    rw [Parts.under_of_fragment hfragment, dropEndWhile_marked (by decide)]
    rfl
  | none =>
    cases hquery : p.query with
    | some query =>
      rw [Parts.under_of_query hfragment hquery, hnone, dropEndWhile_marked (by decide)]
      simp only [hfragment, hnone]
      rfl
    | none =>
      rw [Parts.under_of_path hfragment hquery, hnone, hnone, h.dropEndWhile_placeText]
      simp only [hfragment, hquery, hnone]

theorem encoded_extend {inSet : Char → Bool} {part : String} (h : Encoded inSet part.toList)
    (hmore : Encoded inSet (segmentsText more)) : Encoded inSet (extend part more).toList := by
  rw [extend, String.toList_ofList]
  intro c hc
  rcases List.mem_append.mp hc with hc | hc
  · exact h c ((List.rdropWhile_prefix _ _).subset hc)
  · exact hmore c hc

/-- Segments of a path hold nothing that a fragment encodes. -/
theorem encoded_fragment_segmentsText (h : ∀ s ∈ more, Segment s) :
    Encoded inFragmentSet (segmentsText more) := by
  intro c hc
  obtain ⟨s, hs, hc⟩ := List.mem_flatMap.mp hc
  rcases List.mem_cons.mp hc with rfl | hc
  · decide
  · have hset := (h s hs).encoded c hc
    simp only [inPathSet, Bool.or_eq_false_iff] at hset
    exact hset.1.1.1.1

/-- Parts stay in normal form when segments come under them that a query does not encode. -/
theorem Parts.Normal.under (h : p.Normal) (hmore : ∀ s ∈ more, Segment s)
    (hquery : Encoded (inQuerySet true) (segmentsText more)) : (p.under more).Normal := by
  rw [Parts.under]
  split
  · rename_i fragment hfragment
    refine ⟨h.scheme, h.authority, h.segments, h.query, ?_⟩
    rintro _ ⟨⟩
    exact encoded_extend (h.fragment fragment hfragment) (encoded_fragment_segmentsText hmore)
  · rename_i query _ hsome
    refine ⟨h.scheme, h.authority, h.segments, ?_, h.fragment⟩
    rintro _ ⟨⟩
    exact encoded_extend (h.query query hsome) hquery
  · refine ⟨h.scheme, h.authority, ?_, h.query, h.fragment⟩
    intro s hs
    rcases List.mem_append.mp hs with hs | hs
    · exact segment_dropEmptyEnd h.segments s hs
    · exact hmore s hs

end Under

end ForbiddenHosts.Url
