import ForbiddenHosts.Proofs.Url.NormalForm
import ForbiddenHosts.Sync.ConfigApi

/-!
# Slashes at the end of a base

A client of the configuration API keeps the text of its base without the slashes at its end.  That
text need not be the normal form of a URL any more: without its path, a base is read as one with an
empty segment.  And slashes that are put behind it are read as empty segments of the path, or else
as a part of the query or the fragment.

None of this shows in the client.  Whatever number of slashes ends the text, what is read is the
base with empty segments in place of its own slashes (`exists_parse_slashes`), and these are taken
off again.  `ignoresSlashes_of_parse` is the main statement.
-/
namespace ForbiddenHosts

open Text

namespace Url

/-! ### Slashes as empty segments -/

theorem segmentsText_replicate_nil (n : Nat) :
    segmentsText (List.replicate n []) = List.replicate n '/' := by
  rw [segmentsText, List.flatMap_replicate]
  simp

theorem segment_replicate_nil (n : Nat) : ∀ s ∈ List.replicate n [], Segment s := by
  intro s hs
  rw [List.eq_of_mem_replicate hs]
  exact segment_nil

theorem dropEndWhile_append_slashes (text : List Char) (n : Nat) :
    dropEndWhile (· == '/') (dropEndWhile (· == '/') text ++ List.replicate n '/') =
      dropEndWhile (· == '/') text := by
  have hslashes : ∀ c ∈ List.replicate n '/', (c == '/') = true := by
    intro c hc
    rw [List.eq_of_mem_replicate hc]
    rfl
  rw [dropEndWhile_append_of_pos hslashes, dropEndWhile_eq_rdropWhile, dropEndWhile_eq_rdropWhile,
    List.rdropWhile_idempotent]

namespace Parts

variable {p : Parts}

theorem chars_under_slashes (h : p.Normal) (n : Nat) :
    (p.under (List.replicate n [])).url.chars =
      dropEndWhile (· == '/') p.url.chars ++ List.replicate n '/' := by
  rw [h.chars_under, segmentsText_replicate_nil]

theorem Normal.under_slashes (h : p.Normal) (n : Nat) : (p.under (List.replicate n [])).Normal := by
  refine h.under (segment_replicate_nil n) ?_
  rw [segmentsText_replicate_nil]
  intro c hc
  rw [List.eq_of_mem_replicate hc]
  rfl

/-- A base that is left without a path gets the one that it would have with one slash. -/
theorem orEmptySegment_under_slashes (hne : p.segments ≠ []) (n : Nat) :
    ∃ m, { p.under (List.replicate n []) with
        segments := orEmptySegment (p.under (List.replicate n [])).segments } =
      p.under (List.replicate m []) := by
  by_cases hempty : (p.under (List.replicate n [])).segments = []
  · -- only the path can have lost its segments, since that of a URL has some
    have hquery : p.fragment = none ∧ p.query = none := by
      cases hfragment : p.fragment with
      | some fragment =>
        rw [under_of_fragment hfragment] at hempty
        exact absurd hempty hne
      | none =>
        cases hquery : p.query with
        | some query =>
          rw [under_of_query hfragment hquery] at hempty
          exact absurd hempty hne
        | none => exact ⟨rfl, rfl⟩
    refine ⟨1, ?_⟩
    rw [hempty]
    rw [under_of_path hquery.1 hquery.2] at hempty ⊢
    rw [under_of_path hquery.1 hquery.2, (List.append_eq_nil_iff.mp hempty).1]
    rfl
  · exact ⟨n, by rw [orEmptySegment_of_ne_nil hempty]⟩

/-- **Slashes behind a base are read as empty segments**, of which a base without a path has one. -/
theorem Normal.exists_parse_slashes (h : p.Normal) (hne : p.segments ≠ []) (n : Nat) :
    ∃ m, Url.parse (String.ofList (dropEndWhile (· == '/') p.url.chars ++ List.replicate n '/')) =
      .ok (p.under (List.replicate m [])).url := by
  obtain ⟨m, hm⟩ := orEmptySegment_under_slashes hne n
  have hread := (h.under_slashes n).parse_text
  rw [Url.text, chars_under_slashes h, hm] at hread
  exact ⟨m, hread⟩

end Parts

end Url

namespace ConfigApi

open Url

/-- A text without the slashes at its end. -/
def unslashed (text : String) : String := String.ofList (dropEndWhile (· == '/') text.toList)

/-- A text with a number of slashes in place of those at its end. -/
def slashed (n : Nat) (text : String) : String :=
  unslashed text ++ String.ofList (List.replicate n '/')

/-- **A client ignores the slashes at the end of its base.** -/
structure IgnoresSlashes (api : ConfigApi) (base : Url) : Prop where
  /-- The address of a key is the text of the base without these slashes, with the key behind it. -/
  endpoint_eq : ∀ key, api.endpoint key = unslashed base.text ++ "/config/" ++ key
  /-- With any number of slashes in their place the text is a base, of a client that gives every key
  the same address. -/
  same : ∀ n, ∃ other, ConfigApi.parse (slashed n base.text) = .ok other ∧
    ∀ key, other.endpoint key = api.endpoint key

theorem unslashed_text (base : Url) : unslashed base.text = (ofUrl base).base := by
  rw [unslashed, Url.text, String.toList_ofList]
  rfl

/-- The client is the same for any number of slashes. -/
theorem parse_slashed {p : Parts} (h : p.Normal) (hne : p.segments ≠ []) (n : Nat) :
    ConfigApi.parse (slashed n p.url.text) = .ok (ofUrl p.url) := by
  obtain ⟨m, hread⟩ := h.exists_parse_slashes hne n
  have htext : slashed n p.url.text =
      String.ofList (dropEndWhile (· == '/') p.url.chars ++ List.replicate n '/') := by
    rw [slashed, unslashed, Url.text, String.toList_ofList, String.ofList_append]
  have hclient : ofUrl (p.under (List.replicate m [])).url = ofUrl p.url := by
    rw [ofUrl, Parts.chars_under_slashes h, dropEndWhile_append_slashes]
    rfl
  rw [ConfigApi.parse, htext, hread]
  exact congrArg Except.ok hclient

/-- **The slashes at the end of a web address do not matter** to a client that has it as its base. -/
theorem ignoresSlashes_of_parse {text : String} {base : Url} (parsed : Url.parse text = .ok base)
    (web : base.scheme = "http" ∨ base.scheme = "https") :
    ∃ api, ConfigApi.parse text = .ok api ∧ api.IgnoresSlashes base := by
  have hdefault : (defaultPort? base.scheme).isSome := by
    rcases web with hscheme | hscheme <;> rw [hscheme] <;> decide
  obtain ⟨p, hp, hne, rfl⟩ := normal_of_parse parsed hdefault
  have haccepted : ConfigApi.parse text = .ok (ofUrl p.url) := by rw [ConfigApi.parse, parsed]
  refine ⟨ofUrl p.url, haccepted, ?_, ?_⟩
  · intro key
    rw [endpoint, unslashed_text]
  · intro n
    exact ⟨ofUrl p.url, parse_slashed hp hne n, fun _ => rfl⟩

/-- A base whose path is nothing but slashes. -/
def bare : Url :=
  ⟨"http", some ⟨"", none, .name "config.example", none⟩, .rooted ["", ""], none, none⟩

/-- A base may lose its whole path, and be given slashes again. -/
theorem ignoresSlashes_bare : Url.parse "HTTP://Config.Example:80//" = .ok bare ∧
    (bare.scheme = "http" ∨ bare.scheme = "https") ∧
    slashed 0 bare.text = "http://config.example" ∧
    slashed 3 bare.text = "http://config.example///" ∧
    ∃ api, ConfigApi.parse "HTTP://Config.Example:80//" = .ok api ∧ api.IgnoresSlashes bare ∧
      api.endpoint "refresh-delay" = "http://config.example/config/refresh-delay" := by
  have hparsed : Url.parse "HTTP://Config.Example:80//" = .ok bare := by rfl
  have hweb : bare.scheme = "http" ∨ bare.scheme = "https" := Or.inl rfl
  obtain ⟨api, haccepted, hignores⟩ := ignoresSlashes_of_parse hparsed hweb
  exact ⟨hparsed, hweb, rfl, rfl, api, haccepted, hignores, hignores.endpoint_eq "refresh-delay"⟩

end ConfigApi

end ForbiddenHosts
