import ForbiddenHosts.Url.Basic

/-!
# References

A **reference** leads from one URL to another.  It is a URL that stands on its own, or it leaves out
a front part that it has in common with the URL where it stands: the scheme, the scheme and the
authority, or also the path up to its last slash, the whole path, or all but the fragment.

`Url.join?` puts the missing part in front and reads the whole.  A special scheme may be repeated
before a reference that leaves out the authority.
-/
namespace ForbiddenHosts.Url

/-- The normal form of a URL up to its path. -/
def origin (base : Url) : List Char :=
  base.scheme.toList ++ ':' :: (match base.authority with
    | some authority => '/' :: '/' :: authority.text
    | none => [])

/-- The text of a path up to its last slash. -/
def folder (path : Path) : List Char := (path.text.reverse.dropWhile (· != '/')).reverse

/-- The text of a query, with its mark. -/
def queryText (base : Url) : List Char :=
  match base.query with
  | some query => '?' :: query.toList
  | none => []

/-- The text of the URL to which a reference without a scheme leads. -/
def absolute (base : Url) (reference : List Char) : List Char :=
  let slash := isSlash (isSpecial base.scheme)
  match reference with
  | [] => origin base ++ base.path.text ++ queryText base
  | '#' :: _ => origin base ++ base.path.text ++ queryText base ++ reference
  | '?' :: _ => origin base ++ base.path.text ++ reference
  | first :: rest =>
    if slash first then
      if rest.head?.any slash then base.scheme.toList ++ ':' :: reference
      else origin base ++ reference
    else origin base ++ folder base.path ++ reference

/-- What is left of a reference that repeats the special scheme of its base. -/
def dropScheme (base : Url) (reference : List Char) : List Char :=
  match cutAt ':' reference with
  | (scheme, some rest) =>
    if isSpecial base.scheme ∧ readScheme? scheme = some base.scheme ∧
        ¬['/', '/'].isPrefixOf rest then rest
    else reference
  | (_, none) => reference

/-- The URL to which a reference leads from a base. -/
def join? (base : Url) (reference : String) : Option Url :=
  let text := dropScheme base (dropBreaks (strip reference.toList))
  match parse (String.ofList text) with
  | .ok url => some url
  | .error .noScheme => (parse (String.ofList (absolute base text))).toOption
  | .error _ => none

end ForbiddenHosts.Url
