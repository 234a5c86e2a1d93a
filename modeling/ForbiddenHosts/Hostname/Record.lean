/-!
# Hostname records

A hostname that the crawler must not visit is kept as a record with one field.  Hostnames are
compared exactly, letter case included: nothing is normalised.
-/
namespace ForbiddenHosts

/-- A hostname that the crawler must not visit. -/
structure HostnameRecord where
  /-- The hostname, as it was written. -/
  hostname : String
  deriving DecidableEq, Repr, Inhabited

end ForbiddenHosts
