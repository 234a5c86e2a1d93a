/-!
# Why a URL is refused

The causes for which a text is no URL, with their messages.
-/
namespace ForbiddenHosts.Url

/-- Why a text is no URL. -/
inductive Fault where
  /-- There is no scheme, so the text could only be read relative to another URL. -/
  | noScheme
  /-- There is no host where one must stand. -/
  | emptyHost
  /-- The port is no number, or a number above 65535. -/
  | invalidPort
  /-- The host ends in a number but is no IPv4 address. -/
  | invalidIpv4
  /-- The host is bracketed but is no IPv6 address. -/
  | invalidIpv6
  /-- The host of a special URL holds a character that a domain name may not hold. -/
  | invalidDomain
  /-- The host of another URL holds a character that no host may hold. -/
  | invalidHostCharacter
  deriving DecidableEq, Repr

/-- The message for a refused URL. -/
def Fault.message : Fault → String
  | noScheme => "relative URL without a base"
  | emptyHost => "empty host"
  | invalidPort => "invalid port number"
  | invalidIpv4 => "invalid IPv4 address"
  | invalidIpv6 => "invalid IPv6 address"
  | invalidDomain => "invalid international domain name"
  | invalidHostCharacter => "invalid domain character"

end ForbiddenHosts.Url
