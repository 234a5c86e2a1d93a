import ForbiddenHosts.Text.Quoted

/-!
# The configuration

What the program takes from its settings: where the hostnames seen in certificate transparency logs
are found, and which custom hostnames are forbidden on top of them.
-/
namespace ForbiddenHosts

/-- The configuration of the program. -/
structure Configuration where
  ctLogUrl : String
  customHostnames : List String
  deriving DecidableEq, Repr

namespace Configuration

/-- The address of the hostname list when no setting names another. -/
def defaultCtLogUrl : String :=
  "https://raw.githubusercontent.com/alecmuffett/real-world-onion-sites/master/ct-log.txt"

/-- The custom hostnames when no setting names others: a gaming forum and a search engine. -/
def defaultCustomHostnames : List String :=
  ["gamebombfak3pwnh.onion", "metagerv65pwclop2rsfzg4jwowpavpwd6grhhlvdgsswvo6ii4akgyd.onion"]

/-- The configuration as the log shows it. -/
def describe (c : Configuration) : String :=
  "Config \x7b ct_log: CtLogConfig \x7b url: " ++ Text.quoted c.ctLogUrl ++
    " \x7d, blacklist: BlacklistConfig \x7b custom_hostnames: [" ++
    ", ".intercalate (c.customHostnames.map Text.quoted) ++ "] \x7d \x7d"

end Configuration

end ForbiddenHosts
