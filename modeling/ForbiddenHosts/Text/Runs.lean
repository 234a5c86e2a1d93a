/-!
# Runs of characters

A class of characters is a list of **bounds**: where each run of its characters starts and where it
has ended, in order.  A character is inside a run exactly when an odd number of bounds do not exceed
it.  A last run that has no second bound goes on to the end.
-/
namespace ForbiddenHosts.Text

/-- The character is inside a run. -/
def inRuns (bounds : Array Nat) (c : Char) : Bool :=
  bounds.countP (· ≤ c.toNat) % 2 == 1

end ForbiddenHosts.Text
