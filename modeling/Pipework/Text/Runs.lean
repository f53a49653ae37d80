/-!
# Classes of characters

A class of characters is given by the runs of consecutive code points that it is made of.
-/

namespace Pipework.Text

/-- Runs of consecutive code points, each as its first and its last. -/
abbrev Runs := List (Nat × Nat)

/-- Whether a character lies in one of the runs. -/
def Runs.contains (runs : Runs) (c : Char) : Bool :=
  runs.any fun run => run.1 ≤ c.toNat && c.toNat ≤ run.2

end Pipework.Text
