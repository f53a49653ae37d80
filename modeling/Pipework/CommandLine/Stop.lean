import Pipework.CommandLine.Misuse

/-!
# Stops

Why the reading of a command line ends before there are settings.
-/

namespace Pipework.CommandLine

inductive Stop where
  | help
  | version
  | misuse (misuse : Misuse)
  /-- A setting that has to keep a rule was left blank. -/
  | blank (field : Settings.Field)

end Pipework.CommandLine
