import Pipework.CommandLine.Opt
import Pipework.Fault

/-!
# Misuse of the command line

What can be wrong with a command line, and the wording of each complaint.
-/

namespace Pipework.CommandLine

inductive Misuse where
  /-- An argument that begins more than one option. -/
  | ambiguous (argument : List Char) (candidates : List Opt)
  /-- An option without its value. -/
  | missingValue (opt : Opt)
  /-- A value for an option that takes none. -/
  | unwantedValue (opt : Opt) (value : List Char)
  | notInteger (opt : Opt) (value : List Char)
  | notNumber (opt : Opt) (value : List Char)
  | notPalette (opt : Opt) (value : List Char)
  /-- Arguments that are neither options nor their values. -/
  | leftover (arguments : List (List Char))
  /-- The settings asked for break a rule. -/
  | invalid (defect : Settings.Defect)

/-- A text as a message quotes it. -/
def shown (cs : List Char) : String := String.ofList (Text.quoted cs)

/-- A complaint about one option. -/
def about (o : Opt) (complaint : String) : String := s!"argument {o.label}: {complaint}"

def Misuse.message : Misuse → String
  | ambiguous argument candidates =>
    let names := ", ".intercalate (candidates.map fun o => String.ofList o.long)
    s!"ambiguous option: {String.ofList argument} could match {names}"
  | missingValue o => about o "expected one argument"
  | unwantedValue o value => about o s!"ignored explicit argument {shown value}"
  | notInteger o value => about o s!"invalid int value: {shown value}"
  | notNumber o value => about o s!"invalid float value: {shown value}"
  | notPalette o value =>
    let names := ", ".intercalate (Palette.all.map fun p => shown p.name.toList)
    about o s!"invalid choice: {shown value} (choose from {names})"
  | leftover arguments => "unrecognized arguments: " ++ " ".intercalate (arguments.map String.ofList)
  | invalid defect => defect.message

end Pipework.CommandLine
