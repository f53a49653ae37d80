import Pipework.Terminal

/-!
# Escape sequences

How the calls on a window are carried out on a terminal that understands escape sequences. Registered pairs
are kept as a list, since such a terminal takes colours only where they are used.
-/

namespace Pipework

/-- The foreground colours of the registered pairs, the latest first. -/
abbrev Pairs := List (Nat × Int)

/-- The parameters that select what attributes stand for, after a reset. -/
def Pairs.style (pairs : Pairs) (attributes : Nat) : String :=
  let weight := if attributes / boldAttribute % 2 = 1 then ";1" else ""
  let color := match pairs.lookup (attributes % boldAttribute / 256) with
    | some n => s!";{30 + n}"
    | none => ""
  weight ++ color

/-- The sequence for a call, and the pairs after it. -/
def Call.sequence (pairs : Pairs) : Call → String × Pairs
  | cursor visibility => (if visibility = 0 then "\x1b[?25l" else "\x1b[?25h", pairs)
  | clear => ("\x1b[2J", pairs)
  | pair number foreground _ => ("", (number, foreground) :: pairs)
  | write y x text attributes => (s!"\x1b[{y + 1};{x + 1}H\x1b[0{pairs.style attributes}m{text}", pairs)
  | _ => ("", pairs)

/-- The sequences for some calls in turn, and the pairs after them. -/
def Call.sequences (pairs : Pairs) (calls : List Call) : String × Pairs :=
  calls.foldl
    (fun (text, pairs) call =>
      let (sequence, pairs) := call.sequence pairs
      (text ++ sequence, pairs))
    ("", pairs)

/-- Turns to the second screen of a terminal. -/
def enterScreen : String := "\x1b[?1049h"

/-- Turns back to the first screen, with plain characters. -/
def leaveScreen : String := "\x1b[0m\x1b[?1049l"

end Pipework
