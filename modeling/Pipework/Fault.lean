import Pipework.Settings
import Pipework.Decimal.Layout
import Pipework.Text.Quoted

/-!
# Faults

The ways in which an operation fails, by cause, and the wording of each.
-/

namespace Pipework

/-- The complaint about settings that break a rule. -/
def Settings.Defect.message : Settings.Defect → String
  | pipes n => s!"number of pipes must be at least 1, got {n}"
  | fps rate => s!"frame rate must be positive, got {Decimal.text rate}"
  | turnChance percent => s!"turn chance must be between 0 and 100, got {percent}"
  | limit n => s!"character limit cannot be negative, got {n}"
  | timeout seconds => s!"timeout must be positive, got {Decimal.text seconds}"
  | palette name => s!"unknown palette '{name}'"
  | noKinds => "at least one pipe kind is required"
  | kind number => s!"pipe kind must be between 0 and {Kind.all.length - 1}, got {number}"
  | custom length => s!"custom pipe set must be 16 characters, got {length}"
  | boundary name => s!"unknown boundary policy '{name}'"

/-- The settings that fail where they are needed if they were left blank. -/
inductive Settings.Field where
  | pipes
  | fps
  | turnChance
  | limit
  | timeout
  | palette
  | kind
  | seed
deriving DecidableEq

/-- The complaint about a setting left blank, which depends on what the setting was needed for. -/
def Settings.Field.blankMessage : Settings.Field → String
  | pipes | limit => "'<' not supported between instances of 'list' and 'int'"
  | turnChance | kind => "'<=' not supported between instances of 'int' and 'list'"
  | fps | timeout => "must be real number, not list"
  | palette => "unhashable type: 'list'"
  | seed => "The only supported seed types are: None,\nint, float, str, bytes, and bytearray."

/-- Why an operation failed. -/
inductive Fault where
  /-- Settings break a rule. -/
  | invalid (defect : Settings.Defect)
  /-- A setting that was left blank is needed. -/
  | blank (field : Settings.Field)
  /-- A glyph set of the wrong length. -/
  | glyphCount (n : Nat)
  /-- A number was to be drawn from an empty range. -/
  | emptyRange
  /-- A list has no entry with the number asked for. -/
  | outOfRange
  /-- The number of a list entry takes more than 64 bits. -/
  | hugeIndex
  /-- A chance whose hundredth part is beyond the doubles. -/
  | hugeChance
  /-- No palette has the name. -/
  | missingPalette (name : String)
  /-- A position or a colour was to be reduced modulo zero. -/
  | zeroModulus
  /-- A frame rate of zero. -/
  | zeroRate
  /-- A failure of the surroundings. -/
  | failure (message : String)
  /-- The terminal refused a request. -/
  | terminal (message : String)
  /-- The user interrupted the program. -/
  | interrupt (message : String)
  /-- The program was told to terminate. -/
  | terminate

namespace Fault

def message : Fault → String
  | invalid defect => defect.message
  | blank field => field.blankMessage
  | glyphCount n => s!"pipe set must be 16 characters, got {n}"
  | emptyRange => "empty range for randrange()"
  | outOfRange => "list index out of range"
  | hugeIndex => "cannot fit 'int' into an index-sized integer"
  | hugeChance => "integer division result too large for a float"
  | missingPalette name => String.ofList (Text.quoted name.toList)
  | zeroModulus => "integer modulo by zero"
  | zeroRate => "float division by zero"
  | failure message => message
  | terminal message => message
  | interrupt message => message
  | terminate => "0"

end Fault

end Pipework
