import Pipework.Palette

/-!
# Options

The options of the program. Each has a long name, most have a letter too, and some take a value.
-/

namespace Pipework.CommandLine

inductive Opt where
  | help
  | pipes
  | fps
  | turnChance
  | limit
  | timeout
  | palette
  | kind
  | custom
  | bounce
  | randomStart
  | keepStyle
  | noBold
  | noColor
  | seed
  | version
deriving DecidableEq

namespace Opt

/-- The options in the order in which they are declared and listed. -/
def all : List Opt :=
  [help, pipes, fps, turnChance, limit, timeout, palette, kind, custom, bounce, randomStart, keepStyle,
   noBold, noColor, seed, version]

def letter? : Opt → Option Char
  | help => some 'h'
  | pipes => some 'p'
  | fps => some 'f'
  | turnChance => some 's'
  | limit => some 'r'
  | timeout => some 't'
  | palette => some 'c'
  | kind => some 'k'
  | custom => some 'T'
  | bounce => some 'b'
  | randomStart => some 'R'
  | keepStyle => some 'K'
  | noBold => some 'B'
  | noColor => some 'C'
  | seed => none
  | version => some 'v'

def name : Opt → String
  | help => "help"
  | pipes => "pipes"
  | fps => "fps"
  | turnChance => "turn-chance"
  | limit => "limit"
  | timeout => "timeout"
  | palette => "palette"
  | kind => "kind"
  | custom => "custom"
  | bounce => "bounce"
  | randomStart => "random-start"
  | keepStyle => "keep-style"
  | noBold => "no-bold"
  | noColor => "no-color"
  | seed => "seed"
  | version => "version"

/-- What the value of an option is called, if it takes one. -/
def value? : Opt → Option String
  | pipes => some "PIPES"
  | fps => some "FPS"
  | turnChance => some "TURN_CHANCE"
  | limit => some "LIMIT"
  | timeout => some "TIMEOUT"
  | palette => some ("\x7b" ++ ",".intercalate (Palette.all.map Palette.name) ++ "\x7d")
  | kind => some "KINDS"
  | custom => some "CUSTOM"
  | seed => some "SEED"
  | _ => none

def takesValue (o : Opt) : Bool := o.value?.isSome

/-- An option by its long name. -/
def long (o : Opt) : List Char := '-' :: '-' :: o.name.toList

/-- An option by its letter. -/
def short? (o : Opt) : Option (List Char) := o.letter?.map fun c => ['-', c]

/-- The spellings of an option, by its letter first. -/
def spellings (o : Opt) : List String :=
  (o.short?.toList ++ [o.long]).map String.ofList

/-- How messages name an option. -/
def label (o : Opt) : String := "/".intercalate o.spellings

/-- The option with a letter. -/
def ofLetter? (c : Char) : Option Opt := all.find? (·.letter? = some c)

end Opt

end Pipework.CommandLine
