/-!
# Palettes

A palette is a list of terminal colour numbers; pipes refer to its entries by their place.
-/

namespace Pipework

/-- The colours of a terminal. -/
inductive Color where
  | red
  | green
  | yellow
  | blue
  | magenta
  | cyan
  | white
deriving DecidableEq

/-- The terminal's number for a colour; black is number zero. -/
def Color.number : Color → Int
  | red => 1
  | green => 2
  | yellow => 3
  | blue => 4
  | magenta => 5
  | cyan => 6
  | white => 7

/-- The choice of a palette. A name of no palette is kept, so that a complaint can quote it. -/
inductive Palette where
  | classic
  | fire
  | ice
  | mono
  | neon
  | unknown (name : String)
deriving DecidableEq

namespace Palette

/-- The palettes in the order of their names. -/
def all : List Palette := [classic, fire, ice, mono, neon]

def name : Palette → String
  | classic => "classic"
  | fire => "fire"
  | ice => "ice"
  | mono => "mono"
  | neon => "neon"
  | unknown name => name

def ofName (name : String) : Palette :=
  (all.find? (·.name = name)).getD (unknown name)

/-- The colours of a palette, none for an unknown one. -/
def colors? : Palette → Option (List Color)
  | classic => some [.red, .green, .yellow, .blue, .magenta, .cyan, .white]
  | fire => some [.red, .yellow, .white]
  | ice => some [.blue, .cyan, .white]
  | mono => some [.white]
  | neon => some [.magenta, .cyan, .green, .yellow]
  | unknown _ => none

/-- The colour numbers of a palette. -/
def numbers? (p : Palette) : Option (List Int) := p.colors?.map (·.map Color.number)

end Palette

end Pipework
