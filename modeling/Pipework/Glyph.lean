import Pipework.Direction

/-!
# Glyph sets and glyph tables

A glyph set is sixteen characters, one for each heading with which a pipe enters a cell and each heading with
which it leaves it, the entering heading outermost. A glyph table is read from a set, except that a reversal
takes the straight glyph of the leaving heading, so what a set holds at its four reversals never shows.
-/

namespace Pipework

/-- Sixteen characters, indexed by entering and leaving heading. -/
abbrev GlyphSet := Vector Char 16

/-- The place of a pair of headings in a set. -/
def glyphIndex (entering leaving : Direction) : Fin 16 :=
  ⟨4 * entering.index.val + leaving.index.val, by omega⟩

/-- The set with the characters of a text, if there are sixteen. -/
def GlyphSet.ofText? (text : String) : Option GlyphSet :=
  if h : text.toList.length = 16 then some ⟨text.toList.toArray, by simpa using h⟩ else none

/-- The glyph for each entering and leaving heading. -/
structure GlyphTable where
  glyphs : GlyphSet
deriving DecidableEq

namespace GlyphTable

def glyph (t : GlyphTable) (entering leaving : Direction) : Char :=
  t.glyphs[glyphIndex entering leaving]

/-- The table with a given glyph for each pair of headings. -/
def ofFn (f : Direction → Direction → Char) : GlyphTable :=
  ⟨Vector.ofFn fun i => f (.ofIndex ⟨i.val / 4, by omega⟩) (.ofIndex ⟨i.val % 4, by omega⟩)⟩

/-- The table read from a set: reversals take the straight glyph of the leaving heading. -/
def ofSet (s : GlyphSet) : GlyphTable :=
  ofFn fun entering leaving =>
    if leaving = entering.opposite then s[glyphIndex leaving leaving]
    else s[glyphIndex entering leaving]

/-- The glyphs in the order of a set. -/
def text (t : GlyphTable) : String := String.ofList t.glyphs.toList

@[simp] theorem glyph_ofFn (f : Direction → Direction → Char) (a b : Direction) :
    (ofFn f).glyph a b = f a b := by
  have ha : (4 * a.index.val + b.index.val) / 4 = a.index.val := by omega
  have hb : (4 * a.index.val + b.index.val) % 4 = b.index.val := by omega
  simp [ofFn, glyph, glyphIndex, ha, hb]

theorem glyph_ofSet (s : GlyphSet) (a b : Direction) :
    (ofSet s).glyph a b =
      if b = a.opposite then s[glyphIndex b b] else s[glyphIndex a b] := by
  simp [ofSet]

end GlyphTable

/-! ## The standard kinds -/

/-- A named glyph set. -/
structure Kind where
  name : String
  chars : GlyphSet

def Kind.table (k : Kind) : GlyphTable := .ofSet k.chars

/-- The kinds that pipes come in, by number. -/
def Kind.all : List Kind :=
  [⟨"heavy", #v['┃', '┏', ' ', '┓', '┛', '━', '┓', ' ', ' ', '┗', '┃', '┛', '┗', ' ', '┏', '━']⟩,
   ⟨"rounded", #v['│', '╭', ' ', '╮', '╯', '─', '╮', ' ', ' ', '╰', '│', '╯', '╰', ' ', '╭', '─']⟩,
   ⟨"light", #v['│', '┌', ' ', '┐', '┘', '─', '┐', ' ', ' ', '└', '│', '┘', '└', ' ', '┌', '─']⟩,
   ⟨"double", #v['║', '╔', ' ', '╗', '╝', '═', '╗', ' ', ' ', '╚', '║', '╝', '╚', ' ', '╔', '═']⟩,
   ⟨"ascii-plus", #v['|', '+', ' ', '+', '+', '-', '+', ' ', ' ', '+', '|', '+', '+', ' ', '+', '-']⟩,
   ⟨"ascii-slash", #v['|', '/', ' ', '\\', '/', '-', '\\', ' ', ' ', '\\', '|', '/', '\\', ' ', '/', '-']⟩,
   ⟨"dots", #v['.', '.', ' ', '.', '.', '.', '.', ' ', ' ', '.', '.', '.', '.', ' ', '.', '.']⟩,
   ⟨"circles", #v['.', 'o', ' ', 'o', 'o', '.', 'o', ' ', ' ', 'o', '.', 'o', 'o', ' ', 'o', '.']⟩,
   ⟨"railway", #v['-', '\\', ' ', '/', '\\', '|', '/', ' ', ' ', '/', '-', '\\', '/', ' ', '\\', '|']⟩,
   ⟨"knobby", #v['╿', '┍', ' ', '┑', '┚', '╼', '┒', ' ', ' ', '┕', '╽', '┙', '┖', ' ', '┎', '╾']⟩]

/-- The table of the kind with a given number; negative numbers count from the end. -/
def Kind.table? (number : Int) : Option GlyphTable :=
  let count : Int := Kind.all.length
  if 0 ≤ number then Kind.all[number.toNat]?.map Kind.table
  else if -count ≤ number then Kind.all[(count + number).toNat]?.map Kind.table
  else none

end Pipework
