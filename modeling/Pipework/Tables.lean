import Pipework.Act

/-!
# The tables of settings

Settings name glyph tables by the numbers of standard kinds, or give one as a set of sixteen characters.
-/

namespace Pipework

/-- The table read from a text of sixteen characters. -/
def GlyphTable.ofText (text : String) : Except Fault GlyphTable :=
  match GlyphSet.ofText? text with
  | some chars => .ok (.ofSet chars)
  | none => .error (.glyphCount text.length)

/-- Whether a number can be that of a list entry: a signed number of 64 bits. -/
def isIndex (number : Int) : Bool := -9223372036854775808 ≤ number && number < 9223372036854775808

/-- The table of a standard kind. -/
def Kind.lookup (number : Int) : Except Fault GlyphTable :=
  match Kind.table? number with
  | some table => .ok table
  | none => .error (if isIndex number then .outOfRange else .hugeIndex)

/-- The glyph tables that settings ask for. -/
def Settings.tables (s : Settings) : Except Fault (List GlyphTable) :=
  match s.custom with
  | some text => (GlyphTable.ofText text).map ([·])
  | none => s.kinds.mapM Kind.lookup

end Pipework
