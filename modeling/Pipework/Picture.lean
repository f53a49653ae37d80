import Pipework.Surface

/-!
# Pictures

What a surface shows after a sequence of events: in each cell the last glyph put there since the last clear,
else a space.
-/

namespace Pipework

/-- The marks that a surface shows, the latest first; later marks cover earlier ones. -/
abbrev Picture := List Mark

namespace Picture

/-- The marks put since the last clear, the latest first. -/
def after (p : Picture) : Event → Picture
  | .put m => m :: p
  | .clear => []
  | .refresh => p
  | .restore => p

/-- The picture that events leave, the latest event given first. -/
def ofLog (log : List Event) : Picture := log.foldr (fun e p => p.after e) []

/-- What a cell shows. -/
def glyph (p : Picture) (x y : Int) : Char :=
  ((p.find? fun m => m.x = x && m.y = y).map Mark.glyph).getD ' '

/-- The rows of a screen, from the top. -/
def rows (p : Picture) (width height : Int) : List String :=
  (List.range height.toNat).map fun (y : Nat) =>
    String.ofList ((List.range width.toNat).map fun (x : Nat) => p.glyph x y)

end Picture

end Pipework
