import Pipework.Text.Blank
import Pipework.Text.Digit

/-!
# Reading numerals

Blanks may stand around a numeral, its digits may be decimal digits of any script, and one underscore may
stand between two digits. Integers have a sign and digits, at most 4300 of them. Doubles have a sign and
either one of the words for infinity and not-a-number, or digits with at most one point and an exponent; they
are read as the nearest double, and as infinity beyond the largest.
-/

namespace Pipework.Decimal

open Text

/-- The most digits an integer may have. -/
def digitLimit : Nat := 4300

/-- The longest run of digits at the start of a text, with single underscores between them, and the rest. -/
def spanDigits : List Char → List Nat × List Char
  | [] => ([], [])
  | c :: '_' :: cs =>
    match digit? c with
    | none => ([], c :: '_' :: cs)
    | some d => if cs.head?.any isDigit then Prod.map (d :: ·) id (spanDigits cs) else ([d], '_' :: cs)
  | c :: cs =>
    match digit? c with
    | none => ([], c :: cs)
    | some d => Prod.map (d :: ·) id (spanDigits cs)

/-- Splits off a sign: whether it is a minus, and the rest. -/
def spanSign : List Char → Bool × List Char
  | '-' :: cs => (true, cs)
  | '+' :: cs => (false, cs)
  | cs => (false, cs)

/-- The integer that a text denotes. -/
def int? (cs : List Char) : Option Int :=
  let (negative, body) := spanSign (trim cs)
  match spanDigits body with
  | ([], _) => none
  | (ds, []) =>
    if ds.length ≤ digitLimit then
      some (if negative then -(ofDigits ds : Int) else ofDigits ds)
    else none
  | _ => none

/-- The exponent part of a numeral, zero if there is none. -/
def exponent? : List Char → Option Int
  | [] => some 0
  | e :: cs =>
    if e = 'e' ∨ e = 'E' then
      let (negative, body) := spanSign cs
      match spanDigits body with
      | (d :: ds, []) => some (if negative then -(ofDigits (d :: ds) : Int) else ofDigits (d :: ds))
      | _ => none
    else none

/-- The decimal exponents beyond which a numeral is infinite, or zero if they are negative. -/
def exponentBound : Int := 400

/-- The double nearest to the number with the given digits times `10 ^ exponent`. -/
def nearest (ds : List Nat) (exponent : Int) : Float :=
  let significant := ds.dropWhile (· = 0)
  let top := exponent + significant.length
  if significant.isEmpty ∨ top < -exponentBound then 0
  else if exponentBound < top then Float.ofScientific 1 false exponentBound.toNat
  else Float.ofScientific (ofDigits significant) (exponent < 0) exponent.natAbs

/-- The magnitude of a double that a text denotes. -/
def magnitude? (cs : List Char) : Option Float :=
  let word := String.ofList (cs.map Char.toLower)
  if word = "inf" ∨ word = "infinity" then some (1 / 0)
  else if word = "nan" then some (0 / 0)
  else
    let (whole, rest) := spanDigits cs
    let (part, rest) :=
      match rest with
      | '.' :: r => spanDigits r
      | r => ([], r)
    if whole.isEmpty && part.isEmpty then none
    else (exponent? rest).map fun e => nearest (whole ++ part) (e - part.length)

/-- The double that a text denotes. -/
def float? (cs : List Char) : Option Float :=
  let (negative, body) := spanSign (trim cs)
  (magnitude? body).map fun f => if negative then -f else f

end Pipework.Decimal
