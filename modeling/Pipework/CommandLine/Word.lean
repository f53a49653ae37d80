import Pipework.CommandLine.Misuse
import Pipework.Text.Digit

/-!
# Words of the command line

Each argument is a word of one of four sorts: a use of an option, a text that can be a value, a text that
looks like an option and is none, or the two dashes after which all words are plain. An option is used by its
letter, by its long name, or by any beginning of the long name that no other option shares; a value may be
attached to it.
-/

namespace Pipework.CommandLine

/-- A use of an option, by its letter or by its name, with the text attached to it. -/
structure Use where
  opt : Opt
  byLetter : Bool
  attached : Option (List Char)
deriving DecidableEq

inductive Word where
  | use (use : Use)
  | plain (text : List Char)
  | unknown (text : List Char)
  | dashes
deriving DecidableEq

/-- The two dashes that end the options. -/
def dashes : List Char := ['-', '-']

/-- The use that a text spells in full. -/
def inFull? (text : List Char) (attached : Option (List Char)) : Option Use :=
  match Opt.all.find? (·.long = text) with
  | some o => some ⟨o, false, attached⟩
  | none => (Opt.all.find? (·.short? = some text)).map (⟨·, true, attached⟩)

/-- A text up to its first equals sign, and the text after it. -/
def splitEquals (text : List Char) : List Char × Option (List Char) :=
  match text.dropWhile (· ≠ '=') with
  | [] => (text, none)
  | _ :: value => (text.takeWhile (· ≠ '='), some value)

/-- The uses that a text can stand for: options whose name it begins, or a letter with the rest attached. -/
def candidates (text : List Char) : List Use :=
  let (name, attached) := splitEquals text
  if dashes.isPrefixOf text then
    (Opt.all.filter fun o => name.isPrefixOf o.long).map (⟨·, false, attached⟩)
  else
    (Opt.all.filter (·.short? = some (text.take 2))).map (⟨·, true, some (text.drop 2)⟩)

/-- The use of an option that a text spells in full, alone or before an equals sign. -/
def spelled? (text : List Char) : Option Use :=
  match inFull? text none with
  | some u => some u
  | none =>
    match splitEquals text with
    | (name, some value) => inFull? name (some value)
    | (_, none) => none

/-- A text without a line feed at its end. -/
def dropLineEnd (text : List Char) : List Char :=
  if text.getLast? = some '\n' then text.dropLast else text

/-- Whether a text is a negative number in plain notation; a line feed may follow. -/
def isNegativeNumber (text : List Char) : Bool :=
  match dropLineEnd text with
  | '-' :: body =>
    match body.dropWhile Text.isDigit with
    | [] => !body.isEmpty
    | '.' :: part => !part.isEmpty && part.all Text.isDigit
    | _ => false
  | _ => false

/-- Whether a text could be meant as an option: a dash and at least one more character. -/
def looksLikeOption : List Char → Bool
  | '-' :: _ :: _ => true
  | _ => false

/-- The word that an argument before the two dashes is. -/
def Word.ofText (text : List Char) : Except Misuse Word :=
  if !looksLikeOption text then .ok (.plain text)
  else
    match spelled? text with
    | some u => .ok (.use u)
    | none =>
      match candidates text with
      | [u] => .ok (.use u)
      | [] => .ok (if isNegativeNumber text || text.contains ' ' then .plain text else .unknown text)
      | us => .error (.ambiguous text (us.map Use.opt))

/-- The words of a command line. -/
def words : List (List Char) → Except Misuse (List Word)
  | [] => .ok []
  | text :: rest =>
    if text = dashes then .ok (.dashes :: rest.map .plain)
    else do return (← Word.ofText text) :: (← words rest)

end Pipework.CommandLine
