import Pipework.CommandLine.Form
import Pipework.CommandLine.Word
import Pipework.Decimal.Numeral

/-!
# Reading the command line

The words of a command line are read from left to right. Each use of an option gives requests: the letters of
flags may stand together, and the last letter may take a value. A request fills in the form at once, or ends
the reading; a value of two dashes leaves its field blank. Words that belong to no option are collected and
complained about at the end; only then is the form checked.
-/

namespace Pipework.CommandLine

/-- An option to be carried out, with its value if it takes one. -/
structure Request where
  opt : Opt
  value : Option (List Char)
deriving DecidableEq

/-! ## Requests -/

/-- The requests of one use, and the option among them that takes the next word as its value. -/
abbrev Requests := List Request × Option Opt

/-- An option to which nothing is attached. -/
def alone (o : Opt) : Requests := if o.takesValue then ([], some o) else ([⟨o, none⟩], none)

/-- A letter with a text attached: its value, or more letters after a flag. -/
def cluster (o : Opt) : List Char → Except Misuse Requests
  | [] => .ok (alone o)
  | c :: rest =>
    if o.takesValue then .ok ([⟨o, some (c :: rest)⟩], none)
    else
      match Opt.ofLetter? c with
      | none => .error (.unwantedValue o (c :: rest))
      | some next => (cluster next rest).map (Prod.map (⟨o, none⟩ :: ·) id)

/-- The requests of a use. -/
def Use.requests (u : Use) : Except Misuse Requests :=
  match u.attached with
  | none => .ok (alone u.opt)
  | some text =>
    if u.opt.takesValue then .ok ([⟨u.opt, some text⟩], none)
    else if u.byLetter && !text.isEmpty then cluster u.opt text
    else .error (.unwantedValue u.opt text)

/-! ## Carrying requests out -/

/-- A value as it is read, or the complaint about one that cannot be. -/
def converted {α : Type} (read : List Char → Option α) (complaint : List Char → Misuse) :
    Option (List Char) → Except Stop (Option α)
  | none => .ok none
  | some text =>
    match read text with
    | some a => .ok (some a)
    | none => .error (.misuse (complaint text))

/-- A value as an integer. -/
def integer (o : Opt) : Option (List Char) → Except Stop (Option Int) :=
  converted Decimal.int? (.notInteger o)

/-- A value as a double. -/
def number (o : Opt) : Option (List Char) → Except Stop (Option Float) :=
  converted Decimal.float? (.notNumber o)

/-- The palette that a text names. -/
def paletteNamed? (text : List Char) : Option Palette := Palette.all.find? (·.name.toList = text)

/-- A value as the name of a palette. -/
def paletteName (o : Opt) : Option (List Char) → Except Stop (Option Palette) :=
  converted paletteNamed? (.notPalette o)

/-- The text of a value; two dashes leave the value blank. -/
def Request.text? (r : Request) : Option (List Char) := r.value.filter (· ≠ dashes)

/-- The form after a request. -/
def carryOut (f : Form) (r : Request) : Except Stop Form :=
  let text := r.text?
  match r.opt with
  | .help => .error .help
  | .version => .error .version
  | .pipes => (integer r.opt text).map fun n => { f with pipes := n }
  | .fps => (number r.opt text).map fun rate => { f with fps := rate }
  | .turnChance => (integer r.opt text).map fun n => { f with turnChance := n }
  | .limit => (integer r.opt text).map fun n => { f with limit := n }
  | .timeout => (number r.opt text).map fun t => { f with timeout := t.map some }
  | .palette => (paletteName r.opt text).map fun p => { f with palette := p }
  | .kind => (integer r.opt text).map fun n => { f with kinds := f.kinds ++ [n] }
  | .custom => .ok { f with custom := some (String.ofList (text.getD [])) }
  | .bounce => .ok { f with boundary := .bounce }
  | .randomStart => .ok { f with randomStart := true }
  | .keepStyle => .ok { f with keepStyle := true }
  | .noBold => .ok { f with bold := false }
  | .noColor => .ok { f with color := false }
  | .seed => (integer r.opt text).map fun n => { f with seed := n.elim .blank .number }

/-- The form after some requests in turn. -/
def carryOutAll (f : Form) (rs : List Request) : Except Stop Form := rs.foldlM carryOut f

/-! ## Command lines -/

/-- What has been read: the form as filled in so far, and the words that belong to no option. -/
structure Draft where
  form : Form
  leftover : List (List Char) := []

/-- Sets a word aside. -/
def Draft.setAside (d : Draft) (text : List Char) : Draft := { d with leftover := d.leftover ++ [text] }

/-- Reads the remaining words. -/
def readWords : List Word → Draft → Except Stop Draft
  | [], d => .ok d
  | .use u :: ws, d =>
    match u.requests with
    | .error m => .error (.misuse m)
    | .ok (rs, none) => do readWords ws { d with form := ← carryOutAll d.form rs }
    | .ok (rs, some o) =>
      match ws with
      | .plain text :: ws => do
        readWords ws { d with form := ← carryOutAll d.form (rs ++ [⟨o, some text⟩]) }
      | _ => .error (.misuse (.missingValue o))
  | .plain text :: ws, d => readWords ws (d.setAside text)
  | .unknown text :: ws, d => readWords ws (d.setAside text)
  | .dashes :: ws, d => readWords ws (d.setAside dashes)

/-- What reading starts from: the defaults, and no kinds yet. -/
def Draft.initial : Draft := ⟨.ofSettings { kinds := [] }, []⟩

/-- The settings of a finished draft. -/
def Draft.finish (d : Draft) : Except Stop Settings :=
  if d.leftover.isEmpty then d.form.finish else .error (.misuse (.leftover d.leftover))

/-- The settings that the arguments ask for. -/
def read (arguments : List String) : Except Stop Settings :=
  match words (arguments.map String.toList) with
  | .error m => .error (.misuse m)
  | .ok ws => do (← readWords ws .initial).finish

end Pipework.CommandLine
