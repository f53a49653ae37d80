import Pipework.Glyph
import Pipework.Palette

/-!
# Settings

What an animation is configured by, the defaults, and the rules that settings have to keep. `Settings.defect?`
is the first rule broken, in a fixed order; settings without a defect are valid.
-/

namespace Pipework

/-- What happens at an edge of the screen. Any unknown policy wraps. -/
inductive Boundary where
  | wrap
  | bounce
  | unknown (name : String)
deriving DecidableEq

namespace Boundary

def name : Boundary → String
  | wrap => "wrap"
  | bounce => "bounce"
  | unknown name => name

def ofName (name : String) : Boundary :=
  if name = wrap.name then wrap else if name = bounce.name then bounce else unknown name

/-- The name of an unknown policy. -/
def unknown? : Boundary → Option String
  | unknown name => some name
  | _ => none

end Boundary

/-- What an animation draws its random numbers from. -/
inductive Seed where
  /-- No seed is named, so any will do. -/
  | any
  | number (n : Int)
  /-- A seed left blank, from which nothing can be drawn. -/
  | blank
deriving DecidableEq

structure Settings where
  pipes : Int := 1
  /-- Frames per second. -/
  fps : Float := 75
  /-- The chance of a turn at each step, in percent. -/
  turnChance : Int := 13
  /-- The glyphs drawn before the canvas is wiped, zero for no limit. -/
  limit : Int := 2000
  /-- Seconds after which the animation ends. -/
  timeout : Option Float := none
  palette : Palette := .classic
  /-- Numbers of the kinds that pipes come in. -/
  kinds : List Int := [0]
  /-- A glyph set used in place of the kinds. -/
  custom : Option String := none
  boundary : Boundary := .wrap
  /-- Pipes start anywhere, not in the centre. -/
  randomStart : Bool := false
  /-- Pipes keep their colour and kind when they wrap. -/
  keepStyle : Bool := false
  bold : Bool := true
  color : Bool := true
  seed : Seed := .any

namespace Settings

/-! ## Validity -/

/-- A broken rule, with the value that breaks it. -/
inductive Defect where
  | pipes (n : Int)
  | fps (rate : Float)
  | turnChance (percent : Int)
  | limit (n : Int)
  | timeout (seconds : Float)
  | palette (name : String)
  | noKinds
  | kind (number : Int)
  | custom (length : Nat)
  | boundary (name : String)

/-- A positive finite number. -/
def isPositive (f : Float) : Bool := f.isFinite && 0 < f

/-- Whether a kind has the number. -/
def isKind (number : Int) : Bool := 0 ≤ number && number < Kind.all.length

/-! The rules, each with what breaks it. -/

namespace Defect

def ofPipes? (n : Int) : Option Defect := if n < 1 then some (.pipes n) else none

def ofFps? (rate : Float) : Option Defect := if isPositive rate then none else some (.fps rate)

def ofTurnChance? (percent : Int) : Option Defect :=
  if 0 ≤ percent ∧ percent ≤ 100 then none else some (.turnChance percent)

def ofLimit? (n : Int) : Option Defect := if n < 0 then some (.limit n) else none

def ofTimeout? (seconds : Option Float) : Option Defect :=
  (seconds.filter (!isPositive ·)).map .timeout

def ofPalette? (p : Palette) : Option Defect :=
  if p.colors?.isNone then some (.palette p.name) else none

def ofKind? (number : Int) : Option Defect := if isKind number then none else some (.kind number)

def ofCustom? (text : Option String) : Option Defect :=
  (text.filter (·.length ≠ 16)).map fun text => .custom text.length

def ofBoundary? (b : Boundary) : Option Defect := b.unknown?.map .boundary

end Defect

/-- The first rule broken, if one is. -/
def defect? (s : Settings) : Option Defect :=
  (Defect.ofPipes? s.pipes)
  |>.or (Defect.ofFps? s.fps)
  |>.or (Defect.ofTurnChance? s.turnChance)
  |>.or (Defect.ofLimit? s.limit)
  |>.or (Defect.ofTimeout? s.timeout)
  |>.or (Defect.ofPalette? s.palette)
  |>.or (if s.kinds.isEmpty then some .noKinds else none)
  |>.or (s.kinds.findSome? Defect.ofKind?)
  |>.or (Defect.ofCustom? s.custom)
  |>.or (Defect.ofBoundary? s.boundary)

/-- Settings that break no rule. -/
def Valid (s : Settings) : Prop := s.defect? = none

instance (s : Settings) : Decidable s.Valid :=
  decidable_of_iff (s.defect?.isNone = true) Option.isNone_iff_eq_none

theorem valid_iff (s : Settings) :
    s.Valid ↔
      1 ≤ s.pipes ∧ isPositive s.fps ∧ (0 ≤ s.turnChance ∧ s.turnChance ≤ 100) ∧ 0 ≤ s.limit ∧
      (∀ t, s.timeout = some t → isPositive t) ∧ s.palette.colors?.isSome ∧ s.kinds ≠ [] ∧
      (∀ number ∈ s.kinds, isKind number) ∧ (∀ text, s.custom = some text → text.length = 16) ∧
      s.boundary.unknown? = none := by
  obtain ⟨_, _, _, _, timeout, palette, _, custom, _, _, _, _, _, _⟩ := s
  simp only [Valid, defect?, Option.or_eq_none_iff, Defect.ofPipes?, Defect.ofFps?, Defect.ofTurnChance?,
    Defect.ofLimit?, Defect.ofTimeout?, Defect.ofPalette?, Defect.ofCustom?, Defect.ofBoundary?]
  cases timeout <;> cases custom <;> cases palette.colors? <;>
    simp [List.findSome?_eq_none_iff, Defect.ofKind?, and_assoc]

end Settings

end Pipework
