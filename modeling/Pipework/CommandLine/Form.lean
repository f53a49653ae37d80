import Pipework.CommandLine.Stop

/-!
# Forms

A form holds the settings that a command line asks for, where the value of an option may have been left blank.
Its fields are checked in the order in which those of settings are, and the first that is blank or breaks a
rule stops the reading; a form that passes describes valid settings. A blank glyph set is an empty one, and a
blank seed breaks no rule: it fails only when numbers are to be drawn.
-/

namespace Pipework.CommandLine

open Settings

/-- Settings in which `none` stands for a value left blank. -/
structure Form where
  pipes : Option Int
  fps : Option Float
  turnChance : Option Int
  limit : Option Int
  timeout : Option (Option Float)
  palette : Option Palette
  kinds : List (Option Int)
  custom : Option String
  boundary : Boundary
  randomStart : Bool
  keepStyle : Bool
  bold : Bool
  color : Bool
  seed : Seed

namespace Form

/-- The form that describes settings. -/
def ofSettings (s : Settings) : Form where
  pipes := some s.pipes
  fps := some s.fps
  turnChance := some s.turnChance
  limit := some s.limit
  timeout := some s.timeout
  palette := some s.palette
  kinds := s.kinds.map some
  custom := s.custom
  boundary := s.boundary
  randomStart := s.randomStart
  keepStyle := s.keepStyle
  bold := s.bold
  color := s.color
  seed := s.seed

/-- The settings that a form describes, with the default kinds if none was named, and defaults for blanks. -/
def settings (f : Form) : Settings :=
  let usual : Settings := {}
  { pipes := f.pipes.getD usual.pipes
    fps := f.fps.getD usual.fps
    turnChance := f.turnChance.getD usual.turnChance
    limit := f.limit.getD usual.limit
    timeout := f.timeout.getD usual.timeout
    palette := f.palette.getD usual.palette
    kinds := if f.kinds.isEmpty then usual.kinds else f.kinds.filterMap id
    custom := f.custom
    boundary := f.boundary
    randomStart := f.randomStart
    keepStyle := f.keepStyle
    bold := f.bold
    color := f.color
    seed := f.seed }

/-- The stop at a value, if it is blank or breaks a rule. -/
def check {α : Type} (field : Field) (rule : α → Option Defect) : Option α → Option Stop
  | none => some (.blank field)
  | some a => (rule a).map fun defect => .misuse (.invalid defect)

/-- The stop at the first field that is blank or breaks a rule. -/
def stop? (f : Form) : Option Stop :=
  (check .pipes Defect.ofPipes? f.pipes)
  |>.or (check .fps Defect.ofFps? f.fps)
  |>.or (check .turnChance Defect.ofTurnChance? f.turnChance)
  |>.or (check .limit Defect.ofLimit? f.limit)
  |>.or (check .timeout Defect.ofTimeout? f.timeout)
  |>.or (check .palette Defect.ofPalette? f.palette)
  |>.or (f.kinds.findSome? (check .kind Defect.ofKind?))
  |>.or ((Defect.ofCustom? f.custom).map fun defect => .misuse (.invalid defect))
  |>.or ((Defect.ofBoundary? f.boundary).map fun defect => .misuse (.invalid defect))

/-- The settings that a form describes, unless a field stops the reading. -/
def finish (f : Form) : Except Stop Settings :=
  match f.stop? with
  | some stop => .error stop
  | none => .ok f.settings

/-- A form of settings with kinds describes them. -/
theorem settings_ofSettings {s : Settings} (h : s.kinds ≠ []) : (ofSettings s).settings = s := by
  obtain ⟨_, _, _, _, _, _, _, _, _, _, _, _, _, _⟩ := s
  simp_all [ofSettings, settings]

/-- Without blanks, the stop is at the first rule that the settings break. -/
theorem stop?_ofSettings {s : Settings} (h : s.kinds ≠ []) :
    (ofSettings s).stop? = s.defect?.map fun defect => .misuse (.invalid defect) := by
  have kinds (l : List Int) : (l.map some).findSome? (check .kind Defect.ofKind?)
      = (l.findSome? Defect.ofKind?).map fun defect => .misuse (.invalid defect) := by
    induction l with
    | nil => rfl
    | cons n l ih =>
      rw [List.map_cons, List.findSome?_cons, List.findSome?_cons, ih, check]
      cases Defect.ofKind? n <;> rfl
  simp [ofSettings, stop?, defect?, check, kinds, h, Option.map_or]

end Form

end Pipework.CommandLine
