import Pipework.CommandLine.Reader

/-!
# Usage, help and complaints

The texts that the program writes when its command line gives no settings, and the status with which it exits.
-/

namespace Pipework.CommandLine

def programName : String := "pipesaver"

def programVersion : String := "1.3.0"

/-- Lines of text, each ended by a line feed. -/
def lines (ls : List String) : String := String.join (ls.map (· ++ "\n"))

/-- The option as the usage shows it. -/
def Opt.bracketed (o : Opt) : String :=
  let spelling := o.spellings.headD ""
  match o.value? with
  | some value => s!"[{spelling} {value}]"
  | none => s!"[{spelling}]"

/-- The options that each line of the usage holds. -/
def usageRows : List (List Opt) :=
  [[.help, .pipes, .fps, .turnChance, .limit],
   [.timeout, .palette, .kind],
   [.custom, .bounce, .randomStart, .keepStyle, .noBold, .noColor, .seed, .version]]

/-- The usage: the lines after the first are indented to the first option. -/
def usage : String :=
  let start := s!"usage: {programName}"
  let indent := String.ofList (List.replicate start.length ' ')
  let row := fun (os : List Opt) => " ".intercalate (os.map Opt.bracketed)
  lines (List.zipWith (fun first os => s!"{first} {row os}") [start, indent, indent] usageRows)

/-- What an option does, in the lines that the help shows. -/
def Opt.description : Opt → List String
  | help => ["show this help message and exit"]
  | pipes => ["Number of pipes (default: 1)"]
  | fps => ["Frames per second (default: 75)"]
  | turnChance => ["Chance in percent that a pipe turns on each step,", "0-100 (default: 13)"]
  | limit => ["Characters drawn before the screen is wiped, 0 for no", "limit (default: 2000)"]
  | timeout => ["Exit after this many seconds"]
  | palette => ["Color palette (default: classic)"]
  | kind =>
    ["Pipe kind, repeat to mix kinds (0 heavy, 1 rounded, 2",
     "light, 3 double, 4 ascii-plus, 5 ascii-slash, 6 dots,",
     "7 circles, 8 railway, 9 knobby; default: 0)"]
  | custom => ["Custom 16-character pipe set, overrides --kind"]
  | bounce => ["Bounce off the terminal edges instead of wrapping", "around"]
  | randomStart => ["Start pipes at random positions instead of the centre"]
  | keepStyle => ["Keep color and kind when a pipe wraps around an edge"]
  | noBold => ["Disable bold"]
  | noColor => ["Disable color"]
  | seed => ["Seed for the random number generator"]
  | version => ["show program's version number and exit"]

/-- The column in which descriptions start. -/
def descriptionColumn : Nat := 24

/-- A text filled up with spaces to a width. -/
def padded (width : Nat) (text : String) : String :=
  text ++ String.ofList (List.replicate (width - text.length) ' ')

/-- An option in the help: its spellings, then its description, on a new line if there is no room. -/
def Opt.entry (o : Opt) : List String :=
  let spelling := fun (name : String) => match o.value? with
    | some value => s!"{name} {value}"
    | none => name
  let head := "  " ++ ", ".intercalate (o.spellings.map spelling)
  let body := o.description.map (padded descriptionColumn "" ++ ·)
  if head.length + 2 ≤ descriptionColumn then
    (padded descriptionColumn head ++ o.description.headD "") :: body.drop 1
  else head :: body

def help : String :=
  usage ++ lines
    (["", "Animated pipes terminal screensaver. Press any key to quit.", "", "options:"]
      ++ Opt.all.flatMap Opt.entry)

/-- An exit of the program, and what it writes before. -/
structure Exit where
  status : Nat
  output : String := ""
  errors : String := ""

/-- The exit that a stop leads to. A misuse shows the usage and a complaint; a blank that is needed is a fault. -/
def Stop.exit : Stop → Except Fault Exit
  | help => .ok { status := 0, output := CommandLine.help }
  | version => .ok { status := 0, output := lines [s!"{programName} {programVersion}"] }
  | misuse m => .ok { status := 2, errors := usage ++ lines [s!"{programName}: error: {m.message}"] }
  | blank field => .error (.blank field)

end Pipework.CommandLine
