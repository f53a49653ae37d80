import Pipework.CommandLine.Usage
import Pipework.Random.Twister
import Pipework.Scene.Run
import Pipework.Terminal

/-!
# The program

The animation on a window, and the program around it: it reads its command line, refuses to run without a
terminal, hands the window to the animation, and turns the way that ends into an exit status and messages.
-/

namespace Pipework

section Animate

variable {ρ τ : Type} [RandomSource ρ] [Time τ]

/--
Runs the animation on a window for at most `most` frames, and gives the ticks run, or none if it would go on.
A source that cannot be had is noticed once the terminal is set up.
-/
def animate (s : Settings) (pace : Pace τ) (source : Except Fault ρ) (most : Nat) :
    Act (Window τ) (Option Nat) :=
  fun window =>
    match s.palette.numbers? with
    | none => .error (.missingPalette s.palette.name) window
    | some palette =>
      match Terminal.setup ⟨window, palette, s.bold, s.color, none⟩ with
      | .error e t => .error e t.window
      | .ok () t =>
        match source.bind fun g => Scene.create s g t with
        | .error e => .error e t.window
        | .ok scene =>
          match scene.run pace none most with
          | .error e scene => .error e scene.surface.window
          | .ok ticks scene => .ok ticks scene.surface.window

end Animate

/-- The random source for a seed; `entropy` takes the place of one that is not named. -/
def Seed.source (entropy : Int) : Seed → Except Fault Twister
  | any => .ok (.ofSeed entropy)
  | number n => .ok (.ofSeed n)
  | blank => .error (.blank .seed)

namespace Program

/-- What the program asks of the system around it. -/
inductive Request where
  /-- From now on the signal to terminate ends the program with status zero. -/
  | onTerminate
  /-- Takes over the terminal, to give it back when the animation ends. -/
  | takeTerminal
deriving DecidableEq

/-- How the program ends. -/
inductive Ending where
  /-- It comes to its end with a status. -/
  | returned (status : Nat)
  /-- It exits early with a status. -/
  | exited (status : Nat)
  | failed (fault : Fault)
  /-- It would go on. -/
  | unfinished

/-- What a run of the program leaves behind. -/
structure Report (τ : Type) where
  ending : Ending
  output : String := ""
  errors : String := ""
  requests : List Request := []
  window : Window τ

/-- The complaint of a program whose output is no terminal. -/
def needsTerminal : String := "Error: pipesaver needs a terminal.\n"

/-- The complaint about a terminal that refused a request. -/
def terminalComplaint (details : String) : String :=
  CommandLine.lines
    ["Error: cannot initialize terminal. " ++
      "Ensure TERM is set and you're running in a supported terminal.",
     s!"Details: {details}"]

/-- How the program ends when the animation does, and its complaint. -/
def ending : Except Fault (Option Nat) → Ending × String
  | .ok (some _) => (.returned 0, "")
  | .ok none => (.unfinished, "")
  | .error (.terminal details) => (.returned 1, terminalComplaint details)
  | .error (.interrupt _) => (.returned 0, "")
  | .error .terminate => (.exited 0, "")
  | .error e => (.failed e, "")

/-- The program, given its arguments, whether its output is a terminal, and the window it would get. -/
def run (arguments : List String) (isTerminal : Bool) (entropy : Int) (most : Nat) (window : Window Float) :
    Report Float :=
  match CommandLine.read arguments with
  | .error stop =>
    match stop.exit with
    | .ok exit => { ending := .exited exit.status, output := exit.output, errors := exit.errors, window }
    | .error e => { ending := .failed e, window }
  | .ok s =>
    if !isTerminal then { ending := .returned 1, errors := needsTerminal, window }
    else
      let performance : Act (Window Float) (Option Nat) := do
        Window.meet .wrapper
        animate s s.pace (s.seed.source entropy) most
      let (result, window) := match performance window with
        | .ok ticks w => (.ok ticks, w)
        | .error e w => (.error e, w)
      let (ending, errors) := ending result
      { ending, errors, requests := [.onTerminate, .takeTerminal], window }

end Program

end Pipework
