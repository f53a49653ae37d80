import Pipework.Program
import Pipework.Terminal.Escape

/-!
# The command

Runs the animation on the terminal: before each part of a frame the clock and the keyboard are looked at, and
after it the calls made on the window are carried out.
-/

namespace Pipework.Live

abbrev Show := Scene Twister (Terminal Float)

/-- Seconds on the system's clock. -/
def seconds : IO Float := return (← IO.monoNanosNow).toFloat / 1000000000

/-- A whole number in the environment, such as the width of the terminal. -/
def measure (name : String) (usual : Int) : IO Int := do
  return ((← IO.getEnv name).bind (·.toInt?)).getD usual

/-- Waits for a key in the background and then sets a flag. -/
def watchKeys (typed : IO.Ref Bool) : IO Unit := do
  let input ← IO.getStdin
  let watch : IO Unit := do
    discard (input.read 1)
    typed.set true
  discard (IO.asTask watch .dedicated)

/-- Carries out the calls made on a window since the last time. -/
def flush (pairs : Pairs) (w : Window Float) : IO (Pairs × Window Float) := do
  let (text, pairs) := Call.sequences pairs w.calls
  let output ← IO.getStdout
  output.putStr text
  output.flush
  return (pairs, { w with log := [] })

/-- A window that knows the time and the keys typed. -/
def refreshed (typed : IO.Ref Bool) (w : Window Float) : IO (Window Float) := do
  let time ← seconds
  let keys := if ← typed.get then [0] else []
  return { w with script := { w.script with time, keys, sleepLog := [] } }

def withWindow (s : Show) (f : Window Float → IO (Window Float)) : IO Show := do
  let window ← f s.surface.window
  return { s with surface := { s.surface with window } }

/-- Carries out the calls that a scene has made. -/
def flushed (pairs : IO.Ref Pairs) (s : Show) : IO Show :=
  withWindow s fun w => do
    let (ps, w) ← flush (← pairs.get) w
    pairs.set ps
    return w

/-- Repeats frames until one stops the scene; gives how the last one ended. -/
partial def frames (typed : IO.Ref Bool) (pairs : IO.Ref Pairs) (plan : Scene.Plan Float) (ticks : Nat)
    (s : Show) : IO (EStateM.Result Fault Show Unit) := do
  let (start, s) := Scene.now (← withWindow s (refreshed typed))
  match Scene.tick s with
  | .error e s => return .error e s
  | .ok () s =>
    let s ← flushed pairs s
    match Scene.settle plan start (ticks + 1) (← withWindow s (refreshed typed)) with
    | .error e s => return .error e s
    | .ok () s =>
      let s ← flushed pairs s
      if s.running then
        let pause := s.surface.window.script.sleeps.headD 0
        IO.sleep (pause * 1000).toUInt32
        frames typed pairs plan (ticks + 1) s
      else return .ok () s

/--
Runs an animation to its end. A program cannot end while it waits for a key, so the keyboard is watched only
where no timeout ends the animation.
-/
def perform (s : Settings) : IO (Except Fault (Option Nat)) := do
  let typed ← IO.mkRef false
  if s.timeout.isNone then watchKeys typed
  let pairs ← IO.mkRef []
  let script : Script Float := {
    width := ← measure "COLUMNS" 80, height := ← measure "LINES" 24, keys := [], sizes := []
    time := ← seconds, costs := fun _ => 0, traps := [] }
  let some palette := s.palette.numbers? | return .error (.missingPalette s.palette.name)
  match Terminal.setup ⟨{ script, cursor := some 1, colors := true }, palette, s.bold, s.color, none⟩ with
  | .error e _ => return .error e
  | .ok () t =>
    let entropy : Nat ← IO.monoNanosNow
    match (s.seed.source entropy).bind fun g => Scene.create s g t with
    | .error e => return .error e
    | .ok scene =>
      let (some plan, scene) := Scene.plan? s.pace none scene | return .error .zeroRate
      let ended ← frames typed pairs plan 0 { scene with running := true }
      let (scene, outcome) := match ended with
        | .ok () s => (s, .ok (some 0))
        | .error e s => (s, .error e)
      match Scene.close scene with
      | .ok () scene => discard (flushed pairs scene)
      | .error _ scene => discard (flushed pairs scene)
      return outcome

end Pipework.Live

open Pipework in
def main (arguments : List String) : IO UInt32 := do
  let output ← IO.getStdout
  let errors ← IO.getStderr
  match CommandLine.read arguments with
  | .error stop =>
    match stop.exit with
    | .error e => throw (IO.userError e.message)
    | .ok exit =>
      output.putStr exit.output
      errors.putStr exit.errors
      return exit.status.toUInt32
  | .ok s =>
    if !(← output.isTty) then
      errors.putStr Program.needsTerminal
      return 1
    output.putStr enterScreen
    let outcome ← Live.perform s
    output.putStr leaveScreen
    output.flush
    let (ending, complaint) := Program.ending outcome
    errors.putStr complaint
    match ending with
    | .returned status => return status.toUInt32
    | .exited status => return status.toUInt32
    | .failed e => throw (IO.userError e.message)
    | .unfinished => return 0
