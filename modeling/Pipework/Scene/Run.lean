import Pipework.Scene

/-!
# Runs

A run repeats frames: a tick, a poll for a key, and a sleep for what is left of the frame. It ends at a key
other than a resize, once the timeout has passed, or after a given number of ticks, each checked at the end of
a frame, so one tick is always run. An interrupt ends it quietly, any other fault ends it with that fault, and
in every case the surface is given back.
-/

namespace Pipework

namespace Scene

variable {ρ σ τ : Type} [RandomSource ρ] [Surface σ] [Clock σ τ] [Time τ]

/-- What a run goes by: the duration of a frame, and when to end. -/
structure Plan (τ : Type) where
  delay : τ
  deadline : Option τ
  maxTicks : Option Int

/-- Reads the clock. -/
def now (s : Scene ρ σ) : τ × Scene ρ σ :=
  let (t, surface) := Clock.now s.surface
  (t, { s with surface })

/-- Reads the clock as an act. -/
def readClock : Act (Scene ρ σ) τ := fun s => let (t, s) := now s; .ok t s

/-- Ends the run at the end of the frame. -/
def stop : Act (Scene ρ σ) Unit := modify fun s => { s with running := false }

/-- A resize key starts the scene afresh; any other key stops it. -/
def obey (key : Key) : Act (Scene ρ σ) Unit :=
  if key = Key.resize then resize
  else if key = Key.none then pure ()
  else stop

/-- Stops once the deadline is reached. -/
def checkDeadline (plan : Plan τ) : Act (Scene ρ σ) Unit :=
  match plan.deadline with
  | none => pure ()
  | some deadline => do
    if deadline ≤ (← readClock) then stop

/-- Stops once enough ticks have been run. -/
def checkTicks (plan : Plan τ) (ticks : Nat) : Act (Scene ρ σ) Unit :=
  match plan.maxTicks with
  | none => pure ()
  | some most => if most ≤ ticks then stop else pure ()

/-- Sleeps for what is left of a frame that began at `start`, unless it is the last. -/
def pause (plan : Plan τ) (start : τ) : Act (Scene ρ σ) Unit := do
  if (← get).running then
    let elapsed := (← readClock) - start
    onSurface (Clock.sleep (Time.positivePart (plan.delay - elapsed)))

/-- What follows the tick of a frame that began at `start`; `ticks` counts that tick. -/
def settle (plan : Plan τ) (start : τ) (ticks : Nat) : Act (Scene ρ σ) Unit := do
  obey (← onSurface Surface.poll)
  checkDeadline plan
  checkTicks plan ticks
  pause plan start

/-- One frame after `ticks` ticks: the ticks then run, and how the frame ended. -/
def frame (plan : Plan τ) (ticks : Nat) (s : Scene ρ σ) : Nat × EStateM.Result Fault (Scene ρ σ) Unit :=
  let (start, s) := now s
  match tick s with
  | .error e s => (ticks, .error e s)
  | .ok () s => (ticks + 1, settle plan start (ticks + 1) s)

/-- At most `frames` frames, while the scene is running. -/
def frames (plan : Plan τ) : Nat → Nat → Scene ρ σ → Nat × EStateM.Result Fault (Scene ρ σ) Unit
  | 0, ticks, s => (ticks, .ok () s)
  | n + 1, ticks, s =>
    match frame plan ticks s with
    | (ticks, .ok () s) => if s.running then frames plan n ticks s else (ticks, .ok () s)
    | ended => ended

/-- Gives the surface back. -/
def close : Act (Scene ρ σ) Unit := do
  stop
  onSurface Surface.restore

/-- The plan of a run that starts now; none for a frame rate of zero. -/
def plan? (pace : Pace τ) (maxTicks : Option Int) (s : Scene ρ σ) : Option (Plan τ) × Scene ρ σ :=
  match pace.delay? with
  | none => (none, s)
  | some delay =>
    match pace.timeout with
    | none => (some ⟨delay, none, maxTicks⟩, s)
    | some timeout =>
      let (t, s) := now s
      (some ⟨delay, some (t + timeout), maxTicks⟩, s)

/--
Runs for at most `most` frames and gives the ticks run, or none if the run would go on. A fault of giving the
surface back takes the place of the fault that ended the run.
-/
def run (pace : Pace τ) (maxTicks : Option Int) (most : Nat) : Act (Scene ρ σ) (Option Nat) := fun s =>
  match plan? pace maxTicks s with
  | (none, s) => .error .zeroRate s
  | (some plan, s) =>
    match frames plan most 0 { s with running := true } with
    | (ticks, .ok () s) => if s.running then .ok none s else (do close; return some ticks : Act _ _) s
    | (ticks, .error (.interrupt _) s) => (do close; return some ticks : Act _ _) s
    | (_, .error e s) => (do close; Act.fail e : Act _ _) s

end Scene

end Pipework
