import Pipework.Proofs.Run

/-!
# Chronicles

Whatever is done with a scene comes down to tasks one after another. Some of them may wipe the canvas: ticks, resizes,
and resets that are asked for by themselves. Nothing else does. A run in particular is made of ticks, of a resize for
each resize key, and of polls, sleeps and the like. A chronicle tells the tasks in their order, each with the scene
that it began with and the one that it left, whether or not a fault ended it (`Scene.Recounts.after`).
-/

set_option linter.unusedSectionVars false

namespace Pipework

open Act

/-- What is to be done. A reset that a tick makes on its way is a part of the tick. -/
inductive Task where
  | tick
  | resize
  | reset
  | other
deriving DecidableEq

variable {ρ σ τ : Type} [RandomSource ρ] [Surface σ] [Clock σ τ]

/-- The task leads from one scene to another, whether or not a fault ends it. -/
inductive Task.Leads : Task → Scene ρ σ → Scene ρ σ → Prop where
  | tick (s : Scene ρ σ) : Leads .tick s (left (Scene.tick s))
  | resize (s : Scene ρ σ) : Leads .resize s (left (Scene.resize s))
  | reset (s : Scene ρ σ) : Leads .reset s (left (Scene.reset s))
  | spawn (s : Scene ρ σ) : Leads .other s (left (Scene.spawn s))
  | poll (s : Scene ρ σ) : Leads .other s (left (Scene.onSurface Surface.poll s))
  | now (s : Scene ρ σ) : Leads .other s (Scene.now s).2
  | running (s : Scene ρ σ) (running : Bool) : Leads .other s { s with running }
  | sleep (s : Scene ρ σ) (t : τ) : Leads .other s (left (Scene.onSurface (Clock.sleep t) s))
  | restore (s : Scene ρ σ) : Leads .other s (left (Scene.onSurface Surface.restore s))

/-- A task that has been done, with the scenes before and after it. -/
structure Chapter (ρ σ : Type) where
  task : Task
  before : Scene ρ σ
  after : Scene ρ σ

namespace Scene

/-- Tasks lead from one scene to another, and are told in their order. -/
inductive Chronicle (s : Scene ρ σ) : List (Chapter ρ σ) → Scene ρ σ → Prop where
  | start : Chronicle s [] s
  | concat {chapters : List (Chapter ρ σ)} {c : Chapter ρ σ} (earlier : Chronicle s chapters c.before)
      (leads : c.task.Leads c.before c.after) : Chronicle s (chapters ++ [c]) c.after

theorem Lasting.leads {S : Settings} {P : Scene ρ σ → Prop} (h : Lasting S (fun _ => True) P)
    (hwipe : ∀ s, P s → P s.wiped) {task : Task} {s s' : Scene ρ σ} (leads : task.Leads s s') (hs : P s) : P s' := by
  cases leads with
  | tick => exact (h.tick hs).left
  | resize => exact (h.resize hs).left
  | reset => exact (h.reset hwipe hs).left
  | spawn => exact (h.spawn hs).left
  | poll => exact (h.poll s hs).left
  | now => exact h.now s hs
  | running => exact h.running s _ hs
  | sleep => exact (h.sleep s _ hs).left
  | restore => exact (h.restore s hs).left

/-- There is a chronicle from one scene to another, with resets by themselves only if that is `allowed`. -/
def Recounts (allowed : Prop) (s s' : Scene ρ σ) : Prop :=
  ∃ chapters, s.Chronicle chapters s' ∧ ∀ c ∈ chapters, c.task = .reset → allowed

variable {allowed : Prop} {first s s' : Scene ρ σ}

namespace Recounts

theorem refl (s : Scene ρ σ) : Recounts allowed s s := ⟨[], .start, by simp⟩

theorem concat (h : first.Recounts allowed s) {task : Task} (leads : task.Leads s s')
    (hreset : task = .reset → allowed) : first.Recounts allowed s' := by
  obtain ⟨chapters, hchronicle, hresets⟩ := h
  refine ⟨_, hchronicle.concat (c := ⟨task, s, s'⟩) leads, ?_⟩
  exact List.forall_mem_append.2 ⟨hresets, List.forall_mem_singleton.2 hreset⟩

theorem attend (h : first.Recounts allowed s) :
    Ends (fun _ => first.Recounts allowed) (fun _ => first.Recounts allowed) (attend s) := by
  have hpoll := h.concat (.poll s) nofun
  refine (ends_left.2 hpoll).bind fun key s hs => ?_
  unfold obey
  split
  · exact ends_left.2 (hs.concat (.resize s) nofun)
  · split
    · exact hs
    · exact hs.concat (.running s false) nofun

theorem framewise : Framewise (first.Recounts allowed) fun _ => first.Recounts allowed where
  tick s hs := ends_left.2 (hs.concat (.tick s) nofun)
  attend _ hs := hs.attend
  now s hs := hs.concat (.now s) nofun
  running s running hs := hs.concat (.running s running) nofun
  sleep s t hs := ends_left.2 (hs.concat (.sleep s t) nofun)

theorem after [Time τ] {deeds : List (Deed τ)} (h : first.Recounts allowed s) (hreset : .reset ∈ deeds → allowed) :
    first.Recounts allowed (s.after deeds) := by
  induction deeds generalizing s with
  | nil => exact h
  | cons deed deeds ih =>
    refine ih ?_ fun hmem => hreset (List.mem_cons_of_mem _ hmem)
    cases deed with
    | tick => exact h.concat (.tick s) nofun
    | resize => exact h.concat (.resize s) nofun
    | reset => exact h.concat (.reset s) fun _ => hreset List.mem_cons_self
    | spawn => exact h.concat (.spawn s) nofun
    | run pace maxTicks most =>
      exact framewise.left_run (fun s hs => hs.concat (.restore s) nofun) h pace maxTicks most

end Recounts

end Scene

end Pipework
