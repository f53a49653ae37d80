import Pipework.Proofs.Enduring
import Pipework.Proofs.Scene

/-!
# What lasts

Whatever is done with a scene is a sequence of deeds, a run being one of them, and a deed that ends in a fault
leaves a scene to go on from. A property lasts if the scenes with it are framed and none of the few things that
an animation does with its surface breaks it (`Lasting`); then it lasts through ticks, through frames, through
runs of any length, and through all deeds (`Lasting.after`).
-/

set_option linter.unusedSectionVars false

namespace Pipework

open Act

/-- Something done with a scene. -/
inductive Deed (τ : Type) where
  | tick
  | resize
  | reset
  | spawn
  | run (pace : Pace τ) (maxTicks : Option Int) (most : Nat)

namespace Scene

variable {ρ σ τ : Type} [RandomSource ρ] [Surface σ] [Clock σ τ]

/-- A property of framed scenes that no call on the surface breaks; only faults with `F` end such a call. -/
structure Lasting (S : Settings) (F : Fault → Prop) (P : Scene ρ σ → Prop) : Prop where
  framed : ∀ s, P s → s.Framed S
  pipes : ∀ s pipes g, P s → (s.withPipes pipes g).Framed S → P (s.withPipes pipes g)
  running : ∀ s running, P s → P { s with running }
  now : ∀ s, P s → P (now s).2
  draw : ∀ s mark, P s → s.CanDraw S mark → Keeps F P (draw mark s.withRoom)
  refresh : ∀ s, P s → Keeps F P (onSurface Surface.refresh s)
  poll : ∀ s, P s → Keeps F P (onSurface Surface.poll s)
  sleep : ∀ s t, P s → Keeps F P (onSurface (Clock.sleep t) s)
  restore : ∀ s, P s → Keeps F P (onSurface Surface.restore s)
  size : ∀ s, P s → 1 ≤ (Surface.size s.surface).1.1 ∧ 1 ≤ (Surface.size s.surface).1.2
  resized : ∀ s pipes g, P s → (s.resized pipes g).Framed S → P (s.resized pipes g)

namespace Lasting

variable {S : Settings} {F : Fault → Prop} {P : Scene ρ σ → Prop} {s : Scene ρ σ}

/-! ## Steps -/

theorem stepPipe (h : Lasting S F P) (hs : P s) {i : Nat} (hi : i < s.pipes.length) :
    Keeps F P (stepPipe i s) := by
  obtain ⟨pipes, p, g, entry, w, -, hp, -, hadvance, hstep, hframed⟩ := stepPipe_advance (h.framed s hs) hi
  -- the wipe comes first, but it leaves the pipes alone
  have hswap (pipes : List Pipe) (g : ρ) : s.withRoom.withPipes pipes g = (s.withPipes pipes g).withRoom := by
    unfold Scene.withRoom
    change _ = if s.isFull then _ else _
    split <;> rfl
  have hfit : s.AllFit S (pipes.set i w.pipe) := by
    intro p hp
    have hfits := hframed.fits p hp
    revert hfits
    unfold Scene.withRoom
    split <;> exact id
  have hframed' : (s.withPipes (pipes.set i w.pipe) w.source).Framed S :=
    (h.framed s hs).toReady.framed hframed.count hfit
  have hmem : w.pipe ∈ pipes.set i w.pipe := List.mem_set (List.getElem?_eq_some_iff.1 hp).1 w.pipe
  rw [hstep, hswap]
  exact h.draw _ _ (h.pipes s _ _ hs hframed') ⟨⟨p, g⟩, w, hadvance, hfit _ hmem⟩

theorem spawn (h : Lasting S F P) (hs : P s) : Keeps F P (spawn s) := by
  obtain ⟨pipes, g, hspawn, hframed⟩ := spawn_eq (h.framed s hs).toReady
  rw [hspawn]
  exact h.pipes s pipes g hs hframed

theorem resize (h : Lasting S F P) (hs : P s) : Keeps F P (resize s) := by
  obtain ⟨hw, hh⟩ := h.size s hs
  obtain ⟨pipes, g, hresize, hframed⟩ := resize_eq (h.framed s hs).toReady hw hh
  rw [hresize]
  exact h.resized s pipes g hs hframed

theorem reset (h : Lasting S F P) (hwipe : ∀ s, P s → P s.wiped) (hs : P s) : Keeps F P (reset s) := by
  obtain ⟨pipes, g, hreset, hframed, -⟩ := reset_eq (h.framed s hs)
  rw [hreset]
  exact h.pipes s.wiped pipes g (hwipe s hs) hframed

/-! ## Frames and runs -/

theorem attend (h : Lasting S F P) (hs : P s) : Keeps F P (attend s) := by
  refine (h.poll s hs).bind fun key s hs => ?_
  unfold obey
  split
  · exact h.resize hs
  · split
    · exact hs
    · exact h.running s false hs

theorem enduring (h : Lasting S F P) : Enduring P fun e s => F e ∧ P s where
  count := ⟨S.pipes.toNat, fun s hs => (h.framed s hs).length_pipes⟩
  step _ _ hs hi := h.stepPipe hs hi
  refresh := h.refresh
  attend _ hs := h.attend hs
  now := h.now
  running := h.running
  sleep := h.sleep

theorem tick (h : Lasting S F P) (hs : P s) : Keeps F P (tick s) := h.enduring.tick hs

variable [Time τ]

theorem close (h : Lasting S F P) (hs : P s) : Keeps F P (close s) :=
  (show Keeps F P (stop s) from h.running s false hs).bind fun _ s hs => h.restore s hs

theorem run (h : Lasting S F P) (hs : P s) {pace : Pace τ} (hrate : F .zeroRate ∨ ∃ delay, pace.delay? = some delay)
    (maxTicks : Option Int) (most : Nat) : Keeps F P (run pace maxTicks most s) := by
  cases hzero : pace.rate == 0 with
  | true =>
    have hdelay : pace.delay? = none := if_pos hzero
    have hF : F .zeroRate := hrate.resolve_right fun ⟨delay, hsome⟩ => by
      rw [hdelay] at hsome
      cases hsome
    unfold Scene.run plan?
    rw [hdelay]
    exact ⟨hF, hs⟩
  | false =>
    have hends := h.enduring.run hs hzero maxTicks most
    generalize Scene.run pace maxTicks most s = r at hends ⊢
    cases hends with
    | goesOn hs => exact hs
    | stopped hs => exact (h.close hs).bind fun _ _ hs => hs
    | interrupted hs => exact (h.close hs.2).bind fun _ _ hs => hs
    | failed _ hs => exact (h.close hs.2).bind fun _ _ hs' => ⟨hs.1, hs'⟩

end Lasting

/-! ## Deeds -/

variable [Time τ]

def afterDeed (s : Scene ρ σ) : Deed τ → Scene ρ σ
  | .tick => left (tick s)
  | .resize => left (resize s)
  | .reset => left (reset s)
  | .spawn => left (spawn s)
  | .run pace maxTicks most => left (run pace maxTicks most s)

/-- The scene that deeds leave, one after another. -/
def after (s : Scene ρ σ) (deeds : List (Deed τ)) : Scene ρ σ := deeds.foldl afterDeed s

/-- What lasts lasts through all deeds; resets are safe if a wipe at any time is. -/
theorem Lasting.after {S : Settings} {P : Scene ρ σ → Prop} {s : Scene ρ σ} {deeds : List (Deed τ)}
    (h : Lasting S (fun _ => True) P) (hwipe : .reset ∈ deeds → ∀ s, P s → P s.wiped) (hs : P s) :
    P (s.after deeds) := by
  induction deeds generalizing s with
  | nil => exact hs
  | cons deed deeds ih =>
    refine ih (fun hmem => hwipe (List.mem_cons_of_mem _ hmem)) ?_
    cases deed with
    | tick => exact (h.tick hs).left
    | resize => exact (h.resize hs).left
    | reset => exact (h.reset (hwipe List.mem_cons_self) hs).left
    | spawn => exact (h.spawn hs).left
    | run pace maxTicks most => exact (h.run hs (.inl trivial) maxTicks most).left

end Scene

end Pipework
