import Pipework.Proofs.Approach
import Pipework.Proofs.Beside

/-!
# Surfaces that fail as planned

A surface may fail at any put or refresh. On a `FaultySurface` it is planned which of these calls fail, and they do so
before they have any effect. No other call of a tick can fail, so as long as no planned fault is reached the steps of
pipes lead to the same scenes as on the surface itself, one after another (`Stepped.disturbed`).
-/

set_option linter.unusedSectionVars false

namespace Pipework

open Act

/-! ## Surfaces that fail as planned -/

/-- The faults in which calls to come will end: those of the puts, the next of which is put `0`, and of refreshes. -/
structure Faults where
  put : Nat → Option Fault
  refresh : Option Fault

def Faults.later (n : Nat) (f : Faults) : Faults := { f with put := fun i => f.put (i + n) }

theorem Faults.later_later (n k : Nat) (f : Faults) : (f.later n).later k = f.later (n + k) := by
  simp only [later, Nat.add_assoc, Nat.add_comm k n]

/-- A surface on which some of the calls to come fail, before they have any effect. -/
structure FaultySurface (σ : Type) where
  inner : σ
  faults : Faults

namespace FaultySurface

variable {σ α : Type}

/-- An act on the surface, unless it is to fail. -/
def guarding (fault : Option Fault) (act : Act σ α) : Act (FaultySurface σ) α :=
  match fault with
  | some e => Act.fail e
  | none => act.on inner fun t inner => { t with inner }

instance [Surface σ] : Surface (FaultySurface σ) where
  size t :=
    let (size, inner) := Surface.size t.inner
    (size, { t with inner })
  put mark := do
    let fault := (← get).faults.put 0
    modify fun t => { t with faults := t.faults.later 1 }
    guarding fault (Surface.put mark)
  clear t := { t with inner := Surface.clear t.inner }
  refresh := do guarding (← get).faults.refresh Surface.refresh
  poll := guarding none Surface.poll
  restore := guarding none Surface.restore

variable [Surface σ] {f : Faults} {t t' : σ} {mark : Mark} {e : Fault}

theorem put_eq (mark : Mark) (t : σ) (f : Faults) :
    Surface.put mark (⟨t, f⟩ : FaultySurface σ) = guarding (f.put 0) (Surface.put mark) ⟨t, f.later 1⟩ := rfl

theorem put_of_some (h : f.put 0 = some e) :
    Surface.put mark (⟨t, f⟩ : FaultySurface σ) = .error e ⟨t, f.later 1⟩ := by
  rw [put_eq, h]
  rfl

theorem put_of_none (h : f.put 0 = none) (hput : Surface.put mark t = .ok () t') :
    Surface.put mark (⟨t, f⟩ : FaultySurface σ) = .ok () ⟨t', f.later 1⟩ := by
  rw [put_eq, h, guarding]
  exact on_of_ok hput

theorem refresh_of_some (h : f.refresh = some e) :
    Surface.refresh (⟨t, f⟩ : FaultySurface σ) = .error e ⟨t, f⟩ := by
  have hguarding : Surface.refresh (⟨t, f⟩ : FaultySurface σ) = guarding f.refresh Surface.refresh ⟨t, f⟩ := rfl
  rw [hguarding, h]
  rfl

end FaultySurface

namespace Scene

variable {ρ σ : Type} {S : Settings}

/-- The scene on a surface that fails as planned. -/
def disturbed (f : Faults) (s : Scene ρ σ) : Scene ρ (FaultySurface σ) := { s with surface := ⟨s.surface, f⟩ }

variable {f : Faults} {s s' r m done : Scene ρ σ}

theorem Framed.disturbed (h : s.Framed S) (f : Faults) : (s.disturbed f).Framed S :=
  ⟨⟨h.settings, h.valid, h.tables, h.width, h.height⟩, h.count, h.fits⟩

variable [RandomSource ρ] [Surface σ] {i : Nat} {v : Stride} {strides : List Stride}

/-- An approach makes no call that could fail, so it is the same whichever faults are to come. -/
theorem Approached.disturbed (h : Approached S i s r v m) (hs : s.Framed S) (f : Faults) :
    approach i (s.disturbed f) = .ok (some v.mark) (m.disturbed f) := by
  let R (t : σ) (t' : FaultySurface σ) : Prop := t' = ⟨t, f⟩
  let Twins : Scene ρ σ → Scene ρ (FaultySurface σ) → Prop := Scene.Twin S S s.tables s.tables Eq Eq R
  have c : Correspondence S S s.tables s.tables Eq Eq := hs.valid.corresponds rfl
  have htwin : Twins s (s.disturbed f) := Beside.twin ⟨rfl, rfl⟩ hs
  have hwiped : Twins s.wiped (s.disturbed f).wiped := { htwin with drawn := rfl, resets := rfl, surface := rfl }
  have hroom : Alike (fun _ _ => True) Twins (makeRoom s) (makeRoom (s.disturbed f)) := by
    rw [makeRoom, makeRoom, get_bind, get_bind, show (s.disturbed f).isFull = s.isFull from rfl]
    split
    · change Alike _ _ ((if s.settings.randomStart then scatter else pure () : Act _ _) s.wiped)
        ((if s.settings.randomStart then scatter else pure () : Act _ _) (s.disturbed f).wiped)
      split
      · exact c.scatter hwiped
      · exact ⟨trivial, hwiped⟩
    · exact ⟨trivial, htwin⟩
  have happroach : Alike (Option.Rel (Mark.Twin s.tables s.tables Eq)) Twins (approach i s)
      (approach i (s.disturbed f)) :=
    hroom.bind fun _ _ _ _ _ h => c.advancePipe h i
  -- both approaches have results, which are the same but for the surface
  obtain ⟨r', v', m', h', -⟩ := approach_eq (hs.disturbed f) h.lt_length
  rw [h.act, h'.act] at happroach
  obtain ⟨hmark, hm⟩ := happroach
  obtain ⟨hscene, hsurface⟩ := hm.beside (h.running_eq.trans h'.running_eq.symm)
  cases hmark with
  | some hmark =>
    rw [h'.act, ← hscene, hsurface, hmark.eq]
    rfl

/-! ## Steps one after another -/

/-- The pipes have been stepped one after another, from the first, with the strides that they made. -/
inductive Stepped (S : Settings) (s : Scene ρ σ) : List Stride → Scene ρ σ → Prop where
  | nil : Stepped S s [] s
  | concat {strides : List Stride} {s' r m s'' : Scene ρ σ} {v : Stride} (earlier : Stepped S s strides s')
      (approached : Approached S strides.length s' r v m) (drawn : draw v.mark m = .ok () s'') :
      Stepped S s (strides ++ [v]) s''

theorem draw_of_put {mark : Mark} {t : σ} (h : Surface.put mark s.surface = .ok () t) :
    draw mark s = .ok () { s with surface := t, drawn := s.drawn + 1 } := by
  have hon : onSurface (Surface.put mark) s = .ok () { s with surface := t } := on_of_ok h
  rw [draw, bind_of_ok hon]
  rfl

theorem put_of_draw {mark : Mark} (h : draw mark s = .ok () s') :
    ∃ t, Surface.put mark s.surface = .ok () t ∧ s' = { s with surface := t, drawn := s.drawn + 1 } := by
  cases hput : Surface.put mark s.surface with
  | ok _ t =>
    rw [draw_of_put hput] at h
    cases h
    exact ⟨t, rfl, rfl⟩
  | error e t =>
    have hon : onSurface (Surface.put mark) s = .error e { s with surface := t } := on_of_error hput
    rw [draw, bind_of_error hon] at h
    cases h

theorem draw_disturbed_of_some {e : Fault} (h : f.put 0 = some e) (mark : Mark) (s : Scene ρ σ) :
    draw mark (s.disturbed f) = .error e (s.disturbed (f.later 1)) := by
  have hput : onSurface (Surface.put mark) (s.disturbed f) = .error e (s.disturbed (f.later 1)) :=
    on_of_error (FaultySurface.put_of_some h)
  rw [draw, bind_of_error hput]

theorem draw_disturbed_of_none {mark : Mark} (h : f.put 0 = none) (hdraw : draw mark s = .ok () s') :
    draw mark (s.disturbed f) = .ok () (s'.disturbed (f.later 1)) := by
  obtain ⟨t, hput, rfl⟩ := put_of_draw hdraw
  exact draw_of_put (FaultySurface.put_of_none h hput)

namespace Stepped

theorem framed (h : Stepped S s strides s') (hs : s.Framed S) : s'.Framed S := by
  induction h with
  | nil => exact hs
  | concat earlier approached drawn ih =>
    obtain ⟨t, -, rfl⟩ := put_of_draw drawn
    exact (approached.framed ih).elsewhere

theorem forM_eq (h : Stepped S s strides s') : (List.range strides.length).forM stepPipe s = .ok () s' := by
  induction h with
  | nil => rfl
  | concat earlier approached drawn ih =>
    rw [List.length_append, List.length_singleton, forM_stepPipe_succ, bind_of_ok ih, approached.stepPipe_eq, drawn]

theorem of_forM (hs : s.Framed S) {n : Nat} (hn : n ≤ s.pipes.length)
    (h : (List.range n).forM stepPipe s = .ok () s') : ∃ strides, strides.length = n ∧ Stepped S s strides s' := by
  induction n generalizing s' with
  | zero =>
    cases h
    exact ⟨[], rfl, .nil⟩
  | succ n ih =>
    rw [forM_stepPipe_succ] at h
    cases hsteps : (List.range n).forM stepPipe s with
    | error e t =>
      rw [bind_of_error hsteps] at h
      cases h
    | ok _ t =>
      obtain ⟨strides, hlength, hstepped⟩ := ih (by omega) hsteps
      have hframed := hstepped.framed hs
      obtain ⟨r, v, m, happroached, -⟩ := approach_eq (i := n) hframed (by
        rw [hframed.length_pipes, ← hs.length_pipes]
        exact hn)
      rw [bind_of_ok hsteps, happroached.stepPipe_eq] at h
      subst hlength
      exact ⟨strides ++ [v], by simp, hstepped.concat happroached h⟩

theorem disturbed (h : Stepped S s strides s') (hs : s.Framed S) (hnone : ∀ i < strides.length, f.put i = none) :
    (List.range strides.length).forM stepPipe (s.disturbed f) = .ok () (s'.disturbed (f.later strides.length)) := by
  induction h with
  | nil => rfl
  | @concat strides s' r m s'' v earlier approached drawn ih =>
    have hlength : (strides ++ [v]).length = strides.length + 1 := by simp
    rw [hlength] at hnone ⊢
    have hearlier := ih fun i hi => hnone i (by omega)
    have happroach := approached.disturbed (earlier.framed hs) (f.later strides.length)
    have hfault : (f.later strides.length).put 0 = none := hnone _ (by omega)
    rw [forM_stepPipe_succ, bind_of_ok hearlier, stepPipe_eq_approach, bind_of_ok happroach, drawAny,
      draw_disturbed_of_none hfault drawn, Faults.later_later]

end Stepped

/-! ## Ticks -/

/-- A tick comes to pipe `j`, steps it, and goes on with the later pipes and the refresh. -/
theorem tick_split {j : Nat} (hj : j < s.pipes.length) : tick s =
    ((List.range j).forM stepPipe >>= fun _ => stepPipe j >>= fun _ =>
      ((List.range s.pipes.length).drop (j + 1)).forM stepPipe >>= fun _ => onSurface Surface.refresh) s := by
  have hrange : List.range s.pipes.length = List.range j ++ j :: (List.range s.pipes.length).drop (j + 1) := by
    have htake : (List.range s.pipes.length).take j = List.range j := by
      rw [List.take_range, Nat.min_eq_left (Nat.le_of_lt hj)]
    have hdrop := List.drop_eq_getElem_cons (l := List.range s.pipes.length) (i := j) (by simpa using hj)
    rw [List.getElem_range] at hdrop
    rw [← htake, ← hdrop, List.take_append_drop]
  have hsteps : ((List.range s.pipes.length).forM stepPipe : Act (Scene ρ σ) Unit) =
      (List.range j).forM stepPipe >>= fun _ => stepPipe j >>= fun _ =>
        ((List.range s.pipes.length).drop (j + 1)).forM stepPipe := by
    conv_lhs => rw [hrange]
    exact List.forM_append
  rw [tick, get_bind, hsteps]
  simp only [bind_assoc]

theorem exists_stepped (hs : s.Framed S) (hdone : tick s = .ok () done) {j : Nat} (hj : j < s.pipes.length) :
    ∃ strides s', strides.length = j ∧ Stepped S s strides s' := by
  rw [tick_split hj] at hdone
  cases hsteps : (List.range j).forM stepPipe s with
  | error e s' =>
    rw [bind_of_error hsteps] at hdone
    cases hdone
  | ok _ s' =>
    obtain ⟨strides, hlength, hstepped⟩ := Stepped.of_forM hs (Nat.le_of_lt hj) hsteps
    exact ⟨strides, s', hlength, hstepped⟩

namespace Stepped

variable (h : Stepped S s strides s') (happroached : Approached S strides.length s' r v m)
  (hj : strides.length < s.pipes.length)

include h happroached hj

theorem tick_eq : tick s =
    (draw v.mark >>= fun _ => ((List.range s.pipes.length).drop (strides.length + 1)).forM stepPipe >>= fun _ =>
      onSurface Surface.refresh) m := by
  rw [tick_split hj, bind_of_ok h.forM_eq, stepPipe_eq_approach, bind_assoc, bind_of_ok happroached.act]
  rfl

/-- If that put is the first to fail then the tick leaves the scene as it is at this moment. -/
theorem tick_disturbed (hs : s.Framed S) {e : Fault} (hnone : ∀ i < strides.length, f.put i = none)
    (hsome : f.put strides.length = some e) :
    tick (s.disturbed f) = .error e (m.disturbed (f.later (strides.length + 1))) := by
  have hfault : (f.later strides.length).put 0 = some e := by
    change f.put (0 + strides.length) = some e
    rwa [Nat.zero_add]
  have hdraw := draw_disturbed_of_some hfault v.mark m
  rw [Faults.later_later] at hdraw
  have hstep : stepPipe strides.length (s'.disturbed (f.later strides.length)) =
      .error e (m.disturbed (f.later (strides.length + 1))) := by
    rw [stepPipe_eq_approach, bind_of_ok (happroached.disturbed (h.framed hs) _), drawAny, hdraw]
  have hj' : strides.length < (s.disturbed f).pipes.length := hj
  rw [tick_split hj', bind_of_ok (h.disturbed hs hnone), bind_of_error hstep]

end Stepped

/-- If only the refresh fails then the tick leaves all but the surface as it is when nothing fails. -/
theorem tick_disturbed_of_refresh (hs : s.Framed S) (hdone : tick s = .ok () done) {e : Fault}
    (hnone : ∀ i < s.pipes.length, f.put i = none) (hsome : f.refresh = some e) :
    ∃ s', tick (s.disturbed f) = .error e s' ∧ { s' with surface := done.surface } = done := by
  rw [tick, get_bind] at hdone
  cases hsteps : (List.range s.pipes.length).forM stepPipe s with
  | error e s' =>
    rw [bind_of_error hsteps] at hdone
    cases hdone
  | ok _ s' =>
    obtain ⟨strides, hlength, hstepped⟩ := Stepped.of_forM hs (Nat.le_refl _) hsteps
    have hsteps' := hstepped.disturbed hs (f := f) (by rw [hlength]; exact hnone)
    rw [hlength] at hsteps'
    have hrefresh : onSurface Surface.refresh (s'.disturbed (f.later s.pipes.length)) =
        .error e (s'.disturbed (f.later s.pipes.length)) :=
      on_of_error (FaultySurface.refresh_of_some hsome)
    rw [bind_of_ok hsteps] at hdone
    refine ⟨s'.disturbed (f.later s.pipes.length), ?_, ?_⟩
    · rw [tick, get_bind]
      change ((List.range s.pipes.length).forM stepPipe >>= fun _ => onSurface Surface.refresh) (s.disturbed f) = _
      rw [bind_of_ok hsteps', hrefresh]
    · cases hput : Surface.refresh s'.surface with
      | error e t =>
        rw [onSurface, on_of_error hput] at hdone
        cases hdone
      | ok _ t =>
        rw [onSurface, on_of_ok hput] at hdone
        cases hdone
        rfl

end Scene

end Pipework
