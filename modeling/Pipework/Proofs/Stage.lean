import Pipework.Proofs.Scene

/-!
# What persists while an animation draws

Until the refresh at its end, all that a tick does with the surface is to put glyphs and to wipe it; pipes are
made, moved and advanced off the stage. So a property of scenes that is not broken on the surface by a put or a
wipe, nor by anything off the stage, persists (`Persistent`), and a fault on the way is one of a put or one that
an animation runs into by itself: in a draw, or at the edge of a screen without cells.
-/

namespace Pipework

open Act

/-- The faults that an animation runs into by itself. -/
def Fault.IsOwn : Fault → Prop
  | emptyRange | outOfRange | hugeChance | missingPalette _ | zeroModulus => True
  | _ => False

variable {ρ σ α : Type}

/-! ## Own faults -/

theorem Pipe.enter_own {p : Pipe} {b : Boundary} {width height : Int} {e : Fault}
    (h : p.enter b width height = .error e) : e.IsOwn := by
  unfold Pipe.enter at h
  dsimp only at h
  split at h
  · cases h
  · split at h
    · cases h
    · split at h <;> cases h
      trivial

/-- The act ends in no faults but its own. -/
def OwnFaults (r : EStateM.Result Fault σ α) : Prop := Keeps Fault.IsOwn (fun _ => True) r

section Draws

variable [RandomSource ρ] {S : Settings} {tables : List GlyphTable}

theorem drawBelow_own (n : Int) (g : ρ) : OwnFaults (drawBelow n g) := by
  unfold drawBelow
  split <;> trivial

theorem choose_own (l : List α) (g : ρ) : OwnFaults (choose l g) := by
  unfold choose
  split <;> trivial

theorem chooseHeading_own (d : Direction) (g : ρ) : OwnFaults (chooseHeading S d g) := by
  unfold chooseHeading
  dsimp only
  split
  · trivial
  · split <;> trivial

theorem drawStyle_own (g : ρ) : OwnFaults (drawStyle S tables g) := by
  unfold drawStyle
  split
  · trivial
  · refine Keeps.bind (drawBelow_own _ g) fun color g _ => ?_
    exact Keeps.bind (choose_own tables g) fun glyphs g _ => trivial

theorem Pipe.create_own (x y : Int) (heading : Direction) (g : ρ) : OwnFaults (Pipe.create S tables x y heading g) := by
  unfold Pipe.create
  split
  · trivial
  · exact Keeps.bind (drawStyle_own g) fun style g _ => trivial

theorem Walk.restyle_own (w : Walk ρ) : OwnFaults (Walk.restyle S tables w) := by
  have hdraw : OwnFaults ((drawStyle S tables).on source (fun w g => { w with source := g }) w) :=
    ends_on.2 (Ends.mono (drawStyle_own w.source) (fun _ _ _ => trivial) fun _ _ he => he)
  exact Keeps.bind hdraw fun style w _ => trivial

theorem Walk.advance_own (width height : Int) (w : Walk ρ) : OwnFaults (Walk.advance S tables width height w) := by
  unfold Walk.advance
  split
  · next henter => exact ⟨Pipe.enter_own henter, trivial⟩
  · next entry _ =>
    have hchoice := chooseHeading_own (S := S) entry.heading w.source
    dsimp only
    split
    · next heq =>
      rw [heq] at hchoice
      exact hchoice
    · next heading g _ =>
      split
      · have hstyle : OwnFaults (Walk.restyle S tables
            (⟨⟨entry.x, entry.y, heading, w.pipe.color, w.pipe.glyphs⟩, g⟩ : Walk ρ)) := Walk.restyle_own _
        split
        · next heq =>
          rw [heq] at hstyle
          exact hstyle
        · trivial
      · trivial

end Draws

/-! ## Properties that persist -/

namespace Scene

/-- Nothing has been done with the surface, nor has the run been ended. -/
structure SameStage (s s' : Scene ρ σ) : Prop where
  settings : s'.settings = s.settings
  running : s'.running = s.running
  surface : s'.surface = s.surface

/-- A property that persists off the stage; where a fault ends an act, `E` holds. -/
structure Offstage (P : Scene ρ σ → Prop) (E : Fault → Scene ρ σ → Prop) : Prop where
  elsewhere : ∀ s s', P s → SameStage s s' → P s'
  own : ∀ e s, P s → e.IsOwn → E e s

namespace Offstage

variable {P : Scene ρ σ → Prop} {E : Fault → Scene ρ σ → Prop} {s : Scene ρ σ}

theorem onSource (h : Offstage P E) (hs : P s) {act : Act ρ α} (hact : OwnFaults (act s.source)) :
    Ends (fun _ => P) E (onSource act s) := by
  have hsource (g : ρ) : P { s with source := g } := h.elsewhere s _ hs ⟨rfl, rfl, rfl⟩
  exact ends_on.2 (Ends.mono hact (fun _ g _ => hsource g) fun e g he => h.own e _ (hsource g) he.1)

theorem onPipe (h : Offstage P E) (hs : P s) (i : Nat) {act : Act (Walk ρ) α} (hact : ∀ w, OwnFaults (act w)) :
    Ends (fun _ => P) E (onPipe i act s) := by
  have hpipes (pipes : List Pipe) (g : ρ) : P { s with pipes, source := g } := h.elsewhere s _ hs ⟨rfl, rfl, rfl⟩
  unfold Scene.onPipe
  split
  · exact hs
  · next pipe _ =>
    have hown := hact ⟨pipe, s.source⟩
    split
    · exact hpipes _ _
    · next heq =>
      rw [heq] at hown
      exact h.own _ _ (hpipes _ _) hown.1

variable [RandomSource ρ]

theorem startPosition (h : Offstage P E) (hs : P s) : Ends (fun _ => P) E (startPosition s) := by
  rw [Scene.startPosition, get_bind]
  split
  · refine (h.onSource hs (drawBelow_own _ _)).bind fun x s hs => ?_
    exact (h.onSource hs (drawBelow_own _ _)).bind fun y s hs => hs
  · exact hs

theorem spawnOne (h : Offstage P E) (hs : P s) : Ends (fun _ => P) E (spawnOne s) := by
  refine (h.startPosition hs).bind fun (x, y) s hs => ?_
  refine (h.onSource hs (choose_own _ _)).bind fun heading s hs => ?_
  rw [get_bind]
  refine (h.onSource hs (Pipe.create_own x y heading _)).bind fun pipe s hs => ?_
  exact h.elsewhere s _ hs ⟨rfl, rfl, rfl⟩

theorem spawn (h : Offstage P E) (hs : P s) : Ends (fun _ => P) E (spawn s) := by
  rw [Scene.spawn, modify_bind, get_bind]
  exact Ends.forM (fun _ _ _ hs => h.spawnOne hs) (h.elsewhere s _ hs ⟨rfl, rfl, rfl⟩)

theorem scatter (h : Offstage P E) (hs : P s) : Ends (fun _ => P) E (scatter s) := by
  rw [Scene.scatter, get_bind]
  refine Ends.forM (fun i _ s hs => ?_) hs
  exact (h.startPosition hs).bind fun (x, y) s hs => h.elsewhere s _ hs ⟨rfl, rfl, rfl⟩

end Offstage

variable [Surface σ]

/-- A property that persists off the stage and through puts and wipes. -/
structure Persistent (P : Scene ρ σ → Prop) (E : Fault → Scene ρ σ → Prop) : Prop extends Offstage P E where
  clear : ∀ s, P s → P { s with surface := Surface.clear s.surface }
  put : ∀ s mark, P s → Ends (fun _ => P) E (onSurface (Surface.put mark) s)

namespace Persistent

variable [RandomSource ρ] {P : Scene ρ σ → Prop} {E : Fault → Scene ρ σ → Prop} {s : Scene ρ σ}

theorem reset (h : Persistent P E) (hs : P s) : Ends (fun _ => P) E (reset s) := by
  have hwiped : P s.wiped := h.elsewhere _ _ (h.clear s hs) ⟨rfl, rfl, rfl⟩
  change Ends _ E ((if s.settings.randomStart then Scene.scatter else pure () : Act (Scene ρ σ) Unit) s.wiped)
  split
  · exact h.scatter hwiped
  · exact hwiped

theorem stepPipe (h : Persistent P E) (hs : P s) (i : Nat) : Ends (fun _ => P) E (stepPipe i s) := by
  have hroom : Ends (fun _ => P) E (makeRoom s) := by
    rw [makeRoom, get_bind]
    split
    · exact h.reset hs
    · exact hs
  refine hroom.bind fun _ s hs => ?_
  refine (h.onPipe hs i fun w => Walk.advance_own _ _ w).bind fun mark s hs => ?_
  cases mark with
  | none => exact hs
  | some mark => exact (h.put s mark hs).bind fun _ s hs => h.elsewhere s _ hs ⟨rfl, rfl, rfl⟩

theorem steps (h : Persistent P E) (hs : P s) (n : Nat) :
    Ends (fun _ => P) E ((List.range n).forM Scene.stepPipe s) :=
  Ends.forM (fun i _ _ hs => h.stepPipe hs i) hs

end Persistent

/-! ## Running -/

theorem running_persistent (running : Bool) :
    Persistent (fun s : Scene ρ σ => s.running = running) fun _ s => s.running = running where
  elsewhere _ _ hs same := same.running.trans hs
  own _ _ hs _ := hs
  clear _ hs := hs
  put _ _ hs := ends_on.2 (ends_left.2 hs)

section Running

variable [RandomSource ρ]

theorem left_stepPipe_running (i : Nat) (s : Scene ρ σ) : (left (stepPipe i s)).running = s.running :=
  ends_left.1 ((running_persistent s.running).stepPipe rfl i)

theorem left_spawn_running (s : Scene ρ σ) : (left (spawn s)).running = s.running :=
  ends_left.1 ((running_persistent s.running).spawn rfl)

theorem left_resize_running (s : Scene ρ σ) : (left (resize s)).running = s.running :=
  left_spawn_running (s.resized s.pipes s.source)

theorem left_reset_running (s : Scene ρ σ) : (left (reset s)).running = s.running :=
  ends_left.1 ((running_persistent s.running).reset rfl)

theorem left_tick_running (s : Scene ρ σ) : (left (tick s)).running = s.running := by
  rw [tick, get_bind]
  refine ends_left.1 (((running_persistent s.running).steps rfl _).bind fun _ s' hs' => ?_)
  exact ends_on.2 (ends_left.2 hs')

end Running

end Scene

end Pipework
