import Pipework.Proofs.Canvas

/-!
# Two copies of a size

A window has a size, and the scene on it keeps a copy, which it takes when it is made and at each resize key. Nothing
but such a key changes the size of the window, and the key is obeyed before anything is drawn; so while the window
has cells the copy is never out of date (`Scene.onTime_steady`). Hence a stroke writes inside the window, and only
the bottom-right cell can refuse it (`Scene.OnTime.stroke`).
-/

set_option linter.unusedSectionVars false

namespace Pipework

open Act

variable {ρ τ : Type}

/-! ## Screens -/

namespace Script

variable {t t' t'' : Script τ}

theorem SameScreen.refl (t : Script τ) : t.SameScreen t := ⟨rfl, rfl, rfl⟩

theorem SameScreen.trans (h : t.SameScreen t') (h' : t'.SameScreen t'') : t.SameScreen t'' :=
  ⟨h'.1.trans h.1, h'.2.1.trans h.2.1, h'.2.2.trans h.2.2⟩

theorem SameScreen.hasCells (h : t.SameScreen t') (hcells : t.HasCells) : t'.HasCells := by
  obtain ⟨hwidth, hheight, hsizes⟩ := h
  rw [HasCells, hwidth, hheight, hsizes]
  exact hcells

theorem keeps_screen_meet (point : Point) (h : t.SameScreen t') :
    Keeps (fun _ => True) t.SameScreen (meet point t') :=
  meet_keeps point h fun _ _ h => h

theorem takeKey_screen (h : t.takeKey.1 ≠ Key.resize) : t.SameScreen t.takeKey.2 := by
  revert h
  unfold takeKey
  split
  · exact fun _ => .refl t
  · exact fun _ => .refl t
  · split
    · next hkey => exact fun h => absurd hkey h
    · exact fun _ => .refl t

/-- A poll changes the size of the screen only if it gives a resize key. -/
theorem poll_ends (h : t.HasCells) :
    Ends (fun key t' => (key ≠ Key.resize → t.SameScreen t') ∧ t'.HasCells) (fun _ => t.SameScreen) (poll t) := by
  have hmeet := keeps_screen_meet .poll (SameScreen.refl t)
  rw [poll]
  refine ends_bind.2 (Ends.mono hmeet (fun _ t' ht' => ?_) fun _ _ he => he.2)
  exact ⟨fun hkey => ht'.trans (takeKey_screen hkey), takeKey_hasCells (ht'.hasCells h)⟩

variable [Time τ]

theorem left_refresh_screen (t : Script τ) : t.SameScreen (left (refresh t)) := by
  have hmeet := keeps_screen_meet .refresh (SameScreen.refl t)
  have hrefresh : Keeps (fun _ => True) t.SameScreen (refresh t) := hmeet.bind fun _ _ h => h
  exact hrefresh.left

theorem left_sleep_screen (t : Script τ) (d : τ) : t.SameScreen (left (sleep d t)) := by
  have hslept : t.SameScreen { t with sleepLog := d :: t.sleepLog } := .refl t
  have hsleep : Keeps (fun _ => True) t.SameScreen (sleep d t) :=
    (keeps_screen_meet .sleep hslept).bind fun _ _ h => h
  exact hsleep.left

end Script

namespace Terminal

theorem screen_inScript {α : Type} {act : Act (Script τ) α} (t : Terminal τ)
    (h : t.window.script.SameScreen (left (act t.window.script))) :
    t.window.script.SameScreen (left (inWindow (Window.inScript act) t)).window.script := by
  rw [inWindow, left_on, Window.inScript, left_on]
  exact h

theorem screen_refresh [Time τ] (t : Terminal τ) :
    t.window.script.SameScreen (left (Surface.refresh t)).window.script := by
  change t.window.script.SameScreen (left (inWindow Window.refresh t)).window.script
  have hscript : Keeps (fun _ => True) (fun w : Window τ => t.window.script.SameScreen w.script)
      (Window.inScript Script.refresh t.window) :=
    ends_on.2 (keeps_of_left (Script.left_refresh_screen _))
  have hrefresh : Keeps (fun _ => True) (fun w : Window τ => t.window.script.SameScreen w.script)
      (Window.refresh t.window) :=
    hscript.bind fun _ _ h => h
  rw [inWindow, left_on]
  exact hrefresh.left

theorem screen_restore [Time τ] (t : Terminal τ) :
    t.window.script.SameScreen (left (Surface.restore t)).window.script := by
  change t.window.script.SameScreen (left (restore t)).window.script
  rw [restore, get_bind]
  cases t.cursor with
  | none => exact .refl _
  | some visibility =>
    dsimp only
    obtain ⟨traps, sprung, cursor, hset⟩ := t.window.left_setCursor visibility
    rw [left_discard, left_tolerant, inWindow, left_on, hset]
    exact .refl _

end Terminal

/-! ## The copy that a scene keeps -/

namespace Scene

variable [RandomSource ρ] [Time τ] {S : Settings} {s : Scene ρ (Terminal τ)}

/-- A scene in frame whose size is that of its window, on a window that has cells now and will have them. -/
structure OnTime (S : Settings) (s : Scene ρ (Terminal τ)) : Prop where
  framed : s.Framed S
  cells : s.surface.window.script.HasCells
  width : s.width = s.surface.window.width
  height : s.height = s.surface.window.height

theorem OnTime.elsewhere {s' : Scene ρ (Terminal τ)} (h : s.OnTime S) (hframed : s'.Framed S)
    (hframe : s'.width = s.width ∧ s'.height = s.height)
    (hscreen : s.surface.window.script.SameScreen s'.surface.window.script) : s'.OnTime S where
  framed := hframed
  cells := hscreen.hasCells h.cells
  width := by rw [hframe.1, h.width, Window.width, Window.width, hscreen.1]
  height := by rw [hframe.2, h.height, Window.height, Window.height, hscreen.2.1]

theorem OnTime.onSurface {α : Type} {act : Act (Terminal τ) α} (h : s.OnTime S)
    (hscreen : s.surface.window.script.SameScreen (left (act s.surface)).window.script) :
    OnTime S (left (onSurface act s)) := by
  rw [Scene.onSurface, left_on]
  exact h.elsewhere h.framed.elsewhere ⟨rfl, rfl⟩ hscreen

theorem resize_onTime (h : s.Framed S) (hcells : s.surface.window.script.HasCells) :
    OnTime S (left (Scene.resize s)) := by
  obtain ⟨pipes, g, hresize, hframed⟩ := resize_eq h.toReady (Terminal.roomy.width s.surface trivial)
    (Terminal.roomy.height s.surface trivial)
  rw [hresize]
  exact ⟨hframed, hcells, Int.max_eq_right hcells.1, Int.max_eq_right hcells.2.1⟩

/-- A resize key is obeyed at once, and no other key changes a size. -/
theorem OnTime.attend (h : s.OnTime S) : OnTime S (left (attend s)) := by
  have hpoll : Ends (fun key (s' : Scene ρ (Terminal τ)) =>
      (key ≠ Key.resize → s'.OnTime S) ∧ s'.Framed S ∧ s'.surface.window.script.HasCells) (fun _ => OnTime S)
      (Scene.onSurface Surface.poll s) := by
    refine ends_on.2 ?_
    change Ends _ _ (Terminal.inWindow (Window.inScript Script.poll) s.surface)
    unfold Terminal.inWindow Window.inScript
    refine ends_on.2 (ends_on.2 (Ends.mono (Script.poll_ends h.cells) ?_ ?_))
    · intro key script hkey
      exact ⟨fun hne => h.elsewhere h.framed.elsewhere ⟨rfl, rfl⟩ (hkey.1 hne), h.framed.elsewhere, hkey.2⟩
    · intro e script hscreen
      exact h.elsewhere h.framed.elsewhere ⟨rfl, rfl⟩ hscreen
  refine ends_left.1 (ends_bind.2 (Ends.mono hpoll (fun key s' hs' => ends_left.2 ?_) fun _ _ he => he))
  obtain ⟨hsame, hframed, hcells⟩ := hs'
  unfold obey
  split
  · exact resize_onTime hframed hcells
  · next hkey =>
    split
    · exact hsame hkey
    · exact (hsame hkey).elsewhere hframed.elsewhere ⟨rfl, rfl⟩ (.refl _)

theorem OnTime.interlude {s' : Scene ρ (Terminal τ)} (h : s.OnTime S) (between : Interlude s s') : s'.OnTime S := by
  cases between with
  | attend => exact h.attend
  | refresh => exact h.onSurface s.surface.screen_refresh
  | now => exact h
  | running => exact h.elsewhere h.framed.elsewhere ⟨rfl, rfl⟩ (.refl _)
  | sleep d => exact h.onSurface (s.surface.screen_inScript (Script.left_sleep_screen _ d))
  | restore => exact h.onSurface s.surface.screen_restore

theorem onTime_steady : Steady fun s : Scene ρ (Terminal τ) => s.OnTime S ∧ s.surface.palette ≠ [] where
  count := ⟨S.pipes.toNat, fun _ hs => hs.1.framed.length_pipes⟩
  step s i hs hi := by
    have hstroked := stepPipe_stroked hs.1.framed hs.2 hi
    have hframed : (left (stepPipe i s)).Framed S := framed_steady.step s i hs.1.framed hi
    refine ⟨hs.1.elsewhere hframed hstroked.frame hstroked.screen, ?_⟩
    rw [hstroked.setup.palette]
    exact hs.2
  interlude s s' hs between := by
    refine ⟨hs.1.interlude between, ?_⟩
    rw [(between.idle hs.1.framed).setup.palette]
    exact hs.2

/-! ## Strokes -/

/-- A write inside the window, whose size is what it was before the stroke. Only its last cell can be refused. -/
structure InWindow (s : Scene ρ (Terminal τ)) (k : Stroke ρ (Terminal τ)) : Prop where
  screen : s.surface.window.script.SameScreen k.scene.surface.window.script
  inside : OnScreen k.scene.surface.window.width k.scene.surface.window.height k.pipe.x k.pipe.y
  refused : k.scene.surface.window.refuses → k.scene.surface.window.corner = false ∧
    k.pipe.y = k.scene.surface.window.height - 1 ∧ k.pipe.x = k.scene.surface.window.width - 1

theorem OnTime.stroke (h : s.OnTime S) (hpalette : s.surface.palette ≠ []) {k : Stroke ρ (Terminal τ)}
    (hk : k.index < s.pipes.length) (step : k.scene = left (stepPipe k.index s)) : InWindow s k := by
  have hstroked := stepPipe_stroked h.framed hpalette hk
  have hon := (onTime_steady.step s k.index ⟨h, hpalette⟩ hk).1
  rw [← step] at hstroked hon
  have hinside : OnScreen k.scene.surface.window.width k.scene.surface.window.height k.pipe.x k.pipe.y := by
    rw [← hon.width, ← hon.height]
    exact (hon.framed.fits k.pipe (List.get_mem _ _)).onScreen
  refine ⟨hstroked.screen, hinside, fun hrefused => ?_⟩
  obtain ⟨p, text, attributes, refusal, cleared, hp, -, hlog, -, hrefusal⟩ := hstroked.log
  rw [Window.refuses, hlog] at hrefused
  rcases hrefusal with rfl | ⟨-, hcell⟩
  · simp at hrefused
  · rw [← Stroke.pipe_eq hp] at hcell
    -- the cell is inside, so it is the corner that was refused
    obtain ⟨hx, hx', hy, hy'⟩ := hinside
    unfold Window.Writable at hcell
    have hcorner : ¬ (k.scene.surface.window.corner = true ∨
        ¬(k.pipe.y = k.scene.surface.window.height - 1 ∧ k.pipe.x = k.scene.surface.window.width - 1)) :=
      fun hor => hcell ⟨hy, hy', hx, hx', hor⟩
    simpa [and_assoc] using hcorner

end Scene

end Pipework
