import Pipework.Proofs.Beside
import Pipework.Proofs.Opening
import Pipework.Proofs.Sizes

/-!
# The last cell

Most terminals refuse a write in the last cell of a window, and an animation passes over that. So it is the same as
on a window that takes such writes: a relation that forgets the corner and its refusals is kept by everything that is
done with a terminal (`Terminal.SameButCorner.setup`, `Terminal.sameButCorner_together`), and the animations run
abreast. With the size that is never out of date this says what becomes of every write (`never_stale`).
-/

set_option linter.unusedSectionVars false

namespace Pipework

open Act

variable {ρ σ σ' τ α : Type}

/-! ## Windows and terminals that differ in their corner -/

/-- Windows that differ at most in their corner and in the refusals that they have recorded. -/
structure Window.SameButCorner (w w' : Window τ) : Prop where
  script : w.script = w'.script
  cursor : w.cursor = w'.cursor
  colors : w.colors = w'.colors
  log : w.log.filter (· ≠ .refused) = w'.log.filter (· ≠ .refused)

namespace Window.SameButCorner

variable {w w' : Window τ}

theorem note (h : w.SameButCorner w') (c : Call) : (w.note c).SameButCorner (w'.note c) := by
  refine ⟨h.script, h.cursor, h.colors, ?_⟩
  rw [Window.note, Window.note, List.filter_cons, List.filter_cons, h.log]

theorem inScript (h : w.SameButCorner w') (act : Act (Script τ) α) :
    Alike Eq SameButCorner (inScript act w) (inScript act w') := by
  refine Alike.on (V := Eq) ?_ fun t t' ht => ⟨ht, h.cursor, h.colors, h.log⟩
  rw [h.script]
  exact alike_self _

theorem setCursor (h : w.SameButCorner w') (visibility : Int) :
    Alike Eq SameButCorner (setCursor visibility w) (setCursor visibility w') := by
  have hnoted := h.note (.cursor visibility)
  rw [Window.setCursor, modify_bind, modify_bind, get_bind, get_bind, hnoted.cursor]
  cases (w'.note (.cursor visibility)).cursor with
  | none => exact ⟨rfl, hnoted⟩
  | some before =>
    refine (hnoted.inScript (Script.meet .cursor)).bind fun _ _ w w' _ h => ?_
    exact ⟨rfl, h.script, rfl, h.colors, h.log⟩

theorem startColors (h : w.SameButCorner w') :
    Alike Eq SameButCorner (startColors w) (startColors w') :=
  (h.note .startColors).inScript (Script.meet .colors)

theorem refresh [Time τ] (h : w.SameButCorner w') : Alike Eq SameButCorner (refresh w) (refresh w') :=
  (h.inScript Script.refresh).bind fun _ _ _ _ _ h => ⟨rfl, h.note .refresh⟩

theorem refused (h : w.SameButCorner w') {v v' : Window τ} (hv : v = w ∨ v = w.note .refused)
    (hv' : v' = w' ∨ v' = w'.note .refused) : v.SameButCorner v' := by
  have hforget (u : Window τ) : (u.note .refused).log.filter (· ≠ .refused) = u.log.filter (· ≠ .refused) := by
    simp [Window.note]
  rcases hv with rfl | rfl <;> rcases hv' with rfl | rfl
  · exact h
  · exact ⟨h.script, h.cursor, h.colors, h.log.trans (hforget _).symm⟩
  · exact ⟨h.script, h.cursor, h.colors, (hforget _).trans h.log⟩
  · exact h.note .refused

theorem tolerant_write {y x : Int} {text : String} {attributes : Nat}
    (h : meet .put (w.note (.write y x text attributes)) = .ok () w') :
    ∃ a v, (Window.write y x text attributes).tolerant w = .ok a v ∧ (v = w' ∨ v = w'.note .refused) := by
  have hwrite : Window.write y x text attributes w =
      if ¬ w'.Writable y x then .error writeRefused (w'.note .refused) else .ok () w' := by
    rw [Window.write, modify_bind, bind_of_ok h, get_bind]
    split <;> rfl
  by_cases hcell : w'.Writable y x
  · rw [if_neg (not_not.2 hcell)] at hwrite
    exact ⟨_, _, tolerant_of_ok hwrite, .inl rfl⟩
  · rw [if_pos hcell] at hwrite
    exact ⟨_, _, tolerant_of_refused hwrite, .inr rfl⟩

/-- One window may refuse a write that the other takes, but where refusals are passed over that is all. -/
theorem write (h : w.SameButCorner w') (y x : Int) (text : String) (attributes : Nat) :
    Alike (fun _ _ => True) SameButCorner ((Window.write y x text attributes).tolerant w)
      ((Window.write y x text attributes).tolerant w') := by
  have hmeet : Alike Eq SameButCorner (meet .put (w.note (.write y x text attributes)))
      (meet .put (w'.note (.write y x text attributes))) :=
    (h.note (.write y x text attributes)).inScript (Script.meet .put)
  cases hr : meet .put (w.note (.write y x text attributes)) <;>
    cases hr' : meet .put (w'.note (.write y x text attributes)) <;> rw [hr, hr'] at hmeet
  · obtain ⟨_, v, hv, hrefused⟩ := tolerant_write hr
    obtain ⟨_, v', hv', hrefused'⟩ := tolerant_write hr'
    rw [hv, hv']
    exact ⟨trivial, hmeet.2.refused hrefused hrefused'⟩
  · exact hmeet.elim
  · exact hmeet.elim
  · have hwrite : Alike (fun _ _ => True) SameButCorner (Window.write y x text attributes w)
        (Window.write y x text attributes w') := by
      rw [Window.write, modify_bind, modify_bind, bind_of_error hr, bind_of_error hr']
      exact hmeet
    exact hwrite.tolerant.mono (fun _ _ _ => trivial) fun _ _ h => h

end Window.SameButCorner

structure Terminal.SameButCorner (t t' : Terminal τ) : Prop where
  window : t.window.SameButCorner t'.window
  palette : t.palette = t'.palette
  bold : t.bold = t'.bold
  color : t.color = t'.color
  cursor : t.cursor = t'.cursor

namespace Terminal.SameButCorner

variable {t t' : Terminal τ} {Q : α → α → Prop}

theorem inWindow (h : t.SameButCorner t') {act : Act (Window τ) α}
    (hact : Alike Q Window.SameButCorner (act t.window) (act t'.window)) :
    Alike Q SameButCorner (inWindow act t) (inWindow act t') :=
  Alike.on hact fun _ _ hw => ⟨hw, h.palette, h.bold, h.color, h.cursor⟩

theorem note (h : t.SameButCorner t') (c : Call) : Alike Eq SameButCorner (note c t) (note c t') :=
  h.inWindow ⟨rfl, h.window.note c⟩

theorem write (h : t.SameButCorner t') (x y : Int) (text : String) (color : Int) :
    Alike (fun _ _ => True) SameButCorner (write x y text color t) (write x y text color t') := by
  have hattributes : t.attributes? color = t'.attributes? color := by
    rw [attributes?, attributes?, h.palette, h.bold, h.color]
  rw [Terminal.write, get_bind, get_bind, hattributes]
  cases t'.attributes? color with
  | none => exact ⟨rfl, h⟩
  | some attributes =>
    have hwrite : Alike (fun _ _ => True) SameButCorner
        ((Terminal.inWindow (Window.write y x text attributes)).tolerant t)
        ((Terminal.inWindow (Window.write y x text attributes)).tolerant t') := by
      rw [Terminal.inWindow, tolerant_on, tolerant_on]
      exact h.inWindow (h.window.write y x text attributes)
    exact hwrite.discard

theorem restore (h : t.SameButCorner t') : Alike (fun _ _ => True) SameButCorner (restore t) (restore t') := by
  rw [Terminal.restore, get_bind, get_bind, h.cursor]
  cases t'.cursor with
  | none => exact ⟨trivial, h⟩
  | some visibility => exact (h.inWindow (h.window.setCursor visibility)).tolerant.discard

/-! ### Setting up -/

theorem hideCursor (h : t.SameButCorner t') : Alike Eq SameButCorner (hideCursor t) (hideCursor t') := by
  refine (h.inWindow (h.window.setCursor 0)).tolerant.bind fun found found' t t' hfound h => ?_
  have hfound' : found = found' := by
    cases hfound with
    | none => rfl
    | some heq => rw [heq]
  exact ⟨rfl, h.window, h.palette, h.bold, h.color, hfound'⟩

theorem registerPalette (h : t.SameButCorner t') :
    Alike (fun _ _ => True) SameButCorner (registerPalette t) (registerPalette t') := by
  refine (h.inWindow h.window.startColors).bind fun _ _ t t' _ h => ?_
  refine (h.note .defaultColors).bind fun _ _ t t' _ h => ?_
  rw [get_bind, get_bind, h.palette]
  exact Alike.forM (fun _ _ _ _ h => (h.note _).mono (fun _ _ _ => trivial) fun _ _ h => h) h

theorem wantsColors (h : t.SameButCorner t') : Alike Eq SameButCorner (wantsColors t) (wantsColors t') := by
  rw [Terminal.wantsColors, get_bind, get_bind, h.color]
  split
  · exact (h.note .hasColors).bind fun _ _ _ _ _ h => ⟨h.window.colors, h⟩
  · exact ⟨rfl, h⟩

theorem setupColors (h : t.SameButCorner t') :
    Alike (fun _ _ => True) SameButCorner (setupColors t) (setupColors t') := by
  refine h.wantsColors.bind ?_
  rintro wanted _ t t' rfl h
  split
  · exact h.registerPalette
  · exact ⟨trivial, h.window, h.palette, h.bold, rfl, h.cursor⟩

theorem setup (h : t.SameButCorner t') : Alike (fun _ _ => True) SameButCorner (setup t) (setup t') := by
  refine h.hideCursor.bind fun _ _ t t' _ h => ?_
  refine (h.note (.immediate true)).bind fun _ _ t t' _ h => ?_
  refine (h.note (.keypad true)).bind fun _ _ t t' _ h => ?_
  refine h.setupColors.bind fun _ _ t t' _ h => ?_
  exact (h.note .clear).mono (fun _ _ _ => trivial) fun _ _ h => h

end Terminal.SameButCorner

/-- Nothing that an animation does with a terminal shows how its window treats the last cell. -/
theorem Terminal.sameButCorner_together [Time τ] : Surface.Together (SameButCorner (τ := τ)) where
  size t t' h := by
    refine ⟨?_, h⟩
    change t.size = t'.size
    rw [Terminal.size, Terminal.size, Window.width, Window.width, Window.height, Window.height, h.window.script]
  put t t' m m' h hm := by
    cases hm
    exact h.write m.x m.y m.glyph.toString m.color
  clear t t' h := ⟨h.window.note .clear, h.palette, h.bold, h.color, h.cursor⟩
  refresh t t' h := (h.inWindow h.window.refresh).mono (fun _ _ _ => trivial) fun _ _ h => h
  poll t t' h := h.inWindow (h.window.inScript Script.poll)
  restore t t' h := h.restore
  now t t' h := ⟨congrArg Script.time h.window.script, h⟩
  sleep t t' d h := (h.inWindow (h.window.inScript (Script.sleep d))).mono (fun _ _ _ => trivial) fun _ _ h => h

/-! ## Animations -/

section Animate

variable [RandomSource ρ] [Time τ] {s : Settings} {source : Except Fault ρ} {window window' : Window τ}

theorem staged_beside (valid : s.Valid) (source : Except Fault ρ) (h : window.SameButCorner window') :
    (∃ first first', Staged s source window first ∧ Staged s source window' first' ∧
      first.Beside Terminal.SameButCorner first') ∨
    (∀ first, ¬ Staged s source window first) ∧ (∀ first, ¬ Staged s source window' first) ∧
      ∀ pace most, Alike Eq Window.SameButCorner (animate s pace source most window)
        (animate s pace source most window') := by
  obtain ⟨palette, hpalette, -⟩ := valid.numbers
  have hterminals : Terminal.SameButCorner (⟨window, palette, s.bold, s.color, none⟩ : Terminal τ)
      ⟨window', palette, s.bold, s.color, none⟩ := ⟨h, rfl, rfl, rfl, rfl⟩
  have hsetup := hterminals.setup
  cases hr : Terminal.setup (⟨window, palette, s.bold, s.color, none⟩ : Terminal τ) <;>
    cases hr' : Terminal.setup (⟨window', palette, s.bold, s.color, none⟩ : Terminal τ) <;> rw [hr, hr'] at hsetup
  · next t _ t' =>
    cases source with
    | ok g =>
      obtain ⟨first, first', hcreate, hcreate', hbeside⟩ := Scene.create_beside Terminal.sameButCorner_together valid g
        hsetup.2 (Terminal.roomy.width t trivial) (Terminal.roomy.height t trivial)
      exact .inl ⟨first, first', ⟨palette, t, g, hpalette, hr, rfl, hcreate⟩,
        ⟨palette, t', g, hpalette, hr', rfl, hcreate'⟩, hbeside⟩
    | error e =>
      refine .inr ⟨fun _ => not_staged_of_source e, fun _ => not_staged_of_source e, fun pace most => ?_⟩
      unfold animate
      simp only [hpalette, hr, hr', Except.bind]
      exact ⟨rfl, hsetup.2.window⟩
  · exact hsetup.elim
  · exact hsetup.elim
  · refine .inr ⟨fun _ => not_staged_of_setup hpalette hr, fun _ => not_staged_of_setup hpalette hr',
      fun pace most => ?_⟩
    unfold animate
    simp only [hpalette, hr, hr']
    exact ⟨hsetup.1, hsetup.2.window⟩

theorem Staged.onTime {first : Scene ρ (Terminal τ)} (valid : s.Valid) (h : Staged s source window first)
    (hcells : window.script.HasCells) : first.OnTime s ∧ first.surface.palette ≠ [] := by
  obtain ⟨palette, hpalette, hne⟩ := valid.numbers
  have opens := h.opens valid hpalette
  obtain ⟨hwidth, hheight, -⟩ := opens.screen
  refine ⟨⟨opens.framed, opens.screen.hasCells hcells, ?_, ?_⟩, ?_⟩
  · rw [opens.width, Window.width, Window.width, hwidth]
    exact Int.max_eq_right hcells.1
  · rw [opens.height, Window.height, Window.height, hheight]
    exact Int.max_eq_right hcells.2.1
  · rw [opens.setup.palette]
    exact hne

/-- All that an animation writes on a window, and all refusals, are left by its strokes. -/
theorem Played.traces_eq {pace : Pace τ} {most : Nat} {palette : List Int} {ks : List (Stroke ρ (Terminal τ))}
    {opening later : List Call} (h : Played s pace source most window palette ks opening later) :
    (left (animate s pace source most window)).calls.filterMap Call.trace? =
      window.calls.filterMap Call.trace? ++ ks.flatMap Stroke.traces := by
  rw [h.calls, List.filterMap_append, List.filterMap_append, h.opening_trace, h.traces, List.nil_append]

/--
On a window that has cells at all times everything is written inside it, and only the last cell can refuse. Such a
refusal changes nothing in the rest: on a window that takes that write the animation ends alike, after the same strokes
on the same scenes, and with the same calls but for the refusals.
-/
theorem never_stale (valid : s.Valid) (pace : Pace τ) (source : Except Fault ρ) (most : Nat)
    (hcells : window.script.HasCells) :
    ∃ ks ks', Draws s pace source most window ks ∧ Draws s pace source most { window with corner := true } ks' ∧
      (left (animate s pace source most window)).calls.filterMap Call.trace? =
        window.calls.filterMap Call.trace? ++ ks.flatMap Stroke.traces ∧
      (∀ k ∈ ks, ∃ before, k.scene = left (Scene.stepPipe k.index before) ∧ Scene.InWindow before k) ∧
      List.Forall₂ (Scene.SameStroke (Scene.Beside Terminal.SameButCorner)) ks ks' ∧
      Alike Eq Window.SameButCorner (animate s pace source most window)
        (animate s pace source most { window with corner := true }) := by
  obtain ⟨palette, hpalette, -⟩ := valid.numbers
  have hsame : window.SameButCorner { window with corner := true } := ⟨rfl, rfl, rfl, rfl⟩
  obtain ⟨first, first', hstaged, hstaged', hbeside⟩ | ⟨hunstaged, hunstaged', halike⟩ :=
    staged_beside valid source hsame
  · have steady : Scene.Steady fun s' : Scene ρ (Terminal τ) => s'.OnTime s ∧ s'.surface.palette ≠ [] :=
      Scene.onTime_steady
    have hfirst := hstaged.onTime valid hcells
    have habreast := Scene.beside_abreast Terminal.sameButCorner_together steady fun _ hs => hs.1.framed
    have hruns := habreast.performs ⟨hbeside, hfirst⟩ pace none most
    obtain ⟨-, ks, ks', hks, hks', hstrokes⟩ := hruns.left
    obtain ⟨later, hplayed⟩ := hstaged.played valid hpalette hks
    refine ⟨ks, ks', .inl ⟨first, hstaged, hks⟩, .inl ⟨first', hstaged', hks'⟩, hplayed.traces_eq, fun k hk => ?_,
      ?_, ?_⟩
    · obtain ⟨-, before, hbefore, hpipe, hstep⟩ := (steady.of_performed hfirst hks).2 k hk
      exact ⟨before, hstep, hbefore.1.stroke hbefore.2 hpipe hstep⟩
    · exact hstrokes.imp fun _ _ h => ⟨h.1, h.2.1⟩
    · rw [hstaged.animate_eq, hstaged'.animate_eq]
      cases hr : first.run pace none most <;> cases hr' : first'.run pace none most <;> rw [hr, hr'] at hruns
      · exact ⟨hruns.1, hruns.2.1.1.surface.window⟩
      · exact hruns.elim
      · exact hruns.elim
      · exact ⟨hruns.1, hruns.2.1.1.surface.window⟩
  · obtain ⟨ks, opening, later, hplayed⟩ := animate_played valid hpalette pace source most window
    obtain ⟨first, hstaged, -⟩ | ⟨-, rfl⟩ := hplayed.draws
    · exact absurd hstaged (hunstaged first)
    · exact ⟨[], [], hplayed.draws, .inr ⟨hunstaged', rfl⟩, hplayed.traces_eq, by simp, .nil, halike pace most⟩

end Animate

/-- A window of one cell, where every write is refused, until it grows. -/
theorem never_stale_one_cell :
    let S : Settings := { pipes := 2, limit := 3, randomStart := true, boundary := .bounce }
    let script : Script Float := {
      width := 1, height := 1, keys := [-1, 410, -1, 113], sizes := [(2, 5)], time := 0, costs := fun _ => 1
      traps := [⟨.put, .failure "put", 7⟩] }
    let window : Window Float := { script, cursor := some 1, colors := true }
    let source : Except Fault Scripted := .ok (.ofLists [0, 0.75] [3, 1, 2])
    S.Valid ∧ window.script.HasCells ∧
      ∃ ks ks', Draws S S.pace source 9 window ks ∧ Draws S S.pace source 9 { window with corner := true } ks' ∧
        (left (animate S S.pace source 9 window)).calls.filterMap Call.trace? =
          window.calls.filterMap Call.trace? ++ ks.flatMap Stroke.traces ∧
        (∀ k ∈ ks, ∃ before, k.scene = left (Scene.stepPipe k.index before) ∧ Scene.InWindow before k) ∧
        List.Forall₂ (Scene.SameStroke (Scene.Beside Terminal.SameButCorner)) ks ks' ∧
        Alike Eq Window.SameButCorner (animate S S.pace source 9 window)
          (animate S S.pace source 9 { window with corner := true }) := by
  intro S script window source
  have valid : S.Valid := by decide +kernel
  have hcells : window.script.HasCells := by simp [Script.HasCells, window, script]
  exact ⟨valid, hcells, never_stale valid S.pace source 9 hcells⟩

end Pipework
