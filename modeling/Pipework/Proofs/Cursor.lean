import Pipework.Proofs.Performance

/-!
# The cursor comes back

Setting a terminal up hides the cursor, and giving it back shows it again as it was found. An animation that runs comes
to both whichever way it ends, so nothing is left to do with the cursor (`Concluded.cursorBack`). An animation whose
seed was left blank is broken off between the two, and a cursor that could be hidden then stays hidden.
-/

namespace Pipework

open Act

variable {τ : Type}

/--
The cursor is again as it was found. The first call made since hides it; if it could be hidden, the last one puts it
back; and no call between them is about it.
-/
structure Window.CursorBack (w w' : Window τ) : Prop where
  cursor : w'.cursor = w.cursor
  calls : ∃ calls, w'.calls = w.calls ++ .cursor 0 :: (calls ++ w.cursor.toList.map Call.cursor) ∧
    ∀ c ∈ calls, ¬ c.IsCursor

theorem colorCalls_cursor (palette : List Int) (wanted colors : Bool) :
    ∀ c ∈ colorCalls palette wanted colors, ¬ c.IsCursor := by
  intro c hc
  simp only [colorCalls, pairCalls, List.mem_append, List.mem_ite_nil_right, List.mem_cons,
    List.mem_map, List.not_mem_nil, or_false] at hc
  rcases hc with ⟨-, rfl⟩ | ⟨-, (rfl | rfl) | ⟨i, -, rfl⟩⟩ <;> exact id

theorem setupCalls_cursor (palette : List Int) (wanted colors : Bool) :
    ∃ calls, setupCalls palette wanted colors = .cursor 0 :: calls ∧ ∀ c ∈ calls, ¬ c.IsCursor := by
  refine ⟨.immediate true :: .keypad true :: (colorCalls palette wanted colors ++ [.clear]), rfl, ?_⟩
  intro c hc
  simp only [List.mem_cons, List.mem_append, List.not_mem_nil, or_false] at hc
  rcases hc with rfl | rfl | hc | rfl
  · exact id
  · exact id
  · exact colorCalls_cursor palette wanted colors c hc
  · exact id

variable {window : Window τ} {palette : List Int} {wanted colors : Bool} {old : List Trap}

theorem Terminal.Held.cursorBack {t : Terminal τ}
    (held : t.Held window.cursor ((setupCalls palette wanted colors).reverse ++ window.log)) :
    window.CursorBack t.givenBack.window := by
  obtain ⟨opening, hopening, hsetup⟩ := setupCalls_cursor palette wanted colors
  obtain ⟨hremembers, ⟨-, later, hlog, hlater⟩, -⟩ := held
  refine ⟨hremembers, opening ++ later.reverse, ?_, fun c hc => ?_⟩
  · have hback : (window.cursor.toList.map Call.cursor).reverse = window.cursor.toList.map Call.cursor := by
      cases window.cursor <;> rfl
    rw [Window.calls, givenBack, hremembers, hlog, hopening]
    simp [Window.calls, hback]
  · rcases List.mem_append.1 hc with hc | hc
    · exact hsetup c hc
    · exact hlater c (List.mem_reverse.1 hc)

theorem Concluded.cursorBack {ρ : Type} [RandomSource ρ] [Time τ] {plan : Scene.Plan τ} {most : Nat}
    {first : Scene ρ (Terminal τ)} {r : EStateM.Result Fault (Window τ) (Option Nat)}
    (h : Concluded window.cursor ((setupCalls palette wanted colors).reverse ++ window.log) old plan most first r)
    (hends : ∀ w, r ≠ .ok none w) : window.CursorBack (left r) := by
  cases h with
  | goesOn => exact absurd rfl (hends _)
  | stopped held => exact held.cursorBack
  | interrupted held => exact held.cursorBack
  | failed held => exact held.cursorBack

/-- Where the cursor was hidden and not asked to come back, it is back only if it could not be hidden. -/
theorem Window.cursorBack_hidden_iff {w : Window τ} (hcursor : w.cursor = window.cursor.map fun _ => 0)
    (hlog : w.log = (setupCalls palette wanted colors).reverse ++ window.log) :
    window.CursorBack w ↔ window.cursor = none := by
  obtain ⟨opening, hopening, hsetup⟩ := setupCalls_cursor palette wanted colors
  have hcalls : w.calls = window.calls ++ .cursor 0 :: opening := by
    rw [Window.calls, hlog, hopening]
    simp [Window.calls]
  constructor
  · rintro ⟨-, calls, hback, -⟩
    rw [hcalls] at hback
    have hopens : opening = calls ++ window.cursor.toList.map Call.cursor :=
      (List.cons.inj (List.append_cancel_left hback)).2
    cases hfound : window.cursor with
    | none => rfl
    | some visibility =>
      -- the call that would put it back is not among those that set the terminal up
      rw [hfound] at hopens
      have hmem : Call.cursor visibility ∈ opening := by
        rw [hopens]
        exact List.mem_append_right _ List.mem_cons_self
      exact absurd trivial (hsetup _ hmem)
  · intro hnone
    rw [hnone] at hcursor
    refine ⟨hcursor.trans hnone.symm, opening, ?_, hsetup⟩
    rw [hcalls, hnone]
    simp

/--
With valid settings and traps for frames only, an animation that ends brings the cursor back, unless its seed was left
blank: then it ends before there is anything to give back, and a cursor that was hidden stays so.
-/
theorem cursor_returns_iff {s : Settings} (valid : s.Valid) {window : Window Float} (h : window.Unhindered)
    (entropy : Int) {most : Nat}
    (hends : ∀ w, animate s s.pace (s.seed.source entropy) most window ≠ .ok none w) :
    (window.CursorBack (left (animate s s.pace (s.seed.source entropy) most window)) ↔
        s.seed ≠ .blank ∨ window.cursor = none) ∧
      (s.seed = .blank → ∃ w, animate s s.pace (s.seed.source entropy) most window = .error (.blank .seed) w) := by
  obtain ⟨palette, ⟨hblank, hbroken⟩ | ⟨hseed, first, -, hconcluded⟩⟩ := animate_cases valid h entropy most
  · rw [hbroken]
    refine ⟨?_, fun _ => ⟨_, rfl⟩⟩
    rw [Window.cursorBack_hidden_iff rfl rfl]
    exact ⟨.inr, fun h => h.resolve_left fun hne => hne hblank⟩
  · have hback := hconcluded.cursorBack hends
    exact ⟨⟨fun _ => .inl hseed, fun _ => hback⟩, fun hblank => absurd hblank hseed⟩

/-- The visible cursor of a window of one cell stays hidden after settings that are valid but for a blank seed. -/
theorem cursor_stays_hidden_blank_seed :
    let S : Settings := { seed := .blank }
    let script : Script Float := {
      width := 1, height := 1, keys := [113], sizes := [], time := 0, costs := fun _ => 0, traps := [] }
    let window : Window Float := { script, cursor := some 1, colors := true }
    S.Valid ∧ window.Unhindered ∧ (∀ w, animate S S.pace (S.seed.source 0) 5 window ≠ .ok none w) ∧
      ¬ window.CursorBack (left (animate S S.pace (S.seed.source 0) 5 window)) := by
  intro S script window
  have valid : S.Valid := by decide +kernel
  have hunhindered : window.Unhindered := fun trap htrap => (List.not_mem_nil htrap).elim
  have hends : ∀ w, animate S S.pace (S.seed.source 0) 5 window ≠ .ok none w := by
    intro w hgoesOn
    obtain ⟨palette, ⟨-, hbroken⟩ | ⟨hseed, -⟩⟩ := animate_cases valid hunhindered 0 5
    · cases hbroken.symm.trans hgoesOn
    · exact hseed rfl
  refine ⟨valid, hunhindered, hends, fun hback => ?_⟩
  obtain ⟨hiff, -⟩ := cursor_returns_iff valid hunhindered 0 hends
  rcases hiff.1 hback with hseed | hcursor
  · exact hseed rfl
  · cases hcursor

end Pipework
