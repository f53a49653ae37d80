import Pipework.Proofs.Faultless
import Pipework.Proofs.Faulty

/-!
# Ticks that are broken off

A surface that fails in the midst of a tick leaves the animation half done. The step of a pipe changes everything
before the put but for the count of what is drawn. So if a put fails then the pipes up to the one to be drawn have
made a stride each and the later ones none, and the puts before it are counted (`Underway`). Resets in between move
all pipes, but turn and restyle none; the last of them is where the pipes that have made no stride since then lie
(`ScatteredLast`). A refresh that fails leaves all but the surface as it is after the whole tick.
-/

set_option linter.unusedSectionVars false

namespace Pipework

open Act

/-! ## Pipes under way -/

/-- Of some pipes the first have made a stride each, and the others none. Before the stride, and again after it,
pipes are related by `D` to what they were. -/
structure Pipe.Progress (D : Pipe → Pipe → Prop) (before : List Pipe) (strides : List Stride) (now : List Pipe) :
    Prop where
  length : now.length = before.length
  made : ∀ (i : Nat) (v : Stride), strides[i]? = some v →
    ∃ p q, before[i]? = some p ∧ now[i]? = some q ∧ D p v.before ∧ D v.after q
  later : ∀ (i : Nat) (p : Pipe), strides.length ≤ i → before[i]? = some p → ∃ q, now[i]? = some q ∧ D p q

namespace Pipe.Progress

variable {D : Pipe → Pipe → Prop} {before now now' : List Pipe} {strides : List Stride} {v : Stride}

theorem refl (hD : ∀ p, D p p) (pipes : List Pipe) : Progress D pipes [] pipes where
  length := rfl
  made i v hv := by simp at hv
  later i p _ hp := ⟨p, hp, hD p⟩

theorem moved (h : Progress D before strides now) (hD : ∀ p q r, D p q → D q r → D p r)
    (hmoved : List.Forall₂ D now now') : Progress D before strides now' := by
  refine ⟨hmoved.length_eq.symm.trans h.length, fun i v hv => ?_, fun i p hi hp => ?_⟩
  · obtain ⟨p, q, hp, hq, hbefore, hafter⟩ := h.made i v hv
    obtain ⟨q', hq', hD'⟩ := exists_getElem?_of_forall₂ hmoved hq
    exact ⟨p, q', hp, hq', hbefore, hD _ _ _ hafter hD'⟩
  · obtain ⟨q, hq, hpq⟩ := h.later i p hi hp
    obtain ⟨q', hq', hD'⟩ := exists_getElem?_of_forall₂ hmoved hq
    exact ⟨q', hq', hD _ _ _ hpq hD'⟩

theorem stride (h : Progress D before strides now) (hD : ∀ p, D p p) (hv : now[strides.length]? = some v.before) :
    Progress D before (strides ++ [v]) (now.set strides.length v.after) := by
  obtain ⟨hlt, -⟩ := List.getElem?_eq_some_iff.1 hv
  refine ⟨List.length_set.trans h.length, fun i u hu => ?_, fun i p hi hp => ?_⟩
  · by_cases hi : i < strides.length
    · rw [List.getElem?_append_left hi] at hu
      rw [List.getElem?_set_ne (by omega)]
      exact h.made i u hu
    · obtain rfl : i = strides.length := by
        have hlength := (List.getElem?_eq_some_iff.1 hu).1
        rw [List.length_append, List.length_singleton] at hlength
        omega
      obtain rfl : v = u := by simpa using hu
      have hlt' : strides.length < before.length := h.length ▸ hlt
      have hp : before[strides.length]? = some before[strides.length] := List.getElem?_eq_getElem hlt'
      obtain ⟨q, hq, hpq⟩ := h.later _ _ (Nat.le_refl _) hp
      obtain rfl : v.before = q := Option.some.inj (hv.symm.trans hq)
      exact ⟨_, v.after, hp, List.getElem?_set_self hlt, hpq, hD v.after⟩
  · rw [List.length_append, List.length_singleton] at hi
    rw [List.getElem?_set_ne (by omega)]
    exact h.later i p (by omega) hp

end Pipe.Progress

/-! ## Events under way -/

/-- The number of glyphs on the canvas after an event, if there were `n` before. -/
def Event.counted (n : Nat) : Event → Nat
  | put _ => n + 1
  | clear => 0
  | _ => n

def drawnAfter (n : Nat) (events : List Event) : Nat := events.foldl Event.counted n

/-- The clear that has to come before a put, if the limit is reached. -/
def clearing (limit : Int) (n : Nat) : List Event := if limit ≠ 0 ∧ limit ≤ n then [.clear] else []

/-- The events of some puts, each after the clear that the limit demands, if there were `n` glyphs to start with. -/
def budgeted (limit : Int) : Nat → List Mark → List Event
  | _, [] => []
  | n, mark :: marks =>
    let events := clearing limit n ++ [.put mark]
    events ++ budgeted limit (drawnAfter n events) marks

theorem drawnAfter_append (n : Nat) (events events' : List Event) :
    drawnAfter n (events ++ events') = drawnAfter (drawnAfter n events) events' :=
  List.foldl_append

theorem budgeted_concat (limit : Int) (n : Nat) (marks : List Mark) (mark : Mark) :
    budgeted limit n (marks ++ [mark]) = budgeted limit n marks ++
      (clearing limit (drawnAfter n (budgeted limit n marks)) ++ [.put mark]) := by
  induction marks generalizing n with
  | nil => simp [budgeted, drawnAfter]
  | cons first marks ih =>
    simp only [List.cons_append, budgeted, ih]
    generalize clearing limit n ++ [.put first] = events
    rw [drawnAfter_append, List.append_assoc]

/-! ## Scenes under way -/

namespace Scene

variable {ρ σ : Type} [RandomSource ρ] [Surface σ] {S : Settings} {s s' r m t earlier : Scene ρ (LoggedSurface σ)}
  {strides : List Stride} {new : List Event} {v : Stride} {k : Nat}

/-- The last reset that has moved pipes: it led from `earlier`, where `k` strides had been made, to `r`, and the
pipes that have made no stride since then lie where it moved them. -/
structure ScatteredLast (S : Settings) (s : Scene ρ (LoggedSurface σ)) (strides : List Stride)
    (t : Scene ρ (LoggedSurface σ)) (k : Nat) (earlier r : Scene ρ (LoggedSurface σ)) : Prop where
  within : k ≤ strides.length
  stepped : Stepped S s (strides.take k) earlier
  reset : reset earlier = .ok () r
  scattered : Scattered earlier.width earlier.height earlier.source earlier.pipes r.pipes r.source
  since : ∃ later, t.surface.events = r.surface.events ++ later ∧ .clear ∉ later
  pipes : ∀ i, i < k ∨ strides.length ≤ i → t.pipes[i]? = r.pipes[i]?

/-- What a tick has come to once the first pipes have made their strides, with the events since its start. -/
structure Underway (S : Settings) (s : Scene ρ (LoggedSurface σ)) (strides : List Stride) (new : List Event)
    (t : Scene ρ (LoggedSurface σ)) : Prop where
  framed : t.Framed S
  events : t.surface.events = s.surface.events ++ new
  drawn : t.drawn = drawnAfter s.drawn new
  resets : t.resets = s.resets + new.count .clear
  /-- A pipe moves by its stride and by resets, and nothing else of it changes but by its stride. -/
  moved : Pipe.Progress Pipe.Displaced s.pipes strides t.pipes
  /-- Without a reset that moves pipes, each pipe moves by its stride alone. -/
  still : S.randomStart = false ∨ .clear ∉ new → Pipe.Progress Eq s.pipes strides t.pipes
  scattered : S.randomStart = true → .clear ∈ new → ∃ k earlier r, ScatteredLast S s strides t k earlier r

namespace ScatteredLast

theorem stride (h : ScatteredLast S s strides r k earlier t) (v : Stride) (g : ρ) :
    ScatteredLast S s (strides ++ [v]) (r.withPipes (r.pipes.set strides.length v.after) g) k earlier t := by
  have hk := h.within
  refine { reset := h.reset, scattered := h.scattered, since := h.since, within := ?_, stepped := ?_, pipes := ?_ }
  · rw [List.length_append]
    omega
  · rw [List.take_append_of_le_length hk]
    exact h.stepped
  · intro i hi
    rw [List.length_append, List.length_singleton] at hi
    have hset : (r.pipes.set strides.length v.after)[i]? = r.pipes[i]? := List.getElem?_set_ne (by omega)
    exact hset.trans (h.pipes i (by omega))

theorem draw (h : ScatteredLast S s strides m k earlier t) {mark : Mark} {surface : LoggedSurface σ} {drawn : Nat}
    (hevents : surface.events = m.surface.events ++ [.put mark]) :
    ScatteredLast S s strides { m with surface, drawn } k earlier t := by
  obtain ⟨later, hlater, hclear⟩ := h.since
  refine { h with since := ⟨later ++ [.put mark], ?_, by simpa using hclear⟩ }
  rw [hevents, hlater, List.append_assoc]

end ScatteredLast

namespace Underway

theorem refl (hs : s.Framed S) : Underway S s [] [] s where
  framed := hs
  events := (List.append_nil _).symm
  drawn := rfl
  resets := rfl
  moved := .refl Pipe.Displaced.refl s.pipes
  still _ := .refl (fun _ => rfl) s.pipes
  scattered _ hclear := absurd hclear List.not_mem_nil

theorem clearing_eq (h : Underway S s strides new t) :
    clearing S.limit (drawnAfter s.drawn new) = if t.isFull then [.clear] else [] := by
  rw [clearing, ← h.drawn, ← h.framed.settings]
  simp [isFull]

theorem room (h : Underway S s strides new t) (hstepped : Stepped S s strides t) (hmade : t.MadeRoom r)
    (hframed : r.Framed S) : Underway S s strides (new ++ clearing S.limit (drawnAfter s.drawn new)) r := by
  have hmoved := h.moved.moved (fun _ _ _ => Pipe.Displaced.trans) hmade.displaced
  rw [h.clearing_eq]
  cases hmade with
  | enough room =>
    rw [room, if_neg Bool.false_ne_true, List.append_nil]
    exact h
  | @reset r full act made =>
    rw [if_pos full]
    have hwiped : r.surface.events = s.surface.events ++ (new ++ [.clear]) := by
      rw [made.eq_wiped, ← List.append_assoc, ← h.events]
      exact LoggedSurface.events_clear _
    refine { framed := hframed, events := hwiped, moved := hmoved,
             drawn := ?_, resets := ?_, still := ?_, scattered := ?_ }
    · rw [made.eq_wiped, drawnAfter_append]
      rfl
    · rw [made.eq_wiped, List.count_append, ← Nat.add_assoc, ← h.resets]
      rfl
    · intro hstill
      cases made with
      | still still => exact h.still (.inl (h.framed.settings ▸ still))
      | scattered anywhere moved =>
        rw [h.framed.settings] at anywhere
        simp [anywhere] at hstill
    · intro hanywhere _
      cases made with
      | still still =>
        rw [h.framed.settings, hanywhere] at still
        cases still
      | scattered anywhere moved =>
        have htake : Stepped S s (strides.take strides.length) t := List.take_length ▸ hstepped
        refine ⟨strides.length, t, _, Nat.le_refl _, htake, act, moved, ?_, fun _ _ => rfl⟩
        exact ⟨[], (List.append_nil _).symm, List.not_mem_nil⟩

theorem stride (h : Underway S s strides new r) (hv : r.pipes[strides.length]? = some v.before) {g : ρ}
    (hframed : (r.withPipes (r.pipes.set strides.length v.after) g).Framed S) :
    Underway S s (strides ++ [v]) new (r.withPipes (r.pipes.set strides.length v.after) g) where
  framed := hframed
  events := h.events
  drawn := h.drawn
  resets := h.resets
  moved := h.moved.stride Pipe.Displaced.refl hv
  still hstill := (h.still hstill).stride (fun _ => rfl) hv
  scattered hanywhere hclear := by
    obtain ⟨k, earlier, t, hlast⟩ := h.scattered hanywhere hclear
    exact ⟨k, earlier, t, hlast.stride v g⟩

theorem draw (h : Underway S s strides new m) {mark : Mark} (hdraw : draw mark m = .ok () t) :
    Underway S s strides (new ++ [.put mark]) t := by
  obtain ⟨surface, hput, rfl⟩ := put_of_draw hdraw
  have hevents : surface.events = m.surface.events ++ [.put mark] := LoggedSurface.noting_events hput
  refine { framed := h.framed.elsewhere, moved := h.moved,
           events := ?_, drawn := ?_, resets := ?_, still := ?_, scattered := ?_ }
  · rw [← List.append_assoc, ← h.events]
    exact hevents
  · rw [drawnAfter_append, ← h.drawn]
    rfl
  · rw [List.count_append, h.resets]
    rfl
  · intro hstill
    exact h.still (hstill.imp_right fun hclear => by simpa using hclear)
  · intro hanywhere hclear
    obtain ⟨k, earlier, r, hlast⟩ := h.scattered hanywhere (by simpa using hclear)
    exact ⟨k, earlier, r, hlast.draw hevents⟩

theorem approach (h : Underway S s strides new t) (hstepped : Stepped S s strides t)
    (happroached : Approached S strides.length t r v m) :
    Underway S s (strides ++ [v]) (new ++ clearing S.limit (drawnAfter s.drawn new)) m := by
  have hroom := h.room hstepped happroached.room (happroached.room.framed h.framed)
  have hframed := happroached.framed h.framed
  obtain ⟨g, -, rfl⟩ := happroached.advance
  exact hroom.stride happroached.pipe hframed

theorem counted (h : Underway S s strides new t) (hcounted : s.drawn = drawnAfter 0 s.surface.events) :
    t.drawn = drawnAfter 0 t.surface.events := by
  rw [h.drawn, h.events, drawnAfter_append, ← hcounted]

end Underway

theorem Stepped.underway (h : Stepped S s strides t) (hs : s.Framed S) :
    Underway S s strides (budgeted S.limit s.drawn (strides.map (·.mark))) t := by
  induction h with
  | nil => exact .refl hs
  | concat earlier approached drawn ih =>
    rw [List.map_append, List.map_singleton, budgeted_concat, ← List.append_assoc]
    exact (ih.approach earlier approached).draw drawn

/--
The tick from `s` comes to the put of pipe `j`: the earlier pipes have made `strides`, and pipe `j` has made `v` but is
still to be drawn. The events since the start are those that the budget demands for all these puts, but for the last.
-/
structure ComesToPut (S : Settings) (s : Scene ρ (LoggedSurface σ)) (j : Nat) (strides : List Stride) (v : Stride)
    (new : List Event) (m : Scene ρ (LoggedSurface σ)) : Prop where
  count : strides.length = j
  course : ∃ s' r, Stepped S s strides s' ∧ Approached S j s' r v m
  goesOn : tick s = (draw v.mark >>= fun _ =>
    ((List.range s.pipes.length).drop (j + 1)).forM stepPipe >>= fun _ => onSurface Surface.refresh) m
  events : new ++ [.put v.mark] = budgeted S.limit s.drawn ((strides ++ [v]).map (·.mark))
  underway : Underway S s (strides ++ [v]) new m
  current : m.pipes[j]? = some v.after
  /-- If the puts since the last clear were counted before the tick, they still are. -/
  counted : s.drawn = drawnAfter 0 s.surface.events → m.drawn = drawnAfter 0 m.surface.events

theorem Stepped.comesToPut (h : Stepped S s strides s') (hs : s.Framed S)
    (happroached : Approached S strides.length s' r v m) (hj : strides.length < s.pipes.length) :
    ∃ new, ComesToPut S s strides.length strides v new m := by
  have hunderway := (h.underway hs).approach h happroached
  refine ⟨_, rfl, ⟨s', r, h, happroached⟩, h.tick_eq happroached hj, ?_, hunderway, ?_, hunderway.counted⟩
  · rw [List.map_append, List.map_singleton, budgeted_concat, List.append_assoc]
  · obtain ⟨hlt, -⟩ := List.getElem?_eq_some_iff.1 happroached.pipe
    rw [happroached.pipes_eq]
    exact List.getElem?_set_self hlt

end Scene

open Scene

/--
What a tick leaves that is broken off, if the surface would have let it through. If the put of pipe `j` is the first to
fail then it leaves the scene to which the undisturbed tick comes at this put; if the refresh fails then it leaves all
but the surface as the undisturbed tick does.
-/
theorem tick_broken_off {ρ σ : Type} [RandomSource ρ] [Surface σ] {S : Settings} {s done : Scene ρ (LoggedSurface σ)}
    (hs : s.Framed S) (hdone : tick s = .ok () done) :
    (∀ (f : Faults) (j : Nat) (e : Fault), j < s.pipes.length → (∀ i < j, f.put i = none) → f.put j = some e →
      ∃ strides v new m, ComesToPut S s j strides v new m ∧
        tick (s.disturbed f) = .error e (m.disturbed (f.later (j + 1)))) ∧
    ∀ (f : Faults) (e : Fault), (∀ i < s.pipes.length, f.put i = none) → f.refresh = some e →
      ∃ s', tick (s.disturbed f) = .error e s' ∧ { s' with surface := done.surface } = done := by
  refine ⟨fun f j e hj hnone hsome => ?_, fun f e => tick_disturbed_of_refresh hs hdone⟩
  obtain ⟨strides, s', rfl, hstepped⟩ := exists_stepped hs hdone hj
  have hframed := hstepped.framed hs
  have hlt : strides.length < s'.pipes.length := by rwa [hframed.length_pipes, ← hs.length_pipes]
  obtain ⟨r, v, m, happroached, -⟩ := approach_eq hframed hlt
  obtain ⟨new, hcomes⟩ := hstepped.comesToPut hs happroached hj
  exact ⟨strides, v, new, m, hcomes, hstepped.tick_disturbed happroached hj hs hnone hsome⟩

/-- Three pipes that start anywhere, with a reset right before the put that fails. -/
theorem tick_broken_off_terminal :
    let S : Settings := { pipes := 3, limit := 2, randomStart := true }
    let g : Scripted := .ofLists [0.0625, 0.75] [3, 1, 2]
    let window : Window Float := {
      script := { width := 4, height := 3, keys := [], sizes := [], time := 0, costs := fun _ => 1, traps := [] }
      cursor := some 1, colors := true }
    let t : Terminal Float := ⟨window, [1, 3, 7], true, true, none⟩
    let f : Faults := ⟨fun n => if n = 2 then some (.failure "put") else none, none⟩
    S.Valid ∧ t.Sound ∧ (∀ i < 2, f.put i = none) ∧ f.put 2 = some (.failure "put") ∧
      ∃ s done : Scene Scripted (LoggedSurface (Terminal Float)),
        create S g ⟨t, []⟩ = .ok s ∧ s.Framed S ∧ tick s = .ok () done ∧ 2 < s.pipes.length ∧
          ∃ strides v new m, ComesToPut S s 2 strides v new m ∧
            tick (s.disturbed f) = .error (.failure "put") (m.disturbed (f.later 3)) := by
  intro S g window t f
  have valid : S.Valid := by decide +kernel
  have ht : t.Sound := ⟨rfl, List.cons_ne_nil _ _⟩
  have hnone : ∀ i < 2, f.put i = none := fun i hi => if_neg (by omega)
  obtain ⟨s, hcreate, hframed, hsound⟩ := create_logged Terminal.sound_roomy valid g ht
  obtain ⟨_, done, hdone, -⟩ := ((roomy_lasting Terminal.sound_roomy.logged).tick ⟨hframed, hsound⟩).exists_ok
  have hlength : s.pipes.length = 3 := hframed.length_pipes
  have hput : 2 < s.pipes.length := by omega
  obtain ⟨hputs, -⟩ := tick_broken_off hframed hdone
  exact ⟨valid, ht, hnone, rfl, s, done, hcreate, hframed, hdone, hput, hputs f 2 _ hput hnone rfl⟩

end Pipework
