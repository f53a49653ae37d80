import Pipework.Proofs.Beside
import Pipework.Proofs.Fraction
import Pipework.Proofs.Turning

/-!
# Reversals never show

No pipe goes back the way it came, so what a table has for its four reversals is never drawn. Scenes that start alike
with tables that differ in nothing else are coupled twins, whose marks are the same (`Mark.Twin.eq_of_reversals`): all
that is done with them, runs included, is done to equal surfaces and leaves them equal
(`Scene.createWith_reversals`).
-/

set_option linter.unusedSectionVars false

namespace Pipework

open Act

variable {ρ σ τ : Type} [RandomSource ρ] {S : Settings} {T T' : List GlyphTable}

/-! ## Tables -/

/-- The tables are the same but for what they have for the four reversals. -/
def GlyphTable.SameButReversals (t t' : GlyphTable) : Prop :=
  ∀ entering leaving, leaving ≠ Direction.opposite entering → t.glyph entering leaving = t'.glyph entering leaving

theorem forall₂_getElem? {α β : Type} {R : α → β → Prop} {l : List α} {l' : List β} (h : List.Forall₂ R l l') {k : Nat}
    {a : α} {b : β} (ha : l[k]? = some a) (hb : l'[k]? = some b) : R a b := by
  obtain ⟨hk, rfl⟩ := List.getElem?_eq_some_iff.1 ha
  obtain ⟨hk', rfl⟩ := List.getElem?_eq_some_iff.1 hb
  exact h.get hk hk'

theorem Mark.Twin.eq_of_reversals (h : List.Forall₂ GlyphTable.SameButReversals T T') {m m' : Mark}
    (hm : Mark.Twin T T' Eq m m') : m = m' := by
  obtain ⟨p, p', entering, hp, hforward, rfl, rfl⟩ := hm
  obtain ⟨hx, hy⟩ := Prod.ext_iff.1 hp.cell
  obtain ⟨k, hk, hk'⟩ := hp.glyphs
  have hglyph : p.glyphs.glyph entering p.heading = p'.glyphs.glyph entering p'.heading := by
    rw [← hp.heading]
    exact forall₂_getElem? h hk hk' entering p.heading hforward
  rw [Pipe.mark, Pipe.mark, hglyph, hp.color, show p.x = p'.x from hx, show p.y = p'.y from hy]

/-! ## Surfaces -/

section Surfaces

variable [Surface σ]

theorem alike_of_eq {t t' : σ} (h : t = t') (act : Act σ Unit) : Alike (fun _ _ => True) Eq (act t) (act t') := by
  rw [h]
  exact (alike_self _).mono (fun _ _ _ => trivial) fun _ _ h => h

theorem Surface.inStep_self : Surface.InStep Eq Eq (Eq : σ → σ → Prop) where
  size _ _ ht := ht ▸ ⟨rfl, rfl⟩
  put _ _ m _ ht hm := hm ▸ alike_of_eq ht (Surface.put m)
  clear _ _ ht := congrArg Surface.clear ht
  refresh _ _ ht := alike_of_eq ht Surface.refresh

theorem Surface.together_self [Clock σ τ] : Surface.Together (Eq : σ → σ → Prop) where
  toInStep := Surface.inStep_self
  poll _ _ ht := ht ▸ alike_self _
  restore _ _ ht := alike_of_eq ht Surface.restore
  now _ _ ht := ht ▸ ⟨rfl, rfl⟩
  sleep _ _ d ht := alike_of_eq ht (Clock.sleep d)

end Surfaces

/-! ## Scenes -/

namespace Scene

variable [Surface σ] [Clock σ τ] [Time τ] {I : σ → Prop} {P : Scene ρ σ → Prop}

omit [Clock σ τ] [Time τ] in
theorem createWith_running {g : ρ} {t : σ} {s : Scene ρ σ} (h : createWith T S g t = .ok s) : s.running = false := by
  unfold createWith at h
  dsimp only at h
  split at h
  · next hspawn =>
    cases h
    have hrunning := left_spawn_running (⟨S, T, (Surface.size t).1.1, (Surface.size t).1.2, [], 0, 0, false, g,
      (Surface.size t).2⟩ : Scene ρ σ)
    rw [hspawn] at hrunning
    exact hrunning
  · cases h

/-- What tables have for reversals makes no difference to the surface, whatever is done with a scene. -/
theorem createWith_reversals (valid : S.Valid) (lasting : Lasting S (fun _ => True) P) (hwipe : ∀ s, P s → P s.wiped)
    (h : List.Forall₂ GlyphTable.SameButReversals T T') {g : ρ} {t : σ} {s : Scene ρ σ}
    (hcreate : createWith T S g t = .ok s) (hs : P s) :
    ∃ s', createWith T' S g t = .ok s' ∧ ∀ deeds : List (Deed τ), (s'.after deeds).surface = (s.after deeds).surface := by
  have c : Correspondence S S T T' Eq Eq := valid.corresponds h.length_eq
  have step : Surface.InStep Eq (Mark.Twin T T' Eq) (Eq : σ → σ → Prop) :=
    Surface.inStep_self.of_marks fun _ _ hm => hm.eq_of_reversals h
  obtain ⟨s₁, s', hcreate₁, hcreate', htwin⟩ | ⟨e, hfails, -⟩ := c.createWith step g (rfl : t = t)
  · cases hcreate.symm.trans hcreate₁
    have hcoupled : s.Coupled S S T T' Eq Eq Eq s' :=
      ⟨htwin, (createWith_running hcreate).trans (createWith_running hcreate').symm⟩
    refine ⟨s', hcreate', fun deeds => ?_⟩
    exact (c.coupled_after Surface.together_self step lasting hwipe deeds hcoupled hs).surface.symm
  · cases hcreate.symm.trans hfails

end Scene

/-! ## The turn law -/

variable [Surface σ] [Clock σ τ] [Time τ]

/--
On a roomy surface, whatever is done with an animation of valid settings, each glyph asked of the surface is the entry of
a table for a pipe that goes on or turns, and never for one that goes back, so other entries for reversals make no
difference to the surface. A pipe that never turns keeps its course through ticks and resets.
-/
theorem turn_law [LawfulSource ρ] {I : σ → Prop} (room : Surface.Roomy (fun _ => True) I) (valid : S.Valid) (g : ρ)
    {t : σ} (h : I t) :
    ∃ (T : List GlyphTable) (s : Scene ρ (WatchedSurface σ)), S.tables = .ok T ∧
      Scene.create S g ⟨t, []⟩ = .ok s ∧
      (∀ deeds : List (Deed τ), AllLawful ρ S T (s.after deeds).surface.log) ∧
      (∀ T', List.Forall₂ GlyphTable.SameButReversals T T' →
        ∃ s', Scene.createWith T' S g ⟨t, []⟩ = .ok s' ∧
          ∀ deeds : List (Deed τ), (s'.after deeds).surface = (s.after deeds).surface) ∧
      (S.turnChance = 0 → ∀ earlier later : List (Deed τ), (∀ deed ∈ later, deed = .tick ∨ deed = .reset) →
        ((s.after earlier).after later).Courses S ((s.after earlier).pipes.map Pipe.heading)) := by
  obtain ⟨s, hcreate, hs⟩ := Scene.create_abiding room valid g h
  have lasting : Scene.Lasting S (fun _ => True) (Scene.Abiding (ρ := ρ) S I) := Scene.lawful_lasting room
  have hwipe (s : Scene ρ (WatchedSurface σ)) (hs : s.Abiding S I) : s.wiped.Abiding S I := hs.wiped room
  have hafter (deeds : List (Deed τ)) : (s.after deeds).Abiding S I := lasting.after (fun _ => hwipe) hs
  have hT : S.tables = .ok s.tables := hs.1.tables
  refine ⟨s.tables, s, hT, hcreate, fun deeds => ?_, fun T' hsame => ?_, fun hchance earlier later hlater => ?_⟩
  · have hlog := (hafter deeds).2.2
    rwa [show (s.after deeds).tables = s.tables from Except.ok.inj ((hafter deeds).1.tables.symm.trans hT)] at hlog
  · rw [Scene.create_of_tables hT] at hcreate
    exact Scene.createWith_reversals valid lasting hwipe hsame hcreate hs
  · have hkept : (s.after earlier).Courses S ((s.after earlier).pipes.map Pipe.heading) :=
      List.forall₂_same.2 fun d _ => .inl rfl
    exact Scene.courses_after lasting hwipe hchance hlater (hafter earlier) hkept

/-- Two pipes that never turn bounce in a column, which becomes a row, with hashes for reversals or without. -/
theorem turn_law_one_column :
    let S : Settings := { pipes := 2, turnChance := 0, limit := 3, boundary := .bounce, kinds := [0, 5] }
    let script : Script Float := {
      width := 1, height := 4, keys := [-1, 410, 113], sizes := [(3, 1)], time := 0, costs := fun _ => 1
      traps := [⟨.put, .failure "put", 4⟩] }
    let hashed (table : GlyphTable) : GlyphTable :=
      .ofFn fun entering leaving => if leaving = entering.opposite then '#' else table.glyph entering leaving
    S.Valid ∧ script.HasCells ∧
      ∃ (T : List GlyphTable) (s s' : Scene Twister (WatchedSurface (Script Float))), S.tables = .ok T ∧
        Scene.create S (.ofSeed 7) ⟨script, []⟩ = .ok s ∧
        Scene.createWith (T.map hashed) S (.ofSeed 7) ⟨script, []⟩ = .ok s' ∧
        (∀ deeds : List (Deed Float), AllLawful Twister S T (s.after deeds).surface.log ∧
          (s'.after deeds).surface = (s.after deeds).surface) ∧
        ∀ n, ((s.after [.resize]).after (List.replicate n (.tick : Deed Float))).Courses S
          ((s.after [(.resize : Deed Float)]).pipes.map Pipe.heading) := by
  intro S script hashed
  have valid : S.Valid := by decide +kernel
  have hcells : script.HasCells := by simp [Script.HasCells, script]
  obtain ⟨T, s, hT, hcreate, hlawful, hreversals, hcourses⟩ :=
    turn_law (τ := Float) Script.hasCells_roomy valid (Twister.ofSeed 7) hcells
  have hhashed (table : GlyphTable) : table.SameButReversals (hashed table) := by
    intro entering leaving hforward
    rw [GlyphTable.glyph_ofFn, if_neg hforward]
  have hsame : List.Forall₂ GlyphTable.SameButReversals T (T.map hashed) :=
    List.forall₂_map_right_iff.2 (List.forall₂_same.2 fun table _ => hhashed table)
  obtain ⟨s', hcreate', hsurface⟩ := hreversals (T.map hashed) hsame
  refine ⟨valid, hcells, T, s, s', hT, hcreate, hcreate', fun deeds => ⟨hlawful deeds, hsurface deeds⟩, fun n => ?_⟩
  exact hcourses rfl [.resize] _ fun deed hdeed => .inl (List.eq_of_mem_replicate hdeed)

end Pipework
