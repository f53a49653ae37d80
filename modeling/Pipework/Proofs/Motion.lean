import Pipework.Proofs.Roomy
import Pipework.Proofs.Twin
import Pipework.Random.Scripted

/-!
# Style does not influence motion

Two animations that differ in pace and style alone move alike. What a pipe draws next, and how many numbers it
draws for it, depends on lengths of palettes and lists of tables, never on their entries; so on surfaces that
report the same sizes the pipes of both are in the same cells with the same headings at all times, and what is
put on the surfaces differs in the tables that the glyphs are taken from, at the same places of both lists.
Terminals of one size are such surfaces, whatever they are told about colours.
-/

namespace Pipework

open Act

/-- Settings that may differ in pace, in style, and in the tables and colours they name. -/
structure Settings.SameMotion (S S' : Settings) : Prop where
  pipes : S.pipes = S'.pipes
  turnChance : S.turnChance = S'.turnChance
  limit : S.limit = S'.limit
  boundary : S.boundary = S'.boundary
  randomStart : S.randomStart = S'.randomStart
  /-- Pipes that bounce keep their style anyway. -/
  keepStyle : S.boundary = .bounce ∨ S.keepStyle = S'.keepStyle
  colors : S.palette.colors?.map List.length = S'.palette.colors?.map List.length
  tables : S.tables.map List.length = S'.tables.map List.length

def Mark.SamePlace (m m' : Mark) : Prop := m.x = m'.x ∧ m.y = m'.y ∧ m.color = m'.color

/-- Events that differ only in the list of tables that a glyph is taken from. -/
def Event.SameStroke (T T' : List GlyphTable) : Event → Event → Prop
  | .put m, .put m' => m.SamePlace m' ∧ ∃ (k : Nat) (table table' : GlyphTable) (entering leaving : Direction),
      T[k]? = some table ∧ T'[k]? = some table' ∧
        m.glyph = table.glyph entering leaving ∧ m'.glyph = table'.glyph entering leaving
  | .put _, _ => False
  | .clear, e => e = .clear
  | .refresh, e => e = .refresh
  | .restore, e => e = .restore

/-! ## Equal cells -/

section Equal

variable {S S' : Settings} {T T' : List GlyphTable}

theorem Pipe.enter_bounce_wrapped {p : Pipe} {width height : Int} {e : Entry}
    (h : p.enter .bounce width height = .ok e) : e.wrapped = false := by
  by_cases hon : OnScreen width height (p.x + p.heading.dx) (p.y + p.heading.dy) <;>
    · simp only [Pipe.enter, if_pos, hon] at h
      cases h
      rfl

theorem Settings.SameMotion.enter (same : S.SameMotion S') {p p' : Pipe} (hx : p.x = p'.x) (hy : p.y = p'.y)
    (hheading : p.heading = p'.heading) (width height : Int) :
    Entry.Twin S S' Eq (p.enter S.boundary width height) (p'.enter S'.boundary width height) := by
  have hsame : p'.enter S'.boundary width height = p.enter S.boundary width height := by
    unfold Pipe.enter
    rw [hx, hy, hheading, same.boundary]
  rw [hsame]
  cases he : p.enter S.boundary width height with
  | error f => rfl
  | ok e =>
    refine ⟨rfl, rfl, ?_⟩
    rcases same.keepStyle with hbounce | hkeep
    · rw [hbounce] at he
      rw [Pipe.enter_bounce_wrapped he]
      rfl
    · rw [hkeep]

theorem Settings.SameMotion.corresponds (same : S.SameMotion S') (valid : S.Valid) (valid' : S'.Valid)
    (htables : T.length = T'.length) : Correspondence S S' T T' Eq Eq := by
  obtain ⟨colors, hcolors⟩ := valid.colors
  obtain ⟨colors', hcolors'⟩ := valid'.colors
  have hlength := same.colors
  rw [hcolors, hcolors'] at hlength
  refine {
    pipes := same.pipes
    turnChance := same.turnChance
    limit := same.limit
    randomStart := same.randomStart
    colors := ⟨colors, colors', hcolors, hcolors', Option.some.inj hlength⟩
    tables := htables
    centre := ?_, anywhere := fun _ => ⟨fun _ _ h => h, fun _ => rfl⟩, enter := ?_ }
  · rintro size _ rfl
    rfl
  · rintro size _ p p' rfl hp
    obtain ⟨hx, hy⟩ := Prod.ext_iff.1 hp.cell
    exact same.enter hx hy hp.heading size.1 size.2

end Equal

/-! ## Terminals of one size -/

section Terminals

variable {τ : Type}

/-- Windows in the same surroundings, which let the same cells be written. -/
def Window.SamePlace (w w' : Window τ) : Prop := w.script = w'.script ∧ w.corner = w'.corner

namespace Window.SamePlace

variable {α : Type} {w w' : Window τ}

theorem inScript (h : w.SamePlace w') (act : Act (Script τ) α) :
    Alike Eq SamePlace (inScript act w) (inScript act w') := by
  refine Alike.on (V := Eq) ?_ fun t t' ht => ⟨ht, h.2⟩
  rw [h.1]
  exact alike_self _

theorem write (h : w.SamePlace w') (y x : Int) (text text' : String) (attributes attributes' : Nat) :
    Alike (fun _ _ => True) SamePlace (write y x text attributes w) (write y x text' attributes' w') := by
  have hnoted : SamePlace (w.note (.write y x text attributes)) (w'.note (.write y x text' attributes')) := h
  rw [Window.write, Window.write, modify_bind, modify_bind]
  refine (hnoted.inScript (Script.meet .put)).bind fun _ _ w w' _ h => ?_
  have hwritable : w.Writable y x ↔ w'.Writable y x := by
    rw [Writable, Writable, height, height, width, width, h.1, h.2]
  rw [get_bind, get_bind]
  by_cases hw : w.Writable y x
  · rw [if_neg (not_not.2 hw), if_neg (not_not.2 (hwritable.1 hw))]
    exact ⟨trivial, h⟩
  · rw [if_pos hw, if_pos fun hw' => hw (hwritable.2 hw')]
    exact ⟨rfl, h⟩

end Window.SamePlace

/-- Terminals on windows in the same place, each with colours of its own to choose from. -/
structure Terminal.SamePlace (t t' : Terminal τ) : Prop where
  window : t.window.SamePlace t'.window
  palette : t.palette ≠ []
  palette' : t'.palette ≠ []

theorem Terminal.SamePlace.inWindow {t t' : Terminal τ} (h : t.SamePlace t') {act act' : Act (Window τ) Unit}
    (hact : Alike (fun _ _ => True) Window.SamePlace (act t.window) (act' t'.window)) :
    Alike (fun _ _ => True) SamePlace (inWindow act t) (inWindow act' t') :=
  Alike.on hact fun _ _ hw => ⟨hw, h.palette, h.palette'⟩

theorem Terminal.samePlace_inStep [Time τ] : Surface.InStep Eq Mark.SamePlace (SamePlace (τ := τ)) where
  size t t' h := by
    have hscript := h.window.1
    refine ⟨?_, h⟩
    change t.size = t'.size
    rw [Terminal.size, Terminal.size, Window.width, Window.width, Window.height, Window.height, hscript]
  put t t' m m' h hm := by
    obtain ⟨attributes, hattributes⟩ := exists_attributes h.palette m.color
    obtain ⟨attributes', hattributes'⟩ := exists_attributes h.palette' m'.color
    change Alike _ _ (write m.x m.y m.glyph.toString m.color t) (write m'.x m'.y m'.glyph.toString m'.color t')
    rw [Terminal.write, Terminal.write, get_bind, get_bind, hattributes, hattributes', hm.1, hm.2.1]
    exact (h.inWindow (h.window.write m'.y m'.x _ _ _ _)).tolerant.discard
  clear t t' h := ⟨h.window, h.palette, h.palette'⟩
  refresh t t' h := by
    refine h.inWindow ?_
    rw [Window.refresh]
    exact (h.window.inScript Script.refresh).bind fun _ _ w w' _ hw => ⟨trivial, hw⟩

end Terminals

/-! ## Two animations -/

variable {ρ σ σ' τ : Type} [RandomSource ρ] [Surface σ] [Surface σ'] [Clock σ τ] [Clock σ' τ] [Time τ]

end Pipework
