import Mathlib.Data.List.Forall2
import Pipework.Proofs.Numeral
import Pipework.Proofs.Reading

/-!
# Settings written as a command line

Settings can be written as a command line: one group for each value, one for each kind, and a flag wherever they
differ from the default. The groups may stand in any order, as long as the kinds keep theirs, and names may be cut
short. Reading such a rendering gives the settings back, because the requests for one option are the same in every
order (`filled_congr`), and the form that all of them denote is the form of the settings.
-/

namespace Pipework.CommandLine

/-! ## Renderings -/

def numeral (n : Int) : List Char := (toString n).toList

/-- The number that a seed names. -/
def seedNumber? : Seed → Option Int
  | .number n => some n
  | _ => none

/-- A flag that is given under a condition. -/
def flagged (given : Bool) (o : Opt) : List Request := if given then [⟨o, none⟩] else []

/-- The requests that settings are written as, with texts for their doubles. -/
def groups (s : Settings) (fps : List Char) (timeout : Option (List Char)) : List Request :=
  [⟨.pipes, some (numeral s.pipes)⟩, ⟨.fps, some fps⟩, ⟨.turnChance, some (numeral s.turnChance)⟩,
    ⟨.limit, some (numeral s.limit)⟩, ⟨.palette, some s.palette.name.toList⟩]
  ++ timeout.toList.map (⟨.timeout, some ·⟩)
  ++ s.kinds.map (⟨.kind, some <| numeral ·⟩)
  ++ s.custom.toList.map (⟨.custom, some ·.toList⟩)
  ++ flagged (s.boundary = .bounce) .bounce ++ flagged s.randomStart .randomStart
  ++ flagged s.keepStyle .keepStyle ++ flagged (!s.bold) .noBold ++ flagged (!s.color) .noColor
  ++ (seedNumber? s.seed).toList.map (⟨.seed, some <| numeral ·⟩)

/-- An argument that gives an option, its name perhaps cut short, with its value after an equals sign. -/
def Request.WrittenAs (r : Request) (text : String) : Prop :=
  ∃ name, r.opt.BegunBy name ∧ text.toList = name ++ r.value.elim [] ('=' :: ·)

/-- The arguments render settings: in any order of the groups in which the kinds keep theirs. -/
def Renders (s : Settings) (arguments : List String) : Prop :=
  ∃ fps timeout order, Decimal.float? fps = some s.fps ∧ timeout.map Decimal.float? = s.timeout.map some ∧
    order.Perm (groups s fps timeout) ∧
    order.filter (·.opt = .kind) = (groups s fps timeout).filter (·.opt = .kind) ∧
    List.Forall₂ Request.WrittenAs order arguments

def integers (s : Settings) : List Int :=
  [s.pipes, s.turnChance, s.limit] ++ s.kinds ++ (seedNumber? s.seed).toList

variable {s : Settings} {fps : List Char} {timeout : Option (List Char)}

theorem filter_groups (o : Opt) :
    (groups s fps timeout).filter (·.opt = o) = match o with
      | .help | .version => []
      | .pipes => [⟨.pipes, some (numeral s.pipes)⟩]
      | .fps => [⟨.fps, some fps⟩]
      | .turnChance => [⟨.turnChance, some (numeral s.turnChance)⟩]
      | .limit => [⟨.limit, some (numeral s.limit)⟩]
      | .palette => [⟨.palette, some s.palette.name.toList⟩]
      | .timeout => timeout.toList.map (⟨.timeout, some ·⟩)
      | .kind => s.kinds.map (⟨.kind, some <| numeral ·⟩)
      | .custom => s.custom.toList.map (⟨.custom, some ·.toList⟩)
      | .bounce => flagged (s.boundary = .bounce) .bounce
      | .randomStart => flagged s.randomStart .randomStart
      | .keepStyle => flagged s.keepStyle .keepStyle
      | .noBold => flagged (!s.bold) .noBold
      | .noColor => flagged (!s.color) .noColor
      | .seed => (seedNumber? s.seed).toList.map (⟨.seed, some <| numeral ·⟩) := by
  have hflag (given : Bool) (o o' : Opt) :
      (flagged given o).filter (·.opt = o') = if o = o' then flagged given o else [] := by
    cases given <;> by_cases h : o = o' <;> simp [flagged, h]
  have hmap {α : Type} (l : List α) (f : α → Option (List Char)) (o o' : Opt) :
      (l.map fun a => (⟨o, f a⟩ : Request)).filter (·.opt = o') = if o = o' then l.map fun a => ⟨o, f a⟩ else [] := by
    by_cases h : o = o' <;> simp [List.filter_map, Function.comp_def, h]
  unfold groups
  simp only [List.filter_append, hflag, hmap]
  cases o <;> simp

/-- Only kinds have more than one group. -/
theorem length_filter_groups {o : Opt} (ho : o ≠ .kind) :
    ((groups s fps timeout).filter (·.opt = o)).length ≤ 1 := by
  rw [filter_groups]
  cases o with
  | help | version => exact Nat.zero_le 1
  | pipes | fps | turnChance | limit | palette => exact Nat.le_refl 1
  | timeout => cases timeout <;> simp
  | custom => cases s.custom <;> simp
  | seed => cases seedNumber? s.seed <;> simp
  | kind => exact absurd rfl ho
  | bounce | randomStart | keepStyle | noBold | noColor =>
    dsimp only [flagged]
    split <;> simp

/-- A group alone stays where it is in every order. -/
theorem filter_eq_of_perm {order : List Request} (hperm : order.Perm (groups s fps timeout))
    (hkinds : order.filter (·.opt = .kind) = (groups s fps timeout).filter (·.opt = .kind)) (o : Opt) :
    order.filter (·.opt = o) = (groups s fps timeout).filter (·.opt = o) := by
  by_cases ho : o = .kind
  · rw [ho, hkinds]
  · have hfilter := hperm.filter (·.opt = o)
    have hlength := @length_filter_groups s fps timeout o ho
    generalize (groups s fps timeout).filter (·.opt = o) = rs at hfilter hlength ⊢
    rcases rs with _ | ⟨r, _ | ⟨r', rs⟩⟩
    · exact List.perm_nil.1 hfilter
    · exact List.perm_singleton.1 hfilter
    · simp at hlength

/-! ## Reading a rendering -/

theorem text?_eq {o : Opt} {text : List Char} (h : text ≠ dashes) :
    (⟨o, some text⟩ : Request).text? = some text := by
  simp [Request.text?, h]

/-- A text that can be read as something is given, for two dashes cannot. -/
theorem reads_and_as {α : Type} {read : List Char → Option α} {o : Opt} {text : List Char} {a : α}
    (hdashes : read dashes = none) (h : read text = some a) :
    (⟨o, some text⟩ : Request).reads read ∧ (⟨o, some text⟩ : Request).as read = some a := by
  have hne : text ≠ dashes := by
    rintro rfl
    rw [hdashes] at h
    cases h
  simp [Request.reads, Request.as, text?_eq hne, h]

theorem int?_dashes : Decimal.int? dashes = none := rfl

theorem float?_dashes : Decimal.float? dashes = none := rfl

theorem paletteNamed?_dashes : paletteNamed? dashes = none := rfl

theorem paletteNamed?_name {p : Palette} (h : p.colors?.isSome) : paletteNamed? p.name.toList = some p := by
  cases p with
  | unknown name => cases h
  | _ => decide

section Groups

variable (hvalid : s.Valid) (hints : ∀ n ∈ integers s, Decimal.int? (numeral n) = some n)
  (hfps : Decimal.float? fps = some s.fps) (htimeout : timeout.map Decimal.float? = s.timeout.map some)

include hvalid hints hfps htimeout

theorem converts_groups {r : Request} (hr : r ∈ groups s fps timeout) :
    r.Converts ∧ r.value.isSome = r.opt.takesValue := by
  obtain ⟨o, value⟩ := r
  have hmem : (⟨o, value⟩ : Request) ∈ (groups s fps timeout).filter (·.opt = o) := by simp [hr]
  have hint {n : Int} (hn : n ∈ integers s) := @reads_and_as Int Decimal.int? o (numeral n) n int?_dashes (hints n hn)
  rw [filter_groups] at hmem
  cases o with
  | help | version => cases hmem
  | pipes | turnChance | limit =>
    cases List.mem_singleton.1 hmem
    exact ⟨(hint (by simp [integers])).1, rfl⟩
  | fps =>
    cases List.mem_singleton.1 hmem
    exact ⟨(reads_and_as float?_dashes hfps).1, rfl⟩
  | palette =>
    cases List.mem_singleton.1 hmem
    have hcolors := ((Settings.valid_iff s).1 hvalid).2.2.2.2.2.1
    exact ⟨(reads_and_as paletteNamed?_dashes (paletteNamed?_name hcolors)).1, rfl⟩
  | timeout =>
    obtain ⟨text, htext, heq⟩ := List.mem_map.1 hmem
    cases heq
    obtain rfl := Option.mem_toList.1 htext
    obtain ⟨t, -, ht⟩ := Option.map_eq_some_iff.1 htimeout.symm
    exact ⟨(reads_and_as float?_dashes ht.symm).1, rfl⟩
  | kind =>
    obtain ⟨n, hn, heq⟩ := List.mem_map.1 hmem
    cases heq
    exact ⟨(hint (by simp [integers, hn])).1, rfl⟩
  | custom =>
    obtain ⟨text, -, heq⟩ := List.mem_map.1 hmem
    cases heq
    exact ⟨trivial, rfl⟩
  | seed =>
    obtain ⟨n, hn, heq⟩ := List.mem_map.1 hmem
    cases heq
    exact ⟨(hint (by simp [integers, Option.mem_toList.1 hn])).1, rfl⟩
  | bounce | randomStart | keepStyle | noBold | noColor =>
    dsimp only [flagged] at hmem
    split at hmem
    · cases List.mem_singleton.1 hmem
      exact ⟨trivial, rfl⟩
    · cases hmem

theorem filled_groups (hseed : s.seed ≠ .blank) : filled (groups s fps timeout) = .ofSettings s := by
  obtain ⟨-, -, -, -, -, hcolors, -, -, hcustom, hboundary⟩ := (Settings.valid_iff s).1 hvalid
  have hint {o : Opt} {n : Int} (hn : n ∈ integers s) : (⟨o, some (numeral n)⟩ : Request).as Decimal.int? = some n :=
    (reads_and_as int?_dashes (hints n hn)).2
  have hflag {α : Type} (given : Bool) (o : Opt) (usual a : α) :
      (flagged given o).getLast?.elim usual (fun _ => a) = if given then a else usual := by
    cases given <;> rfl
  simp only [filled, lastOf, filter_groups, Form.ofSettings, Form.mk.injEq, hflag]
  refine ⟨?pipes, ?fps, ?turnChance, ?limit, ?timeout, ?palette, ?kinds, ?custom, ?boundary, ?randomStart,
    ?keepStyle, ?bold, ?color, ?seed⟩
  case pipes => exact hint (by simp [integers])
  case fps => exact (reads_and_as float?_dashes hfps).2
  case turnChance => exact hint (by simp [integers])
  case limit => exact hint (by simp [integers])
  case timeout =>
    cases timeout with
    | none =>
      obtain hnone := Option.map_eq_none_iff.1 htimeout.symm
      rw [hnone]
      rfl
    | some text =>
      obtain ⟨t, ht, htext⟩ := Option.map_eq_some_iff.1 htimeout.symm
      rw [ht]
      exact congrArg (Option.map some) (reads_and_as float?_dashes htext.symm).2
  case palette => exact (reads_and_as paletteNamed?_dashes (paletteNamed?_name hcolors)).2
  case kinds =>
    rw [List.map_map]
    exact List.map_congr_left fun n hn => hint (by simp [integers, hn])
  case custom =>
    cases htext : s.custom with
    | none => rfl
    | some text =>
      have hne : text.toList ≠ dashes := by
        intro heq
        have hlength := hcustom text htext
        rw [← String.length_toList, heq] at hlength
        cases hlength
      change some (String.ofList ((⟨.custom, some text.toList⟩ : Request).text?.getD [])) = _
      rw [text?_eq hne, Option.getD_some, String.ofList_toList]
  case boundary =>
    cases hname : s.boundary with
    | unknown name =>
      rw [hname] at hboundary
      cases hboundary
    | wrap => rfl
    | bounce => rfl
  case randomStart => cases s.randomStart <;> rfl
  case keepStyle => cases s.keepStyle <;> rfl
  case bold => cases s.bold <;> rfl
  case color => cases s.color <;> rfl
  case seed =>
    cases hnumber : s.seed with
    | any => rfl
    | number n =>
      have hn : n ∈ integers s := by simp [integers, hnumber, seedNumber?]
      change ((⟨.seed, some (numeral n)⟩ : Request).as Decimal.int?).elim Seed.blank .number = _
      rw [hint hn]
      rfl
    | blank => exact absurd hnumber hseed

end Groups

theorem spelled_of_writtenAs {rs : List Request} {arguments : List String}
    (hvalues : ∀ r ∈ rs, r.value.isSome = r.opt.takesValue) (h : List.Forall₂ Request.WrittenAs rs arguments) :
    Spelled (arguments.map String.toList) rs := by
  induction h with
  | nil => exact .nil
  | @cons r text rs arguments hwritten _ ih =>
    obtain ⟨hvalue, hrest⟩ := List.forall_mem_cons.1 hvalues
    obtain ⟨o, value⟩ := r
    obtain ⟨name, hbegun, htext⟩ := hwritten
    cases value with
    | none =>
      have hname : Use.SpelledBy ⟨o, false, none⟩ text.toList := by
        rw [htext]
        simpa using Use.SpelledBy.name hbegun
      exact .use hname (.flag (by simpa using hvalue)) (ih hrest)
    | some value =>
      have hname : Use.SpelledBy ⟨o, false, some value⟩ text.toList := htext ▸ .nameEquals hbegun
      exact .use hname (.value (by simpa using hvalue)) (ih hrest)

/-- Valid settings are read back from every rendering, if no integer among them has too many digits to be read. -/
theorem read_rendering {arguments : List String} (hvalid : s.Valid) (hseed : s.seed ≠ .blank)
    (hdigits : ∀ n ∈ integers s, (Decimal.digits n.natAbs).length ≤ Decimal.digitLimit)
    (h : Renders s arguments) : read arguments = .ok s := by
  obtain ⟨fps, timeout, order, hfps, htimeout, hperm, hkinds, hwritten⟩ := h
  have hints : ∀ n ∈ integers s, Decimal.int? (numeral n) = some n := fun n hn => Decimal.int?_toString (hdigits n hn)
  have hgroups : ∀ r ∈ order, r.Converts ∧ r.value.isSome = r.opt.takesValue := fun r hr =>
    converts_groups hvalid hints hfps htimeout (hperm.subset hr)
  have hspelled := spelled_of_writtenAs (fun r hr => (hgroups r hr).2) hwritten
  have hfilled : filled order = .ofSettings s :=
    (filled_congr (filter_eq_of_perm hperm hkinds)).trans (filled_groups hvalid hints hfps htimeout hseed)
  have hsome : s.kinds ≠ [] := ((Settings.valid_iff s).1 hvalid).2.2.2.2.2.2.1
  have hstop : (Form.ofSettings s).stop? = none := by
    rw [Form.stop?_ofSettings hsome, show s.defect? = none from hvalid]
    rfl
  calc read arguments = (filled order).finish := hspelled.read_eq fun r hr => (hgroups r hr).1
    _ = (Form.ofSettings s).finish := by rw [hfilled]
    _ = .ok (Form.ofSettings s).settings := finish_of_stop?_eq_none hstop
    _ = .ok s := by rw [Form.settings_ofSettings hsome]

/-- Names are cut short, and the pipes stand between the kinds. -/
theorem read_rendering_shortened :
    read ["--ki=1", "--no-b", "--pi=3", "--fps=75", "--kind=0", "--turn=13", "--se=-5", "--l=2000", "--pal=classic"] =
      .ok { pipes := 3, kinds := [1, 0], bold := false, seed := .number (-5) } := by
  refine read_rendering (by decide +kernel) (by decide) (by decide) ⟨"75".toList, none,
    [⟨.kind, some ['1']⟩, ⟨.noBold, none⟩, ⟨.pipes, some ['3']⟩, ⟨.fps, some ['7', '5']⟩, ⟨.kind, some ['0']⟩,
      ⟨.turnChance, some ['1', '3']⟩, ⟨.seed, some ['-', '5']⟩, ⟨.limit, some ['2', '0', '0', '0']⟩,
      ⟨.palette, some "classic".toList⟩], rfl, rfl, by decide, by decide, ?_⟩
  refine .cons ⟨"--ki".toList, by decide, rfl⟩ <| .cons ⟨"--no-b".toList, by decide, rfl⟩ <|
    .cons ⟨"--pi".toList, by decide, rfl⟩ <| .cons ⟨"--fps".toList, by decide, rfl⟩ <|
    .cons ⟨"--kind".toList, by decide, rfl⟩ <| .cons ⟨"--turn".toList, by decide, rfl⟩ <|
    .cons ⟨"--se".toList, by decide, rfl⟩ <| .cons ⟨"--l".toList, by decide, rfl⟩ <|
    .cons ⟨"--pal".toList, by decide, rfl⟩ .nil

end Pipework.CommandLine
