import Mathlib.Data.List.Basic
import Pipework.CommandLine.Reader

/-!
# The form that requests denote

Requests are carried out one after another, yet what they come to can be read off them at once: kinds are collected
in their order, and of the requests for any other option the last counts (`filled`). So the order in which different
options are given does not matter. Carrying out requests fills in this form exactly if the value of each of them can
be read (`carryOutAll_eq_ok_iff`).
-/

namespace Pipework.CommandLine

/-! ## What requests denote -/

/-- The value of a request as it is read, none if it is left blank. -/
def Request.as {α : Type} (r : Request) (read : List Char → Option α) : Option α := r.text?.bind read

/-- Whether the value of a request is left blank or can be read. -/
def Request.reads {α : Type} (r : Request) (read : List Char → Option α) : Bool :=
  r.text?.all fun text => (read text).isSome

/-- Whether a request can be carried out. Help and version end the reading. -/
def Request.Converts (r : Request) : Prop :=
  match r.opt with
  | .help | .version => False
  | .pipes | .turnChance | .limit | .kind | .seed => r.reads Decimal.int?
  | .fps | .timeout => r.reads Decimal.float?
  | .palette => r.reads paletteNamed?
  | .custom | .bounce | .randomStart | .keepStyle | .noBold | .noColor => True

/-- An option that ends the reading, and the stop that it leads to. -/
def Opt.Ends (o : Opt) (stop : Stop) : Prop := o = .help ∧ stop = .help ∨ o = .version ∧ stop = .version

/-- The last of the requests for an option. -/
def lastOf (o : Opt) (rs : List Request) : Option Request := (rs.filter (·.opt = o)).getLast?

/-- The form that requests fill in, with the defaults for options that none of them is for. -/
def filled (rs : List Request) : Form :=
  let usual := Draft.initial.form
  { pipes := (lastOf .pipes rs).elim usual.pipes (·.as Decimal.int?)
    fps := (lastOf .fps rs).elim usual.fps (·.as Decimal.float?)
    turnChance := (lastOf .turnChance rs).elim usual.turnChance (·.as Decimal.int?)
    limit := (lastOf .limit rs).elim usual.limit (·.as Decimal.int?)
    timeout := (lastOf .timeout rs).elim usual.timeout fun r => (r.as Decimal.float?).map some
    palette := (lastOf .palette rs).elim usual.palette (·.as paletteNamed?)
    kinds := (rs.filter (·.opt = .kind)).map (·.as Decimal.int?)
    custom := (lastOf .custom rs).elim usual.custom fun r => some (String.ofList (r.text?.getD []))
    boundary := (lastOf .bounce rs).elim usual.boundary fun _ => .bounce
    randomStart := (lastOf .randomStart rs).elim usual.randomStart fun _ => true
    keepStyle := (lastOf .keepStyle rs).elim usual.keepStyle fun _ => true
    bold := (lastOf .noBold rs).elim usual.bold fun _ => false
    color := (lastOf .noColor rs).elim usual.color fun _ => false
    seed := (lastOf .seed rs).elim usual.seed fun r => (r.as Decimal.int?).elim .blank .number }

theorem lastOf_append_singleton (o : Opt) (rs : List Request) (r : Request) :
    lastOf o (rs ++ [r]) = if r.opt = o then some r else lastOf o rs := by
  by_cases h : r.opt = o <;> simp [lastOf, h]

/-- Only the order of the requests for one option among each other matters. -/
theorem filled_congr {rs rs' : List Request} (h : ∀ o : Opt, rs.filter (·.opt = o) = rs'.filter (·.opt = o)) :
    filled rs = filled rs' := by
  simp only [filled, lastOf, h]

/-! ## Carrying out one request -/

theorem map_converted_eq_ok_iff {α β : Type} {read : List Char → Option α} {complaint : List Char → Misuse}
    {r : Request} {f : Option α → β} {b : β} :
    (converted read complaint r.text?).map f = .ok b ↔ r.reads read ∧ b = f (r.as read) := by
  unfold Request.reads Request.as
  rw [@eq_comm _ b]
  cases r.text? with
  | none => simp [converted, Except.map]
  | some text => cases hread : read text <;> simp [converted, hread, Except.map]

theorem converted_eq_error {α : Type} {read : List Char → Option α} {complaint : List Char → Misuse}
    {text : Option (List Char)} {stop : Stop} (h : converted read complaint text = .error stop) :
    ∃ m, stop = .misuse m := by
  unfold converted at h
  split at h
  · cases h
  · split at h
    · cases h
    · cases h
      exact ⟨_, rfl⟩

theorem bind_eq_ok_iff {ε α β : Type} {x : Except ε α} {f : α → Except ε β} {b : β} :
    x >>= f = .ok b ↔ ∃ a, x = .ok a ∧ f a = .ok b := by
  cases x <;> simp [bind, Except.bind]

theorem bind_eq_error_iff {ε α β : Type} {x : Except ε α} {f : α → Except ε β} {e : ε} :
    x >>= f = .error e ↔ x = .error e ∨ ∃ a, x = .ok a ∧ f a = .error e := by
  cases x <;> simp [bind, Except.bind]

theorem map_eq_error_iff {ε α β : Type} {x : Except ε α} {f : α → β} {e : ε} :
    x.map f = .error e ↔ x = .error e := by
  cases x <;> simp [Except.map]

theorem filled_append_singleton (rs : List Request) (r : Request) :
    filled (rs ++ [r]) = match r.opt with
      | .help | .version => filled rs
      | .pipes => { filled rs with pipes := r.as Decimal.int? }
      | .fps => { filled rs with fps := r.as Decimal.float? }
      | .turnChance => { filled rs with turnChance := r.as Decimal.int? }
      | .limit => { filled rs with limit := r.as Decimal.int? }
      | .timeout => { filled rs with timeout := (r.as Decimal.float?).map some }
      | .palette => { filled rs with palette := r.as paletteNamed? }
      | .kind => { filled rs with kinds := (filled rs).kinds ++ [r.as Decimal.int?] }
      | .custom => { filled rs with custom := some (String.ofList (r.text?.getD [])) }
      | .bounce => { filled rs with boundary := .bounce }
      | .randomStart => { filled rs with randomStart := true }
      | .keepStyle => { filled rs with keepStyle := true }
      | .noBold => { filled rs with bold := false }
      | .noColor => { filled rs with color := false }
      | .seed => { filled rs with seed := (r.as Decimal.int?).elim .blank .number } := by
  obtain ⟨o, value⟩ := r
  cases o <;> simp [filled, lastOf_append_singleton]

theorem carryOut_filled_eq_ok_iff {rs : List Request} {r : Request} {f : Form} :
    carryOut (filled rs) r = .ok f ↔ r.Converts ∧ f = filled (rs ++ [r]) := by
  rw [filled_append_singleton]
  obtain ⟨o, value⟩ := r
  cases o with
  | help | version => simp [carryOut, Request.Converts]
  | pipes | turnChance | limit | kind | seed | fps | timeout | palette => exact map_converted_eq_ok_iff
  | custom | bounce | randomStart | keepStyle | noBold | noColor =>
    simp only [carryOut, Request.Converts, Except.ok.injEq, true_and]
    exact eq_comm

theorem carryOut_eq_error {f : Form} {r : Request} {stop : Stop} (h : carryOut f r = .error stop) :
    r.opt.Ends stop ∨ ∃ m, stop = .misuse m := by
  obtain ⟨o, value⟩ := r
  cases o with
  | help =>
    cases h
    exact .inl (.inl ⟨rfl, rfl⟩)
  | version =>
    cases h
    exact .inl (.inr ⟨rfl, rfl⟩)
  | pipes | turnChance | limit | kind | seed | fps | timeout | palette =>
    exact .inr (converted_eq_error (map_eq_error_iff.1 h))
  | custom | bounce | randomStart | keepStyle | noBold | noColor => cases h

/-! ## Carrying out requests in turn -/

theorem carryOutAll_append (f : Form) (rs rs' : List Request) :
    carryOutAll f (rs ++ rs') = carryOutAll f rs >>= fun f' => carryOutAll f' rs' := by
  rw [carryOutAll, List.foldlM_append]
  rfl

theorem carryOutAll_filled_eq_ok_iff {done rs : List Request} {f : Form} :
    carryOutAll (filled done) rs = .ok f ↔ (∀ r ∈ rs, r.Converts) ∧ f = filled (done ++ rs) := by
  induction rs generalizing done with
  | nil => simp [carryOutAll, pure, Except.pure, eq_comm]
  | cons r rs ih =>
    have hrest := @ih (done ++ [r])
    rw [List.append_assoc, List.singleton_append] at hrest
    rw [carryOutAll, List.foldlM_cons, bind_eq_ok_iff, List.forall_mem_cons, and_assoc, ← hrest]
    constructor
    · rintro ⟨f', hr, hrs⟩
      obtain ⟨hc, rfl⟩ := carryOut_filled_eq_ok_iff.1 hr
      exact ⟨hc, hrs⟩
    · rintro ⟨hc, hrs⟩
      exact ⟨_, carryOut_filled_eq_ok_iff.2 ⟨hc, rfl⟩, hrs⟩

/-- Requests are carried out, and fill in the form that they denote, if the value of each can be read. -/
theorem carryOutAll_eq_ok_iff {rs : List Request} {f : Form} :
    carryOutAll Draft.initial.form rs = .ok f ↔ (∀ r ∈ rs, r.Converts) ∧ f = filled rs :=
  @carryOutAll_filled_eq_ok_iff [] rs f

theorem carryOutAll_eq_error {f : Form} {rs : List Request} {stop : Stop} (h : carryOutAll f rs = .error stop) :
    (∃ r ∈ rs, r.opt.Ends stop) ∨ ∃ m, stop = .misuse m := by
  induction rs generalizing f with
  | nil => cases h
  | cons r rs ih =>
    rw [carryOutAll, List.foldlM_cons] at h
    rcases bind_eq_error_iff.1 h with hr | ⟨f', -, hrs⟩
    · exact (carryOut_eq_error hr).imp_left fun hends => ⟨r, by simp, hends⟩
    · exact (ih hrs).imp_left fun ⟨r', hmem, hends⟩ => ⟨r', by simp [hmem], hends⟩

/-! ## Checking a form -/

namespace Form

/-- No field that has to keep a rule is left blank. -/
structure Full (f : Form) : Prop where
  pipes : f.pipes.isSome
  fps : f.fps.isSome
  turnChance : f.turnChance.isSome
  limit : f.limit.isSome
  timeout : f.timeout.isSome
  palette : f.palette.isSome
  kinds : ∀ n ∈ f.kinds, n.isSome

theorem Full.eq_ofSettings {f : Form} (h : f.Full) (hkinds : f.kinds ≠ []) : f = ofSettings f.settings := by
  obtain ⟨pipes, fps, turnChance, limit, timeout, palette, kinds, _, _, _, _, _, _, _⟩ := f
  obtain ⟨hpipes, hfps, hturn, hlimit, htimeout, hpalette, hsome⟩ := h
  obtain ⟨_, rfl⟩ := Option.isSome_iff_exists.1 hpipes
  obtain ⟨_, rfl⟩ := Option.isSome_iff_exists.1 hfps
  obtain ⟨_, rfl⟩ := Option.isSome_iff_exists.1 hturn
  obtain ⟨_, rfl⟩ := Option.isSome_iff_exists.1 hlimit
  obtain ⟨_, rfl⟩ := Option.isSome_iff_exists.1 htimeout
  obtain ⟨_, rfl⟩ := Option.isSome_iff_exists.1 hpalette
  have hmap (l : List (Option Int)) (hl : ∀ n ∈ l, n.isSome) : (l.filterMap id).map some = l := by
    induction l with
    | nil => rfl
    | cons n l ih =>
      obtain ⟨_, rfl⟩ := Option.isSome_iff_exists.1 (hl n (by simp))
      simpa using ih fun n hn => hl n (by simp [hn])
  have hempty : kinds.isEmpty = false := by simpa using hkinds
  simp only [ofSettings, settings, hempty, Option.getD_some, Bool.false_eq_true, if_false, hmap kinds hsome]

theorem Full.stop?_eq {f : Form} (h : f.Full) :
    f.stop? = f.settings.defect?.map fun defect => .misuse (.invalid defect) := by
  by_cases hkinds : f.kinds = []
  · -- the kinds that stand in for none keep their rule
    have hfull : { f with kinds := [some 0] }.Full := { h with kinds := by simp }
    have hstop : f.stop? = { f with kinds := [some 0] }.stop? := by
      simp only [stop?, hkinds]
      rfl
    have hsettings : f.settings = { f with kinds := [some 0] }.settings := by
      simp only [settings, hkinds]
      rfl
    rw [hstop, hsettings]
    conv_lhs => rw [hfull.eq_ofSettings (by simp)]
    exact stop?_ofSettings (by simp [settings])
  · have hsettings : f.settings.kinds ≠ [] := by
      intro hnil
      refine hkinds ?_
      rw [h.eq_ofSettings hkinds, ofSettings, hnil]
      rfl
    conv_lhs => rw [h.eq_ofSettings hkinds]
    exact stop?_ofSettings hsettings

theorem check_isSome_of_eq_none {α : Type} {field : Settings.Field} {rule : α → Option Settings.Defect}
    {a : Option α} (h : check field rule a = none) : a.isSome := by
  cases a with
  | none => cases h
  | some a => rfl

theorem full_of_stop?_eq_none {f : Form} (h : f.stop? = none) : f.Full := by
  simp only [stop?, Option.or_eq_none_iff, List.findSome?_eq_none_iff] at h
  obtain ⟨⟨⟨⟨⟨⟨⟨⟨hpipes, hfps⟩, hturn⟩, hlimit⟩, htimeout⟩, hpalette⟩, hkinds⟩, -⟩, -⟩ := h
  exact ⟨check_isSome_of_eq_none hpipes, check_isSome_of_eq_none hfps, check_isSome_of_eq_none hturn,
    check_isSome_of_eq_none hlimit, check_isSome_of_eq_none htimeout, check_isSome_of_eq_none hpalette,
    fun n hn => check_isSome_of_eq_none (hkinds n hn)⟩

theorem valid_of_stop?_eq_none {f : Form} (h : f.stop? = none) : f.settings.Valid := by
  rw [(full_of_stop?_eq_none h).stop?_eq] at h
  exact Option.map_eq_none_iff.1 h

theorem check_eq_some {α : Type} {field : Settings.Field} {rule : α → Option Settings.Defect} {a : Option α}
    {stop : Stop} (h : check field rule a = some stop) :
    (∃ defect, stop = .misuse (.invalid defect)) ∨ stop = .blank field := by
  cases a with
  | none => exact .inr (Option.some.inj h).symm
  | some a =>
    obtain ⟨defect, -, rfl⟩ := Option.map_eq_some_iff.1 h
    exact .inl ⟨defect, rfl⟩

theorem stop?_eq_some {f : Form} {stop : Stop} (h : f.stop? = some stop) :
    (∃ defect, stop = .misuse (.invalid defect)) ∨ ∃ field, stop = .blank field := by
  have hrule {o : Option Settings.Defect} (ho : (o.map fun defect => Stop.misuse (.invalid defect)) = some stop) :
      ∃ defect, stop = .misuse (.invalid defect) := by
    obtain ⟨defect, -, rfl⟩ := Option.map_eq_some_iff.1 ho
    exact ⟨defect, rfl⟩
  have hcheck {α : Type} {field : Settings.Field} {rule : α → Option Settings.Defect} {a : Option α}
      (ha : check field rule a = some stop) :
      (∃ defect, stop = .misuse (.invalid defect)) ∨ ∃ field, stop = .blank field :=
    (check_eq_some ha).imp id fun heq => ⟨field, heq⟩
  simp only [stop?, Option.or_eq_some_iff] at h
  rcases h with (((((((h | ⟨-, h⟩) | ⟨-, h⟩) | ⟨-, h⟩) | ⟨-, h⟩) | ⟨-, h⟩) | ⟨-, h⟩) | ⟨-, h⟩) | ⟨-, h⟩
  · exact hcheck h
  · exact hcheck h
  · exact hcheck h
  · exact hcheck h
  · exact hcheck h
  · exact hcheck h
  · obtain ⟨n, -, hn⟩ := List.exists_of_findSome?_eq_some h
    exact hcheck hn
  · exact .inl (hrule h)
  · exact .inl (hrule h)

end Form

/-! ## Values that are given -/

theorem lastOf_eq_some {o : Opt} {rs : List Request} {r : Request} (h : lastOf o rs = some r) :
    r ∈ rs ∧ r.opt = o := by
  simpa using List.mem_of_getLast? h

theorem as_isSome {α : Type} {read : List Char → Option α} {r : Request} (hreads : r.reads read)
    (htext : r.text?.isSome) : (r.as read).isSome := by
  obtain ⟨text, ht⟩ := Option.isSome_iff_exists.1 htext
  rw [Request.reads, ht] at hreads
  rw [Request.as, ht]
  exact hreads

theorem full_filled {rs : List Request} (hconverts : ∀ r ∈ rs, r.Converts)
    (hgiven : ∀ r ∈ rs, r.opt.takesValue → r.text?.isSome) : (filled rs).Full := by
  have hlast {α : Type} {o : Opt} {usual : Option α} {fill : Request → Option α} (husual : usual.isSome)
      (hfill : ∀ r ∈ rs, r.opt = o → (fill r).isSome) : ((lastOf o rs).elim usual fill).isSome := by
    cases hlast : lastOf o rs with
    | none => exact husual
    | some r =>
      obtain ⟨hmem, ho⟩ := lastOf_eq_some hlast
      exact hfill r hmem ho
  have hread {α : Type} {read : List Char → Option α} {o : Opt} (ho : o.takesValue)
      (hreads : ∀ value, (⟨o, value⟩ : Request).Converts → (⟨o, value⟩ : Request).reads read) :
      ∀ r ∈ rs, r.opt = o → (r.as read).isSome := by
    rintro ⟨_, value⟩ hmem rfl
    exact as_isSome (hreads value (hconverts _ hmem)) (hgiven _ hmem ho)
  constructor
  · exact hlast rfl (hread rfl fun _ => id)
  · exact hlast rfl (hread rfl fun _ => id)
  · exact hlast rfl (hread rfl fun _ => id)
  · exact hlast rfl (hread rfl fun _ => id)
  · refine hlast rfl fun r hmem ho => ?_
    rw [Option.isSome_map]
    exact hread rfl (fun _ => id) r hmem ho
  · exact hlast rfl (hread rfl fun _ => id)
  · intro n hn
    obtain ⟨r, hr, rfl⟩ := List.mem_map.1 hn
    rw [List.mem_filter, decide_eq_true_eq] at hr
    exact hread rfl (fun _ => id) r hr.1 hr.2

end Pipework.CommandLine
