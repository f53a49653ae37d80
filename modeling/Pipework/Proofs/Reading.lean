import Pipework.CommandLine.Usage
import Pipework.Proofs.Filling
import Pipework.Proofs.Spelling

/-!
# What reading a command line comes to

A command line that consists of uses of options and their values alone asks for requests (`Spelled`), and is read by
carrying these out. Anything else in it leads to a complaint. So reading ends with valid settings, with the help or
the version if an argument asks for it, or with a complaint, and a form that is checked describes what the requests
denote.

One gap remains. A value of two dashes leaves its field blank, and a blank is no value that the rules for settings
can look at: where the check comes upon one, the reading fails without an exit.
-/

namespace Pipework.CommandLine

/-! ## Command lines of options and their values -/

/-- The command lines of uses of options and their values alone, with the requests that they ask for in turn. -/
inductive Spelled : List (List Char) → List Request → Prop where
  | nil : Spelled [] []
  | use {u : Use} {text : List Char} {texts : List (List Char)} {rs rs' : List Request} (hu : u.SpelledBy text)
      (hrs : u.AsksFor rs none) (rest : Spelled texts rs') : Spelled (text :: texts) (rs ++ rs')
  | useThen {u : Use} {o : Opt} {text value : List Char} {texts : List (List Char)} {rs rs' : List Request}
      (hu : u.SpelledBy text) (hrs : u.AsksFor rs (some o)) (hvalue : Word.ofText value = .ok (.plain value))
      (rest : Spelled texts rs') : Spelled (text :: value :: texts) (rs ++ ⟨o, some value⟩ :: rs')

/-- An argument that asks for an option, alone or in a group of letters. -/
def Opt.UsedBy (o : Opt) (text : List Char) : Prop :=
  ∃ (u : Use) (rs : List Request) (next : Option Opt), u.SpelledBy text ∧ u.AsksFor rs next ∧ ∃ r ∈ rs, r.opt = o

/-- A use that asks for an option that ends the reading, alone or in a group of letters. -/
def Use.Ends (u : Use) (stop : Stop) : Prop := ∃ rs next, u.AsksFor rs next ∧ ∃ r ∈ rs, r.opt.Ends stop

theorem Use.AsksFor.takesValue {u : Use} {rs : List Request} {o : Opt} (h : u.AsksFor rs (some o)) :
    o.takesValue := by
  generalize hnext : some o = next at h
  induction h with
  | flag => cases hnext
  | awaiting ho =>
    cases hnext
    exact ho
  | value => cases hnext
  | letter _ _ _ ih => exact ih hnext
  | letters _ _ _ ih => exact ih hnext

theorem Use.AsksFor.value_isSome {u : Use} {rs : List Request} {next : Option Opt} (h : u.AsksFor rs next) :
    ∀ r ∈ rs, r.opt.takesValue → r.value.isSome := by
  induction h with
  | flag ho => simp [ho]
  | awaiting => simp
  | value => simp
  | letter ho _ _ ih => simpa [ho] using ih
  | letters ho _ _ ih => simpa [ho] using ih

theorem Spelled.value_isSome {texts : List (List Char)} {rs : List Request} (h : Spelled texts rs) :
    ∀ r ∈ rs, r.opt.takesValue → r.value.isSome := by
  induction h with
  | nil => simp
  | use _ hrs _ ih => exact fun r hr => (List.mem_append.1 hr).elim (hrs.value_isSome r) (ih r)
  | useThen _ hrs _ _ ih =>
    intro r hr ho
    rcases List.mem_append.1 hr with hr | hr
    · exact hrs.value_isSome r hr ho
    · rcases List.mem_cons.1 hr with rfl | hr
      · rfl
      · exact ih r hr ho

/-! ## Words -/

theorem ofText_dashes : ∃ m, Word.ofText dashes = .error m := ⟨_, rfl⟩

theorem ne_dashes_of_ofText {text : List Char} {w : Word} (h : Word.ofText text = .ok w) : text ≠ dashes := by
  rintro rfl
  obtain ⟨m, hm⟩ := ofText_dashes
  rw [hm] at h
  cases h

theorem words_cons {text : List Char} {texts : List (List Char)} {w : Word} {ws : List Word}
    (hw : Word.ofText text = .ok w) (hws : words texts = .ok ws) : words (text :: texts) = .ok (w :: ws) := by
  rw [words, if_neg (ne_dashes_of_ofText hw), hw, hws]
  rfl

theorem words_cons_eq_ok {text : List Char} {texts : List (List Char)} {ws : List Word}
    (h : words (text :: texts) = .ok ws) :
    (∃ rest : List (List Char), ws = .dashes :: rest.map .plain) ∨
      ∃ w ws', Word.ofText text = .ok w ∧ words texts = .ok ws' ∧ ws = w :: ws' := by
  rw [words] at h
  split at h
  · cases h
    exact .inl ⟨texts, rfl⟩
  · right
    cases hw : Word.ofText text with
    | error m =>
      rw [hw] at h
      cases h
    | ok w =>
      cases hws : words texts with
      | error m =>
        rw [hw, hws] at h
        cases h
      | ok ws' =>
        rw [hw, hws] at h
        cases h
        exact ⟨w, ws', rfl, rfl, rfl⟩

theorem eq_of_ofText_eq_plain {text text' : List Char} (h : Word.ofText text = .ok (.plain text')) :
    text' = text := by
  unfold Word.ofText at h
  split at h
  · cases h
    rfl
  · split at h
    · cases h
    · split at h
      · cases h
      · split at h
        · cases h
          rfl
        · cases h
      · cases h

theorem exists_spelledBy {texts : List (List Char)} {ws : List Word} {u : Use} (h : words texts = .ok ws)
    (hu : .use u ∈ ws) : ∃ text ∈ texts, u.SpelledBy text := by
  induction texts generalizing ws with
  | nil =>
    cases h
    cases hu
  | cons text texts ih =>
    rcases words_cons_eq_ok h with ⟨rest, rfl⟩ | ⟨w, ws', hw, hws', rfl⟩
    · simp at hu
    · rcases List.mem_cons.1 hu with rfl | hu
      · exact ⟨text, by simp, ofText_eq_use_iff.1 hw⟩
      · obtain ⟨text', hmem, hspelled⟩ := ih hws' hu
        exact ⟨text', by simp [hmem], hspelled⟩

/-! ## Reading words -/

section Words

variable {u : Use} {rs : List Request} {o : Opt} {text : List Char} {d d' : Draft} {ws : List Word}

theorem readWords_use (h : u.requests = .ok (rs, none)) (ws : List Word) (d : Draft) :
    readWords (.use u :: ws) d = carryOutAll d.form rs >>= fun form => readWords ws { d with form } := by
  rw [readWords, h]

theorem readWords_useThen (h : u.requests = .ok (rs, some o)) (text : List Char) (ws : List Word) (d : Draft) :
    readWords (.use u :: .plain text :: ws) d =
      carryOutAll d.form (rs ++ [⟨o, some text⟩]) >>= fun form => readWords ws { d with form } := by
  rw [readWords, h]

theorem leftover_prefix (h : readWords ws d = .ok d') : d.leftover <+: d'.leftover := by
  fun_induction readWords ws d with
  | case1 d =>
    cases h
    exact List.prefix_rfl
  | case2 => cases h
  | case3 u ws d rs hrs ih =>
    obtain ⟨form, -, hrest⟩ := bind_eq_ok_iff.1 h
    exact ih form hrest
  | case4 u d rs o hrs text ws ih =>
    obtain ⟨form, -, hrest⟩ := bind_eq_ok_iff.1 h
    exact ih form hrest
  | case5 => cases h
  | case6 text ws d ih => exact (List.prefix_append _ _).trans (ih h)
  | case7 text ws d ih => exact (List.prefix_append _ _).trans (ih h)
  | case8 ws d ih => exact (List.prefix_append _ _).trans (ih h)

theorem readWords_setAside_ne_nil (h : readWords ws (d.setAside text) = .ok d') : d'.leftover ≠ [] := by
  intro hnil
  have hprefix := leftover_prefix h
  rw [hnil, List.prefix_nil, Draft.setAside] at hprefix
  simp at hprefix

/-- Reading ends early with a complaint, or because help or the version is asked for. -/
theorem readWords_eq_error {stop : Stop} (h : readWords ws d = .error stop) :
    (∃ u, .use u ∈ ws ∧ u.Ends stop) ∨ ∃ m, stop = .misuse m := by
  have hlater {w : Word} {ws : List Word} : (∃ u, .use u ∈ ws ∧ u.Ends stop) → ∃ u, .use u ∈ w :: ws ∧ u.Ends stop :=
    fun ⟨u, hmem, hends⟩ => ⟨u, List.mem_cons_of_mem w hmem, hends⟩
  fun_induction readWords ws d with
  | case1 d => cases h
  | case2 u ws d m hm =>
    cases h
    exact .inr ⟨m, rfl⟩
  | case3 u ws d rs hrs ih =>
    rcases bind_eq_error_iff.1 h with hform | ⟨form, -, hrest⟩
    · exact (carryOutAll_eq_error hform).imp_left fun hends =>
        ⟨u, by simp, rs, none, requests_eq_ok_iff.1 hrs, hends⟩
    · exact (ih form hrest).imp_left hlater
  | case4 u d rs o hrs text ws ih =>
    rcases bind_eq_error_iff.1 h with hform | ⟨form, -, hrest⟩
    · have hasks := requests_eq_ok_iff.1 hrs
      refine (carryOutAll_eq_error hform).imp_left fun ⟨r, hr, hends⟩ => ⟨u, by simp, rs, some o, hasks, ?_⟩
      rcases List.mem_append.1 hr with hr | hr
      · exact ⟨r, hr, hends⟩
      · -- the option that has waited for its value is neither help nor version
        obtain rfl := List.mem_singleton.1 hr
        have ho := hasks.takesValue
        rcases hends with ⟨rfl, -⟩ | ⟨rfl, -⟩ <;> cases ho
    · exact (ih form hrest).imp_left (hlater ∘ hlater)
  | case5 u d rs o ws hrs hws =>
    cases h
    exact .inr ⟨_, rfl⟩
  | case6 text ws d ih => exact (ih h).imp_left hlater
  | case7 text ws d ih => exact (ih h).imp_left hlater
  | case8 ws d ih => exact (ih h).imp_left hlater

end Words

theorem Spelled.readWords_eq {texts : List (List Char)} {rs : List Request} (h : Spelled texts rs) :
    ∃ ws, words texts = .ok ws ∧
      ∀ d, readWords ws d = (carryOutAll d.form rs).map fun form => { d with form } := by
  have hbind {form : Form} {rs rs' : List Request} {ws : List Word} {d : Draft}
      (hread : ∀ d, readWords ws d = (carryOutAll d.form rs').map fun form => { d with form }) :
      (carryOutAll form rs >>= fun form => readWords ws { d with form }) =
        (carryOutAll form (rs ++ rs')).map fun form => { d with form } := by
    rw [carryOutAll_append]
    cases carryOutAll form rs with
    | error stop => rfl
    | ok form => exact hread { d with form }
  induction h with
  | nil => exact ⟨[], rfl, fun d => rfl⟩
  | use hu hrs _ ih =>
    obtain ⟨ws, hws, hread⟩ := ih
    refine ⟨_, words_cons (ofText_eq_use_iff.2 hu) hws, fun d => ?_⟩
    rw [readWords_use (requests_eq_ok_iff.2 hrs), hbind hread]
  | useThen hu hrs hvalue _ ih =>
    obtain ⟨ws, hws, hread⟩ := ih
    refine ⟨_, words_cons (ofText_eq_use_iff.2 hu) (words_cons hvalue hws), fun d => ?_⟩
    rw [readWords_useThen (requests_eq_ok_iff.2 hrs), hbind hread, List.append_assoc, List.singleton_append]

/-- What is read without setting anything aside consists of options and their values. -/
theorem spelled_of_readWords {texts : List (List Char)} {ws : List Word} {d d' : Draft} (hws : words texts = .ok ws)
    (h : readWords ws d = .ok d') (hleft : d'.leftover = []) :
    ∃ rs, Spelled texts rs ∧ carryOutAll d.form rs = .ok d'.form := by
  fun_induction readWords ws d generalizing texts with
  | case1 d =>
    cases h
    cases texts with
    | nil => exact ⟨[], .nil, rfl⟩
    | cons text texts => rcases words_cons_eq_ok hws with ⟨rest, hrest⟩ | ⟨w, ws', -, -, hrest⟩ <;> cases hrest
  | case2 => cases h
  | case3 u ws d rs hrs ih =>
    cases texts with
    | nil => cases hws
    | cons text texts =>
      rcases words_cons_eq_ok hws with ⟨rest, hrest⟩ | ⟨w, ws', hw, hws', hrest⟩
      · cases hrest
      · cases hrest
        obtain ⟨form, hform, hread⟩ := bind_eq_ok_iff.1 h
        obtain ⟨rs', hspelled, hcarry⟩ := ih form hws' hread
        refine ⟨rs ++ rs', .use (ofText_eq_use_iff.1 hw) (requests_eq_ok_iff.1 hrs) hspelled, ?_⟩
        rw [carryOutAll_append, hform]
        exact hcarry
  | case4 u d rs o hrs value ws ih =>
    cases texts with
    | nil => cases hws
    | cons text texts =>
      rcases words_cons_eq_ok hws with ⟨rest, hrest⟩ | ⟨w, ws', hw, hws', hrest⟩
      · cases hrest
      · cases hrest
        cases texts with
        | nil => cases hws'
        | cons value' texts =>
          rcases words_cons_eq_ok hws' with ⟨rest, hrest⟩ | ⟨w, ws'', hvalue, hws'', hrest⟩
          · cases hrest
          · cases hrest
            obtain rfl := eq_of_ofText_eq_plain hvalue
            obtain ⟨form, hform, hread⟩ := bind_eq_ok_iff.1 h
            obtain ⟨rs', hspelled, hcarry⟩ := ih form hws'' hread
            refine ⟨_, .useThen (ofText_eq_use_iff.1 hw) (requests_eq_ok_iff.1 hrs) hvalue hspelled, ?_⟩
            rw [← List.singleton_append, ← List.append_assoc, carryOutAll_append, hform]
            exact hcarry
  | case5 => cases h
  | case6 text ws d ih => exact absurd hleft (readWords_setAside_ne_nil h)
  | case7 text ws d ih => exact absurd hleft (readWords_setAside_ne_nil h)
  | case8 ws d ih => exact absurd hleft (readWords_setAside_ne_nil h)

/-! ## Outcomes -/

def complaint (message : String) : Exit :=
  { status := 2, errors := usage ++ ("pipesaver: error: " ++ message ++ "\n") }

def Exits (arguments : List String) (exit : Exit) : Prop :=
  ∃ stop, read arguments = .error stop ∧ stop.exit = .ok exit

/-- The arguments are neither read nor complained about. -/
def Fails (arguments : List String) (fault : Fault) : Prop :=
  ∃ stop, read arguments = .error stop ∧ stop.exit = .error fault

theorem exit_misuse (m : Misuse) : (Stop.misuse m).exit = .ok (complaint m.message) := by
  simp [Stop.exit, complaint, lines, programName, toString]

theorem exit_version : Stop.version.exit = .ok { status := 0, output := "pipesaver 1.3.0\n" } := by
  simp [Stop.exit, lines, programName, programVersion, toString]

variable {arguments : List String}

theorem exits_of_misuse {m : Misuse} (h : read arguments = .error (.misuse m)) :
    Exits arguments (complaint m.message) := ⟨_, h, exit_misuse m⟩

theorem Spelled.read_eq {rs : List Request} (h : Spelled (arguments.map String.toList) rs)
    (hconverts : ∀ r ∈ rs, r.Converts) : read arguments = (filled rs).finish := by
  obtain ⟨ws, hws, hread⟩ := h.readWords_eq
  have hform := carryOutAll_eq_ok_iff.2 ⟨hconverts, rfl⟩
  rw [read, hws]
  dsimp only
  rw [hread, hform]
  rfl

theorem Spelled.full {texts : List (List Char)} {rs : List Request} (h : Spelled texts rs)
    (hconverts : ∀ r ∈ rs, r.Converts) (hdashes : ∀ r ∈ rs, r.value ≠ some dashes) : (filled rs).Full := by
  refine full_filled hconverts fun r hr ho => ?_
  obtain ⟨value, hvalue⟩ := Option.isSome_iff_exists.1 (h.value_isSome r hr ho)
  have hne : value ≠ dashes := fun heq => hdashes r hr (by rw [hvalue, heq])
  simp [Request.text?, hvalue, hne]

theorem finish_of_stop? {f : Form} {stop : Stop} (h : f.stop? = some stop) : f.finish = .error stop := by
  rw [Form.finish, h]

theorem finish_of_stop?_eq_none {f : Form} (h : f.stop? = none) : f.finish = .ok f.settings := by
  rw [Form.finish, h]

theorem Spelled.stop?_eq_blank_iff {rs : List Request} (h : Spelled (arguments.map String.toList) rs)
    (hconverts : ∀ r ∈ rs, r.Converts) (field : Settings.Field) :
    (filled rs).stop? = some (.blank field) ↔ Fails arguments (.blank field) := by
  have hfinish := h.read_eq hconverts
  constructor
  · intro hstop
    exact ⟨_, hfinish.trans (finish_of_stop? hstop), rfl⟩
  · rintro ⟨stop, hread, hexit⟩
    cases hstop : (filled rs).stop? with
    | none =>
      rw [hfinish, finish_of_stop?_eq_none hstop] at hread
      cases hread
    | some stop' =>
      rw [hfinish, finish_of_stop? hstop] at hread
      cases hread
      rcases Form.stop?_eq_some hstop with ⟨defect, rfl⟩ | ⟨field', rfl⟩
      · rw [exit_misuse] at hexit
        cases hexit
      · cases hexit
        rfl

/-- The check of the form that requests denote fails only at a value of two dashes. -/
theorem Spelled.exists_dashes {texts : List (List Char)} {rs : List Request} (h : Spelled texts rs)
    (hconverts : ∀ r ∈ rs, r.Converts) {field : Settings.Field} (hstop : (filled rs).stop? = some (.blank field)) :
    ∃ r ∈ rs, r.value = some dashes := by
  by_contra hnone
  push Not at hnone
  rw [(h.full hconverts hnone).stop?_eq] at hstop
  obtain ⟨defect, -, hblank⟩ := Option.map_eq_some_iff.1 hstop
  cases hblank

theorem read_of_words {ws : List Word} {stop : Stop} (hws : words (arguments.map String.toList) = .ok ws)
    (hread : readWords ws .initial = .error stop) :
    read arguments = .error stop ∧
      ((∃ text ∈ arguments, ∃ o : Opt, o.UsedBy text.toList ∧ o.Ends stop) ∨ ∃ m, stop = .misuse m) := by
  constructor
  · rw [read, hws]
    dsimp only
    rw [hread]
    rfl
  · refine (readWords_eq_error hread).imp_left ?_
    rintro ⟨u, hu, rs, next, hasks, r, hr, hends⟩
    obtain ⟨text, htext, hspelled⟩ := exists_spelledBy hws hu
    obtain ⟨argument, hargument, rfl⟩ := List.mem_map.1 htext
    exact ⟨argument, hargument, r.opt, ⟨u, rs, next, hspelled, hasks, r, hr, rfl⟩, hends⟩

theorem read_of_draft {ws : List Word} {d : Draft} (hws : words (arguments.map String.toList) = .ok ws)
    (hread : readWords ws .initial = .ok d) : read arguments = d.finish := by
  rw [read, hws]
  dsimp only
  rw [hread]
  rfl

/-- A form that is checked describes valid settings, breaks a rule, or has a blank where a rule is to be checked. -/
theorem Spelled.read_form {rs : List Request} (h : Spelled (arguments.map String.toList) rs)
    (hconverts : ∀ r ∈ rs, r.Converts) :
    (∃ s, read arguments = .ok s ∧ s.Valid) ∨ (∃ message, Exits arguments (complaint message)) ∨
      ∃ field, Fails arguments (.blank field) ∧ ∃ r ∈ rs, r.value = some dashes := by
  have hfinish := h.read_eq hconverts
  cases hstop : (filled rs).stop? with
  | none => exact .inl ⟨_, hfinish.trans (finish_of_stop?_eq_none hstop), Form.valid_of_stop?_eq_none hstop⟩
  | some stop =>
    rw [finish_of_stop? hstop] at hfinish
    rcases Form.stop?_eq_some hstop with ⟨defect, rfl⟩ | ⟨field, rfl⟩
    · exact .inr (.inl ⟨_, exits_of_misuse hfinish⟩)
    · exact .inr (.inr ⟨field, ⟨_, hfinish, rfl⟩, h.exists_dashes hconverts hstop⟩)

theorem Spelled.read_settings {rs : List Request} (h : Spelled (arguments.map String.toList) rs)
    (hconverts : ∀ r ∈ rs, r.Converts) (hdashes : ∀ r ∈ rs, r.value ≠ some dashes) :
    match (filled rs).settings.defect? with
    | none => read arguments = .ok (filled rs).settings
    | some defect => Exits arguments (complaint defect.message) := by
  have hfinish := h.read_eq hconverts
  have hstop := (h.full hconverts hdashes).stop?_eq
  cases hdefect : (filled rs).settings.defect? with
  | none =>
    rw [hdefect] at hstop
    exact hfinish.trans (finish_of_stop?_eq_none hstop)
  | some defect =>
    rw [hdefect] at hstop
    exact exits_of_misuse (m := .invalid defect) (hfinish.trans (finish_of_stop? hstop))

/--
Reading ends with valid settings, with the help or the version if an argument asks for it, or with a complaint,
except that it fails where the check of the form comes upon a value of two dashes. Options that are spelled
correctly, and values that can be read, fail at a field just if the check comes upon a blank there. Without values of
two dashes they are complained about only if the settings that they denote break a rule, and then in the words of that
rule.
-/
theorem read_outcome (arguments : List String) :
    ((∃ s, read arguments = .ok s ∧ s.Valid) ∨
      (∃ text ∈ arguments, Opt.help.UsedBy text.toList ∧ Exits arguments { status := 0, output := help }) ∨
      (∃ text ∈ arguments, Opt.version.UsedBy text.toList ∧
        Exits arguments { status := 0, output := "pipesaver 1.3.0\n" }) ∨
      (∃ message, Exits arguments (complaint message)) ∨
      ∃ field rs, Fails arguments (.blank field) ∧ Spelled (arguments.map String.toList) rs ∧
        (∀ r ∈ rs, r.Converts) ∧ ∃ r ∈ rs, r.value = some dashes) ∧
    ∀ rs, Spelled (arguments.map String.toList) rs → (∀ r ∈ rs, r.Converts) →
      (∀ field, (filled rs).stop? = some (.blank field) ↔ Fails arguments (.blank field)) ∧
      ((∀ r ∈ rs, r.value ≠ some dashes) →
        match (filled rs).settings.defect? with
        | none => read arguments = .ok (filled rs).settings
        | some defect => Exits arguments (complaint defect.message)) := by
  constructor
  · cases hws : words (arguments.map String.toList) with
    | error m =>
      have hstop : read arguments = .error (.misuse m) := by rw [read, hws]
      exact .inr (.inr (.inr (.inl ⟨_, exits_of_misuse hstop⟩)))
    | ok ws =>
      cases hread : readWords ws .initial with
      | error stop =>
        obtain ⟨hstop, ⟨text, htext, o, hused, hends⟩ | ⟨m, rfl⟩⟩ := read_of_words hws hread
        · rcases hends with ⟨rfl, rfl⟩ | ⟨rfl, rfl⟩
          · exact .inr (.inl ⟨text, htext, hused, .help, hstop, rfl⟩)
          · exact .inr (.inr (.inl ⟨text, htext, hused, .version, hstop, exit_version⟩))
        · exact .inr (.inr (.inr (.inl ⟨_, exits_of_misuse hstop⟩)))
      | ok d =>
        by_cases hleft : d.leftover = []
        · obtain ⟨rs, hspelled, hcarry⟩ := spelled_of_readWords hws hread hleft
          obtain ⟨hconverts, -⟩ := carryOutAll_eq_ok_iff.1 hcarry
          rcases hspelled.read_form hconverts with hvalid | hcomplaint | ⟨field, hfails, hdashes⟩
          · exact .inl hvalid
          · exact .inr (.inr (.inr (.inl hcomplaint)))
          · exact .inr (.inr (.inr (.inr ⟨field, rs, hfails, hspelled, hconverts, hdashes⟩)))
        · have hstop : read arguments = .error (.misuse (.leftover d.leftover)) := by
            rw [read_of_draft hws hread, Draft.finish, if_neg (by simpa using hleft)]
          exact .inr (.inr (.inr (.inl ⟨_, exits_of_misuse hstop⟩)))
  · intro rs hspelled hconverts
    exact ⟨hspelled.stop?_eq_blank_iff hconverts, hspelled.read_settings hconverts⟩

/-- A value of two dashes is not even complained about, but a number of pipes that breaks a rule is. -/
theorem read_outcome_pipes :
    Fails ["--pipes=--"] (.blank .pipes) ∧
      Exits ["--pi=0"] (complaint "number of pipes must be at least 1, got 0") := by
  have hdashes : Spelled [Opt.pipes.long ++ '=' :: dashes] [⟨.pipes, some dashes⟩] :=
    .use (.nameEquals Opt.pipes.begunBy_long) (.value rfl) .nil
  have hzero : Spelled ["--pi".toList ++ '=' :: ['0']] [⟨.pipes, some ['0']⟩] :=
    .use (.nameEquals (by decide)) (.value rfl) .nil
  constructor
  · obtain ⟨hfails, -⟩ :=
      (read_outcome ["--pipes=--"]).2 _ hdashes (by simp [Request.Converts, Request.reads, Request.text?])
    exact (hfails .pipes).1 rfl
  · refine ((read_outcome ["--pi=0"]).2 _ hzero ?_).2 ?_
    · rintro r (_ | ⟨_, ⟨⟩⟩)
      rfl
    · rintro r (_ | ⟨_, ⟨⟩⟩)
      decide

end Pipework.CommandLine
