/-
  FormLogic.Proofs.Validation.FirstDefect

  Compiling goes through the fields of a form in document order, and ends
  with what the first field reports that has a defect.

  The pass carries the names that are taken in a scope, and each list of
  nodes hands on the names of its fields, so that the names taken at a field
  are those of the fields before it.

    * `Field.compile_eq_error_iff` — each way in which a field does not
      compile.
    * `Item.compileAll_eq_error_iff` — a list of items fails with what its
      first field with a defect reports.
    * `Form.compile_iff` — which forms compile, and what is reported of the
      others.
-/

import FormLogic.Proofs.Pattern.Email
import FormLogic.Proofs.Validation.Defects
import FormLogic.Proofs.Validation.Scope

namespace FormLogic

/-! ## Names that are taken -/

variable {taken : List String} {before : List Field}

/-- The names taken in a scope are those of the fields before. -/
def TakenBy (taken : List String) (before : List Field) : Prop :=
  ∀ name, name ∈ taken ↔ name ∈ before.map (·.info.name)

theorem takenBy_nil : TakenBy [] [] := fun _ => Iff.rfl

theorem TakenBy.append (h : TakenBy taken before) {names : List String} {fs : List Field}
    (hnames : names = fs.map (·.info.name)) : TakenBy (names ++ taken) (before ++ fs) := by
  intro name
  rw [List.mem_append, List.map_append, List.mem_append, h name, hnames, or_comm]

/-! ## The first field with a defect -/

section Reader

variable [PatternReader]

namespace Occurrence

variable {o : Occurrence} {os xs ys : List Occurrence} {d : Defect}

/-- The first field of a list that has a defect reports `d`. -/
def First (os : List Occurrence) (d : Defect) : Prop :=
  ∃ before o after, os = before ++ o :: after ∧ (∀ p ∈ before, p.IsSound) ∧ o.Reports d

theorem not_first_nil : ¬ First [] d := by
  rintro ⟨before, o, after, hsplit, -, -⟩
  simp at hsplit

theorem first_cons : First (o :: os) d ↔ o.Reports d ∨ o.IsSound ∧ First os d := by
  constructor
  · rintro ⟨before, p, after, hsplit, hsound, hreports⟩
    cases before with
    | nil =>
      obtain ⟨rfl, rfl⟩ := List.cons.inj hsplit
      exact Or.inl hreports
    | cons q before =>
      obtain ⟨rfl, rfl⟩ := List.cons.inj hsplit
      obtain ⟨ho, hbefore⟩ := List.forall_mem_cons.mp hsound
      exact Or.inr ⟨ho, before, p, after, rfl, hbefore, hreports⟩
  · rintro (hreports | ⟨ho, before, p, after, rfl, hsound, hreports⟩)
    · exact ⟨[], o, os, rfl, fun p hp => absurd hp List.not_mem_nil, hreports⟩
    · exact ⟨o :: before, p, after, rfl, List.forall_mem_cons.mpr ⟨ho, hsound⟩, hreports⟩

theorem first_append :
    First (xs ++ ys) d ↔ First xs d ∨ (∀ p ∈ xs, p.IsSound) ∧ First ys d := by
  induction xs with
  | nil => simp [not_first_nil]
  | cons o xs ih =>
    rw [List.cons_append, first_cons, first_cons, ih, List.forall_mem_cons, and_or_left, or_assoc,
      and_assoc]

/-- No field reports anything where there is nothing wrong with any. -/
theorem not_first_iff : (∀ d, ¬ First os d) ↔ ∀ p ∈ os, p.IsSound := by
  induction os with
  | nil => simp [not_first_nil]
  | cons o os ih =>
    simp only [first_cons, not_or, not_and, List.forall_mem_cons, forall_and]
    rw [← ih]
    constructor
    · rintro ⟨hreports, hrest⟩
      have ho : o.IsSound := by
        by_contra hdefect
        obtain ⟨d, hd⟩ := exists_reports hdefect
        exact hreports d hd
      exact ⟨ho, fun d => hrest d ho⟩
    · rintro ⟨ho, hrest⟩
      exact ⟨fun d hreports => ho d hreports.1, fun d _ => hrest d⟩

end Occurrence

/-! ## A field that does not compile -/

variable {overrides : MessageOverrides} {path : String} {gates : List Gate}
  {around : List String} {d : Defect}

/-- A field whose name is taken is refused for that. -/
theorem Field.compile_of_taken {f : Field} {above : String} (h : f.info.name ∈ taken) :
    Field.compile overrides above gates taken f
      = .error (.duplicateField (Path.join above f.info.name)) := by
  obtain ⟨info, template, fields⟩ := f
  have htaken : taken.contains info.name = true := by simpa using h
  rw [Field.compile]
  simp only [htaken, if_true]

/-- A field with a free name is refused for what its rules are refused for. -/
theorem Field.compile_of_refused {f : Field} {above : String} (hfree : f.info.name ∉ taken)
    (h : FieldValidator.compile overrides f.info = .error d) :
    Field.compile overrides above gates taken f = .error d := by
  obtain ⟨info, template, fields⟩ := f
  have htaken : taken.contains info.name = false := by simpa using hfree
  rw [Field.compile]
  simp only [htaken, Bool.false_eq_true, if_false, h]

/-- What is wrong below a field: a list has no template, or the template or the members do not
compile. -/
inductive Field.FailsBelow (overrides : MessageOverrides) (path : String) (f : Field) :
    Defect → Prop
  | template :
      f.info.kind = .array → f.itemSchema = none →
      FailsBelow overrides path f (.missingItemSchema path)
  | entries {items : List Item} {d : Defect} :
      f.info.kind = .array → f.itemSchema = some items →
      Item.compileAll overrides (Path.join path "*") [] [] items = .error d →
      FailsBelow overrides path f d
  | members {d : Defect} :
      f.info.kind = .object → Field.compileAll overrides path [] f.fields = .error d →
      FailsBelow overrides path f d

/-- A field with a free name and accepted rules is refused for what is wrong below it. -/
theorem Field.compile_of_accepted {f : Field} {above : String} {v : FieldValidator}
    (hfree : f.info.name ∉ taken) (hv : FieldValidator.compile overrides f.info = .ok v) :
    Field.compile overrides above gates taken f = .error d ↔
      f.FailsBelow overrides (Path.join above f.info.name) d := by
  obtain ⟨info, template, fields⟩ := f
  have htaken : taken.contains info.name = false := by simpa using hfree
  rw [Field.compile]
  simp only [htaken, Bool.false_eq_true, if_false, hv]
  constructor
  · intro h
    -- the kinds that open a scope; any other kind gives a node
    split at h
    · next hk =>
      split at h
      · obtain rfl := Except.error.inj h
        exact .template hk rfl
      · next items =>
        split at h
        · next e hc =>
          obtain rfl := Except.error.inj h
          exact .entries hk rfl hc
        · cases h
    · next hk =>
      split at h
      · next e hc =>
        obtain rfl := Except.error.inj h
        exact .members hk hc
      · cases h
    · cases h
  · intro h
    cases h with
    | template hk ht =>
      cases ht
      simp only [show info.kind = .array from hk]
    | entries hk ht hc =>
      cases ht
      simp only [show info.kind = .array from hk, hc]
    | members hk hc =>
      simp only [show info.kind = .object from hk, show Field.compileAll _ _ _ fields = _ from hc]

/-- A field does not compile where its name is taken; else where its rules are refused; else where
something is wrong below it. -/
theorem Field.compile_eq_error_iff {f : Field} {above : String} :
    Field.compile overrides above gates taken f = .error d ↔
      (f.info.name ∈ taken ∧ d = .duplicateField (Path.join above f.info.name))
      ∨ (f.info.name ∉ taken ∧ FieldValidator.Refuses f.info d)
      ∨ (f.info.name ∉ taken ∧ (∀ e, ¬ FieldValidator.Refuses f.info e)
        ∧ f.FailsBelow overrides (Path.join above f.info.name) d) := by
  have hrefuses : ∀ e, FieldValidator.compile overrides f.info = .error e ↔
      FieldValidator.Refuses f.info e := fun e => FieldValidator.compile_eq_error_iff
  by_cases hfree : f.info.name ∈ taken
  · rw [Field.compile_of_taken hfree]
    simp [hfree, eq_comm]
  · cases hv : FieldValidator.compile overrides f.info with
    | error e =>
      rw [Field.compile_of_refused hfree hv]
      have he : FieldValidator.Refuses f.info e := (hrefuses e).mp hv
      constructor
      · intro h
        exact Or.inr (Or.inl ⟨hfree, Except.error.inj h ▸ he⟩)
      · rintro (⟨hmem, -⟩ | ⟨-, hd⟩ | ⟨-, hrules, -⟩)
        · exact absurd hmem hfree
        · rw [Except.error.inj (hv.symm.trans ((hrefuses d).mpr hd))]
        · exact absurd he (hrules e)
    | ok v =>
      have hrules : ∀ e, ¬ FieldValidator.Refuses f.info e := by
        intro e he
        rw [← hrefuses, hv] at he
        cases he
      rw [Field.compile_of_accepted hfree hv]
      constructor
      · intro h
        exact Or.inr (Or.inr ⟨hfree, hrules, h⟩)
      · rintro (⟨hmem, -⟩ | ⟨-, hd⟩ | ⟨-, -, hbelow⟩)
        · exact absurd hmem hfree
        · exact absurd hd (hrules d)
        · exact hbelow

/-! ## Lists of fields -/

/-- Items do not compile where the first does not, or where those behind it do not. -/
theorem Item.compileAll_cons_eq_error_iff {i : Item} {is : List Item} :
    Item.compileAll overrides path gates taken (i :: is) = .error d ↔
      Item.compile overrides path gates taken i = .error d
      ∨ ∃ front, Item.compile overrides path gates taken i = .ok front
        ∧ Item.compileAll overrides path gates (front.map Node.name ++ taken) is = .error d := by
  rw [Item.compileAll]
  cases Item.compile overrides path gates taken i with
  | error e => simp
  | ok front =>
    cases hrest : Item.compileAll overrides path gates (front.map Node.name ++ taken) is <;>
      simp [hrest]

/-- The nodes of items have the names of the fields, in order. -/
theorem Item.compileAll_names {items : List Item} {nodes : List Node}
    (h : Item.compileAll overrides path gates taken items = .ok nodes) :
    nodes.map Node.name = (Item.flatAll items).map (·.info.name) := by
  induction items using Item.listInduction generalizing gates taken nodes with
  | nil =>
    obtain rfl := Except.ok.inj h
    rfl
  | field f rest ih =>
    obtain ⟨front, nodes, hfront, hrest, rfl⟩ := Item.compileAll_cons h
    obtain ⟨node, hnode, rfl⟩ := Except.map_eq_ok.mp hfront
    have hname : node.name = f.info.name := Field.CompilesTo.name_eq ⟨_, _, _, hnode⟩
    rw [List.map_append, ih hrest, Item.flatAll_field_cons, List.map_cons, List.map_nil, hname]
    rfl
  | group info inner rest ihInner ihRest =>
    obtain ⟨front, nodes, hfront, hrest, rfl⟩ := Item.compileAll_cons h
    rw [List.map_append, ihInner hfront, ihRest hrest, Item.flatAll_group_cons, List.map_append]

/-- The fields of an object compile as items without groups. -/
theorem Field.compileAll_eq (fs : List Field) :
    Field.compileAll overrides path taken fs
      = Item.compileAll overrides path [] taken (fs.map Item.field) := by
  induction fs generalizing taken with
  | nil => rfl
  | cons f fs ih =>
    rw [Field.compileAll, List.map_cons, Item.compileAll, Item.compile]
    cases Field.compile overrides path [] taken f with
    | error e => rfl
    | ok node =>
      simp only [Except.map, List.map_cons, List.map_nil, List.singleton_append, ih]

/-- Wherever a field stands, it fails with what the first one reports of the field and those below
it. -/
def Field.FailsFirst (overrides : MessageOverrides) (f : Field) : Prop :=
  ∀ around before gates taken d, TakenBy taken before →
    (Field.compile overrides (Path.ofSegments around) gates taken f = .error d ↔
      Occurrence.First (f.occurrences around before) d)

/-- Items fail with what is reported first if the one in front does, and those behind it do. -/
theorem Item.compileAll_cons_first {i : Item} {is : List Item} {xs ys : List Occurrence}
    (hfront : ∀ e, Item.compile overrides path gates taken i = .error e ↔ Occurrence.First xs e)
    (hrest : ∀ front, Item.compile overrides path gates taken i = .ok front →
      (Item.compileAll overrides path gates (front.map Node.name ++ taken) is = .error d ↔
        Occurrence.First ys d)) :
    Item.compileAll overrides path gates taken (i :: is) = .error d ↔
      Occurrence.First (xs ++ ys) d := by
  -- the front compiles where there is nothing wrong in it
  have hsound : (∃ front, Item.compile overrides path gates taken i = .ok front) ↔
      ∀ p ∈ xs, p.IsSound := by
    rw [Except.exists_ok_iff, ← Occurrence.not_first_iff]
    exact forall_congr' fun e => not_congr (hfront e)
  rw [Item.compileAll_cons_eq_error_iff, Occurrence.first_append, ← hfront, ← hsound]
  constructor
  · rintro (herror | ⟨front, hok, herror⟩)
    · exact Or.inl herror
    · exact Or.inr ⟨⟨front, hok⟩, (hrest front hok).mp herror⟩
  · rintro (herror | ⟨⟨front, hok⟩, hfirst⟩)
    · exact Or.inl herror
    · exact Or.inr ⟨front, hok, (hrest front hok).mpr hfirst⟩

/-- A list of items fails with what its first field with a defect reports. -/
theorem Item.compileAll_eq_error_iff {items : List Item}
    (hfields : ∀ f ∈ Item.flatAll items, f.FailsFirst overrides) (htaken : TakenBy taken before) :
    Item.compileAll overrides (Path.ofSegments around) gates taken items = .error d ↔
      Occurrence.First (Field.occurrencesAll around before (Item.flatAll items)) d := by
  induction items using Item.listInduction generalizing gates taken before d with
  | nil =>
    rw [Item.compileAll, Item.flatAll_nil, Field.occurrencesAll]
    exact iff_of_false (by simp) Occurrence.not_first_nil
  | field f rest ih =>
    rw [Item.flatAll_field_cons] at hfields ⊢
    obtain ⟨hf, hrest⟩ := List.forall_mem_cons.mp hfields
    rw [Field.occurrencesAll]
    -- behind the field its name is taken as well
    refine Item.compileAll_cons_first (fun e => ?_) fun front hfront => ?_
    · rw [Item.compile, Except.map_eq_error]
      exact hf around before gates taken e htaken
    · obtain ⟨node, hnode, rfl⟩ := Except.map_eq_ok.mp hfront
      have hname : node.name = f.info.name := Field.CompilesTo.name_eq ⟨_, _, _, hnode⟩
      exact ih hrest (htaken.append (by rw [List.map_cons, hname]; rfl))
  | group info inner rest ihInner ihRest =>
    rw [Item.flatAll_group_cons] at hfields ⊢
    obtain ⟨hinner, hrest⟩ := List.forall_mem_append.mp hfields
    rw [Field.occurrencesAll_append]
    -- the fields of the group take names in the scope around it
    refine Item.compileAll_cons_first (fun e => ?_) fun front hfront => ?_
    · exact ihInner hinner htaken
    · exact ihRest hrest (htaken.append (Item.compileAll_names hfront))

/-- A list of fields fails with what the first of them with a defect reports. -/
theorem Field.compileAll_eq_error_iff {fs : List Field}
    (hfields : ∀ f ∈ fs, f.FailsFirst overrides) (htaken : TakenBy taken before) :
    Field.compileAll overrides (Path.ofSegments around) taken fs = .error d ↔
      Occurrence.First (Field.occurrencesAll around before fs) d := by
  have hflat : Item.flatAll (fs.map Item.field) = fs := Item.flatAll_map_field fs
  rw [Field.compileAll_eq, Item.compileAll_eq_error_iff (by rwa [hflat]) htaken, hflat]

/-- What is wrong below a field is that it has no template, or what is first reported there. -/
theorem Field.failsBelow_iff {f : Field}
    (hbelow : ∀ segs below, f.inner? = some (segs, below) → ∀ g ∈ below, g.FailsFirst overrides) :
    f.FailsBelow overrides (Path.ofSegments (around ++ [f.info.name])) d ↔
      (f.info.kind = .array ∧ f.itemSchema = none
        ∧ d = .missingItemSchema (Path.ofSegments (around ++ [f.info.name])))
      ∨ Occurrence.First (f.occurrencesBelow around) d := by
  have hstar : Path.join (Path.ofSegments (around ++ [f.info.name])) "*"
      = Path.ofSegments (around ++ [f.info.name, "*"]) := by
    rw [← Path.ofSegments_concat, List.append_assoc]
    rfl
  constructor
  · intro h
    cases h with
    | template hk ht => exact Or.inl ⟨hk, ht, rfl⟩
    | entries hk ht hc =>
      have hinner := Field.inner?_of_array hk ht
      rw [hstar, Item.compileAll_eq_error_iff (hbelow _ _ hinner) takenBy_nil] at hc
      rw [Field.occurrencesBelow, hinner]
      exact Or.inr hc
    | members hk hc =>
      have hinner := Field.inner?_of_object hk
      rw [Field.compileAll_eq_error_iff (hbelow _ _ hinner) takenBy_nil] at hc
      rw [Field.occurrencesBelow, hinner]
      exact Or.inr hc
  · rintro (⟨hk, ht, rfl⟩ | hfirst)
    · exact .template hk ht
    · rw [Field.occurrencesBelow] at hfirst
      split at hfirst
      · next segs below hinner =>
        have hfields := hbelow _ _ hinner
        rcases Field.inner?_cases hinner with ⟨items, hk, ht, rfl, rfl⟩ | ⟨hk, rfl, rfl⟩
        · refine .entries hk ht ?_
          rwa [hstar, Item.compileAll_eq_error_iff hfields takenBy_nil]
        · refine .members hk ?_
          rwa [Field.compileAll_eq_error_iff hfields takenBy_nil]
      · exact absurd hfirst Occurrence.not_first_nil

/-- Without a template nothing is reported of fields below. -/
theorem Field.not_first_occurrencesBelow {f : Field} (hk : f.info.kind = .array)
    (ht : f.itemSchema = none) : ¬ Occurrence.First (f.occurrencesBelow around) d := by
  have hinner : f.inner? = none := by
    rw [Field.inner?, hk, ht]
    rfl
  rw [Field.occurrencesBelow, hinner]
  exact Occurrence.not_first_nil

/-- Wherever a field stands, it fails with what is first reported of it and the fields below it. -/
theorem Field.failsFirst (haddress : ∃ p, PatternReader.read FieldValidator.emailPattern = .ok p)
    (f : Field) : f.FailsFirst overrides := by
  induction f using Field.innerInduction with
  | step f ih =>
    intro around before gates taken d htaken
    have hpath : Path.join (Path.ofSegments around) f.info.name
        = Path.ofSegments (around ++ [f.info.name]) := (Path.ofSegments_concat _ _).symm
    have hnone : f.info.kind = .array ∧ f.itemSchema = none →
        ¬ Occurrence.First (f.occurrencesBelow around) d :=
      fun ⟨hk, ht⟩ => Field.not_first_occurrencesBelow hk ht
    rw [Field.compile_eq_error_iff, hpath, Field.failsBelow_iff ih, htaken,
      Field.occurrences_eq, Occurrence.first_cons, Occurrence.reports_iff haddress,
      Occurrence.isSound_iff haddress, Field.inOrder_iff haddress]
    constructor
    · rintro (hname | hrules | ⟨hfree, haccepted, hmissing | hfirst⟩)
      · exact Or.inl (Or.inl hname)
      · exact Or.inl (Or.inr (Or.inl hrules))
      · exact Or.inl (Or.inr (Or.inr ⟨hfree, haccepted, hmissing⟩))
      · exact Or.inr ⟨⟨hfree, haccepted, fun htemplate => hnone htemplate hfirst⟩, hfirst⟩
    · rintro ((hname | hrules | ⟨hfree, haccepted, hmissing⟩) | ⟨⟨hfree, haccepted, -⟩, hfirst⟩)
      · exact Or.inl hname
      · exact Or.inr (Or.inl hrules)
      · exact Or.inr (Or.inr ⟨hfree, haccepted, Or.inl hmissing⟩)
      · exact Or.inr (Or.inr ⟨hfree, haccepted, Or.inr hfirst⟩)

/-! ## Main statement -/

/-- With any reader of patterns that reads the one of e-mail addresses, a form compiles exactly if
every scope of it is in order.  Otherwise what is reported is what the first field with a defect
reports, in document order. -/
theorem Form.compile_iff (haddress : ∃ p, PatternReader.read FieldValidator.emailPattern = .ok p)
    (overrides : MessageOverrides) (form : Form) :
    ((∃ v, form.compile overrides = .ok v) ↔ form.WellFormed)
    ∧ ∀ d, form.compile overrides = .error d ↔
        ∃ before o after, form.occurrences = before ++ o :: after
          ∧ (∀ p ∈ before, p.IsSound) ∧ o.Reports d := by
  have herror : ∀ d, form.compile overrides = .error d ↔ Occurrence.First form.occurrences d := by
    intro d
    rw [Form.compile, Except.map_eq_error, Form.occurrences, Item.occurrencesAll_eq]
    have htop : Item.compileAll overrides (Path.ofSegments []) [] [] form.items = .error d ↔
        Occurrence.First (Field.occurrencesAll [] [] (Item.flatAll form.items)) d :=
      Item.compileAll_eq_error_iff (fun f _ => Field.failsFirst haddress f) takenBy_nil
    exact htop
  refine ⟨?_, herror⟩
  rw [Except.exists_ok_iff, Form.wellFormed_iff haddress, ← Occurrence.not_first_iff]
  exact forall_congr' fun d => not_congr (herror d)

end Reader

namespace Invoice

/-- A field for texts. -/
def text (name : String) : Field := ⟨{ name := name, kind := .text }, none, []⟩

/-- A note, and in a group a list whose template has one name twice, the second time in a group. -/
def form : Form where
  items := [.field (text "note"),
    .group {} [.field ⟨{ name := "lines", kind := .array },
      some [.field (text "sku"), .group {} [.field (text "sku")]], []⟩]]

/-- The second of the fields under one name reports that the name is taken, and that one scope is
not in order is enough for the form not to be well-formed. -/
theorem taken_sku_reported : (∃ p, PatternReader.read FieldValidator.emailPattern = .ok p)
    ∧ ¬ form.WellFormed
    ∧ ∃ before o after, form.occurrences = before ++ o :: after ∧ (∀ p ∈ before, p.IsSound)
      ∧ o.Reports (.duplicateField "lines.*.sku") := by
  have haddress : ∃ p, PatternReader.read FieldValidator.emailPattern = .ok p :=
    ⟨_, Pattern.read_emailPattern⟩
  have herror : form.compile [] = .error (.duplicateField "lines.*.sku") := rfl
  obtain ⟨hwellFormed, hreported⟩ := Form.compile_iff haddress [] form
  refine ⟨haddress, fun h => ?_, (hreported _).mp herror⟩
  obtain ⟨v, hv⟩ := hwellFormed.mpr h
  cases herror.symm.trans hv

example : form.occurrences.map (·.path) = ["note", "lines", "lines.*.sku", "lines.*.sku"] := by
  decide

example (overrides : MessageOverrides) :
    form.compile overrides = .error (.duplicateField "lines.*.sku") := rfl

end Invoice
end FormLogic
