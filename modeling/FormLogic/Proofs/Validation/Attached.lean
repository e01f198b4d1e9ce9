/-
  FormLogic.Proofs.Validation.Attached

  What a custom check does to a form that it is attached to.

  Attaching changes one field of the description, deep in groups, objects and
  templates, and the whole form is compiled anew.  That everything but the
  messages stays comes from the stripped form, which is the same without the
  checks.  Which messages can change comes from the descents: what the
  changed form descends to is, by the same segments, what the form itself
  does, and the field is another one only where the segments are those of
  the path with positions put in.

    * `Form.reaches_of_change?` — what a changed form reaches.
    * `FieldInfo.reports_attach_iff` — what a field with a check reports.
    * `Form.attach_frame` — a custom check counts for its field alone.
-/

import FormLogic.Proofs.Schema.Change
import FormLogic.Proofs.Validation.Building
import FormLogic.Proofs.Validation.Locate
import FormLogic.Proofs.Validation.Metadata

namespace FormLogic

section Reader

variable [PatternReader] {overrides : MessageOverrides} {fields : Field → Prop}
  {nodes : List Node}

/-! ## Descents of a changed form -/

/-- The names that lead to a field find it. -/
theorem Expands.exists_descend? {names segments : List String} {name : String}
    {rest : List String} {g : Field} (h : Expands fields names segments g)
    (hs : ScopeOf overrides fields nodes) (hnames : names = name :: rest) :
    ∃ f, fields f ∧ f.info.name = name ∧ f.descend? rest = some g := by
  induction h generalizing nodes name rest with
  | here hf =>
    obtain ⟨rfl, rfl⟩ := List.cons.inj hnames
    exact ⟨_, hf, rfl, rfl⟩
  | @member _ f _ _ _ hf hk hbelow ih =>
    obtain ⟨rfl, rfl⟩ := List.cons.inj hnames
    obtain ⟨n, -, hc⟩ := hs.node_of_field f hf
    obtain ⟨t, after, rfl⟩ := List.exists_cons_of_ne_nil hbelow.ne_nil.1
    obtain ⟨c, hmem, rfl, hdescend⟩ := ih (hc.members hk).2 rfl
    have hchild : f.child? c.info.name = some c := by
      rw [Field.child?, hk]
      exact Field.named?_of_mem (hc.nodup_members hk) hmem
    refine ⟨f, hf, rfl, ?_⟩
    rw [Field.descend?, hchild]
    exact hdescend
  | @item _ f _ items _ _ _ hf hk ht hbelow ih =>
    obtain ⟨rfl, rfl⟩ := List.cons.inj hnames
    obtain ⟨n, -, hc⟩ := hs.node_of_field f hf
    obtain ⟨-, items', ht', hchildren⟩ := hc.entries hk
    obtain rfl := Option.some.inj (ht'.symm.trans ht)
    obtain ⟨t, after, rfl⟩ := List.exists_cons_of_ne_nil hbelow.ne_nil.1
    obtain ⟨c, hmem, rfl, hdescend⟩ := ih hchildren rfl
    have hchild : f.child? c.info.name = some c := by
      rw [Field.child?, hk]
      simp only [ht, Option.bind_some, Item.findIn?_eq]
      exact Field.named?_of_mem (hc.nodup_entries hk ht) (Item.declares_iff_mem_flatAll.mp hmem)
    refine ⟨f, hf, rfl, ?_⟩
    rw [Field.descend?, hchild]
    exact hdescend

/-- What a changed scope descends to, the scope itself descends to by the same segments; there the
field is another one only where the names expand to the segments. -/
theorem Descends.of_changed {opens : Option Json → Prop} {g : FieldInfo → FieldInfo}
    (hname : ∀ info, (g info).name = info.name) (hkind : ∀ info, (g info).kind = info.kind)
    {fields' : Field → Prop} {scope : Json} {names segments : List String} {f' : Field}
    {value : Option Json} (h : Descends opens fields' scope segments f' value)
    (hchanged : ∀ f', fields' f' → ∃ f, fields f ∧ f' = f.changed g names)
    (hs : ScopeOf overrides fields nodes) :
    ∃ f, Descends opens fields scope segments f value
      ∧ (Expands fields names segments f ∧ f'.info = g f.info
        ∨ (∀ f, ¬ Expands fields names segments f) ∧ f'.info = f.info) := by
  induction h generalizing fields names nodes with
  | here hf' =>
    obtain ⟨f, hf, rfl⟩ := hchanged _ hf'
    rw [Field.changed_name hname, Field.changed_info]
    refine ⟨f, .here hf, ?_⟩
    by_cases hnames : names = [f.info.name]
    · exact Or.inl ⟨Expands.singleton_iff.mpr ⟨hf, rfl, hnames⟩, if_pos hnames⟩
    · exact Or.inr ⟨fun _ h => hnames (Expands.singleton_iff.mp h).2.2, if_neg hnames⟩
  | member hf' hk ho hrest ih =>
    obtain ⟨f, hf, rfl⟩ := hchanged _ hf'
    rw [Field.changed_kind hkind] at hk
    obtain ⟨n, -, hc⟩ := hs.node_of_field f hf
    -- below the object the names that are left change its members
    have hbelow : ∀ c', c' ∈ (f.changed g names).fields →
        ∃ c ∈ f.fields, c' = c.changed g (f.namesBelow names) := by
      intro c' hc'
      rw [Field.changed_fields hk (hc.nodup_members hk)] at hc'
      obtain ⟨c, hmem, rfl⟩ := List.mem_map.mp hc'
      exact ⟨c, hmem, rfl⟩
    obtain ⟨c, hd, hinfo⟩ := ih hbelow (hc.members hk).2
    rw [Field.changed_name hname] at ho hd ⊢
    refine ⟨c, .member hf hk ho hd, ?_⟩
    simpa only [Expands.member_iff hs.distinctFields hf hk hd.ne_nil] using hinfo
  | @item _ _ _ _ _ _ _ items' _ i hf' hk ht' hvalue hentry hrest ih =>
    obtain ⟨f, hf, rfl⟩ := hchanged _ hf'
    rw [Field.changed_kind hkind] at hk
    obtain ⟨n, -, hc⟩ := hs.node_of_field f hf
    obtain ⟨-, items, ht, hchildren⟩ := hc.entries hk
    -- below the list they change the fields of its template
    have hbelow : ∀ c', Item.Declares items' c' →
        ∃ c, Item.Declares items c ∧ c' = c.changed g (f.namesBelow names) := by
      intro c' hc'
      obtain ⟨changed, hchanged, hflat⟩ : ∃ changed, (f.changed g names).itemSchema = some changed
          ∧ Item.flatAll changed
            = (Item.flatAll items).map (Field.changed g (f.namesBelow names)) :=
        Field.changed_itemSchema hk ht (hc.nodup_entries hk ht)
      obtain rfl := Option.some.inj (hchanged.symm.trans ht')
      rw [Item.declares_iff_mem_flatAll, hflat] at hc'
      obtain ⟨c, hmem, rfl⟩ := List.mem_map.mp hc'
      exact ⟨c, Item.declares_iff_mem_flatAll.mpr hmem, rfl⟩
    obtain ⟨c, hd, hinfo⟩ := ih hbelow hchildren
    rw [Field.changed_name hname] at hvalue ⊢
    refine ⟨c, .item hf hk ht hvalue hentry hd, ?_⟩
    simpa only [Expands.item_iff hs.distinctFields hf hk ht] using hinfo

namespace Form

variable {form form' : Form} {v : FormValidator} {values : Json} {p q : String}

/-- What a changed form reaches, the form itself reaches under the same path; there the field is
another one only where the path is one of the field that is changed. -/
theorem reaches_of_change? {g : FieldInfo → FieldInfo}
    (hname : ∀ info, (g info).name = info.name) (hkind : ∀ info, (g info).kind = info.kind)
    (hc : form.compile overrides = .ok v) (hn : form.hasPlainNames = true)
    (hchange : form.change? q g = some form') {f' : Field} {value : Option Json}
    (h : form'.Reaches values p f' value) :
    ∃ f, form.Reaches values p f value
      ∧ (form.PathOf q p ∧ form.field? q = some f ∧ f'.info = g f.info
        ∨ ¬ form.PathOf q p ∧ f'.info = f.info) := by
  have hs := compile_scopeOf hc
  have hplain := plainNames_declares hn
  rw [change?] at hchange
  split at hchange
  · next f₀ s rest _ hpieces =>
    obtain rfl := Option.some.inj hchange
    have hsegments : Path.segments q = s :: rest := hpieces
    obtain ⟨segments, hd, rfl⟩ := h
    have hchanged : ∀ f', Item.Declares (Item.changeIn s (Field.changeAt g rest) form.items) f' →
        ∃ f, Item.Declares form.items f ∧ f' = f.changed g (s :: rest) := by
      intro f' hf'
      rw [Item.declares_iff_mem_flatAll, Item.flatAll_changeIn,
        Field.changeIn_eq_changed (nodup_names hc)] at hf'
      obtain ⟨f, hf, rfl⟩ := List.mem_map.mp hf'
      exact ⟨f, Item.declares_iff_mem_flatAll.mpr hf, rfl⟩
    obtain ⟨f, hd, hcases⟩ := Descends.of_changed hname hkind hd hchanged hs
    refine ⟨f, ⟨segments, hd, rfl⟩, hcases.imp ?_ ?_⟩
    · rintro ⟨hexpands, hinfo⟩
      have hq : Path.ofSegments (Path.segments q) = q :=
        Path.ofSegments_segments (hsegments ▸ (hexpands.isSegment hplain).1)
      obtain ⟨f₁, hf₁, rfl, hdescend⟩ := hexpands.exists_descend? hs rfl
      have hfind : Item.findIn? f₁.info.name form.items = some f₁ := by
        rw [Item.findIn?_eq]
        exact Field.named?_of_mem (nodup_names hc) (Item.declares_iff_mem_flatAll.mp hf₁)
      have hfield : form.field? q = some f := by
        rw [field?, hpieces]
        simp only [hfind, Option.bind_some]
        exact hdescend
      exact ⟨⟨_, segments, f, hexpands, by rw [← hsegments, hq], rfl⟩, hfield, hinfo⟩
    · rintro ⟨hnone, hinfo⟩
      refine ⟨?_, hinfo⟩
      -- names and segments are read off the two paths
      rintro ⟨names, segments', f₂, hexpands, rfl, hp⟩
      obtain ⟨hnames, hsegments'⟩ := hexpands.isSegment hplain
      rw [Path.segments_ofSegments hexpands.ne_nil.1 hnames] at hsegments
      have hsame := congrArg Path.segments hp
      rw [Path.segments_ofSegments hd.ne_nil (hd.isSegment hplain),
        Path.segments_ofSegments hexpands.ne_nil.2 hsegments'] at hsame
      exact hnone f₂ (hsegments ▸ hsame ▸ hexpands)
  · cases hchange

end Form

/-! ## A field with a check -/

namespace FieldInfo

variable {info : FieldInfo} {check : CustomCheck} {value : Option Json} {values : Json}
  {m : String}

/-- What the rules of a field report, its custom check apart: that a demanded value is missing, else
the first rule that is broken. -/
inductive RuleReports (overrides : MessageOverrides) (info : FieldInfo) (value : Option Json)
    (values : Json) : String → Prop
  | demanded : Vacant value → info.Demanded values →
      RuleReports overrides info value values (info.ruleMessage overrides .required)
  | broken {v : Json} {key : RuleKey} :
      ¬ (Vacant value ∧ info.Demanded values) → value = some v → ¬ PassedOver v →
      info.FirstBroken v key →
      RuleReports overrides info value values (info.ruleMessage overrides key)

/-- What the rules report the field reports. -/
theorem RuleReports.reports (h : info.RuleReports overrides value values m) :
    info.Reports overrides value values m := by
  cases h with
  | demanded hv hd => exact .demanded hv hd
  | broken hd hvalue hp hfirst => exact .broken hd hvalue hp hfirst

/-- What a custom check says of a value: its own message, or that of the field where it gives none
or ends in an error. -/
inductive CheckSays (overrides : MessageOverrides) (info : FieldInfo) (check : CustomCheck)
    (value values : Json) : String → Prop
  | refused {message : String} : check.run value values = .ok (.invalid (some message)) →
      CheckSays overrides info check value values message
  | unworded : check.run value values = .ok (.invalid none) →
      CheckSays overrides info check value values (info.ruleMessage overrides .custom)
  | failed {e : CheckFailure} : check.run value values = .error e →
      CheckSays overrides info check value values (info.ruleMessage overrides .custom)

omit [PatternReader] in
/-- Attaching a check keeps what its field demands. -/
theorem sameDemands_attach (info : FieldInfo) (check : CustomCheck) :
    info.SameDemands (info.attach check) :=
  ⟨rfl, rfl, rfl, rfl⟩

/-- A field with a check reports what its rules do, and where these have nothing to report, what the
check says. -/
theorem reports_attach_iff :
    (info.attach check).Reports overrides value values m ↔
      info.RuleReports overrides value values m
        ∨ ¬ (Vacant value ∧ info.Demanded values) ∧ info.Obeyed value
          ∧ info.CheckSays overrides check (value.getD .null) values m := by
  have hmessage : ∀ key, (info.attach check).ruleMessage overrides key
      = info.ruleMessage overrides key :=
    fun key => ((info.sameDemands_attach check).ruleMessage rfl rfl overrides key).symm
  have hcheck : ∀ c, (info.attach check).HasCheck c ↔ c = check := by
    intro c
    constructor
    · rintro ⟨rule, hrule, hc⟩
      obtain rfl := Option.some.inj hrule
      exact (Option.some.inj hc).symm
    · rintro rfl
      exact ⟨_, rfl, rfl⟩
  constructor
  · intro h
    cases h with
    | demanded hv hd =>
      rw [hmessage]
      exact Or.inl (.demanded hv hd)
    | broken hd hvalue hp hfirst =>
      rw [hmessage]
      exact Or.inl (.broken hd hvalue hp hfirst)
    | refused hd hobeyed hc hrun =>
      obtain rfl := (hcheck _).mp hc
      exact Or.inr ⟨hd, hobeyed, .refused hrun⟩
    | failed hd hobeyed hc hrun =>
      obtain rfl := (hcheck _).mp hc
      rw [hmessage]
      rcases hrun with hrun | ⟨e, hrun⟩
      · exact Or.inr ⟨hd, hobeyed, .unworded hrun⟩
      · exact Or.inr ⟨hd, hobeyed, .failed hrun⟩
  · rintro (hrule | ⟨hd, hobeyed, hsays⟩)
    · cases hrule with
      | demanded hv hd => exact hmessage _ ▸ .demanded hv hd
      | broken hd hvalue hp hfirst => exact hmessage _ ▸ .broken hd hvalue hp hfirst
    · have hhas : (info.attach check).HasCheck check := (hcheck check).mpr rfl
      cases hsays with
      | refused hrun => exact .refused hd hobeyed hhas hrun
      | unworded hrun => exact hmessage _ ▸ .failed hd hobeyed hhas (Or.inl hrun)
      | failed hrun => exact hmessage _ ▸ .failed hd hobeyed hhas (Or.inr ⟨_, hrun⟩)

end FieldInfo

/-! ## Leaving checks out -/

/-- A field without its check, with the rules and dependencies that an attached check would find. -/
def FieldInfo.withoutCheck (info : FieldInfo) : FieldInfo :=
  { info with
    rules := some { info.ruleSet with
      custom := some { info.custom.getD {} with check := none } } }

/-- A validator without its custom check. -/
def FieldValidator.withoutCustom (v : FieldValidator) : FieldValidator := { v with custom := none }

omit [PatternReader] in
theorem FieldInfo.withoutCheck_attach (info : FieldInfo) (check : CustomCheck) :
    (info.attach check).withoutCheck = info.withoutCheck :=
  rfl

/-- Without its check a field has the same validator but for the custom check. -/
theorem Strips.withoutCheck (overrides : MessageOverrides) :
    Strips overrides overrides FieldInfo.withoutCheck FieldValidator.withoutCustom where
  name := fun _ => rfl
  kind := fun _ => rfl
  gate := fun _ => rfl
  disabled := fun _ _ => rfl
  validatorName := fun _ => rfl
  compile := by
    intro info
    have h : info.SameDemands info.withoutCheck := ⟨rfl, rfl, rfl, rfl⟩
    have hdependencies : info.dependencies = info.withoutCheck.dependencies := by
      have hcustom : info.withoutCheck.custom
          = some { info.custom.getD {} with check := none } := rfl
      rw [FieldInfo.dependencies, FieldInfo.dependencies, hcustom]
      cases info.custom <;> rfl
    refine h.map_compile fun v w hv hw => ?_
    rw [FieldValidator.compile_eq_ok hv, FieldValidator.compile_eq_ok hw]
    simp only [FieldValidator.withoutCustom, FieldValidator.mk.injEq, true_and]
    exact ⟨h.name, h.kind, h.kind ▸ h.checks rfl rfl _, h.required,
      h.rule (·.required) fun _ => rfl, h.ruleMessage rfl rfl overrides .required, hdependencies⟩

/-! ## Visits of a form with a check -/

namespace Form

variable {form form' : Form} {v v' : FormValidator} {values : Json} {q : String}
  {check : CustomCheck}

/-- A form compiles with a check as it does without, but for custom checks. -/
theorem exists_compile_attach? (hc : form.compile overrides = .ok v)
    (h : form.attach? q check = some form') :
    ∃ v', form'.compile overrides = .ok v'
      ∧ v'.map FieldValidator.withoutCustom = v.map FieldValidator.withoutCustom := by
  have hstrip : form'.strip FieldInfo.withoutCheck = form.strip FieldInfo.withoutCheck :=
    strip_change? (fun info => info.withoutCheck_attach check) h
  have hcompile := compile_of_strip_eq (Strips.withoutCheck overrides)
    (Strips.withoutCheck overrides) hstrip
  rw [hc] at hcompile
  exact Except.map_eq_ok.mp hcompile

/-- What is visited in a form with a check is reached in the form itself; where the path is none of
the field with the check, it is visited there as well. -/
theorem reaches_of_mem_visits_attach? (hc : form.compile overrides = .ok v)
    (hn : form.hasPlainNames = true) (h : form.attach? q check = some form')
    (hc' : form'.compile overrides = .ok v') {visit : Visit}
    (hvisit : visit ∈ v'.visits false values) :
    (form.PathOf q visit.path ∧ ∃ f, form.field? q = some f
        ∧ form.Reaches values visit.path f visit.value
        ∧ FieldValidator.compile overrides (f.info.attach check) = .ok visit.validator)
      ∨ ¬ form.PathOf q visit.path ∧ visit ∈ v.visits false values := by
  obtain ⟨f', hf', hv'⟩ := (mem_visits_iff hc').mp hvisit
  obtain ⟨f, hf, ⟨hpath, hfield, hinfo⟩ | ⟨hpath, hinfo⟩⟩ :=
    reaches_of_change? (g := fun info => info.attach check) (fun _ => rfl) (fun _ => rfl) hc hn h
      hf'
  · rw [hinfo] at hv'
    exact Or.inl ⟨hpath, f, hfield, hf, hv'⟩
  · rw [hinfo] at hv'
    exact Or.inr ⟨hpath, (mem_visits_iff hc).mpr ⟨f, hf, hv'⟩⟩

section

variable (hc : form.compile overrides = .ok v) (hn : form.hasPlainNames = true)
  (h : form.attach? q check = some form') (hc' : form'.compile overrides = .ok v')
include hc h hc'

/-- A form with a check visits the same paths with the same values, in the same order. -/
theorem visits_attach? (values : Json) :
    (v'.visits false values).map (fun visit => (visit.path, visit.value))
      = (v.visits false values).map fun visit => (visit.path, visit.value) := by
  obtain ⟨w, hw, hmap⟩ := exists_compile_attach? hc h
  obtain rfl := Except.ok.inj (hw.symm.trans hc')
  have hname : ∀ u : FieldValidator, u.withoutCustom.name = u.name := fun _ => rfl
  have hvisits := congrArg (List.map fun visit => (visit.path, visit.value))
    (congrArg (fun u : FormValidator => u.visits false values) hmap)
  simp only [FormValidator.visits_map hname, List.map_map] at hvisits
  exact hvisits

/-- What is visited in a form is visited in the form with a check, if not with the same
validator. -/
theorem exists_visit_attach? {visit : Visit} (hvisit : visit ∈ v.visits false values) :
    ∃ visit' ∈ v'.visits false values, visit'.path = visit.path ∧ visit'.value = visit.value := by
  have hmem : (visit.path, visit.value) ∈
      (v'.visits false values).map fun visit => (visit.path, visit.value) := by
    rw [visits_attach? hc h hc']
    exact List.mem_map.mpr ⟨visit, hvisit, rfl⟩
  obtain ⟨visit', hvisit', heq⟩ := List.mem_map.mp hmem
  exact ⟨visit', hvisit', (Prod.mk.inj heq).1, (Prod.mk.inj heq).2⟩

include hn

theorem nodup_visits_attach? (values : Json) :
    ((v'.visits false values).map Visit.path).Nodup := by
  have hpaths := congrArg (List.map Prod.fst) (visits_attach? hc h hc' values)
  rw [List.map_map, List.map_map] at hpaths
  exact hpaths ▸ nodup_visits hc hn false values

/-- Under a path that is none of the field with the check, the messages are those of the form. -/
theorem get?_validate_attach?_of_not_pathOf {p : String} (hp : ¬ form.PathOf q p) :
    Dict.get? (v'.validate values) p = Dict.get? (v.validate values) p := by
  have hnodup := nodup_visits hc hn false values
  have hsame : ∀ visit' ∈ v'.visits false values, visit'.path = p →
      visit' ∈ v.visits false values := by
    rintro visit' hvisit' rfl
    rcases reaches_of_mem_visits_attach? hc hn h hc' hvisit' with ⟨hpath, -⟩ | ⟨-, hvisit⟩
    · exact absurd hpath hp
    · exact hvisit
  ext m
  rw [FormValidator.validate, FormValidator.validate, FormValidator.get?_errorsOf_iff hnodup,
    FormValidator.get?_errorsOf_iff (nodup_visits_attach? hc hn h hc' values)]
  constructor
  · rintro ⟨visit', hvisit', hpath, hm⟩
    exact ⟨visit', hsame visit' hvisit' hpath, hpath, hm⟩
  · rintro ⟨visit, hvisit, hpath, hm⟩
    obtain ⟨visit', hvisit', hpath', -⟩ := exists_visit_attach? hc h hc' hvisit
    -- the visit of the form with the check is one of the form, and so the same
    have hmem := hsame visit' hvisit' (hpath'.trans hpath)
    obtain rfl := List.inj_on_of_nodup_map hnodup hmem hvisit hpath'
    exact ⟨visit', hvisit', hpath, hm⟩

/-- Under a path of the field with the check, the messages are those that the field with the check
reports. -/
theorem get?_validate_attach?_of_pathOf {p : String} (hp : form.PathOf q p) {f : Field}
    (hfield : form.field? q = some f) {m : String} :
    Dict.get? (v'.validate values) p = some m ↔
      ∃ value, form.Reaches values p f value
        ∧ (f.info.attach check).Reports overrides value values m := by
  rw [FormValidator.validate,
    FormValidator.get?_errorsOf_iff (nodup_visits_attach? hc hn h hc' values)]
  have hreached : ∀ visit' ∈ v'.visits false values, visit'.path = p →
      form.Reaches values p f visit'.value
        ∧ FieldValidator.compile overrides (f.info.attach check) = .ok visit'.validator := by
    rintro visit' hvisit' rfl
    rcases reaches_of_mem_visits_attach? hc hn h hc' hvisit' with
      ⟨-, f', hfield', hf, hv⟩ | ⟨hpath, -⟩
    · obtain rfl := Option.some.inj (hfield'.symm.trans hfield)
      exact ⟨hf, hv⟩
    · exact absurd hp hpath
  constructor
  · rintro ⟨visit', hvisit', hpath, hm⟩
    obtain ⟨hf, hv⟩ := hreached visit' hvisit' hpath
    exact ⟨visit'.value, hf, (FieldValidator.validate_eq_some_iff hv).mp hm⟩
  · rintro ⟨value, hf, hr⟩
    obtain ⟨validator, hv, -⟩ := validateAt_of_finds hc hn hf.finds
    have hvisit : ⟨p, value, validator⟩ ∈ v.visits false values :=
      (mem_visits_iff hc).mpr ⟨f, hf, hv⟩
    obtain ⟨visit', hvisit', hpath, hvalue⟩ := exists_visit_attach? hc h hc' hvisit
    obtain ⟨-, hv'⟩ := hreached visit' hvisit' hpath
    refine ⟨visit', hvisit', hpath, ?_⟩
    rw [hvalue]
    exact (FieldValidator.validate_eq_some_iff hv').mpr hr

end

end Form

/-! ## Main statement -/

/-- A check is attached exactly where a path finds a field.  The form with the check compiles with
any templates, shows the same fields and has the same dependencies.  Its messages are those of the
form but under the paths of the field; there the messages of the rules stay, and any other is what
the check says. -/
theorem Form.attach_frame {overrides₀ : MessageOverrides} {form : Form} {v₀ : FormValidator}
    (hc : form.compile overrides₀ = .ok v₀) (hn : form.hasPlainNames = true) (q : String)
    (check : CustomCheck) :
    (form.attach? q check = none ↔ form.field? q = none)
    ∧ ∀ form', form.attach? q check = some form' → ∃ f, form.field? q = some f
      ∧ (∀ values, form'.visibility values = form.visibility values)
      ∧ ∀ overrides, ∃ v v', form.compile overrides = .ok v ∧ form'.compile overrides = .ok v'
        ∧ v'.dependencies = v.dependencies
        ∧ ∀ values p,
          (¬ form.PathOf q p →
            Dict.get? (v'.validate values) p = Dict.get? (v.validate values) p)
          ∧ (form.PathOf q p →
            (∀ value m, form.Reaches values p f value →
              f.info.RuleReports overrides value values m →
              Dict.get? (v.validate values) p = some m
                ∧ Dict.get? (v'.validate values) p = some m)
            ∧ ∀ m, Dict.get? (v'.validate values) p = some m →
              ∃ value, form.Reaches values p f value
                ∧ (f.info.RuleReports overrides value values m
                  ∨ f.info.CheckSays overrides check (value.getD .null) values m)) := by
  refine ⟨change?_eq_none_iff, fun form' hattach => ?_⟩
  obtain ⟨f, hfield⟩ : ∃ f, form.field? q = some f := by
    refine Option.ne_none_iff_exists'.mp fun hnone => ?_
    have hattach' : form.attach? q check = none := change?_eq_none_iff.mpr hnone
    rw [hattach] at hattach'
    cases hattach'
  have hstrip : form'.strip FieldInfo.withoutCheck = form.strip FieldInfo.withoutCheck :=
    strip_change? (fun info => info.withoutCheck_attach check) hattach
  refine ⟨f, hfield, fun values => ?_, fun overrides => ?_⟩
  · have hkeeps := (Strips.withoutCheck overrides₀).toKeepsOutline
    rw [← visibility_strip hkeeps, hstrip, visibility_strip hkeeps]
  obtain ⟨v, hv⟩ := exists_compile hc overrides
  obtain ⟨v', hv', hmap⟩ := exists_compile_attach? hv hattach
  have hname : ∀ w : FieldValidator, w.withoutCustom.name = w.name := fun _ => rfl
  have hdependencies : v'.dependencies = v.dependencies := by
    rw [← FormValidator.dependencies_map hname fun _ => rfl, hmap,
      FormValidator.dependencies_map hname fun _ => rfl]
  refine ⟨v, v', hv, hv', hdependencies, fun values p => ⟨?_, fun hp => ⟨?_, ?_⟩⟩⟩
  · exact get?_validate_attach?_of_not_pathOf hv hn hattach hv'
  · intro value m hf hrule
    obtain ⟨validator, hvalidator, -⟩ := validateAt_of_finds hv hn hf.finds
    have hm : validator.validate value values = some m :=
      (FieldValidator.validate_eq_some_iff hvalidator).mpr hrule.reports
    exact ⟨(get?_validate_iff hv hn).mpr ⟨f, value, validator, hf, hvalidator, hm⟩,
      (get?_validate_attach?_of_pathOf hv hn hattach hv' hp hfield).mpr
        ⟨value, hf, FieldInfo.reports_attach_iff.mpr (Or.inl hrule)⟩⟩
  · intro m hm
    obtain ⟨value, hf, hr⟩ :=
      (get?_validate_attach?_of_pathOf hv hn hattach hv' hp hfield).mp hm
    exact ⟨value, hf, (FieldInfo.reports_attach_iff.mp hr).imp_right fun hsays => hsays.2.2⟩

end Reader

namespace Contacts

/-- A text that has to be given. -/
def name : Field where
  info := { name := "name", kind := .text, required := true, messages := [("required", "who")] }
  itemSchema := none
  fields := []

/-- A text with a message for what a check finds. -/
def email : Field where
  info := { name := "email", kind := .text, messages := [("custom", "bad")] }
  itemSchema := none
  fields := []

/-- A list of such texts. -/
def contacts : Field where
  info := { name := "contacts", kind := .array }
  itemSchema := some [.field email]
  fields := []

/-- A name, and the list in a group. -/
def contactForm : Form where
  items := [.field name, .group {} [.field contacts]]

/-- A check that fails on every value. -/
def failing : CustomCheck := ⟨0, fun _ _ => .error (.failed "offline")⟩

theorem compiles : ∃ v, contactForm.compile [] = .ok v := ⟨_, rfl⟩

theorem hasPlainNames : contactForm.hasPlainNames = true := by decide

/-- One contact with an address, and no name. -/
def document : Json := .object [("contacts", .array [.object [("email", .string "a")]])]

/-- The contacts with the check at the addresses. -/
def attached : Form where
  items := [.field name, .group {} [.field { contacts with
    itemSchema := some [.field { email with info := email.info.attach failing }] }]]

theorem segments_email : Path.segments "contacts.email" = ["contacts", "email"] := by decide

theorem field?_email : contactForm.field? "contacts.email" = some email := by
  rw [Form.field?, show Text.pieces '.' "contacts.email" = _ from segments_email]
  rfl

theorem attach?_email : contactForm.attach? "contacts.email" failing = some attached := by
  rw [Form.attach?, Form.change?, field?_email,
    show Text.pieces '.' "contacts.email" = _ from segments_email]
  rfl

/-- The name is under no path of the address. -/
theorem not_pathOf_name : ¬ contactForm.PathOf "contacts.email" "name" := by
  rintro ⟨names, segments, f, h, hq, hp⟩
  obtain ⟨hnames, hsegments⟩ := h.isSegment (plainNames_declares hasPlainNames)
  have hq := segments_email ▸ congrArg Path.segments hq
  have hp : Path.segments "name" = Path.segments (Path.ofSegments segments) := congrArg _ hp
  rw [Path.segments_ofSegments h.ne_nil.1 hnames] at hq
  rw [Path.segments_ofSegments h.ne_nil.2 hsegments, Path.segments_of_isSegment (by decide)] at hp
  rw [← hq, ← hp] at h
  exact absurd (Expands.singleton_iff.mp h).2.2 (by simp)

theorem pathOf_email : contactForm.PathOf "contacts.email" "contacts.0.email" := by
  refine ⟨["contacts", "email"], ["contacts", toString 0, "email"], email, ?_, by decide, by decide⟩
  have hcontacts : Item.Declares contactForm.items contacts :=
    .group (List.mem_cons_of_mem _ List.mem_cons_self) (.field List.mem_cons_self)
  have hemail : Expands (Item.Declares [.field email]) ["email"] ["email"] email :=
    .here (Item.Declares.field List.mem_cons_self)
  exact .item hcontacts rfl rfl hemail

/-- A check that fails is reported for the address it is attached to; the name is asked for as
before. -/
theorem failing_check_reported : ∃ v v', contactForm.compile [] = .ok v
    ∧ contactForm.hasPlainNames = true
    ∧ contactForm.attach? "contacts.email" failing = some attached ∧ attached.compile [] = .ok v'
    ∧ contactForm.PathOf "contacts.email" "contacts.0.email"
    ∧ Dict.get? (v'.validate document) "contacts.0.email" = some "bad"
    ∧ (∃ value, contactForm.Reaches document "contacts.0.email" email value
      ∧ (email.info.RuleReports [] value document "bad"
        ∨ email.info.CheckSays [] failing (value.getD .null) document "bad"))
    ∧ ¬ contactForm.PathOf "contacts.email" "name"
    ∧ Dict.get? (v.validate document) "name" = some "who"
    ∧ Dict.get? (v'.validate document) "name" = some "who" := by
  obtain ⟨v, hc⟩ := compiles
  obtain ⟨-, hframe⟩ := Form.attach_frame hc hasPlainNames "contacts.email" failing
  obtain ⟨f, hfield, -, hall⟩ := hframe attached attach?_email
  obtain ⟨w, v', hw, hv', -, hmessages⟩ := hall []
  obtain rfl := Except.ok.inj (hw.symm.trans hc)
  obtain rfl : f = email := Option.some.inj (hfield.symm.trans field?_email)
  have hname : Dict.get? (w.validate document) "name" = some "who" := by
    obtain rfl := Except.ok.inj hc
    rfl
  have hemail : Dict.get? (v'.validate document) "contacts.0.email" = some "bad" := by
    obtain rfl := Except.ok.inj hv'
    rfl
  refine ⟨w, v', hc, hasPlainNames, attach?_email, hv', pathOf_email, hemail, ?_, not_pathOf_name,
    hname, ?_⟩
  · exact ((hmessages document "contacts.0.email").2 pathOf_email).2 "bad" hemail
  · rw [(hmessages document "name").1 not_pathOf_name, hname]

end Contacts
end FormLogic
