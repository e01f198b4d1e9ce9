/-
  FormLogic.Proofs.Validation.Nulls

  Null members of a document in place of missing ones.

  A validator passes null over as it does a missing value, and the traversal
  descends into neither a list nor an object there but for the members of a
  missing object, which are missing as well.  So a document and the same
  document without some of its null members are visited in step: the same
  validators under the same paths, with values that are the same up to nulls
  further in.  No rule of a field looks further in than at the length of a
  list.

    * `FieldValidator.validate_without_nulls` — the message for one value.
    * `Node.inStep` — visits in step, by induction on the nodes.
    * `Form.validate_of_dropsNulls` — the messages of a form.
-/

import FormLogic.Proofs.Json.Nulls
import FormLogic.Proofs.Validation.Entries
import FormLogic.Proofs.Validation.Messages

namespace FormLogic

variable {overrides : MessageOverrides}

/-! ## One value -/

namespace Json.DropsNulls

variable {v w : Json}

theorem isEmpty_eq (h : v.DropsNulls w) :
    Condition.isEmpty (some v) = Condition.isEmpty (some w) := by
  cases h with
  | same _ => rfl
  | array hentries => cases hentries <;> rfl
  | object _ => rfl

theorem isBlank_eq (h : v.DropsNulls w) :
    FieldValidator.isBlank v = FieldValidator.isBlank w := by
  cases h <;> rfl

/-- A demand does not look at members, and of entries at nothing but how many there are. -/
theorem holds_eq (h : v.DropsNulls w) (d : Demand) : d.holds v = d.holds w := by
  cases h with
  | same _ => rfl
  | array hentries =>
    have hlength := hentries.length_eq
    cases d <;> simp [Demand.holds, Demand.ofText, Demand.ofNumber, Demand.ofList,
      Demand.isDateValue, Json.text?, Json.number?, Json.items?, Json.isString, Json.isBool,
      Json.isArray, Json.isObject, hlength]
  | object _ => cases d <;> rfl

theorem violation?_eq (h : v.DropsNulls w) (c : Check) : c.violation? v = c.violation? w := by
  rw [Check.violation?, Check.violation?, h.holds_eq]

end Json.DropsNulls

namespace FieldValidator

variable {v : FieldValidator}

/-- A validator without a custom check has one message for values that are the same up to nulls. -/
theorem validate_without_nulls (hcustom : v.custom = none) {value value' : Option Json}
    (h : (value.getD .null).DropsNulls (value'.getD .null)) (values : Json) :
    v.validate value values = v.validate value' values := by
  have hcheck : v.checkMessage? (value.getD .null) = v.checkMessage? (value'.getD .null) := by
    rw [checkMessage?, checkMessage?, h.isBlank_eq, Check.firstViolation?, Check.firstViolation?]
    simp only [h.violation?_eq]
  -- both are brought to values that are there, null for a missing one
  rw [← validate_getD_null v value, ← validate_getD_null v value', validate, validate,
    h.isEmpty_eq, hcustom]
  simp only [Option.getD_some, hcheck, Option.bind_none]

end FieldValidator

/-! ## Visits in step -/

/-- Two visits are alike: one validator under one path, with values that are the same up to nulls,
null counting for what is missing. -/
structure Visit.Alike (a b : Visit) : Prop where
  path : a.path = b.path
  validator : a.validator = b.validator
  value : (a.value.getD .null).DropsNulls (b.value.getD .null)

/-- Entries of two lists that are related one by one stand in the same positions. -/
theorem forall₂_zipIdx {α β : Type} {R : α → β → Prop} {xs : List α} {ys : List β}
    (h : List.Forall₂ R xs ys) (k : Nat) :
    List.Forall₂ (fun a b => R a.1 b.1 ∧ a.2 = b.2) (xs.zipIdx k) (ys.zipIdx k) := by
  induction h generalizing k with
  | nil => exact .nil
  | cons hxy _ ih => exact .cons ⟨hxy, rfl⟩ (ih (k + 1))

/-- Lists made of one list in two ways are related if what is made of each entry is. -/
theorem forall₂_flatMap {α β : Type} {R : β → β → Prop} {xs : List α} {g g' : α → List β}
    (h : ∀ x ∈ xs, List.Forall₂ R (g x) (g' x)) :
    List.Forall₂ R (xs.flatMap g) (xs.flatMap g') := by
  have hself : List.Forall₂ (fun x y => x ∈ xs ∧ x = y) xs xs :=
    List.forall₂_same.mpr fun _ hx => ⟨hx, rfl⟩
  refine List.rel_flatMap hself ?_
  rintro x _ ⟨hx, rfl⟩
  exact h x hx

namespace Json.DropsNulls

variable {v w : Json}

/-- Members are looked up in both values or in neither. -/
theorem memberScope_cases (h : v.DropsNulls w) :
    (memberScope (some v) = none ∧ memberScope (some w) = none)
      ∨ (memberScope (some v) = some v ∧ memberScope (some w) = some w) := by
  cases h with
  | same _ => cases v <;> simp [memberScope]
  | array _ => exact Or.inl ⟨rfl, rfl⟩
  | object _ => exact Or.inr ⟨rfl, rfl⟩

/-- The entries of both values are related one by one; there are none but in lists. -/
theorem items (h : v.DropsNulls w) :
    List.Forall₂ DropsNulls (v.items?.getD []) (w.items?.getD []) := by
  cases h with
  | same _ => exact List.forall₂_same.mpr fun x _ => .same x
  | array hentries => exact hentries
  | object _ => exact .nil

end Json.DropsNulls

/-- A node is visited in step: alike from every two scopes that are the same up to nulls, whatever
the values around. -/
def Node.InStep (n : Node) : Prop :=
  ∀ (scope scope' around around' : Json) (path : String), scope.isOrdered = true →
    scope.DropsNulls scope' →
    List.Forall₂ Visit.Alike (Node.visits false scope around path n)
      (Node.visits false scope' around' path n)

/-- The children of a node stand for fields with plain names, where the node does. -/
theorem Field.CompilesTo.field_of_child [PatternReader] {f : Field} {n c : Node}
    (h : f.CompilesTo overrides n)
    (hf : f.hasPlainNames = true) (hc : c ∈ n.children) :
    ∃ g : Field, g.hasPlainNames = true ∧ g.CompilesTo overrides c := by
  obtain ⟨-, htemplate, hmembers⟩ := Field.hasPlainNames_iff.mp hf
  cases hk : f.info.kind
  case array =>
    obtain ⟨-, items, ht, hscope⟩ := h.entries hk
    obtain ⟨g, hg, hgc⟩ := hscope.field_of_node c hc
    exact ⟨g, plainNames_declares (htemplate items ht) g hg, hgc⟩
  case object =>
    obtain ⟨g, hg, hgc⟩ := (h.members hk).2.field_of_node c hc
    exact ⟨g, plainNames_of_all hmembers g hg, hgc⟩
  all_goals
    obtain ⟨_, _, _, h⟩ := h
    cases (Field.compile_cases h).2.2.2 with
    | entries hk' _ _ _ => simp [hk] at hk'
    | members hk' _ _ => simp [hk] at hk'
    | nowhere _ _ _ hnone => simp [hnone] at hc

namespace Node

variable {visibleOnly : Bool} {scope scope' around : Json} {path : String} {n : Node}

/-- Null stands for a missing object. -/
theorem visitsBelow_members (hs : n.scope = .members) :
    n.visitsBelow visibleOnly scope around path =
      match memberScope (some ((Path.resolve scope n.name).getD .null)) with
      | some inner => visitsAll visibleOnly inner around (Path.join path n.name) n.children
      | none => [] := by
  simp only [visitsBelow, hs]
  cases Path.resolve scope n.name <;> rfl

/-- What is no list has no entries. -/
theorem visitsBelow_entries (hs : n.scope = .entries) :
    n.visitsBelow visibleOnly scope around path =
      (((Path.resolve scope n.name).getD .null).items?.getD []).zipIdx.flatMap fun (entry, i) =>
        visitsAll visibleOnly entry entry (Path.join (Path.join path n.name) (toString i))
          n.children := by
  simp only [visitsBelow, hs]
  cases Path.resolve scope n.name with
  | none => rfl
  | some value => cases value <;> rfl

/-- Below a node there are visits alike if each of its children is visited in step. -/
theorem forall₂_visitsBelow (hname : Path.isSegment n.name = true)
    (hchildren : ∀ c ∈ n.children, c.InStep) (hscope : scope.isOrdered = true)
    (h : scope.DropsNulls scope') (around around' : Json) (path : String) :
    List.Forall₂ Visit.Alike (n.visitsBelow false scope around path)
      (n.visitsBelow false scope' around' path) := by
  have hvalue := h.resolve hscope hname
  have hordered := Json.isOrdered_resolve hscope hname
  have hall : ∀ (inner inner' around around' : Json) (path : String), inner.isOrdered = true →
      inner.DropsNulls inner' →
      List.Forall₂ Visit.Alike (visitsAll false inner around path n.children)
        (visitsAll false inner' around' path n.children) := by
    intro inner inner' around around' path hinner h
    rw [visitsAll_eq_flatMap, visitsAll_eq_flatMap]
    exact forall₂_flatMap fun c hc => hchildren c hc inner inner' around around' path hinner h
  cases hs : n.scope with
  | nowhere =>
    simp only [visitsBelow, hs]
    exact .nil
  | members =>
    rw [visitsBelow_members hs, visitsBelow_members hs]
    rcases hvalue.memberScope_cases with ⟨hnone, hnone'⟩ | ⟨hsome, hsome'⟩
    · rw [hnone, hnone']
      exact .nil
    · rw [hsome, hsome']
      exact hall _ _ around around' _ hordered hvalue
  | entries =>
    rw [visitsBelow_entries hs, visitsBelow_entries hs]
    -- entries keep their positions, and with them their paths
    have hentries := (List.forall₂_and_left _ _).mpr
      ⟨fun entry hentry => Json.isOrdered_items hordered hentry, hvalue.items⟩
    refine List.rel_flatMap (forall₂_zipIdx hentries 0) ?_
    rintro ⟨entry, i⟩ ⟨entry', j⟩ ⟨⟨hentry, hdrops⟩, hij⟩
    obtain rfl : i = j := hij
    exact hall entry entry' entry entry' _ hentry hdrops

/-- The nodes of fields with plain names are visited in step. -/
theorem inStep [PatternReader] {f : Field} (hf : f.hasPlainNames = true)
    (hn : f.CompilesTo overrides n) :
    n.InStep := by
  induction n using Node.childInduction generalizing f with
  | step n ih =>
    intro scope scope' around around' path hscope h
    have hname : Path.isSegment n.name = true :=
      hn.name_eq ▸ (Field.hasPlainNames_iff.mp hf).1
    have hchildren : ∀ c ∈ n.children, c.InStep := by
      intro c hc
      obtain ⟨g, hg, hgc⟩ := hn.field_of_child hf hc
      exact ih c hc hg hgc
    -- no gate is asked, so that the values around may differ
    have hshown : ∀ around, false = true → n.isVisible around = true := nofun
    rw [visits_of_shown (hshown around), visits_of_shown (hshown around')]
    exact List.rel_append (forall₂_visitsBelow hname hchildren hscope h around around' path)
      (.cons ⟨rfl, rfl, h.resolve hscope hname⟩ .nil)

end Node

/-- A form is visited in step on two documents that are the same up to nulls. -/
theorem Form.forall₂_visits [PatternReader] {form : Form} {v : FormValidator}
    {values values' : Json} (hc : form.compile overrides = .ok v)
    (hn : form.hasPlainNames = true) (hordered : values.isOrdered = true)
    (h : values.DropsNulls values') :
    List.Forall₂ Visit.Alike (v.visits false values) (v.visits false values') := by
  rw [FormValidator.visits, FormValidator.visits, Node.visitsAll_eq_flatMap,
    Node.visitsAll_eq_flatMap]
  refine forall₂_flatMap fun n hmem => ?_
  obtain ⟨f, hf, hfn⟩ := (compile_scopeOf hc).field_of_node n hmem
  exact Node.inStep (plainNames_declares hn f hf) hfn values values' values values' "" hordered h

/-! ## Messages -/

/-- Visits with the same findings, one by one, have the same messages. -/
theorem FormValidator.errorsOf_of_forall₂ {visits visits' : List Visit} {values values' : Json}
    (h : List.Forall₂ (fun a b => Visit.finding? a values = Visit.finding? b values') visits
      visits') : errorsOf visits values = errorsOf visits' values' := by
  have hfindings : visits.filterMap (·.finding? values)
      = visits'.filterMap (·.finding? values') := by
    induction h with
    | nil => rfl
    | cons hab _ ih => rw [List.filterMap_cons, List.filterMap_cons, hab, ih]
  rw [errorsOf, errorsOf, hfindings]

/-! ## Two orders without texts -/

namespace Orders

/-- No field of the form has rules. -/
theorem isLocal (segments : List String) (g : Field)
    (h : Leads (Item.Declares orderForm.items) segments g) : g.info.IsLocal := by
  have hfield : g = orders ∨ g = item ∨ g = sku := by
    refine h.satisfies (P := fun g => g = orders ∨ g = item ∨ g = sku) ?_ ?_ ?_
    · intro g hg
      exact Or.inl (by simpa [orderForm] using hg)
    · rintro _ (rfl | rfl | rfl) g hg
      · cases hg
      · exact Or.inr (Or.inr (List.mem_singleton.mp hg))
      · cases hg
    · rintro _ items (rfl | rfl | rfl) ht g hg
      · obtain rfl := Option.some.inj ht
        exact Or.inr (Or.inl (by simpa using hg))
      · cases ht
      · cases ht
  rcases hfield with rfl | rfl | rfl <;> exact FieldInfo.isLocal_of_rules_eq_none rfl

/-- An item without a text, and an order without an item, each written as null. -/
def nulls : Json :=
  .object [("note", .null),
    ("orders", .array [.object [("item", .object [("sku", .null)])], .object [("item", .null)]])]

/-- The same orders without the nulls. -/
def withoutNulls : Json :=
  .object [("orders", .array [.object [("item", .object [])], .object []])]

theorem dropsNulls : nulls.DropsNulls withoutNulls := by
  have hfirst : Json.DropsNulls (.object [("item", .object [("sku", .null)])])
      (.object [("item", .object [])]) := .object (.keep (.object (.drop .nil)) .nil)
  have hsecond : Json.DropsNulls (.object [("item", .null)]) (.object []) :=
    .object (.drop .nil)
  exact .object (.drop (.keep (.array (.cons hfirst (.cons hsecond .nil))) .nil))

theorem reaches_null_sku :
    orderForm.Reaches nulls "orders.0.item.sku" sku (some .null) :=
  ⟨["orders", toString 0, "item", "sku"], descends_sku rfl rfl (.object _) rfl, by decide⟩

end Orders

/-! ## Main statement -/

/-- Where every field of a form, at any depth, looks at its own value alone, with no requirement
under a condition or computed and no check attached, null members of a document can be left out, at
any depth, without a change to its messages. -/
theorem Form.validate_of_dropsNulls [PatternReader] {form : Form} {v : FormValidator}
    {values values' : Json} (hc : form.compile overrides = .ok v) (hn : form.hasPlainNames = true)
    (hlocal : ∀ segments g, Leads (Item.Declares form.items) segments g → g.info.IsLocal)
    (hordered : values.isOrdered = true) (h : values.DropsNulls values') :
    v.validate values' = v.validate values := by
  have hlocals : ∀ visit ∈ v.visits false values, ∃ info, FieldInfo.IsLocal info
      ∧ FieldValidator.compile overrides info = .ok visit.validator := by
    intro visit hvisit
    obtain ⟨g, ⟨segments, hd, -⟩, hv⟩ := reaches_of_mem_visits hc hvisit
    exact ⟨g.info, hlocal segments g hd.leads, hv⟩
  have halike := (List.forall₂_and_left _ _).mpr ⟨hlocals, forall₂_visits hc hn hordered h⟩
  -- no check tells the values of two visits apart that are alike, and no field what is around
  refine (FormValidator.errorsOf_of_forall₂ (halike.imp ?_)).symm
  rintro a b ⟨⟨info, hinfo, hv⟩, hab⟩
  rw [Visit.finding?, Visit.finding?, ← hab.path, ← hab.validator,
    FieldValidator.validate_without_nulls (FieldValidator.custom_of_isLocal hv hinfo) hab.value,
    FieldValidator.validate_of_isLocal hv hinfo _ values values']

/-- The text written as null is asked for, and no less where it is left out. -/
theorem Orders.validate_withoutNulls : ∃ v, orderForm.compile [] = .ok v
    ∧ orderForm.hasPlainNames = true
    ∧ (∀ segments g, Leads (Item.Declares orderForm.items) segments g → g.info.IsLocal)
    ∧ nulls.isOrdered = true ∧ nulls.DropsNulls withoutNulls
    ∧ Dict.get? (v.validate nulls) "orders.0.item.sku" = some demand
    ∧ Dict.get? (v.validate withoutNulls) "orders.0.item.sku" = some demand := by
  obtain ⟨v, hc⟩ := compiles
  have hordered : nulls.isOrdered = true := by decide
  have hasked := get?_validate_sku hc reaches_null_sku .null
  have hsame := Form.validate_of_dropsNulls hc hasPlainNames isLocal hordered dropsNulls
  exact ⟨v, hc, hasPlainNames, isLocal, hordered, dropsNulls, hasked, hsame ▸ hasked⟩

end FormLogic
