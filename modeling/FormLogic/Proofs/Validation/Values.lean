/-
  FormLogic.Proofs.Validation.Values

  The value that a validator is handed, against the value at its path.

  The traversal looks up one name at a time, in a scope that moves on with
  every field: into the members of an object, null standing for a missing
  one, or into an entry of a list.  Its path grows by the same names and
  positions.  So the value of a descent is where its segments lead from the
  outermost scope, and that is what looking up the joined path finds, as long
  as no name of the document can be taken for a whole path.

    * `Descends.value_eq_walk` — by induction on the descent.
    * `Form.resolve_visit_path` — what is visited is found at its path.
    * `Form.values_found_at_paths` — messages and conditions are about it.
-/

import FormLogic.Proofs.Condition.Meaning
import FormLogic.Proofs.Path.Lookup
import FormLogic.Proofs.Validation.Messages

namespace FormLogic

variable {overrides : MessageOverrides} {visibleOnly : Bool}

/-! ## Values of descents -/

/-- A descent has the value that its segments lead to. -/
theorem Descends.value_eq_walk {opens : Option Json → Prop} {fields : Field → Prop} {scope : Json}
    {segments : List String} {f : Field} {value : Option Json}
    (h : Descends opens fields scope segments f value) (hn : PlainNames fields) :
    value = Path.walk scope segments := by
  induction h with
  | here hf =>
    rw [Path.walk_singleton]
    exact Path.resolve_of_isSegment (hn.isSegment hf)
  | member hf _ _ hrest ih =>
    rw [ih (hn.members hf), Path.resolve_of_isSegment (hn.isSegment hf), Path.walk]
    cases Path.step _ _ with
    | some w => rfl
    | none =>
      -- a missing object leaves null, in which no segment leads anywhere
      obtain ⟨s, rest, rfl⟩ := List.exists_cons_of_ne_nil hrest.ne_nil
      rfl
  | @item _ _ entry f _ _ _ _ entries i hf _ ht hvalue hentry _ ih =>
    rw [Path.resolve_of_isSegment (hn.isSegment hf)] at hvalue
    have hposition : Path.step (.array entries) (toString i) = some entry := by
      rw [Path.step, Path.itemAt?_toString]
      exact hentry
    rw [ih (hn.template hf ht), Path.walk, hvalue, Option.bind_some, Path.walk, hposition]
    rfl

/-- What is visited in a form is the value at its path. -/
theorem Form.resolve_visit_path [PatternReader] {form : Form} {v : FormValidator} {values : Json}
    {visit : Visit} (hc : form.compile overrides = .ok v) (hn : form.hasPlainNames = true)
    (hnames : values.hasUndottedNames = true) (hvisit : visit ∈ v.visits visibleOnly values) :
    Path.resolve values visit.path = visit.value := by
  obtain ⟨g, ⟨segments, hd, hpath⟩, -⟩ := reaches_of_mem_visits hc hvisit
  have hplain := plainNames_declares hn
  have hsegments := hd.isSegment hplain
  rw [hpath, Path.resolve_eq_walk hnames (Path.ofSegments_ne_empty hd.ne_nil hsegments),
    Path.segments_ofSegments hd.ne_nil hsegments, ← hd.value_eq_walk hplain]

/-! ## Messages and conditions -/

/-- A check holds of two documents alike if it finds one value in them, wherever it looks. -/
theorem Condition.holds_with_field {c : Condition} {d d' : Json} {q : String}
    (h : Path.resolve d c.field = Path.resolve d' q) :
    c.holds d = { c with field := q }.holds d' := by
  rw [holds, holds, h]

/-- A compact condition on one path is about the value there. -/
theorem CompactConditions.holds_singleton (path : String) (expected d : Json) :
    holds [(path, expected)] d = entryHolds (Path.resolve d path) expected := by
  simp [holds]

/-- The messages of visits are those of the values at their paths. -/
theorem Form.get?_errorsOf_iff_resolve [PatternReader] {form : Form} {v : FormValidator}
    {values : Json} (hc : form.compile overrides = .ok v) (hn : form.hasPlainNames = true)
    (hnames : values.hasUndottedNames = true) {path m : String} :
    Dict.get? (FormValidator.errorsOf (v.visits visibleOnly values) values) path = some m ↔
      ∃ visit ∈ v.visits visibleOnly values, visit.path = path
        ∧ visit.validator.validate (Path.resolve values path) values = some m := by
  rw [FormValidator.get?_errorsOf_iff (nodup_visits hc hn visibleOnly values)]
  refine exists_congr fun visit => and_congr_right fun hvisit => and_congr_right fun hpath => ?_
  rw [← hpath, resolve_visit_path hc hn hnames hvisit]

/-! ## An order with an item -/

namespace Orders

theorem reaches_first_sku :
    orderForm.Reaches incomplete "orders.0.item.sku" sku (some (.string "a")) :=
  ⟨["orders", toString 0, "item", "sku"], descends_sku rfl rfl (.object _) rfl, by decide⟩

/-- The text is a certain one. -/
def isChosen : Condition :=
  { field := "orders.0.item.sku", operator := .equals, value := some (.string "a") }

end Orders

/-! ## Main statement -/

/-- Whether all fields of a form are validated or those that are shown: each validator is handed
the value at the path that its message is put under, or none where there is none.  So the messages
are those of the values at their paths.  A condition on the path sees that value: it answers as on
any document that has the value where the condition looks. -/
theorem Form.values_found_at_paths [PatternReader] {form : Form} {v : FormValidator} {values : Json}
    (hc : form.compile overrides = .ok v) (hn : form.hasPlainNames = true)
    (hnames : values.hasUndottedNames = true) :
    (∀ visibleOnly, ∀ visit ∈ v.visits visibleOnly values,
      visit.value = Path.resolve values visit.path
      ∧ (∀ c : Condition, c.field = visit.path → ∀ document q,
        Path.resolve document q = visit.value →
        c.holds values = { c with field := q }.holds document)
      ∧ ∀ expected, CompactConditions.holds [(visit.path, expected)] values
        = CompactConditions.entryHolds visit.value expected)
    ∧ (∀ path m, Dict.get? (v.validate values) path = some m ↔
      ∃ visit ∈ v.visits false values, visit.path = path
        ∧ visit.validator.validate (Path.resolve values path) values = some m)
    ∧ ∀ path m, Dict.get? (v.validateVisible values) path = some m ↔
      ∃ visit ∈ v.visits true values, visit.path = path
        ∧ visit.validator.validate (Path.resolve values path) values = some m := by
  refine ⟨fun visibleOnly visit hvisit => ?_, fun _ _ => get?_errorsOf_iff_resolve hc hn hnames,
    fun _ _ => get?_errorsOf_iff_resolve hc hn hnames⟩
  have hvalue := resolve_visit_path hc hn hnames hvisit
  refine ⟨hvalue.symm, fun c hfield document q hq => ?_, fun expected => ?_⟩
  · exact Condition.holds_with_field (by rw [hfield, hvalue, hq])
  · rw [CompactConditions.holds_singleton, hvalue]

/-- The text of the first order is handed to its validator, and none for the second, which has no
item; a condition on the first path answers as on the text alone. -/
theorem Orders.skus_found_at_paths : ∃ v validator, orderForm.compile [] = .ok v
    ∧ orderForm.hasPlainNames = true ∧ incomplete.hasUndottedNames = true
    ∧ ⟨"orders.0.item.sku", some (.string "a"), validator⟩ ∈ v.visits false incomplete
    ∧ Path.resolve incomplete "orders.0.item.sku" = some (.string "a")
    ∧ isChosen.holds incomplete
      = { isChosen with field := "sku" }.holds (.object [("sku", .string "a")])
    ∧ ⟨"orders.1.item.sku", none, validator⟩ ∈ v.visits false incomplete
    ∧ Path.resolve incomplete "orders.1.item.sku" = none := by
  obtain ⟨v, hc⟩ := compiles
  obtain ⟨validator, hv⟩ : ∃ validator, FieldValidator.compile [] sku.info = .ok validator :=
    ⟨_, rfl⟩
  have hnames : incomplete.hasUndottedNames = true := by decide
  have hfirst : ⟨"orders.0.item.sku", some (.string "a"), validator⟩ ∈ v.visits false incomplete :=
    (Form.mem_visits_iff hc).mpr ⟨sku, reaches_first_sku, hv⟩
  have hsecond : ⟨"orders.1.item.sku", none, validator⟩ ∈ v.visits false incomplete :=
    (Form.mem_visits_iff hc).mpr ⟨sku, reaches_sku, hv⟩
  obtain ⟨hvisits, -⟩ := Form.values_found_at_paths hc hasPlainNames hnames
  obtain ⟨hvalue, hcondition, -⟩ := hvisits false _ hfirst
  exact ⟨v, validator, hc, hasPlainNames, hnames, hfirst, hvalue.symm,
    hcondition isChosen rfl _ "sku" (Path.resolve_member (by decide) _), hsecond,
    (hvisits false _ hsecond).1.symm⟩

end FormLogic
