/-
  FormLogic.Proofs.Validation.Locate

  Locating a field by the segments of a path, against the descents of the
  form.

  Locating looks members up whatever is in their place, so that it follows
  every descent (`Descends.locate_eq`) and comes from a descent that opens
  all values (`exists_descends_of_locate`).  The second needs the positions
  of entries to be written plainly, since locating reads other spellings of
  a position as well.

    * `Form.validateAt_of_finds` — the message at the path of a field.
    * `Form.finds_of_validateAt` — a message has a field that is found there.
    * `Form.get?_validate_iff` — the messages of the whole form, from the
      fields that it reaches.
-/

import FormLogic.Proofs.Validation.Paths

namespace FormLogic

variable [PatternReader] {overrides : MessageOverrides} {fields : Field → Prop}
  {nodes : List Node} {scope : Json}

namespace FormValidator

/-! ## Steps of locating -/

theorem locate_here (hs : ScopeOf overrides fields nodes) {n : Node} (hn : n ∈ nodes) :
    locate nodes scope [n.name] = some (n.validator, Path.resolve scope n.name) := by
  rw [locate, hs.find?_name hn]

theorem locate_member (hs : ScopeOf overrides fields nodes) {n : Node} (hn : n ∈ nodes)
    (hscope : n.scope = .members) {rest : List String} (hne : rest ≠ []) :
    locate nodes scope (n.name :: rest) =
      locate n.children ((Path.resolve scope n.name).getD .null) rest := by
  cases rest with
  | nil => exact absurd rfl hne
  | cons segment after =>
    rw [locate, hs.find?_name hn]
    simp only [hscope]

theorem locate_item (hs : ScopeOf overrides fields nodes) {n : Node} (hn : n ∈ nodes)
    (hscope : n.scope = .entries) {entries : List Json} {entry : Json} {position : String}
    (hvalue : Path.resolve scope n.name = some (.array entries))
    (hentry : Path.itemAt? entries position = some entry) (rest : List String) :
    locate nodes scope (n.name :: position :: rest) = locate n.children entry rest := by
  simp [locate, hs.find?_name hn, hscope, hvalue, hentry]

end FormValidator

open FormValidator (locate)

/-! ## Descents are located -/

/-- Locating follows a descent to the validator of its field and to its value. -/
theorem Descends.locate_eq {opens : Option Json → Prop} {segments : List String} {f : Field}
    {value : Option Json} (h : Descends opens fields scope segments f value)
    (hs : ScopeOf overrides fields nodes) :
    ∃ validator, FieldValidator.compile overrides f.info = .ok validator
      ∧ locate nodes scope segments = some (validator, value) := by
  induction h generalizing nodes with
  | here hf =>
    obtain ⟨n, hn, hc⟩ := hs.node_of_field _ hf
    rw [← hc.name_eq]
    exact ⟨n.validator, hc.validator, FormValidator.locate_here hs hn⟩
  | member hf hk _ hrest ih =>
    obtain ⟨n, hn, hc⟩ := hs.node_of_field _ hf
    obtain ⟨hscope, hchildren⟩ := hc.members hk
    obtain ⟨validator, hv, hlocate⟩ := ih hchildren
    rw [← hc.name_eq] at hlocate ⊢
    exact ⟨validator, hv,
      (FormValidator.locate_member hs hn hscope hrest.ne_nil).trans hlocate⟩
  | @item _ _ _ _ _ _ _ _ entries i hf hk ht hvalue hentry _ ih =>
    obtain ⟨n, hn, hc⟩ := hs.node_of_field _ hf
    obtain ⟨hscope, items, ht', hchildren⟩ := hc.entries hk
    obtain rfl : items = _ := Option.some.inj (ht'.symm.trans ht)
    obtain ⟨validator, hv, hlocate⟩ := ih hchildren
    rw [← hc.name_eq] at hvalue ⊢
    -- the written position is read back to the entry that the descent takes
    rw [← Path.itemAt?_toString] at hentry
    exact ⟨validator, hv,
      (FormValidator.locate_item hs hn hscope hvalue hentry _).trans hlocate⟩

/-! ## What is located is descended to -/

omit [PatternReader] in
theorem mem_of_find?_name {name : String} {n : Node}
    (h : nodes.find? (fun m => m.name = name) = some n) : n ∈ nodes ∧ n.name = name :=
  ⟨List.mem_of_find?_eq_some h, by simpa using List.find?_some h⟩

/-- What locating finds by plain positions is descended to. -/
theorem exists_descends_of_locate {segments : List String} {validator : FieldValidator}
    {value : Option Json} (hs : ScopeOf overrides fields nodes)
    (hp : PlainPositions fields segments)
    (h : locate nodes scope segments = some (validator, value)) :
    ∃ f, Descends (fun _ => True) fields scope segments f value
      ∧ FieldValidator.compile overrides f.info = .ok validator := by
  -- the cases in which locating ends without a field come out as contradictions
  fun_induction locate nodes scope segments generalizing fields with
  | case1 nodes scope => cases h
  | case2 nodes scope name rest hfind => cases h
  | case3 nodes scope name node hfind =>
    obtain ⟨hn, rfl⟩ := mem_of_find?_name hfind
    obtain ⟨f, hf, hc⟩ := hs.field_of_node node hn
    obtain ⟨rfl, rfl⟩ := Prod.mk.inj (Option.some.inj h)
    have hd : Descends (fun _ => True) fields scope [f.info.name] f
        (Path.resolve scope f.info.name) := .here hf
    rw [← hc.name_eq] at hd
    exact ⟨f, hd, hc.validator⟩
  | case4 nodes scope name node hfind segment after hscope => cases h
  | case5 nodes scope name node hfind found segment after hscope =>
    rename_i ih
    obtain ⟨hn, rfl⟩ := mem_of_find?_name hfind
    obtain ⟨f, hf, hc⟩ := hs.field_of_node node hn
    have hk := hc.kind_of_members hscope
    rw [hc.name_eq] at hp
    obtain ⟨g, hd, hv⟩ := ih (hc.members hk).2 (hp.member hf hk) h
    have hd : Descends (fun _ => True) (· ∈ f.fields) ((Path.resolve scope f.info.name).getD .null)
        (segment :: after) g value := by
      rw [← hc.name_eq]
      exact hd
    rw [hc.name_eq]
    exact ⟨g, .member hf hk trivial hd, hv⟩
  | case6 nodes scope name node hfind found position after hscope entries hvalue entry hentry =>
    rename_i ih
    obtain ⟨hn, rfl⟩ := mem_of_find?_name hfind
    obtain ⟨f, hf, hc⟩ := hs.field_of_node node hn
    have hk := hc.kind_of_entries hscope
    obtain ⟨-, items, ht, hchildren⟩ := hc.entries hk
    have hvalue : Path.resolve scope f.info.name = some (.array entries) := by
      rw [← hc.name_eq]
      exact hvalue
    rw [hc.name_eq] at hp ⊢
    -- a plain position is the text of its number, as in the path of a descent
    obtain ⟨i, hi, hitem⟩ := Option.bind_eq_some_iff.mp hentry
    obtain rfl := Path.eq_toString_of_isPlain (hp.head hf hk) hi
    obtain ⟨g, hd, hv⟩ := ih hchildren (hp.item hf hk ht) h
    exact ⟨g, .item hf hk ht hvalue hitem hd, hv⟩
  | case7 => cases h
  | case8 => cases h

/-! ## Messages -/

namespace Form

variable {form : Form} {v : FormValidator} {values : Json} {path m : String} {f : Field}
  {value : Option Json}

omit [PatternReader] in
/-- What is reached is found: looking up more than objects finds more. -/
theorem Reaches.finds (h : form.Reaches values path f value) : form.Finds values path f value := by
  obtain ⟨segments, hd, hpath⟩ := h
  exact ⟨segments, hd.mono fun _ _ => trivial, hpath⟩

/-- The message at the path of a field that is found is that of the field's validator. -/
theorem validateAt_of_finds (hc : form.compile overrides = .ok v)
    (hn : form.hasPlainNames = true) (h : form.Finds values path f value) :
    ∃ validator, FieldValidator.compile overrides f.info = .ok validator
      ∧ v.validateAt path values = validator.validate value values := by
  obtain ⟨segments, hd, rfl⟩ := h
  obtain ⟨validator, hv, hlocate⟩ := hd.locate_eq (compile_scopeOf hc)
  refine ⟨validator, hv, ?_⟩
  rw [FormValidator.validateAt,
    Path.segments_ofSegments hd.ne_nil (hd.isSegment (plainNames_declares hn)), hlocate]
  rfl

/-- A message at a path of plain positions is that of a field that is found there. -/
theorem finds_of_validateAt (hc : form.compile overrides = .ok v)
    (hn : form.hasPlainNames = true)
    (hp : PlainPositions (Item.Declares form.items) (Path.segments path))
    (h : v.validateAt path values = some m) :
    ∃ f value validator, form.Finds values path f value
      ∧ FieldValidator.compile overrides f.info = .ok validator
      ∧ validator.validate value values = some m := by
  obtain ⟨⟨validator, value⟩, hlocate, hm⟩ := Option.bind_eq_some_iff.mp h
  obtain ⟨f, hd, hv⟩ := exists_descends_of_locate (compile_scopeOf hc) hp hlocate
  have hpath := Path.ofSegments_segments (hd.isSegment (plainNames_declares hn))
  exact ⟨f, value, validator, ⟨_, hd, hpath.symm⟩, hv, hm⟩

/-- Of the whole form there is a message under a path where a field is reached there whose
validator gives the message. -/
theorem get?_validate_iff (hc : form.compile overrides = .ok v)
    (hn : form.hasPlainNames = true) :
    Dict.get? (v.validate values) path = some m ↔
      ∃ f value validator, form.Reaches values path f value
        ∧ FieldValidator.compile overrides f.info = .ok validator
        ∧ validator.validate value values = some m := by
  rw [FormValidator.validate, FormValidator.get?_errorsOf_iff (nodup_visits hc hn false values)]
  constructor
  · rintro ⟨visit, hvisit, rfl, hm⟩
    obtain ⟨f, hf, hv⟩ := (mem_visits_iff hc).mp hvisit
    exact ⟨f, visit.value, visit.validator, hf, hv, hm⟩
  · rintro ⟨f, value, validator, hf, hv, hm⟩
    exact ⟨⟨path, value, validator⟩, (mem_visits_iff hc).mpr ⟨f, hf, hv⟩, rfl, hm⟩

end Form
end FormLogic
