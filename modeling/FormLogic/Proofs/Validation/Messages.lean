/-
  FormLogic.Proofs.Validation.Messages

  The messages of a form: of the whole form by path, and of one field at its
  path.

    * `Form.message_iff_reports` — compiling and running a form is the same as
      reading the messages off its description.
    * `Form.required_given_iff` — what a form without messages says of the
      values that are required.
    * `Form.validateAt_of_message` — a message of the whole form is also found
      at its path.
    * `Form.message_iff_objects_open` — when a message at a path is one of the
      whole form.

  The passes differ in one place.  The traversal of the whole form descends
  into an object field whose value is an object, null or missing; locating a
  path descends whatever the value is.
-/

import FormLogic.Pattern.Parser
import FormLogic.Proofs.Validation.Ancestors
import FormLogic.Proofs.Validation.Locate

namespace FormLogic

/-- An object field that reports nothing opens its members or holds the empty text, which its
rules pass over. -/
theorem FieldInfo.opensMembers_or_emptyText [PatternReader] {overrides : MessageOverrides}
    {info : FieldInfo} {w : Option Json} {values : Json} (hk : info.kind = .object)
    (h : ∀ m, ¬ info.Reports overrides w values m) : OpensMembers w ∨ w = some (.string "") := by
  -- the only rule of the kind is that the value is an object
  have hd : ¬ (Vacant w ∧ info.Demanded values) := fun hd => h _ (.demanded hd.1 hd.2)
  cases w with
  | none => exact Or.inl .missing
  | some v =>
    by_cases hp : PassedOver v
    · rcases hp with rfl | rfl
      · exact Or.inl .null
      · exact Or.inr rfl
    · by_cases hb : info.Breaks v .object
      · have hfirst : info.FirstBroken v .object :=
          ⟨[], [], by rw [hk]; rfl, hb, fun _ hmem => absurd hmem List.not_mem_nil⟩
        exact absurd (.broken hd rfl hp hfirst) (h _)
      · obtain ⟨members, hmembers⟩ := not_forall_not.mp hb
        exact Or.inl (hmembers ▸ .object members)

namespace Form

variable [PatternReader] {overrides : MessageOverrides} {form : Form} {v : FormValidator}
  {values : Json} {path q m : String} {f g : Field} {value w : Option Json}

/-- What a field reports that a form reaches is a message of the form. -/
theorem get?_validate_of_reports (hc : form.compile overrides = .ok v)
    (hn : form.hasPlainNames = true) (hf : form.Reaches values path f value)
    (hr : f.info.Reports overrides value values m) :
    Dict.get? (v.validate values) path = some m := by
  obtain ⟨validator, hv, -⟩ := validateAt_of_finds hc hn hf.finds
  exact (get?_validate_iff hc hn).mpr
    ⟨f, value, validator, hf, hv, (FieldValidator.validate_eq_some_iff hv).mpr hr⟩

/-- Where a form has no message, no field that it reaches reports one. -/
theorem not_reports_of_validate_eq_nil (hc : form.compile overrides = .ok v)
    (hn : form.hasPlainNames = true) (hvalid : v.validate values = [])
    (hf : form.Reaches values path f value) (m : String) :
    ¬ f.info.Reports overrides value values m := by
  intro hr
  have hget := get?_validate_of_reports hc hn hf hr
  rw [hvalid] at hget
  cases hget

end Form

/-! ## A form of orders -/

namespace Orders

/-- A text that has to be given. -/
def sku : Field where
  info := { name := "sku", kind := .text, required := true }
  itemSchema := none
  fields := []

/-- An object with the text as its member. -/
def item : Field where
  info := { name := "item", kind := .object }
  itemSchema := none
  fields := [sku]

/-- A list with such an object in every entry. -/
def orders : Field where
  info := { name := "orders", kind := .array }
  itemSchema := some [.field item]
  fields := []

/-- The list in a group. -/
def orderForm : Form where
  items := [.group {} [.field orders]]

theorem compiles : ∃ v, orderForm.compile [] = .ok v := ⟨_, rfl⟩

theorem hasPlainNames : orderForm.hasPlainNames = true := by decide

theorem declares_orders : Item.Declares orderForm.items orders :=
  .group List.mem_cons_self (.field List.mem_cons_self)

theorem declares_item : Item.Declares [.field item] item := .field List.mem_cons_self

/-- One order with its item. -/
def complete : Json :=
  .object [("orders", .array [.object [("item", .object [("sku", .string "a")])]])]

/-- The text of an order is descended to through the list and the item. -/
theorem descends_sku {opens : Option Json → Prop} {values entry : Json} {entries : List Json}
    {i : Nat} {value : Option Json}
    (horders : Path.resolve values "orders" = some (.array entries))
    (hentry : entries[i]? = some entry) (hitem : opens (Path.resolve entry "item"))
    (hvalue : Path.resolve ((Path.resolve entry "item").getD .null) "sku" = value) :
    Descends opens (Item.Declares orderForm.items) values ["orders", toString i, "item", "sku"] sku
      value := by
  subst hvalue
  exact .item declares_orders rfl rfl horders hentry
    (.member declares_item rfl hitem (.here List.mem_cons_self))

theorem finds_sku : orderForm.Finds complete "orders.0.item.sku" sku (some (.string "a")) :=
  ⟨["orders", toString 0, "item", "sku"], descends_sku rfl rfl trivial rfl, by decide⟩

theorem validate_complete {v : FormValidator} (hc : orderForm.compile [] = .ok v) :
    v.validate complete = [] := by
  obtain rfl := Except.ok.inj hc
  rfl

/-- An order with its item, and one without. -/
def incomplete : Json :=
  .object [("orders", .array [.object [("item", .object [("sku", .string "a")])], .object []])]

theorem reaches_sku : orderForm.Reaches incomplete "orders.1.item.sku" sku none :=
  ⟨["orders", toString 1, "item", "sku"], descends_sku rfl rfl .missing rfl, by decide⟩

/-- The message that asks for the text. -/
def demand : String := sku.info.ruleMessage [] .required

theorem reports_demand : sku.info.Reports [] none incomplete demand :=
  .demanded .missing (Or.inl rfl)

/-- A text that is reached and not given is asked for. -/
theorem get?_validate_sku {v : FormValidator} (hc : orderForm.compile [] = .ok v) {values : Json}
    {path : String} {value : Option Json} (hf : orderForm.Reaches values path sku value)
    (hvacant : Vacant value) : Dict.get? (v.validate values) path = some demand :=
  Form.get?_validate_of_reports hc hasPlainNames hf (.demanded hvacant (Or.inl rfl))

/-- The text of the second order is asked for. -/
theorem get?_validate_incomplete {v : FormValidator} (hc : orderForm.compile [] = .ok v) :
    Dict.get? (v.validate incomplete) "orders.1.item.sku" = some demand :=
  get?_validate_sku hc reaches_sku .missing

theorem validateAt_incomplete {v : FormValidator} (hc : orderForm.compile [] = .ok v) :
    v.validateAt "orders.1.item.sku" incomplete = some demand := by
  obtain ⟨validator, hv, hat⟩ := Form.validateAt_of_finds hc hasPlainNames reaches_sku.finds
  exact hat.trans ((FieldValidator.validate_eq_some_iff hv).mpr reports_demand)

end Orders

/-! ## A form of an address -/

namespace Address

/-- A text that has to be given. -/
def city : Field where
  info := { name := "city", kind := .text, required := true }
  itemSchema := none
  fields := []

/-- An object with the text as its member. -/
def address : Field where
  info := { name := "address", kind := .object }
  itemSchema := none
  fields := [city]

/-- The object alone. -/
def addressForm : Form where
  items := [.field address]

theorem compiles : ∃ v, addressForm.compile [] = .ok v := ⟨_, rfl⟩

theorem hasPlainNames : addressForm.hasPlainNames = true := by decide

/-- The city is missing in what has no members. -/
theorem finds_city {w : Json} (hw : Path.resolve w "city" = none) :
    addressForm.Finds (.object [("address", w)]) "address.city" city none := by
  refine ⟨["address", "city"], ?_, by decide⟩
  have hcity : Descends (fun _ => True) (· ∈ address.fields) w ["city"] city
      (Path.resolve w "city") := .here List.mem_cons_self
  rw [hw] at hcity
  have haddress : Item.Declares addressForm.items address := .field List.mem_cons_self
  exact .member haddress rfl trivial hcity

end Address

/-! ## Main statements -/

variable {overrides : MessageOverrides} {form : Form} {v : FormValidator} {values : Json}
  {path m : String} {f : Field} {value : Option Json}

/-- A whole form has a message under a path exactly where a field that its description reaches
there reports the message. -/
theorem Form.message_iff_reports [PatternReader] (hc : form.compile overrides = .ok v)
    (hn : form.hasPlainNames = true) :
    Dict.get? (v.validate values) path = some m ↔
      ∃ f value, form.Reaches values path f value ∧ f.info.Reports overrides value values m := by
  rw [get?_validate_iff hc hn]
  constructor
  · rintro ⟨f, value, validator, hf, hv, hm⟩
    exact ⟨f, value, hf, (FieldValidator.validate_eq_some_iff hv).mp hm⟩
  · rintro ⟨f, value, hf, hr⟩
    obtain ⟨validator, hv, -⟩ := validateAt_of_finds hc hn hf.finds
    exact ⟨f, value, validator, hf, hv, (FieldValidator.validate_eq_some_iff hv).mpr hr⟩

/-- The second order of an incomplete document reports its missing text. -/
theorem Orders.missing_sku_reported : ∃ v, orderForm.compile [] = .ok v
    ∧ orderForm.hasPlainNames = true
    ∧ ∃ f value, orderForm.Reaches incomplete "orders.1.item.sku" f value
      ∧ f.info.Reports [] value incomplete demand := by
  obtain ⟨v, hc⟩ := compiles
  exact ⟨v, hc, hasPlainNames,
    (Form.message_iff_reports hc hasPlainNames).mp (get?_validate_incomplete hc)⟩

/-- Where a form has no message, a required field is given exactly if no object field above it
holds the empty text. -/
theorem Form.required_given_iff [PatternReader] (hc : form.compile overrides = .ok v)
    (hn : form.hasPlainNames = true) (hvalid : v.validate values = [])
    (hf : form.Finds values path f value) (hr : f.info.required = true) :
    ¬ Vacant value ↔ ∀ q g w, form.Reaches values q g w → g.info.kind = .object →
      Path.Above q path → w ≠ some (.string "") := by
  constructor
  · rintro hgiven q g w hg hk ha rfl
    -- below a text every name is missing, also that of the required field
    obtain ⟨-, rest, hd⟩ := ComesTo.through hc hn hf hg hk ha
    obtain rfl : value = none := hd.value_eq_none (Or.inr ⟨"", rfl⟩)
    exact hgiven .missing
  · intro htext hvacant
    -- without a message the objects above can hold nothing else, so that the field is reached
    have hreach : form.Reaches values path f value := by
      refine reaches_of_finds hn hf ?_
      intro q g w hg hk ha
      rcases FieldInfo.opensMembers_or_emptyText hk
        (not_reports_of_validate_eq_nil hc hn hvalid hg) with ho | hempty
      · exact ho
      · exact absurd hempty (htext q g w hg hk ha)
    exact not_reports_of_validate_eq_nil hc hn hvalid hreach _ (.demanded hvacant (Or.inl hr))

/-- In a complete document nothing above the text is empty. -/
theorem Orders.no_empty_text_above_sku : ∃ v, orderForm.compile [] = .ok v
    ∧ orderForm.hasPlainNames = true ∧ v.validate complete = []
    ∧ orderForm.Finds complete "orders.0.item.sku" sku (some (.string "a"))
    ∧ sku.info.required = true
    ∧ ∀ q g w, orderForm.Reaches complete q g w → g.info.kind = .object →
      Path.Above q "orders.0.item.sku" → w ≠ some (.string "") := by
  obtain ⟨v, hc⟩ := compiles
  have hgiven : ¬ Vacant (some (.string "a")) :=
    fun h => absurd (isEmpty_iff_vacant.mpr h) (by decide)
  exact ⟨v, hc, hasPlainNames, validate_complete hc, finds_sku, rfl,
    (Form.required_given_iff hc hasPlainNames (validate_complete hc) finds_sku rfl).mp hgiven⟩

/-- The empty text in place of an object hides that a required member is missing. -/
theorem Address.city_missing_below_empty_text : ∃ v, addressForm.compile [] = .ok v
    ∧ addressForm.hasPlainNames = true ∧ v.validate (.object [("address", .string "")]) = []
    ∧ addressForm.Finds (.object [("address", .string "")]) "address.city" city none
    ∧ city.info.required = true ∧ Vacant none := by
  obtain ⟨v, hc⟩ := compiles
  have hvalid : v.validate (.object [("address", .string "")]) = [] := by
    obtain rfl := Except.ok.inj hc
    rfl
  exact ⟨v, hc, hasPlainNames, hvalid, finds_city rfl, rfl, .missing⟩

/-- Every message of the whole form is the message at its path. -/
theorem Form.validateAt_of_message [PatternReader] (hc : form.compile overrides = .ok v)
    (hn : form.hasPlainNames = true) (h : Dict.get? (v.validate values) path = some m) :
    v.validateAt path values = some m := by
  obtain ⟨f, value, validator, hf, hv, hm⟩ := (get?_validate_iff hc hn).mp h
  obtain ⟨validator', hv', hat⟩ := validateAt_of_finds hc hn hf.finds
  obtain rfl : validator' = validator := Except.ok.inj (hv'.symm.trans hv)
  exact hat.trans hm

/-- The text that the second order misses is asked for at its path as well. -/
theorem Orders.missing_sku_at_path : ∃ v, orderForm.compile [] = .ok v
    ∧ orderForm.hasPlainNames = true
    ∧ Dict.get? (v.validate incomplete) "orders.1.item.sku" = some demand
    ∧ v.validateAt "orders.1.item.sku" incomplete = some demand := by
  obtain ⟨v, hc⟩ := compiles
  have hget := get?_validate_incomplete hc
  exact ⟨v, hc, hasPlainNames, hget, Form.validateAt_of_message hc hasPlainNames hget⟩

/-- A message at a path of plain positions is one of the whole form exactly if every object field
above the path has a value that opens its members. -/
theorem Form.message_iff_objects_open [PatternReader] (hc : form.compile overrides = .ok v)
    (hn : form.hasPlainNames = true)
    (hp : PlainPositions (Item.Declares form.items) (Path.segments path))
    (h : v.validateAt path values = some m) :
    Dict.get? (v.validate values) path = some m ↔
      ∀ q g w, form.Reaches values q g w → g.info.kind = .object → Path.Above q path →
        OpensMembers w := by
  constructor
  · intro hget q g w hg hk ha
    obtain ⟨f, value, _, hf, _, _⟩ := (get?_validate_iff hc hn).mp hget
    exact opens_of_reaches hc hn hf hg hk ha
  · intro hopens
    obtain ⟨f, value, validator, hf, hv, hm⟩ := finds_of_validateAt hc hn hp h
    exact (get?_validate_iff hc hn).mpr
      ⟨f, value, validator, reaches_of_finds hn hf hopens, hv, hm⟩

/-- A missing item opens its members, so that the whole form asks for the text as well. -/
theorem Orders.objects_open_above_sku : ∃ v, orderForm.compile [] = .ok v
    ∧ orderForm.hasPlainNames = true
    ∧ PlainPositions (Item.Declares orderForm.items) (Path.segments "orders.1.item.sku")
    ∧ v.validateAt "orders.1.item.sku" incomplete = some demand
    ∧ ∀ q g w, orderForm.Reaches incomplete q g w → g.info.kind = .object →
      Path.Above q "orders.1.item.sku" → OpensMembers w := by
  obtain ⟨v, hc⟩ := compiles
  have hp : PlainPositions (Item.Declares orderForm.items) (Path.segments "orders.1.item.sku") :=
    plainPositions_of_all (by decide) _
  have hat := validateAt_incomplete hc
  exact ⟨v, hc, hasPlainNames, hp, hat,
    (Form.message_iff_objects_open hc hasPlainNames hp hat).mp (get?_validate_incomplete hc)⟩

/-- Below a number in place of an object a member is asked for at its path only. -/
theorem Address.city_message_below_number : ∃ v, addressForm.compile [] = .ok v
    ∧ addressForm.hasPlainNames = true
    ∧ PlainPositions (Item.Declares addressForm.items) (Path.segments "address.city")
    ∧ v.validateAt "address.city" (.object [("address", .number (.int 5))])
      = some (city.info.ruleMessage [] .required)
    ∧ Dict.get? (v.validate (.object [("address", .number (.int 5))])) "address.city" = none := by
  obtain ⟨v, hc⟩ := compiles
  have hp : PlainPositions (Item.Declares addressForm.items) (Path.segments "address.city") :=
    plainPositions_of_all (by decide) _
  have hat : v.validateAt "address.city" (.object [("address", .number (.int 5))])
      = some (city.info.ruleMessage [] .required) := by
    have hf : addressForm.Finds (.object [("address", .number (.int 5))]) "address.city" city
        none := finds_city rfl
    obtain ⟨validator, hv, hat⟩ := Form.validateAt_of_finds hc hasPlainNames hf
    rw [hat]
    exact (FieldValidator.validate_eq_some_iff hv).mpr (.demanded .missing (Or.inl rfl))
  have hnone : Dict.get? (v.validate (.object [("address", .number (.int 5))])) "address.city"
      = none := by
    obtain rfl := Except.ok.inj hc
    rfl
  exact ⟨v, hc, hasPlainNames, hp, hat, hnone⟩

end FormLogic
