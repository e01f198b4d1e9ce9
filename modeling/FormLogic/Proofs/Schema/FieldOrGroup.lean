/-
  FormLogic.Proofs.Schema.FieldOrGroup

  Which objects of a form are read as fields and which as groups.

  An object with a name and a type is meant for a field.  It is read as the
  field of this name and type where it reads as a field at all.  Where it does
  not, it is tried as a group, which passes over the name, the type and every
  other member that is no property of groups.  So a field with a mistake is
  refused, unless its members make up a group.

    * `GroupInfo.MadeUpOf` — what it takes for members to make up a group.
    * `Field.name_and_type_of_decode` — a field has the name and the type of
      the object it is read from.
    * `Item.named_iff` — what an object with a name and a type is read as, on
      its own and at any place of a form.
-/

import Mathlib.Data.List.Permutation
import FormLogic.Proofs.Condition.RoundTrip
import FormLogic.Proofs.Schema.Positions

namespace FormLogic

/-! ## Members of a shape -/

namespace Json

variable {α : Type} {read : Json → Shaped α} {members : Dict Json} {name : String}

/-- A value that may be null is read where it is null or has the shape. -/
theorem exists_asOption_iff {v : Json} :
    (∃ x, asOption read v = .ok x) ↔ v = .null ∨ ∃ a, read v = .ok a := by
  by_cases hv : v = .null
  · subst hv
    exact ⟨fun _ => Or.inl rfl, fun _ => ⟨none, rfl⟩⟩
  · rw [asOption_of_ne_null hv]
    constructor
    · rintro ⟨x, hx⟩
      obtain ⟨a, ha, -⟩ := Except.map_eq_ok.mp hx
      exact Or.inr ⟨a, ha⟩
    · rintro (hnull | ⟨a, ha⟩)
      · exact absurd hnull hv
      · exact ⟨some a, Except.map_eq_ok.mpr ⟨a, ha, rfl⟩⟩

/-- A member that may be missing or null was read from null or from a value of the shape. -/
theorem null_or_read_of_readMember {x : Option α}
    (h : readMember members name (asOption read) none = .ok x) :
    ∀ v ∈ Dict.get? members name, v = .null ∨ ∃ a, read v = .ok a := by
  intro v hv
  rw [readMember_of_some hv] at h
  exact exists_asOption_iff.mp ⟨x, h⟩

end Json

/-- A list of items is read where each entry is. -/
theorem Item.exists_readAll_iff {vs : List Json} :
    (∃ items, Item.readAll vs = .ok items) ↔ ∀ v ∈ vs, ∃ i, Item.read? v = some i := by
  simp only [Item.readAll_eq_ok_iff]
  constructor
  · rintro ⟨items, h⟩ v hv
    obtain ⟨i, -, hi⟩ := exists_mem_of_forall₂ h.flip hv
    exact ⟨i, hi⟩
  · intro h
    induction vs with
    | nil => exact ⟨[], .nil⟩
    | cons v vs ih =>
      obtain ⟨i, hi⟩ := h v List.mem_cons_self
      obtain ⟨items, hitems⟩ := ih fun w hw => h w (List.mem_cons_of_mem _ hw)
      exact ⟨i :: items, .cons hi hitems⟩

/-! ## Members of a group -/

namespace GroupInfo

/-- The members of an object make up a group: there is a list of items, and every other property
of groups is missing, null or of its shape. -/
structure MadeUpOf (members : Dict Json) : Prop where
  items : ∃ vs, Dict.get? members "fields" = some (.array vs)
    ∧ ∀ v ∈ vs, ∃ i, Item.read? v = some i
  title : ∀ v ∈ Dict.get? members "title", v = .null ∨ ∃ s, v = .string s
  description : ∀ v ∈ Dict.get? members "description", v = .null ∨ ∃ s, v = .string s
  conditional : ∀ v ∈ Dict.get? members "conditional", v = .null ∨ ∃ l, Logic.read? v = some l
  visibleWhen : ∀ v ∈ Dict.get? members "visibleWhen", v = .null ∨ ∃ ms, v = .object ms

variable {members : Dict Json}

/-- What is read as a group has the members of one. -/
theorem madeUpOf_of_decode (hnodup : members.names.Nodup) {g : GroupInfo × List Item}
    (h : decode (.object members) = .ok g) : MadeUpOf members := by
  obtain ⟨d, hd, -, hitems⟩ := decode_eq_ok h
  have hparts := isTable.readMember_of_readMembers hnodup hd
  simp only [table, List.forall_mem_cons, List.not_mem_nil, false_imp_iff, implies_true,
    and_true] at hparts
  obtain ⟨htitle, hdescription, hfields, hconditional, hvisible⟩ := hparts
  refine ⟨?_, ?_, ?_, ?_, ?_⟩
  · -- a draft without items would not have been finished
    rcases Json.readMember_eq_ok_iff.mp hfields with ⟨-, hnone⟩ | ⟨v, hv, hread⟩
    · rw [hitems] at hnone
      cases hnone
    · obtain ⟨is, his, -⟩ := Except.map_eq_ok.mp hread
      cases v with
      | array vs => exact ⟨vs, hv, Item.exists_readAll_iff.mp ⟨is, his⟩⟩
      | _ => cases his
  · simpa only [Json.asString_eq_ok_iff] using Json.null_or_read_of_readMember htitle
  · simpa only [Json.asString_eq_ok_iff] using Json.null_or_read_of_readMember hdescription
  · simpa only [Logic.decode_eq_ok_iff] using Json.null_or_read_of_readMember hconditional
  · simpa only [CompactConditions.decode, Json.asMap_eq_ok_iff]
      using Json.null_or_read_of_readMember hvisible

/-- Members that make up a group are read as one. -/
theorem exists_decode_of_madeUpOf (hnodup : members.names.Nodup) (h : MadeUpOf members) :
    ∃ g, decode (.object members) = .ok g := by
  obtain ⟨vs, hvs, hitems⟩ := h.items
  obtain ⟨items, hread⟩ := Item.exists_readAll_iff.mpr hitems
  have hget : ∀ {name v}, (name, v) ∈ members → v ∈ Dict.get? members name := fun hmem =>
    (Dict.get?_eq_some_iff hnodup).mpr hmem
  -- each member reads as something, and so all of them make a draft
  have hmembers : ∀ m ∈ table, ∀ v, (m.name, v) ∈ members → ∃ x, m.read v = .ok x := by
    simp only [table, List.forall_mem_cons, List.not_mem_nil, false_imp_iff, implies_true,
      and_true]
    refine ⟨?_, ?_, ?_, ?_, ?_⟩
    · intro v hv
      exact Json.exists_asOption_iff.mpr
        (by simpa only [Json.asString_eq_ok_iff] using h.title v (hget hv))
    · intro v hv
      exact Json.exists_asOption_iff.mpr
        (by simpa only [Json.asString_eq_ok_iff] using h.description v (hget hv))
    · intro v hv
      obtain rfl := Option.some.inj ((hget hv).symm.trans hvs)
      exact ⟨some items, Except.map_eq_ok.mpr ⟨items, hread, rfl⟩⟩
    · intro v hv
      exact Json.exists_asOption_iff.mpr
        (by simpa only [Logic.decode_eq_ok_iff] using h.conditional v (hget hv))
    · intro v hv
      exact Json.exists_asOption_iff.mpr
        (by simpa only [CompactConditions.decode, Json.asMap_eq_ok_iff]
          using h.visibleWhen v (hget hv))
  obtain ⟨d, hd⟩ := isTable.exists_readMembers (d := {}) hmembers
  have hfinished : d.items = some items := by
    have hparts := isTable.readMember_of_readMembers hnodup hd
    simp only [table, List.forall_mem_cons] at hparts
    have hfields := hparts.2.2.1
    rw [Json.readMember_of_some hvs] at hfields
    obtain ⟨is, his, heq⟩ := Except.map_eq_ok.mp hfields
    obtain rfl := Except.ok.inj (hread.symm.trans his)
    exact heq.symm
  exact ⟨(d.info, items), Json.RecordShape.decode_object hd (by rw [hfinished])⟩

end GroupInfo

/-! ## Objects with a name and a type -/

section

variable {members : Dict Json} {n t : Json}

/-- A field has the name and the type of the object that it is read from. -/
theorem Field.name_and_type_of_decode (hnodup : members.names.Nodup)
    (hn : Dict.get? members "name" = some n) (ht : Dict.get? members "type" = some t) {f : Field}
    (h : Field.decode (.object members) = .ok f) :
    n = .string f.info.name ∧ FieldKind.decode t = .ok f.info.kind := by
  obtain ⟨_, d, heq, hd, hfinish⟩ := Field.decode_eq_ok h
  obtain rfl := Json.object.inj heq
  obtain ⟨name, kind, hname, hkind, rfl⟩ := Field.Draft.finish_eq_ok_iff.mp hfinish
  have hparts := Field.isTable.readMember_of_readMembers hnodup hd
  simp only [Field.table, List.forall_mem_cons] at hparts
  obtain ⟨hreadName, hreadKind, -⟩ := hparts
  rw [Json.readMember_of_some hn, hname] at hreadName
  rw [Json.readMember_of_some ht, hkind] at hreadKind
  obtain ⟨s, hs, heqName⟩ := Except.map_eq_ok.mp hreadName
  obtain ⟨k, hk, heqKind⟩ := Except.map_eq_ok.mp hreadKind
  obtain rfl := Option.some.inj heqName
  obtain rfl := Option.some.inj heqKind
  exact ⟨Json.asString_eq_ok_iff.mp hs, hk⟩

/-- An item is the field of a name and a type. -/
def Item.IsNamed (i : Item) (n t : Json) : Prop :=
  ∃ f, i = .field f ∧ n = .string f.info.name ∧ FieldKind.decode t = .ok f.info.kind

/-- Members are mistaken for a group when they make up one but no field. -/
def Item.Mistaken (members : Dict Json) : Prop :=
  GroupInfo.MadeUpOf members ∧ ∀ f, Field.decode (.object members) ≠ .ok f

/-- An item read from an object with a name and a type is the field of these, unless the members
are mistaken for a group. -/
theorem Item.isNamed_of_read? (hnodup : members.names.Nodup)
    (hn : Dict.get? members "name" = some n) (ht : Dict.get? members "type" = some t) {i : Item}
    (h : Item.read? (.object members) = some i) : i.IsNamed n t ↔ ¬ Item.Mistaken members := by
  rcases Item.read?_eq_some h with ⟨f, rfl, hf⟩ | ⟨info, items, rfl, hg⟩
  · have hnamed : (Item.field f).IsNamed n t :=
      ⟨f, rfl, Field.name_and_type_of_decode hnodup hn ht hf⟩
    have hfield : ¬ Item.Mistaken members := fun hm => hm.2 f hf
    exact iff_of_true hnamed hfield
  · -- what is a group was no field before
    have hnot : ∀ f, Field.decode (.object members) ≠ .ok f := by
      intro f hf
      rw [Item.read?_of_field hf] at h
      cases h
    have hmistaken : Item.Mistaken members := ⟨GroupInfo.madeUpOf_of_decode hnodup hg, hnot⟩
    have hgroup : ¬ (Item.group info items).IsNamed n t := by
      rintro ⟨f, heq, -⟩
      cases heq
    exact iff_of_false hgroup (not_not_intro hmistaken)

/-- Members that are mistaken for a group are read as some item. -/
theorem Item.exists_read?_of_mistaken (hnodup : members.names.Nodup)
    (h : Item.Mistaken members) : ∃ i, Item.read? (.object members) = some i := by
  obtain ⟨g, hg⟩ := GroupInfo.exists_decode_of_madeUpOf hnodup h.1
  refine ⟨.group g.1 g.2, ?_⟩
  rw [Item.read?_eq, hg]
  cases hf : Field.decode (.object members) with
  | ok f => exact absurd hf (h.2 f)
  | error e => rfl

theorem Item.decode_eq_ok_iff {v : Json} {i : Item} :
    Item.decode v = .ok i ↔ Item.read? v = some i := by
  rw [Item.decode]
  cases Item.read? v <;> simp

end

/-! ## Main statement -/

/-- An object with a name and a type is read as the field of these or not at all, exactly if its
members are not mistaken for a group; and so it is with such an object at any place of a form. -/
theorem Item.named_iff {members : Dict Json} {n t : Json}
    (hm : (Json.object members).isOrdered = true) (hn : Dict.get? members "name" = some n)
    (ht : Dict.get? members "type" = some t) :
    ((∀ i, Item.decode (.object members) = .ok i → i.IsNamed n t) ↔ ¬ Item.Mistaken members)
    ∧ ∀ source form p i, source.isOrdered = true → Form.decode source = .ok form →
      form.at? p = some i → source.formAt? p = some (.object members) →
        (i.IsNamed n t ↔ ¬ Item.Mistaken members) := by
  have hnodup : members.names.Nodup := (Json.isOrdered_object.mp hm).1.nodup
  constructor
  · constructor
    · intro h hmistaken
      obtain ⟨i, hi⟩ := Item.exists_read?_of_mistaken hnodup hmistaken
      have hnamed : i.IsNamed n t := h i (Item.decode_eq_ok_iff.mpr hi)
      exact (Item.isNamed_of_read? hnodup hn ht hi).mp hnamed hmistaken
    · intro hfield i hi
      exact (Item.isNamed_of_read? hnodup hn ht (Item.decode_eq_ok_iff.mp hi)).mpr hfield
  · intro source form p i hs hform hi hv
    -- the item at a place was read from the document there
    obtain ⟨w, hw, -, hread⟩ :=
      Item.hereditary_readFrom.formAt? (Form.forall₂_readFrom hs hform) hi
    obtain rfl := Option.some.inj (hw.symm.trans hv)
    exact Item.isNamed_of_read? hnodup hn ht hread

namespace Itinerary

/-- The object of a city that has to be given. -/
def cityMembers : Dict Json :=
  [("name", .string "city"), ("required", .bool true), ("type", .string "text")]

/-- The object of an address with the city as its member. -/
def addressMembers : Dict Json :=
  [("fields", .array [.object cityMembers]), ("name", .string "address"),
    ("type", .string "object")]

/-- A form with a list of addresses. -/
def document : Json :=
  .object [("fields", .array [
    .object [("itemSchema", .array [.object addressMembers]), ("name", .string "stops"),
      ("type", .string "array")]])]

/-- The city, as a field of its own. -/
def city : Field where
  info := { name := "city", kind := .text, required := true }
  itemSchema := none
  fields := []

/-- The address, with the city as its member. -/
def address : Field where
  info := { name := "address", kind := .object }
  itemSchema := none
  fields := [city]

/-- The form of the document. -/
def form : Form where
  items := [.field ⟨{ name := "stops", kind := .array }, some [.field address], []⟩]

theorem decode_document : Form.decode document = .ok form := by cbv

theorem decode_addressMembers : Field.decode (.object addressMembers) = .ok address := rfl

/-- The address in the template of the list. -/
def place : Position := [("fields", 0), ("itemSchema", 0)]

/-- The address is a field of its name and type, alone and in its place. -/
theorem address_is_field : (Json.object addressMembers).isOrdered = true
    ∧ Dict.get? addressMembers "name" = some (.string "address")
    ∧ Dict.get? addressMembers "type" = some (.string "object")
    ∧ (∀ i, Item.decode (.object addressMembers) = .ok i →
      i.IsNamed (.string "address") (.string "object"))
    ∧ ∃ form i, document.isOrdered = true ∧ Form.decode document = .ok form
      ∧ form.at? place = some i ∧ document.formAt? place = some (.object addressMembers)
      ∧ i.IsNamed (.string "address") (.string "object") := by
  have hm : (Json.object addressMembers).isOrdered = true := by decide
  have hn : Dict.get? addressMembers "name" = some (.string "address") := rfl
  have ht : Dict.get? addressMembers "type" = some (.string "object") := rfl
  have hfield : ¬ Item.Mistaken addressMembers := fun h => h.2 address decode_addressMembers
  obtain ⟨hitem, hplace⟩ := Item.named_iff hm hn ht
  have hs : document.isOrdered = true := by decide
  have hat : form.at? place = some (.field address) := rfl
  have hformAt : document.formAt? place = some (.object addressMembers) := rfl
  exact ⟨hm, hn, ht, hitem.mpr hfield, form, .field address, hs, decode_document, hat, hformAt,
    (hplace document form place (.field address) hs decode_document hat hformAt).mpr hfield⟩

/-- The address with a text in place of the flag that it has to be given. -/
def mistypedMembers : Dict Json :=
  [("fields", .array [.object cityMembers]), ("name", .string "address"),
    ("required", .string "yes"), ("type", .string "object")]

/-- The mistyped address is a group of its city. -/
theorem mistyped_address_is_group : (Json.object mistypedMembers).isOrdered = true
    ∧ Dict.get? mistypedMembers "name" = some (.string "address")
    ∧ Dict.get? mistypedMembers "type" = some (.string "object")
    ∧ Item.decode (.object mistypedMembers) = .ok (.group {} [.field city]) :=
  ⟨by decide, rfl, rfl, rfl⟩

end Itinerary
end FormLogic
