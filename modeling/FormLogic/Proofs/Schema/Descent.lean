/-
  FormLogic.Proofs.Schema.Descent

  Descending a form along a document, read off the description alone.

  A scope is a set of fields with the value that their names are looked up
  in.  The fields of a form make up the outermost scope; groups only add
  fields to the scope they stand in.  A field with members opens a scope for
  them in its value, a field with entries opens one for each entry of its
  value.

    * `Item.Declares` — the fields of a scope, groups being transparent.
    * `Descends` — a field below a scope, with the segments that lead to it
      and its value.  What values a field with members opens is a parameter:
      `OpensMembers` for `Form.Reaches`, every value for `Form.Finds`.
    * `Leads` — the same descent without a document: the field that the
      segments of a path lead to, any segment standing for a position.
    * `hasPlainNames` — every name of a form is one segment of a path.
-/

import FormLogic.Schema.Form
import FormLogic.Proofs.Path.Segments

namespace FormLogic

/-! ## The fields of a scope -/

/-- A list of items declares its fields and those of its groups. -/
inductive Item.Declares : List Item → Field → Prop
  | field {items : List Item} {f : Field} : Item.field f ∈ items → Declares items f
  | group {items inner : List Item} {info : GroupInfo} {f : Field} :
      Item.group info inner ∈ items → Declares inner f → Declares items f

/-- An induction over items, one case for each kind of item at the front. -/
theorem Item.listInduction {P : List Item → Prop} (nil : P [])
    (field : ∀ f rest, P rest → P (.field f :: rest))
    (group : ∀ info inner rest, P inner → P rest → P (.group info inner :: rest)) :
    ∀ items, P items
  | [] => nil
  | .field f :: rest => field f rest (Item.listInduction nil field group rest)
  | .group info inner :: rest =>
      group info inner rest (Item.listInduction nil field group inner)
        (Item.listInduction nil field group rest)

@[simp] theorem Item.declares_nil (f : Field) : ¬ Item.Declares [] f := by
  rintro (h | ⟨h, _⟩) <;> cases h

@[simp] theorem Item.declares_field_cons {g f : Field} {rest : List Item} :
    Item.Declares (.field g :: rest) f ↔ f = g ∨ Item.Declares rest f := by
  constructor
  · rintro (h | ⟨h, hf⟩)
    · rcases List.mem_cons.mp h with heq | h
      · exact Or.inl (Item.field.inj heq)
      · exact Or.inr (.field h)
    · rcases List.mem_cons.mp h with heq | h
      · cases heq
      · exact Or.inr (.group h hf)
  · rintro (rfl | h | ⟨h, hf⟩)
    · exact .field List.mem_cons_self
    · exact .field (List.mem_cons_of_mem _ h)
    · exact .group (List.mem_cons_of_mem _ h) hf

@[simp] theorem Item.declares_group_cons {info : GroupInfo} {inner rest : List Item}
    {f : Field} :
    Item.Declares (.group info inner :: rest) f ↔
      Item.Declares inner f ∨ Item.Declares rest f := by
  constructor
  · rintro (h | ⟨h, hf⟩)
    · rcases List.mem_cons.mp h with heq | h
      · cases heq
      · exact Or.inr (.field h)
    · rcases List.mem_cons.mp h with heq | h
      · obtain ⟨-, rfl⟩ := Item.group.inj heq
        exact Or.inl hf
      · exact Or.inr (.group h hf)
  · rintro (h | h | ⟨h, hf⟩)
    · exact .group List.mem_cons_self h
    · exact .field (List.mem_cons_of_mem _ h)
    · exact .group (List.mem_cons_of_mem _ h) hf

/-! ## Descending a document -/

/-- The values that a field with members is descended into: an object, or nothing where an
object can be missing. -/
inductive OpensMembers : Option Json → Prop
  | missing : OpensMembers none
  | null : OpensMembers (some .null)
  | object (members : List (String × Json)) : OpensMembers (some (.object members))

/-- `Descends opens fields scope segments f value`: from a scope of `fields` whose names are
looked up in `scope`, the segments lead down to the field `f` with the value `value`. -/
inductive Descends (opens : Option Json → Prop) :
    (Field → Prop) → Json → List String → Field → Option Json → Prop
  | here {fields : Field → Prop} {scope : Json} {f : Field} :
      fields f → Descends opens fields scope [f.info.name] f (Path.resolve scope f.info.name)
  | member {fields : Field → Prop} {scope : Json} {f g : Field} {rest : List String}
      {value : Option Json} :
      fields f → f.info.kind = .object → opens (Path.resolve scope f.info.name) →
      Descends opens (· ∈ f.fields) ((Path.resolve scope f.info.name).getD .null) rest g value →
      Descends opens fields scope (f.info.name :: rest) g value
  | item {fields : Field → Prop} {scope entry : Json} {f g : Field} {rest : List String}
      {value : Option Json} {items : List Item} {entries : List Json} {i : Nat} :
      fields f → f.info.kind = .array → f.itemSchema = some items →
      Path.resolve scope f.info.name = some (.array entries) → entries[i]? = some entry →
      Descends opens (Item.Declares items) entry rest g value →
      Descends opens fields scope (f.info.name :: toString i :: rest) g value

/-- A form comes to a field at a path with a value: a descent does, over segments that make up
the path. -/
def Form.ComesTo (opens : Option Json → Prop) (form : Form) (values : Json) (path : String)
    (f : Field) (value : Option Json) : Prop :=
  ∃ segments, Descends opens (Item.Declares form.items) values segments f value
    ∧ path = Path.ofSegments segments

/-- A form reaches a field at a path with a value: members are descended into where they can be
looked up. -/
def Form.Reaches : Form → Json → String → Field → Option Json → Prop :=
  Form.ComesTo OpensMembers

/-- A form finds a field at a path with a value: members are looked up whatever is in their
place, and found missing in what has none. -/
def Form.Finds : Form → Json → String → Field → Option Json → Prop :=
  Form.ComesTo fun _ => True

namespace Descends

variable {opens opens' : Option Json → Prop} {fields : Field → Prop} {scope : Json}
  {segments : List String} {f g : Field} {value : Option Json}

/-- Opening more values descends further. -/
theorem mono (hle : ∀ v, opens v → opens' v) (h : Descends opens fields scope segments f value) :
    Descends opens' fields scope segments f value := by
  induction h with
  | here hf => exact .here hf
  | member hf hk ho _ ih => exact .member hf hk (hle _ ho) ih
  | item hf hk ht hv he _ ih => exact .item hf hk ht hv he ih

/-- A descent takes at least one segment. -/
theorem ne_nil (h : Descends opens fields scope segments f value) : segments ≠ [] := by
  cases h <;> simp

/-- Where there is neither an object nor a list, every name is missing. -/
theorem value_eq_none (h : Descends opens fields scope segments f value)
    (hscope : scope = .null ∨ ∃ s, scope = .string s) : value = none := by
  have hresolve : ∀ {scope : Json}, (scope = .null ∨ ∃ s, scope = .string s) →
      ∀ name, Path.resolve scope name = none := by
    intro scope hscope name
    have hwalk : Path.walk scope (Path.segments name) = none := by
      cases hs : Path.segments name with
      | nil => exact absurd hs (Path.segments_ne_nil name)
      | cons s rest => rcases hscope with rfl | ⟨t, rfl⟩ <;> rfl
    have hmembers : scope.members? = none := by
      rcases hscope with rfl | ⟨t, rfl⟩ <;> rfl
    simp [Path.resolve, hmembers, hwalk]
  induction h with
  | here _ => exact hresolve hscope _
  | member _ _ _ _ ih =>
    -- a missing object leaves null to look the members up in
    apply ih
    rw [hresolve hscope]
    exact Or.inl rfl
  | item _ _ _ hv _ _ _ =>
    rw [hresolve hscope] at hv
    cases hv

/-- A descent is one under a stricter rule if that rule opens every object field above it that it
comes to. -/
theorem strengthen (h : Descends opens fields scope segments f value)
    (hopens : ∀ before after g w, segments = before ++ after → after ≠ [] →
      Descends opens' fields scope before g w → g.info.kind = .object → opens' w) :
    Descends opens' fields scope segments f value := by
  induction h with
  | here hf => exact .here hf
  | @member _ _ f' _ _ _ hf hk _ hrest ih =>
    refine .member hf hk (hopens [f'.info.name] _ f' _ rfl hrest.ne_nil (.here hf) hk) (ih ?_)
    intro before after g w hsegments ha hg hgk
    have ho := hopens [f'.info.name] _ f' _ rfl hrest.ne_nil (.here hf) hk
    -- what begins the rest begins the whole behind the name in front
    exact hopens (f'.info.name :: before) after g w (by rw [hsegments]; rfl) ha
      (.member hf hk ho hg) hgk
  | @item _ _ _ f' _ _ _ _ _ i hf hk ht hv he _ ih =>
    refine .item hf hk ht hv he (ih ?_)
    intro before after g w hsegments ha hg hgk
    exact hopens (f'.info.name :: toString i :: before) after g w (by rw [hsegments]; rfl) ha
      (.item hf hk ht hv he hg) hgk

end Descends

/-! ## Distinct names -/

/-- The fields of a scope have names of their own. -/
def DistinctNames (fields : Field → Prop) : Prop :=
  ∀ f g, fields f → fields g → f.info.name = g.info.name → f = g

namespace Descends

variable {opens : Option Json → Prop} {fields : Field → Prop} {scope : Json}
  {rest : List String} {f g : Field} {value : Option Json}

/-- A descent through the name of an object field goes on in the members of its value. -/
theorem member_inv (hd : DistinctNames fields) (hf : fields f) (hk : f.info.kind = .object)
    (hne : rest ≠ []) (h : Descends opens fields scope (f.info.name :: rest) g value) :
    opens (Path.resolve scope f.info.name) ∧
      Descends opens (· ∈ f.fields) ((Path.resolve scope f.info.name).getD .null) rest g
        value := by
  generalize hsegments : f.info.name :: rest = segments at h
  cases h with
  | here _ =>
    obtain ⟨-, rfl⟩ := List.cons.inj hsegments
    exact absurd rfl hne
  | member hf' _ ho hrest =>
    obtain ⟨hname, rfl⟩ := List.cons.inj hsegments
    obtain rfl := hd _ _ hf hf' hname
    exact ⟨ho, hrest⟩
  | item hf' hk' _ _ _ _ =>
    -- one name is one field, which cannot be of both kinds
    obtain ⟨hname, -⟩ := List.cons.inj hsegments
    obtain rfl := hd _ _ hf hf' hname
    rw [hk] at hk'
    cases hk'

/-- A descent through the name of a list field goes on in an entry of its value. -/
theorem item_inv (hd : DistinctNames fields) (hf : fields f) (hk : f.info.kind = .array)
    {position : String}
    (h : Descends opens fields scope (f.info.name :: position :: rest) g value) :
    ∃ (items : List Item) (entries : List Json) (i : Nat) (entry : Json),
      f.itemSchema = some items ∧ position = toString i
      ∧ Path.resolve scope f.info.name = some (.array entries) ∧ entries[i]? = some entry
      ∧ Descends opens (Item.Declares items) entry rest g value := by
  generalize hsegments : f.info.name :: position :: rest = segments at h
  cases h with
  | here _ => cases (List.cons.inj hsegments).2
  | member hf' hk' _ _ =>
    obtain ⟨hname, -⟩ := List.cons.inj hsegments
    obtain rfl := hd _ _ hf hf' hname
    rw [hk] at hk'
    cases hk'
  | item hf' _ ht hv he hrest =>
    obtain ⟨hname, htail⟩ := List.cons.inj hsegments
    obtain ⟨rfl, rfl⟩ := List.cons.inj htail
    obtain rfl := hd _ _ hf hf' hname
    exact ⟨_, _, _, _, ht, rfl, hv, he, hrest⟩

end Descends

/-! ## Leading segments -/

/-- `Leads fields segments f`: from a scope of `fields` the segments lead to `f`, where the name
of a field with entries is followed by a segment for the position of an entry. -/
inductive Leads : (Field → Prop) → List String → Field → Prop
  | here {fields : Field → Prop} {f : Field} : fields f → Leads fields [f.info.name] f
  | member {fields : Field → Prop} {f g : Field} {rest : List String} :
      fields f → f.info.kind = .object → Leads (· ∈ f.fields) rest g →
      Leads fields (f.info.name :: rest) g
  | item {fields : Field → Prop} {f g : Field} {items : List Item} {position : String}
      {rest : List String} :
      fields f → f.info.kind = .array → f.itemSchema = some items →
      Leads (Item.Declares items) rest g →
      Leads fields (f.info.name :: position :: rest) g

/-- What holds of the fields of a scope, and below each field that it holds of, holds of every field
that segments lead to. -/
theorem Leads.satisfies {P : Field → Prop} {fields : Field → Prop} {segments : List String}
    {f : Field} (h : Leads fields segments f) (hfields : ∀ g, fields g → P g)
    (hmembers : ∀ g, P g → ∀ g' ∈ g.fields, P g')
    (hitems : ∀ g items, P g → g.itemSchema = some items → ∀ g', Item.Declares items g' → P g') :
    P f := by
  induction h with
  | here hf => exact hfields _ hf
  | member hf _ _ ih => exact ih (hmembers _ (hfields _ hf))
  | item hf _ ht _ ih => exact ih (hitems _ _ (hfields _ hf) ht)

/-- Segments in which every position is written plainly.  A position is the segment behind a
field with entries. -/
def PlainPositions (fields : Field → Prop) (segments : List String) : Prop :=
  ∀ before position after f, segments = before ++ position :: after →
    Leads fields before f → f.info.kind = .array → Path.isPlain position = true

theorem PlainPositions.member {fields : Field → Prop} {f : Field} {rest : List String}
    (h : PlainPositions fields (f.info.name :: rest)) (hf : fields f)
    (hk : f.info.kind = .object) : PlainPositions (· ∈ f.fields) rest := by
  intro before position after g hrest hleads
  exact h (f.info.name :: before) position after g (by rw [hrest]; rfl)
    (.member hf hk hleads)

theorem PlainPositions.item {fields : Field → Prop} {f : Field} {items : List Item}
    {position : String} {rest : List String}
    (h : PlainPositions fields (f.info.name :: position :: rest)) (hf : fields f)
    (hk : f.info.kind = .array) (ht : f.itemSchema = some items) :
    PlainPositions (Item.Declares items) rest := by
  intro before position' after g hrest hleads
  exact h (f.info.name :: position :: before) position' after g (by rw [hrest]; rfl)
    (.item hf hk ht hleads)

theorem PlainPositions.head {fields : Field → Prop} {f : Field} {position : String}
    {rest : List String} (h : PlainPositions fields (f.info.name :: position :: rest))
    (hf : fields f) (hk : f.info.kind = .array) : Path.isPlain position = true :=
  h [f.info.name] position rest f rfl (.here hf) hk

/-- Where every segment is written plainly, so is every position. -/
theorem plainPositions_of_all {segments : List String} (h : segments.all Path.isPlain = true)
    (fields : Field → Prop) : PlainPositions fields segments := by
  intro before position after f hsegments _ _
  exact List.all_eq_true.mp h position (by simp [hsegments])

/-! ## Plain names -/

mutual

/-- Whether the names of a field and of all fields below it are segments. -/
def Field.hasPlainNames : Field → Bool
  | ⟨info, template, fields⟩ =>
    Path.isSegment info.name
      && (match template with
          | none => true
          | some items => Item.allHavePlainNames items)
      && Field.allHavePlainNames fields

/-- Whether all fields of a list have plain names. -/
def Field.allHavePlainNames : List Field → Bool
  | [] => true
  | f :: fs => Field.hasPlainNames f && Field.allHavePlainNames fs

/-- Whether the fields of an item have plain names. -/
def Item.hasPlainNames : Item → Bool
  | .field f => Field.hasPlainNames f
  | .group _ items => Item.allHavePlainNames items

/-- Whether all fields of a list of items have plain names. -/
def Item.allHavePlainNames : List Item → Bool
  | [] => true
  | i :: is => Item.hasPlainNames i && Item.allHavePlainNames is

end

/-- Whether every name in a form is one segment of a path: not empty and without a dot. -/
def Form.hasPlainNames (form : Form) : Bool := Item.allHavePlainNames form.items

theorem Field.hasPlainNames_iff {f : Field} :
    f.hasPlainNames = true ↔ Path.isSegment f.info.name = true
      ∧ (∀ items, f.itemSchema = some items → Item.allHavePlainNames items = true)
      ∧ Field.allHavePlainNames f.fields = true := by
  obtain ⟨info, template, fields⟩ := f
  cases template <;> simp [Field.hasPlainNames, and_assoc]

/-- The fields of a scope have plain names, and so have the fields below them. -/
def PlainNames (fields : Field → Prop) : Prop := ∀ f, fields f → f.hasPlainNames = true

theorem plainNames_of_all {fs : List Field} (h : Field.allHavePlainNames fs = true) :
    PlainNames (· ∈ fs) := by
  induction fs with
  | nil => exact fun f hf => absurd hf List.not_mem_nil
  | cons g gs ih =>
    simp only [Field.allHavePlainNames, Bool.and_eq_true] at h
    intro f hf
    rcases List.mem_cons.mp hf with rfl | hf
    · exact h.1
    · exact ih h.2 f hf

theorem plainNames_declares {items : List Item} (h : Item.allHavePlainNames items = true) :
    PlainNames (Item.Declares items) := by
  induction items using Item.listInduction with
  | nil => exact fun f hf => absurd hf (Item.declares_nil f)
  | field g rest ih =>
    simp only [Item.allHavePlainNames, Item.hasPlainNames, Bool.and_eq_true] at h
    intro f hf
    rcases Item.declares_field_cons.mp hf with rfl | hf
    · exact h.1
    · exact ih h.2 f hf
  | group info inner rest ihInner ihRest =>
    simp only [Item.allHavePlainNames, Item.hasPlainNames, Bool.and_eq_true] at h
    intro f hf
    rcases Item.declares_group_cons.mp hf with hf | hf
    · exact ihInner h.1 f hf
    · exact ihRest h.2 f hf

namespace PlainNames

variable {fields : Field → Prop} {f : Field}

theorem isSegment (h : PlainNames fields) (hf : fields f) :
    Path.isSegment f.info.name = true :=
  (Field.hasPlainNames_iff.mp (h f hf)).1

theorem members (h : PlainNames fields) (hf : fields f) : PlainNames (· ∈ f.fields) :=
  plainNames_of_all (Field.hasPlainNames_iff.mp (h f hf)).2.2

theorem template (h : PlainNames fields) (hf : fields f) {items : List Item}
    (ht : f.itemSchema = some items) : PlainNames (Item.Declares items) :=
  plainNames_declares ((Field.hasPlainNames_iff.mp (h f hf)).2.1 items ht)

end PlainNames

/-- The segments of a descent are proper ones. -/
theorem Descends.isSegment {opens : Option Json → Prop} {fields : Field → Prop} {scope : Json}
    {segments : List String} {f : Field} {value : Option Json}
    (h : Descends opens fields scope segments f value) (hn : PlainNames fields) :
    ∀ s ∈ segments, Path.isSegment s = true := by
  induction h with
  | here hf =>
    intro s hs
    obtain rfl := List.mem_singleton.mp hs
    exact hn.isSegment hf
  | member hf _ _ _ ih =>
    intro s hs
    rcases List.mem_cons.mp hs with rfl | hs
    · exact hn.isSegment hf
    · exact ih (hn.members hf) s hs
  | item hf _ ht _ _ _ ih =>
    intro s hs
    rcases List.mem_cons.mp hs with rfl | hs
    · exact hn.isSegment hf
    · rcases List.mem_cons.mp hs with rfl | hs
      · exact Path.isSegment_toString _
      · exact ih (hn.template hf ht) s hs

end FormLogic
