/-
  FormLogic.Proofs.Validation.Scope

  What compiling makes of the fields of a scope.

  Compiling is a pass over the description that can fail in many places.
  Where it succeeds, all that later proofs need of it is said here: the
  nodes of a scope stand for its fields, one for each and under distinct
  names, and the children of a node stand for the fields below its field in
  the same way.  Paths, gates and the order of compiling are left behind.

    * `Field.compile_cases` — the node of a field, by the kind of the field.
    * `ScopeOf` — the nodes of a scope beside its fields.
    * `Form.compile_scopeOf` — the nodes of a form that compiles.
-/

import Mathlib.Data.List.Nodup
import FormLogic.Validation.Form
import FormLogic.Proofs.Except
import FormLogic.Proofs.Validation.Rules
import FormLogic.Proofs.Schema.Descent

namespace FormLogic

variable [PatternReader] {overrides : MessageOverrides} {around : String} {gates : List Gate}
  {taken : List String}

/-! ## The node of a field -/

/-- The scope and the children that compiling gives to the node of a field. -/
inductive Field.Compiled (overrides : MessageOverrides) (path : String) (f : Field) (n : Node) :
    Prop
  | entries {items : List Item} :
      f.info.kind = .array → f.itemSchema = some items → n.scope = .entries →
      Item.compileAll overrides (Path.join path "*") [] [] items = .ok n.children →
      Compiled overrides path f n
  | members :
      f.info.kind = .object → n.scope = .members →
      Field.compileAll overrides path [] f.fields = .ok n.children →
      Compiled overrides path f n
  | nowhere :
      f.info.kind ≠ .array → f.info.kind ≠ .object → n.scope = .nowhere → n.children = [] →
      Compiled overrides path f n

/-- A field that compiles has a free name, rules that compile, and children by its kind. -/
theorem Field.compile_cases {f : Field} {n : Node}
    (h : Field.compile overrides around gates taken f = .ok n) :
    f.info.name ∉ taken ∧ FieldValidator.compile overrides f.info = .ok n.validator
      ∧ n.gates = gates ++ f.info.gate.toList
      ∧ Field.Compiled overrides (Path.join around f.info.name) f n := by
  obtain ⟨info, template, fields⟩ := f
  -- each way to a defect is closed in turn; what is left is the node
  rw [Field.compile] at h
  by_cases htaken : taken.contains info.name = true
  · simp only [htaken, if_true] at h
    cases h
  · simp only [htaken, Bool.false_eq_true, if_false] at h
    refine ⟨by simpa using htaken, ?_⟩
    cases hv : FieldValidator.compile overrides info with
    | error e =>
      simp only [hv] at h
      cases h
    | ok validator =>
      simp only [hv] at h
      cases hk : info.kind
      case array =>
        simp only [hk] at h
        cases template with
        | none => cases h
        | some items =>
          cases hc : Item.compileAll overrides (Path.join (Path.join around info.name) "*")
              [] [] items with
          | error e =>
            simp only [hc] at h
            cases h
          | ok children =>
            simp only [hc] at h
            obtain rfl := Except.ok.inj h
            exact ⟨rfl, rfl, .entries hk rfl rfl hc⟩
      case object =>
        simp only [hk] at h
        cases hc : Field.compileAll overrides (Path.join around info.name) [] fields with
        | error e =>
          simp only [hc] at h
          cases h
        | ok children =>
          simp only [hc] at h
          obtain rfl := Except.ok.inj h
          exact ⟨rfl, rfl, .members hk rfl hc⟩
      all_goals
        simp only [hk] at h
        obtain rfl := Except.ok.inj h
        exact ⟨rfl, rfl, .nowhere (by simp [hk]) (by simp [hk]) rfl rfl⟩

/-- A field compiles to a node, wherever it stands. -/
def Field.CompilesTo (overrides : MessageOverrides) (f : Field) (n : Node) : Prop :=
  ∃ around gates taken, Field.compile overrides around gates taken f = .ok n

theorem Field.CompilesTo.validator {f : Field} {n : Node} (h : f.CompilesTo overrides n) :
    FieldValidator.compile overrides f.info = .ok n.validator := by
  obtain ⟨_, _, _, h⟩ := h
  exact (Field.compile_cases h).2.1

/-- The node of a field has the name of the field. -/
theorem Field.CompilesTo.name_eq {f : Field} {n : Node} (h : f.CompilesTo overrides n) :
    n.name = f.info.name :=
  FieldValidator.compile_name h.validator

/-! ## The nodes of a scope -/

/-- The nodes of a scope stand for its fields, under distinct names. -/
structure ScopeOf (overrides : MessageOverrides) (fields : Field → Prop) (nodes : List Node) :
    Prop where
  distinct : (nodes.map Node.name).Nodup
  distinctFields : DistinctNames fields
  node_of_field : ∀ f, fields f → ∃ n ∈ nodes, f.CompilesTo overrides n
  field_of_node : ∀ n ∈ nodes, ∃ f, fields f ∧ f.CompilesTo overrides n

namespace ScopeOf

variable {fields fields' : Field → Prop} {nodes nodes' : List Node}

/-- There is nothing in a scope without nodes. -/
theorem nil (h : ∀ f, ¬ fields f) : ScopeOf overrides fields [] where
  distinct := List.nodup_nil
  distinctFields := fun f _ hf => absurd hf (h f)
  node_of_field := fun f hf => absurd hf (h f)
  field_of_node := fun _ hn => absurd hn List.not_mem_nil

/-- A node alone stands for its field. -/
theorem singleton {f : Field} {n : Node} (h : f.CompilesTo overrides n) :
    ScopeOf overrides (· = f) [n] where
  distinct := List.nodup_singleton _
  distinctFields := fun _ _ hf hg _ => hf.trans hg.symm
  node_of_field := by
    rintro _ rfl
    exact ⟨n, List.mem_singleton_self n, h⟩
  field_of_node := by
    intro m hm
    obtain rfl := List.mem_singleton.mp hm
    exact ⟨f, rfl, h⟩

/-- Where the nodes of two scopes have different names, so have the fields. -/
theorem name_ne (h : ScopeOf overrides fields nodes) (h' : ScopeOf overrides fields' nodes')
    (hfresh : ∀ n ∈ nodes', n.name ∉ nodes.map Node.name) {f g : Field} (hf : fields f)
    (hg : fields' g) : f.info.name ≠ g.info.name := by
  intro hname
  obtain ⟨m, hm, hcm⟩ := h.node_of_field f hf
  obtain ⟨n, hn, hcn⟩ := h'.node_of_field g hg
  have hnames : m.name = n.name := by rw [hcm.name_eq, hname, hcn.name_eq]
  exact hfresh n hn (hnames ▸ List.mem_map_of_mem hm)

/-- Two scopes are put together where the second takes no name of the first. -/
theorem append (h : ScopeOf overrides fields nodes) (h' : ScopeOf overrides fields' nodes')
    (hfresh : ∀ n ∈ nodes', n.name ∉ nodes.map Node.name) {both : Field → Prop}
    (hboth : ∀ f, both f ↔ fields f ∨ fields' f) : ScopeOf overrides both (nodes ++ nodes') where
  distinct := by
    rw [List.map_append, List.nodup_append]
    refine ⟨h.distinct, h'.distinct, ?_⟩
    rintro a ha _ hb rfl
    -- a name of both would not be free for the second
    obtain ⟨n, hn, rfl⟩ := List.mem_map.mp hb
    exact hfresh n hn ha
  distinctFields := by
    intro f g hf hg hname
    rcases (hboth f).mp hf with hf | hf <;> rcases (hboth g).mp hg with hg | hg
    · exact h.distinctFields f g hf hg hname
    · exact absurd hname (h.name_ne h' hfresh hf hg)
    · exact absurd hname.symm (h.name_ne h' hfresh hg hf)
    · exact h'.distinctFields f g hf hg hname
  node_of_field := by
    intro f hf
    rcases (hboth f).mp hf with hf | hf
    · obtain ⟨n, hn, hc⟩ := h.node_of_field f hf
      exact ⟨n, List.mem_append_left _ hn, hc⟩
    · obtain ⟨n, hn, hc⟩ := h'.node_of_field f hf
      exact ⟨n, List.mem_append_right _ hn, hc⟩
  field_of_node := by
    intro n hn
    rcases List.mem_append.mp hn with hn | hn
    · obtain ⟨f, hf, hc⟩ := h.field_of_node n hn
      exact ⟨f, (hboth f).mpr (Or.inl hf), hc⟩
    · obtain ⟨f, hf, hc⟩ := h'.field_of_node n hn
      exact ⟨f, (hboth f).mpr (Or.inr hf), hc⟩

/-- A name belongs to one node only. -/
theorem eq_of_name_eq (h : ScopeOf overrides fields nodes) {m n : Node} (hm : m ∈ nodes)
    (hn : n ∈ nodes) (hname : m.name = n.name) : m = n :=
  List.inj_on_of_nodup_map h.distinct hm hn hname

/-- The node of a field is the one that is found under the field's name. -/
theorem find?_name (h : ScopeOf overrides fields nodes) {n : Node} (hn : n ∈ nodes) :
    nodes.find? (fun m => m.name = n.name) = some n := by
  cases hfind : nodes.find? (fun m => m.name = n.name) with
  | none => exact absurd (List.find?_eq_none.mp hfind n hn) (by simp)
  | some m =>
    have hm : m ∈ nodes := List.mem_of_find?_eq_some hfind
    have hname : m.name = n.name := by simpa using List.find?_some hfind
    rw [h.eq_of_name_eq hm hn hname]

end ScopeOf

/-! ## Compiling a scope -/

/-- Fields compile one after the other; the name of each is taken for those behind it. -/
theorem Field.compileAll_cons {f : Field} {fs : List Field} {nodes : List Node}
    (h : Field.compileAll overrides around taken (f :: fs) = .ok nodes) :
    ∃ node rest, Field.compile overrides around [] taken f = .ok node
      ∧ Field.compileAll overrides around (node.name :: taken) fs = .ok rest
      ∧ nodes = node :: rest := by
  rw [Field.compileAll] at h
  split at h
  · cases h
  · next node hnode =>
    split at h
    · cases h
    · next rest hrest => exact ⟨node, rest, hnode, hrest, (Except.ok.inj h).symm⟩

/-- Items compile one after the other; the names of each are taken for those behind it. -/
theorem Item.compileAll_cons {i : Item} {is : List Item} {nodes : List Node}
    (h : Item.compileAll overrides around gates taken (i :: is) = .ok nodes) :
    ∃ front rest, Item.compile overrides around gates taken i = .ok front
      ∧ Item.compileAll overrides around gates (front.map Node.name ++ taken) is = .ok rest
      ∧ nodes = front ++ rest := by
  rw [Item.compileAll] at h
  split at h
  · cases h
  · next front hfront =>
    split at h
    · cases h
    · next rest hrest => exact ⟨front, rest, hfront, hrest, (Except.ok.inj h).symm⟩

/-- A field that compiles is a scope of its own. -/
theorem Field.compile_scopeOf {f : Field} {n : Node}
    (h : Field.compile overrides around gates taken f = .ok n) :
    ScopeOf overrides (· = f) [n] ∧ ∀ m ∈ [n], m.name ∉ taken := by
  have hn : f.CompilesTo overrides n := ⟨around, gates, taken, h⟩
  refine ⟨.singleton hn, ?_⟩
  intro m hm
  obtain rfl := List.mem_singleton.mp hm
  rw [hn.name_eq]
  exact (Field.compile_cases h).1

/-- Nodes that compile behind others have names of their own. -/
theorem ScopeOf.append_behind {fields fields' both : Field → Prop} {front rest : List Node}
    (hfront : ScopeOf overrides fields front ∧ ∀ n ∈ front, n.name ∉ taken)
    (hrest : ScopeOf overrides fields' rest
      ∧ ∀ n ∈ rest, n.name ∉ front.map Node.name ++ taken)
    (hboth : ∀ f, both f ↔ fields f ∨ fields' f) :
    ScopeOf overrides both (front ++ rest) ∧ ∀ n ∈ front ++ rest, n.name ∉ taken := by
  obtain ⟨hfront, hfree⟩ := hfront
  obtain ⟨hrest, hbehind⟩ := hrest
  constructor
  · exact hfront.append hrest
      (fun n hn hmem => hbehind n hn (List.mem_append_left _ hmem)) hboth
  · intro n hn
    rcases List.mem_append.mp hn with hn | hn
    · exact hfree n hn
    · exact fun hmem => hbehind n hn (List.mem_append_right _ hmem)

/-- The fields of an object make up a scope, of names that were free. -/
theorem Field.compileAll_scopeOf {fs : List Field} {nodes : List Node}
    (h : Field.compileAll overrides around taken fs = .ok nodes) :
    ScopeOf overrides (· ∈ fs) nodes ∧ ∀ n ∈ nodes, n.name ∉ taken := by
  induction fs generalizing taken nodes with
  | nil =>
    obtain rfl := Except.ok.inj h
    exact ⟨.nil fun _ => List.not_mem_nil, fun _ hn => absurd hn List.not_mem_nil⟩
  | cons f fs ih =>
    -- the names taken grow along the fields, and only they are carried on
    obtain ⟨node, rest, hnode, hrest, rfl⟩ := Field.compileAll_cons h
    exact ScopeOf.append_behind (Field.compile_scopeOf hnode) (ih hrest) fun g => List.mem_cons

/-- Items make up a scope of the fields that they declare, of names that were free. -/
theorem Item.compileAll_scopeOf {items : List Item} {nodes : List Node}
    (h : Item.compileAll overrides around gates taken items = .ok nodes) :
    ScopeOf overrides (Item.Declares items) nodes ∧ ∀ n ∈ nodes, n.name ∉ taken := by
  induction items using Item.listInduction generalizing gates taken nodes with
  | nil =>
    obtain rfl := Except.ok.inj h
    exact ⟨.nil Item.declares_nil, fun _ hn => absurd hn List.not_mem_nil⟩
  | field f rest ih =>
    obtain ⟨front, nodes, hfront, hrest, rfl⟩ := Item.compileAll_cons h
    obtain ⟨node, hnode, rfl⟩ := Except.map_eq_ok.mp hfront
    exact ScopeOf.append_behind (Field.compile_scopeOf hnode) (ih hrest)
      fun g => Item.declares_field_cons
  | group info inner rest ihInner ihRest =>
    -- the fields of a group take names in the scope that the group stands in
    obtain ⟨front, nodes, hfront, hrest, rfl⟩ := Item.compileAll_cons h
    exact ScopeOf.append_behind (ihInner hfront) (ihRest hrest)
      fun g => Item.declares_group_cons

/-- The nodes of a form that compiles stand for the fields at the top of it. -/
theorem Form.compile_scopeOf {form : Form} {v : FormValidator}
    (h : form.compile overrides = .ok v) :
    ScopeOf overrides (Item.Declares form.items) v.nodes := by
  obtain ⟨nodes, hnodes, rfl⟩ := Except.map_eq_ok.mp h
  exact (Item.compileAll_scopeOf hnodes).1

/-! ## The nodes below a node -/

namespace Field.CompilesTo

variable {f : Field} {n : Node}

/-- The entries of a list field are scopes of its template. -/
theorem entries (h : f.CompilesTo overrides n) (hk : f.info.kind = .array) :
    n.scope = .entries ∧ ∃ items, f.itemSchema = some items
      ∧ ScopeOf overrides (Item.Declares items) n.children := by
  obtain ⟨_, _, _, h⟩ := h
  cases (Field.compile_cases h).2.2.2 with
  | entries _ ht hs hc => exact ⟨hs, _, ht, (Item.compileAll_scopeOf hc).1⟩
  | members hk' _ _ => simp [hk] at hk'
  | nowhere hk' _ _ _ => exact absurd hk hk'

/-- The members of an object field are a scope of its fields. -/
theorem members (h : f.CompilesTo overrides n) (hk : f.info.kind = .object) :
    n.scope = .members ∧ ScopeOf overrides (· ∈ f.fields) n.children := by
  obtain ⟨_, _, _, h⟩ := h
  cases (Field.compile_cases h).2.2.2 with
  | entries hk' _ _ _ => simp [hk] at hk'
  | members _ hs hc => exact ⟨hs, (Field.compileAll_scopeOf hc).1⟩
  | nowhere _ hk' _ _ => exact absurd hk hk'

/-- Only list fields have nodes for entries. -/
theorem kind_of_entries (h : f.CompilesTo overrides n) (hs : n.scope = .entries) :
    f.info.kind = .array := by
  obtain ⟨_, _, _, h⟩ := h
  cases (Field.compile_cases h).2.2.2 with
  | entries hk _ _ _ => exact hk
  | members _ hs' _ => simp [hs] at hs'
  | nowhere _ _ hs' _ => simp [hs] at hs'

/-- Only object fields have nodes for members. -/
theorem kind_of_members (h : f.CompilesTo overrides n) (hs : n.scope = .members) :
    f.info.kind = .object := by
  obtain ⟨_, _, _, h⟩ := h
  cases (Field.compile_cases h).2.2.2 with
  | entries _ _ hs' _ => simp [hs] at hs'
  | members hk _ _ => exact hk
  | nowhere _ _ hs' _ => simp [hs] at hs'

end Field.CompilesTo
end FormLogic
