/-
  FormLogic.Proofs.Validation.Strip

  What compiling and validating make of stripped forms.

  A form and the form stripped by `g` compile alike if the validators of
  their fields do up to a function `k` on validators (`Strips`).  The nodes
  that come out then differ at most in what `k` leaves out of them, and so do
  the visits of a document and the field that a path locates.

    * `FieldInfo.SameDemands` — fields that are refused alike and hold values
      to the same rules.
    * `Form.compile_strip` — compiling a stripped form.
    * `Form.compile_of_strip_eq` — compiling two forms with one stripped form.
    * `FormValidator.visits_map`, `FormValidator.locate_map` — changed
      validators are visited and located where they were.
-/

import FormLogic.Proofs.Schema.Strip
import FormLogic.Proofs.Validation.Defects
import FormLogic.Proofs.Validation.Paths

namespace FormLogic

/-! ## Fields with the same demands -/

/-- The rules of a field but for its custom rule. -/
def Rules.withoutCustom (r : Rules) : Rules := { r with custom := none }

namespace FieldInfo

/-- Two fields make the same demands: they agree in name, kind and requirement, and in all rules
but the custom one. -/
structure SameDemands (a b : FieldInfo) : Prop where
  name : a.name = b.name
  kind : a.kind = b.kind
  required : a.required = b.required
  rules : a.ruleSet.withoutCustom = b.ruleSet.withoutCustom

namespace SameDemands

variable {a b : FieldInfo}

theorem symm (h : a.SameDemands b) : b.SameDemands a :=
  ⟨h.name.symm, h.kind.symm, h.required.symm, h.rules.symm⟩

/-- What the custom rule has no part in is the same of both rule sets. -/
theorem rule {α : Type} (h : a.SameDemands b) (part : Rules → α)
    (hpart : ∀ r : Rules, part r.withoutCustom = part r) : part a.ruleSet = part b.ruleSet := by
  rw [← hpart, h.rules, hpart]

theorem conflict {pair : BoundPair} (h : a.SameDemands b) (hc : a.Conflict pair) :
    b.Conflict pair := by
  cases hc with
  | length hk hlow hhigh hlt =>
    rw [h.kind] at hk
    rw [h.rule (·.minLength) fun _ => rfl] at hlow
    rw [h.rule (·.maxLength) fun _ => rfl] at hhigh
    exact .length hk hlow hhigh hlt
  | range hk hlow hhigh hlt =>
    rw [h.kind] at hk
    rw [h.rule (·.min) fun _ => rfl] at hlow
    rw [h.rule (·.max) fun _ => rfl] at hhigh
    exact .range hk hlow hhigh hlt
  | items hk hlow hhigh hlt =>
    rw [h.kind] at hk
    rw [h.rule (·.minItems) fun _ => rfl] at hlow
    rw [h.rule (·.maxItems) fun _ => rfl] at hhigh
    exact .items hk hlow hhigh hlt

/-- The message of a rule can refer to the same bound. -/
theorem ruleParams (h : a.SameDemands b) (key : RuleKey) :
    a.ruleParams key = b.ruleParams key := by
  cases key <;> simp only [FieldInfo.ruleParams, h.rule (·.minLength) fun _ => rfl,
    h.rule (·.maxLength) fun _ => rfl, h.rule (·.min) fun _ => rfl, h.rule (·.max) fun _ => rfl,
    h.rule (·.minItems) fun _ => rfl, h.rule (·.maxItems) fun _ => rfl]

/-- Fields with the same name, label and templates word their messages alike. -/
theorem ruleMessage (h : a.SameDemands b) (hlabel : a.label = b.label)
    (hmessages : a.messages = b.messages) (overrides : MessageOverrides) (key : RuleKey) :
    a.ruleMessage overrides key = b.ruleMessage overrides key := by
  rw [FieldInfo.ruleMessage, FieldInfo.ruleMessage, Message.resolve, Message.resolve,
    Message.context, Message.context, Message.template, Message.template, FieldInfo.displayLabel,
    FieldInfo.displayLabel, h.ruleParams, h.name, hlabel, hmessages]

variable [PatternReader] {reason : String} {d : Defect}

theorem hasBadPattern (h : a.SameDemands b) (hbad : a.HasBadPattern reason) :
    b.HasBadPattern reason := by
  obtain ⟨hk, text, htext, herror⟩ := hbad
  rw [h.kind] at hk
  rw [h.rule (·.pattern) fun _ => rfl] at htext
  exact ⟨hk, text, htext, herror⟩

theorem hasBadAddress (h : a.SameDemands b) (hbad : a.HasBadAddress reason) :
    b.HasBadAddress reason := by
  obtain ⟨hk, hasked, herror⟩ := hbad
  rw [h.kind] at hk hasked
  rw [h.rule (·.email) fun _ => rfl] at hasked
  exact ⟨hk, hasked, herror⟩

theorem refuses (h : a.SameDemands b) (hd : FieldValidator.Refuses a d) :
    FieldValidator.Refuses b d := by
  rw [FieldValidator.Refuses, h.name] at hd
  rcases hd with ⟨pair, hc, hd⟩ | ⟨hordered, hrefused⟩
  · exact Or.inl ⟨pair, h.conflict hc, hd⟩
  · refine Or.inr ⟨fun pair hc => hordered pair (h.symm.conflict hc), ?_⟩
    rcases hrefused with ⟨reason, hbad, hd⟩ | ⟨hgood, reason, hbad, hd⟩
    · exact Or.inl ⟨reason, h.hasBadPattern hbad, hd⟩
    · exact Or.inr ⟨fun other hother => hgood other (h.symm.hasBadPattern hother), reason,
        h.hasBadAddress hbad, hd⟩

/-- A rule makes the same demand of both fields. -/
theorem demand? (h : a.SameDemands b) (key : RuleKey) : a.demand? key = b.demand? key := by
  cases key <;> simp only [FieldInfo.demand?, h.kind, h.rule (·.minLength) fun _ => rfl,
    h.rule (·.maxLength) fun _ => rfl, h.rule (·.pattern) fun _ => rfl,
    h.rule (·.email) fun _ => rfl, h.rule (·.min) fun _ => rfl, h.rule (·.max) fun _ => rfl,
    h.rule (·.minItems) fun _ => rfl, h.rule (·.maxItems) fun _ => rfl]

/-- Fields with the same demands compile alike up to `k` if `k` maps their validators to one. -/
theorem map_compile {overrides overrides' : MessageOverrides} {k : FieldValidator → FieldValidator}
    (h : a.SameDemands b)
    (hk : ∀ v w, FieldValidator.compile overrides a = .ok v →
      FieldValidator.compile overrides' b = .ok w → k v = k w) :
    (FieldValidator.compile overrides a).map k = (FieldValidator.compile overrides' b).map k := by
  cases ha : FieldValidator.compile overrides a with
  | error e =>
    have hb : FieldValidator.compile overrides' b = .error e :=
      FieldValidator.compile_eq_error_iff.mpr
        (h.refuses (FieldValidator.compile_eq_error_iff.mp ha))
    rw [hb]
  | ok v =>
    cases hb : FieldValidator.compile overrides' b with
    | error e =>
      have hrefuses := h.symm.refuses (FieldValidator.compile_eq_error_iff.mp hb)
      rw [FieldValidator.compile_eq_error_iff.mpr hrefuses] at ha
      cases ha
    | ok w => exact congrArg Except.ok (hk v w ha hb)

end SameDemands
end FieldInfo

/-! ## Nodes with other validators -/

mutual

/-- A node with a function applied to its validator and to those below it. -/
def Node.map (k : FieldValidator → FieldValidator) : Node → Node
  | ⟨gates, validator, scope, children⟩ => ⟨gates, k validator, scope, Node.mapAll k children⟩

def Node.mapAll (k : FieldValidator → FieldValidator) : List Node → List Node
  | [] => []
  | n :: ns => Node.map k n :: Node.mapAll k ns

end

/-- A form validator with a function applied to every validator of a field. -/
def FormValidator.map (k : FieldValidator → FieldValidator) (v : FormValidator) : FormValidator :=
  ⟨Node.mapAll k v.nodes⟩

/-- A visit with a function applied to its validator. -/
def Visit.map (k : FieldValidator → FieldValidator) (visit : Visit) : Visit :=
  { visit with validator := k visit.validator }

variable {k : FieldValidator → FieldValidator}

theorem Node.mapAll_eq_map (nodes : List Node) : Node.mapAll k nodes = nodes.map (Node.map k) := by
  induction nodes with
  | nil => rfl
  | cons n ns ih => rw [Node.mapAll, ih, List.map_cons]

@[simp] theorem Node.validator_map (n : Node) : (n.map k).validator = k n.validator := by
  cases n
  rfl

@[simp] theorem Node.scope_map (n : Node) : (n.map k).scope = n.scope := by
  cases n
  rfl

@[simp] theorem Node.children_map (n : Node) : (n.map k).children = Node.mapAll k n.children := by
  cases n
  rfl

@[simp] theorem Node.isVisible_map (n : Node) (values : Json) :
    (n.map k).isVisible values = n.isVisible values := by
  cases n
  rfl

section

variable (hk : ∀ v, (k v).name = v.name)
include hk

theorem Node.name_map (n : Node) : (Node.map k n).name = n.name := by
  rw [Node.name, Node.validator_map]
  exact hk n.validator

theorem Node.names_of_mapAll_eq {ms ns : List Node} (h : Node.mapAll k ms = Node.mapAll k ns) :
    ms.map Node.name = ns.map Node.name := by
  have hnames := congrArg (List.map Node.name) h
  rw [Node.mapAll_eq_map, Node.mapAll_eq_map, List.map_map, List.map_map] at hnames
  simpa only [Function.comp_def, Node.name_map hk] using hnames

end

/-! ## Compiling -/

section Compiling

variable [PatternReader]

/-- Fields and the fields stripped by `g` have validators that differ in what `k` leaves out, if at
all, and are refused alike. -/
structure Strips (overrides overrides' : MessageOverrides) (g : FieldInfo → FieldInfo)
    (k : FieldValidator → FieldValidator) : Prop extends KeepsOutline g where
  validatorName : ∀ v, (k v).name = v.name
  compile : ∀ info, (FieldValidator.compile overrides info).map k
    = (FieldValidator.compile overrides' (g info)).map k

variable {overrides overrides' : MessageOverrides} {g : FieldInfo → FieldInfo}

mutual

/-- A field and the stripped field compile alike up to what is left out of validators. -/
theorem Field.compile_strip (h : Strips overrides overrides' g k) (around : String)
    (gates : List Gate) (taken : List String) :
    ∀ f : Field, (Field.compile overrides around gates taken f).map (Node.map k)
      = (Field.compile overrides' around gates taken (f.strip g)).map (Node.map k)
  | ⟨info, template, fields⟩ => by
    rw [Field.strip_mk, Field.compile, Field.compile, h.name, h.kind, h.gate]
    by_cases htaken : taken.contains info.name = true
    · simp only [htaken, if_true]
    · simp only [htaken, Bool.false_eq_true, if_false]
      rcases Except.map_eq_map_iff.mp (h.compile info) with ⟨e, hv, hw⟩ | ⟨v, w, hv, hw, hvw⟩
      · simp only [hv, hw]
      · simp only [hv, hw]
        cases hkind : info.kind
        case array =>
          cases template with
          | none => rfl
          | some items =>
            simp only [Option.map_some]
            rcases Except.map_eq_map_iff.mp (Item.compileAll_strip h _ [] [] items) with
              ⟨e, hc, hc'⟩ | ⟨ms, ns, hc, hc', hmap⟩
            · rw [hc, hc']
            · rw [hc, hc']
              simp only [Except.map, Node.map, hvw, hmap]
        case object =>
          simp only
          rcases Except.map_eq_map_iff.mp (Field.compileAll_strip h _ [] fields) with
            ⟨e, hc, hc'⟩ | ⟨ms, ns, hc, hc', hmap⟩
          · rw [hc, hc']
          · rw [hc, hc']
            simp only [Except.map, Node.map, hvw, hmap]
        all_goals simp only [Except.map, Node.map, hvw, Node.mapAll]

theorem Field.compileAll_strip (h : Strips overrides overrides' g k) (around : String)
    (taken : List String) :
    ∀ fs : List Field, (Field.compileAll overrides around taken fs).map (Node.mapAll k)
      = (Field.compileAll overrides' around taken (Field.stripAll g fs)).map (Node.mapAll k)
  | [] => rfl
  | f :: fs => by
    rw [Field.stripAll, Field.compileAll, Field.compileAll]
    rcases Except.map_eq_map_iff.mp (Field.compile_strip h around [] taken f) with
      ⟨e, hf, hf'⟩ | ⟨m, n, hf, hf', hmn⟩
    · simp only [hf, hf']
    · have hname : m.name = n.name := by
        rw [← Node.name_map h.validatorName, hmn, Node.name_map h.validatorName]
      simp only [hf, hf', hname]
      rcases Except.map_eq_map_iff.mp (Field.compileAll_strip h around (n.name :: taken) fs) with
        ⟨e, hfs, hfs'⟩ | ⟨ms, ns, hfs, hfs', hmap⟩
      · simp only [hfs, hfs']
      · simp only [hfs, hfs', Except.map, Node.mapAll, hmn, hmap]

/-- An item and the stripped item compile alike up to what is left out of validators. -/
theorem Item.compile_strip (h : Strips overrides overrides' g k) (around : String)
    (gates : List Gate) (taken : List String) :
    ∀ i : Item, (Item.compile overrides around gates taken i).map (Node.mapAll k)
      = (Item.compile overrides' around gates taken (i.strip g)).map (Node.mapAll k)
  | .field f => by
    rw [Item.strip, Item.compile, Item.compile]
    rcases Except.map_eq_map_iff.mp (Field.compile_strip h around gates taken f) with
      ⟨e, hf, hf'⟩ | ⟨m, n, hf, hf', hmn⟩
    · rw [hf, hf']
    · rw [hf, hf']
      simp only [Except.map, Node.mapAll, hmn]
  | .group info items => by
    rw [Item.strip, Item.compile, Item.compile]
    exact Item.compileAll_strip h around _ taken items

theorem Item.compileAll_strip (h : Strips overrides overrides' g k) (around : String)
    (gates : List Gate) (taken : List String) :
    ∀ items : List Item, (Item.compileAll overrides around gates taken items).map (Node.mapAll k)
      = (Item.compileAll overrides' around gates taken (Item.stripAll g items)).map (Node.mapAll k)
  | [] => rfl
  | i :: is => by
    rw [Item.stripAll, Item.compileAll, Item.compileAll]
    rcases Except.map_eq_map_iff.mp (Item.compile_strip h around gates taken i) with
      ⟨e, hi, hi'⟩ | ⟨ms, ns, hi, hi', hmap⟩
    · simp only [hi, hi']
    · simp only [hi, hi', Node.names_of_mapAll_eq h.validatorName hmap]
      rcases Except.map_eq_map_iff.mp
          (Item.compileAll_strip h around gates (ns.map Node.name ++ taken) is) with
        ⟨e, his, his'⟩ | ⟨ms', ns', his, his', hmap'⟩
      · simp only [his, his']
      · simp only [his, his', Except.map]
        rw [Node.mapAll_eq_map, Node.mapAll_eq_map] at hmap hmap' ⊢
        rw [List.map_append, List.map_append, hmap, hmap']

end

/-- A form and the stripped form compile alike up to what is left out of validators. -/
theorem Form.compile_strip (h : Strips overrides overrides' g k) (form : Form) :
    (form.compile overrides).map (FormValidator.map k)
      = ((form.strip g).compile overrides').map (FormValidator.map k) := by
  have hitems := Item.compileAll_strip h "" [] [] form.items
  rw [Form.compile, Form.compile, Except.map_map, Except.map_map, Form.strip]
  rcases Except.map_eq_map_iff.mp hitems with ⟨e, hc, hc'⟩ | ⟨ms, ns, hc, hc', hmap⟩
  · rw [hc, hc']
  · rw [hc, hc']
    simp only [Except.map, FormValidator.map, hmap]

/-- Two forms with one stripped form compile alike up to what is left out of validators. -/
theorem Form.compile_of_strip_eq {overrides'' : MessageOverrides}
    (h : Strips overrides overrides'' g k)
    (h' : Strips overrides' overrides'' g k) {form form' : Form}
    (hstrip : form.strip g = form'.strip g) :
    (form.compile overrides).map (FormValidator.map k)
      = (form'.compile overrides').map (FormValidator.map k) := by
  rw [Form.compile_strip h, Form.compile_strip h', hstrip]

end Compiling

/-! ## Running -/

/-- Nodes are visited where they were if each of them is. -/
theorem Node.visitsAll_map_of {visibleOnly : Bool} {scope around : Json} {path : String}
    {nodes : List Node}
    (h : ∀ n ∈ nodes, Node.visits visibleOnly scope around path (n.map k)
      = (Node.visits visibleOnly scope around path n).map (Visit.map k)) :
    Node.visitsAll visibleOnly scope around path (Node.mapAll k nodes)
      = (Node.visitsAll visibleOnly scope around path nodes).map (Visit.map k) := by
  rw [Node.visitsAll_eq_flatMap, Node.visitsAll_eq_flatMap, Node.mapAll_eq_map,
    List.flatMap_map, List.map_flatMap]
  exact List.flatMap_congr h

section

variable (hk : ∀ v, (k v).name = v.name)
include hk

/-- Changed validators are visited where they were. -/
theorem Node.visits_map (visibleOnly : Bool) (scope around : Json) (path : String) (n : Node) :
    Node.visits visibleOnly scope around path (n.map k)
      = (Node.visits visibleOnly scope around path n).map (Visit.map k) := by
  induction n using Node.childInduction generalizing scope around path with
  | step n ih =>
    have hall : ∀ scope around path,
        Node.visitsAll visibleOnly scope around path (Node.mapAll k n.children)
          = (Node.visitsAll visibleOnly scope around path n.children).map (Visit.map k) :=
      fun scope around path => Node.visitsAll_map_of fun c hc => ih c hc scope around path
    have hbelow : (n.map k).visitsBelow visibleOnly scope around path
        = (n.visitsBelow visibleOnly scope around path).map (Visit.map k) := by
      simp only [Node.visitsBelow, Node.name_map hk, Node.scope_map, Node.children_map]
      split
      · rfl
      · split
        · exact hall _ _ _
        · rfl
      · split
        · rw [List.map_flatMap]
          exact List.flatMap_congr fun entry _ => hall _ _ _
        · rfl
    by_cases hshown : visibleOnly = true → n.isVisible around = true
    · have hshown' : visibleOnly = true → (n.map k).isVisible around = true := by
        rwa [Node.isVisible_map]
      rw [Node.visits_of_shown hshown, Node.visits_of_shown hshown', hbelow, List.map_append,
        Node.name_map hk, Node.validator_map]
      rfl
    · have hshown' : ¬ (visibleOnly = true → (n.map k).isVisible around = true) := by
        rwa [Node.isVisible_map]
      rw [Node.visits_eq_nil hshown, Node.visits_eq_nil hshown']
      rfl

theorem FormValidator.visits_map (v : FormValidator) (visibleOnly : Bool) (values : Json) :
    (v.map k).visits visibleOnly values = (v.visits visibleOnly values).map (Visit.map k) :=
  Node.visitsAll_map_of fun n _ => Node.visits_map hk visibleOnly values values "" n

theorem Node.find?_mapAll (nodes : List Node) (name : String) :
    (Node.mapAll k nodes).find? (fun n => n.name = name)
      = (nodes.find? fun n => n.name = name).map (Node.map k) := by
  rw [Node.mapAll_eq_map, List.find?_map]
  simp only [Function.comp_def, Node.name_map hk]

/-- A path locates the changed validator with the value that it had. -/
theorem FormValidator.locate_map : ∀ (segments : List String) (nodes : List Node) (scope : Json),
    locate (Node.mapAll k nodes) scope segments
      = (locate nodes scope segments).map fun found => (k found.1, found.2)
  | [], _, _ => rfl
  | name :: rest, nodes, scope => by
    rw [locate.eq_def, locate.eq_def nodes]
    simp only [Node.find?_mapAll hk]
    cases nodes.find? fun n => n.name = name with
    | none => rfl
    | some n =>
      cases rest with
      | nil => simp
      | cons segment after =>
        simp only [Option.map_some, Node.scope_map, Node.children_map]
        cases n.scope with
        | nowhere => rfl
        | members => exact FormValidator.locate_map (segment :: after) _ _
        | entries =>
          simp only
          split
          · split
            · exact FormValidator.locate_map after _ _
            · rfl
          · rfl

end

mutual

/-- Changed validators with the dependencies that they had give those. -/
theorem Node.dependencies_map (hk : ∀ v, (k v).name = v.name)
    (hdeps : ∀ v, (k v).dependencies = v.dependencies) (path : String) :
    ∀ n : Node, Node.dependencies path (n.map k) = Node.dependencies path n
  | ⟨gates, validator, kind, children⟩ => by
    rw [Node.map, Node.dependencies.eq_def, Node.dependencies.eq_def]
    simp only [hk, hdeps, Node.dependenciesAll_map hk hdeps _ children]

theorem Node.dependenciesAll_map (hk : ∀ v, (k v).name = v.name)
    (hdeps : ∀ v, (k v).dependencies = v.dependencies) (path : String) :
    ∀ nodes : List Node,
      Node.dependenciesAll path (Node.mapAll k nodes) = Node.dependenciesAll path nodes
  | [] => rfl
  | n :: ns => by
    rw [Node.mapAll, Node.dependenciesAll, Node.dependenciesAll,
      Node.dependencies_map hk hdeps path n, Node.dependenciesAll_map hk hdeps path ns]

end

theorem FormValidator.dependencies_map (hk : ∀ v, (k v).name = v.name)
    (hdeps : ∀ v, (k v).dependencies = v.dependencies) (v : FormValidator) :
    (v.map k).dependencies = v.dependencies :=
  Node.dependenciesAll_map hk hdeps "" v.nodes

end FormLogic
