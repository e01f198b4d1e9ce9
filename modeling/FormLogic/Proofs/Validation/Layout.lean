/-
  FormLogic.Proofs.Validation.Layout

  What is the same for forms that are laid out differently.

  Compiling leaves no groups behind, and of the order of the items only that
  of the nodes.  A step of laying out a form in another way thus brings the
  nodes of a scope into another order, there or below one of them.  Visits
  and states then come in another order, which a map forgets, as no path
  comes up twice; and looking for a name finds the same, as no name is
  repeated in a scope.

    * `Node.Moved` — one step on nodes.
    * `Item.Moved.keepsNodes` — a step on items is one on their nodes.
    * `Node.Moved.locate_eq` — what nodes find does not depend on their
      order.
    * `Form.layout_irrelevant` — a rearranged form does what the form does.
-/

import Mathlib.Data.List.Perm.Basic
import FormLogic.Proofs.Condition.Meaning
import FormLogic.Proofs.Schema.Change
import FormLogic.Proofs.Schema.Layout
import FormLogic.Proofs.Validation.Building
import FormLogic.Proofs.Validation.Locate
import FormLogic.Proofs.Validation.Metadata
import FormLogic.Proofs.Validation.Visible

namespace FormLogic

/-! ## Nodes in another order -/

section Order

variable {visibleOnly : Bool} {scope around : Json} {path : String} {gates : List Gate}
  {nodes nodes' : List Node}

/-- Where no name is repeated, the order of the nodes does not matter to what is found under a
name. -/
theorem Node.find?_perm (h : nodes.Perm nodes') (hn : (nodes.map Node.name).Nodup)
    (name : String) :
    nodes.find? (fun n => n.name = name) = nodes'.find? fun n => n.name = name := by
  cases hfind : nodes.find? fun n => n.name = name with
  | none =>
    refine (List.find?_eq_none.mpr fun n hmem => ?_).symm
    exact List.find?_eq_none.mp hfind n (h.mem_iff.mpr hmem)
  | some n =>
    obtain ⟨hmem, hname⟩ := mem_of_find?_name hfind
    cases hfind' : nodes'.find? fun n => n.name = name with
    | none =>
      have hnot := List.find?_eq_none.mp hfind' n (h.mem_iff.mp hmem)
      exact absurd hname (by simpa using hnot)
    | some n' =>
      -- the name is that of one node only
      obtain ⟨hmem', hname'⟩ := mem_of_find?_name hfind'
      rw [List.inj_on_of_nodup_map hn (h.mem_iff.mpr hmem') hmem (hname'.trans hname.symm)]

/-- One step of laying out nodes in another way. -/
inductive Node.Moved : List Node → List Node → Prop
  | perm {nodes nodes' : List Node} : nodes.Perm nodes' → Moved nodes nodes'
  | children {gates : List Gate} {validator : FieldValidator} {kind : ChildScope}
      {children children' rest : List Node} :
      Moved children children' →
      Moved (⟨gates, validator, kind, children⟩ :: rest)
        (⟨gates, validator, kind, children'⟩ :: rest)

namespace Node.Moved

theorem refl (nodes : List Node) : Moved nodes nodes := .perm (List.Perm.refl nodes)

theorem names_perm (h : Moved nodes nodes') :
    (nodes.map Node.name).Perm (nodes'.map Node.name) := by
  cases h with
  | perm h => exact h.map Node.name
  | children _ => exact List.Perm.refl _

/-- A step may leave nodes at the end alone. -/
theorem append_right (h : Moved nodes nodes') (rest : List Node) :
    Moved (nodes ++ rest) (nodes' ++ rest) := by
  cases h with
  | perm h => exact .perm (h.append_right rest)
  | children h => exact .children h

/-- Other children in the place of those of a node leave its visits as they are, in some order, if
they are visited alike. -/
theorem visits_perm_of_children {validator : FieldValidator} {kind : ChildScope}
    {children children' : List Node}
    (h : ∀ scope around path, (Node.visitsAll visibleOnly scope around path children).Perm
      (Node.visitsAll visibleOnly scope around path children')) :
    (Node.visits visibleOnly scope around path ⟨gates, validator, kind, children⟩).Perm
      (Node.visits visibleOnly scope around path ⟨gates, validator, kind, children'⟩) := by
  rw [Node.visits, Node.visits]
  split
  · exact List.Perm.refl []
  · refine List.Perm.append_right _ ?_
    cases kind with
    | nowhere => exact List.Perm.refl []
    | members =>
      cases memberScope (Path.resolve scope validator.name) with
      | none => exact List.Perm.refl []
      | some inner => exact h inner around _
    | entries =>
      simp only
      split
      · exact List.Perm.flatMap_left _ fun entry _ => h entry.1 entry.1 _
      · exact List.Perm.refl []

/-- A step keeps the visits, in some order. -/
theorem visitsAll_perm (h : Moved nodes nodes') :
    (Node.visitsAll visibleOnly scope around path nodes).Perm
      (Node.visitsAll visibleOnly scope around path nodes') := by
  induction h generalizing scope around path with
  | perm h =>
    rw [Node.visitsAll_eq_flatMap, Node.visitsAll_eq_flatMap]
    exact h.flatMap_right _
  | children _ ih =>
    rw [Node.visitsAll, Node.visitsAll]
    exact List.Perm.append_right _ (visits_perm_of_children fun _ _ _ => ih)

/-- After a step a name belongs to the same field, if no name is repeated: what is found under it
has the same validator, and children that at most one step has been made on. -/
theorem find?_cases (h : Moved nodes nodes') (hn : (nodes.map Node.name).Nodup) (name : String) :
    (nodes.find? (fun n => n.name = name) = none ∧ nodes'.find? (fun n => n.name = name) = none)
    ∨ ∃ n n', nodes.find? (fun n => n.name = name) = some n
      ∧ nodes'.find? (fun n => n.name = name) = some n'
      ∧ n.validator = n'.validator ∧ n.scope = n'.scope ∧ Moved n.children n'.children := by
  -- where the same is found before and after, there has been no step below it
  have hsame : ∀ found : Option Node, (found = none ∧ found = none) ∨ ∃ n n', found = some n
      ∧ found = some n' ∧ n.validator = n'.validator ∧ n.scope = n'.scope
      ∧ Moved n.children n'.children := by
    rintro (_ | n)
    · exact Or.inl ⟨rfl, rfl⟩
    · exact Or.inr ⟨n, n, rfl, rfl, rfl, rfl, refl n.children⟩
  cases h with
  | perm h =>
    rw [← Node.find?_perm h hn]
    exact hsame _
  | @children gates validator kind children children' rest h =>
    rw [List.find?_cons, List.find?_cons, Node.name_mk, Node.name_mk]
    by_cases hname : validator.name = name
    · simp only [hname, decide_true]
      exact Or.inr ⟨_, _, rfl, rfl, rfl, rfl, h⟩
    · simp only [hname, decide_false]
      exact hsame _

end Node.Moved

/-- Whether names lead to a node, from one scope to the next. -/
def Node.leadsTo (nodes : List Node) : List String → Bool
  | [] => false
  | name :: rest =>
    match nodes.find? fun n => n.name = name with
    | none => false
    | some n =>
      match rest with
      | [] => true
      | next :: after => decide (n.scope ≠ .nowhere) && Node.leadsTo n.children (next :: after)

namespace FormValidator

/-- Messages do not depend on the order of the visits, if no path is visited twice. -/
theorem errorsOf_perm {visits visits' : List Visit} (h : visits.Perm visits')
    (hn : (visits.map Visit.path).Nodup) (values : Json) :
    errorsOf visits values = errorsOf visits' values := by
  refine Dict.ofList_perm (h.filterMap _) ?_
  rw [Dict.names, List.Nodup, List.pairwise_map, List.pairwise_filterMap]
  refine (List.pairwise_map.mp hn).imp fun hne finding hfinding finding' hfinding' => ?_
  -- what a visit finds has the path of the visit
  obtain ⟨_, -, rfl⟩ := Option.map_eq_some_iff.mp hfinding
  obtain ⟨_, -, rfl⟩ := Option.map_eq_some_iff.mp hfinding'
  exact hne

/-- Two validators run alike: they visit the same, be it in another order, and segments and names
lead to the same. -/
structure RunsAs (v v' : FormValidator) : Prop where
  visits_perm : ∀ visibleOnly values,
    (v.visits visibleOnly values).Perm (v'.visits visibleOnly values)
  locate_eq : ∀ segments values, locate v.nodes values segments = locate v'.nodes values segments
  leadsTo_eq : ∀ names, Node.leadsTo v.nodes names = Node.leadsTo v'.nodes names

namespace RunsAs

variable {v v' v'' : FormValidator}

theorem refl (v : FormValidator) : RunsAs v v :=
  ⟨fun _ _ => List.Perm.refl _, fun _ _ => rfl, fun _ => rfl⟩

theorem trans (h : RunsAs v v') (h' : RunsAs v' v'') : RunsAs v v'' where
  visits_perm visibleOnly values :=
    (h.visits_perm visibleOnly values).trans (h'.visits_perm visibleOnly values)
  locate_eq segments values := (h.locate_eq segments values).trans (h'.locate_eq segments values)
  leadsTo_eq names := (h.leadsTo_eq names).trans (h'.leadsTo_eq names)

theorem validateAt_eq (h : RunsAs v v') (p : String) (values : Json) :
    v.validateAt p values = v'.validateAt p values := by
  rw [validateAt, validateAt, h.locate_eq]

end RunsAs
end FormValidator

end Order

section Reader

variable [PatternReader] {overrides : MessageOverrides} {fields : Field → Prop}
  {visibleOnly : Bool} {scope around : Json} {path : String} {gates : List Gate}
  {nodes nodes' : List Node}

/-! ## Nodes of a scope -/

/-- The children of a node of a scope, if it has any, make up a scope. -/
theorem ScopeOf.children (hs : ScopeOf overrides fields nodes) {n : Node} (hn : n ∈ nodes)
    (hk : n.scope ≠ .nowhere) : ∃ below, ScopeOf overrides below n.children := by
  obtain ⟨f, -, hc⟩ := hs.field_of_node n hn
  cases hscope : n.scope with
  | nowhere => exact absurd hscope hk
  | members => exact ⟨_, (hc.members (hc.kind_of_members hscope)).2⟩
  | entries =>
    obtain ⟨-, items, -, hchildren⟩ := hc.entries (hc.kind_of_entries hscope)
    exact ⟨_, hchildren⟩

/-- After a step the same is located by the segments of a path. -/
theorem Node.Moved.locate_eq : ∀ (segments : List String) {fields : Field → Prop}
    {nodes nodes' : List Node} (scope : Json), Moved nodes nodes' → ScopeOf overrides fields nodes →
    FormValidator.locate nodes scope segments = FormValidator.locate nodes' scope segments
  | [], _, _, _, _, _, _ => rfl
  | name :: rest, fields, nodes, nodes', scope, h, hs => by
    rw [FormValidator.locate.eq_def, FormValidator.locate.eq_def nodes']
    rcases h.find?_cases hs.distinct name with ⟨hn, hn'⟩ | ⟨n, n', hn, hn', hv, hk, hmoved⟩
    · simp only [hn, hn']
    · simp only [hn, hn', hv, ← hk]
      cases rest with
      | nil => rfl
      | cons segment after =>
        cases hscope : n.scope with
        | nowhere => rfl
        | members =>
          obtain ⟨below, hbelow⟩ := hs.children (mem_of_find?_name hn).1 (by simp [hscope])
          exact locate_eq (segment :: after) _ hmoved hbelow
        | entries =>
          obtain ⟨below, hbelow⟩ := hs.children (mem_of_find?_name hn).1 (by simp [hscope])
          simp only
          split
          · split
            · exact locate_eq after _ hmoved hbelow
            · rfl
          · rfl

/-! ## Names that lead to nodes -/

/-- After a step the same names lead to nodes. -/
theorem Node.Moved.leadsTo_eq {names : List String} (h : Node.Moved nodes nodes')
    (hs : ScopeOf overrides fields nodes) :
    Node.leadsTo nodes names = Node.leadsTo nodes' names := by
  induction names generalizing fields nodes nodes' with
  | nil => rfl
  | cons name rest ih =>
    rw [leadsTo, leadsTo]
    rcases h.find?_cases hs.distinct name with ⟨hn, hn'⟩ | ⟨n, n', hn, hn', -, hk, hmoved⟩
    · simp only [hn, hn']
    · simp only [hn, hn', ← hk]
      cases rest with
      | nil => rfl
      | cons next after =>
        by_cases hscope : n.scope = .nowhere
        · simp [hscope]
        · obtain ⟨below, hbelow⟩ := hs.children (mem_of_find?_name hn).1 hscope
          simp only [ih hmoved hbelow]

/-- A name is that of a field and of its node, or of neither. -/
theorem ScopeOf.named?_cases {fs : List Field} (hs : ScopeOf overrides (· ∈ fs) nodes)
    (name : String) :
    (Field.named? name fs = none ∧ nodes.find? (fun n => n.name = name) = none)
    ∨ ∃ f n, Field.named? name fs = some f ∧ nodes.find? (fun n => n.name = name) = some n
      ∧ f.CompilesTo overrides n := by
  cases hf : Field.named? name fs with
  | none =>
    refine Or.inl ⟨rfl, List.find?_eq_none.mpr fun n hn hname => ?_⟩
    obtain ⟨f, hmem, hc⟩ := hs.field_of_node n hn
    have hnot := List.find?_eq_none.mp hf f hmem
    rw [← hc.name_eq] at hnot
    exact hnot hname
  | some f =>
    obtain ⟨hmem, hname⟩ := Field.mem_of_named? hf
    obtain ⟨n, hn, hc⟩ := hs.node_of_field f hmem
    have hfind := hs.find?_name hn
    rw [hc.name_eq, hname] at hfind
    exact Or.inr ⟨f, n, rfl, hfind, hc⟩

/-- Names find a field where they lead to a node. -/
theorem ScopeOf.isSome_descend? {fs : List Field} {names : List String} {name : String}
    (hs : ScopeOf overrides (· ∈ fs) nodes) :
    ((Field.named? name fs).bind fun f => f.descend? names).isSome
      = Node.leadsTo nodes (name :: names) := by
  induction names generalizing fs nodes name with
  | nil =>
    rw [Node.leadsTo]
    rcases hs.named?_cases name with ⟨hf, hn⟩ | ⟨f, n, hf, hn, -⟩
    · rw [hf, hn]
      rfl
    · rw [hf, hn]
      rfl
  | cons next after ih =>
    rw [Node.leadsTo]
    rcases hs.named?_cases name with ⟨hf, hn⟩ | ⟨f, n, hf, hn, _, _, _, hc⟩
    · rw [hf, hn]
      rfl
    · rw [hf, hn, Option.bind_some, Field.descend?, Field.child?]
      cases (Field.compile_cases hc).2.2.2 with
      | entries hk ht hscope hchildren =>
        have hbelow := (Item.compileAll_scopeOf hchildren).1.of_declares
        simp only [hk, ht, hscope, Option.bind_some, Item.findIn?_eq, ih hbelow]
        rfl
      | members hk hscope hchildren =>
        have hbelow := (Field.compileAll_scopeOf hchildren).1
        have hnext : ((f.fields.find? fun g => g.info.name = next).bind
            fun g => g.descend? after).isSome = Node.leadsTo n.children (next :: after) := ih hbelow
        simp only [hk, hscope, hnext]
        rfl
      | nowhere harray hobject hscope _ =>
        split
        · next hk => exact absurd hk hobject
        · next hk => exact absurd hk harray
        · simp [hscope]

/-- A path finds a field of a form where its segments lead to a node. -/
theorem Form.isSome_field? {form : Form} {v : FormValidator} (hc : form.compile overrides = .ok v)
    (p : String) : (form.field? p).isSome = Node.leadsTo v.nodes (Path.segments p) := by
  rw [Form.field?, Path.segments]
  cases hp : Text.pieces '.' p with
  | nil => exact absurd hp (Text.pieces_ne_nil '.' p)
  | cons s rest =>
    simp only [Item.findIn?_eq]
    exact (compile_scopeOf hc).of_declares.isSome_descend?

/-! ## Compiling -/

/-- Items in another order compile to the nodes in another order. -/
theorem Item.compileAll_perm {items items' : List Item} (h : items.Perm items')
    (hc : Item.compileAll overrides "" gates [] items = .ok nodes) :
    ∃ nodes', Item.compileAll overrides "" gates [] items' = .ok nodes' ∧ nodes.Perm nodes' := by
  induction h generalizing nodes with
  | nil => exact ⟨nodes, hc, List.Perm.refl nodes⟩
  | cons x _ ih =>
    obtain ⟨front, back, hfront, hback, hfree, rfl⟩ := Item.compileAll_cons_apart_iff.mp hc
    obtain ⟨back', hback', hperm⟩ := ih hback
    exact ⟨front ++ back', Item.compileAll_cons_apart_iff.mpr ⟨front, back', hfront, hback',
      fun n hn => hfree n (hperm.mem_iff.mpr hn), rfl⟩, hperm.append_left front⟩
  | swap x y is =>
    obtain ⟨first, rest, hfirst, hrest, hfree, rfl⟩ := Item.compileAll_cons_apart_iff.mp hc
    obtain ⟨second, back, hsecond, hback, hfree', rfl⟩ := Item.compileAll_cons_apart_iff.mp hrest
    obtain ⟨hsecondFree, hbackFree⟩ := List.forall_mem_append.mp hfree
    have hrest' : Item.compileAll overrides "" gates [] (y :: is) = .ok (first ++ back) :=
      Item.compileAll_cons_apart_iff.mpr ⟨first, back, hfirst, hback, hbackFree, rfl⟩
    -- that no name is common to two pieces does not depend on their order
    have hfirstFree : ∀ n ∈ first, n.name ∉ second.map Node.name := by
      intro n hn hmem
      obtain ⟨m, hm, hname⟩ := List.mem_map.mp hmem
      exact hsecondFree m hm (hname ▸ List.mem_map_of_mem hn)
    refine ⟨second ++ (first ++ back), Item.compileAll_cons_apart_iff.mpr
      ⟨second, first ++ back, hsecond, hrest',
        List.forall_mem_append.mpr ⟨hfirstFree, hfree'⟩, rfl⟩, ?_⟩
    rw [← List.append_assoc, ← List.append_assoc]
    exact List.perm_append_comm.append_right back
  | trans _ _ ih ih' =>
    obtain ⟨middle, hmiddle, hperm⟩ := ih hc
    obtain ⟨nodes', hnodes', hperm'⟩ := ih' hmiddle
    exact ⟨nodes', hnodes', hperm.trans hperm'⟩

/-- Items that compile wherever others do, to nodes that at most one step leads to. -/
def Item.KeepsNodes (overrides : MessageOverrides) (items items' : List Item) : Prop :=
  ∀ around gates taken nodes, Item.compileAll overrides around gates taken items = .ok nodes →
    ∃ nodes', Item.compileAll overrides around gates taken items' = .ok nodes'
      ∧ Node.Moved nodes nodes'

namespace Item.KeepsNodes

variable {items items' : List Item}

theorem refl (items : List Item) : KeepsNodes overrides items items :=
  fun _ _ _ nodes h => ⟨nodes, h, .refl nodes⟩

/-- It is enough to compile the items by themselves. -/
theorem of_apart (h : ∀ gates nodes, Item.compileAll overrides "" gates [] items = .ok nodes →
      ∃ nodes', Item.compileAll overrides "" gates [] items' = .ok nodes'
        ∧ Node.Moved nodes nodes') : KeepsNodes overrides items items' := by
  intro around gates taken nodes hc
  obtain ⟨hapart, hfree⟩ := Item.compileAll_anywhere_iff.mp hc
  obtain ⟨nodes', hnodes', hmoved⟩ := h gates nodes hapart
  refine ⟨nodes', Item.compileAll_anywhere_iff.mpr ⟨hnodes', fun n hn => ?_⟩, hmoved⟩
  obtain ⟨m, hm, hname⟩ :=
    List.mem_map.mp (hmoved.names_perm.mem_iff.mpr (List.mem_map_of_mem hn))
  exact hname ▸ hfree m hm

/-- What goes for the first item goes for the whole list. -/
theorem cons {i i' : Item} (h : ∀ gates front, Item.compile overrides "" gates [] i = .ok front →
      ∃ front', Item.compile overrides "" gates [] i' = .ok front' ∧ Node.Moved front front')
    (rest : List Item) : KeepsNodes overrides (i :: rest) (i' :: rest) := by
  refine of_apart fun gates nodes hc => ?_
  obtain ⟨front, back, hfront, hback, hfree, rfl⟩ := Item.compileAll_cons_apart_iff.mp hc
  obtain ⟨front', hfront', hmoved⟩ := h gates front hfront
  refine ⟨front' ++ back, Item.compileAll_cons_apart_iff.mpr
    ⟨front', back, hfront', hback, fun n hn hmem => ?_, rfl⟩, hmoved.append_right back⟩
  exact hfree n hn (hmoved.names_perm.mem_iff.mpr hmem)

/-- Where the template and the members of a field keep their nodes, so does the field. -/
theorem field {info : FieldInfo} {template template' : Option (List Item)}
    {fs fs' : List Field}
    (htemplate : ∀ items, template = some items →
      ∃ items', template' = some items' ∧ KeepsNodes overrides items items')
    (hmembers : KeepsNodes overrides (fs.map .field) (fs'.map .field)) (rest : List Item) :
    KeepsNodes overrides (.field ⟨info, template, fs⟩ :: rest)
      (.field ⟨info, template', fs'⟩ :: rest) := by
  refine cons (fun gates front hc => ?_) rest
  obtain ⟨n, hn, rfl⟩ := Except.map_eq_ok.mp hc
  obtain ⟨hfree, hv, hgates, hcompiled⟩ := Field.compile_eq_ok_iff.mp hn
  -- all of the node stays but its children
  obtain ⟨children, hmoved, hnode⟩ : ∃ children, Node.Moved n.children children ∧
      Field.Compiled overrides (Path.join "" info.name) ⟨info, template', fs'⟩
        { n with children } := by
    cases hcompiled with
    | entries hk ht hs hc =>
      obtain ⟨items', ht', hkeeps⟩ := htemplate _ ht
      obtain ⟨children, hchildren, hmoved⟩ := hkeeps _ _ _ _ hc
      exact ⟨children, hmoved, .entries hk ht' hs hchildren⟩
    | members hk hs hc =>
      rw [Field.compileAll_eq] at hc
      obtain ⟨children, hchildren, hmoved⟩ := hmembers _ _ _ _ hc
      rw [← Field.compileAll_eq] at hchildren
      exact ⟨children, hmoved, .members hk hs hchildren⟩
    | nowhere harray hobject hs hc =>
      exact ⟨n.children, .refl _, .nowhere harray hobject hs hc⟩
  have hn' : Field.compile overrides "" gates [] ⟨info, template', fs'⟩ = .ok { n with children } :=
    Field.compile_eq_ok_iff.mpr ⟨hfree, hv, hgates, hnode⟩
  have hstep : Node.Moved [n] [{ n with children }] := by
    cases n
    exact .children hmoved
  refine ⟨[{ n with children }], ?_, hstep⟩
  rw [Item.compile, hn']
  rfl

end Item.KeepsNodes

/-- A step keeps the nodes of items. -/
theorem Item.Moved.keepsNodes {items items' : List Item} (h : Item.Moved items items') :
    Item.KeepsNodes overrides items items' := by
  induction h with
  | perm h =>
    refine .of_apart fun gates nodes hc => ?_
    obtain ⟨nodes', hnodes', hperm⟩ := Item.compileAll_perm h hc
    exact ⟨nodes', hnodes', .perm hperm⟩
  | wrap h =>
    refine .of_apart fun gates nodes hc => ⟨nodes, ?_, .refl nodes⟩
    obtain ⟨front, back, hfront, hback, hfree, rfl⟩ := Item.compileAll_append_iff.mp hc
    refine Item.compileAll_cons_apart_iff.mpr ⟨front, back, ?_, hback, hfree, rfl⟩
    rw [Item.compile, h.gate_eq_none]
    simpa using hfront
  | splice h =>
    refine .of_apart fun gates nodes hc => ⟨nodes, ?_, .refl nodes⟩
    obtain ⟨front, back, hfront, hback, hfree, rfl⟩ := Item.compileAll_cons_apart_iff.mp hc
    refine Item.compileAll_append_iff.mpr ⟨front, back, ?_, hback, hfree, rfl⟩
    rw [Item.compile, h.gate_eq_none] at hfront
    simpa using hfront
  | group _ ih =>
    refine .cons (fun gates front hc => ?_) _
    rw [Item.compile] at hc ⊢
    exact ih _ _ _ _ hc
  | template _ ih => exact .field (fun items ht => ⟨_, rfl, Option.some.inj ht ▸ ih⟩) (.refl _) _
  | members _ ih => exact .field (fun items ht => ⟨items, ht, .refl items⟩) ih _

/-! ## Paths of states -/

variable {values : Json} {shown : Bool}

/-- Fields have states under the paths that are visited where there is no document, if each of them
does. -/
theorem Field.paths_statesAll_of {fs : List Field} {p : String} {taken : List String}
    (hc : Field.compileAll overrides p taken fs = .ok nodes)
    (h : ∀ f ∈ fs, ∀ n, f.CompilesTo overrides n →
      (Field.states values path shown f).map Prod.fst
        = (Node.visits false .null around path n).map Visit.path) :
    (Field.statesAll values path shown fs).map Prod.fst
      = (Node.visitsAll false .null around path nodes).map Visit.path := by
  induction fs generalizing taken nodes with
  | nil =>
    obtain rfl := Except.ok.inj hc
    rfl
  | cons f fs ih =>
    obtain ⟨node, rest, hnode, hrest, rfl⟩ := Field.compileAll_cons hc
    obtain ⟨hf, hfs⟩ := List.forall_mem_cons.mp h
    rw [Field.statesAll, Node.visitsAll, List.map_append, List.map_append, ih hrest hfs,
      hf node ⟨_, _, _, hnode⟩]

/-- A field has states under the paths that are visited where there is no document. -/
theorem Field.paths_states {f : Field} {n : Node} (h : f.CompilesTo overrides n) :
    (Field.states values path shown f).map Prod.fst
      = (Node.visits false .null around path n).map Visit.path := by
  induction f using Field.memberInduction generalizing n path shown with
  | step f ih =>
    have hname := h.name_eq
    have hshown : false = true → n.isVisible around = true := nofun
    obtain ⟨_, _, _, h⟩ := h
    rw [Field.states_eq, Node.visits_of_shown hshown, List.map_append, List.map_append, hname]
    congr 1
    cases (Field.compile_cases h).2.2.2 with
    | entries hk _ hs _ => simp [Node.visitsBelow, hk, hs, Path.resolve_null]
    | members hk hs hc =>
      rw [if_pos hk, Field.paths_statesAll_of hc fun g hg n hn => ih g hg hn]
      simp [Node.visitsBelow, hs, Path.resolve_null, memberScope, hname]
    | nowhere _ hk hs _ => simp [Node.visitsBelow, hk, hs]

/-- Items have states under the paths that are visited where there is no document. -/
theorem Item.paths_statesAll {items : List Item} {p : String} {taken : List String}
    (hc : Item.compileAll overrides p gates taken items = .ok nodes) :
    (Item.statesAll values shown items).map Prod.fst
      = (Node.visitsAll false .null around "" nodes).map Visit.path := by
  induction items using Item.listInduction generalizing gates taken nodes shown with
  | nil =>
    obtain rfl := Except.ok.inj hc
    rfl
  | field f rest ih =>
    obtain ⟨front, back, hfront, hback, rfl⟩ := Item.compileAll_cons hc
    obtain ⟨node, hnode, rfl⟩ := Except.map_eq_ok.mp hfront
    rw [Item.statesAll, Item.states, List.map_append, ih hback, Field.paths_states ⟨_, _, _, hnode⟩,
      List.singleton_append, Node.visitsAll, List.map_append]
  | group info inner rest ihInner ihRest =>
    obtain ⟨front, back, hfront, hback, rfl⟩ := Item.compileAll_cons hc
    rw [Item.statesAll, Item.states, List.map_append, ihInner hfront, ihRest hback,
      Node.visitsAll_eq_flatMap, Node.visitsAll_eq_flatMap, Node.visitsAll_eq_flatMap,
      List.flatMap_append, List.map_append]

namespace Form

variable {form form' : Form} {v v' : FormValidator}

/-- No path comes up twice among the states of a form. -/
theorem nodup_states (hc : form.compile overrides = .ok v) (hn : form.hasPlainNames = true)
    (values : Json) : (Dict.names (Item.statesAll values true form.items)).Nodup := by
  obtain ⟨nodes, hnodes, rfl⟩ := Except.map_eq_ok.mp hc
  have hnodup := nodup_visits hc hn false .null
  rwa [FormValidator.visits, ← Item.paths_statesAll hnodes] at hnodup

end Form

/-! ## Runs -/

/-- After a step the nodes of a scope run as before. -/
theorem FormValidator.RunsAs.of_moved (h : Node.Moved nodes nodes')
    (hs : ScopeOf overrides fields nodes) : RunsAs ⟨nodes⟩ ⟨nodes'⟩ where
  visits_perm _ _ := h.visitsAll_perm
  locate_eq segments values := h.locate_eq segments values hs
  leadsTo_eq _ := h.leadsTo_eq hs

/-- Items that compile do so after any number of steps, and run as before. -/
theorem Item.exists_runsAs {items items' : List Item}
    (h : Relation.ReflTransGen Item.Moved items items')
    (hc : Item.compileAll overrides "" [] [] items = .ok nodes) :
    ∃ nodes', Item.compileAll overrides "" [] [] items' = .ok nodes'
      ∧ FormValidator.RunsAs ⟨nodes⟩ ⟨nodes'⟩ := by
  induction h with
  | refl => exact ⟨nodes, hc, .refl _⟩
  | tail _ hstep ih =>
    obtain ⟨middle, hmiddle, hruns⟩ := ih
    obtain ⟨nodes', hnodes', hmoved⟩ := hstep.keepsNodes _ _ _ _ hmiddle
    exact ⟨nodes', hnodes', hruns.trans (.of_moved hmoved (Item.compileAll_scopeOf hmiddle).1)⟩

/-- A rearranged form compiles where the form does, and runs as it does. -/
theorem Form.Rearranged.exists_runsAs {form form' : Form} {v : FormValidator}
    (h : form.Rearranged form') (hc : form.compile overrides = .ok v) :
    ∃ v', form'.compile overrides = .ok v' ∧ v.RunsAs v' := by
  obtain ⟨nodes, hnodes, rfl⟩ := Except.map_eq_ok.mp hc
  obtain ⟨nodes', hnodes', hruns⟩ := Item.exists_runsAs h hnodes
  refine ⟨⟨nodes'⟩, ?_, hruns⟩
  rw [Form.compile, hnodes']
  rfl

/-! ## Main statement -/

/-- The layout of a form does not matter: where a form compiles, a form that it is rearranged to
compiles with any templates, and gives the same messages, of the whole form, of what is shown and of
single fields.  It shows the same fields, and finds fields under the same paths. -/
theorem Form.layout_irrelevant {overrides₀ : MessageOverrides} {form form' : Form}
    {v₀ : FormValidator} (hc : form.compile overrides₀ = .ok v₀)
    (hn : form.hasPlainNames = true) (h : form.Rearranged form') :
    (∀ overrides, ∃ v v', form.compile overrides = .ok v ∧ form'.compile overrides = .ok v'
      ∧ ∀ values, v'.validate values = v.validate values
        ∧ v'.validateVisible values = v.validateVisible values
        ∧ ∀ p, v'.validateAt p values = v.validateAt p values)
    ∧ (∀ values, form'.visibility values = form.visibility values)
    ∧ ∀ p, (form'.field? p).isSome = (form.field? p).isSome := by
  refine ⟨fun overrides => ?_, fun values => ?_, fun p => ?_⟩
  · obtain ⟨v, hv⟩ := exists_compile hc overrides
    obtain ⟨v', hv', hruns⟩ := h.exists_runsAs hv
    have herrors : ∀ visibleOnly values,
        FormValidator.errorsOf (v'.visits visibleOnly values) values
          = FormValidator.errorsOf (v.visits visibleOnly values) values :=
      fun visibleOnly values => (FormValidator.errorsOf_perm (hruns.visits_perm visibleOnly values)
        (nodup_visits hv hn visibleOnly values) values).symm
    exact ⟨v, v', hv, hv', fun values => ⟨herrors false values, herrors true values,
      fun p => (hruns.validateAt_eq p values).symm⟩⟩
  · exact (Dict.ofList_perm (Item.statesAll_perm h values true) (nodup_states hc hn values)).symm
  · obtain ⟨v', hv', hruns⟩ := h.exists_runsAs hc
    rw [isSome_field? hv', isSome_field? hc, hruns.leadsTo_eq]

end Reader

namespace Journey

open Delivery (city note)

/-- The legs of a journey, with a template. -/
def legs (items : List Item) : Field := ⟨{ name := "legs", kind := .array }, some items, []⟩

/-- A city, and legs with notes and cities. -/
def journeyForm : Form where
  items := [.field city, .field (legs [.field note, .field city])]

/-- The legs first, in a group, with the fields of the template the other way round. -/
def rearranged : Form where
  items := [.group { title := some "Legs" } [.field (legs [.field city, .field note])],
    .field city]

theorem compiles : ∃ v, journeyForm.compile [] = .ok v := ⟨_, rfl⟩

theorem hasPlainNames : journeyForm.hasPlainNames = true := by decide

theorem isRearranged : journeyForm.Rearranged rearranged := by
  have hfront : Item.Moved journeyForm.items
      [.field (legs [.field note, .field city]), .field city] := .perm (List.Perm.swap _ _ _)
  have htemplate : Item.Moved [.field (legs [.field note, .field city]), .field city]
      [.field (legs [.field city, .field note]), .field city] :=
    .template (.perm (List.Perm.swap _ _ _))
  have hwrap : Item.Moved ([.field (legs [.field city, .field note])] ++ [.field city])
      rearranged.items := .wrap ⟨rfl, rfl⟩
  exact ((Relation.ReflTransGen.single hfront).tail htemplate).tail hwrap

/-- One leg, fragile. -/
def document : Json := .object [("legs", .array [.object [("fragile", .bool true)]])]

theorem segments_note : Path.segments "legs.0.note" = ["legs", "0", "note"] := by decide

/-- In either layout the cities are asked for, and the note of the leg. -/
theorem asked_for_in_either_layout : ∃ v v', journeyForm.compile [] = .ok v
    ∧ journeyForm.hasPlainNames = true ∧ journeyForm.Rearranged rearranged
    ∧ rearranged.compile [] = .ok v'
    ∧ Dict.get? (v.validate document) "city" = some "where"
    ∧ Dict.get? (v'.validate document) "city" = some "where"
    ∧ Dict.get? (v.validateVisible document) "legs.0.note" = some "how"
    ∧ Dict.get? (v'.validateVisible document) "legs.0.note" = some "how"
    ∧ v.validateAt "legs.0.note" document = some "how"
    ∧ v'.validateAt "legs.0.note" document = some "how"
    ∧ rearranged.visibility document = journeyForm.visibility document
    ∧ (rearranged.field? "legs.note").isSome = (journeyForm.field? "legs.note").isSome := by
  obtain ⟨v₀, hc⟩ := compiles
  obtain ⟨hruns, hvisibility, hfield⟩ := Form.layout_irrelevant hc hasPlainNames isRearranged
  obtain ⟨v, v', hv, hv', hsame⟩ := hruns []
  obtain ⟨hvalidate, hvisible, hat⟩ := hsame document
  have hcity : Dict.get? (v.validate document) "city" = some "where" := by
    obtain rfl := Except.ok.inj hv
    rfl
  have hnote : Dict.get? (v.validateVisible document) "legs.0.note" = some "how" := by
    obtain rfl := Except.ok.inj hv
    rfl
  have hnoteAt : v.validateAt "legs.0.note" document = some "how" := by
    obtain rfl := Except.ok.inj hv
    rw [FormValidator.validateAt, segments_note]
    rfl
  exact ⟨v, v', hv, hasPlainNames, isRearranged, hv', hcity, hvalidate ▸ hcity, hnote,
    hvisible ▸ hnote, hnoteAt, (hat _).trans hnoteAt, hvisibility document, hfield _⟩

end Journey
end FormLogic
