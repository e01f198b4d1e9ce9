/-
  FormLogic.Proofs.Validation.Visits

  The visits of a document against the descents of the form.

  The traversal of the compiled nodes threads a scope, the values around and
  a path through two recursive functions.  `Node.mem_visits_iff` says once
  what a visit can be; from it the visits of a scope come out as the fields
  that its description descends to, by induction on the nodes in the one
  direction and on the descent in the other.

    * `Node.descends_of_mem_visits`, `Descends.mem_visitsAll` — the visits of
      a scope are descents of its fields, and the other way round.
    * `Form.reaches_of_mem_visits`, `Form.mem_visits_iff` — the visits of a
      form are the fields that it reaches.
-/

import FormLogic.Proofs.Validation.Scope

namespace FormLogic

/-- An induction over nodes: what holds of a node if it holds of its children holds of all. -/
theorem Node.childInduction {P : Node → Prop} (step : ∀ n, (∀ c ∈ n.children, P c) → P n) :
    ∀ n, P n
  | ⟨gates, validator, scope, children⟩ =>
    step ⟨gates, validator, scope, children⟩ fun c _ => Node.childInduction step c

@[simp] theorem Node.name_mk (gates : List Gate) (validator : FieldValidator) (kind : ChildScope)
    (children : List Node) : Node.name ⟨gates, validator, kind, children⟩ = validator.name :=
  rfl

/-- Members are looked up in what opens them, null standing for what is missing. -/
theorem memberScope_eq_some_iff {value : Option Json} {inner : Json} :
    memberScope value = some inner ↔ OpensMembers value ∧ inner = value.getD .null := by
  constructor
  · intro h
    rcases value with _ | (_ | _ | _ | _ | _ | _) <;> cases h
    · exact ⟨.missing, rfl⟩
    · exact ⟨.null, rfl⟩
    · exact ⟨.object _, rfl⟩
  · rintro ⟨ho, rfl⟩
    cases ho <;> rfl

variable {visibleOnly : Bool} {scope around : Json} {path : String} {visit : Visit}

theorem Node.visitsAll_eq_flatMap (nodes : List Node) :
    Node.visitsAll visibleOnly scope around path nodes
      = nodes.flatMap (Node.visits visibleOnly scope around path) := by
  induction nodes with
  | nil => rfl
  | cons n ns ih => rw [Node.visitsAll, ih, List.flatMap_cons]

/-- The visits of nodes are the visits of each. -/
theorem Node.mem_visitsAll_iff {nodes : List Node} :
    visit ∈ Node.visitsAll visibleOnly scope around path nodes ↔
      ∃ n ∈ nodes, visit ∈ Node.visits visibleOnly scope around path n := by
  rw [Node.visitsAll_eq_flatMap, List.mem_flatMap]

/-- The visits below a node. -/
inductive Node.VisitedBelow (visibleOnly : Bool) (scope around : Json) (path : String)
    (n : Node) (visit : Visit) : Prop
  | member {inner : Json} :
      n.scope = .members → memberScope (Path.resolve scope n.name) = some inner →
      visit ∈ Node.visitsAll visibleOnly inner around (Path.join path n.name) n.children →
      VisitedBelow visibleOnly scope around path n visit
  | item {entries : List Json} {i : Nat} {entry : Json} :
      n.scope = .entries → Path.resolve scope n.name = some (.array entries) →
      entries[i]? = some entry →
      visit ∈ Node.visitsAll visibleOnly entry entry
        (Path.join (Path.join path n.name) (toString i)) n.children →
      VisitedBelow visibleOnly scope around path n visit

/-- The list of the visits below a node. -/
def Node.visitsBelow (visibleOnly : Bool) (scope around : Json) (path : String) (n : Node) :
    List Visit :=
  let own := Path.join path n.name
  match n.scope with
  | .nowhere => []
  | .members =>
    match memberScope (Path.resolve scope n.name) with
    | some inner => Node.visitsAll visibleOnly inner around own n.children
    | none => []
  | .entries =>
    match Path.resolve scope n.name with
    | some (.array entries) =>
      entries.zipIdx.flatMap fun (entry, i) =>
        Node.visitsAll visibleOnly entry entry (Path.join own (toString i)) n.children
    | _ => []

/-- The visits below a node are those of its children, in the member scope or in an entry. -/
theorem Node.mem_visitsBelow_iff {n : Node} :
    visit ∈ n.visitsBelow visibleOnly scope around path ↔
      n.VisitedBelow visibleOnly scope around path visit := by
  constructor
  · intro h
    cases hs : n.scope with
    | nowhere => simp [visitsBelow, hs] at h
    | members =>
      cases hinner : memberScope (Path.resolve scope n.name) with
      | none => simp [visitsBelow, hs, hinner] at h
      | some inner => exact .member hs hinner (by simpa [visitsBelow, hs, hinner] using h)
    | entries =>
      cases hvalue : Path.resolve scope n.name with
      | none => simp [visitsBelow, hs, hvalue] at h
      | some value =>
        cases value with
        | array entries =>
          simp only [visitsBelow, hs, hvalue, List.mem_flatMap] at h
          obtain ⟨⟨entry, i⟩, hmem, h⟩ := h
          exact .item hs hvalue (List.mem_zipIdx_iff_getElem?.mp hmem) h
        | _ => simp [visitsBelow, hs, hvalue] at h
  · intro h
    cases h with
    | member hs hinner h => simpa [visitsBelow, hs, hinner] using h
    | @item entries i entry hs hvalue hentry h =>
      simp only [visitsBelow, hs, hvalue, List.mem_flatMap]
      exact ⟨(entry, i), List.mem_zipIdx_iff_getElem?.mpr hentry, h⟩

/-- Nothing is visited from a node that counts as hidden. -/
theorem Node.visits_eq_nil {n : Node}
    (h : ¬ (visibleOnly = true → n.isVisible around = true)) :
    Node.visits visibleOnly scope around path n = [] := by
  obtain ⟨gates, validator, kind, children⟩ := n
  have hcond : (visibleOnly && !gates.all fun g => g.isOpen around) = true := by
    simpa [Node.isVisible] using h
  rw [Node.visits, if_pos hcond]

/-- From a node that counts as shown what is below it is visited first, and then the node. -/
theorem Node.visits_of_shown {n : Node} (h : visibleOnly = true → n.isVisible around = true) :
    Node.visits visibleOnly scope around path n =
      n.visitsBelow visibleOnly scope around path
        ++ [⟨Path.join path n.name, Path.resolve scope n.name, n.validator⟩] := by
  obtain ⟨gates, validator, kind, children⟩ := n
  have hcond : ¬ (visibleOnly && !gates.all fun g => g.isOpen around) = true := by
    simpa [Node.isVisible] using h
  rw [Node.visits, if_neg hcond]
  rfl

/-- A node that counts as shown is visited itself, and so is what is visited below it. -/
theorem Node.mem_visits_of_shown {n : Node}
    (h : visibleOnly = true → n.isVisible around = true) :
    visit ∈ Node.visits visibleOnly scope around path n ↔
      visit = ⟨Path.join path n.name, Path.resolve scope n.name, n.validator⟩
        ∨ n.VisitedBelow visibleOnly scope around path visit := by
  rw [Node.visits_of_shown h, List.mem_append, List.mem_singleton, or_comm,
    Node.mem_visitsBelow_iff]

/-- What is visited from a node: nothing if it counts as hidden, else the node and what is below
it. -/
theorem Node.mem_visits_iff {n : Node} :
    visit ∈ Node.visits visibleOnly scope around path n ↔
      (visibleOnly = true → n.isVisible around = true)
        ∧ (visit = ⟨Path.join path n.name, Path.resolve scope n.name, n.validator⟩
          ∨ n.VisitedBelow visibleOnly scope around path visit) := by
  by_cases hshown : visibleOnly = true → n.isVisible around = true
  · rw [Node.mem_visits_of_shown hshown, and_iff_right hshown]
  · rw [Node.visits_eq_nil hshown]
    exact ⟨nofun, fun h => absurd h.1 hshown⟩

/-! ## Visits and descents -/

variable [PatternReader] {overrides : MessageOverrides} {fields : Field → Prop}

/-- What is visited from the node of a field is descended to from the field. -/
theorem Node.descends_of_mem_visits {n : Node} {f : Field} (hf : fields f)
    (hn : f.CompilesTo overrides n)
    (h : visit ∈ Node.visits visibleOnly scope around path n) :
    ∃ segments g, Descends OpensMembers fields scope segments g visit.value
      ∧ FieldValidator.compile overrides g.info = .ok visit.validator
      ∧ visit.path = segments.foldl Path.join path := by
  induction n using Node.childInduction generalizing f fields scope around path with
  | step n ih =>
    have hname : n.name = f.info.name := hn.name_eq
    obtain ⟨-, rfl | hbelow⟩ := Node.mem_visits_iff.mp h
    -- the visit of the node itself
    · refine ⟨[f.info.name], f, ?_, hn.validator, ?_⟩
      · rw [hname]
        exact .here hf
      · rw [hname]
        rfl
    -- a visit below it, from a child that stands for one of the fields below
    · cases hbelow with
      | member hs hinner hmem =>
        have hk : f.info.kind = .object := hn.kind_of_members hs
        obtain ⟨ho, rfl⟩ := memberScope_eq_some_iff.mp hinner
        obtain ⟨c, hc, hmem⟩ := Node.mem_visitsAll_iff.mp hmem
        obtain ⟨g, hg, hgc⟩ := (hn.members hk).2.field_of_node c hc
        obtain ⟨segments, g', hd, hv, hpath⟩ := ih c hc hg hgc hmem
        rw [hname] at ho hd hpath
        exact ⟨f.info.name :: segments, g', .member hf hk ho hd, hv, hpath⟩
      | @item entries i entry hs hvalue hentry hmem =>
        have hk : f.info.kind = .array := hn.kind_of_entries hs
        obtain ⟨-, items, ht, hscope⟩ := hn.entries hk
        obtain ⟨c, hc, hmem⟩ := Node.mem_visitsAll_iff.mp hmem
        obtain ⟨g, hg, hgc⟩ := hscope.field_of_node c hc
        obtain ⟨segments, g', hd, hv, hpath⟩ := ih c hc hg hgc hmem
        rw [hname] at hvalue hpath
        exact ⟨f.info.name :: toString i :: segments, g', .item hf hk ht hvalue hentry hd, hv,
          hpath⟩

/-- What the fields of a scope descend to is visited from their nodes. -/
theorem Descends.mem_visitsAll {segments : List String} {f : Field} {value : Option Json}
    {nodes : List Node} (h : Descends OpensMembers fields scope segments f value)
    (hs : ScopeOf overrides fields nodes) (around : Json) (path : String) :
    ∃ validator, FieldValidator.compile overrides f.info = .ok validator
      ∧ ⟨segments.foldl Path.join path, value, validator⟩ ∈
        Node.visitsAll false scope around path nodes := by
  induction h generalizing nodes around path with
  | here hf =>
    obtain ⟨n, hn, hc⟩ := hs.node_of_field _ hf
    refine ⟨n.validator, hc.validator, Node.mem_visitsAll_iff.mpr ⟨n, hn, ?_⟩⟩
    refine Node.mem_visits_iff.mpr ⟨nofun, Or.inl ?_⟩
    rw [hc.name_eq]
    rfl
  | @member _ _ f' _ _ _ hf hk ho _ ih =>
    obtain ⟨n, hn, hc⟩ := hs.node_of_field _ hf
    obtain ⟨hscope, hchildren⟩ := hc.members hk
    obtain ⟨validator, hv, hmem⟩ := ih hchildren around (Path.join path f'.info.name)
    refine ⟨validator, hv, Node.mem_visitsAll_iff.mpr ⟨n, hn, ?_⟩⟩
    refine Node.mem_visits_iff.mpr ⟨nofun, Or.inr ?_⟩
    rw [← hc.name_eq] at ho hmem ⊢
    exact .member hscope (memberScope_eq_some_iff.mpr ⟨ho, rfl⟩) hmem
  | @item _ _ entry f' _ _ _ _ _ i hf hk ht hvalue hentry _ ih =>
    obtain ⟨n, hn, hc⟩ := hs.node_of_field _ hf
    obtain ⟨hscope, items, ht', hchildren⟩ := hc.entries hk
    obtain rfl : items = _ := Option.some.inj (ht'.symm.trans ht)
    obtain ⟨validator, hv, hmem⟩ := ih hchildren entry
      (Path.join (Path.join path f'.info.name) (toString i))
    refine ⟨validator, hv, Node.mem_visitsAll_iff.mpr ⟨n, hn, ?_⟩⟩
    refine Node.mem_visits_iff.mpr ⟨nofun, Or.inr ?_⟩
    rw [← hc.name_eq] at hvalue hmem ⊢
    exact .item hscope hvalue hentry hmem

/-- What is visited in a form, be it all fields or those that are shown, the form reaches. -/
theorem Form.reaches_of_mem_visits {form : Form} {v : FormValidator} {values : Json}
    (h : form.compile overrides = .ok v) (hvisit : visit ∈ v.visits visibleOnly values) :
    ∃ f, form.Reaches values visit.path f visit.value
      ∧ FieldValidator.compile overrides f.info = .ok visit.validator := by
  obtain ⟨n, hn, hvisit⟩ := Node.mem_visitsAll_iff.mp hvisit
  obtain ⟨f, hf, hc⟩ := (Form.compile_scopeOf h).field_of_node n hn
  obtain ⟨segments, g, hd, hv, hpath⟩ := Node.descends_of_mem_visits hf hc hvisit
  exact ⟨g, ⟨segments, hd, hpath⟩, hv⟩

/-- The visits of a form are the fields that it reaches, with their validators. -/
theorem Form.mem_visits_iff {form : Form} {v : FormValidator} {values : Json}
    (h : form.compile overrides = .ok v) :
    visit ∈ v.visits false values ↔ ∃ f, form.Reaches values visit.path f visit.value
      ∧ FieldValidator.compile overrides f.info = .ok visit.validator := by
  refine ⟨Form.reaches_of_mem_visits h, ?_⟩
  rintro ⟨f, ⟨segments, hd, hpath⟩, hv⟩
  obtain ⟨validator, hv', hmem⟩ := hd.mem_visitsAll (Form.compile_scopeOf h) values ""
  obtain rfl : validator = visit.validator := Except.ok.inj (hv'.symm.trans hv)
  have hvisit : visit = ⟨Path.ofSegments segments, visit.value, visit.validator⟩ := by
    rw [← hpath]
  rw [hvisit]
  exact hmem

end FormLogic
