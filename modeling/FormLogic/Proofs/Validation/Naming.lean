/-
  FormLogic.Proofs.Validation.Naming

  One naming of the fields of a form.

  Looking a path up, looking it up in place and compiling go through the same
  groups, templates and members, each in its own way.  They name the same
  fields: a path finds the field whose chain of names it joins, in place or
  not, and the dependencies of the compiled form are those of its fields,
  each once, under its starred chain.  First come, first found is right
  because a form that compiles has no name twice in a scope.

    * `Form.namesInOrder_of_compile` — compiling checks the names.
    * `ScopeOf.mem_dependenciesAll_iff` — the dependencies of nodes are those
      of the fields that they stand for, by starred chains.
    * `Form.nodup_dependencies` — no path has dependencies twice.
    * `Form.names_agree` — the three for a whole form.
-/

import FormLogic.Proofs.Schema.Focus
import FormLogic.Proofs.Validation.Building
import FormLogic.Proofs.Validation.Visits

namespace FormLogic

/-! ## Dependencies by starred chains -/

variable {form : Form} {around names starred segs : List String} {above : String}
  {fields inner : List Field} {f g : Field} {e : String × List String}

/-- Where all names are plain, so are those of every scope. -/
theorem Form.HasScope.plainNames (h : form.HasScope around fields)
    (hn : form.hasPlainNames = true) : PlainNames (· ∈ fields) := by
  induction h with
  | top => exact Item.declares_eq_mem form.items ▸ plainNames_declares hn
  | inner _ hf hinner ih =>
    rcases Field.inner?_cases hinner with ⟨items, -, ht, -, rfl⟩ | ⟨-, -, rfl⟩
    · exact Item.declares_eq_mem items ▸ ih.template hf ht
    · exact ih.members hf

/-- The dependencies of a field, if it has any, under its starred chain. -/
def Field.Depends (fields : List Field) (above : String) (e : String × List String) : Prop :=
  ∃ names starred g, Field.Chain fields names starred g ∧ g.info.dependencies ≠ []
    ∧ e = (starred.foldl Path.join above, g.info.dependencies)

/-- The dependencies of a field of a scope are those of the scope. -/
theorem Field.Depends.of_mem (hf : f ∈ fields) (h : Field.Depends [f] above e) :
    Field.Depends fields above e := by
  obtain ⟨names, starred, g, hchain, h⟩ := h
  exact ⟨names, starred, g, hchain.of_mem hf, h⟩

/-- The dependencies of the scope that a field opens are those of the field. -/
theorem Field.Depends.of_inner (hinner : f.inner? = some (segs, inner))
    (h : Field.Depends inner (segs.foldl Path.join above) e) : Field.Depends [f] above e := by
  obtain ⟨names, starred, g, hchain, hne, rfl⟩ := h
  refine ⟨_, _, g, .deeper (List.mem_singleton_self f) hinner hchain, hne, ?_⟩
  rw [List.foldl_append]

/-- The paths of dependencies of a node go on from its name. -/
theorem Field.Depends.exists_segments (h : Field.Depends [f] above e) (hn : form.NamesInOrder)
    (hscope : form.HasScope around fields) (hf : f ∈ fields) :
    ∃ tail, (∀ s ∈ f.info.name :: tail, Path.isSegment s = true)
      ∧ e.1 = (f.info.name :: tail).foldl Path.join above := by
  obtain ⟨names, starred, g, hchain, -, rfl⟩ := h
  obtain ⟨f', hf', -, tail, -, rfl⟩ := hchain.eq_cons
  obtain rfl := List.mem_singleton.mp hf'
  exact ⟨tail, ((hchain.of_mem hf).isSegment hn hscope).2, rfl⟩

/-- What has dependencies below a field has a longer path than the field. -/
theorem Field.Depends.path_ne (h : Field.Depends inner (segs.foldl Path.join above) e)
    (hn : form.NamesInOrder) (hscope : form.HasScope around fields) (hf : f ∈ fields)
    (hinner : f.inner? = some (segs, inner)) : e.1 ≠ Path.join above f.info.name := by
  obtain ⟨names, starred, g, hchain, -, rfl⟩ := h
  intro heq
  have hbelow : Field.Chain fields (f.info.name :: names) (segs ++ starred) g :=
    .deeper hf hinner hchain
  have hself : Field.Chain fields [f.info.name] [f.info.name] f := .here hf
  have hpath : [f.info.name].foldl Path.join above = (segs ++ starred).foldl Path.join above := by
    rw [List.foldl_append]
    exact heq.symm
  exact hchain.singleton_ne_append hinner f.info.name
    (Path.eq_of_foldl_join_eq hself.starred_ne_nil hbelow.starred_ne_nil
      (hself.isSegment hn hscope).2 (hbelow.isSegment hn hscope).2 hpath)

/-! ## Dependencies of nodes -/

/-- The dependencies below a node. -/
def Node.dependenciesBelow (above : String) (n : Node) : List (String × List String) :=
  let own := Path.join above n.name
  match n.scope with
  | .nowhere => []
  | .members => Node.dependenciesAll own n.children
  | .entries => Node.dependenciesAll (Path.join own "*") n.children

/-- What is below a node comes first. -/
theorem Node.dependencies_eq (above : String) (n : Node) :
    Node.dependencies above n = n.dependenciesBelow above
      ++ if n.validator.dependencies = [] then []
        else [(Path.join above n.name, n.validator.dependencies)] := by
  obtain ⟨gates, validator, kind, children⟩ := n
  rw [Node.dependencies.eq_def]
  rfl

theorem Node.dependenciesAll_eq_flatMap (above : String) (nodes : List Node) :
    Node.dependenciesAll above nodes = nodes.flatMap (Node.dependencies above) := by
  induction nodes with
  | nil => rfl
  | cons n ns ih => rw [Node.dependenciesAll, ih, List.flatMap_cons]

section Reader

variable [PatternReader] {overrides : MessageOverrides} {v : FormValidator} {n : Node}
  {nodes : List Node}

/-! ## Compiled scopes -/

/-- The children of the node of a field stand for the fields of the scope that it opens. -/
theorem Field.CompilesTo.children (h : f.CompilesTo overrides n)
    (hinner : f.inner? = some (segs, inner)) :
    ScopeOf overrides (· ∈ inner) n.children ∧ (inner.map (·.info.name)).Nodup := by
  rcases Field.inner?_cases hinner with ⟨items, hk, ht, -, rfl⟩ | ⟨hk, -, rfl⟩
  · obtain ⟨-, items', ht', hs⟩ := h.entries hk
    obtain rfl := Option.some.inj (ht'.symm.trans ht)
    exact ⟨hs.of_declares, h.nodup_entries hk ht⟩
  · exact ⟨(h.members hk).2, h.nodup_members hk⟩

/-- Every scope of a form that compiles has been compiled. -/
theorem Form.HasScope.compiled (h : form.HasScope around fields)
    (hc : form.compile overrides = .ok v) :
    ∃ nodes, ScopeOf overrides (· ∈ fields) nodes ∧ (fields.map (·.info.name)).Nodup := by
  induction h with
  | top =>
    exact ⟨v.nodes, (Form.compile_scopeOf hc).of_declares, Form.nodup_names hc⟩
  | inner _ hf hinner ih =>
    obtain ⟨nodes, hs, -⟩ := ih
    obtain ⟨n, -, hn⟩ := hs.node_of_field _ hf
    exact ⟨n.children, hn.children hinner⟩

/-- A form that compiles and has plain names has its names in order. -/
theorem Form.namesInOrder_of_compile (hc : form.compile overrides = .ok v)
    (hn : form.hasPlainNames = true) : form.NamesInOrder := by
  intro around fields hscope
  obtain ⟨-, -, hnodup⟩ := hscope.compiled hc
  exact ⟨fun f hf => (hscope.plainNames hn).isSegment hf, hnodup⟩

/-! ## Dependencies of compiled nodes -/

namespace Field.CompilesTo

/-- A node has the dependencies of its field. -/
theorem dependencies_eq (h : f.CompilesTo overrides n) :
    n.validator.dependencies = f.info.dependencies := by
  rw [FieldValidator.compile_eq_ok h.validator]

/-- Below the node of a field that opens a scope are the dependencies of its children, named from
this scope. -/
theorem dependenciesBelow_eq (h : f.CompilesTo overrides n)
    (hinner : f.inner? = some (segs, inner)) (above : String) :
    n.dependenciesBelow above = Node.dependenciesAll (segs.foldl Path.join above) n.children := by
  rw [Node.dependenciesBelow]
  rcases Field.inner?_cases hinner with ⟨_, hk, -, rfl, -⟩ | ⟨hk, rfl, -⟩
  · rw [(h.entries hk).1, h.name_eq]
    rfl
  · rw [(h.members hk).1, h.name_eq]
    rfl

/-- Below any other node are none. -/
theorem dependenciesBelow_eq_nil (h : f.CompilesTo overrides n) (hinner : f.inner? = none)
    (above : String) : n.dependenciesBelow above = [] := by
  rw [Node.dependenciesBelow]
  cases hs : n.scope with
  | nowhere => rfl
  | members =>
    rw [Field.inner?_of_object (h.kind_of_members hs)] at hinner
    cases hinner
  | entries =>
    have hk := h.kind_of_entries hs
    obtain ⟨-, items, ht, -⟩ := h.entries hk
    rw [Field.inner?_of_array hk ht] at hinner
    cases hinner

end Field.CompilesTo

/-- The dependencies of nodes are those of the fields below each. -/
theorem ScopeOf.depends_of_mem (hs : ScopeOf overrides (· ∈ fields) nodes)
    (hnodes : ∀ n ∈ nodes, ∀ f, f.CompilesTo overrides n → e ∈ Node.dependencies above n →
      Field.Depends [f] above e)
    (h : e ∈ Node.dependenciesAll above nodes) : Field.Depends fields above e := by
  rw [Node.dependenciesAll_eq_flatMap] at h
  obtain ⟨n, hn, he⟩ := List.mem_flatMap.mp h
  obtain ⟨f, hf, hc⟩ := hs.field_of_node n hn
  exact (hnodes n hn f hc he).of_mem hf

/-- The dependencies of a node are those of the fields below its field, and its own. -/
theorem Field.CompilesTo.depends_of_mem (hc : f.CompilesTo overrides n)
    (h : e ∈ Node.dependencies above n) : Field.Depends [f] above e := by
  induction n using Node.childInduction generalizing f above with
  | step n ih =>
    rw [Node.dependencies_eq, hc.dependencies_eq, hc.name_eq] at h
    rcases List.mem_append.mp h with h | h
    · cases hinner : f.inner? with
      | none =>
        rw [hc.dependenciesBelow_eq_nil hinner] at h
        cases h
      | some scope =>
        rw [hc.dependenciesBelow_eq hinner] at h
        refine Field.Depends.of_inner hinner ((hc.children hinner).1.depends_of_mem ?_ h)
        exact fun c hmem g hg he => ih c hmem hg he
    · split at h
      · cases h
      · next hne =>
        obtain rfl := List.mem_singleton.mp h
        exact ⟨_, _, f, .here (List.mem_singleton_self f), hne, rfl⟩

/-- The dependencies of a field are among those of the nodes of its scope. -/
theorem Field.Chain.mem_dependenciesAll (h : Field.Chain fields names starred g)
    (hs : ScopeOf overrides (· ∈ fields) nodes) (hne : g.info.dependencies ≠ []) :
    (starred.foldl Path.join above, g.info.dependencies) ∈ Node.dependenciesAll above nodes := by
  induction h generalizing nodes above with
  | here hf =>
    obtain ⟨n, hn, hc⟩ := hs.node_of_field _ hf
    rw [Node.dependenciesAll_eq_flatMap]
    refine List.mem_flatMap.mpr ⟨n, hn, ?_⟩
    rw [Node.dependencies_eq, hc.dependencies_eq, hc.name_eq, if_neg hne]
    exact List.mem_append_right _ (List.mem_singleton_self _)
  | deeper hf hinner _ ih =>
    obtain ⟨n, hn, hc⟩ := hs.node_of_field _ hf
    rw [Node.dependenciesAll_eq_flatMap]
    refine List.mem_flatMap.mpr ⟨n, hn, ?_⟩
    rw [Node.dependencies_eq, hc.dependenciesBelow_eq hinner, List.foldl_append]
    exact List.mem_append_left _ (ih (hc.children hinner).1 hne)

/-- The dependencies of the nodes of a scope are those of the fields that chains lead to. -/
theorem ScopeOf.mem_dependenciesAll_iff (hs : ScopeOf overrides (· ∈ fields) nodes) :
    e ∈ Node.dependenciesAll above nodes ↔ Field.Depends fields above e := by
  constructor
  · exact hs.depends_of_mem fun n _ f hc he => hc.depends_of_mem he
  · rintro ⟨names, starred, g, hchain, hne, rfl⟩
    exact hchain.mem_dependenciesAll hs hne

/-! ## Each once -/

/-- The paths of a scope are distinct if those of each of its nodes are. -/
theorem ScopeOf.nodup_dependenciesAll (hs : ScopeOf overrides (· ∈ fields) nodes)
    (hn : form.NamesInOrder) (hscope : form.HasScope around fields)
    (h : ∀ n ∈ nodes, ((Node.dependencies above n).map Prod.fst).Nodup) :
    ((Node.dependenciesAll above nodes).map Prod.fst).Nodup := by
  rw [Node.dependenciesAll_eq_flatMap, List.map_flatMap, List.nodup_flatMap]
  refine ⟨h, ?_⟩
  apply (List.pairwise_map.mp hs.distinct).imp_of_mem
  intro m n hm hmn hne p hpm hpn
  -- a path that both have would give them one name
  have hsegments : ∀ n ∈ nodes, p ∈ (Node.dependencies above n).map Prod.fst →
      ∃ tail, (∀ s ∈ n.name :: tail, Path.isSegment s = true)
        ∧ p = (n.name :: tail).foldl Path.join above := by
    intro n hmem hp
    obtain ⟨e, he, rfl⟩ := List.mem_map.mp hp
    obtain ⟨f, hf, hc⟩ := hs.field_of_node n hmem
    rw [hc.name_eq]
    exact (hc.depends_of_mem he).exists_segments hn hscope hf
  obtain ⟨tail, hplain, hp⟩ := hsegments m hm hpm
  obtain ⟨tail', hplain', hp'⟩ := hsegments n hmn hpn
  have heq := Path.eq_of_foldl_join_eq (List.cons_ne_nil _ _) (List.cons_ne_nil _ _) hplain hplain'
    (hp.symm.trans hp')
  exact hne (List.cons.inj heq).1

/-- No path has dependencies twice at a node. -/
theorem Field.CompilesTo.nodup_dependencies (hc : f.CompilesTo overrides n)
    (hn : form.NamesInOrder) (hscope : form.HasScope around fields) (hf : f ∈ fields) :
    ((Node.dependencies above n).map Prod.fst).Nodup := by
  induction n using Node.childInduction generalizing f fields around above with
  | step n ih =>
    rw [Node.dependencies_eq, hc.name_eq, List.map_append, List.nodup_append]
    have hown : ((if n.validator.dependencies = [] then []
        else [(Path.join above f.info.name, n.validator.dependencies)]).map Prod.fst).Sublist
          [Path.join above f.info.name] := by
      split
      · exact List.nil_sublist _
      · exact List.Sublist.refl _
    cases hinner : f.inner? with
    | none =>
      rw [hc.dependenciesBelow_eq_nil hinner]
      exact ⟨List.nodup_nil, hown.nodup (List.nodup_singleton _), fun p hp => by cases hp⟩
    | some scope =>
      obtain ⟨segs, inner⟩ := scope
      have hbelow := hscope.inner hf hinner
      have hs := (hc.children hinner).1
      rw [hc.dependenciesBelow_eq hinner]
      refine ⟨hs.nodup_dependenciesAll hn hbelow fun c hmem => ?_,
        hown.nodup (List.nodup_singleton _), ?_⟩
      · obtain ⟨g, hg, hgc⟩ := hs.field_of_node c hmem
        exact ih c hmem hgc hbelow hg
      · intro p hp p' hp'
        obtain rfl := List.mem_singleton.mp (hown.subset hp')
        obtain ⟨e, he, rfl⟩ := List.mem_map.mp hp
        exact (hs.mem_dependenciesAll_iff.mp he).path_ne hn hscope hf hinner

/-- No path has dependencies twice in a form. -/
theorem Form.nodup_dependencies (hc : form.compile overrides = .ok v) (hn : form.NamesInOrder) :
    (v.dependencies.map Prod.fst).Nodup := by
  have hs := (Form.compile_scopeOf hc).of_declares
  refine hs.nodup_dependenciesAll hn .top fun n hmem => ?_
  obtain ⟨f, hf, hfn⟩ := hs.field_of_node n hmem
  exact hfn.nodup_dependencies hn .top hf

/-! ## Main statement -/

/-- Looking up, looking up in place and compiling name the same fields.  A path finds a field if it
is the chain of names of one, and then of this one only.  In place the same field is found; an
update of it that keeps its shape is found under the path and changes what is found under no other
path, but for those of the fields around it.  The dependencies of the compiled form are those of
the fields that have some, each once, under its starred chain. -/
theorem Form.names_agree {overrides : MessageOverrides} {form : Form} {v : FormValidator}
    (hc : form.compile overrides = .ok v) (hn : form.hasPlainNames = true) :
    (∀ q f, form.field? q = some f ↔
      ∃ names starred, form.Chain names starred f ∧ q = Path.ofSegments names)
    ∧ (∀ q, (form.focus? q).map Focus.field = form.field? q)
    ∧ (∀ q g, form.change? q g
      = (form.focus? q).map fun r => r.put { r.field with info := g r.field.info })
    ∧ (∀ q r f', form.focus? q = some r → r.field.SameShape f' →
      (r.put f').field? q = some f'
      ∧ ∀ p, p ≠ q → ¬ Path.Above p q → (r.put f').field? p = form.field? p)
    ∧ (∀ e, e ∈ v.dependencies ↔ ∃ names starred f, form.Chain names starred f
      ∧ f.info.dependencies ≠ [] ∧ e = (Path.ofSegments starred, f.info.dependencies))
    ∧ (v.dependencies.map Prod.fst).Nodup
    ∧ ∀ names starred f names' starred' f',
      form.Chain names starred f → form.Chain names' starred' f' →
      (Path.ofSegments starred = Path.ofSegments starred' ↔
        Path.ofSegments names = Path.ofSegments names')
      ∧ (Path.ofSegments names = Path.ofSegments names' → f = f') := by
  have horder : form.NamesInOrder := Form.namesInOrder_of_compile hc hn
  refine ⟨fun q f => Form.field?_iff_chain horder, form.focus?_field, form.change?_eq_focus,
    fun q r f' hr hsame => ⟨Form.field?_put horder hr hsame, fun p hne habove =>
      Form.field?_put_of_ne horder hr hsame hne habove⟩,
    fun e => (Form.compile_scopeOf hc).of_declares.mem_dependenciesAll_iff,
    Form.nodup_dependencies hc horder, ?_⟩
  intro names starred f names' starred' f' h h'
  refine ⟨h.path_eq_iff h' horder, fun hpath => ?_⟩
  -- the path finds one field
  have hf := (Form.field?_iff_chain horder).mpr ⟨names, starred, h, rfl⟩
  have hf' := (Form.field?_iff_chain horder).mpr ⟨names', starred', h', hpath⟩
  exact Option.some.inj (hf.symm.trans hf')

end Reader

namespace Trips

/-- A text that is checked again when other fields change. -/
def text (name : String) (label : Option String) (dependencies : List String) : Field where
  info := { name, kind := .text, label, rules := some { custom := some { dependencies } } }
  itemSchema := none
  fields := []

/-- Legs of a trip, in a group, each to a city of another group, and whom to ask. -/
def tripForm : Form where
  items := [
    .group {} [.field ⟨{ name := "legs", kind := .array },
      some [.group {} [.field (text "city" none ["legs"])]], []⟩],
    .field ⟨{ name := "contact", kind := .object }, none,
      [text "name" none [], text "phone" none ["contact.name"]]⟩]

theorem compiles : ∃ v, tripForm.compile [] = .ok v := ⟨_, rfl⟩

theorem hasPlainNames : tripForm.hasPlainNames = true := by decide

theorem segments_phone : Path.segments "contact.phone" = ["contact", "phone"] := by decide

theorem segments_city : Path.segments "legs.city" = ["legs", "city"] := by decide

theorem field?_phone : tripForm.field? "contact.phone"
    = some (text "phone" none ["contact.name"]) := by
  rw [Form.field?, show Text.pieces '.' "contact.phone" = _ from segments_phone]
  rfl

theorem field?_city : tripForm.field? "legs.city" = some (text "city" none ["legs"]) := by
  rw [Form.field?, show Text.pieces '.' "legs.city" = _ from segments_city]
  rfl

/-- Of two paths that begin with different names neither stands above the other. -/
theorem city_not_above_phone : ¬ Path.Above "legs.city" "contact.phone" := by
  rintro ⟨rest, h⟩
  have hsegments := congrArg Path.segments h
  rw [Path.segments_append_dot, segments_phone, segments_city] at hsegments
  exact absurd (List.cons.inj hsegments).1 (by decide)

/-- The city of a leg and the phone number have dependencies; a label for the phone number is found
under its path, and the city is found as before. -/
theorem phone_labelled_in_place : ∃ v r, tripForm.compile [] = .ok v
    ∧ tripForm.hasPlainNames = true
    ∧ tripForm.focus? "contact.phone" = some r
    ∧ r.field = text "phone" none ["contact.name"]
    ∧ r.field.SameShape (text "phone" (some "Phone") [])
    ∧ (r.put (text "phone" (some "Phone") [])).field? "contact.phone"
      = some (text "phone" (some "Phone") [])
    ∧ (r.put (text "phone" (some "Phone") [])).field? "legs.city" = some (text "city" none ["legs"])
    ∧ (∃ names starred, tripForm.Chain names starred (text "city" none ["legs"])
      ∧ "legs.city" = Path.ofSegments names)
    ∧ v.dependencies = [("legs.*.city", ["legs"]), ("contact.phone", ["contact.name"])]
    ∧ (v.dependencies.map Prod.fst).Nodup := by
  obtain ⟨v, hc⟩ := compiles
  have hdependencies : v.dependencies
      = [("legs.*.city", ["legs"]), ("contact.phone", ["contact.name"])] := by
    obtain rfl := Except.ok.inj hc
    rfl
  obtain ⟨hlookup, hinPlace, -, hupdate, -, hnodup, -⟩ := Form.names_agree hc hasPlainNames
  obtain ⟨r, hr, hfield⟩ : ∃ r, tripForm.focus? "contact.phone" = some r
      ∧ r.field = text "phone" none ["contact.name"] :=
    Option.map_eq_some_iff.mp ((hinPlace "contact.phone").trans field?_phone)
  have hsame : r.field.SameShape (text "phone" (some "Phone") []) := by
    rw [hfield]
    exact ⟨rfl, rfl, rfl, rfl⟩
  obtain ⟨hself, hothers⟩ := hupdate "contact.phone" r _ hr hsame
  have hcity := (hothers "legs.city" (by decide) city_not_above_phone).trans field?_city
  exact ⟨v, r, hc, hasPlainNames, hr, hfield, hsame, hself, hcity,
    (hlookup "legs.city" _).mp field?_city, hdependencies, hnodup⟩

end Trips
end FormLogic
