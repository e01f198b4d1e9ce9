/-
  FormLogic.Proofs.Validation.Paths

  The paths of the fields that a document makes to be validated.

  Names are compared within one scope only, while a path joins names and
  positions across scopes.  Where every name is one segment, the two come to
  the same: a path is cut into the segments it was joined from, so that two
  fields have different paths as soon as they part anywhere on the way.  A
  name with a dot, or an empty one, breaks this.

    * `Node.nodup_visits` — below one node no path comes up twice.
    * `FormValidator.get?_errorsOf_iff` — then no message hides another.
    * `Form.visit_paths_distinct` — both for a whole form.
    * `Clash.one_path_of_two_fields` — what becomes of names that are no
      segments.
-/

import FormLogic.Pattern.Parser
import FormLogic.Proofs.Validation.Visits
import FormLogic.Proofs.Dict

namespace FormLogic

variable {scope around : Json} {path : String} {visit : Visit}

/-! ## Messages by path -/

namespace FormValidator

/-- Where no path is visited twice, what is found under a path is the message of its visit. -/
theorem get?_errorsOf_iff {visits : List Visit} (h : (visits.map Visit.path).Nodup)
    {values : Json} {m : String} :
    Dict.get? (errorsOf visits values) path = some m ↔
      ∃ visit ∈ visits, visit.path = path ∧ visit.validator.validate visit.value values = some m
    := by
  have hmem : ∀ m, (path, m) ∈ visits.filterMap (·.finding? values) ↔
      ∃ visit ∈ visits, visit.path = path
        ∧ visit.validator.validate visit.value values = some m := by
    intro m
    simp [List.mem_filterMap, Visit.finding?, and_comm]
  have hagree : Dict.Agree (visits.filterMap (·.finding? values)) path := by
    intro m m' hm hm'
    obtain ⟨visit, hvisit, hpath, hm⟩ := (hmem m).mp hm
    obtain ⟨visit', hvisit', hpath', hm'⟩ := (hmem m').mp hm'
    obtain rfl := List.inj_on_of_nodup_map h hvisit hvisit' (hpath.trans hpath'.symm)
    exact Option.some.inj (hm.symm.trans hm')
  rw [errorsOf, Dict.get?_ofList_iff hagree, hmem]

/-- Where no path is visited twice, every visit finds its own message under its path, and none if
it has none. -/
theorem get?_errorsOf {visits : List Visit} (h : (visits.map Visit.path).Nodup) {values : Json}
    (hvisit : visit ∈ visits) :
    Dict.get? (errorsOf visits values) visit.path
      = visit.validator.validate visit.value values := by
  ext m
  rw [get?_errorsOf_iff h]
  constructor
  · rintro ⟨visit', hvisit', hpath, hm⟩
    obtain rfl := List.inj_on_of_nodup_map h hvisit' hvisit hpath
    exact hm
  · exact fun hm => ⟨visit, hvisit, rfl, hm⟩

end FormValidator

/-! ## Segments of a visit -/

/-- A descent from one field begins with the name of that field. -/
theorem Descends.eq_cons {opens : Option Json → Prop} {segments : List String} {f g : Field}
    {value : Option Json} (h : Descends opens (· = f) scope segments g value) :
    ∃ rest, segments = f.info.name :: rest := by
  cases h with
  | here hf => exact ⟨[], by rw [hf]⟩
  | member hf _ _ _ => exact ⟨_, by rw [hf]⟩
  | item hf _ _ _ _ _ => exact ⟨_, by rw [hf]⟩

section Reader

variable [PatternReader] {overrides : MessageOverrides} {fields : Field → Prop}
  {visibleOnly : Bool}

/-- The path of what is visited from a node joins the name of the node, and proper segments
behind it, to the path around. -/
theorem Node.path_of_mem_visits {n : Node} {f : Field} (hf : f.hasPlainNames = true)
    (hn : f.CompilesTo overrides n)
    (h : visit ∈ Node.visits visibleOnly scope around path n) :
    ∃ rest, (∀ s ∈ n.name :: rest, Path.isSegment s = true)
      ∧ visit.path = (n.name :: rest).foldl Path.join path := by
  have hplain : PlainNames (· = f) := by
    rintro _ rfl
    exact hf
  obtain ⟨segments, g, hd, -, hpath⟩ : ∃ segments g,
      Descends OpensMembers (· = f) scope segments g visit.value
        ∧ FieldValidator.compile overrides g.info = .ok visit.validator
        ∧ visit.path = segments.foldl Path.join path := Node.descends_of_mem_visits rfl hn h
  obtain ⟨rest, rfl⟩ := hd.eq_cons
  rw [hn.name_eq]
  exact ⟨rest, hd.isSegment hplain, hpath⟩

/-- The path of what is visited from a scope joins proper segments to the path around. -/
theorem ScopeOf.path_of_mem_visitsAll {nodes : List Node} (hs : ScopeOf overrides fields nodes)
    (hplain : PlainNames fields)
    (h : visit ∈ Node.visitsAll visibleOnly scope around path nodes) :
    ∃ segments, segments ≠ [] ∧ (∀ s ∈ segments, Path.isSegment s = true)
      ∧ visit.path = segments.foldl Path.join path := by
  obtain ⟨n, hn, h⟩ := Node.mem_visitsAll_iff.mp h
  obtain ⟨f, hf, hc⟩ := hs.field_of_node n hn
  obtain ⟨rest, hsegments, hpath⟩ := Node.path_of_mem_visits (hplain f hf) hc h
  exact ⟨_, List.cons_ne_nil _ _, hsegments, hpath⟩

/-- Two nodes of a scope from which one path is visited have one name. -/
theorem Node.name_eq_of_path_eq {m n : Node} {f g : Field} {visit' : Visit}
    {visibleOnly' : Bool} {scope' around' : Json} (hf : f.hasPlainNames = true)
    (hg : g.hasPlainNames = true) (hm : f.CompilesTo overrides m) (hn : g.CompilesTo overrides n)
    (h : visit ∈ Node.visits visibleOnly scope around path m)
    (h' : visit' ∈ Node.visits visibleOnly' scope' around' path n)
    (hpath : visit.path = visit'.path) : m.name = n.name := by
  obtain ⟨rest, hs, hp⟩ := Node.path_of_mem_visits hf hm h
  obtain ⟨rest', hs', hp'⟩ := Node.path_of_mem_visits hg hn h'
  have heq := Path.eq_of_foldl_join_eq (List.cons_ne_nil _ _) (List.cons_ne_nil _ _) hs hs'
    (hp.symm.trans (hpath.trans hp'))
  exact (List.cons.inj heq).1

/-! ## Distinct paths -/

/-- The paths of a scope are distinct if those below each of its nodes are. -/
theorem ScopeOf.nodup_visitsAll {nodes : List Node} (hs : ScopeOf overrides fields nodes)
    (hplain : PlainNames fields)
    (h : ∀ n ∈ nodes, ((Node.visits visibleOnly scope around path n).map Visit.path).Nodup) :
    ((Node.visitsAll visibleOnly scope around path nodes).map Visit.path).Nodup := by
  rw [Node.visitsAll_eq_flatMap, List.map_flatMap, List.nodup_flatMap]
  refine ⟨h, ?_⟩
  apply (List.pairwise_map.mp hs.distinct).imp_of_mem
  intro m n hm hn hne p hpm hpn
  -- a path that both have would give them one name
  obtain ⟨visit, hvisit, rfl⟩ := List.mem_map.mp hpm
  obtain ⟨visit', hvisit', hpath⟩ := List.mem_map.mp hpn
  obtain ⟨f, hf, hfm⟩ := hs.field_of_node m hm
  obtain ⟨g, hg, hgn⟩ := hs.field_of_node n hn
  exact hne (Node.name_eq_of_path_eq (hplain f hf) (hplain g hg) hfm hgn hvisit hvisit'
    hpath.symm)

/-- The paths of the entries of a list are distinct if those of each entry are. -/
theorem ScopeOf.nodup_entries {nodes : List Node} (hs : ScopeOf overrides fields nodes)
    (hplain : PlainNames fields) (entries : List Json)
    (h : ∀ (entry : Json) (i : Nat), ((Node.visitsAll visibleOnly entry entry
      (Path.join path (toString i)) nodes).map Visit.path).Nodup) :
    ((entries.zipIdx.flatMap fun (entry, i) => Node.visitsAll visibleOnly entry entry
      (Path.join path (toString i)) nodes).map Visit.path).Nodup := by
  rw [List.map_flatMap, List.nodup_flatMap]
  refine ⟨fun entry _ => h entry.1 entry.2, ?_⟩
  have hpositions : entries.zipIdx.Pairwise fun a b => a.2 ≠ b.2 := by
    apply List.pairwise_map.mp
    rw [List.zipIdx_map_snd]
    exact List.nodup_range'
  apply hpositions.imp
  intro a b hne p hpa hpb
  -- the segment behind the path of the list is the position
  have hposition : ∀ {entry : Json} {i : Nat}, p ∈ (Node.visitsAll visibleOnly entry entry
      (Path.join path (toString i)) nodes).map Visit.path →
      ∃ rest, (∀ s ∈ toString i :: rest, Path.isSegment s = true)
        ∧ p = (toString i :: rest).foldl Path.join path := by
    intro entry i hp
    obtain ⟨visit, hvisit, rfl⟩ := List.mem_map.mp hp
    obtain ⟨rest, -, hsegments, hpath⟩ := hs.path_of_mem_visitsAll hplain hvisit
    exact ⟨rest, List.forall_mem_cons.mpr ⟨Path.isSegment_toString i, hsegments⟩, hpath⟩
  obtain ⟨rest, hs, hp⟩ := hposition hpa
  obtain ⟨rest', hs', hp'⟩ := hposition hpb
  have heq := Path.eq_of_foldl_join_eq (List.cons_ne_nil _ _) (List.cons_ne_nil _ _) hs hs'
    (hp.symm.trans hp')
  exact hne (Path.eq_of_toString_eq (List.cons.inj heq).1)

/-- What is visited below a node has a longer path than the node. -/
theorem Node.VisitedBelow.path_ne {n : Node} {f : Field} (hf : f.hasPlainNames = true)
    (hn : f.CompilesTo overrides n)
    (h : n.VisitedBelow visibleOnly scope around path visit) :
    visit.path ≠ Path.join path n.name := by
  have hplain : PlainNames (· = f) := by
    rintro _ rfl
    exact hf
  have hname : Path.isSegment n.name = true := hn.name_eq ▸ hplain.isSegment rfl
  obtain ⟨rest, hne, hs, hpath⟩ : ∃ rest, rest ≠ [] ∧ (∀ s ∈ rest, Path.isSegment s = true)
      ∧ visit.path = rest.foldl Path.join (Path.join path n.name) := by
    cases h with
    | member hs _ hmem =>
      have hk := hn.kind_of_members hs
      exact (hn.members hk).2.path_of_mem_visitsAll (hplain.members rfl) hmem
    | @item _ i _ hs _ _ hmem =>
      obtain ⟨-, items, ht, hscope⟩ := hn.entries (hn.kind_of_entries hs)
      obtain ⟨rest, -, hsegments, hpath⟩ :=
        hscope.path_of_mem_visitsAll (hplain.template rfl ht) hmem
      exact ⟨toString i :: rest, List.cons_ne_nil _ _,
        List.forall_mem_cons.mpr ⟨Path.isSegment_toString i, hsegments⟩, hpath⟩
  intro heq
  have hjoin : (n.name :: rest).foldl Path.join path = [n.name].foldl Path.join path :=
    hpath.symm.trans heq
  have hsegments : n.name :: rest = [n.name] :=
    Path.eq_of_foldl_join_eq (List.cons_ne_nil _ _) (List.cons_ne_nil _ _)
      (List.forall_mem_cons.mpr ⟨hname, hs⟩) (List.forall_mem_singleton.mpr hname) hjoin
  exact hne (List.cons.inj hsegments).2

/-- Below a node no path comes up twice if none does from each of its children. -/
theorem Node.nodup_visitsBelow {n : Node} {f : Field} (hf : f.hasPlainNames = true)
    (hn : f.CompilesTo overrides n)
    (h : ∀ c ∈ n.children, ∀ (g : Field) (scope around : Json) (path : String),
      g.hasPlainNames = true → g.CompilesTo overrides c →
      ((Node.visits visibleOnly scope around path c).map Visit.path).Nodup) :
    ((n.visitsBelow visibleOnly scope around path).map Visit.path).Nodup := by
  have hplain : PlainNames (· = f) := by
    rintro _ rfl
    exact hf
  -- the children stand for fields with plain names, whatever scope they are in
  have hall : ∀ {fields : Field → Prop}, ScopeOf overrides fields n.children → PlainNames fields →
      ∀ (scope around : Json) (path : String),
        ((Node.visitsAll visibleOnly scope around path n.children).map Visit.path).Nodup := by
    intro fields hs hp scope around path
    refine hs.nodup_visitsAll hp fun c hc => ?_
    obtain ⟨g, hg, hgc⟩ := hs.field_of_node c hc
    exact h c hc g scope around path (hp g hg) hgc
  cases hs : n.scope with
  | nowhere => simp [visitsBelow, hs]
  | members =>
    have hchildren := (hn.members (hn.kind_of_members hs)).2
    cases hinner : memberScope (Path.resolve scope n.name) with
    | none => simp [visitsBelow, hs, hinner]
    | some inner =>
      simp only [visitsBelow, hs, hinner]
      exact hall hchildren (hplain.members rfl) inner around _
  | entries =>
    obtain ⟨-, items, ht, hchildren⟩ := hn.entries (hn.kind_of_entries hs)
    have hp := hplain.template rfl ht
    simp only [visitsBelow, hs]
    split
    · exact hchildren.nodup_entries hp _ fun entry i => hall hchildren hp entry entry _
    · exact List.nodup_nil

/-- From a node no path is visited twice. -/
theorem Node.nodup_visits {n : Node} {f : Field} (hf : f.hasPlainNames = true)
    (hn : f.CompilesTo overrides n) :
    ((Node.visits visibleOnly scope around path n).map Visit.path).Nodup := by
  induction n using Node.childInduction generalizing f scope around path with
  | step n ih =>
    by_cases hshown : visibleOnly = true → n.isVisible around = true
    · rw [Node.visits_of_shown hshown, List.map_append, List.nodup_append]
      refine ⟨Node.nodup_visitsBelow hf hn ?_, List.nodup_singleton _, ?_⟩
      · intro c hc g scope around path hg hgc
        exact ih c hc hg hgc
      · intro p hp q hq
        obtain ⟨visit, hvisit, rfl⟩ := List.mem_map.mp hp
        obtain rfl := List.mem_singleton.mp hq
        exact (Node.mem_visitsBelow_iff.mp hvisit).path_ne hf hn
    · rw [Node.visits_eq_nil hshown]
      exact List.nodup_nil

namespace Form

variable {form : Form} {v : FormValidator}

/-- The visits of a form have paths of their own. -/
theorem nodup_visits (hc : form.compile overrides = .ok v) (hn : form.hasPlainNames = true)
    (visibleOnly : Bool) (values : Json) :
    ((v.visits visibleOnly values).map Visit.path).Nodup := by
  have hs := compile_scopeOf hc
  have hplain := plainNames_declares hn
  refine hs.nodup_visitsAll hplain fun n hmem => ?_
  obtain ⟨f, hf, hfn⟩ := hs.field_of_node n hmem
  exact Node.nodup_visits (hplain f hf) hfn

end Form

/-! ## Main statement -/

/-- Where every name of a form is one segment, the fields that are validated have paths of their
own, and each finds its own message, or none, under its path. -/
theorem Form.visit_paths_distinct {form : Form} {v : FormValidator}
    (hc : form.compile overrides = .ok v) (hn : form.hasPlainNames = true) (values : Json) :
    ((v.visits false values).map Visit.path).Nodup
      ∧ ∀ visit ∈ v.visits false values,
        Dict.get? (v.validate values) visit.path
          = visit.validator.validate visit.value values :=
  have hnodup := Form.nodup_visits hc hn false values
  ⟨hnodup, fun _ hvisit => FormValidator.get?_errorsOf hnodup hvisit⟩

end Reader

namespace Streets

/-- A text that has to be given. -/
def street : Field where
  info := { name := "street", kind := .text, required := true }
  itemSchema := none
  fields := []

/-- The street by itself, in an object, and in every entry of a list. -/
def streetForm : Form where
  items := [.field street,
    .field ⟨{ name := "home", kind := .object }, none, [street]⟩,
    .group {} [.field ⟨{ name := "past", kind := .array }, some [.field street], []⟩]]

theorem compiles : ∃ v, streetForm.compile [] = .ok v := ⟨_, rfl⟩

theorem hasPlainNames : streetForm.hasPlainNames = true := by decide

/-- Two past streets, of which the second is missing. -/
def values : Json :=
  .object [("past", .array [.object [("street", .string "a")], .object []])]

/-- The street is asked for in each of the scopes that it is missing in. -/
theorem asked_for_in_each_scope : ∃ v, streetForm.compile [] = .ok v
    ∧ streetForm.hasPlainNames = true
    ∧ (v.visits false values).map Visit.path
      = ["street", "home.street", "home", "past.0.street", "past.1.street", "past"]
    ∧ ((v.visits false values).map Visit.path).Nodup
    ∧ ∀ visit ∈ v.visits false values,
      Dict.get? (v.validate values) visit.path = visit.validator.validate visit.value values := by
  obtain ⟨v, hc⟩ := compiles
  have hpaths : (v.visits false values).map Visit.path
      = ["street", "home.street", "home", "past.0.street", "past.1.street", "past"] := by
    obtain rfl := Except.ok.inj hc
    rfl
  exact ⟨v, hc, hasPlainNames, hpaths, Form.visit_paths_distinct hc hasPlainNames values⟩

end Streets

namespace Clash

/-- A text with a message of its own for where it is missing. -/
def text (name message : String) : Field where
  info := { name, kind := .text, required := true, messages := [("required", message)] }
  itemSchema := none
  fields := []

/-- A name with a dot beside an object and its member. -/
def dotted : Form where
  items := [.field (text "a.b" "one"), .field ⟨{ name := "a", kind := .object }, none,
    [text "b" "two"]⟩]

/-- A name beside the member of an object without a name. -/
def unnamed : Form where
  items := [.field (text "b" "one"), .field ⟨{ name := "", kind := .object }, none,
    [text "b" "two"]⟩]

/-- With a dot in a name, or without a name, two fields have one path, and one message takes the
place of the other. -/
theorem one_path_of_two_fields :
    (∃ v, dotted.compile [] = .ok v
      ∧ ¬ ((v.visits false (.object [])).map Visit.path).Nodup
      ∧ (v.visits false (.object [])).filterMap (·.finding? (.object []))
        = [("a.b", "one"), ("a.b", "two")]
      ∧ v.validate (.object []) = [("a.b", "two")])
    ∧ ∃ v, unnamed.compile [] = .ok v
      ∧ ¬ ((v.visits false (.object [])).map Visit.path).Nodup
      ∧ (v.visits false (.object [])).filterMap (·.finding? (.object []))
        = [("b", "one"), ("b", "two")]
      ∧ v.validate (.object []) = [("b", "two")] := by
  have hdotted : ¬ ["a.b", "a.b", "a"].Nodup := by decide
  have hunnamed : ¬ ["b", "b", ""].Nodup := by decide
  exact ⟨⟨_, rfl, hdotted, rfl, rfl⟩, ⟨_, rfl, hunnamed, rfl, rfl⟩⟩

end Clash

end FormLogic
