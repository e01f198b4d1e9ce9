/-
  FormLogic.Proofs.Schema.Chains

  The chains of names that lead to the fields of a form.

  Groups add no name; below a list the chain goes on in its template, below
  an object in its members.  Beside the names stands the chain with a star
  behind the name of every list on the way, which is how the fields of
  entries are named where no entry is meant.  Where the names of every scope
  are in order, names and starred names each belong to one field, and looking
  up a path finds the field that its segments lead to.

    * `Field.Chain`, `Form.Chain` — the names that lead to a field, and the
      starred ones.
    * `Field.seek?` — looking up segments, in terms of the fields of a scope.
    * `Field.Chain.unique`, `Field.Chain.unique_starred` — one field each.
    * `Form.field?_iff_chain` — a path finds a field where it is its chain.
-/

import FormLogic.Proofs.Schema.Change
import FormLogic.Proofs.Schema.Nesting

namespace FormLogic

/-! ## Chains -/

/-- `Field.Chain fields names starred g`: from a scope of `fields` the names lead to `g`, and
`starred` are these names with a star behind that of every list on the way. -/
inductive Field.Chain : List Field → List String → List String → Field → Prop
  | here {fields : List Field} {f : Field} :
      f ∈ fields → Chain fields [f.info.name] [f.info.name] f
  | deeper {fields inner : List Field} {f g : Field} {segs names starred : List String} :
      f ∈ fields → f.inner? = some (segs, inner) → Chain inner names starred g →
      Chain fields (f.info.name :: names) (segs ++ starred) g

/-- The same from the top of a form. -/
def Form.Chain (form : Form) (names starred : List String) (f : Field) : Prop :=
  Field.Chain (Item.flatAll form.items) names starred f

/-- The name of a field stands first on the way into the scope that it opens, and behind it a star
if it is a list. -/
theorem Field.segs_of_inner? {f : Field} {segs : List String} {inner : List Field}
    (h : f.inner? = some (segs, inner)) :
    ∃ mark, segs = f.info.name :: mark ∧ ∀ s ∈ mark, s = "*" := by
  rcases Field.inner?_cases h with ⟨_, -, -, rfl, -⟩ | ⟨-, rfl, -⟩
  · exact ⟨["*"], rfl, fun _ => List.mem_singleton.mp⟩
  · exact ⟨[], rfl, fun _ hs => absurd hs List.not_mem_nil⟩

variable {form : Form} {path : List String} {fields inner : List Field} {f g g' : Field}
  {segs names names' starred starred' : List String}

namespace Field.Chain

/-- What one of the fields leads to, the fields lead to. -/
theorem of_mem (hf : f ∈ fields) (h : Chain [f] names starred g) :
    Chain fields names starred g := by
  cases h with
  | here hg => exact .here (List.mem_singleton.mp hg ▸ hf)
  | deeper hg hinner hrest => exact .deeper (List.mem_singleton.mp hg ▸ hf) hinner hrest

/-- Both chains begin with the name of a field of the scope. -/
theorem eq_cons (h : Chain fields names starred g) :
    ∃ f ∈ fields, ∃ rest tail, names = f.info.name :: rest ∧ starred = f.info.name :: tail := by
  cases h with
  | here hf => exact ⟨_, hf, [], [], rfl, rfl⟩
  | @deeper _ _ f _ _ names starred hf hinner _ =>
    obtain ⟨mark, rfl, -⟩ := Field.segs_of_inner? hinner
    exact ⟨f, hf, names, mark ++ starred, rfl, rfl⟩

theorem names_ne_nil (h : Chain fields names starred g) : names ≠ [] := by
  obtain ⟨_, -, _, _, rfl, -⟩ := h.eq_cons
  exact List.cons_ne_nil _ _

theorem starred_ne_nil (h : Chain fields names starred g) : starred ≠ [] := by
  obtain ⟨_, -, _, _, -, rfl⟩ := h.eq_cons
  exact List.cons_ne_nil _ _

/-- Names and starred names are proper segments. -/
theorem isSegment (h : Chain fields names starred g) (hn : form.NamesInOrder)
    (hscope : form.HasScope path fields) :
    (∀ s ∈ names, Path.isSegment s = true) ∧ ∀ s ∈ starred, Path.isSegment s = true := by
  induction h generalizing path with
  | here hf =>
    have hname := (hn _ _ hscope).1 _ hf
    exact ⟨List.forall_mem_singleton.mpr hname, List.forall_mem_singleton.mpr hname⟩
  | deeper hf hinner _ ih =>
    have hname := (hn _ _ hscope).1 _ hf
    obtain ⟨hnames, hstarred⟩ := ih (hscope.inner hf hinner)
    obtain ⟨mark, rfl, hmark⟩ := Field.segs_of_inner? hinner
    have hstar : ∀ s ∈ mark, Path.isSegment s = true := by
      intro s hs
      rw [hmark s hs]
      decide
    exact ⟨List.forall_mem_cons.mpr ⟨hname, hnames⟩,
      List.forall_mem_cons.mpr ⟨hname, List.forall_mem_append.mpr ⟨hstar, hstarred⟩⟩⟩

/-- Names lead to one field, under one chain of starred names. -/
theorem unique (h : Chain fields names starred g) (hn : form.NamesInOrder)
    (hscope : form.HasScope path fields) (h' : Chain fields names starred' g') :
    starred' = starred ∧ g' = g := by
  induction h generalizing path starred' with
  | @here _ f hf =>
    generalize hnames : [f.info.name] = names' at h'
    cases h' with
    | here hf' =>
      obtain rfl := List.inj_on_of_nodup_map (hn _ _ hscope).2 hf hf' (List.cons.inj hnames).1
      exact ⟨rfl, rfl⟩
    | deeper _ _ hrest => exact absurd (List.cons.inj hnames).2.symm hrest.names_ne_nil
  | @deeper _ _ f _ _ names _ hf hinner hrest ih =>
    generalize hnames : f.info.name :: names = names' at h'
    cases h' with
    | here _ => exact absurd (List.cons.inj hnames).2 hrest.names_ne_nil
    | deeper hf' hinner' hrest' =>
      -- the first name is that of one field, which opens one scope
      obtain ⟨hname, rfl⟩ := List.cons.inj hnames
      obtain rfl := List.inj_on_of_nodup_map (hn _ _ hscope).2 hf hf' hname
      obtain ⟨rfl, rfl⟩ := Prod.mk.inj (Option.some.inj (hinner.symm.trans hinner'))
      obtain ⟨rfl, rfl⟩ := ih (hscope.inner hf hinner) hrest'
      exact ⟨rfl, rfl⟩

/-- More than one starred name leads below a field. -/
theorem singleton_ne_append (h : Chain inner names starred g)
    (hinner : f.inner? = some (segs, inner)) (name : String) : [name] ≠ segs ++ starred := by
  intro heq
  obtain ⟨mark, rfl, -⟩ := Field.segs_of_inner? hinner
  have hnil : [] = mark ++ starred := (List.cons.inj heq).2
  exact h.starred_ne_nil (List.append_eq_nil_iff.mp hnil.symm).2

/-- Starred names lead to one field, under one chain of names. -/
theorem unique_starred (h : Chain fields names starred g) (hn : form.NamesInOrder)
    (hscope : form.HasScope path fields) (h' : Chain fields names' starred g') :
    names' = names ∧ g' = g := by
  induction h generalizing path names' with
  | @here _ f hf =>
    generalize hsegs : [f.info.name] = starred' at h'
    cases h' with
    | here hf' =>
      obtain rfl := List.inj_on_of_nodup_map (hn _ _ hscope).2 hf hf' (List.cons.inj hsegs).1
      exact ⟨rfl, rfl⟩
    | deeper _ hinner hrest => exact absurd hsegs (hrest.singleton_ne_append hinner _)
  | @deeper _ _ f _ segs _ starred hf hinner hrest ih =>
    generalize hsegs : segs ++ starred = starred' at h'
    cases h' with
    | here _ => exact absurd hsegs.symm (hrest.singleton_ne_append hinner _)
    | @deeper _ _ f' _ segs' _ _ hf' hinner' hrest' =>
      have hname : f.info.name = f'.info.name := by
        obtain ⟨mark, rfl, -⟩ := Field.segs_of_inner? hinner
        obtain ⟨mark', rfl, -⟩ := Field.segs_of_inner? hinner'
        exact (List.cons.inj hsegs).1
      obtain rfl := List.inj_on_of_nodup_map (hn _ _ hscope).2 hf hf' hname
      obtain ⟨rfl, rfl⟩ := Prod.mk.inj (Option.some.inj (hinner.symm.trans hinner'))
      obtain rfl := List.append_cancel_left hsegs
      obtain ⟨rfl, rfl⟩ := ih (hscope.inner hf hinner) hrest'
      exact ⟨rfl, rfl⟩

end Field.Chain

/-! ## Looking up -/

/-- The fields of the scope that a field opens, none if it opens none. -/
def Field.innerFields (f : Field) : List Field := (f.inner?.map Prod.snd).getD []

theorem Field.innerFields_of_inner? (h : f.inner? = some (segs, inner)) :
    f.innerFields = inner := by
  rw [Field.innerFields, h]
  rfl

theorem Field.innerFields_of_none (h : f.inner? = none) : f.innerFields = [] := by
  rw [Field.innerFields, h]
  rfl

/-- The field that segments lead to from a scope. -/
def Field.seek? (fields : List Field) : List String → Option Field
  | [] => none
  | s :: rest => (Field.named? s fields).bind fun f => f.descend? rest

/-- Nothing is found among no fields. -/
theorem Field.seek?_nil (names : List String) : Field.seek? [] names = none := by
  cases names <;> rfl

/-- Below a field its scope is looked through. -/
theorem Field.child?_eq (f : Field) (s : String) : f.child? s = Field.named? s f.innerFields := by
  rw [Field.child?]
  split
  · next hk =>
    rw [Field.innerFields_of_inner? (Field.inner?_of_object hk)]
    rfl
  · next hk =>
    cases ht : f.itemSchema with
    | none =>
      have hinner : f.inner? = none := by rw [Field.inner?, hk, ht]; rfl
      rw [Field.innerFields_of_none hinner]
      rfl
    | some items =>
      rw [Field.innerFields_of_inner? (Field.inner?_of_array hk ht), Option.bind_some,
        Item.findIn?_eq]
  · next hobject harray =>
    have hinner : f.inner? = none := by
      rw [Field.inner?]
      split
      · next hk => exact absurd hk harray
      · next hk => exact absurd hk hobject
      · rfl
    rw [Field.innerFields_of_none hinner]
    rfl

/-- Further segments lead on in the scope of a field. -/
theorem Field.descend?_eq_seek? (f : Field) {rest : List String} (hne : rest ≠ []) :
    f.descend? rest = Field.seek? f.innerFields rest := by
  obtain ⟨s, rest, rfl⟩ := List.exists_cons_of_ne_nil hne
  rw [Field.descend?, Field.seek?, Field.child?_eq]

/-- A path is looked up as its segments, in the scope at the top. -/
theorem Form.field?_eq_seek? (form : Form) (q : String) :
    form.field? q = Field.seek? (Item.flatAll form.items) (Path.segments q) := by
  rw [Form.field?, Path.segments]
  cases Text.pieces '.' q with
  | nil => rfl
  | cons s rest => simp only [Field.seek?, Item.findIn?_eq]

/-- Chains lead where looking up does. -/
theorem Field.Chain.seek?_eq (h : Field.Chain fields names starred g) (hn : form.NamesInOrder)
    (hscope : form.HasScope path fields) : Field.seek? fields names = some g := by
  induction h generalizing path with
  | here hf => rw [Field.seek?, Field.named?_of_mem (hn _ _ hscope).2 hf]; rfl
  | deeper hf hinner hrest ih =>
    rw [Field.seek?, Field.named?_of_mem (hn _ _ hscope).2 hf, Option.bind_some,
      Field.descend?_eq_seek? _ hrest.names_ne_nil, Field.innerFields_of_inner? hinner]
    exact ih (hscope.inner hf hinner)

/-- What is found by looking up has a chain. -/
theorem Field.exists_chain_of_seek? (h : Field.seek? fields names = some g) :
    ∃ starred, Field.Chain fields names starred g := by
  induction names generalizing fields with
  | nil => cases h
  | cons s rest ih =>
    obtain ⟨f, hnamed, hdescend⟩ := Option.bind_eq_some_iff.mp h
    obtain ⟨hf, rfl⟩ := Field.mem_of_named? hnamed
    by_cases hrest : rest = []
    · subst hrest
      obtain rfl := Option.some.inj hdescend
      exact ⟨_, .here hf⟩
    · rw [Field.descend?_eq_seek? f hrest] at hdescend
      cases hinner : f.inner? with
      | none =>
        rw [Field.innerFields_of_none hinner, Field.seek?_nil] at hdescend
        cases hdescend
      | some scope =>
        rw [Field.innerFields_of_inner? hinner] at hdescend
        obtain ⟨starred, hchain⟩ := ih hdescend
        exact ⟨_, .deeper hf hinner hchain⟩

namespace Form

/-- Chains of a form are made of proper segments. -/
theorem Chain.isSegment (h : form.Chain names starred f) (hn : form.NamesInOrder) :
    (∀ s ∈ names, Path.isSegment s = true) ∧ ∀ s ∈ starred, Path.isSegment s = true :=
  Field.Chain.isSegment h hn .top

/-- The path of a chain of names is cut into the names. -/
theorem Chain.segments_names (h : form.Chain names starred f) (hn : form.NamesInOrder) :
    Path.segments (Path.ofSegments names) = names :=
  Path.segments_ofSegments h.names_ne_nil (h.isSegment hn).1

theorem Chain.segments_starred (h : form.Chain names starred f) (hn : form.NamesInOrder) :
    Path.segments (Path.ofSegments starred) = starred :=
  Path.segments_ofSegments h.starred_ne_nil (h.isSegment hn).2

/-- A path finds a field exactly where the segments of the path are its chain of names. -/
theorem field?_iff_chain (hn : form.NamesInOrder) {q : String} :
    form.field? q = some f ↔
      ∃ names starred, form.Chain names starred f ∧ q = Path.ofSegments names := by
  rw [field?_eq_seek?]
  constructor
  · intro h
    obtain ⟨starred, hchain⟩ := Field.exists_chain_of_seek? h
    have hsegments := (Chain.isSegment hchain hn).1
    exact ⟨_, starred, hchain, (Path.ofSegments_segments hsegments).symm⟩
  · rintro ⟨names, starred, hchain, rfl⟩
    rw [hchain.segments_names hn]
    exact Field.Chain.seek?_eq hchain hn .top

/-- Two chains name one path where their starred names do, and then lead to one field. -/
theorem Chain.path_eq_iff (h : form.Chain names starred f) (h' : form.Chain names' starred' g)
    (hn : form.NamesInOrder) :
    Path.ofSegments starred = Path.ofSegments starred' ↔
      Path.ofSegments names = Path.ofSegments names' := by
  constructor
  · intro heq
    obtain rfl : starred = starred' := by
      rw [← h.segments_starred hn, heq, h'.segments_starred hn]
    rw [(Field.Chain.unique_starred h hn .top h').1]
  · intro heq
    obtain rfl : names = names' := by
      rw [← h.segments_names hn, heq, h'.segments_names hn]
    rw [(Field.Chain.unique h hn .top h').1]

end Form
end FormLogic
