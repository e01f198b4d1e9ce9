/-
  FormLogic.Proofs.Validation.Entries

  The entries of a list as documents of their own.

  Inside an entry names are looked up in the entry, gates ask the entry, and
  paths begin with that of the entry.  The template of the list alone
  compiles to the nodes below the list, so that a whole form visits below an
  entry what the form of the template visits in it, under longer paths.
  Rules still see the values of the whole form.  Where none of the template
  looks at them, the messages are the same, too.

    * `Node.visits_under` — visits under a longer path.
    * `Descends.exists_node` — what is visited at a field or below it is
      visited from its node.
    * `Form.entries_validated_alone` — the messages below an entry are those
      of the form of the template.
-/

import FormLogic.Proofs.Validation.Building
import FormLogic.Proofs.Validation.Locate
import FormLogic.Proofs.Validation.Visible

namespace FormLogic

variable {fields : Field → Prop} {visibleOnly : Bool} {scope around : Json} {path : String}
  {visit : Visit} {nodes : List Node}

/-! ## Fields that look at their own value alone -/

/-- A field is local if what it reports depends on its own value alone: it has no requirement that
looks at the values of the form, and no check. -/
structure FieldInfo.IsLocal (info : FieldInfo) : Prop where
  required : ∀ r, info.ruleSet.required = some r → ∃ b, r = .flag b
  check : ∀ check, ¬ info.HasCheck check

/-- A field without rules is local. -/
theorem FieldInfo.isLocal_of_rules_eq_none {info : FieldInfo} (h : info.rules = none) :
    info.IsLocal where
  required := by simp [ruleSet, h]
  check := by simp [HasCheck, custom, h]

/-- A descent along a document leads to its field. -/
theorem Descends.leads {opens : Option Json → Prop} {segments : List String} {f : Field}
    {value : Option Json} (h : Descends opens fields scope segments f value) :
    Leads fields segments f := by
  induction h with
  | here hf => exact .here hf
  | member hf hk _ _ ih => exact .member hf hk ih
  | item hf hk ht _ _ _ ih => exact .item hf hk ht ih

/-- Where the names of a scope are plain, so are those of the fields below. -/
theorem Leads.hasPlainNames {segments : List String} {f : Field} (h : Leads fields segments f)
    (hn : PlainNames fields) : f.hasPlainNames = true := by
  refine h.satisfies hn (fun g hg => ?_) fun g items hg ht => ?_
  · exact plainNames_of_all (Field.hasPlainNames_iff.mp hg).2.2
  · exact plainNames_declares ((Field.hasPlainNames_iff.mp hg).2.1 items ht)

/-- The names of a template are plain where those of the form are. -/
theorem Form.hasPlainNames_template {form : Form} {values : Json} {q : String} {f : Field}
    {value : Option Json} {items : List Item} (hn : form.hasPlainNames = true)
    (hf : form.Reaches values q f value) (ht : f.itemSchema = some items) :
    Form.hasPlainNames { items } = true := by
  obtain ⟨segments, hd, -⟩ := hf
  exact (Field.hasPlainNames_iff.mp (hd.leads.hasPlainNames (plainNames_declares hn))).2.1 items ht

/-! ## Longer paths -/

/-- A visit under a longer path. -/
def Visit.under (above : String) (visit : Visit) : Visit :=
  { visit with path := above ++ "." ++ visit.path }

theorem Visit.under_injective (above : String) : Function.Injective (Visit.under above) := by
  rintro ⟨p, value, validator⟩ ⟨q, value', validator'⟩ h
  obtain ⟨hpath, rfl, rfl⟩ := Visit.mk.inj h
  obtain rfl := String.append_right_inj _ |>.mp hpath
  rfl

/-- Nodes are visited under longer paths if each of them is. -/
theorem Node.visitsAll_under_of {above path path' : String}
    (h : ∀ n ∈ nodes, Node.visits visibleOnly scope around path n
      = (Node.visits visibleOnly scope around path' n).map (Visit.under above)) :
    Node.visitsAll visibleOnly scope around path nodes
      = (Node.visitsAll visibleOnly scope around path' nodes).map (Visit.under above) := by
  rw [Node.visitsAll_eq_flatMap, Node.visitsAll_eq_flatMap, List.map_flatMap]
  exact List.flatMap_congr h

/-- Where the path of a node is longer, so are those of all that is visited from it. -/
theorem Node.visits_under {above path path' : String} (n : Node)
    (hpath : Path.join path n.name = above ++ "." ++ Path.join path' n.name)
    (hne : Path.join path' n.name ≠ "") :
    Node.visits visibleOnly scope around path n
      = (Node.visits visibleOnly scope around path' n).map (Visit.under above) := by
  induction n using Node.childInduction generalizing scope around path path' with
  | step n ih =>
    -- the longer path stays longer with one more segment
    have hjoin : ∀ {own : String}, own ≠ "" → ∀ s,
        Path.join (above ++ "." ++ own) s = above ++ "." ++ Path.join own s := by
      intro own hown s
      rw [Path.join_of_ne_empty hown, Path.join_of_ne_empty (Path.append_dot_ne_empty above own)]
      simp only [String.append_assoc]
    have hall : ∀ {own : String}, own ≠ "" → ∀ scope around,
        Node.visitsAll visibleOnly scope around (above ++ "." ++ own) n.children
          = (Node.visitsAll visibleOnly scope around own n.children).map (Visit.under above) :=
      fun hown scope around => Node.visitsAll_under_of fun c hc =>
        ih c hc (hjoin hown c.name) (Path.join_ne_empty hown c.name)
    have hbelow : n.visitsBelow visibleOnly scope around path
        = (n.visitsBelow visibleOnly scope around path').map (Visit.under above) := by
      simp only [Node.visitsBelow, hpath]
      split
      · rfl
      · split
        · exact hall hne _ _
        · rfl
      · split
        · rw [List.map_flatMap]
          refine List.flatMap_congr fun entry _ => ?_
          rw [hjoin hne]
          exact hall (Path.join_ne_empty hne _) _ _
        · rfl
    by_cases hshown : visibleOnly = true → n.isVisible around = true
    · rw [Node.visits_of_shown hshown, Node.visits_of_shown hshown, hbelow, hpath,
        List.map_append]
      rfl
    · rw [Node.visits_eq_nil hshown, Node.visits_eq_nil hshown]
      rfl

/-! ## Visits in an entry -/

/-- Under a path that goes on behind its name, the node of an object visits what its members do. -/
theorem Node.mem_members_iff_of_path {n : Node} (hs : n.scope = .members)
    (hshown : visibleOnly = true → n.isVisible around = true)
    (ho : OpensMembers (Path.resolve scope n.name)) {rest : List String} (hne : rest ≠ [])
    (hrest : ∀ s ∈ n.name :: rest, Path.isSegment s = true)
    (hpath : visit.path = (n.name :: rest).foldl Path.join path) :
    visit ∈ Node.visits visibleOnly scope around path n ↔
      visit ∈ Node.visitsAll visibleOnly ((Path.resolve scope n.name).getD .null) around
        (Path.join path n.name) n.children := by
  constructor
  · intro h
    obtain ⟨inner, hinner, hmem⟩ := Node.mem_members_of_path hs hne hrest hpath h
    rwa [(memberScope_eq_some_iff.mp hinner).2] at hmem
  · intro h
    exact Node.mem_visits_iff.mpr
      ⟨hshown, Or.inr (.member hs (memberScope_eq_some_iff.mpr ⟨ho, rfl⟩) h)⟩

/-! ## Visits of compiled nodes -/

section Reader

variable [PatternReader] {overrides : MessageOverrides}

/-- The validator of a local field has no custom step. -/
theorem FieldValidator.custom_of_isLocal {info : FieldInfo} {v : FieldValidator}
    (hv : FieldValidator.compile overrides info = .ok v) (h : info.IsLocal) : v.custom = none := by
  rw [compile_eq_ok hv]
  refine Option.map_eq_none_iff.mpr (Option.eq_none_iff_forall_ne_some.mpr fun check hcheck => ?_)
  obtain ⟨rule, hrule, hattached⟩ := Option.bind_eq_some_iff.mp hcheck
  exact h.check check ⟨rule, hrule, hattached⟩

/-- The validator of a local field does not look at the values of the form. -/
theorem FieldValidator.validate_of_isLocal {info : FieldInfo} {v : FieldValidator}
    (hv : FieldValidator.compile overrides info = .ok v) (h : info.IsLocal)
    (value : Option Json) (values values' : Json) :
    v.validate value values = v.validate value values' := by
  have hrequired : v.isRequired values = v.isRequired values' := by
    rw [compile_eq_ok hv, isRequired, isRequired]
    cases hr : info.ruleSet.required with
    | none => simp
    | some r =>
      obtain ⟨b, rfl⟩ := h.required r hr
      simp [RequiredRule.asks]
  rw [validate, validate, hrequired, custom_of_isLocal hv h]
  rfl

/-- Where a scope compiles, so do the fields below. -/
theorem Leads.exists_compilesTo {segments : List String} {f : Field} (h : Leads fields segments f)
    (hs : ScopeOf overrides fields nodes) : ∃ n, f.CompilesTo overrides n := by
  induction h generalizing nodes with
  | here hf =>
    obtain ⟨n, -, hn⟩ := hs.node_of_field _ hf
    exact ⟨n, hn⟩
  | member hf hk _ ih =>
    obtain ⟨n, -, hn⟩ := hs.node_of_field _ hf
    exact ih (hn.members hk).2
  | item hf hk ht _ ih =>
    obtain ⟨n, -, hn⟩ := hs.node_of_field _ hf
    obtain ⟨-, items, ht', hchildren⟩ := hn.entries hk
    obtain rfl := Option.some.inj (ht'.symm.trans ht)
    exact ih hchildren

/-- A scope visits under a longer path what it visits under none. -/
theorem ScopeOf.mem_visitsAll_under_iff {above : String} (hs : ScopeOf overrides fields nodes)
    (hplain : PlainNames fields) (hne : above ≠ "") :
    visit.under above ∈ Node.visitsAll visibleOnly scope around above nodes ↔
      visit ∈ Node.visitsAll visibleOnly scope around "" nodes := by
  have hunder : ∀ n ∈ nodes, Node.visits visibleOnly scope around above n
      = (Node.visits visibleOnly scope around "" n).map (Visit.under above) := by
    intro n hn
    obtain ⟨f, hf, hc⟩ := hs.field_of_node n hn
    have hname : n.name ≠ "" := hc.name_eq ▸ (Path.isSegment_iff.mp (hplain.isSegment hf)).1
    exact Node.visits_under n (Path.join_of_ne_empty hne n.name) hname
  rw [Node.visitsAll_under_of hunder, List.mem_map_of_injective (Visit.under_injective above)]

/-- Under a path that begins with the name of a node, a scope visits what the node does. -/
theorem ScopeOf.mem_visitsAll_iff_of_path (hs : ScopeOf overrides fields nodes)
    (hplain : PlainNames fields) {n : Node} (hn : n ∈ nodes) {rest : List String}
    (hrest : ∀ s ∈ n.name :: rest, Path.isSegment s = true)
    (hpath : visit.path = (n.name :: rest).foldl Path.join path) :
    visit ∈ Node.visitsAll visibleOnly scope around path nodes ↔
      visit ∈ Node.visits visibleOnly scope around path n :=
  ⟨hs.mem_visits_of_path hplain hn hrest hpath, fun h => Node.mem_visitsAll_iff.mpr ⟨n, hn, h⟩⟩

/-- Under a path that goes on with a position, the node of a list visits what its children do in
the entry at that position. -/
theorem Node.mem_entries_iff_of_path {n : Node} (hs : n.scope = .entries)
    (hshown : visibleOnly = true → n.isVisible around = true) {entries : List Json} {i : Nat}
    {entry : Json} (hvalue : Path.resolve scope n.name = some (.array entries))
    (hentry : entries[i]? = some entry) (hc : ScopeOf overrides fields n.children)
    (hplain : PlainNames fields) {rest : List String}
    (hrest : ∀ s ∈ n.name :: toString i :: rest, Path.isSegment s = true)
    (hpath : visit.path = (n.name :: toString i :: rest).foldl Path.join path) :
    visit ∈ Node.visits visibleOnly scope around path n ↔
      visit ∈ Node.visitsAll visibleOnly entry entry
        (Path.join (Path.join path n.name) (toString i)) n.children := by
  have hname : Path.isSegment n.name = true := hrest _ List.mem_cons_self
  constructor
  · intro h
    obtain ⟨-, rfl | hbelow⟩ := Node.mem_visits_iff.mp h
    · -- the node itself has no position behind its name
      have heq : [n.name] = n.name :: toString i :: rest :=
        Path.eq_of_foldl_join_eq (List.cons_ne_nil _ _) (List.cons_ne_nil _ _)
          (List.forall_mem_singleton.mpr hname) hrest hpath
      cases (List.cons.inj heq).2
    · cases hbelow with
      | member hs' _ _ =>
        rw [hs] at hs'
        cases hs'
      | @item entries' j entry' _ hvalue' hentry' hmem =>
        obtain ⟨below, -, hsegments, hbelow⟩ := hc.path_of_mem_visitsAll hplain hmem
        have heq : n.name :: toString j :: below = n.name :: toString i :: rest :=
          Path.eq_of_foldl_join_eq (List.cons_ne_nil _ _) (List.cons_ne_nil _ _)
            (List.forall_mem_cons.mpr ⟨hname,
              List.forall_mem_cons.mpr ⟨Path.isSegment_toString j, hsegments⟩⟩)
            hrest (hbelow.symm.trans hpath)
        -- one value and one position give one entry
        obtain rfl := Path.eq_of_toString_eq (List.cons.inj (List.cons.inj heq).2).1
        cases hvalue'.symm.trans hvalue
        cases hentry'.symm.trans hentry
        exact hmem
  · intro h
    exact Node.mem_visits_iff.mpr ⟨hshown, Or.inr (.item hs hvalue hentry h)⟩

/-- Where a list is visited, what a scope visits below an entry of it is what the nodes of its
template visit in the entry. -/
theorem Descends.mem_visitsAll_entry_iff {segments : List String} {f : Field} {value : Option Json}
    {entries : List Json} {i : Nat} {entry : Json} {children : List Node}
    (h : Descends OpensMembers fields scope segments f value)
    (hvalue : value = some (.array entries)) (hk : f.info.kind = .array)
    (hentry : entries[i]? = some entry)
    (hchildren : ∀ n, f.CompilesTo overrides n → n.children = children)
    (hs : ScopeOf overrides fields nodes) (hplain : PlainNames fields)
    (hvisited : ∃ w ∈ Node.visitsAll visibleOnly scope around path nodes,
      w.path = segments.foldl Path.join path)
    {rest : List String} (hrest : ∀ s ∈ rest, Path.isSegment s = true)
    (hpath : visit.path = (segments ++ toString i :: rest).foldl Path.join path) :
    visit ∈ Node.visitsAll visibleOnly scope around path nodes ↔
      visit ∈ Node.visitsAll visibleOnly entry entry
        ((segments ++ [toString i]).foldl Path.join path) children := by
  obtain ⟨w, hw, hwpath⟩ := hvisited
  have hsegments := h.isSegment hplain
  have hwhole : ∀ s ∈ segments ++ toString i :: rest, Path.isSegment s = true :=
    List.forall_mem_append.mpr
      ⟨hsegments, List.forall_mem_cons.mpr ⟨Path.isSegment_toString i, hrest⟩⟩
  -- the list being visited, so are the nodes above it
  induction h generalizing nodes path around with
  | @here fields scope f hf =>
    obtain ⟨n, hn, hc⟩ := hs.node_of_field f hf
    obtain ⟨hscope, items, ht, hbelow⟩ := hc.entries hk
    obtain rfl := hchildren n hc
    rw [← hc.name_eq] at hvalue hpath hwpath hsegments hwhole ⊢
    have hw := hs.mem_visits_of_path hplain hn hsegments hwpath hw
    rw [hs.mem_visitsAll_iff_of_path hplain hn hwhole hpath]
    exact Node.mem_entries_iff_of_path hscope (Node.mem_visits_iff.mp hw).1 hvalue hentry hbelow
      (hplain.template hf ht) hwhole hpath
  | @member fields scope f _ _ _ hf hk' ho hrest' ih =>
    obtain ⟨n, hn, hc⟩ := hs.node_of_field f hf
    obtain ⟨hscope, hbelow⟩ := hc.members hk'
    rw [← hc.name_eq] at ho ih hpath hwpath hsegments hwhole ⊢
    have hw := hs.mem_visits_of_path hplain hn hsegments hwpath hw
    have hshown := (Node.mem_visits_iff.mp hw).1
    rw [Node.mem_members_iff_of_path hscope hshown ho hrest'.ne_nil hsegments hwpath] at hw
    rw [hs.mem_visitsAll_iff_of_path hplain hn hwhole hpath,
      Node.mem_members_iff_of_path hscope hshown ho
        (List.append_ne_nil_of_left_ne_nil hrest'.ne_nil _) hwhole hpath]
    exact ih hvalue hk hchildren hbelow (hplain.members hf) hpath hw hwpath
      (List.forall_mem_cons.mp hsegments).2 (List.forall_mem_cons.mp hwhole).2
  | @item fields scope _ f _ _ _ items' _ j hf hk' ht hv he _ ih =>
    obtain ⟨n, hn, hc⟩ := hs.node_of_field f hf
    obtain ⟨hscope, items, ht', hbelow⟩ := hc.entries hk'
    obtain rfl := Option.some.inj (ht'.symm.trans ht)
    have hp := hplain.template hf ht
    rw [← hc.name_eq] at hv hpath hwpath hsegments hwhole ⊢
    have hw := hs.mem_visits_of_path hplain hn hsegments hwpath hw
    have hshown := (Node.mem_visits_iff.mp hw).1
    rw [Node.mem_entries_iff_of_path hscope hshown hv he hbelow hp hsegments hwpath] at hw
    rw [hs.mem_visitsAll_iff_of_path hplain hn hwhole hpath,
      Node.mem_entries_iff_of_path hscope hshown hv he hbelow hp hwhole hpath]
    exact ih hvalue hk hchildren hbelow hp hpath hw hwpath
      (fun s h => hsegments s (List.mem_cons_of_mem _ (List.mem_cons_of_mem _ h)))
      (fun s h => hwhole s (List.mem_cons_of_mem _ (List.mem_cons_of_mem _ h)))

/-- Where a list is visited, what a scope visits below an entry of it, without the path of the
entry, is what the nodes of its template visit in the entry. -/
theorem Descends.under_mem_visitsAll_iff {segments : List String} {f : Field}
    {entries : List Json} {i : Nat} {entry : Json} {fields' : Field → Prop} {children : List Node}
    (h : Descends OpensMembers fields scope segments f (some (.array entries)))
    (hk : f.info.kind = .array) (hentry : entries[i]? = some entry)
    (hchildren : ∀ n, f.CompilesTo overrides n → n.children = children)
    (hs : ScopeOf overrides fields nodes) (hplain : PlainNames fields)
    (hs' : ScopeOf overrides fields' children) (hplain' : PlainNames fields')
    (hvisited : ∃ w ∈ Node.visitsAll visibleOnly scope around "" nodes,
      w.path = Path.ofSegments segments) :
    visit.under (Path.ofSegments segments ++ "." ++ toString i)
        ∈ Node.visitsAll visibleOnly scope around "" nodes ↔
      visit ∈ Node.visitsAll visibleOnly entry entry "" children := by
  have hsegments : ∀ s ∈ segments ++ [toString i], Path.isSegment s = true :=
    List.forall_mem_append.mpr ⟨h.isSegment hplain,
      List.forall_mem_singleton.mpr (Path.isSegment_toString i)⟩
  have hne : segments ++ [toString i] ≠ [] := List.append_ne_nil_of_left_ne_nil h.ne_nil _
  rw [← Path.ofSegments_concat_of_ne_nil h.ne_nil (h.isSegment hplain),
    ← hs'.mem_visitsAll_under_iff hplain' (Path.ofSegments_ne_empty hne hsegments)]
  generalize hvisit : visit.under (Path.ofSegments (segments ++ [toString i])) = below
  have hbelow : below.path = Path.ofSegments (segments ++ [toString i]) ++ "." ++ visit.path := by
    rw [← hvisit]
    rfl
  -- on either side the path goes on behind the segments of the entry
  constructor
  · intro hmem
    obtain ⟨whole, -, hwhole, hpath⟩ := hs.path_of_mem_visitsAll hplain hmem
    have habove : Path.Above (Path.ofSegments (segments ++ [toString i])) (Path.ofSegments whole) :=
      ⟨visit.path, hpath.symm.trans hbelow⟩
    obtain ⟨rest, -, rfl⟩ := (Path.above_ofSegments_iff hne hsegments hwhole).mp habove
    have hrest := (List.forall_mem_append.mp hwhole).2
    rw [List.append_assoc] at hpath
    exact (h.mem_visitsAll_entry_iff rfl hk hentry hchildren hs hplain hvisited hrest hpath).mp
      hmem
  · intro hmem
    obtain ⟨rest, -, hrest, hpath⟩ := hs'.path_of_mem_visitsAll hplain' hmem
    rw [Path.ofSegments, ← List.foldl_append, List.append_assoc] at hpath
    exact (h.mem_visitsAll_entry_iff rfl hk hentry hchildren hs hplain hvisited hrest hpath).mpr
      hmem

/-! ## The form of a template -/

/-- The template of a list that compiles is a form that compiles, to the nodes below the list. -/
theorem Field.CompilesTo.compile_template {f : Field} {n : Node} (h : f.CompilesTo overrides n)
    (hk : f.info.kind = .array) {items : List Item} (ht : f.itemSchema = some items) :
    Form.compile overrides { items } = .ok ⟨n.children⟩ := by
  obtain ⟨_, _, _, h⟩ := h
  cases (Field.compile_cases h).2.2.2 with
  | entries _ ht' _ hc =>
    obtain rfl := Option.some.inj (ht'.symm.trans ht)
    rw [Form.compile, (Item.compileAll_anywhere_iff.mp hc).1]
    rfl
  | members hk' _ _ => simp [hk] at hk'
  | nowhere hk' _ _ _ => exact absurd hk hk'

/-- Validators of local fields say the same of a value within any two documents. -/
theorem Form.validate_of_isLocal {form : Form} {v : FormValidator} {values values' : Json}
    (hc : form.compile overrides = .ok v)
    (hlocal : ∀ segments g, Leads (Item.Declares form.items) segments g → g.info.IsLocal)
    (hvisit : visit ∈ v.visits visibleOnly values) :
    visit.validator.validate visit.value values' = visit.validator.validate visit.value values := by
  obtain ⟨g, ⟨segments, hd, -⟩, hv⟩ := reaches_of_mem_visits hc hvisit
  exact FieldValidator.validate_of_isLocal hv (hlocal segments g hd.leads) _ _ _

namespace Form

variable {form : Form} {v w : FormValidator} {values : Json} {q p : String} {f : Field}
  {entries : List Json} {items : List Item} {i : Nat} {entry : Json}

section

variable (hc : form.compile overrides = .ok v) (hn : form.hasPlainNames = true)
  (hf : form.Reaches values q f (some (.array entries))) (hk : f.info.kind = .array)
  (ht : f.itemSchema = some items) (hw : Form.compile overrides { items } = .ok w)
include hc hn hf hk ht hw

/-- What a form visits below an entry of a list that it visits is what the form of the template
visits in the entry. -/
theorem under_mem_visits_iff (hentry : entries[i]? = some entry)
    (hvisited : ∃ visit ∈ v.visits visibleOnly values, visit.path = q) :
    visit.under (q ++ "." ++ toString i) ∈ v.visits visibleOnly values ↔
      visit ∈ w.visits visibleOnly entry := by
  have hchildren : ∀ n, f.CompilesTo overrides n → n.children = w.nodes := by
    intro n hcn
    obtain rfl := Except.ok.inj ((hcn.compile_template hk ht).symm.trans hw)
    rfl
  have hplain := plainNames_declares (hasPlainNames_template hn hf ht)
  obtain ⟨segments, hd, rfl⟩ := hf
  exact hd.under_mem_visitsAll_iff hk hentry hchildren (compile_scopeOf hc)
    (plainNames_declares hn) (compile_scopeOf hw) hplain hvisited

/-- The messages below an entry of a list that is visited are those of the form of the template. -/
theorem get?_errorsOf_below (hentry : entries[i]? = some entry)
    (hlocal : ∀ segments g, Leads (Item.Declares items) segments g → g.info.IsLocal)
    (hvisited : ∃ visit ∈ v.visits visibleOnly values, visit.path = q) (p : String) :
    Dict.get? (FormValidator.errorsOf (v.visits visibleOnly values) values)
        (q ++ "." ++ toString i ++ "." ++ p)
      = Dict.get? (FormValidator.errorsOf (w.visits visibleOnly entry) entry) p := by
  ext m
  rw [FormValidator.get?_errorsOf_iff (nodup_visits hc hn _ _),
    FormValidator.get?_errorsOf_iff (nodup_visits hw (hasPlainNames_template hn hf ht) _ _)]
  constructor
  · rintro ⟨⟨path, value, validator⟩, hvisit, hpath, hm⟩
    obtain rfl : path = q ++ "." ++ toString i ++ "." ++ p := hpath
    have hbelow : ⟨p, value, validator⟩ ∈ w.visits visibleOnly entry :=
      (under_mem_visits_iff hc hn hf hk ht hw hentry hvisited).mp hvisit
    exact ⟨_, hbelow, rfl, (validate_of_isLocal hw hlocal hbelow).symm.trans hm⟩
  · rintro ⟨visit, hbelow, rfl, hm⟩
    exact ⟨_, (under_mem_visits_iff hc hn hf hk ht hw hentry hvisited).mpr hbelow, rfl,
      (validate_of_isLocal hw hlocal hbelow).trans hm⟩

end

end Form

/-- A form shows a path: the field there is visited where gates are looked at. -/
def FormValidator.Shows (v : FormValidator) (values : Json) (path : String) : Prop :=
  ∃ visit ∈ v.visits true values, visit.path = path

/-- The path of what is below an entry of a list. -/
def Path.inEntry (list : String) (i : Nat) (path : String) : String :=
  list ++ "." ++ toString i ++ "." ++ path

/-! ## Main statement -/

/-- Below an entry of a list that a form visits, and whose template has local fields only, the
messages of the form are those that the form of the template has for the entry, under longer paths.
So are the messages of what is shown, where the list is.  What is in the other entries makes no
difference. -/
theorem Form.entries_validated_alone {form : Form} {v : FormValidator}
    (hc : form.compile overrides = .ok v) (hn : form.hasPlainNames = true) {values : Json}
    {q : String} {f : Field} {entries : List Json} {items : List Item}
    (hf : form.Reaches values q f (some (.array entries))) (hk : f.info.kind = .array)
    (ht : f.itemSchema = some items)
    (hlocal : ∀ segments g, Leads (Item.Declares items) segments g → g.info.IsLocal) :
    ∃ w, Form.compile overrides { items } = .ok w
      ∧ ∀ i entry, entries[i]? = some entry →
        (∀ p, Dict.get? (v.validate values) (Path.inEntry q i p) = Dict.get? (w.validate entry) p)
        ∧ (v.Shows values q → ∀ p, Dict.get? (v.validateVisible values) (Path.inEntry q i p)
          = Dict.get? (w.validateVisible entry) p)
        ∧ ∀ values' entries', form.Reaches values' q f (some (.array entries')) →
          entries'[i]? = some entry → ∀ p,
          Dict.get? (v.validate values') (Path.inEntry q i p)
              = Dict.get? (v.validate values) (Path.inEntry q i p)
            ∧ (v.Shows values q → v.Shows values' q →
              Dict.get? (v.validateVisible values') (Path.inEntry q i p)
                = Dict.get? (v.validateVisible values) (Path.inEntry q i p)) := by
  obtain ⟨w, hw⟩ : ∃ w, Form.compile overrides { items } = .ok w := by
    obtain ⟨segments, hd, -⟩ := hf
    obtain ⟨n, hcn⟩ := hd.leads.exists_compilesTo (compile_scopeOf hc)
    exact ⟨_, hcn.compile_template hk ht⟩
  have hall : ∀ {values entries i entry}, form.Reaches values q f (some (.array entries)) →
      entries[i]? = some entry → ∀ p, Dict.get? (v.validate values) (Path.inEntry q i p)
        = Dict.get? (w.validate entry) p := by
    intro values entries i entry hf hentry
    have hvisited : ∃ visit ∈ v.visits false values, visit.path = q := by
      obtain ⟨validator, hv, -⟩ := validateAt_of_finds hc hn hf.finds
      exact ⟨⟨q, _, validator⟩, (mem_visits_iff hc).mpr ⟨f, hf, hv⟩, rfl⟩
    exact get?_errorsOf_below hc hn hf hk ht hw hentry hlocal hvisited
  have hvisible : ∀ {values entries i entry}, form.Reaches values q f (some (.array entries)) →
      entries[i]? = some entry → v.Shows values q → ∀ p,
      Dict.get? (v.validateVisible values) (Path.inEntry q i p)
        = Dict.get? (w.validateVisible entry) p :=
    fun hf hentry hshows => get?_errorsOf_below hc hn hf hk ht hw hentry hlocal hshows
  refine ⟨w, hw, fun i entry hentry => ⟨hall hf hentry, hvisible hf hentry, ?_⟩⟩
  intro values' entries' hf' hentry' p
  refine ⟨(hall hf' hentry' p).trans (hall hf hentry p).symm, fun hshows hshows' => ?_⟩
  exact (hvisible hf' hentry' hshows' p).trans (hvisible hf hentry hshows p).symm

end Reader

namespace Delivery

/-- The list of parcels. -/
def parcels : Field := ⟨{ name := "parcels", kind := .array }, some [.field note], []⟩

/-- A parcel that is fragile. -/
def fragile : Json := .object [("fragile", .bool true)]

theorem reaches_parcels :
    deliveryForm.Reaches (document true) "parcels" parcels
      (some (.array [fragile, .object []])) := by
  have hparcels : Item.Declares deliveryForm.items parcels :=
    .group (List.mem_cons_of_mem _ List.mem_cons_self)
      (.field (List.mem_cons_of_mem _ List.mem_cons_self))
  exact ⟨["parcels"], .here hparcels, rfl⟩

/-- The note looks at nothing but its own value. -/
theorem isLocal_note (segments : List String) (g : Field)
    (h : Leads (Item.Declares [.field note]) segments g) : g.info.IsLocal := by
  have hnote : g = note := by
    refine h.satisfies (P := (· = note)) (by simp) ?_ ?_
    · rintro _ rfl g' hg'
      cases hg'
    · rintro _ items rfl ht
      cases ht
  rw [hnote]
  exact FieldInfo.isLocal_of_rules_eq_none rfl

/-- Of two parcels the fragile one needs a note, as it does alone; the other one shows none. -/
theorem parcels_validated_alone : ∃ v w, deliveryForm.compile [] = .ok v
    ∧ deliveryForm.hasPlainNames = true
    ∧ deliveryForm.Reaches (document true) "parcels" parcels
      (some (.array [fragile, .object []]))
    ∧ (∀ segments g, Leads (Item.Declares [.field note]) segments g → g.info.IsLocal)
    ∧ v.Shows (document true) "parcels"
    ∧ Form.compile [] { items := [.field note] } = .ok w
    ∧ Dict.get? (w.validateVisible fragile) "note" = some "how"
    ∧ Dict.get? (v.validateVisible (document true)) "parcels.0.note" = some "how"
    ∧ Dict.get? (w.validateVisible (.object [])) "note" = none
    ∧ Dict.get? (v.validateVisible (document true)) "parcels.1.note" = none := by
  obtain ⟨v, hc⟩ := compiles
  obtain ⟨w, hw, hentries⟩ :=
    Form.entries_validated_alone hc hasPlainNames reaches_parcels rfl rfl isLocal_note
  have hshows : v.Shows (document true) "parcels" := by
    have hany : (v.visits true (document true)).any (fun visit => visit.path = "parcels")
        = true := by
      obtain rfl := Except.ok.inj hc
      rfl
    simpa [FormValidator.Shows] using hany
  have hfirst : Dict.get? (w.validateVisible fragile) "note" = some "how" := by
    obtain rfl := Except.ok.inj hw
    rfl
  have hsecond : Dict.get? (w.validateVisible (.object [])) "note" = none := by
    obtain rfl := Except.ok.inj hw
    rfl
  exact ⟨v, w, hc, hasPlainNames, reaches_parcels, isLocal_note, hshows, hw, hfirst,
    ((hentries 0 _ rfl).2.1 hshows "note").trans hfirst, hsecond,
    ((hentries 1 _ rfl).2.1 hshows "note").trans hsecond⟩

end Delivery
end FormLogic
