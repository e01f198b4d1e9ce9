/-
  FormLogic.Proofs.Validation.Gates

  What the gates of the nodes keep from being visited.

  A traversal that looks at gates leaves a node out together with all that is
  below it.  `Node.Stands` names the nodes below a scope that stand in no
  list, by the names that lead to them, and collects the gates on the way;
  all of these are asked about one document.

    * `Node.mem_visits_of_visible` — a traversal that looks at gates visits
      nothing else than one that does not.
    * `Node.Stands.allOpen_of_mem` — what it visits at such a node or below
      has passed the gates on the way.
    * `Node.Stands.mem_of_allOpen` — it does visit the node where these are
      open.
-/

import FormLogic.Proofs.Validation.Paths
import FormLogic.Visibility

namespace FormLogic

/-- Whether all gates of a list are open. -/
def Gate.allOpen (values : Json) (gates : List Gate) : Bool := gates.all fun g => g.isOpen values

@[simp] theorem Gate.allOpen_append (values : Json) (gates gates' : List Gate) :
    Gate.allOpen values (gates ++ gates') = (allOpen values gates && allOpen values gates') :=
  List.all_append

/-- The gate of a field, if it has one, is open exactly if the field is visible by itself. -/
theorem FieldInfo.allOpen_gate (f : FieldInfo) (values : Json) :
    Gate.allOpen values f.gate.toList = f.isVisible values := by
  cases h : f.gate <;> simp [Gate.allOpen, FieldInfo.isVisible, h]

/-- The gate of a group, if it has one, is open exactly if the group is visible by itself. -/
theorem GroupInfo.allOpen_gate (g : GroupInfo) (values : Json) :
    Gate.allOpen values g.gate.toList = g.isVisible values := by
  cases h : g.gate <;> simp [Gate.allOpen, GroupInfo.isVisible, h]

variable {visibleOnly : Bool} {scope around : Json} {path : String} {visit : Visit}
  {nodes : List Node}

/-! ## Fewer visits -/

/-- A traversal that looks at gates visits only what one that does not look at them visits. -/
theorem Node.mem_visits_of_visible {n : Node}
    (h : visit ∈ Node.visits true scope around path n) :
    visit ∈ Node.visits false scope around path n := by
  induction n using Node.childInduction generalizing scope around path with
  | step n ih =>
    have hall : ∀ {scope around path}, visit ∈ Node.visitsAll true scope around path n.children →
        visit ∈ Node.visitsAll false scope around path n.children := by
      intro scope around path hmem
      obtain ⟨c, hc, hmem⟩ := Node.mem_visitsAll_iff.mp hmem
      exact Node.mem_visitsAll_iff.mpr ⟨c, hc, ih c hc hmem⟩
    obtain ⟨-, hvisit⟩ := Node.mem_visits_iff.mp h
    refine Node.mem_visits_iff.mpr ⟨nofun, hvisit.imp id fun hbelow => ?_⟩
    cases hbelow with
    | member hs hinner hmem => exact .member hs hinner (hall hmem)
    | item hs hvalue hentry hmem => exact .item hs hvalue hentry (hall hmem)

theorem Node.mem_visitsAll_of_visible (h : visit ∈ Node.visitsAll true scope around path nodes) :
    visit ∈ Node.visitsAll false scope around path nodes := by
  obtain ⟨n, hn, h⟩ := Node.mem_visitsAll_iff.mp h
  exact Node.mem_visitsAll_iff.mpr ⟨n, hn, Node.mem_visits_of_visible h⟩

/-! ## Nodes that stand in no list -/

/-- `Stands nodes segments gates`: from the nodes of a scope the names lead, through objects, to a
node; the gates are those of all nodes on the way, its own included. -/
inductive Node.Stands : List Node → List String → List Gate → Prop
  | here {nodes : List Node} {n : Node} : n ∈ nodes → Stands nodes [n.name] n.gates
  | member {nodes : List Node} {n : Node} {rest : List String} {gates : List Gate} :
      n ∈ nodes → n.scope = .members → Stands n.children rest gates →
      Stands nodes (n.name :: rest) (n.gates ++ gates)

namespace Node.Stands

variable {segments rest : List String} {gates : List Gate}

/-- What stands below some nodes of a scope stands below the scope. -/
theorem mono {nodes' : List Node} (h : Stands nodes segments gates)
    (hsub : ∀ n ∈ nodes, n ∈ nodes') : Stands nodes' segments gates := by
  cases h with
  | here hn => exact .here (hsub _ hn)
  | member hn hs hrest => exact .member (hsub _ hn) hs hrest

theorem ne_nil (h : Stands nodes segments gates) : segments ≠ [] := by
  cases h <;> simp

end Node.Stands

/-! ## Visits by their segments -/

/-- What is visited from the node of an object, under a path that goes on behind its name, is
visited from its members. -/
theorem Node.mem_members_of_path {n : Node} (hs : n.scope = .members) {rest : List String}
    (hne : rest ≠ []) (hrest : ∀ s ∈ n.name :: rest, Path.isSegment s = true)
    (hpath : visit.path = (n.name :: rest).foldl Path.join path)
    (h : visit ∈ Node.visits visibleOnly scope around path n) :
    ∃ inner, memberScope (Path.resolve scope n.name) = some inner
      ∧ visit ∈ Node.visitsAll visibleOnly inner around (Path.join path n.name) n.children := by
  obtain ⟨-, rfl | hbelow⟩ := Node.mem_visits_iff.mp h
  · -- the node itself has nothing behind its name
    have heq : [n.name] = n.name :: rest :=
      Path.eq_of_foldl_join_eq (List.cons_ne_nil _ _) (List.cons_ne_nil _ _)
        (List.forall_mem_singleton.mpr (hrest _ List.mem_cons_self)) hrest hpath
    exact absurd (List.cons.inj heq).2.symm hne
  · cases hbelow with
    | member _ hinner hmem => exact ⟨_, hinner, hmem⟩
    | item hs' _ _ _ =>
      rw [hs] at hs'
      cases hs'

/-! ## Visits of compiled nodes -/

variable [PatternReader] {overrides : MessageOverrides} {fields : Field → Prop}

/-- What is visited under a path that goes on with the name of a node is visited from that
node. -/
theorem ScopeOf.mem_visits_of_path (hs : ScopeOf overrides fields nodes)
    (hplain : PlainNames fields) {n : Node} (hn : n ∈ nodes) {rest : List String}
    (hrest : ∀ s ∈ n.name :: rest, Path.isSegment s = true)
    (hpath : visit.path = (n.name :: rest).foldl Path.join path)
    (h : visit ∈ Node.visitsAll visibleOnly scope around path nodes) :
    visit ∈ Node.visits visibleOnly scope around path n := by
  obtain ⟨m, hm, h⟩ := Node.mem_visitsAll_iff.mp h
  obtain ⟨f, hf, hc⟩ := hs.field_of_node m hm
  obtain ⟨rest', hrest', hpath'⟩ := Node.path_of_mem_visits (hplain f hf) hc h
  have heq := Path.eq_of_foldl_join_eq (List.cons_ne_nil _ _) (List.cons_ne_nil _ _) hrest' hrest
    (hpath'.symm.trans hpath)
  obtain rfl := hs.eq_of_name_eq hm hn (List.cons.inj heq).1
  exact h

namespace Node.Stands

variable {segments rest : List String} {gates : List Gate}

/-- The names that lead to a node are proper segments. -/
theorem isSegment (h : Stands nodes segments gates) (hs : ScopeOf overrides fields nodes)
    (hplain : PlainNames fields) : ∀ s ∈ segments, Path.isSegment s = true := by
  induction h generalizing fields with
  | here hn =>
    obtain ⟨f, hf, hc⟩ := hs.field_of_node _ hn
    exact List.forall_mem_singleton.mpr (hc.name_eq ▸ hplain.isSegment hf)
  | member hn hscope _ ih =>
    obtain ⟨f, hf, hc⟩ := hs.field_of_node _ hn
    have hchildren := (hc.members (hc.kind_of_members hscope)).2
    exact List.forall_mem_cons.mpr
      ⟨hc.name_eq ▸ hplain.isSegment hf, ih hchildren (hplain.members hf)⟩

/-- What a traversal that looks at gates visits at a node that stands in no list, or below it, has
passed the gates on the way. -/
theorem allOpen_of_mem (hst : Stands nodes segments gates) (hs : ScopeOf overrides fields nodes)
    (hplain : PlainNames fields) (hrest : ∀ s ∈ segments ++ rest, Path.isSegment s = true)
    (hpath : visit.path = (segments ++ rest).foldl Path.join path)
    (h : visit ∈ Node.visitsAll true scope around path nodes) :
    Gate.allOpen around gates = true := by
  induction hst generalizing fields scope path with
  | here hn =>
    have hvisit := hs.mem_visits_of_path hplain hn hrest hpath h
    exact (Node.mem_visits_iff.mp hvisit).1 rfl
  | @member nodes n segments gates hn hscope hst ih =>
    have hvisit := hs.mem_visits_of_path hplain hn hrest hpath h
    have hopen : Gate.allOpen around n.gates = true := (Node.mem_visits_iff.mp hvisit).1 rfl
    obtain ⟨f, hf, hc⟩ := hs.field_of_node n hn
    have hchildren := (hc.members (hc.kind_of_members hscope)).2
    -- the members of the object are visited, so that their gates are open as well
    obtain ⟨inner, -, hmem⟩ := Node.mem_members_of_path hscope
      (List.append_ne_nil_of_left_ne_nil hst.ne_nil rest) hrest hpath hvisit
    have hbelow := ih hchildren (hplain.members hf)
      (fun s hmem => hrest s (List.mem_cons_of_mem _ hmem)) hpath hmem
    rw [Gate.allOpen_append, hopen, hbelow, Bool.true_and]

/-- Where the gates on the way to a node that stands in no list are open, a traversal that looks
at gates visits the node as well. -/
theorem mem_of_allOpen (hst : Stands nodes segments gates) (hs : ScopeOf overrides fields nodes)
    (hplain : PlainNames fields) (hpath : visit.path = segments.foldl Path.join path)
    (hopen : Gate.allOpen around gates = true)
    (h : visit ∈ Node.visitsAll false scope around path nodes) :
    visit ∈ Node.visitsAll true scope around path nodes := by
  have hsegments := hst.isSegment hs hplain
  induction hst generalizing fields scope path with
  | @here nodes n hn =>
    have hvisit := hs.mem_visits_of_path hplain hn hsegments hpath h
    obtain ⟨f, hf, hc⟩ := hs.field_of_node n hn
    -- the path is that of the node, so that the visit is not one below it
    obtain ⟨-, hown | hbelow⟩ := Node.mem_visits_iff.mp hvisit
    · exact Node.mem_visitsAll_iff.mpr
        ⟨n, hn, Node.mem_visits_iff.mpr ⟨fun _ => hopen, Or.inl hown⟩⟩
    · exact absurd hpath (hbelow.path_ne (hplain f hf) hc)
  | @member nodes n segments gates hn hscope hst ih =>
    rw [Gate.allOpen_append, Bool.and_eq_true] at hopen
    have hvisit := hs.mem_visits_of_path hplain hn hsegments hpath h
    obtain ⟨f, hf, hc⟩ := hs.field_of_node n hn
    have hchildren := (hc.members (hc.kind_of_members hscope)).2
    obtain ⟨inner, hinner, hmem⟩ := Node.mem_members_of_path hscope hst.ne_nil hsegments hpath
      hvisit
    have hbelow := ih hchildren (hplain.members hf) hpath hopen.2 hmem
      fun s hs => hsegments s (List.mem_cons_of_mem _ hs)
    exact Node.mem_visitsAll_iff.mpr ⟨n, hn, Node.mem_visits_iff.mpr
      ⟨fun _ => hopen.1, Or.inr (.member hscope hinner hbelow)⟩⟩

end Node.Stands
end FormLogic
