/-
  FormLogic.Proofs.Validation.Visible

  The messages of the fields that are shown, against the map that says which
  fields are shown.

  What shows a field is worked out twice.  Compiling copies gates to nodes: a
  field takes those of the groups around it, but nothing from an object
  around it, whose node stands above its own.  The map instead carries along,
  through groups and objects alike, whether all so far is shown.  Both come
  to the gates on the way to a field (`Form.stands_of_visibility`).

    * `Form.visible_message_iff` — the messages of the fields that are shown
      are those of the whole form that the map lets through.
-/

import FormLogic.Proofs.Validation.Gates

namespace FormLogic

/-! ## States of a scope -/

section States

variable {path p : String} {values : Json} {shown : Bool} {state : FieldState}

/-- An induction over fields: what holds of a field if it holds of its members holds of all. -/
theorem Field.memberInduction {P : Field → Prop} (step : ∀ f, (∀ g ∈ f.fields, P g) → P f)
    (f : Field) : P f := by
  cases f with
  | mk info template fields =>
    exact step ⟨info, template, fields⟩ fun g _ => Field.memberInduction step g

/-- The states of fields are the states of each. -/
theorem Field.mem_statesAll_iff {fs : List Field} :
    (p, state) ∈ Field.statesAll values path shown fs ↔
      ∃ f ∈ fs, (p, state) ∈ Field.states values path shown f := by
  induction fs with
  | nil => simp [Field.statesAll]
  | cons f fs ih => simp [Field.statesAll, ih]

/-- The states of a field: those of its members if it is an object, and its own. -/
theorem Field.states_eq (f : Field) :
    Field.states values path shown f
      = (if f.info.kind = .object then
          Field.statesAll values (Path.join path f.info.name) (f.info.state values shown).visible
            f.fields
        else [])
        ++ [(Path.join path f.info.name, f.info.state values shown)] := by
  cases f
  rw [Field.states]

/-- A field gives its own state and, if it is an object, those of its members, which are shown
only if the field is. -/
theorem Field.mem_states_iff {f : Field} :
    (p, state) ∈ Field.states values path shown f ↔
      (p = Path.join path f.info.name ∧ state = f.info.state values shown)
        ∨ (f.info.kind = .object ∧ ∃ g ∈ f.fields, (p, state) ∈
          Field.states values (Path.join path f.info.name) (f.info.state values shown).visible g)
    := by
  rw [Field.states_eq, List.mem_append, List.mem_singleton, or_comm, Prod.mk.injEq]
  by_cases hk : f.info.kind = .object
  · simp [hk, Field.mem_statesAll_iff]
  · simp [hk]

end States

/-! ## States and gates -/

section Reader

variable [PatternReader] {overrides : MessageOverrides} {around path p : String}
  {gates : List Gate} {taken : List String} {values : Json} {shown : Bool} {state : FieldState}

/-- Every field of an object that compiles has its node among those of the object, without gates
from around. -/
theorem Field.exists_node_of_compileAll {fs : List Field} {nodes : List Node}
    (h : Field.compileAll overrides around taken fs = .ok nodes) :
    ∀ g ∈ fs, ∃ n ∈ nodes, ∃ taken, Field.compile overrides around [] taken g = .ok n := by
  induction fs generalizing taken nodes with
  | nil => exact fun g hg => absurd hg List.not_mem_nil
  | cons f fs ih =>
    obtain ⟨node, rest, hnode, hrest, rfl⟩ := Field.compileAll_cons h
    intro g hg
    rcases List.mem_cons.mp hg with rfl | hg
    · exact ⟨node, List.mem_cons_self, taken, hnode⟩
    · obtain ⟨n, hn, hcompile⟩ := ih hrest g hg
      exact ⟨n, List.mem_cons_of_mem _ hn, hcompile⟩

/-- Where a field has a state, its node has a node standing below it or is one, and the state
says whether what is around is shown and all gates on the way are open. -/
theorem Field.stands_of_mem_states {f : Field} {n : Node}
    (h : Field.compile overrides around gates taken f = .ok n)
    (hmem : (p, state) ∈ Field.states values path shown f) :
    ∃ segments inner, Node.Stands [n] segments (gates ++ inner)
      ∧ p = segments.foldl Path.join path
      ∧ state.visible = (shown && Gate.allOpen values inner) := by
  induction f using Field.memberInduction generalizing n around gates taken path shown with
  | step f ih =>
    have hname : n.name = f.info.name := Field.CompilesTo.name_eq ⟨_, _, _, h⟩
    obtain ⟨-, -, hgates, hcompiled⟩ := Field.compile_cases h
    rcases Field.mem_states_iff.mp hmem with ⟨rfl, rfl⟩ | ⟨hk, g, hg, hmem⟩
    · refine ⟨[n.name], f.info.gate.toList, hgates ▸ .here (List.mem_singleton_self n), ?_, ?_⟩
      · rw [hname]
        rfl
      · rw [FieldInfo.allOpen_gate]
        rfl
    · cases hcompiled with
      | entries hk' _ _ _ => simp [hk] at hk'
      | nowhere _ hk' _ _ => exact absurd hk hk'
      | members _ hscope hchildren =>
        obtain ⟨c, hc, _, hcompile⟩ := Field.exists_node_of_compileAll hchildren g hg
        obtain ⟨segments, inner, hst, hpath, hvisible⟩ := ih g hg hcompile hmem
        -- the gates of the object count for its members because its node is above theirs
        have hstands : Node.Stands [n] (n.name :: segments) (n.gates ++ inner) := by
          refine .member (List.mem_singleton_self n) hscope (hst.mono ?_)
          exact fun m hm => List.mem_singleton.mp hm ▸ hc
        refine ⟨n.name :: segments, f.info.gate.toList ++ inner, ?_, ?_, ?_⟩
        · rw [← List.append_assoc, ← hgates]
          exact hstands
        · rw [hname]
          exact hpath
        · rw [hvisible, Gate.allOpen_append, FieldInfo.allOpen_gate, ← Bool.and_assoc]
          rfl

/-- Where a field of a list of items has a state, its node stands below theirs, and the state
says whether what is around is shown and all gates on the way are open. -/
theorem Item.stands_of_mem_states {items : List Item} {nodes : List Node}
    (h : Item.compileAll overrides around gates taken items = .ok nodes)
    (hmem : (p, state) ∈ Item.statesAll values shown items) :
    ∃ segments inner, Node.Stands nodes segments (gates ++ inner)
      ∧ p = Path.ofSegments segments
      ∧ state.visible = (shown && Gate.allOpen values inner) := by
  induction items using Item.listInduction generalizing gates taken nodes shown with
  | nil => simp [Item.statesAll] at hmem
  | field f rest ih =>
    obtain ⟨front, nodes, hfront, hrest, rfl⟩ := Item.compileAll_cons h
    obtain ⟨node, hnode, rfl⟩ := Except.map_eq_ok.mp hfront
    rw [Item.statesAll, Item.states, List.mem_append] at hmem
    rcases hmem with hmem | hmem
    · obtain ⟨segments, inner, hst, hfacts⟩ := Field.stands_of_mem_states hnode hmem
      exact ⟨segments, inner, hst.mono fun n hn => List.mem_append_left _ hn, hfacts⟩
    · obtain ⟨segments, inner, hst, hfacts⟩ := ih hrest hmem
      exact ⟨segments, inner, hst.mono fun n hn => List.mem_append_right _ hn, hfacts⟩
  | group info items rest ihInner ihRest =>
    obtain ⟨front, nodes, hfront, hrest, rfl⟩ := Item.compileAll_cons h
    rw [Item.statesAll, Item.states, List.mem_append] at hmem
    rcases hmem with hmem | hmem
    · -- the gate of the group goes to the gates of the node on the one side, and into what is
      -- shown around it on the other
      obtain ⟨segments, inner, hst, hpath, hvisible⟩ := ihInner hfront hmem
      refine ⟨segments, info.gate.toList ++ inner, ?_, hpath, ?_⟩
      · rw [← List.append_assoc]
        exact hst.mono fun n hn => List.mem_append_left _ hn
      · rw [hvisible, Gate.allOpen_append, GroupInfo.allOpen_gate, Bool.and_assoc]
    · obtain ⟨segments, inner, hst, hfacts⟩ := ihRest hrest hmem
      exact ⟨segments, inner, hst.mono fun n hn => List.mem_append_right _ hn, hfacts⟩

namespace Form

variable {form : Form} {v : FormValidator}

/-- A path of the map leads to a node that stands in no list, and the map says whether the gates
on the way there are open. -/
theorem stands_of_visibility (hc : form.compile overrides = .ok v)
    (h : Dict.get? (form.visibility values) p = some state) :
    ∃ segments gates, Node.Stands v.nodes segments gates ∧ p = Path.ofSegments segments
      ∧ state.visible = Gate.allOpen values gates := by
  obtain ⟨nodes, hnodes, rfl⟩ := Except.map_eq_ok.mp hc
  obtain ⟨segments, gates, hst, hpath, hvisible⟩ :=
    Item.stands_of_mem_states hnodes (Dict.mem_of_get?_ofList h)
  exact ⟨segments, gates, hst, hpath, by simpa using hvisible⟩

/-- Of a path of the map, what is shown is visited as in the whole form, and nothing else. -/
theorem mem_visits_visible_iff (hc : form.compile overrides = .ok v)
    (hn : form.hasPlainNames = true) {visit : Visit}
    (h : Dict.get? (form.visibility values) visit.path = some state) :
    visit ∈ v.visits true values ↔ visit ∈ v.visits false values ∧ state.visible = true := by
  obtain ⟨segments, gates, hst, hpath, hvisible⟩ := stands_of_visibility hc h
  have hs := compile_scopeOf hc
  have hplain := plainNames_declares hn
  rw [hvisible]
  constructor
  · intro hmem
    -- the path itself, with nothing behind it
    rw [← List.append_nil segments] at hpath
    refine ⟨Node.mem_visitsAll_of_visible hmem, hst.allOpen_of_mem hs hplain ?_ hpath hmem⟩
    rw [List.append_nil]
    exact hst.isSegment hs hplain
  · rintro ⟨hmem, hopen⟩
    exact hst.mem_of_allOpen hs hplain hpath hopen hmem

/-- Below a path that the map hides, nothing is visited. -/
theorem not_mem_visits_below_hidden (hc : form.compile overrides = .ok v)
    (hn : form.hasPlainNames = true) {visit : Visit} {q : String}
    (h : Dict.get? (form.visibility values) q = some state) (hhidden : state.visible = false)
    (habove : Path.Above q visit.path) : visit ∉ v.visits true values := by
  intro hmem
  obtain ⟨segments, gates, hst, rfl, hvisible⟩ := stands_of_visibility hc h
  have hs := compile_scopeOf hc
  have hplain := plainNames_declares hn
  obtain ⟨whole, hne, hwhole, hpath⟩ := hs.path_of_mem_visitsAll hplain hmem
  rw [hpath] at habove
  -- the path that is visited goes on behind the segments of the hidden one
  obtain ⟨rest, -, rfl⟩ :=
    (Path.above_ofSegments_iff hst.ne_nil (hst.isSegment hs hplain) hwhole).mp habove
  have hopen := hst.allOpen_of_mem hs hplain hwhole hpath hmem
  rw [hvisible, hopen] at hhidden
  cases hhidden

end Form

/-! ## Main statement -/

/-- The messages of the fields that are shown are those of the whole form at the paths that the
map lets through.  At paths that the map does not have, which are those below entries of lists,
they are messages of the whole form as well, and there is none below a path that the map hides. -/
theorem Form.visible_message_iff {form : Form} {v : FormValidator}
    (hc : form.compile overrides = .ok v) (hn : form.hasPlainNames = true) (values : Json) :
    (∀ p state m, Dict.get? (form.visibility values) p = some state →
      (Dict.get? (v.validateVisible values) p = some m ↔
        Dict.get? (v.validate values) p = some m ∧ state.visible = true))
    ∧ (∀ p m, Dict.get? (v.validateVisible values) p = some m →
      Dict.get? (v.validate values) p = some m)
    ∧ ∀ q state p, Dict.get? (form.visibility values) q = some state → state.visible = false →
      Path.Above q p → Dict.get? (v.validateVisible values) p = none := by
  have hvisible : ∀ p m, Dict.get? (v.validateVisible values) p = some m ↔
      ∃ visit ∈ v.visits true values, visit.path = p
        ∧ visit.validator.validate visit.value values = some m :=
    fun p m => FormValidator.get?_errorsOf_iff (Form.nodup_visits hc hn true values)
  have hwhole : ∀ p m, Dict.get? (v.validate values) p = some m ↔
      ∃ visit ∈ v.visits false values, visit.path = p
        ∧ visit.validator.validate visit.value values = some m :=
    fun p m => FormValidator.get?_errorsOf_iff (Form.nodup_visits hc hn false values)
  refine ⟨?_, ?_, ?_⟩
  · intro p state m hstate
    rw [hvisible, hwhole]
    constructor
    · rintro ⟨visit, hmem, rfl, hm⟩
      obtain ⟨hmem, hshown⟩ := (Form.mem_visits_visible_iff hc hn hstate).mp hmem
      exact ⟨⟨visit, hmem, rfl, hm⟩, hshown⟩
    · rintro ⟨⟨visit, hmem, rfl, hm⟩, hshown⟩
      exact ⟨visit, (Form.mem_visits_visible_iff hc hn hstate).mpr ⟨hmem, hshown⟩, rfl, hm⟩
  · intro p m hm
    obtain ⟨visit, hmem, rfl, hvisit⟩ := (hvisible p m).mp hm
    exact (hwhole _ m).mpr ⟨visit, Node.mem_visitsAll_of_visible hmem, rfl, hvisit⟩
  · intro q state p hstate hhidden habove
    rw [Option.eq_none_iff_forall_ne_some]
    intro m hm
    obtain ⟨visit, hmem, rfl, -⟩ := (hvisible p m).mp hm
    exact Form.not_mem_visits_below_hidden hc hn hstate hhidden habove hmem

end Reader

namespace Delivery

/-- A text that has to be given. -/
def city : Field where
  info := { name := "city", kind := .text, required := true, messages := [("required", "where")] }
  itemSchema := none
  fields := []

/-- A text that has to be given with what is fragile. -/
def note : Field where
  info := { name := "note", kind := .text, required := true, messages := [("required", "how")],
            visibleWhen := some [("fragile", .bool true)] }
  itemSchema := none
  fields := []

/-- An address and a list of parcels, both for a delivery only. -/
def deliveryForm : Form where
  items := [.field ⟨{ name := "deliver", kind := .checkbox }, none, []⟩,
    .group { visibleWhen := some [("deliver", .bool true)] }
      [.field ⟨{ name := "address", kind := .object }, none, [city]⟩,
        .field ⟨{ name := "parcels", kind := .array }, some [.field note], []⟩]]

theorem compiles : ∃ v, deliveryForm.compile [] = .ok v := ⟨_, rfl⟩

theorem hasPlainNames : deliveryForm.hasPlainNames = true := by decide

/-- Two parcels, the first of them fragile. -/
def document (deliver : Bool) : Json :=
  .object [("deliver", .bool deliver),
    ("parcels", .array [.object [("fragile", .bool true)], .object []])]

/-- With a delivery the city is asked for, and the note of the fragile parcel; without one, the
city is not asked for nor anything of the parcels. -/
theorem asked_for_with_delivery : ∃ v, deliveryForm.compile [] = .ok v
    ∧ deliveryForm.hasPlainNames = true
    ∧ Dict.get? (deliveryForm.visibility (document true)) "address.city" = some ⟨true, false⟩
    ∧ Dict.get? (v.validate (document true)) "address.city" = some "where"
    ∧ Dict.get? (v.validateVisible (document true)) "address.city" = some "where"
    ∧ Dict.get? (v.validateVisible (document true)) "parcels.0.note" = some "how"
    ∧ Dict.get? (v.validate (document true)) "parcels.0.note" = some "how"
    ∧ Dict.get? (deliveryForm.visibility (document false)) "parcels" = some ⟨false, false⟩
    ∧ Path.Above "parcels" "parcels.0.note"
    ∧ Dict.get? (v.validateVisible (document false)) "parcels.0.note" = none := by
  obtain ⟨v, hc⟩ := compiles
  obtain ⟨hiff, hwhole, -⟩ := Form.visible_message_iff hc hasPlainNames (document true)
  obtain ⟨-, -, hnone⟩ := Form.visible_message_iff hc hasPlainNames (document false)
  have hcity : Dict.get? (deliveryForm.visibility (document true)) "address.city"
      = some ⟨true, false⟩ := rfl
  have hparcels : Dict.get? (deliveryForm.visibility (document false)) "parcels"
      = some ⟨false, false⟩ := rfl
  have habove : Path.Above "parcels" "parcels.0.note" := ⟨"0.note", rfl⟩
  have hmessage : Dict.get? (v.validate (document true)) "address.city" = some "where" := by
    obtain rfl := Except.ok.inj hc
    rfl
  have hnote : Dict.get? (v.validateVisible (document true)) "parcels.0.note" = some "how" := by
    obtain rfl := Except.ok.inj hc
    rfl
  exact ⟨v, hc, hasPlainNames, hcity, hmessage, (hiff _ _ _ hcity).mpr ⟨hmessage, rfl⟩, hnote,
    hwhole _ _ hnote, hparcels, habove, hnone _ _ _ hparcels rfl habove⟩

end Delivery
end FormLogic
