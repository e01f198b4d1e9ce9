/-
  FormLogic.Proofs.Visibility

  The map of the states of a form against the rules of its fields, groups
  and objects.

  Working the map out carries along a path, and whether all so far is shown.
  What is carried along is read off the way to a field (`Form.Nests`): the
  path is that of the names on the way, and the field is shown if the rules
  on the way hold, its own included.  Where the names of a form are in order
  no two fields write to one path, and what is found in the map is what was
  written.

    * `Form.get?_visibility_iff` — what is found at a path.
    * `Form.visibility_by_rules` — the map by rules.
-/

import FormLogic.Proofs.Schema.Nesting
import FormLogic.Proofs.Validation.Visible

namespace FormLogic

variable {values : Json} {shown : Bool} {path p : String} {state : FieldState}

/-! ## Rules -/

/-- The rule for showing something holds of a document: its conditions, if it has some; else its
expected values, if it has some; and if it has neither, always. -/
def RuleHolds (values : Json) : Option Logic → Option CompactConditions → Prop
  | some conditional, _ => conditional.holds values = true
  | none, some visibleWhen => visibleWhen.holds values = true
  | none, none => True

/-- The rule of a field holds. -/
def FieldInfo.RuleHolds (f : FieldInfo) (values : Json) : Prop :=
  FormLogic.RuleHolds values f.conditional f.visibleWhen

/-- The rule of a group or an object holds. -/
def Enclosure.RuleHolds (values : Json) : Enclosure → Prop
  | .group info => FormLogic.RuleHolds values info.conditional info.visibleWhen
  | .object info => info.RuleHolds values

/-- A field is switched off, by its flag or by the values that it expects for this. -/
def FieldInfo.SwitchedOff (f : FieldInfo) (values : Json) : Prop :=
  f.disabled = true ∨ ∃ disabledWhen, f.disabledWhen = some disabledWhen
    ∧ disabledWhen.holds values = true

/-- Whether a group or an object is shown as far as its own gate goes. -/
def Enclosure.isVisible (values : Json) : Enclosure → Bool
  | .group info => info.isVisible values
  | .object info => info.isVisible values

theorem Gate.all_isOpen_choose_iff {conditional : Option Logic}
    {visibleWhen : Option CompactConditions} :
    ((choose conditional visibleWhen).all fun g => g.isOpen values) = true
      ↔ RuleHolds values conditional visibleWhen := by
  cases conditional with
  | some l => rfl
  | none =>
    cases visibleWhen with
    | some c => rfl
    | none => simp [choose, RuleHolds]

theorem FieldInfo.isVisible_iff {f : FieldInfo} : f.isVisible values = true ↔ f.RuleHolds values :=
  Gate.all_isOpen_choose_iff

theorem Enclosure.isVisible_iff {e : Enclosure} :
    e.isVisible values = true ↔ e.RuleHolds values := by
  cases e with
  | group info => exact Gate.all_isOpen_choose_iff
  | object info => exact Gate.all_isOpen_choose_iff

theorem FieldInfo.isDisabled_iff {f : FieldInfo} :
    f.isDisabled values = true ↔ f.SwitchedOff values := by
  rw [isDisabled, Bool.or_eq_true, Option.any_eq_true]
  rfl

/-- The state of a field below some groups and objects. -/
def Field.stateBelow (f : Field) (values : Json) (around : List Enclosure) : FieldState :=
  f.info.state values (around.all fun e => e.isVisible values)

theorem Field.stateBelow_visible_iff {f : Field} {around : List Enclosure} :
    (f.stateBelow values around).visible = true ↔
      f.info.RuleHolds values ∧ ∀ e ∈ around, e.RuleHolds values := by
  rw [Field.stateBelow, FieldInfo.state, Bool.and_eq_true, List.all_eq_true, and_comm,
    FieldInfo.isVisible_iff]
  simp only [Enclosure.isVisible_iff]

theorem Field.stateBelow_disabled_iff {f : Field} {around : List Enclosure} :
    (f.stateBelow values around).disabled = true ↔ f.info.SwitchedOff values :=
  FieldInfo.isDisabled_iff

/-! ## What is written into the map -/

/-- All that is around is shown if the outermost is, and inside of it the rest. -/
theorem Enclosure.and_all_cons (e : Enclosure) (around : List Enclosure) :
    (shown && (e :: around).all fun e => e.isVisible values)
      = ((shown && e.isVisible values) && around.all fun e => e.isVisible values) := by
  rw [List.all_cons, Bool.and_assoc]

/-- A field gives the states of the fields that it leads to. -/
theorem Field.mem_states_iff_nests {f : Field} :
    (p, state) ∈ Field.states values path shown f ↔
      ∃ around segs g, f.Nests around segs g ∧ p = segs.foldl Path.join path
        ∧ state = g.info.state values (shown && around.all fun e => e.isVisible values) := by
  induction f using Field.memberInduction generalizing path shown with
  | step f ih =>
    rw [Field.mem_states_iff]
    constructor
    · rintro (⟨rfl, rfl⟩ | ⟨hk, g, hg, hmem⟩)
      · exact ⟨[], _, f, .here, rfl, by rw [List.all_nil, Bool.and_true]⟩
      · -- the members are shown inside of the object, which stands around all that is around them
        obtain ⟨around, segs, h, hnests, rfl, rfl⟩ := (ih g hg).mp hmem
        exact ⟨_, _, h, .member hk hg hnests, rfl,
          congrArg (h.info.state values) (Enclosure.and_all_cons (.object f.info) around).symm⟩
    · rintro ⟨around, segs, h, hnests, rfl, rfl⟩
      cases hnests with
      | here => exact Or.inl ⟨rfl, by rw [List.all_nil, Bool.and_true]⟩
      | @member _ g _ around segs hk hg hnests =>
        exact Or.inr ⟨hk, g, hg, (ih g hg).mpr ⟨around, segs, h, hnests, rfl,
          congrArg (h.info.state values) (Enclosure.and_all_cons (.object f.info) around)⟩⟩

/-- Items give the states of the fields that they lead to. -/
theorem Item.mem_statesAll_iff_nests {items : List Item} :
    (p, state) ∈ Item.statesAll values shown items ↔
      ∃ i ∈ items, ∃ around segs g, i.Nests around segs g ∧ p = Path.ofSegments segs
        ∧ state = g.info.state values (shown && around.all fun e => e.isVisible values) := by
  induction items using Item.listInduction generalizing shown with
  | nil => simp [Item.statesAll]
  | field f rest ih =>
    rw [Item.statesAll, List.mem_append, ih, Item.states, Field.mem_states_iff_nests,
      List.exists_mem_cons_iff]
    refine or_congr_left ⟨?_, ?_⟩
    · rintro ⟨around, segs, g, hnests, hfacts⟩
      exact ⟨around, segs, g, .field hnests, hfacts⟩
    · rintro ⟨around, segs, g, hitem, hfacts⟩
      cases hitem with
      | field hnests => exact ⟨around, segs, g, hnests, hfacts⟩
  | group info items rest ihInner ihRest =>
    -- a group adds no name: the paths of its items are those of the scope around
    rw [Item.statesAll, List.mem_append, ihRest, Item.states, ihInner, List.exists_mem_cons_iff]
    refine or_congr_left ⟨?_, ?_⟩
    · rintro ⟨i, hi, around, segs, g, hnests, hp, rfl⟩
      exact ⟨_, segs, g, .group hi hnests, hp,
        congrArg (g.info.state values) (Enclosure.and_all_cons (.group info) around).symm⟩
    · rintro ⟨_, segs, g, hitem, hp, rfl⟩
      cases hitem with
      | @group _ _ i _ around _ hi hnests =>
        exact ⟨i, hi, around, segs, g, hnests, hp,
          congrArg (g.info.state values) (Enclosure.and_all_cons (.group info) around)⟩

namespace Form

variable {form : Form} {around around' : List Enclosure} {segs segs' : List String}
  {f f' : Field}

/-- The states that are written for a form are those of the fields that it leads to. -/
theorem mem_states_iff_nests :
    (p, state) ∈ Item.statesAll values true form.items ↔
      ∃ around segs f, form.Nests around segs f ∧ p = Path.ofSegments segs
        ∧ state = f.stateBelow values around := by
  rw [Item.mem_statesAll_iff_nests]
  constructor
  · rintro ⟨i, hi, around, segs, f, hnests, hfacts⟩
    exact ⟨around, segs, f, ⟨i, hi, hnests⟩, hfacts⟩
  · rintro ⟨around, segs, f, ⟨i, hi, hnests⟩, hfacts⟩
    exact ⟨i, hi, around, segs, f, hnests, hfacts⟩

/-- A path is that of one field only. -/
theorem Nests.eq_of_path_eq (h : form.Nests around segs f) (hn : form.NamesInOrder)
    (h' : form.Nests around' segs' f') (hpath : Path.ofSegments segs = Path.ofSegments segs') :
    around' = around ∧ segs' = segs ∧ f' = f := by
  obtain rfl := Path.eq_of_foldl_join_eq h.ne_nil h'.ne_nil (h.isSegment hn) (h'.isSegment hn) hpath
  obtain ⟨haround, hfield⟩ := h.unique hn h'
  exact ⟨haround, rfl, hfield⟩

/-- What is found in the map is the state of the field whose path is looked up. -/
theorem get?_visibility_iff (hn : form.NamesInOrder) :
    Dict.get? (form.visibility values) p = some state ↔
      ∃ around segs f, form.Nests around segs f ∧ p = Path.ofSegments segs
        ∧ state = f.stateBelow values around := by
  have hagree : Dict.Agree (Item.statesAll values true form.items) p := by
    intro v w hv hw
    obtain ⟨around, segs, f, hnests, hp, rfl⟩ := mem_states_iff_nests.mp hv
    obtain ⟨around', segs', f', hnests', hp', rfl⟩ := mem_states_iff_nests.mp hw
    obtain ⟨rfl, -, rfl⟩ := hnests.eq_of_path_eq hn hnests' (hp.symm.trans hp')
    rfl
  rw [Form.visibility, Dict.get?_ofList_iff hagree, mem_states_iff_nests]

theorem get?_visibility_of_nests (hn : form.NamesInOrder) (h : form.Nests around segs f) :
    Dict.get? (form.visibility values) (Path.ofSegments segs)
      = some (f.stateBelow values around) :=
  (get?_visibility_iff hn).mpr ⟨around, segs, f, h, rfl, rfl⟩

/-- What stands below a path that is hidden is hidden as well. -/
theorem hidden_below (hn : form.NamesInOrder) {q : String} {state' : FieldState}
    (hq : Dict.get? (form.visibility values) q = some state') (hhidden : state'.visible = false)
    (hp : Dict.get? (form.visibility values) p = some state) (habove : Path.Above q p) :
    state.visible = false := by
  obtain ⟨around', segs', f', hnests', rfl, rfl⟩ := (get?_visibility_iff hn).mp hq
  obtain ⟨around, segs, f, hnests, rfl, rfl⟩ := (get?_visibility_iff hn).mp hp
  obtain ⟨rest, hne, rfl⟩ := (Path.above_ofSegments_iff hnests'.ne_nil (hnests'.isSegment hn)
    (hnests.isSegment hn)).mp habove
  rcases hnests'.eq_or_below hn hnests with ⟨hrest, -, -⟩ | ⟨-, more, rfl⟩
  · exact absurd hrest hne
  · -- the field is one of the objects on the way, and so are all that it stands in itself
    rw [Bool.eq_false_iff, Ne, Field.stateBelow_visible_iff] at hhidden ⊢
    rintro ⟨-, hall⟩
    refine hhidden ⟨hall (.object f'.info) (by simp), fun e he => hall e ?_⟩
    exact List.mem_append_left _ he

end Form

/-! ## A form of a booking -/

namespace Booking

/-- A text that is switched off once the place is fixed. -/
def city : Field where
  info := { name := "city", kind := .text, disabledWhen := some [("fixed", .bool true)] }
  itemSchema := none
  fields := []

/-- A hotel, for those who stay overnight. -/
def hotel : Field where
  info := { name := "hotel", kind := .object, visibleWhen := some [("overnight", .bool true)] }
  itemSchema := none
  fields := [city]

/-- A list of guests. -/
def guests : Field where
  info := { name := "guests", kind := .array }
  itemSchema := some [.field ⟨{ name := "name", kind := .text }, none, []⟩]
  fields := []

/-- The hotel and the guests, both for a visit only. -/
def bookingForm : Form where
  items := [.group { visibleWhen := some [("visiting", .bool true)] }
    [.field hotel, .field guests]]

/-- A visit without a night, at a place that is fixed. -/
def dayTrip : Json :=
  .object [("fixed", .bool true), ("overnight", .bool false), ("visiting", .bool true)]

theorem nests_city : bookingForm.Nests
    [.group { visibleWhen := some [("visiting", .bool true)] }, .object hotel.info]
    ["hotel", "city"] city :=
  ⟨_, List.mem_singleton_self _, .group List.mem_cons_self
    (.field (.member rfl (List.mem_singleton_self _) .here))⟩

end Booking

/-! ## Main statement -/

/-- In a form whose names are in order, the map has the paths of the fields that are reached
through groups and objects, each once and each for one field.  A field is shown if its rule and
those of all groups and objects around it hold of the whole document, so that what is below a
hidden field is hidden; it is disabled if it is switched off itself, whatever is around it. -/
theorem Form.visibility_by_rules {form : Form} (hn : form.NamesInOrder) (values : Json) :
    (Dict.names (form.visibility values)).Nodup
    ∧ (∀ p, p ∈ Dict.names (form.visibility values) ↔
        ∃ around segs f, form.Nests around segs f ∧ p = Path.ofSegments segs)
    ∧ (∀ around segs f around' segs' f', form.Nests around segs f → form.Nests around' segs' f' →
        Path.ofSegments segs = Path.ofSegments segs' →
        around' = around ∧ segs' = segs ∧ f' = f)
    ∧ (∀ around segs f, form.Nests around segs f →
        ∃ state, Dict.get? (form.visibility values) (Path.ofSegments segs) = some state
          ∧ (state.visible = true ↔
              f.info.RuleHolds values ∧ ∀ e ∈ around, e.RuleHolds values)
          ∧ (state.disabled = true ↔ f.info.SwitchedOff values))
    ∧ ∀ q p state state', Dict.get? (form.visibility values) q = some state' →
        state'.visible = false → Dict.get? (form.visibility values) p = some state →
        Path.Above q p → state.visible = false := by
  have hnodup : (Dict.names (form.visibility values)).Nodup := (Dict.ordered_ofList _).nodup
  refine ⟨hnodup, ?_, ?_, ?_, ?_⟩
  · intro p
    constructor
    · intro hp
      obtain ⟨⟨_, state⟩, hmem, rfl⟩ := List.mem_map.mp hp
      have hget := (Dict.get?_eq_some_iff hnodup).mpr hmem
      obtain ⟨around, segs, f, hnests, hpath, -⟩ := (get?_visibility_iff hn).mp hget
      exact ⟨around, segs, f, hnests, hpath⟩
    · rintro ⟨around, segs, f, hnests, rfl⟩
      exact Dict.mem_names_of_mem (Dict.mem_of_get? (get?_visibility_of_nests hn hnests))
  · exact fun _ _ _ _ _ _ h h' hpath => h.eq_of_path_eq hn h' hpath
  · intro around segs f hnests
    exact ⟨_, get?_visibility_of_nests hn hnests, Field.stateBelow_visible_iff,
      Field.stateBelow_disabled_iff⟩
  · exact fun q p state state' hq hhidden hp habove => hidden_below hn hq hhidden hp habove

/-- Without a night the hotel is hidden and the city below it with it, which is disabled all the
same; the entries of the list have no path. -/
theorem Booking.city_hidden_by_hotel :
    bookingForm.NamesInOrder
    ∧ Dict.names (bookingForm.visibility dayTrip) = ["guests", "hotel", "hotel.city"]
    ∧ ¬ hotel.info.RuleHolds dayTrip ∧ city.info.SwitchedOff dayTrip
    ∧ Dict.get? (bookingForm.visibility dayTrip) "hotel.city" = some ⟨false, true⟩ := by
  have hn : bookingForm.NamesInOrder := by decide
  obtain ⟨-, -, -, hstate, -⟩ := Form.visibility_by_rules hn dayTrip
  have hhotel : ¬ hotel.info.RuleHolds dayTrip := by
    rw [← FieldInfo.isVisible_iff]
    decide
  have hoff : city.info.SwitchedOff dayTrip := Or.inr ⟨_, rfl, rfl⟩
  obtain ⟨⟨visible, disabled⟩, hget, hvisible, hdisabled⟩ := hstate _ _ _ nests_city
  have hshown : visible = false := by
    rw [Bool.eq_false_iff, Ne, hvisible]
    rintro ⟨-, hall⟩
    exact hhotel (hall (.object hotel.info) (by simp))
  obtain rfl := hdisabled.mpr hoff
  subst hshown
  exact ⟨hn, rfl, hhotel, hoff, hget⟩

end FormLogic
