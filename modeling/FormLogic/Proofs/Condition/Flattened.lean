/-
  FormLogic.Proofs.Condition.Flattened

  Conditions on a flat document in place of a nested one.

  A nested document is flattened into one object, which has every value that
  is reached through objects and has no members itself under the dotted path
  of the names that lead there.  Lists stay whole.  The two documents give
  the same answer at every path of the flat one, and at every path where the
  nested one has nothing; so conditions about such paths do not tell them
  apart.

    * `Json.mem_leaves_iff` — the values that are collected are those that
      names lead to through objects.
    * `Json.get?_flatten_iff` — the members of the flat document.
    * `Json.resolve_flatten` — looking a path up in either document.
    * `Json.holds_flatten` — conditions on either document.
-/

import FormLogic.Condition.Compact
import FormLogic.Proofs.Condition.Meaning
import FormLogic.Proofs.Json.Ordered

namespace FormLogic
namespace Json

/-! ## Values reached through objects -/

/-- The value that names lead to, one member after the other, through objects alone. -/
def descend (v : Json) : List String → Option Json
  | [] => some v
  | name :: rest =>
    (v.members?.bind fun members => Dict.get? members name).bind fun w => descend w rest

/-- Whether a value has no members: it is no object, or the empty one. -/
def isLeaf : Json → Bool
  | .object (_ :: _) => false
  | _ => true

mutual

/-- The values without members that are reached through objects, each with the names that lead to
it. -/
def leaves : Json → List (List String × Json)
  | .object (m :: ms) => memberLeaves (m :: ms)
  | v => [([], v)]

/-- The values without members that are reached through the members of an object. -/
def memberLeaves : List (String × Json) → List (List String × Json)
  | [] => []
  | (name, v) :: rest => ((leaves v).map fun l => (name :: l.1, l.2)) ++ memberLeaves rest

end

mutual

/-- Whether every name that is reached through objects is a segment of a path. -/
def hasPlainNames : Json → Bool
  | .object members => membersHavePlainNames members
  | _ => true

/-- Whether the members of an object have plain names, and plain names below them. -/
def membersHavePlainNames : List (String × Json) → Bool
  | [] => true
  | (name, v) :: rest => Path.isSegment name && hasPlainNames v && membersHavePlainNames rest

end

/-- The flat form of an object: the values without members under the paths that lead to them. -/
def flatten (members : Dict Json) : Dict Json :=
  Dict.ofList ((memberLeaves members).map fun l => (Path.ofSegments l.1, l.2))

theorem sizeOf_lt_of_mem_members {members : Dict Json} {m : String × Json} (h : m ∈ members) :
    sizeOf m.2 < sizeOf (Json.object members) := by
  have hmem : sizeOf m < sizeOf members := List.sizeOf_lt_of_mem h
  have hpair : sizeOf m = 1 + sizeOf m.1 + sizeOf m.2 := by
    cases m
    rfl
  simp only [Json.object.sizeOf_spec]
  omega

/-- What holds of every value without members, and of an object as soon as it does of the values of
its members, holds of every value. -/
theorem leafInduction {P : Json → Prop} (leaf : ∀ v, v.isLeaf = true → P v)
    (object : ∀ m ms, (∀ n ∈ m :: ms, P n.2) → P (.object (m :: ms))) :
    ∀ v, P v
  | .object (m :: ms) => object m ms fun n _ => leafInduction leaf object n.2
  | .object [] => leaf (.object []) rfl
  | .null => leaf .null rfl
  | .bool b => leaf (.bool b) rfl
  | .number n => leaf (.number n) rfl
  | .string s => leaf (.string s) rfl
  | .array items => leaf (.array items) rfl
termination_by v => sizeOf v
decreasing_by exact sizeOf_lt_of_mem_members ‹_›

theorem mem_memberLeaves {members : Dict Json} {segs : List String} {w : Json} :
    (segs, w) ∈ memberLeaves members ↔
      ∃ m ∈ members, ∃ rest, (rest, w) ∈ m.2.leaves ∧ segs = m.1 :: rest := by
  induction members with
  | nil => simp [memberLeaves]
  | cons m ms ih =>
    obtain ⟨name, v⟩ := m
    rw [memberLeaves, List.mem_append, ih]
    simp [eq_comm, and_comm]

theorem membersHavePlainNames_iff {members : Dict Json} :
    membersHavePlainNames members = true ↔
      ∀ m ∈ members, Path.isSegment m.1 = true ∧ m.2.hasPlainNames = true := by
  induction members with
  | nil => simp [membersHavePlainNames]
  | cons m ms ih => simp [membersHavePlainNames, ih]

theorem no_member_of_isLeaf {v : Json} (hv : v.isLeaf = true) (name : String) :
    (v.members?.bind fun members => Dict.get? members name) = none := by
  cases v with
  | object members =>
    cases members with
    | nil => rfl
    | cons m ms => cases hv
  | _ => rfl

/-- A value without members is collected itself, and no name leads on from it. -/
theorem mem_leaves_of_isLeaf {v : Json} (hv : v.isLeaf = true) {segs : List String} {w : Json} :
    (segs, w) ∈ v.leaves ↔ v.descend segs = some w ∧ w.isLeaf = true := by
  have hleaves : v.leaves = [([], v)] := by
    rw [leaves.eq_def]
    split
    · cases hv
    · rfl
  rw [hleaves, List.mem_singleton, Prod.mk.injEq]
  cases segs with
  | nil =>
    constructor
    · rintro ⟨-, rfl⟩
      exact ⟨rfl, hv⟩
    · rintro ⟨hself, -⟩
      exact ⟨rfl, (Option.some.inj hself).symm⟩
  | cons name rest =>
    constructor
    · rintro ⟨hnil, -⟩
      cases hnil
    · rintro ⟨hmember, -⟩
      rw [descend, no_member_of_isLeaf hv] at hmember
      cases hmember

/-- From an object the first name leads to a member. -/
theorem descend_object_cons {members : Dict Json} (hnodup : members.names.Nodup) {name : String}
    {rest : List String} {w : Json} :
    (Json.object members).descend (name :: rest) = some w ↔
      ∃ v, (name, v) ∈ members ∧ v.descend rest = some w := by
  simp only [descend, members?, Option.bind_some, Option.bind_eq_some_iff,
    Dict.get?_eq_some_iff hnodup]

/-- Exactly those values are collected that names lead to through objects and that have no members
themselves. -/
theorem mem_leaves_iff {v : Json} (hv : v.isOrdered = true) {segs : List String} {w : Json} :
    (segs, w) ∈ v.leaves ↔ v.descend segs = some w ∧ w.isLeaf = true := by
  induction v using leafInduction generalizing segs with
  | leaf v hleaf => exact mem_leaves_of_isLeaf hleaf
  | object m ms ih =>
    obtain ⟨hmembers, hvalues⟩ := isOrdered_object.mp hv
    rw [leaves, mem_memberLeaves]
    cases segs with
    | nil =>
      -- an object with members is not collected
      constructor
      · rintro ⟨n, -, rest, -, heq⟩
        cases heq
      · rintro ⟨hself, hleaf⟩
        rw [← Option.some.inj hself] at hleaf
        cases hleaf
    | cons name rest =>
      rw [descend_object_cons hmembers.nodup]
      constructor
      · rintro ⟨n, hn, rest', hrest, heq⟩
        obtain ⟨rfl, rfl⟩ := List.cons.inj heq
        obtain ⟨hdescend, hleaf⟩ := (ih n hn (hvalues n hn)).mp hrest
        exact ⟨⟨n.2, hn, hdescend⟩, hleaf⟩
      · rintro ⟨⟨u, hu, hdescend⟩, hleaf⟩
        have hrest := (ih (name, u) hu (hvalues _ hu)).mpr ⟨hdescend, hleaf⟩
        exact ⟨(name, u), hu, rest, hrest, rfl⟩

/-- Names that lead through objects lead to the same value along a path. -/
theorem walk_of_descend {v w : Json} {segs : List String} (h : v.descend segs = some w) :
    Path.walk v segs = some w := by
  induction segs generalizing v with
  | nil => exact h
  | cons name rest ih =>
    obtain ⟨u, hu, hrest⟩ := Option.bind_eq_some_iff.mp h
    cases v with
    | object members =>
      have hstep : Path.step (.object members) name = some u := hu
      rw [Path.walk, hstep]
      exact ih hrest
    | _ => cases hu

/-- Names that lead through objects with plain names are segments. -/
theorem isSegment_of_descend {v w : Json} (hv : v.hasPlainNames = true) {segs : List String}
    (h : v.descend segs = some w) : ∀ s ∈ segs, Path.isSegment s = true := by
  induction segs generalizing v with
  | nil => exact fun s hs => absurd hs List.not_mem_nil
  | cons name rest ih =>
    obtain ⟨u, hu, hrest⟩ := Option.bind_eq_some_iff.mp h
    cases v with
    | object members =>
      have hmem : (name, u) ∈ members := Dict.mem_of_get? hu
      obtain ⟨hname, hplain⟩ := membersHavePlainNames_iff.mp hv _ hmem
      exact List.forall_mem_cons.mpr ⟨hname, ih hplain hrest⟩
    | _ => cases hu

/-! ## The flat document -/

variable {members : Dict Json} {path : String}

/-- The values collected from an object are those below its members. -/
theorem mem_memberLeaves_iff (hordered : (Json.object members).isOrdered = true)
    {segs : List String} {w : Json} :
    (segs, w) ∈ memberLeaves members ↔
      segs ≠ [] ∧ (Json.object members).descend segs = some w ∧ w.isLeaf = true := by
  cases members with
  | nil =>
    cases segs with
    | nil => simp [memberLeaves]
    | cons name rest => simp [memberLeaves, descend, members?]
  | cons m ms =>
    have hleaves : (Json.object (m :: ms)).leaves = memberLeaves (m :: ms) := by rw [leaves]
    rw [← hleaves, mem_leaves_iff hordered]
    refine ⟨fun h => ⟨?_, h⟩, fun h => h.2⟩
    rintro rfl
    obtain ⟨hroot, hleaf⟩ := h
    rw [← Option.some.inj hroot] at hleaf
    cases hleaf

/-- A path at which the two forms of a document are compared: the flat one has it, or the nested
one has nothing there. -/
def IsShared (members : Dict Json) (path : String) : Prop :=
  path ∈ (flatten members).names ∨ Path.resolve (.object members) path = none

instance : Decidable (IsShared members path) := inferInstanceAs (Decidable (_ ∨ _))

section

variable (hordered : (Json.object members).isOrdered = true)
  (hplain : (Json.object members).hasPlainNames = true)

include hordered hplain

/-- The flat document has a value under a path exactly if the segments of the path lead to it
through objects and it has no members itself. -/
theorem get?_flatten_iff {w : Json} :
    Dict.get? (flatten members) path = some w ↔
      (Json.object members).descend (Path.segments path) = some w ∧ w.isLeaf = true := by
  have hpair : ∀ u, (path, u) ∈ ((memberLeaves members).map fun l => (Path.ofSegments l.1, l.2)) ↔
      (Json.object members).descend (Path.segments path) = some u ∧ u.isLeaf = true := by
    intro u
    rw [List.mem_map]
    constructor
    · rintro ⟨⟨segs, v⟩, hmem, heq⟩
      obtain ⟨rfl, rfl⟩ := Prod.mk.inj heq
      obtain ⟨hne, hdescend, hleaf⟩ := (mem_memberLeaves_iff hordered).mp hmem
      rw [Path.segments_ofSegments hne (isSegment_of_descend hplain hdescend)]
      exact ⟨hdescend, hleaf⟩
    · rintro ⟨hdescend, hleaf⟩
      have hmem : (Path.segments path, u) ∈ memberLeaves members :=
        (mem_memberLeaves_iff hordered).mpr ⟨Path.segments_ne_nil path, hdescend, hleaf⟩
      have hpath : Path.ofSegments (Path.segments path) = path :=
        Path.ofSegments_segments (isSegment_of_descend hplain hdescend)
      exact ⟨(Path.segments path, u), hmem, by rw [hpath]⟩
  -- the segments of a path lead to one value, so that no two are written under it
  have hagree : Dict.Agree ((memberLeaves members).map fun l => (Path.ofSegments l.1, l.2))
      path := by
    intro u v hu hv
    obtain ⟨hu, -⟩ := (hpair u).mp hu
    obtain ⟨hv, -⟩ := (hpair v).mp hv
    exact Option.some.inj (hu.symm.trans hv)
  rw [flatten, Dict.get?_ofList_iff hagree, hpair]

/-- What a name of one segment has in the flat document it has in the nested one. -/
theorem get?_of_get?_flatten {name : String} (hname : '.' ∉ name.toList) {w : Json}
    (h : Dict.get? (flatten members) name = some w) :
    Dict.get? members name = some w := by
  have hsegments : Path.segments name = [name] := Text.pieces_of_notMem hname
  obtain ⟨hdescend, -⟩ := (get?_flatten_iff hordered hplain).mp h
  rw [hsegments] at hdescend
  obtain ⟨u, hu, hself⟩ := Option.bind_eq_some_iff.mp hdescend
  exact Option.some.inj hself ▸ hu

/-- The value under a path of the flat document is the one at the path in the nested one. -/
theorem resolve_of_get?_flatten {w : Json} (hne : path ≠ "")
    (h : Dict.get? (flatten members) path = some w) :
    Path.resolve (.object members) path = some w := by
  obtain ⟨hdescend, -⟩ := (get?_flatten_iff hordered hplain).mp h
  have hwalk : Path.walk (.object members) (Path.segments path) = some w :=
    walk_of_descend hdescend
  rw [Path.resolve, if_neg hne]
  simp only [members?, Option.bind_some]
  cases htop : Dict.get? members path with
  | none => exact hwalk
  | some u =>
    -- a member under the whole path has a name of one segment, to which the walk leads as well
    have hname : Path.isSegment path = true :=
      (membersHavePlainNames_iff.mp hplain _ (Dict.mem_of_get? htop)).1
    rw [Path.segments_of_isSegment hname] at hdescend
    obtain ⟨v, hv, hself⟩ := Option.bind_eq_some_iff.mp hdescend
    rw [← Option.some.inj hself, ← hv]
    exact htop.symm

/-- Where the nested document has nothing at a path, the walk through the flat one finds nothing:
it starts with a member that both have or with none. -/
theorem walk_flatten_eq_none
    (h : Path.walk (.object members) (Path.segments path) = none) :
    Path.walk (.object (flatten members)) (Path.segments path) = none := by
  cases hsegments : Path.segments path with
  | nil => exact absurd hsegments (Path.segments_ne_nil path)
  | cons name rest =>
    rw [hsegments] at h
    have hname : '.' ∉ name.toList := Path.notMem_of_mem_segments (hsegments ▸ List.mem_cons_self)
    cases hflat : Dict.get? (flatten members) name with
    | none => simp [Path.walk, Path.step, hflat]
    | some w =>
      have hnested := get?_of_get?_flatten hordered hplain hname hflat
      simpa [Path.walk, Path.step, hflat, hnested] using h

/-- The two forms of a document have the same at a path that they share. -/
theorem resolve_flatten (h : IsShared members path) :
    Path.resolve (.object (flatten members)) path = Path.resolve (.object members) path := by
  by_cases hne : path = ""
  · rw [Path.resolve, Path.resolve, if_pos hne, if_pos hne]
  · cases hflat : Dict.get? (flatten members) path with
    | some w =>
      rw [resolve_of_get?_flatten hordered hplain hne hflat, Path.resolve, if_neg hne]
      simp only [members?, Option.bind_some, hflat]
    | none =>
      have hnone : Path.resolve (.object members) path = none :=
        h.resolve_left (Dict.get?_eq_none_iff.mp hflat)
      have hwalk : Path.walk (.object members) (Path.segments path) = none := by
        rw [Path.resolve, if_neg hne] at hnone
        split at hnone
        · cases hnone
        · exact hnone
      rw [hnone, Path.resolve, if_neg hne]
      simp only [members?, Option.bind_some, hflat]
      exact walk_flatten_eq_none hordered hplain hwalk

end

end Json

/-! ## Conditions -/

/-- A check holds of two documents alike that have the same at its path. -/
theorem Condition.holds_congr {c : Condition} {d d' : Json}
    (h : Path.resolve d c.field = Path.resolve d' c.field) : c.holds d = c.holds d' := by
  rw [Condition.holds, Condition.holds, h]

/-- Expected values are met by two documents alike that have the same at their paths. -/
theorem CompactConditions.holds_congr {conditions : CompactConditions} {d d' : Json}
    (h : ∀ path ∈ conditions.names, Path.resolve d path = Path.resolve d' path) :
    conditions.holds d = conditions.holds d' := by
  have hentries : ∀ c ∈ conditions,
      entryHolds (Path.resolve d c.1) c.2 = entryHolds (Path.resolve d' c.1) c.2 := by
    intro c hc
    rw [h c.1 (Dict.mem_names_of_mem hc)]
  exact Logic.all_congr_of_mem hentries

/-! ## Main statement -/

/-- A nested document and its flat form have the same at every path that they share, and trees of
conditions and expected values about such paths hold of both or of neither. -/
theorem Json.holds_flatten {members : Dict Json} (hordered : (Json.object members).isOrdered = true)
    (hplain : (Json.object members).hasPlainNames = true) :
    (∀ path, IsShared members path →
      Path.resolve (.object (flatten members)) path = Path.resolve (.object members) path)
    ∧ (∀ l : Logic, (∀ c ∈ l.checks, IsShared members c.field) →
      l.holds (.object (flatten members)) = l.holds (.object members))
    ∧ ∀ conditions : CompactConditions, (∀ path ∈ conditions.names, IsShared members path) →
      conditions.holds (.object (flatten members)) = conditions.holds (.object members) := by
  have hresolve : ∀ path, IsShared members path →
      Path.resolve (.object (flatten members)) path = Path.resolve (.object members) path :=
    fun _ hpath => resolve_flatten hordered hplain hpath
  refine ⟨hresolve, fun l hl => ?_, fun conditions hconditions => ?_⟩
  · exact Logic.holds_congr fun c hc => Condition.holds_congr (hresolve c.field (hl c hc))
  · exact CompactConditions.holds_congr fun path hpath => hresolve path (hconditions path hpath)

namespace Checkout

/-- A cart with no coupon data and two items, and a note that is null. -/
def members : Dict Json :=
  [("cart", .object [
      ("coupon", .object []),
      ("items", .array [.number (.int 3), .object [("sku", .string "a")]])]),
    ("note", .null)]

/-- The items have a three among them, there is no eighth one, and the note is empty. -/
def counted : Logic :=
  .and [
    .check { field := "cart.items", operator := .contains, value := some (.number (.int 3)) },
    .not (.check { field := "cart.items.7.sku", operator := .isNotEmpty }),
    .check { field := "note", operator := .isEmpty }]

/-- There is nothing in the coupon, and no total that could be below ten. -/
def expected : CompactConditions :=
  [("cart.coupon", .object []), ("cart.total", .object [("$lt", .number (.int 10))])]

/-- The cart is asked for what both of its forms have or the nested one lacks, and so both give
the same answers. -/
theorem asked_in_either_form : (Json.object members).isOrdered = true
    ∧ (Json.object members).hasPlainNames = true
    ∧ (Json.flatten members).names = ["cart.coupon", "cart.items", "note"]
    ∧ (∀ c ∈ counted.checks, Json.IsShared members c.field)
    ∧ (∀ path ∈ expected.names, Json.IsShared members path)
    ∧ counted.holds (.object (Json.flatten members)) = counted.holds (.object members)
    ∧ expected.holds (.object (Json.flatten members)) = expected.holds (.object members) := by
  have hordered : (Json.object members).isOrdered = true := by decide
  have hplain : (Json.object members).hasPlainNames = true := by decide
  have hcounted : ∀ c ∈ counted.checks, Json.IsShared members c.field := by decide
  have hexpected : ∀ path ∈ expected.names, Json.IsShared members path := by decide
  obtain ⟨-, hlogic, hcompact⟩ := Json.holds_flatten hordered hplain
  exact ⟨hordered, hplain, by decide, hcounted, hexpected, hlogic counted hcounted,
    hcompact expected hexpected⟩

end Checkout
end FormLogic
