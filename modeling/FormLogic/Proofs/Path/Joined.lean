/-
  FormLogic.Proofs.Path.Joined

  Looking up a path that two paths are joined to.

  Where no name of a document has a dot, looking a joined path up is looking
  the first part up and, in what is there, the second: neither part can be
  taken for a name with the other.  This has to hold of the names further in
  as well, since the second part is looked up there.  A name that is the
  joined path comes first in every document.

    * `Json.isUndotted` — no name of a document has a dot, however deep.
    * `resolve_joined` — looking up what two paths are joined to.
-/

import FormLogic.Proofs.Path.Lookup

namespace FormLogic

/-! ## Documents without dots in names -/

namespace Json

mutual

/-- Whether no name in a document has a dot. -/
def isUndotted : Json → Bool
  | .array items => areUndotted items
  | .object members => membersUndotted members
  | _ => true

/-- Whether no name in the documents of a list has a dot. -/
def areUndotted : List Json → Bool
  | [] => true
  | v :: vs => isUndotted v && areUndotted vs

/-- Whether no name of the members has a dot, and none in their values. -/
def membersUndotted : List (String × Json) → Bool
  | [] => true
  | (name, v) :: rest => !name.toList.contains '.' && isUndotted v && membersUndotted rest

end

theorem areUndotted_iff {items : List Json} :
    areUndotted items = true ↔ ∀ v ∈ items, v.isUndotted = true := by
  induction items with
  | nil => simp [areUndotted]
  | cons v vs ih => simp [areUndotted, ih]

theorem membersUndotted_iff {members : Dict Json} :
    membersUndotted members = true ↔
      ∀ m ∈ members, '.' ∉ m.1.toList ∧ m.2.isUndotted = true := by
  induction members with
  | nil => simp [membersUndotted]
  | cons m rest ih =>
    obtain ⟨name, v⟩ := m
    rw [membersUndotted, Bool.and_eq_true, Bool.and_eq_true, ih, List.forall_mem_cons]
    simp

variable {v w : Json}

/-- The names of the outermost object are among the names of a document. -/
theorem hasUndottedNames_of_isUndotted (h : v.isUndotted = true) : v.hasUndottedNames = true := by
  cases v with
  | object members =>
    rw [isUndotted, membersUndotted_iff] at h
    simpa [hasUndottedNames, members?] using fun name w hm => (h (name, w) hm).1
  | _ => rfl

/-- What one segment leads to is part of the document. -/
theorem isUndotted_of_step (h : v.isUndotted = true) {segment : String}
    (hstep : Path.step v segment = some w) : w.isUndotted = true := by
  cases v with
  | object members =>
    rw [isUndotted, membersUndotted_iff] at h
    exact (h _ (Dict.mem_of_get? hstep)).2
  | array items =>
    rw [isUndotted, areUndotted_iff] at h
    obtain ⟨i, -, hi⟩ := Option.bind_eq_some_iff.mp hstep
    exact h w (List.mem_of_getElem? hi)
  | _ => cases hstep

/-- And so is what segments lead to one after the other. -/
theorem isUndotted_of_walk (h : v.isUndotted = true) {segments : List String}
    (hwalk : Path.walk v segments = some w) : w.isUndotted = true := by
  induction segments generalizing v with
  | nil => exact Option.some.inj hwalk ▸ h
  | cons s rest ih =>
    obtain ⟨u, hu, hrest⟩ := Option.bind_eq_some_iff.mp hwalk
    exact ih (isUndotted_of_step h hu) hrest

end Json

/-! ## Joined paths -/

namespace Path

variable {v : Json} {parent child : String}

/-- A path joined to another has the segments of both. -/
theorem segments_join (h : parent ≠ "") :
    segments (join parent child) = segments parent ++ segments child := by
  rw [join_of_ne_empty h, segments_append_dot]

/-- In a document without dots in its names, a joined path leads where its second part leads from
where the first one does. -/
theorem resolve_join_of_isUndotted (hv : v.isUndotted = true) (hparent : parent ≠ "")
    (hchild : child ≠ "") :
    resolve v (join parent child) = (resolve v parent).bind fun w => resolve w child := by
  have houter := Json.hasUndottedNames_of_isUndotted hv
  have hjoined : resolve v (join parent child)
      = (walk v (segments parent)).bind fun w => walk w (segments child) := by
    rw [resolve_eq_walk houter (join_ne_empty hparent child), segments_join hparent, walk_append]
  rw [hjoined, resolve_eq_walk houter hparent]
  cases hwalk : walk v (segments parent) with
  | none => rfl
  | some w =>
    -- the names in `w` are names of the document, so that it is walked through as well
    have hw := Json.hasUndottedNames_of_isUndotted (Json.isUndotted_of_walk hv hwalk)
    exact (resolve_eq_walk hw hchild).symm

/-- A member that is named by the whole path is what the path leads to. -/
theorem resolve_of_get? {members : Dict Json} {path : String} {w : Json} (hpath : path ≠ "")
    (h : Dict.get? members path = some w) : resolve (.object members) path = some w := by
  rw [resolve, if_neg hpath]
  simp [Json.members?, h]

/-- Looking up composes over joining.  Where no name of the document has a dot, a joined path leads
where the second part leads from what the first one leads to, and nowhere if the first leads
nowhere.  In any document, a member named by the joined path is what the path leads to. -/
theorem resolve_joined (v : Json) {parent child : String} (hparent : parent ≠ "")
    (hchild : child ≠ "") :
    (v.isUndotted = true →
      (∀ w, resolve v parent = some w → resolve v (join parent child) = resolve w child)
      ∧ (resolve v parent = none → resolve v (join parent child) = none))
    ∧ ∀ members w, v = .object members → Dict.get? members (join parent child) = some w →
      resolve v (join parent child) = some w := by
  refine ⟨fun hv => ?_, ?_⟩
  · have hcompose := resolve_join_of_isUndotted hv hparent hchild
    refine ⟨fun w hw => ?_, fun hnone => ?_⟩
    · rw [hcompose, hw, Option.bind_some]
    · rw [hcompose, hnone, Option.bind_none]
  · rintro members w rfl hget
    exact resolve_of_get? (join_ne_empty hparent child) hget

end Path

/-! ## A list within an object -/

namespace Basket

/-- A list of goods, the first with a price. -/
def goods : Json := .array [.object [("price", .number (.int 3))]]

/-- The goods in an object. -/
def nested : Json := .object [("basket", .object [("goods", goods)])]

/-- A price under a dotted name beside a nested one. -/
def flat : Json :=
  .object [("basket", .object [("price", .null)]), ("basket.price", .number (.int 7))]

/-- The price of the first of the goods is looked up from where they are; the dotted name is looked
up before the names. -/
theorem price_by_parts :
    "basket.goods" ≠ "" ∧ "0.price" ≠ "" ∧ nested.isUndotted = true
    ∧ Path.resolve nested "basket.goods" = some goods
    ∧ Path.resolve nested (Path.join "basket.goods" "0.price") = Path.resolve goods "0.price"
    ∧ Path.resolve goods "0.price" = some (.number (.int 3))
    ∧ Path.resolve nested "basket.tools" = none
    ∧ Path.resolve nested (Path.join "basket.tools" "0.price") = none
    ∧ Path.resolve flat (Path.join "basket" "price") = some (.number (.int 7)) := by
  have hgoods : Path.resolve nested "basket.goods" = some goods := by rfl
  have htools : Path.resolve nested "basket.tools" = none := by rfl
  have hundotted : nested.isUndotted = true := by decide
  refine ⟨by decide, by decide, hundotted, hgoods, ?_, by rfl, htools, ?_, ?_⟩
  · exact ((Path.resolve_joined nested (by decide) (by decide)).1 hundotted).1 goods hgoods
  · exact ((Path.resolve_joined nested (by decide) (by decide)).1 hundotted).2 htools
  · exact (Path.resolve_joined flat (by decide) (by decide)).2 _ _ rfl (by rfl)

end Basket
end FormLogic
