/-
  FormLogic.Proofs.Json.Ordered

  Documents whose objects all have their members in order.

  An object has each of its names once and in order, and so has every object
  in it.  What a record is read from then has each name once, whether it is
  an object or the list of the record's fields.
-/

import FormLogic.Proofs.Json.Record

namespace FormLogic

instance {α : Type} (d : Dict α) : Decidable (Dict.Ordered d) :=
  inferInstanceAs (Decidable (d.names.Pairwise (· < ·)))

namespace Json

mutual

/-- Whether the members of every object of a document are in order. -/
def isOrdered : Json → Bool
  | .array items => areOrdered items
  | .object members => decide (Dict.Ordered members) && membersOrdered members
  | _ => true

/-- Whether all documents of a list are in order. -/
def areOrdered : List Json → Bool
  | [] => true
  | v :: vs => isOrdered v && areOrdered vs

/-- Whether the values of all members are in order. -/
def membersOrdered : List (String × Json) → Bool
  | [] => true
  | (_, v) :: rest => isOrdered v && membersOrdered rest

end

theorem areOrdered_iff {items : List Json} :
    areOrdered items = true ↔ ∀ v ∈ items, v.isOrdered = true := by
  induction items with
  | nil => simp [areOrdered]
  | cons v vs ih => simp [areOrdered, ih]

theorem membersOrdered_iff {members : Dict Json} :
    membersOrdered members = true ↔ ∀ m ∈ members, m.2.isOrdered = true := by
  induction members with
  | nil => simp [membersOrdered]
  | cons m rest ih => simp [membersOrdered, ih]

@[simp] theorem isOrdered_array {items : List Json} :
    (Json.array items).isOrdered = true ↔ ∀ v ∈ items, v.isOrdered = true := by
  rw [isOrdered, areOrdered_iff]

@[simp] theorem isOrdered_object {members : Dict Json} :
    (Json.object members).isOrdered = true ↔
      Dict.Ordered members ∧ ∀ m ∈ members, m.2.isOrdered = true := by
  rw [isOrdered, Bool.and_eq_true, decide_eq_true_eq, membersOrdered_iff]

variable {names : List String} {v : Json}

/-- A record has each of its members once. -/
theorem nodup_membersAs (hnames : names.Nodup) (hv : v.isOrdered = true) :
    (v.membersAs names).names.Nodup := by
  cases v with
  | object members => exact (isOrdered_object.mp hv).1.nodup
  | array items => exact hnames.sublist (Dict.names_zip_sublist names items)
  | _ => exact List.nodup_nil

/-- The values of a record are in order. -/
theorem isOrdered_of_mem_membersAs (hv : v.isOrdered = true) {m : String × Json}
    (hm : m ∈ v.membersAs names) : m.2.isOrdered = true := by
  cases v with
  | object members => exact (isOrdered_object.mp hv).2 m hm
  | array items => exact isOrdered_array.mp hv m.2 (List.of_mem_zip hm).2
  | _ => cases hm

/-- The list that a record has as the value of a member, the empty one if it has none. -/
def listAt (names : List String) (v : Json) (name : String) : List Json :=
  ((Dict.get? (v.membersAs names) name).bind items?).getD []

theorem listAt_ofMembers (pairs : List (String × Json)) (name : String) :
    listAt names (.ofMembers pairs) name
      = ((Dict.get? (Dict.ofList pairs) name).bind items?).getD [] := rfl

/-- The entries of the lists of a record are in order. -/
theorem isOrdered_of_mem_listAt (hv : v.isOrdered = true) {name : String} {w : Json}
    (hw : w ∈ v.listAt names name) : w.isOrdered = true := by
  rw [listAt] at hw
  cases hget : Dict.get? (v.membersAs names) name with
  | none => simp [hget] at hw
  | some list =>
    have hlist := isOrdered_of_mem_membersAs hv (Dict.mem_of_get? hget)
    cases list with
    | array items => exact isOrdered_array.mp hlist w (by simpa [hget, items?] using hw)
    | _ => simp [hget, items?] at hw

end Json
end FormLogic
