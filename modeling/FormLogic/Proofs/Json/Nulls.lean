/-
  FormLogic.Proofs.Json.Nulls

  Documents with some of their null members left out.

  Any null members may be left out, of objects at any depth, also inside the
  entries of lists; lists keep their entries.  What a segment of a path leads
  to is then the same up to nulls further in, if null counts for what is
  missing.  Names must not be repeated in an object: a null that is left out
  would uncover a second member of its name.

    * `Json.DropsNulls` — one document without some null members of another.
    * `Json.DropsNulls.resolve` — looking a name up in both.
-/

import Mathlib.Data.List.Forall2
import FormLogic.Proofs.Json.Ordered
import FormLogic.Proofs.Path.Lookup

namespace FormLogic

/-- The members of one object without some null members of another, values being related by `R`. -/
inductive Dict.DropsNulls (R : Json → Json → Prop) : Dict Json → Dict Json → Prop
  | nil : DropsNulls R [] []
  | keep {name : String} {v w : Json} {ms ns : Dict Json} :
      R v w → DropsNulls R ms ns → DropsNulls R ((name, v) :: ms) ((name, w) :: ns)
  | drop {name : String} {ms ns : Dict Json} :
      DropsNulls R ms ns → DropsNulls R ((name, .null) :: ms) ns

/-- `v.DropsNulls w`: the document `w` is `v` without some of the null members of its objects. -/
inductive Json.DropsNulls : Json → Json → Prop
  | same (v : Json) : DropsNulls v v
  | array {xs ys : List Json} :
      List.Forall₂ DropsNulls xs ys → DropsNulls (.array xs) (.array ys)
  | object {ms ns : Dict Json} :
      Dict.DropsNulls DropsNulls ms ns → DropsNulls (.object ms) (.object ns)

/-! ## Members and entries -/

namespace Dict.DropsNulls

variable {R : Json → Json → Prop} {ms ns : Dict Json}

/-- Every name that is left was there. -/
theorem mem_names (h : DropsNulls R ms ns) {name : String} (hname : name ∈ names ns) :
    name ∈ names ms := by
  induction h with
  | nil => exact hname
  | keep _ _ ih =>
    rcases List.mem_cons.mp hname with rfl | hname
    · exact List.mem_cons_self
    · exact List.mem_cons_of_mem _ (ih hname)
  | drop _ ih => exact List.mem_cons_of_mem _ (ih hname)

/-- Under every name there are related values, null counting for what is missing. -/
theorem get? (h : DropsNulls R ms ns) (hnull : R .null .null) (hnodup : (names ms).Nodup)
    (name : String) : R ((Dict.get? ms name).getD .null) ((Dict.get? ns name).getD .null) := by
  induction h with
  | nil => exact hnull
  | @keep k v w ms ns hvw _ ih =>
    rw [get?_cons, get?_cons]
    by_cases hk : k = name
    · rw [if_pos hk, if_pos hk]
      exact hvw
    · rw [if_neg hk, if_neg hk]
      exact ih (List.nodup_cons.mp hnodup).2
  | @drop k ms ns hrest ih =>
    rw [get?_cons]
    by_cases hk : k = name
    · -- the name is not there a second time
      have hnone : Dict.get? ns name = none := by
        refine get?_eq_none_iff.mpr fun hmem => ?_
        exact (List.nodup_cons.mp hnodup).1 (hk ▸ hrest.mem_names hmem)
      rw [if_pos hk, hnone]
      exact hnull
    · rw [if_neg hk]
      exact ih (List.nodup_cons.mp hnodup).2

end Dict.DropsNulls

namespace Json.DropsNulls

variable {v w : Json} {xs ys : List Json}

/-- In every place of two lists there are related entries, null counting for what is missing. -/
theorem getElem? (h : List.Forall₂ DropsNulls xs ys) (i : Nat) :
    (xs[i]?.getD .null).DropsNulls (ys[i]?.getD .null) := by
  induction h generalizing i with
  | nil => exact .same _
  | cons hxy _ ih =>
    cases i with
    | zero => exact hxy
    | succ i => exact ih i

/-! ## Paths -/

/-- A segment leads to related values, null counting for what is missing. -/
theorem step (h : v.DropsNulls w) (hv : v.isOrdered = true) (s : String) :
    ((Path.step v s).getD .null).DropsNulls ((Path.step w s).getD .null) := by
  cases h with
  | same _ => exact .same _
  | array hentries =>
    rw [Path.step, Path.step, Path.itemAt?, Path.itemAt?]
    cases Path.number? s with
    | none => exact .same _
    | some i => exact getElem? hentries i
  | object hmembers => exact hmembers.get? (.same _) (isOrdered_object.mp hv).1.nodup s

/-- A name is looked up to related values, null counting for what is missing. -/
theorem resolve (h : v.DropsNulls w) (hv : v.isOrdered = true) {name : String}
    (hname : Path.isSegment name = true) :
    ((Path.resolve v name).getD .null).DropsNulls ((Path.resolve w name).getD .null) := by
  rw [Path.resolve_of_isSegment hname, Path.resolve_of_isSegment hname]
  exact h.step hv name

end Json.DropsNulls

/-- What a name is looked up to in a document in order is in order. -/
theorem Json.isOrdered_resolve {v : Json} (hv : v.isOrdered = true) {name : String}
    (hname : Path.isSegment name = true) :
    ((Path.resolve v name).getD .null).isOrdered = true := by
  rw [Path.resolve_of_isSegment hname]
  cases hstep : Path.step v name with
  | none => rfl
  | some w =>
    cases v with
    | object members =>
      exact (isOrdered_object.mp hv).2 (name, w) (Dict.mem_of_get? hstep)
    | array items =>
      obtain ⟨i, -, hitem⟩ := Option.bind_eq_some_iff.mp hstep
      exact isOrdered_array.mp hv w (List.mem_of_getElem? hitem)
    | _ => cases hstep

/-- The entries of a value in order are in order. -/
theorem Json.isOrdered_items {v w : Json} (hv : v.isOrdered = true) (hw : w ∈ v.items?.getD []) :
    w.isOrdered = true := by
  cases v with
  | array items => exact isOrdered_array.mp hv w hw
  | _ => cases hw

end FormLogic
