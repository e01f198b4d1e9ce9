/-
  FormLogic.Proofs.Path.Lookup

  Looking a path up, as walking along its segments.

  Looking up asks for a member under the whole path before it walks.  A path
  of one segment walks to that very member.  A longer path has a dot, so that
  it can be a name itself only where names have dots: where those of the
  outermost object have none, looking up is walking.

    * `resolve_of_isSegment` — a path of one segment takes one step.
    * `resolve_eq_walk` — any other path, in a document of undotted names.
-/

import FormLogic.Proofs.Path.Segments
import FormLogic.Proofs.Dict

namespace FormLogic

/-- Whether no name of an object has a dot.  The names of values further in may have dots. -/
def Json.hasUndottedNames (v : Json) : Bool :=
  v.members?.all fun members => members.all fun m => !m.1.toList.contains '.'

namespace Path

variable {v : Json} {path : String}

theorem walk_singleton (v : Json) (s : String) : walk v [s] = step v s := by
  rw [walk]
  cases step v s <;> rfl

/-- A member that has the whole path for its name is where one step leads. -/
theorem step_of_get? {w : Json}
    (h : (v.members?.bind fun members => Dict.get? members path) = some w) :
    step v path = some w := by
  cases v with
  | object members => exact h
  | _ => cases h

/-- A path of one segment is looked up in one step. -/
theorem resolve_of_isSegment (h : isSegment path = true) : resolve v path = step v path := by
  rw [resolve, if_neg (isSegment_iff.mp h).1, segments_of_isSegment h, walk_singleton]
  split
  · next w hw => exact (step_of_get? hw).symm
  · rfl

/-- Where names have no dots, only a path of one segment is a name. -/
theorem segments_of_get? (hv : v.hasUndottedNames = true) {w : Json}
    (h : (v.members?.bind fun members => Dict.get? members path) = some w) :
    segments path = [path] := by
  obtain ⟨members, hmembers, hget⟩ := Option.bind_eq_some_iff.mp h
  have hall : members.all (fun m => !m.1.toList.contains '.') = true := by
    rwa [Json.hasUndottedNames, hmembers] at hv
  have hpath : '.' ∉ path.toList := by
    simpa using List.all_eq_true.mp hall (path, w) (Dict.mem_of_get? hget)
  exact Text.pieces_of_notMem hpath

/-- Where names have no dots, a path is looked up by walking along its segments. -/
theorem resolve_eq_walk (hv : v.hasUndottedNames = true) (hpath : path ≠ "") :
    resolve v path = walk v (segments path) := by
  rw [resolve, if_neg hpath]
  split
  · next w hw => rw [segments_of_get? hv hw, walk_singleton, step_of_get? hw]
  · rfl

end Path
end FormLogic
