/-
  FormLogic.Text.Split

  Cutting a list of characters at every separator.  There is always one more
  piece than there are separators, and joining the pieces again with the
  separator gives the list back.
-/

namespace FormLogic
namespace Text

/-- The pieces of a list between the separators. -/
def splitOn (sep : Char) : List Char → List (List Char)
  | [] => [[]]
  | c :: cs =>
    if c = sep then [] :: splitOn sep cs
    else
      match splitOn sep cs with
      | [] => [[c]]
      | piece :: pieces => (c :: piece) :: pieces

theorem splitOn_ne_nil (sep : Char) (cs : List Char) : splitOn sep cs ≠ [] := by
  cases cs with
  | nil => simp [splitOn]
  | cons c cs =>
    simp only [splitOn]
    split
    · simp
    · split <;> simp

/-- Joining the pieces gives the list back. -/
theorem intercalate_splitOn (sep : Char) (cs : List Char) :
    List.intercalate [sep] (splitOn sep cs) = cs := by
  induction cs with
  | nil => rfl
  | cons c cs ih =>
    simp only [splitOn]
    have hne := splitOn_ne_nil sep cs
    generalize splitOn sep cs = ps at ih hne
    cases ps with
    | nil => simp at hne
    | cons p ps =>
      split
      · next h => subst h; rw [← ih]; simp [List.intercalate, List.intersperse]
      · rw [← ih]
        cases ps <;> simp [List.intercalate, List.intersperse]

/-- The pieces of a text. -/
def pieces (sep : Char) (text : String) : List String :=
  (splitOn sep text.toList).map String.ofList

end Text
end FormLogic
