/-
  FormLogic.Dict

  Maps from names to values, held as a list of pairs in ascending order of
  the names, code point by code point.  Iteration is therefore in name order,
  and writing a name that is present replaces its value.
-/

namespace FormLogic

/-- A map from names to values: pairs in ascending order of the names. -/
abbrev Dict (α : Type) := List (String × α)

namespace Dict

variable {α β : Type}

/-- The value under a name. -/
def get? : Dict α → String → Option α
  | [], _ => none
  | (k, v) :: rest, name => if k = name then some v else get? rest name

/-- Writes a value under a name, in its place in the order. -/
def insert : Dict α → String → α → Dict α
  | [], name, value => [(name, value)]
  | (k, v) :: rest, name, value =>
    if name = k then (name, value) :: rest
    else if name < k then (name, value) :: (k, v) :: rest
    else (k, v) :: insert rest name value

/-- The map of a list of pairs; of two pairs with one name the later counts. -/
def ofList (pairs : List (String × α)) : Dict α :=
  pairs.foldl (fun d p => insert d p.1 p.2) []

/-- The names, in order. -/
def names (d : Dict α) : List String := d.map Prod.fst

/-- Applies a function to every value. -/
def mapValues (f : α → β) (d : Dict α) : Dict β := d.map fun p => (p.1, f p.2)

/-- The names stand in strictly ascending order. -/
def Ordered (d : Dict α) : Prop := d.names.Pairwise (· < ·)

@[simp] theorem get?_nil (name : String) : get? ([] : Dict α) name = none := rfl

theorem get?_cons (k : String) (v : α) (rest : Dict α) (name : String) :
    get? ((k, v) :: rest) name = if k = name then some v else get? rest name := rfl

/-- What is written under a name is found there. -/
theorem get?_insert_self (d : Dict α) (name : String) (value : α) :
    get? (insert d name value) name = some value := by
  induction d with
  | nil => simp [insert, get?]
  | cons p rest ih =>
    obtain ⟨k, v⟩ := p
    simp only [insert]
    split
    · simp [get?]
    · split
      · simp [get?]
      · next h _ =>
        have h' : ¬k = name := fun e => h e.symm
        simp [get?, h', ih]

/-- Writing under one name leaves the others alone. -/
theorem get?_insert_of_ne (d : Dict α) {name other : String} (value : α) (h : other ≠ name) :
    get? (insert d name value) other = get? d other := by
  induction d with
  | nil => simp [insert, get?, Ne.symm h]
  | cons p rest ih =>
    obtain ⟨k, v⟩ := p
    simp only [insert]
    split
    · next e => subst e; simp [get?, Ne.symm h]
    · split
      · simp [get?, Ne.symm h]
      · simp [get?, ih]

end Dict
end FormLogic
