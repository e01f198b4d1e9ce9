/-
  FormLogic.Proofs.Dict

  Maps built from lists of pairs.  Of two pairs with one name the later one
  counts, so that a look-up finds exactly the pairs of the list as soon as no
  two of them disagree under the name looked up.

  A map is a list in order of its names, and so a list of its own for what it
  holds: `eq_of_ordered`.  Writing keeps the order (`ordered_ofList`), and of
  two lists written one after the other the later counts
  (`get?_ofList_append`).  Pairs without repeated names can be written in any
  order (`ofList_perm`).
-/

import Mathlib.Data.List.Nodup
import Mathlib.Data.List.Perm.Subperm
import Mathlib.Data.String.Basic
import FormLogic.Dict

namespace FormLogic
namespace Dict

variable {α : Type}

/-- Pairs that give one name one value only. -/
def Agree (pairs : List (String × α)) (name : String) : Prop :=
  ∀ v w, (name, v) ∈ pairs → (name, w) ∈ pairs → v = w

theorem Agree.tail {p : String × α} {pairs : List (String × α)} {name : String}
    (h : Agree (p :: pairs) name) : Agree pairs name :=
  fun v w hv hw => h v w (List.mem_cons_of_mem _ hv) (List.mem_cons_of_mem _ hw)

/-- What is found after writing pairs one after the other: a pair of the list, or, where none has
the name, what was there before. -/
theorem get?_foldl_insert {pairs : List (String × α)} {name : String} (h : Agree pairs name)
    (d : Dict α) (value : α) :
    get? (pairs.foldl (fun d p => insert d p.1 p.2) d) name = some value ↔
      (name, value) ∈ pairs ∨ ((∀ w, (name, w) ∉ pairs) ∧ get? d name = some value) := by
  induction pairs generalizing d with
  | nil => simp
  | cons p pairs ih =>
    obtain ⟨k, v⟩ := p
    rw [List.foldl_cons, ih h.tail]
    by_cases hk : name = k
    · subst hk
      -- the pair in front is found only where no later one has the name; if one has, they agree
      rw [get?_insert_self]
      constructor
      · rintro (hmem | ⟨_, hv⟩)
        · exact Or.inl (List.mem_cons_of_mem _ hmem)
        · exact Or.inl (Option.some.inj hv ▸ List.mem_cons_self)
      · rintro (hmem | ⟨hnone, _⟩)
        · have hv : v = value := h v value List.mem_cons_self hmem
          by_cases hlater : ∃ w, (name, w) ∈ pairs
          · obtain ⟨w, hw⟩ := hlater
            have hwv : v = w := h v w List.mem_cons_self (List.mem_cons_of_mem _ hw)
            exact Or.inl (hv ▸ hwv ▸ hw)
          · exact Or.inr ⟨fun w hw => hlater ⟨w, hw⟩, congrArg some hv⟩
        · exact absurd List.mem_cons_self (hnone v)
    · rw [get?_insert_of_ne d v hk]
      have hmem : ∀ w, (name, w) ∈ (k, v) :: pairs ↔ (name, w) ∈ pairs := by
        intro w
        simp [hk]
      simp only [hmem]

/-- What is found was there before or is one of the pairs written. -/
theorem mem_of_get?_foldl_insert {pairs : List (String × α)} {name : String} {d : Dict α}
    {value : α} (h : get? (pairs.foldl (fun d p => insert d p.1 p.2) d) name = some value) :
    (name, value) ∈ pairs ∨ get? d name = some value := by
  induction pairs generalizing d with
  | nil => exact Or.inr h
  | cons p pairs ih =>
    obtain ⟨k, v⟩ := p
    rcases ih h with hmem | hd
    · exact Or.inl (List.mem_cons_of_mem _ hmem)
    · by_cases hk : name = k
      · subst hk
        rw [get?_insert_self] at hd
        exact Or.inl (Option.some.inj hd ▸ List.mem_cons_self)
      · rw [get?_insert_of_ne d v hk] at hd
        exact Or.inr hd

/-- A look-up finds only what the map was made of. -/
theorem mem_of_get?_ofList {pairs : List (String × α)} {name : String} {value : α}
    (h : get? (ofList pairs) name = some value) : (name, value) ∈ pairs := by
  simpa using mem_of_get?_foldl_insert h

/-- A look-up finds exactly the pairs that the map was made of. -/
theorem get?_ofList_iff {pairs : List (String × α)} {name : String} (h : Agree pairs name)
    (value : α) : get? (ofList pairs) name = some value ↔ (name, value) ∈ pairs := by
  rw [ofList, get?_foldl_insert h]
  simp

/-- Of two lists of pairs the later one counts. -/
theorem get?_foldl_insert_eq (pairs : List (String × α)) (d : Dict α) (name : String) :
    get? (pairs.foldl (fun d p => insert d p.1 p.2) d) name
      = (get? (ofList pairs) name).or (get? d name) := by
  induction pairs generalizing d with
  | nil => rfl
  | cons p pairs ih =>
    obtain ⟨k, v⟩ := p
    rw [ofList, List.foldl_cons, List.foldl_cons, ih, ih (insert [] k v), Option.or_assoc]
    congr 1
    by_cases hk : name = k
    · subst hk
      simp [get?_insert_self]
    · simp [get?_insert_of_ne _ v hk]

@[simp] theorem get?_ofList_append (xs ys : List (String × α)) (name : String) :
    get? (ofList (xs ++ ys)) name = (get? (ofList ys) name).or (get? (ofList xs) name) := by
  rw [ofList, List.foldl_append, get?_foldl_insert_eq]
  rfl

@[simp] theorem get?_ofList_cons (p : String × α) (pairs : List (String × α)) (name : String) :
    get? (ofList (p :: pairs)) name
      = (get? (ofList pairs) name).or (if p.1 = name then some p.2 else none) := by
  rw [ofList, List.foldl_cons, get?_foldl_insert_eq]
  rfl

@[simp] theorem ofList_nil : ofList ([] : List (String × α)) = [] := rfl

/-! ## Names -/

@[simp] theorem names_nil : names ([] : Dict α) = [] := rfl

@[simp] theorem names_cons (p : String × α) (d : Dict α) : names (p :: d) = p.1 :: names d := rfl

theorem mem_names_of_mem {d : Dict α} {p : String × α} (h : p ∈ d) : p.1 ∈ names d :=
  List.mem_map_of_mem h

theorem names_zip_sublist (names : List String) (values : List α) :
    (Dict.names (names.zip values)).Sublist names := by
  induction names generalizing values with
  | nil => exact List.Sublist.refl []
  | cons name names ih =>
    cases values with
    | nil => exact List.nil_sublist _
    | cons value values => exact (ih values).cons_cons name

/-- A value that is found is one of the pairs. -/
theorem mem_of_get? {d : Dict α} {name : String} {value : α} (h : get? d name = some value) :
    (name, value) ∈ d := by
  induction d with
  | nil => cases h
  | cons p d ih =>
    obtain ⟨k, v⟩ := p
    rw [get?_cons] at h
    split at h
    · next hk => exact hk ▸ Option.some.inj h ▸ List.mem_cons_self
    · exact List.mem_cons_of_mem _ (ih h)

/-- A name that is not there has no value. -/
theorem get?_eq_none_iff {d : Dict α} {name : String} : get? d name = none ↔ name ∉ names d := by
  induction d with
  | nil => simp
  | cons p d ih =>
    obtain ⟨k, v⟩ := p
    rw [get?_cons, names_cons, List.mem_cons, not_or]
    by_cases hk : k = name
    · simp [hk]
    · simp [hk, ih, Ne.symm hk]

/-- Where no name is repeated, a look-up finds exactly the pairs. -/
theorem get?_eq_some_iff {d : Dict α} (h : (names d).Nodup) {name : String} {value : α} :
    get? d name = some value ↔ (name, value) ∈ d := by
  induction d with
  | nil => simp
  | cons p d ih =>
    obtain ⟨k, v⟩ := p
    rw [names_cons, List.nodup_cons] at h
    rw [get?_cons, List.mem_cons, Prod.mk.injEq]
    by_cases hk : k = name
    · subst hk
      have hnot : (k, value) ∉ d := fun hmem => h.1 (mem_names_of_mem (p := (k, value)) hmem)
      simp [hnot, eq_comm]
    · rw [if_neg hk, ih h.2]
      simp [Ne.symm hk]

/-- Pairs without repeated names agree under each. -/
theorem agree_of_nodup {pairs : List (String × α)} (h : (names pairs).Nodup) (name : String) :
    Agree pairs name := by
  intro v w hv hw
  exact Option.some.inj (((get?_eq_some_iff h).mpr hv).symm.trans ((get?_eq_some_iff h).mpr hw))

/-! ## Other values -/

theorem names_mapValues {β : Type} (f : α → β) (d : Dict α) :
    names (mapValues f d) = names d := by
  rw [names, mapValues, List.map_map]
  rfl

/-- A value is written in its place whatever the values are. -/
theorem insert_mapValues {β : Type} (f : α → β) (d : Dict α) (name : String) (value : α) :
    insert (mapValues f d) name (f value) = mapValues f (insert d name value) := by
  induction d with
  | nil => rfl
  | cons p d ih =>
    obtain ⟨k, v⟩ := p
    simp only [mapValues, List.map_cons, insert] at ih ⊢
    split
    · rfl
    · split
      · rfl
      · rw [ih, List.map_cons]

theorem ofList_mapValues {β : Type} (f : α → β) (pairs : List (String × α)) :
    ofList (mapValues f pairs) = mapValues f (ofList pairs) := by
  have hfold : ∀ d : Dict α,
      (mapValues f pairs).foldl (fun d p => insert d p.1 p.2) (mapValues f d)
        = mapValues f (pairs.foldl (fun d p => insert d p.1 p.2) d) := by
    induction pairs with
    | nil => exact fun d => rfl
    | cons p pairs ih =>
      intro d
      rw [List.foldl_cons, ← ih, ← insert_mapValues]
      rfl
  exact hfold []

/-- The names of a map are determined by those that it is made of. -/
theorem names_ofList_congr {β : Type} {pairs : List (String × α)} {pairs' : List (String × β)}
    (h : names pairs = names pairs') : names (ofList pairs) = names (ofList pairs') := by
  have hunit : mapValues (fun _ => ()) pairs = mapValues (fun _ => ()) pairs' := by
    have hmap := congrArg (List.map fun name => (name, ())) h
    rwa [names, names, List.map_map, List.map_map] at hmap
  rw [← names_mapValues fun _ => (), ← ofList_mapValues, hunit, ofList_mapValues, names_mapValues]

/-! ## Order -/

theorem Ordered.nodup {d : Dict α} (h : Ordered d) : (names d).Nodup :=
  List.Pairwise.imp (fun hlt => ne_of_lt hlt) h

/-- Writing under a name adds this name alone. -/
theorem mem_names_insert {d : Dict α} {name other : String} {value : α}
    (h : other ∈ names (insert d name value)) : other = name ∨ other ∈ names d := by
  induction d with
  | nil => simpa [insert, names] using h
  | cons p d ih =>
    obtain ⟨k, v⟩ := p
    simp only [insert] at h
    split at h
    · rcases List.mem_cons.mp h with hname | h
      · exact Or.inl hname
      · exact Or.inr (List.mem_cons_of_mem _ h)
    · split at h
      · exact List.mem_cons.mp h
      · rcases List.mem_cons.mp h with hname | h
        · exact Or.inr (List.mem_cons.mpr (Or.inl hname))
        · exact (ih h).imp id (List.mem_cons_of_mem _)

/-- Writing keeps the order. -/
theorem ordered_insert {d : Dict α} (h : Ordered d) (name : String) (value : α) :
    Ordered (insert d name value) := by
  induction d with
  | nil => exact List.pairwise_singleton _ _
  | cons p d ih =>
    obtain ⟨k, v⟩ := p
    obtain ⟨hk, hd⟩ := List.pairwise_cons.mp h
    simp only [insert]
    split
    · next heq => exact heq ▸ h
    · next hne =>
      split
      · next hlt =>
        refine List.pairwise_cons.mpr ⟨?_, h⟩
        intro other hother
        rcases List.mem_cons.mp hother with rfl | hother
        · exact hlt
        · exact lt_trans hlt (hk other hother)
      · next hnlt =>
        refine List.pairwise_cons.mpr ⟨?_, ih hd⟩
        intro other hother
        rcases mem_names_insert hother with rfl | hother
        · exact lt_of_le_of_ne (not_lt.mp hnlt) (Ne.symm hne)
        · exact hk other hother

/-- A map made of pairs is in order. -/
theorem ordered_ofList (pairs : List (String × α)) : Ordered (ofList pairs) := by
  have hfold : ∀ d : Dict α, Ordered d →
      Ordered (pairs.foldl (fun d p => insert d p.1 p.2) d) := by
    induction pairs with
    | nil => exact fun d hd => hd
    | cons p pairs ih => exact fun d hd => ih _ (ordered_insert hd p.1 p.2)
  exact hfold [] List.Pairwise.nil

/-- Pairs without repeated names are looked up in the map as in the list. -/
theorem get?_ofList {pairs : List (String × α)} (h : (names pairs).Nodup) (name : String) :
    get? (ofList pairs) name = get? pairs name := by
  ext value
  rw [get?_ofList_iff (agree_of_nodup h name), get?_eq_some_iff h]

/-- A map is determined by its pairs. -/
theorem eq_of_ordered {d e : Dict α} (hd : Ordered d) (he : Ordered e)
    (h : ∀ p, p ∈ d ↔ p ∈ e) : d = e := by
  have hperm : d.Perm e :=
    (List.perm_ext_iff_of_nodup (List.Nodup.of_map _ hd.nodup) (List.Nodup.of_map _ he.nodup)).mpr h
  have hasymm : ∀ a b : String × α, a ∈ d → b ∈ e → a.1 < b.1 → b.1 < a.1 → a = b :=
    fun a b _ _ hab hba => absurd hab (lt_asymm hba)
  exact hperm.eq_of_pairwise hasymm (List.pairwise_map.mp hd) (List.pairwise_map.mp he)

/-- Where no name is repeated, it does not matter in which order the pairs are written. -/
theorem ofList_perm {pairs pairs' : List (String × α)} (h : pairs.Perm pairs')
    (hn : (names pairs).Nodup) : ofList pairs = ofList pairs' := by
  have hn' : (names pairs').Nodup := (h.map Prod.fst).nodup_iff.mp hn
  refine eq_of_ordered (ordered_ofList pairs) (ordered_ofList pairs') fun ⟨name, value⟩ => ?_
  rw [← get?_eq_some_iff (ordered_ofList pairs).nodup,
    ← get?_eq_some_iff (ordered_ofList pairs').nodup,
    get?_ofList_iff (agree_of_nodup hn name), get?_ofList_iff (agree_of_nodup hn' name), h.mem_iff]

/-- Two maps that have the same names have them in the same order. -/
theorem names_eq_of_perm {β : Type} {d : Dict α} {e : Dict β} (hd : Ordered d) (he : Ordered e)
    (h : (names d).Perm (names e)) : names d = names e := by
  have hasymm : ∀ a b : String, a ∈ names d → b ∈ names e → a < b → b < a → a = b :=
    fun a b _ _ hab hba => absurd hab (lt_asymm hba)
  exact h.eq_of_pairwise hasymm hd he

/-- Of two maps of one size the names are the same as soon as those of one are among those of the
other. -/
theorem names_eq_of_subset {β : Type} {d : Dict α} {e : Dict β} (hd : Ordered d) (he : Ordered e)
    (hlen : d.length = e.length) (h : names d ⊆ names e) : names d = names e := by
  have hsub : (names d).Subperm (names e) := hd.nodup.subperm h
  have hlen' : (names e).length ≤ (names d).length := by simp [names, hlen]
  exact names_eq_of_perm hd he (hsub.perm_of_length_le hlen')

/-- Leaving pairs out keeps the order. -/
theorem Ordered.filter {d : Dict α} (h : Ordered d) (keep : String × α → Bool) :
    Ordered (d.filter keep) :=
  List.Pairwise.sublist (List.Sublist.map _ List.filter_sublist) h

end Dict
end FormLogic
