/-
  FormLogic.Proofs.Json.Parsed

  Documents that are read from text are in order.

  Of an object the reader collects the members as they come and makes a map
  of them, so that each name is there once and in its place.  The induction
  is on the levels of nesting that are left, and within a list or an object
  on the text.
-/

import FormLogic.Json.Parser
import FormLogic.Proofs.Json.Ordered

namespace FormLogic
namespace Json

/-- The object of members whose values are in order is in order. -/
theorem isOrdered_ofMembers {members : List (String × Json)}
    (h : ∀ m ∈ members, m.2.isOrdered = true) : (ofMembers members).isOrdered = true := by
  refine isOrdered_object.mpr ⟨Dict.ordered_ofList members, fun m hm => ?_⟩
  have hget := (Dict.get?_eq_some_iff (Dict.ordered_ofList members).nodup).mpr hm
  exact h m (Dict.mem_of_get?_ofList hget)

namespace Parser

variable {negative minus : Bool} {significand : Nat} {exponent : Int} {s r : List Char} {v : Json}

/-! ## Numbers -/

theorem isOrdered_of_scaledNumber
    (h : scaledNumber negative significand exponent s = .ok (v, r)) : v.isOrdered = true := by
  unfold scaledNumber at h
  split at h
  · obtain ⟨rfl, -⟩ := Prod.mk.inj (Except.ok.inj h)
    rfl
  · cases h

theorem isOrdered_of_exponentPart
    (h : exponentPart negative significand exponent minus s = .ok (v, r)) :
    v.isOrdered = true := by
  unfold exponentPart at h
  split at h
  · cases h
  · split at h
    · simp only at h
      split at h
      · exact isOrdered_of_scaledNumber h
      · split at h
        · cases h
        · obtain ⟨rfl, -⟩ := Prod.mk.inj (Except.ok.inj h)
          rfl
    · cases h

theorem isOrdered_of_finishDouble
    (h : finishDouble negative significand exponent s = .ok (v, r)) : v.isOrdered = true := by
  unfold finishDouble at h
  split at h
  · exact isOrdered_of_scaledNumber h
  · split at h
    · exact isOrdered_of_exponentPart h
    · exact isOrdered_of_scaledNumber h

theorem isOrdered_of_fraction
    (h : fraction negative significand exponent s = .ok (v, r)) : v.isOrdered = true := by
  unfold fraction at h
  simp only at h
  split at h
  · split at h <;> cases h
  · exact isOrdered_of_finishDouble h

theorem isOrdered_of_afterWhole {digits : List Char}
    (h : afterWhole negative digits s = .ok (v, r)) : v.isOrdered = true := by
  unfold afterWhole at h
  simp only at h
  split at h
  · exact isOrdered_of_fraction h
  · exact isOrdered_of_finishDouble h
  · exact isOrdered_of_finishDouble h
  · split at h
    · exact isOrdered_of_finishDouble h
    · split at h
      · obtain ⟨rfl, -⟩ := Prod.mk.inj (Except.ok.inj h)
        rfl
      · split at h
        · obtain ⟨rfl, -⟩ := Prod.mk.inj (Except.ok.inj h)
          rfl
        · obtain ⟨rfl, -⟩ := Prod.mk.inj (Except.ok.inj h)
          rfl

theorem isOrdered_of_number (h : number negative s = .ok (v, r)) : v.isOrdered = true := by
  unfold number at h
  split at h
  · cases h
  · split at h
    · split at h
      · split at h
        · cases h
        · exact isOrdered_of_afterWhole h
      · exact isOrdered_of_afterWhole h
    · split at h
      · exact isOrdered_of_afterWhole h
      · cases h

/-! ## Lists and objects -/

/-- What a reader of values gives is in order. -/
def GivesOrdered (value : (s : List Char) → Step Json s) : Prop :=
  ∀ {s : List Char} {v : Json} {rest : Rest s}, value s = .ok (v, rest) → v.isOrdered = true

theorem isOrdered_of_entries {value : (s : List Char) → Step Json s} (hvalue : GivesOrdered value)
    {first : Bool} {vs : List Json} {rest : Rest s}
    (h : entries value first s = .ok (vs, rest)) : ∀ v ∈ vs, v.isOrdered = true := by
  fun_induction entries value first s generalizing vs with
  | case1 => cases h
  | case2 =>
    obtain ⟨rfl, -⟩ := Prod.mk.inj (Except.ok.inj h)
    exact fun v hv => absurd hv List.not_mem_nil
  | case3 => cases h
  | case4 => cases h
  | case5 _ _ _ _ v _ hv _ _ vs' _ hvs ih =>
    obtain ⟨rfl, -⟩ := Prod.mk.inj (Except.ok.inj h)
    intro w hw
    rcases List.mem_cons.mp hw with rfl | hw
    · exact hvalue hv
    · exact ih hvs w hw

theorem isOrdered_of_members {value : (s : List Char) → Step Json s} (hvalue : GivesOrdered value)
    {first : Bool} {ms : List (String × Json)} {rest : Rest s}
    (h : members value first s = .ok (ms, rest)) : ∀ m ∈ ms, m.2.isOrdered = true := by
  fun_induction members value first s generalizing ms with
  | case1 => cases h
  | case2 =>
    obtain ⟨rfl, -⟩ := Prod.mk.inj (Except.ok.inj h)
    exact fun v hv => absurd hv List.not_mem_nil
  | case3 => cases h
  | case4 => cases h
  | case5 => cases h
  | case6 => cases h
  | case7 _ _ _ _ name _ _ _ _ v _ hv _ _ _ _ ms' _ hms ih =>
    obtain ⟨rfl, -⟩ := Prod.mk.inj (Except.ok.inj h)
    intro m hm
    rcases List.mem_cons.mp hm with rfl | hm
    · exact hvalue hv
    · exact ih hms m hm

/-! ## Values -/

theorem isOrdered_of_keyword {word : Json} (hword : word.isOrdered = true) {letters : List Char}
    (h : keyword word letters s = .ok (v, r)) : v.isOrdered = true := by
  induction letters generalizing s with
  | nil =>
    obtain ⟨rfl, -⟩ := Prod.mk.inj (Except.ok.inj h)
    exact hword
  | cons letter letters ih =>
    cases s with
    | nil => cases h
    | cons c s =>
      rw [keyword] at h
      split at h
      · exact ih h
      · cases h

theorem isOrdered_of_withProgress {outcome : Except Fault (Json × List Char)}
    {hless : ∀ v r, outcome = .ok (v, r) → r.length < s.length} {rest : Rest s}
    (hordered : ∀ {v r}, outcome = .ok (v, r) → v.isOrdered = true)
    (h : withProgress outcome hless = .ok (v, rest)) : v.isOrdered = true := by
  rw [withProgress.eq_def] at h
  split at h
  · cases h
  · next v' r' _ =>
    obtain ⟨rfl, -⟩ := Prod.mk.inj (Except.ok.inj h)
    exact hordered rfl

/-- What is read behind the first character is what is read. -/
theorem exists_of_widen {α β : Type} {t : List Char} {ht : t.length ≤ s.length} {o : Step α t}
    {f : α → β} {b : β} {rest : Rest s}
    (h : Step.widen ht (o.map fun p => (f p.1, p.2)) = .ok (b, rest)) :
    ∃ a rest', o = .ok (a, rest') ∧ f a = b := by
  cases o with
  | error e => cases h
  | ok p =>
    obtain ⟨a, rest'⟩ := p
    obtain ⟨hb, -⟩ := Prod.mk.inj (Except.ok.inj h)
    exact ⟨a, rest', rfl, hb⟩

/-- A value is in order where those one level deeper are. -/
theorem isOrdered_of_deeper {depth : Nat}
    (ih : ∀ deeper, depth = deeper + 1 → GivesOrdered (value deeper)) :
    GivesOrdered (value depth) := by
  intro s v rest h
  rw [value.eq_def] at h
  simp only at h
  split at h
  · cases h
  · split at h
    · exact isOrdered_of_withProgress (isOrdered_of_keyword rfl) h
    · exact isOrdered_of_withProgress (isOrdered_of_keyword rfl) h
    · exact isOrdered_of_withProgress (isOrdered_of_keyword rfl) h
    · exact isOrdered_of_withProgress isOrdered_of_number h
    · obtain ⟨text, _, -, rfl⟩ := exists_of_widen h
      rfl
    · cases depth with
      | zero => cases h
      | succ depth =>
        obtain ⟨items, _, hitems, rfl⟩ := exists_of_widen h
        exact isOrdered_array.mpr (isOrdered_of_entries (ih depth rfl) hitems)
    · cases depth with
      | zero => cases h
      | succ depth =>
        obtain ⟨ms, _, hms, rfl⟩ := exists_of_widen h
        exact isOrdered_ofMembers (isOrdered_of_members (ih depth rfl) hms)
    · split at h
      · exact isOrdered_of_withProgress isOrdered_of_number h
      · cases h

theorem isOrdered_of_value (depth : Nat) : GivesOrdered (value depth) := by
  induction depth with
  | zero => exact isOrdered_of_deeper fun deeper heq => absurd heq (Nat.succ_ne_zero deeper).symm
  | succ depth ih =>
    refine isOrdered_of_deeper fun deeper heq => ?_
    obtain rfl := Nat.succ.inj heq
    exact ih

end Parser

/-- A document that is read from text is in order. -/
theorem isOrdered_of_parse {text : String} {v : Json} (h : parse text = .ok v) :
    v.isOrdered = true := by
  have hdocument : Parser.document text.toList = .ok v := by
    rw [parse] at h
    split at h
    · next w hw => exact Except.ok.inj h ▸ hw
    · cases h
  rw [Parser.document] at hdocument
  split at hdocument
  · cases hdocument
  · next w rest hvalue =>
    split at hdocument
    · obtain rfl := Except.ok.inj hdocument
      exact Parser.isOrdered_of_value _ hvalue
    · cases hdocument

end Json
end FormLogic
