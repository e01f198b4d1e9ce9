/-
  FormLogic.Proofs.Pattern.Address

  The grammar of e-mail addresses, and that their pattern matches it.

  The three repetitions of the pattern can share out the dots of an address
  in several ways, and the search looks for any of them.  The grammar is said
  without them: no blank, one at sign with something before it, and a dot
  inside of what follows it (`IsAddress`).  A way to share out an address is
  then given by any of its inner dots.

    * `addressChars_has` — the characters that the repetitions match.
    * `isMatch_emailShape` — a text matches the pattern exactly if it is of
      that grammar.
-/

import Mathlib.Data.List.TakeDrop
import FormLogic.Proofs.Pattern.Email
import FormLogic.Proofs.Pattern.Meaning

namespace FormLogic

/-- A text is an e-mail address: it has no blanks and one at sign, with something before it, and
what is behind it has a dot that is neither its first nor its last character. -/
def IsAddress (s : String) : Prop :=
  (∀ c ∈ s.toList, Text.isBlank c = false)
    ∧ ∃ name host, s.toList = name ++ '@' :: host ∧ '@' ∉ name ∧ '@' ∉ host ∧ name ≠ []
      ∧ ∃ i, 0 < i ∧ i + 1 < host.length ∧ host[i]? = some '.'

namespace Pattern

/-! ## Characters -/

/-- The characters that the repetitions match are those that are neither blank nor an at sign. -/
theorem addressChars_has {c : Char} :
    addressChars.has c = true ↔ Text.isBlank c = false ∧ c ≠ '@' := by
  have hlast : c.toNat ≤ 0x10ffff := by
    have hvalid := c.valid
    simp only [UInt32.isValidChar, Nat.isValidChar] at hvalid
    rw [Char.toNat]
    omega
  have hat : c ≠ '@' ↔ c.toNat ≠ 64 := not_congr (Char.toNat_inj (d := '@')).symm
  rw [hat]
  simp only [CharSet.has, CharSet.hasCode, addressChars, List.any_cons, List.any_nil, Text.isBlank,
    Bool.or_eq_true, Bool.and_eq_true, decide_eq_true_eq, Bool.or_eq_false_iff,
    Bool.and_eq_false_iff, decide_eq_false_iff_not, beq_eq_false_iff_ne, Bool.false_eq_true,
    or_false]
  omega

/-! ## Parts -/

section Parts

variable {before after : Option Char} {cs : List Char} {set : CharSet} {s : Meaning}

/-- So many characters of a set are matched by that many iterations. -/
theorem times_chars {n : Nat} : Times (Matches (.chars set)) n before cs after ↔
    cs.length = n ∧ ∀ c ∈ cs, set.has c = true := by
  induction n generalizing before cs with
  | zero =>
    rw [Times, List.length_eq_zero_iff]
    exact ⟨fun h => ⟨h, by simp [h]⟩, And.left⟩
  | succ n ih =>
    cases cs with
    | nil => simp [times_nil, Matches]
    | cons c cs =>
      rw [Times, List.length_cons, List.forall_mem_cons, Nat.add_right_cancel_iff]
      constructor
      · rintro ⟨_, ys, hsplit, ⟨d, rfl, hd⟩, hrest⟩
        obtain ⟨rfl, rfl⟩ := List.cons.inj hsplit
        obtain ⟨hlength, hall⟩ := ih.mp hrest
        exact ⟨hlength, hd, hall⟩
      · rintro ⟨hlength, hc, hall⟩
        exact ⟨[c], cs, rfl, ⟨c, rfl, hc⟩, ih.mpr ⟨hlength, hall⟩⟩

/-- One or more characters of a set. -/
theorem matches_run : Matches (.repeated (.chars set) 1 none) before cs after ↔
    cs ≠ [] ∧ ∀ c ∈ cs, set.has c = true := by
  rw [← List.length_pos_iff]
  constructor
  · rintro ⟨n, hn, -, htimes⟩
    obtain ⟨rfl, hall⟩ := times_chars.mp htimes
    exact ⟨hn, hall⟩
  · rintro ⟨hpos, hall⟩
    exact ⟨cs.length, hpos, nofun, times_chars.mpr ⟨rfl, hall⟩⟩

/-- One character, and something after it. -/
theorem follow_single {c : Char} :
    Follow (Matches (.chars [(c.toNat, c.toNat)])) s before cs after ↔
      ∃ rest, cs = c :: rest ∧ s (some c) rest after := by
  have hhas : ∀ d : Char, CharSet.has [(c.toNat, c.toNat)] d = true ↔ d = c := by
    intro d
    simp only [CharSet.has, CharSet.hasCode, List.any_cons, List.any_nil, Bool.or_false,
      Bool.and_eq_true, decide_eq_true_eq, ← Char.toNat_inj]
    omega
  constructor
  · rintro ⟨_, ys, rfl, ⟨d, rfl, hd⟩, hrest⟩
    obtain rfl := (hhas d).mp hd
    exact ⟨ys, rfl, hrest⟩
  · rintro ⟨rest, rfl, hrest⟩
    exact ⟨[c], rest, rfl, ⟨c, rfl, (hhas c).mpr rfl⟩, hrest⟩

end Parts

/-! ## The pattern of addresses -/

/-- A part of an address: one or more characters that are neither blank nor an at sign. -/
def IsAddressPart (cs : List Char) : Prop := cs ≠ [] ∧ ∀ c ∈ cs, Text.isBlank c = false ∧ c ≠ '@'

theorem matches_addressPart {before after : Option Char} {cs : List Char} :
    Matches addressPart before cs after ↔ IsAddressPart cs := by
  simp only [addressPart, matches_run, addressChars_has, IsAddressPart]

theorem proper_emailShape : emailShape.Proper := by
  simp [emailShape, addressPart, Proper]

/-- The pattern matches a whole text or nothing of it, and a whole text if it can be divided into
three parts with an at sign and a dot between them. -/
theorem matches_emailShape {before after : Option Char} {cs : List Char} :
    emailShape.Matches before cs after ↔ before = none ∧ after = none
      ∧ ∃ u v w, cs = u ++ '@' :: (v ++ '.' :: w)
        ∧ IsAddressPart u ∧ IsAddressPart v ∧ IsAddressPart w := by
  constructor
  · rintro ⟨_, _, rfl, ⟨rfl, hstart⟩, u, _, rfl, hu, hat⟩
    obtain ⟨_, rfl, v, _, rfl, hv, hdot⟩ := (follow_single (c := '@')).mp hat
    obtain ⟨_, rfl, w, _, rfl, hw, rfl, hend⟩ := (follow_single (c := '.')).mp hdot
    refine ⟨by simpa [Assertion.holds] using hstart, by simpa [Assertion.holds] using hend,
      u, v, w, by simp, ?_⟩
    exact ⟨matches_addressPart.mp hu, matches_addressPart.mp hv, matches_addressPart.mp hw⟩
  · rintro ⟨rfl, rfl, u, v, w, rfl, hu, hv, hw⟩
    refine ⟨[], _, rfl, ⟨rfl, rfl⟩, u, _, rfl, matches_addressPart.mpr hu, ?_⟩
    refine (follow_single (c := '@')).mpr ⟨_, rfl, v, _, rfl, matches_addressPart.mpr hv, ?_⟩
    refine (follow_single (c := '.')).mpr ⟨_, rfl, w, [], (List.append_nil w).symm,
      matches_addressPart.mpr hw, rfl, rfl⟩

/-! ## The grammar -/

theorem isAddressPart_iff {cs : List Char} :
    IsAddressPart cs ↔ cs ≠ [] ∧ '@' ∉ cs ∧ ∀ c ∈ cs, Text.isBlank c = false := by
  rw [IsAddressPart]
  refine and_congr_right fun _ => ?_
  constructor
  · exact fun h => ⟨fun hat => (h _ hat).2 rfl, fun c hc => (h c hc).1⟩
  · rintro ⟨hat, hblank⟩ c hc
    exact ⟨hblank c hc, fun heq => hat (heq ▸ hc)⟩

/-- A list with an element inside of it is what stands before and behind that element. -/
theorem exists_inner_iff {α : Type} {xs : List α} {a : α} :
    (∃ i, 0 < i ∧ i + 1 < xs.length ∧ xs[i]? = some a) ↔
      ∃ ys zs, xs = ys ++ a :: zs ∧ ys ≠ [] ∧ zs ≠ [] := by
  constructor
  · rintro ⟨i, hpos, hlt, hget⟩
    obtain ⟨hi, rfl⟩ := List.getElem?_eq_some_iff.mp hget
    refine ⟨xs.take i, xs.drop (i + 1), ?_, ?_, ?_⟩
    · rw [← List.drop_eq_getElem_cons hi, List.take_append_drop]
    · rw [← List.length_pos_iff, List.length_take]
      omega
    · rw [← List.length_pos_iff, List.length_drop]
      omega
  · rintro ⟨ys, zs, rfl, hys, hzs⟩
    refine ⟨ys.length, List.length_pos_iff.mpr hys, ?_, by simp⟩
    have hpos : 0 < zs.length := List.length_pos_iff.mpr hzs
    rw [List.length_append, List.length_cons]
    omega

/-- A text is an address exactly if it can be divided into three parts with an at sign and a dot
between them. -/
theorem isAddress_iff {s : String} : IsAddress s ↔
    ∃ u v w, s.toList = u ++ '@' :: (v ++ '.' :: w)
      ∧ IsAddressPart u ∧ IsAddressPart v ∧ IsAddressPart w := by
  simp only [IsAddress, exists_inner_iff, isAddressPart_iff]
  constructor
  · rintro ⟨hblank, u, _, hs, hu, hhost, hune, v, w, rfl, hvne, hwne⟩
    rw [hs] at hblank
    simp only [List.mem_append, List.mem_cons, not_or] at hhost
    refine ⟨u, v, w, hs, ⟨hune, hu, fun c hc => hblank c ?_⟩,
      ⟨hvne, hhost.1, fun c hc => hblank c ?_⟩, ⟨hwne, hhost.2.2, fun c hc => hblank c ?_⟩⟩ <;>
      simp [hc]
  · rintro ⟨u, v, w, hs, ⟨hune, hu, hublank⟩, ⟨hvne, hv, hvblank⟩, ⟨hwne, hw, hwblank⟩⟩
    refine ⟨?_, u, v ++ '.' :: w, hs, hu, ?_, hune, v, w, rfl, hvne, hwne⟩
    · have hat : Text.isBlank '@' = false := by decide
      have hdot : Text.isBlank '.' = false := by decide
      rw [hs]
      simp only [List.forall_mem_append, List.forall_mem_cons]
      exact ⟨hublank, hat, hvblank, hdot, hwblank⟩
    · simp [hv, hw]

/-- A text is found to match the pattern of e-mail addresses exactly if it is one. -/
theorem isMatch_emailShape {s : String} : emailShape.isMatch s = true ↔ IsAddress s := by
  rw [isMatch_iff proper_emailShape, isAddress_iff]
  simp only [matches_emailShape]
  constructor
  · rintro ⟨left, _, right, hsplit, hleft, hright, u, v, w, rfl, hparts⟩
    obtain rfl : left = [] := List.getLast?_eq_none_iff.mp hleft
    obtain rfl : right = [] := List.head?_eq_none_iff.mp hright
    exact ⟨u, v, w, by simpa using hsplit, hparts⟩
  · rintro ⟨u, v, w, hs, hparts⟩
    exact ⟨[], s.toList, [], by simp, rfl, rfl, u, v, w, hs, hparts⟩

end Pattern

example : IsAddress "a.b+c@x..example." := by
  rw [← Pattern.isMatch_emailShape]
  decide +kernel

example : ¬ IsAddress "a@.example" := by
  rw [← Pattern.isMatch_emailShape]
  decide +kernel

end FormLogic
