/-
  FormLogic.Proofs.Url.Query

  Names and values in the query of an address, written and read back.

  A name or value is written with no sign that parts a query: neither the
  ampersand between pairs nor the equals sign within one, and a plus sign
  only for a blank.  So a pair stands by itself in the query, whatever
  characters it is made of, and what was there before is read as before: a
  separator at the end of the old query leaves an empty part, which does not
  count.

    * `unescape_escapeByte` — a byte is read back from its two digits.
    * `readQueryText_queryText` — a name or value is read back.
    * `pairs_appendPair` — one more pair is what the query has at its end.
-/

import FormLogic.Url.Query
import FormLogic.Proofs.Path.Segments
import FormLogic.Proofs.Text.Utf8

namespace FormLogic
namespace Url

variable {c : Char} {cs : List Char}

/-! ## Bytes -/

theorem hexValue?_hexDigit : ∀ n < 16, hexValue? (hexDigit n) = some n := by
  decide

theorem isPlainInQuery_hexDigit : ∀ n < 16, isPlainInQuery (hexDigit n) = true := by
  decide

/-- A byte is two digits of at most fifteen. -/
theorem escapeByte_digits (b : UInt8) : b.toNat / 16 < 16 ∧ b.toNat % 16 < 16 := by
  have hb : b.toNat < 256 := b.toNat_lt
  omega

theorem unescapeByte?_digits (b : UInt8) (cs : List Char) :
    unescapeByte? (hexDigit (b.toNat / 16) :: hexDigit (b.toNat % 16) :: cs) = some (b, cs) := by
  obtain ⟨hhigh, hlow⟩ := escapeByte_digits b
  have hvalue : b.toNat / 16 * 16 + b.toNat % 16 = b.toNat := Nat.div_add_mod' _ _
  simp only [unescapeByte?, hexValue?_hexDigit _ hhigh, hexValue?_hexDigit _ hlow, hvalue,
    UInt8.ofNat_toNat]

/-- A byte that is read takes two characters. -/
theorem length_of_unescapeByte? {b : UInt8} {rest : List Char}
    (h : unescapeByte? cs = some (b, rest)) : rest.length + 2 = cs.length := by
  unfold unescapeByte? at h
  split at h
  · split at h
    · obtain ⟨-, rfl⟩ := Prod.mk.inj (Option.some.inj h)
      rfl
    · cases h
  · cases h

/-- More fuel than there are characters reads nothing else. -/
theorem unescapeFuel_eq {m n : Nat} (hm : cs.length ≤ m) (hn : cs.length ≤ n) :
    unescapeFuel m cs = unescapeFuel n cs := by
  induction m generalizing cs n with
  | zero =>
    obtain rfl := List.eq_nil_of_length_eq_zero (Nat.le_zero.mp hm)
    cases n <;> rfl
  | succ m ih =>
    cases cs with
    | nil => cases n <;> rfl
    | cons c cs =>
      rw [List.length_cons] at hm hn
      obtain ⟨n, rfl⟩ := Nat.exists_eq_add_one_of_ne_zero (show n ≠ 0 by omega)
      have hrest : unescapeFuel m cs = unescapeFuel n cs := ih (by omega) (by omega)
      rw [unescapeFuel, unescapeFuel, hrest]
      -- only a byte that is read leaves fewer characters
      cases hbyte : unescapeByte? cs with
      | none => rfl
      | some r =>
        obtain ⟨b, rest⟩ := r
        have hlength := length_of_unescapeByte? hbyte
        have hbehind : unescapeFuel m rest = unescapeFuel n rest := ih (by omega) (by omega)
        simp only [hbehind]

theorem unescape_cons_of_ne (h : c ≠ '%') :
    unescape (c :: cs) = String.utf8EncodeChar c ++ unescape cs := by
  rw [unescape, List.length_cons, unescapeFuel, if_neg h]
  rfl

/-- A byte is read back from its two digits. -/
theorem unescape_escapeByte (b : UInt8) (cs : List Char) :
    unescape (escapeByte b ++ cs) = b :: unescape cs := by
  have hlength : cs.length ≤ (hexDigit (b.toNat / 16) :: hexDigit (b.toNat % 16) :: cs).length :=
    Nat.le_add_right _ 2
  rw [escapeByte, List.cons_append, List.cons_append, List.cons_append, List.nil_append, unescape,
    List.length_cons, unescapeFuel, if_pos rfl, unescapeByte?_digits]
  simp only [unescapeFuel_eq hlength (Nat.le_refl cs.length)]
  rfl

theorem unescape_escapeBytes (bs : List UInt8) (cs : List Char) :
    unescape (bs.flatMap escapeByte ++ cs) = bs ++ unescape cs := by
  induction bs with
  | nil => rfl
  | cons b bs ih =>
    rw [List.flatMap_cons, List.append_assoc, unescape_escapeByte, ih, List.cons_append]

/-! ## Names and values -/

/-- The characters that names and values are written with. -/
def isQueryMark (c : Char) : Bool := isPlainInQuery c || c = '%' || c = '+'

/-- A byte is written with plain characters and the percent sign. -/
theorem mem_escapeByte {b : UInt8} (h : c ∈ escapeByte b) : isPlainInQuery c = true ∨ c = '%' := by
  obtain ⟨hhigh, hlow⟩ := escapeByte_digits b
  simp only [escapeByte, List.mem_cons, List.not_mem_nil, or_false] at h
  rcases h with rfl | rfl | rfl
  · exact Or.inr rfl
  · exact Or.inl (isPlainInQuery_hexDigit _ hhigh)
  · exact Or.inl (isPlainInQuery_hexDigit _ hlow)

theorem isQueryMark_of_mem_queryText (h : c ∈ queryText cs) : isQueryMark c = true := by
  obtain ⟨d, -, hd⟩ := List.mem_flatMap.mp h
  rw [queryChar] at hd
  rw [isQueryMark, Bool.or_eq_true, Bool.or_eq_true, decide_eq_true_eq, decide_eq_true_eq]
  split at hd
  · next hplain =>
    obtain rfl := List.mem_singleton.mp hd
    exact Or.inl (Or.inl hplain)
  split at hd
  · obtain rfl := List.mem_singleton.mp hd
    exact Or.inr rfl
  · obtain ⟨b, -, hb⟩ := List.mem_flatMap.mp hd
    exact Or.inl (mem_escapeByte hb)

/-- No sign that parts a query is in a name or value. -/
theorem notMem_queryText (h : isQueryMark c = false) (cs : List Char) : c ∉ queryText cs := by
  intro hmem
  rw [isQueryMark_of_mem_queryText hmem] at h
  cases h

/-- A blank where there is a plus sign. -/
def plusToBlank (c : Char) : Char := if c = '+' then ' ' else c

theorem plusToBlank_of_ne (h : c ≠ '+') : plusToBlank c = c := if_neg h

/-- Bytes are written without plus signs. -/
theorem map_plusToBlank_escapeBytes (bs : List UInt8) :
    (bs.flatMap escapeByte).map plusToBlank = bs.flatMap escapeByte := by
  have hsame : ∀ c ∈ bs.flatMap escapeByte, plusToBlank c = c := by
    rintro c hc
    obtain ⟨b, -, hb⟩ := List.mem_flatMap.mp hc
    refine plusToBlank_of_ne ?_
    rintro rfl
    exact absurd (mem_escapeByte hb) (by decide)
  rw [List.map_congr_left hsame, List.map_id']

/-- One character of a name or value is read as its bytes. -/
theorem unescape_queryChar (c : Char) (cs : List Char) :
    unescape ((queryChar c).map plusToBlank ++ cs) = String.utf8EncodeChar c ++ unescape cs := by
  rw [queryChar]
  split
  · next hplain =>
    have hplus : c ≠ '+' := by
      rintro rfl
      exact absurd hplain (by decide)
    have hpercent : c ≠ '%' := by
      rintro rfl
      exact absurd hplain (by decide)
    rw [List.map_singleton, plusToBlank_of_ne hplus, List.singleton_append,
      unescape_cons_of_ne hpercent]
  split
  · next hblank =>
    subst hblank
    exact unescape_cons_of_ne (by decide)
  · rw [map_plusToBlank_escapeBytes, unescape_escapeBytes]

/-- A name or value is read back from what is written for it. -/
theorem readQueryText_queryText (cs : List Char) : readQueryText (queryText cs) = cs := by
  have hbytes : unescape ((queryText cs).map plusToBlank) = Text.utf8 cs := by
    induction cs with
    | nil => rfl
    | cons c cs ih =>
      rw [queryText, List.flatMap_cons, List.map_append, unescape_queryChar]
      exact congrArg (String.utf8EncodeChar c ++ ·) ih
  show Text.readUtf8 (unescape ((queryText cs).map plusToBlank)) = cs
  rw [hbytes, Text.readUtf8_utf8]

/-! ## Pairs -/

theorem toList_pairText (name value : String) :
    (pairText name value).toList = queryText name.toList ++ '=' :: queryText value.toList := by
  rw [pairText, String.toList_ofList]

/-- A pair is parted at its equals sign, which is the first one. -/
theorem readPair_pairText (name value : String) :
    readPair (pairText name value).toList = (name, value) := by
  have hname : ∀ c ∈ queryText name.toList, decide (c ≠ '=') = true := by
    intro c hc
    refine decide_eq_true ?_
    rintro rfl
    exact notMem_queryText (by decide) _ hc
  rw [readPair, toList_pairText, List.takeWhile_append_of_pos hname,
    List.dropWhile_append_of_pos hname]
  simp [readQueryText_queryText]

/-- A pair is one part of the query. -/
theorem splitOn_pairText (name value : String) :
    Text.splitOn '&' (pairText name value).toList = [(pairText name value).toList] := by
  have hmark : isQueryMark '&' = false := by decide
  have hnone : '&' ∉ (pairText name value).toList := by
    rw [toList_pairText, List.mem_append, List.mem_cons, not_or, not_or]
    exact ⟨notMem_queryText hmark _, by decide, notMem_queryText hmark _⟩
  rw [Text.splitOn_eq, List.splitOn_eq_singleton hnone]

theorem toList_pairText_ne_nil (name value : String) : (pairText name value).toList ≠ [] := by
  simp [toList_pairText]

/-- A pair alone is read as this pair. -/
theorem readPairs_pairText (name value : String) :
    readPairs (pairText name value) = [(name, value)] := by
  have hpart : ∀ part ∈ [(pairText name value).toList], decide (part ≠ []) = true := by
    simpa using toList_pairText_ne_nil name value
  rw [readPairs, splitOn_pairText, List.filter_eq_self.mpr hpart, List.map_singleton,
    readPair_pairText]

/-- Queries joined by a separator have the pairs of both. -/
theorem readPairs_append (front back : String) :
    readPairs (front ++ "&" ++ back) = readPairs front ++ readPairs back := by
  have hparts : Text.splitOn '&' (front ++ "&" ++ back).toList
      = Text.splitOn '&' front.toList ++ Text.splitOn '&' back.toList := by
    rw [Text.splitOn_eq, Text.splitOn_eq, Text.splitOn_eq, String.toList_append,
      String.toList_append, List.append_assoc]
    exact List.splitOn_append_cons_self ..
  rw [readPairs, hparts, List.filter_append, List.map_append]
  rfl

/-- One more pair is read behind the pairs that the query had. -/
theorem pairs_appendPair (u : Url) (name value : String) :
    (u.appendPair name value).pairs = u.pairs ++ [(name, value)] := by
  rw [pairs, pairs, appendPair]
  cases u.query with
  | none =>
    simp [readPairs_pairText]
  | some query =>
    simp only [Option.map_some, Option.getD_some]
    by_cases hquery : query = ""
    · -- an empty query has no pairs, and nothing parts it from the first one
      subst hquery
      rw [if_pos rfl, String.empty_append, readPairs_pairText]
      rfl
    · rw [if_neg hquery, readPairs_append, readPairs_pairText]

end Url
end FormLogic
