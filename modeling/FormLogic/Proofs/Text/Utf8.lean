/-
  FormLogic.Proofs.Text.Utf8

  Texts written as bytes and read back.

  A character is written as one to four bytes: the first says how many they
  are, and each of the others carries six bits.  The reader keeps the value
  so far and the range of the next byte, which is narrower behind four first
  bytes: there a shorter writing, a surrogate or a value that is too large
  would begin.  No character is written so, and that is what the bounds in
  `readFrom_utf8EncodeChar` come down to.

    * `readFrom_begin_two` and its neighbours — one byte read.
    * `readUtf8_utf8` — a text is read back from its bytes.
-/

import FormLogic.Text.Utf8

namespace FormLogic
namespace Text

variable {n : Nat} {p : Partial} (bs : List UInt8)

/-! ## First bytes -/

theorem toNat_ofNat_of_lt (h : n < 0x100) : (UInt8.ofNat n).toNat = n := by
  rw [UInt8.toNat_ofNat', Nat.mod_eq_of_lt h]

/-- A byte below 128 is a character of its own. -/
theorem readFrom_single (h : n < 0x80) :
    readFrom none (UInt8.ofNat n :: bs) = Char.ofNat n :: readFrom none bs := by
  have hn : (UInt8.ofNat n).toNat = n := toNat_ofNat_of_lt (by omega)
  simp only [readFrom, beginChar, hn, if_pos h, List.singleton_append]

/-- The first byte of two. -/
theorem readFrom_begin_two (hlow : 2 ≤ n) (hhigh : n < 0x20) :
    readFrom none (UInt8.ofNat (n + 0xc0) :: bs) = readFrom (some ⟨n, 1, 0x80, 0xbf⟩) bs := by
  have hn : (UInt8.ofNat (n + 0xc0)).toNat = n + 0xc0 := toNat_ofNat_of_lt (by omega)
  have hone : ¬ n + 0xc0 < 0x80 := by omega
  have hshort : ¬ n + 0xc0 < 0xc2 := by omega
  have htwo : n + 0xc0 < 0xe0 := by omega
  simp only [readFrom, beginChar, hn, if_neg hone, if_neg hshort, if_pos htwo,
    Nat.add_sub_cancel, List.nil_append]

/-- The first byte of three; what follows is bounded where a shorter writing or a surrogate would
begin. -/
theorem readFrom_begin_three (h : n < 0x10) :
    readFrom none (UInt8.ofNat (n + 0xe0) :: bs) = readFrom
      (some ⟨n, 2, if n = 0 then 0xa0 else 0x80, if n = 0xd then 0x9f else 0xbf⟩) bs := by
  have hn : (UInt8.ofNat (n + 0xe0)).toNat = n + 0xe0 := toNat_ofNat_of_lt (by omega)
  have hone : ¬ n + 0xe0 < 0x80 := by omega
  have hshort : ¬ n + 0xe0 < 0xc2 := by omega
  have htwo : ¬ n + 0xe0 < 0xe0 := by omega
  have hthree : n + 0xe0 < 0xf0 := by omega
  have hfirst : n + 0xe0 = 0xe0 ↔ n = 0 := by omega
  have hsurrogates : n + 0xe0 = 0xed ↔ n = 0xd := by omega
  simp only [readFrom, beginChar, hn, if_neg hone, if_neg hshort, if_neg htwo, if_pos hthree,
    hfirst, hsurrogates, Nat.add_sub_cancel, List.nil_append]

/-- The first byte of four; what follows is bounded where a shorter writing or a value that is too
large would begin. -/
theorem readFrom_begin_four (h : n < 5) :
    readFrom none (UInt8.ofNat (n + 0xf0) :: bs)
      = readFrom (some ⟨n, 3, if n = 0 then 0x90 else 0x80, if n = 4 then 0x8f else 0xbf⟩) bs := by
  have hn : (UInt8.ofNat (n + 0xf0)).toNat = n + 0xf0 := toNat_ofNat_of_lt (by omega)
  have hone : ¬ n + 0xf0 < 0x80 := by omega
  have hshort : ¬ n + 0xf0 < 0xc2 := by omega
  have htwo : ¬ n + 0xf0 < 0xe0 := by omega
  have hthree : ¬ n + 0xf0 < 0xf0 := by omega
  have hfour : n + 0xf0 < 0xf5 := by omega
  have hfirst : n + 0xf0 = 0xf0 ↔ n = 0 := by omega
  have hlast : n + 0xf0 = 0xf4 ↔ n = 4 := by omega
  simp only [readFrom, beginChar, hn, if_neg hone, if_neg hshort, if_neg htwo, if_neg hthree,
    if_pos hfour, hfirst, hlast, Nat.add_sub_cancel, List.nil_append]

/-! ## Further bytes -/

/-- A further byte that is not the last adds six bits. -/
theorem readFrom_more (hn : n < 0x40) (hlow : p.low ≤ n + 0x80) (hhigh : n + 0x80 ≤ p.high)
    (hneeds : p.needs ≠ 1) :
    readFrom (some p) (UInt8.ofNat (n + 0x80) :: bs)
      = readFrom (some ⟨p.value * 64 + n, p.needs - 1, 0x80, 0xbf⟩) bs := by
  have hbyte : (UInt8.ofNat (n + 0x80)).toNat = n + 0x80 := toNat_ofNat_of_lt (by omega)
  simp only [readFrom, continueChar, hbyte, if_pos (And.intro hlow hhigh), if_neg hneeds,
    Nat.add_sub_cancel, List.nil_append]

/-- The last byte completes the character. -/
theorem readFrom_last (hn : n < 0x40) (hlow : p.low ≤ n + 0x80) (hhigh : n + 0x80 ≤ p.high)
    (hneeds : p.needs = 1) :
    readFrom (some p) (UInt8.ofNat (n + 0x80) :: bs)
      = Char.ofNat (p.value * 64 + n) :: readFrom none bs := by
  have hbyte : (UInt8.ofNat (n + 0x80)).toNat = n + 0x80 := toNat_ofNat_of_lt (by omega)
  simp only [readFrom, continueChar, hbyte, if_pos (And.intro hlow hhigh), if_pos hneeds,
    Nat.add_sub_cancel, List.singleton_append]

/-! ## Characters -/

/-- A character is read back from its bytes, whatever follows. -/
theorem readFrom_utf8EncodeChar (c : Char) :
    readFrom none (String.utf8EncodeChar c ++ bs) = c :: readFrom none bs := by
  have hvalid : c.toNat < 0xd800 ∨ 0xdfff < c.toNat ∧ c.toNat < 0x110000 := c.valid
  have hself : Char.ofNat c.toNat = c := Char.ofNat_toNat c
  rw [String.utf8EncodeChar]
  simp only [show c.val.toNat = c.toNat from rfl]
  generalize c.toNat = v at hvalid hself
  split
  · next hone =>
    rw [List.singleton_append, readFrom_single bs (by omega), hself]
  split
  · next hone htwo =>
    have hvalue : v / 64 % 32 * 64 + v % 64 = v := by omega
    rw [List.cons_append, List.singleton_append, readFrom_begin_two _ (by omega) (by omega),
      readFrom_last bs (by omega) (by simp) (by simp; omega) rfl, hvalue, hself]
  split
  · next htwo hthree =>
    have hvalue : (v / 4096 % 16 * 64 + v / 64 % 64) * 64 + v % 64 = v := by omega
    rw [List.cons_append, List.cons_append, List.singleton_append,
      readFrom_begin_three _ (by omega),
      readFrom_more _ (by omega) (by simp; split <;> omega) (by simp; split <;> omega) (by simp),
      readFrom_last bs (by omega) (by simp) (by simp; omega) rfl, hvalue, hself]
  · next hthree =>
    have hvalue :
        ((v / 262144 % 8 * 64 + v / 4096 % 64) * 64 + v / 64 % 64) * 64 + v % 64 = v := by omega
    rw [List.cons_append, List.cons_append, List.cons_append, List.singleton_append,
      readFrom_begin_four _ (by omega),
      readFrom_more _ (by omega) (by simp; split <;> omega) (by simp; split <;> omega) (by simp),
      readFrom_more _ (by omega) (by simp) (by simp; omega) (by simp),
      readFrom_last bs (by omega) (by simp) (by simp; omega) rfl, hvalue, hself]

/-- A text is read back from its bytes. -/
theorem readUtf8_utf8 (cs : List Char) : readUtf8 (utf8 cs) = cs := by
  rw [readUtf8]
  induction cs with
  | nil => rfl
  | cons c cs ih =>
    rw [utf8, List.flatMap_cons, readFrom_utf8EncodeChar]
    exact congrArg (c :: ·) ih

end Text
end FormLogic
