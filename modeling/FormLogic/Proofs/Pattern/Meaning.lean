/-
  FormLogic.Proofs.Pattern.Meaning

  What patterns match, and that the search finds it.

  What a pattern matches depends on the characters around it, because it can
  make demands on the places where it begins and ends.  So the meaning of a
  pattern is a relation of three: the character before, the characters that
  are matched, and the character after (`Matches`).  A sequence divides what
  is matched in two; a repetition divides it as often as its bounds allow.

  The search never looks at such divisions.  It replaces a pattern by those
  of which one has to match what is left behind a character (`afterChar`),
  and this is right because of one law: that a pattern matches a text that
  begins with a character, exactly if one of its successors matches the rest
  (`matches_cons_iff`).  Iterations of a repetition that match nothing are
  the point at issue there.  They make up for a count that is too low, and
  this is why only repetitions with bounds in order have the law (`Proper`).

    * `matches_cons_iff` — a pattern and its successors.
    * `search_iff` — what the search finds, by induction on the text.
    * `isMatch_iff` — a text is found to match if a part of it matches.
-/

import Mathlib.Data.List.Basic
import FormLogic.Pattern.Match

namespace FormLogic
namespace Pattern

/-! ## Meanings -/

/-- What is matched where: characters, with the one before and the one after them, if there is
one. -/
abbrev Meaning := Option Char → List Char → Option Char → Prop

/-- One meaning after the other. -/
def Follow (r s : Meaning) : Meaning := fun before cs after =>
  ∃ xs ys, cs = xs ++ ys ∧ r before xs (ys.head?.or after) ∧ s (xs.getLast?.or before) ys after

/-- One meaning so many times. -/
def Times (r : Meaning) : Nat → Meaning
  | 0 => fun _ cs _ => cs = []
  | n + 1 => Follow r (Times r n)

/-- What a pattern matches. -/
def Matches : Pattern → Meaning
  | .empty => fun _ cs _ => cs = []
  | .chars set => fun _ cs _ => ∃ c, cs = [c] ∧ set.has c = true
  | .assertion x => fun before cs after => cs = [] ∧ x.holds ⟨before, after⟩ = true
  | .seq p q => Follow p.Matches q.Matches
  | .alt p q => fun before cs after => p.Matches before cs after ∨ q.Matches before cs after
  | .group p => p.Matches
  | .repeated p min max => fun before cs after =>
    ∃ n, min ≤ n ∧ (∀ m, max = some m → n ≤ m) ∧ Times p.Matches n before cs after

/-- The bounds of every repetition are in order. -/
def Proper : Pattern → Prop
  | .seq p q => p.Proper ∧ q.Proper
  | .alt p q => p.Proper ∧ q.Proper
  | .group p => p.Proper
  | .repeated p min max => p.Proper ∧ ∀ m, max = some m → min ≤ m
  | _ => True

/-! ## The empty text -/

section Empty

variable {r s : Meaning} {before after : Option Char}

theorem follow_nil : Follow r s before [] after ↔ r before [] after ∧ s before [] after := by
  constructor
  · rintro ⟨xs, ys, hsplit, hr, hs⟩
    obtain ⟨rfl, rfl⟩ := List.append_eq_nil_iff.mp hsplit.symm
    exact ⟨hr, hs⟩
  · rintro ⟨hr, hs⟩
    exact ⟨[], [], rfl, hr, hs⟩

theorem times_nil {n : Nat} : Times r n before [] after ↔ n = 0 ∨ r before [] after := by
  induction n generalizing before with
  | zero => simp [Times]
  | succ n ih =>
    rw [Times, follow_nil, ih]
    constructor
    · exact fun h => Or.inr h.1
    · rintro (h | h)
      · cases h
      · exact ⟨h, Or.inr h⟩

/-- Whether a pattern matches the empty text is seen from the pattern and the place. -/
theorem matchesEmpty_iff {p : Pattern} (h : p.Proper) :
    p.matchesEmpty ⟨before, after⟩ = true ↔ p.Matches before [] after := by
  induction p with
  | empty => simp [matchesEmpty, Matches]
  | chars set => simp [matchesEmpty, Matches]
  | assertion x => simp [matchesEmpty, Matches]
  | seq p q ihp ihq =>
    rw [matchesEmpty, Bool.and_eq_true, ihp h.1, ihq h.2, Matches, follow_nil]
  | alt p q ihp ihq => rw [matchesEmpty, Bool.or_eq_true, ihp h.1, ihq h.2, Matches]
  | group p ih => exact ih h
  | repeated p min max ih =>
    simp only [matchesEmpty, Bool.or_eq_true, beq_iff_eq, ih h.1, Matches, times_nil]
    constructor
    · intro hempty
      exact ⟨min, Nat.le_refl min, h.2, hempty⟩
    · rintro ⟨n, hmin, -, rfl | hempty⟩
      · exact Or.inl (Nat.le_zero.mp hmin)
      · exact Or.inr hempty

end Empty

/-! ## Behind a character -/

section Character

variable {r s : Meaning} {before after : Option Char} {c : Char} {cs : List Char}

/-- What a meaning leaves to be matched behind a character. -/
def Behind (r : Meaning) (before : Option Char) (c : Char) : Meaning := fun _ cs after =>
  r before (c :: cs) after

/-- The character belongs to the first part, unless that is empty. -/
theorem follow_cons : Follow r s before (c :: cs) after ↔
    Follow (Behind r before c) s (some c) cs after
      ∨ r before [] (some c) ∧ s before (c :: cs) after := by
  constructor
  · rintro ⟨xs, ys, hsplit, hr, hs⟩
    cases xs with
    | nil =>
      obtain rfl : c :: cs = ys := hsplit
      exact Or.inr ⟨hr, hs⟩
    | cons x xs =>
      obtain ⟨rfl, rfl⟩ := List.cons.inj hsplit
      refine Or.inl ⟨xs, ys, rfl, hr, ?_⟩
      cases xs <;> simpa [List.getLast?_cons] using hs
  · rintro (⟨xs, ys, rfl, hr, hs⟩ | ⟨hr, hs⟩)
    · refine ⟨c :: xs, ys, rfl, hr, ?_⟩
      cases xs <;> simpa [List.getLast?_cons] using hs
    · exact ⟨[], c :: cs, rfl, hr, hs⟩

/-- The character belongs to some iteration, and those before it are empty. -/
theorem times_cons {n : Nat} : Times r n before (c :: cs) after ↔
    ∃ k, k < n ∧ (k + 1 = n ∨ r before [] (some c))
      ∧ Follow (Behind r before c) (Times r k) (some c) cs after := by
  induction n with
  | zero => simp [Times]
  | succ n ih =>
    rw [Times, follow_cons, ih]
    constructor
    · rintro (hfirst | ⟨hempty, k, hk, -, hlater⟩)
      · exact ⟨n, Nat.lt_succ_self n, Or.inl rfl, hfirst⟩
      · exact ⟨k, Nat.lt_succ_of_lt hk, Or.inr hempty, hlater⟩
    · rintro ⟨k, hk, hskip, hlater⟩
      rcases Nat.lt_succ_iff_lt_or_eq.mp hk with hlt | rfl
      · have hempty : r before [] (some c) := hskip.resolve_left (by omega)
        exact Or.inr ⟨hempty, k, hlt, Or.inr hempty, hlater⟩
      · exact Or.inl hlater

/-- Putting a pattern in front of another does what a sequence does. -/
theorem matches_followedBy {p q : Pattern} :
    (p.followedBy q).Matches before cs after ↔ Follow p.Matches q.Matches before cs after := by
  cases p with
  | empty =>
    constructor
    · intro h
      exact ⟨[], cs, rfl, rfl, h⟩
    · rintro ⟨xs, ys, rfl, rfl, h⟩
      exact h
  | _ => rfl

/-- The patterns `ps` are what is left of a meaning behind a character. -/
def Successors (r : Meaning) (before : Option Char) (c : Char) (ps : List Pattern) : Prop :=
  ∀ cs after, r before (c :: cs) after ↔ ∃ p ∈ ps, p.Matches (some c) cs after

/-- What is left of a meaning can be put in front of a pattern. -/
theorem Successors.follow {ps : List Pattern} (h : Successors r before c ps) (q : Pattern) :
    (∃ p ∈ ps.map (·.followedBy q), p.Matches (some c) cs after) ↔
      Follow (Behind r before c) q.Matches (some c) cs after := by
  simp only [List.mem_map, exists_exists_and_eq_and, matches_followedBy]
  constructor
  · rintro ⟨p, hp, xs, ys, hsplit, hfirst, hrest⟩
    exact ⟨xs, ys, hsplit, (h _ _).mpr ⟨p, hp, hfirst⟩, hrest⟩
  · rintro ⟨xs, ys, hsplit, hfirst, hrest⟩
    obtain ⟨p, hp, hfirst⟩ := (h _ _).mp hfirst
    exact ⟨p, hp, xs, ys, hsplit, hfirst, hrest⟩

/-- A count that is in bounds, with an iteration that is not empty behind empty ones, leaves a count
that is in the bounds of what is repeated further. -/
theorem exists_count_iff {min k : Nat} {max : Option Nat} {skips : Bool}
    (hproper : ∀ m, max = some m → min ≤ m) (hmax : max ≠ some 0) :
    (∃ n, min ≤ n ∧ (∀ m, max = some m → n ≤ m) ∧ k < n ∧ (k + 1 = n ∨ skips = true)) ↔
      (if skips then 0 else min - 1) ≤ k ∧ ∀ m, max.map (· - 1) = some m → k ≤ m := by
  cases max with
  | none =>
    cases skips with
    | false => simp
    | true => simpa using ⟨Nat.max min (k + 1), Nat.le_max_left _ _, Nat.le_max_right _ _⟩
  | some top =>
    have htop : top ≠ 0 := fun h => hmax (h ▸ rfl)
    have hle : min ≤ top := hproper top rfl
    cases skips with
    | false =>
      simp only [Option.some.injEq, forall_eq', Bool.false_eq_true, or_false, if_false,
        Option.map_some]
      constructor
      · rintro ⟨n, hmin, hn, hk, rfl⟩
        omega
      · intro hk
        exact ⟨k + 1, by omega, by omega, by omega, rfl⟩
    | true =>
      simp only [Option.some.injEq, forall_eq', or_true, and_true, if_true, Option.map_some]
      constructor
      · rintro ⟨n, hmin, hn, hk⟩
        omega
      · intro hk
        exact ⟨top, hle, Nat.le_refl top, by omega⟩

/-- A pattern matches a text that begins with a character exactly if one of its successors matches
the rest. -/
theorem matches_cons_iff {p : Pattern} (h : p.Proper) (before : Option Char) (c : Char) :
    Successors p.Matches before c (p.afterChar before c) := by
  induction p with
  | empty => simp [Successors, afterChar, Matches]
  | chars set =>
    intro cs after
    by_cases hc : set.has c = true
    · simp [afterChar, Matches, hc]
    · simp [afterChar, Matches, hc]
  | assertion x => simp [Successors, afterChar, Matches]
  | seq p q ihp ihq =>
    intro cs after
    rw [Matches, follow_cons, ← (ihp h.1).follow, ihq h.2, ← matchesEmpty_iff h.1]
    simp only [afterChar, List.mem_append, or_and_right, exists_or]
    by_cases hempty : p.matchesEmpty ⟨before, some c⟩ = true <;> simp [hempty]
  | alt p q ihp ihq =>
    intro cs after
    simp only [Matches, ihp h.1 cs after, ihq h.2 cs after, afterChar, List.mem_append,
      or_and_right, exists_or]
  | group p ih => exact ih h
  | repeated p min max ih =>
    intro cs after
    simp only [Matches, times_cons, ← matchesEmpty_iff h.1]
    by_cases hmax : max = some 0
    · -- no iteration is left for the character
      subst hmax
      simp [afterChar]
    · rw [afterChar, if_neg hmax, (ih h.1).follow]
      constructor
      · rintro ⟨n, hmin, hn, k, hk, hskip, xs, ys, hsplit, hfirst, hrest⟩
        obtain ⟨hlow, hhigh⟩ := (exists_count_iff h.2 hmax).mp ⟨n, hmin, hn, hk, hskip⟩
        exact ⟨xs, ys, hsplit, hfirst, k, hlow, hhigh, hrest⟩
      · rintro ⟨xs, ys, hsplit, hfirst, k, hlow, hhigh, hrest⟩
        obtain ⟨n, hmin, hn, hk, hskip⟩ := (exists_count_iff h.2 hmax).mpr ⟨hlow, hhigh⟩
        exact ⟨n, hmin, hn, k, hk, hskip, xs, ys, hsplit, hfirst, hrest⟩

/-- The successors of a pattern keep its bounds in order. -/
theorem Proper.afterChar {p : Pattern} (h : p.Proper) {q : Pattern}
    (hq : q ∈ p.afterChar before c) : q.Proper := by
  have hfollowed : ∀ {p q : Pattern}, p.Proper → q.Proper → (p.followedBy q).Proper := by
    intro p q hp hq
    cases p with
    | empty => exact hq
    | _ => exact ⟨hp, hq⟩
  induction p generalizing q with
  | empty | assertion x => cases hq
  | chars set =>
    rw [Pattern.afterChar] at hq
    split at hq
    · obtain rfl := List.mem_singleton.mp hq
      trivial
    · cases hq
  | seq p p' ihp ihp' =>
    rw [Pattern.afterChar, List.mem_append, List.mem_map] at hq
    rcases hq with ⟨r, hr, rfl⟩ | hq
    · exact hfollowed (ihp h.1 hr) h.2
    · split at hq
      · exact ihp' h.2 hq
      · cases hq
  | alt p p' ihp ihp' => exact (List.mem_append.mp hq).elim (ihp h.1) (ihp' h.2)
  | group p ih => exact ih h hq
  | repeated p min max ih =>
    rw [Pattern.afterChar] at hq
    split at hq
    · cases hq
    · obtain ⟨r, hr, rfl⟩ := List.mem_map.mp hq
      refine hfollowed (ih h.1 hr) ⟨h.1, fun m hm => ?_⟩
      obtain ⟨top, htop, rfl⟩ := Option.map_eq_some_iff.mp hm
      have hle : min ≤ top := h.2 top htop
      split <;> omega

end Character

/-! ## The search -/

section Search

variable {before : Option Char} {c : Char} {cs : List Char}

/-- A pattern matches a beginning of a text. -/
def Begins (p : Pattern) (before : Option Char) (cs : List Char) : Prop :=
  ∃ xs ys, cs = xs ++ ys ∧ p.Matches before xs ys.head?

/-- A pattern matches some part of a text. -/
def Occurs (p : Pattern) (before : Option Char) (cs : List Char) : Prop :=
  ∃ xs ys, cs = xs ++ ys ∧ p.Begins (xs.getLast?.or before) ys

theorem begins_nil {p : Pattern} : p.Begins before [] ↔ p.Matches before [] none := by
  constructor
  · rintro ⟨xs, ys, hsplit, h⟩
    obtain ⟨rfl, rfl⟩ := List.append_eq_nil_iff.mp hsplit.symm
    exact h
  · exact fun h => ⟨[], [], rfl, h⟩

/-- A pattern matches a beginning that is empty, or its successors match one further on. -/
theorem begins_cons {p : Pattern} (h : p.Proper) : p.Begins before (c :: cs) ↔
    p.Matches before [] (some c) ∨ ∃ q ∈ p.afterChar before c, q.Begins (some c) cs := by
  constructor
  · rintro ⟨xs, ys, hsplit, hmatch⟩
    cases xs with
    | nil =>
      obtain rfl : c :: cs = ys := hsplit
      exact Or.inl hmatch
    | cons x xs =>
      obtain ⟨rfl, rfl⟩ := List.cons.inj hsplit
      obtain ⟨q, hq, hrest⟩ := (matches_cons_iff h before c xs ys.head?).mp hmatch
      exact Or.inr ⟨q, hq, xs, ys, rfl, hrest⟩
  · rintro (hempty | ⟨q, hq, xs, ys, rfl, hrest⟩)
    · exact ⟨[], c :: cs, rfl, hempty⟩
    · exact ⟨c :: xs, ys, rfl, (matches_cons_iff h before c xs ys.head?).mpr ⟨q, hq, hrest⟩⟩

theorem occurs_nil {p : Pattern} : p.Occurs before [] ↔ p.Begins before [] := by
  constructor
  · rintro ⟨xs, ys, hsplit, h⟩
    obtain ⟨rfl, rfl⟩ := List.append_eq_nil_iff.mp hsplit.symm
    exact h
  · exact fun h => ⟨[], [], rfl, h⟩

theorem occurs_cons {p : Pattern} : p.Occurs before (c :: cs) ↔
    p.Begins before (c :: cs) ∨ p.Occurs (some c) cs := by
  constructor
  · rintro ⟨xs, ys, hsplit, h⟩
    cases xs with
    | nil =>
      obtain rfl : c :: cs = ys := hsplit
      exact Or.inl h
    | cons x xs =>
      obtain ⟨rfl, rfl⟩ := List.cons.inj hsplit
      refine Or.inr ⟨xs, ys, rfl, ?_⟩
      cases xs <;> simpa [List.getLast?_cons] using h
  · rintro (h | ⟨xs, ys, rfl, h⟩)
    · exact ⟨[], c :: cs, rfl, h⟩
    · refine ⟨c :: xs, ys, rfl, ?_⟩
      cases xs <;> simpa [List.getLast?_cons] using h

/-- One of some patterns is seen to match the empty text. -/
theorem any_matchesEmpty_iff {ps : List Pattern} (h : ∀ p ∈ ps, p.Proper)
    {after : Option Char} :
    ps.any (·.matchesEmpty ⟨before, after⟩) = true ↔ ∃ p ∈ ps, p.Matches before [] after := by
  rw [List.any_eq_true]
  exact exists_congr fun p => and_congr_right fun hp => matchesEmpty_iff (h p hp)

/-- One of some patterns matches a beginning: an empty one, or one of the patterns that come next
matches one further on. -/
theorem exists_begins_cons {ps : List Pattern} (h : ∀ p ∈ ps, p.Proper) :
    (∃ p ∈ ps, p.Begins before (c :: cs)) ↔ (∃ p ∈ ps, p.Matches before [] (some c))
      ∨ ∃ q ∈ (ps.flatMap (·.afterChar before c)).eraseDups, q.Begins (some c) cs := by
  simp only [List.mem_eraseDups, List.mem_flatMap]
  constructor
  · rintro ⟨p, hp, hbegins⟩
    rcases (begins_cons (h p hp)).mp hbegins with hempty | ⟨q, hq, hrest⟩
    · exact Or.inl ⟨p, hp, hempty⟩
    · exact Or.inr ⟨q, ⟨p, hp, hq⟩, hrest⟩
  · rintro (⟨p, hp, hempty⟩ | ⟨q, ⟨p, hp, hq⟩, hrest⟩)
    · exact ⟨p, hp, (begins_cons (h p hp)).mpr (Or.inl hempty)⟩
    · exact ⟨p, hp, (begins_cons (h p hp)).mpr (Or.inr ⟨q, hq, hrest⟩)⟩

/-- The search finds what matches some part of the text, and what is left of patterns that began
before it. -/
theorem search_iff {p : Pattern} (h : p.Proper) {states : List Pattern}
    (hstates : ∀ q ∈ states, q.Proper) :
    p.search before states cs = true ↔
      p.Occurs before cs ∨ ∃ q ∈ states, q.Begins before cs := by
  induction cs generalizing before states with
  | nil =>
    rw [search, any_matchesEmpty_iff (List.forall_mem_cons.mpr ⟨h, hstates⟩), occurs_nil]
    simp only [begins_nil, List.mem_cons, or_and_right, exists_or, exists_eq_left]
  | cons c cs ih =>
    have hall : ∀ q ∈ p :: states, q.Proper := List.forall_mem_cons.mpr ⟨h, hstates⟩
    -- the successors of all patterns at hand are those at hand behind the character
    have hnext : ∀ q ∈ ((p :: states).flatMap (·.afterChar before c)).eraseDups, q.Proper := by
      intro q hq
      obtain ⟨r, hr, hq⟩ := List.mem_flatMap.mp (List.mem_eraseDups.mp hq)
      exact (hall r hr).afterChar hq
    have hbegins : (∃ q ∈ p :: states, q.Begins before (c :: cs)) ↔
        p.Begins before (c :: cs) ∨ ∃ q ∈ states, q.Begins before (c :: cs) := by
      simp only [List.mem_cons, or_and_right, exists_or, exists_eq_left]
    rw [search, Bool.or_eq_true, any_matchesEmpty_iff hall, ih hnext, or_left_comm,
      ← exists_begins_cons hall, hbegins, occurs_cons, or_left_comm, or_assoc]

end Search

/-- A text is found to match a pattern exactly if a part of it matches. -/
theorem isMatch_iff {p : Pattern} (h : p.Proper) {text : String} :
    p.isMatch text = true ↔
      ∃ left middle right, text.toList = left ++ (middle ++ right)
        ∧ p.Matches left.getLast? middle right.head? := by
  rw [isMatch, search_iff h (by simp)]
  simp only [List.not_mem_nil, false_and, exists_false, or_false, Occurs, Begins, Option.or_none]
  constructor
  · rintro ⟨left, _, hsplit, middle, right, rfl, hmatch⟩
    exact ⟨left, middle, right, hsplit, hmatch⟩
  · rintro ⟨left, middle, right, hsplit, hmatch⟩
    exact ⟨left, middle ++ right, hsplit, middle, right, rfl, hmatch⟩

end Pattern
end FormLogic
