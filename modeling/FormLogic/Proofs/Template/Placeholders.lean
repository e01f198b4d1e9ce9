/-
  FormLogic.Proofs.Template.Placeholders

  Templates of texts and placeholders.

  A template is read in three passes: into tokens, over these for the white
  space that tags take away, and into elements.  Of a template that is made
  of texts without braces and backslashes and of words between double braces
  (`Part.IsPlain`), the last two keep everything, and the first makes a token
  of every part, but one of texts that stand next to each other, and none of
  an empty one.  The induction over the parts therefore carries the text that
  has been read and is not yet closed off by a tag or the end (`Part.merge`).

    * `tagBody_word` — a word between braces shows the value of that name.
    * `tokens?_parts`, `layoutFrom_parts`, `build_parts` — the three passes.
    * `renderOver?_parts` — what is shown over an object.
-/

import Mathlib.Data.List.Basic
import FormLogic.Template.Render

namespace FormLogic
namespace Template

/-! ## A word between braces -/

/-- A name that shows a value when it stands alone between braces: a word that no tag of another
kind begins with, that names a value below the one at hand, and that is no helper. -/
structure IsWord (name : String) : Prop where
  ne_nil : name.toList ≠ []
  symbols : ∀ c ∈ name.toList, isSymbol c = true
  not_else : ¬ "else".toList <+: name.toList
  ne_this : name ≠ "this"
  not_helper : isHelper name = false

/-- The path of one name. -/
def pathOf (name : String) : ValuePath := { names := [name] }

/-- What is left behind a fixed word is what it was put in front of. -/
theorem after?_eq_some_iff {w s rest : List Char} : after? w s = some rest ↔ s = w ++ rest := by
  induction w generalizing s with
  | nil => simp [after?]
  | cons c w ih =>
    cases s with
    | nil => simp [after?]
    | cons d s =>
      by_cases h : d = c
      · simp [after?, h, ih]
      · simp [after?, h]

/-- A text without the character that ends another one is at the front of both or of none. -/
theorem eq_append_of_append_cons {w r xs rest : List Char} {e : Char} (he : e ∉ w)
    (h : xs ++ e :: rest = w ++ r) : ∃ ts, xs = w ++ ts ∧ r = ts ++ e :: rest := by
  rcases List.append_eq_append_iff.mp h with ⟨ts, hw, hrest⟩ | ⟨ts, hxs, hr⟩
  · cases ts with
    | nil => exact ⟨[], by simpa using hw.symm, hrest.symm⟩
    | cons t ts =>
      obtain ⟨rfl, -⟩ := List.cons.inj hrest
      exact absurd (hw ▸ List.mem_append_right xs List.mem_cons_self) he
  · exact ⟨ts, hxs, hr⟩

section Word

variable {name : String}

/-- A word begins with a character that is no sign of a tag. -/
theorem IsWord.exists_cons (h : IsWord name) :
    ∃ d ds, name.toList = d :: ds ∧ ∀ e, isSymbol e = false → d ≠ e := by
  obtain ⟨d, ds, hname⟩ := List.exists_cons_of_ne_nil h.ne_nil
  refine ⟨d, ds, hname, ?_⟩
  rintro e he rfl
  rw [h.symbols d (hname ▸ List.mem_cons_self)] at he
  cases he

theorem skipSpace_word (h : IsWord name) (rest : List Char) :
    skipSpace (name.toList ++ rest) = name.toList ++ rest := by
  obtain ⟨d, ds, hname, hd⟩ := h.exists_cons
  have hspace : isSpace d = false := by
    simp [isSpace, hd ' ' (by decide), hd '\t' (by decide), hd '\n' (by decide),
      hd '\r' (by decide)]
  simp [skipSpace, hname, hspace]

theorem dropMark_word (h : IsWord name) (rest : List Char) :
    dropMark (name.toList ++ rest) = (false, name.toList ++ rest) := by
  rw [dropMark, skipSpace_word h]
  obtain ⟨d, ds, hname, hd⟩ := h.exists_cons
  simp [hname, hd '~' (by decide)]

theorem identifier_word (h : IsWord name) (rest : List Char) :
    identifier (name.toList ++ '\x7d' :: rest) = some (name, '\x7d' :: rest) := by
  have htake : (name.toList ++ '\x7d' :: rest).takeWhile isSymbol = name.toList := by
    rw [List.takeWhile_append_of_pos h.symbols, List.takeWhile_cons_of_neg (by decide),
      List.append_nil]
  have hdrop : (name.toList ++ '\x7d' :: rest).dropWhile isSymbol = '\x7d' :: rest := by
    rw [List.dropWhile_append_of_pos h.symbols, List.dropWhile_cons_of_neg (by decide)]
  rw [identifier, htake, hdrop]
  obtain ⟨d, ds, hname, -⟩ := h.exists_cons
  simp only [hname]
  rw [← hname, String.ofList_toList]

/-- There are no arguments at the end of a tag. -/
theorem arguments_brace (n : Nat) (rest : List Char) :
    arguments n ('\x7d' :: rest) = ([], [], '\x7d' :: rest) := by
  cases n with
  | zero => rfl
  | succ n => cases n <;> rfl

theorem tagEnd_braces (rest : List Char) :
    tagEnd ('\x7d' :: '\x7d' :: rest) = some (false, rest) := rfl

/-- A word is followed by no separator of paths. -/
theorem skipPathWord_word (h : IsWord name) (w : String) (hw : '\x7d' ∉ w.toList)
    (rest : List Char) :
    skipPathWord w (name.toList ++ '\x7d' :: rest) = (false, name.toList ++ '\x7d' :: rest) := by
  rw [skipPathWord]
  split
  · next c r hafter =>
    obtain ⟨ts, hname, hr⟩ := eq_append_of_append_cons hw (after?_eq_some_iff.mp hafter)
    have hsep : isPathSep c = false := by
      cases ts with
      | nil =>
        obtain ⟨rfl, -⟩ := List.cons.inj hr
        rfl
      | cons t ts =>
        obtain ⟨rfl, -⟩ := List.cons.inj hr
        have hsymbol : isSymbol c = true := h.symbols c (by simp [hname])
        by_contra hsep
        rw [Bool.not_eq_false, isPathSep, Bool.or_eq_true, decide_eq_true_eq,
          decide_eq_true_eq] at hsep
        rcases hsep with rfl | rfl <;> cases hsymbol
    simp [hsep]
  · rfl

theorem pathItem_word (h : IsWord name) (rest : List Char) :
    pathItem (name.toList ++ '\x7d' :: rest) = some (name, '\x7d' :: rest) := by
  have hword := identifier_word h rest
  obtain ⟨d, ds, hname, hd⟩ := h.exists_cons
  simp only [hname, List.cons_append] at hword ⊢
  simpa [pathItem, hd '[' (by decide)] using hword

theorem valuePath_word (h : IsWord name) (rest : List Char) :
    valuePath (name.toList ++ '\x7d' :: rest) = some (pathOf name, '\x7d' :: rest) := by
  have hroot := skipPathWord_word h "@root" (by decide) rest
  have hself := skipPathWord_word h "this" (by decide) rest
  have hitem := pathItem_word h rest
  obtain ⟨d, ds, hname, hd⟩ := h.exists_cons
  have hups : ∀ n, pathUps n (d :: (ds ++ '\x7d' :: rest)) = (0, d :: (ds ++ '\x7d' :: rest)) := by
    intro n
    cases n <;> simp [pathUps, hd '.' (by decide)]
  have hrest : ∀ n, pathRest n ('\x7d' :: rest) = ([], '\x7d' :: rest) := by
    intro n
    cases n <;> simp [pathRest, isPathSep]
  simp only [hname, List.cons_append] at hroot hself hitem ⊢
  simp [valuePath, hd '.' (by decide), hd '@' (by decide), hroot, hself, hitem, hups, hrest,
    h.ne_this, pathOf]

theorem loneName_word (h : IsWord name) (rest : List Char) :
    loneName (name.toList ++ '\x7d' :: rest)
      = some (.value name (.path (pathOf name)), '\x7d' :: rest) := by
  have hpath := valuePath_word h rest
  have htake : String.ofList ((name.toList ++ '\x7d' :: rest).take
      ((name.toList ++ '\x7d' :: rest).length - ('\x7d' :: rest).length)) = name := by
    rw [List.length_append, Nat.add_sub_cancel, List.take_left, String.ofList_toList]
  have hnamed : namedPath (name.toList ++ '\x7d' :: rest)
      = some ((name, pathOf name), '\x7d' :: rest) := by
    simp only [namedPath, hpath, Option.map_some, htake]
  have hskip := skipSpace_word h ('\x7d' :: rest)
  obtain ⟨d, ds, hname, hd⟩ := h.exists_cons
  simp only [hname, List.cons_append] at hnamed hskip ⊢
  simp [loneName, hskip, hd '(' (by decide), hnamed]

theorem shownWith_word (h : IsWord name) (rest : List Char) :
    shownWith tagEnd (name.toList ++ '\x7d' :: '\x7d' :: rest)
      = some (.value name (.path (pathOf name)), false, rest) := by
  simp [shownWith, skipSpace_word h, identifier_word h, arguments_brace, loneName_word h,
    tagEnd_braces]

/-- A word that does not begin like a divider divides nothing. -/
theorem dividerTag_word (h : IsWord name) (rest : List Char) :
    dividerTag (name.toList ++ '\x7d' :: rest) = none := by
  have helse : word? "else" (name.toList ++ '\x7d' :: rest) = none := by
    rw [word?, skipSpace_word h, Option.eq_none_iff_forall_ne_some]
    intro r hr
    obtain ⟨ts, hname, -⟩ := eq_append_of_append_cons (by decide) (after?_eq_some_iff.mp hr)
    exact h.not_else ⟨ts, hname.symm⟩
  have hcaret : word? "^" (name.toList ++ '\x7d' :: rest) = none := by
    rw [word?, skipSpace_word h, Option.eq_none_iff_forall_ne_some]
    intro r hr
    obtain ⟨d, ds, hname, hd⟩ := h.exists_cons
    have hsplit : name.toList ++ '\x7d' :: rest = '^' :: r := after?_eq_some_iff.mp hr
    rw [hname] at hsplit
    exact hd '^' (by decide) (List.cons.inj hsplit).1
  simp [dividerTag, dropMark_word h, helse, hcaret]

/-- A word between braces shows the value of that name. -/
theorem tagBody_word (h : IsWord name) (rest : List Char) :
    tagBody (name.toList ++ '\x7d' :: '\x7d' :: rest)
      = some ((false, false, .value name (.path (pathOf name))), rest) := by
  simp [tagBody, dividerTag_word h, dropMark_word h, shownWith_word h, finishTag]

end Word

/-! ## Parts -/

/-- A part of a plain template: a text, or a name whose value is shown. -/
inductive Part where
  | text (s : String)
  | value (name : String)

namespace Part

/-- How a part is written. -/
def source : Part → String
  | text s => s
  | value name => "\x7b\x7b" ++ name ++ "\x7d\x7d"

/-- Texts without the characters that have a meaning in templates, and words. -/
def IsPlain : Part → Prop
  | text s => ∀ c ∈ s.toList, c ≠ '\x7b' ∧ c ≠ '\x7d' ∧ c ≠ '\\'
  | value name => IsWord name

/-- What is shown of a part, given the texts of values. -/
def shown (look : String → String) : Part → String
  | text s => s
  | value name => look name

/-- The token of a part. -/
def token : Part → Token
  | text s => .text s.toList
  | value name => .tag false false (.value name (.path (pathOf name)))

/-- The element of a part. -/
def element : Part → Element
  | text s => .text s.toList
  | value name => .value name (.path (pathOf name))

/-- The text at hand, if it is not empty, as a part. -/
def held (s : String) : List Part := if s = "" then [] else [text s]

/-- The parts behind a text at hand, with texts in succession joined into one and empty ones left
out. -/
def merge (s : String) : List Part → List Part
  | [] => held s
  | text t :: ps => merge (s ++ t) ps
  | value name :: ps => held s ++ value name :: merge "" ps

end Part

/-- How parts are written one after the other. -/
def sourceOf (parts : List Part) : String := String.join (parts.map Part.source)

/-- What is shown of parts, given the texts of values. -/
def shownOf (look : String → String) (parts : List Part) : String :=
  String.join (parts.map (Part.shown look))

/-! ## Reading -/

/-- A text without braces and backslashes is read to its end, or up to a tag. -/
theorem textRun_plain {cs rest : List Char} {n : Nat}
    (hcs : ∀ c ∈ cs, c ≠ '\x7b' ∧ c ≠ '\x7d' ∧ c ≠ '\\')
    (hrest : rest = [] ∨ ∃ r, rest = openPair ++ r) (hn : cs.length ≤ n) :
    textRun openPair n (cs ++ rest) = (cs, rest) := by
  induction cs generalizing n with
  | nil =>
    cases n with
    | zero => rfl
    | succ n => rcases hrest with rfl | ⟨r, rfl⟩ <;> rfl
  | cons c cs ih =>
    obtain ⟨⟨hopen, -, hslash⟩, hcs⟩ := List.forall_mem_cons.mp hcs
    cases n with
    | zero => cases hn
    | succ n =>
      have hstop : openPair.isPrefixOf (c :: (cs ++ rest)) = false := by
        simp [openPair, List.isPrefixOf, hopen.symm]
      rw [List.cons_append, textRun]
      · simp [hstop, ih hcs (Nat.le_of_succ_le_succ hn)]
      · exact hslash

/-- A text at hand becomes a token. -/
theorem tokensFrom_text {s : String} {rest : List Char} {n : Nat} (hs : s ≠ "")
    (hplain : (Part.text s).IsPlain) (hrest : rest = [] ∨ ∃ r, rest = openPair ++ r) :
    tokensFrom (n + 1) (s.toList ++ rest) = (tokensFrom n rest).map (.text s.toList :: ·) := by
  have hrun : textRun openPair (s.toList ++ rest).length (s.toList ++ rest) = (s.toList, rest) :=
    textRun_plain hplain hrest (by simp)
  obtain ⟨d, ds, hd⟩ := List.exists_cons_of_ne_nil (l := s.toList) (by simpa using hs)
  have hopen : after? openPair (s.toList ++ rest) = none := by
    have hne : d ≠ '\x7b' := (hplain d (by simp [hd])).1
    simp [hd, openPair, after?, hne]
  rw [tokensFrom]
  · simp only [hopen, hrun]
  · simp [hd]

/-- A text at hand, if there is one, is closed off where a tag begins or the template ends. -/
theorem tokensFrom_held {s : String} {rest : List Char} {ts : List Token} {n : Nat}
    (hplain : (Part.text s).IsPlain) (hrest : rest = [] ∨ ∃ r, rest = openPair ++ r)
    (hn : (s.toList ++ rest).length ≤ n)
    (h : ∀ m, rest.length ≤ m → tokensFrom m rest = some ts) :
    tokensFrom n (s.toList ++ rest) = some ((Part.held s).map Part.token ++ ts) := by
  rw [List.length_append] at hn
  by_cases hs : s = ""
  · subst hs
    exact h n (by simpa using hn)
  · have hpos : 0 < s.toList.length := List.length_pos_iff.mpr (by simpa using hs)
    obtain ⟨m, rfl⟩ : ∃ m, n = m + 1 := ⟨n - 1, by omega⟩
    rw [tokensFrom_text hs hplain hrest, h m (by omega), Part.held, if_neg hs]
    rfl

/-- A word between braces becomes a token. -/
theorem tokensFrom_value {name : String} {rest : List Char} {n : Nat} (h : IsWord name) :
    tokensFrom (n + 1) ((Part.value name).source.toList ++ rest)
      = (tokensFrom n rest).map (Part.token (.value name) :: ·) := by
  have hsource : (Part.value name).source.toList ++ rest
      = '\x7b' :: '\x7b' :: (name.toList ++ '\x7d' :: '\x7d' :: rest) := by
    simp [Part.source]
  have hopen : after? openPair ('\x7b' :: '\x7b' :: (name.toList ++ '\x7d' :: '\x7d' :: rest))
      = some (name.toList ++ '\x7d' :: '\x7d' :: rest) := rfl
  rw [hsource, tokensFrom]
  · simp only [hopen, tagBody_word h]
    rfl
  · nofun

theorem sourceOf_cons (p : Part) (ps : List Part) :
    sourceOf (p :: ps) = p.source ++ sourceOf ps := by
  rw [sourceOf, List.map_cons, String.join_cons, sourceOf]

/-- The text of parts is read as these parts, behind a text at hand that was not closed off. -/
theorem tokensFrom_parts {parts : List Part} {s : String} {n : Nat}
    (hparts : ∀ p ∈ parts, p.IsPlain) (hs : (Part.text s).IsPlain)
    (hn : (s.toList ++ (sourceOf parts).toList).length ≤ n) :
    tokensFrom n (s.toList ++ (sourceOf parts).toList)
      = some ((Part.merge s parts).map Part.token) := by
  induction parts generalizing s n with
  | nil =>
    have hend : ∀ m, ([] : List Char).length ≤ m → tokensFrom m [] = some [] :=
      fun m _ => by cases m <;> rfl
    rw [Part.merge, ← List.append_nil (List.map _ _)]
    exact tokensFrom_held hs (Or.inl rfl) hn hend
  | cons p ps ih =>
    obtain ⟨hp, hps⟩ := List.forall_mem_cons.mp hparts
    cases p with
    | text t =>
      have hjoined : s.toList ++ (sourceOf (.text t :: ps)).toList
          = (s ++ t).toList ++ (sourceOf ps).toList := by
        simp [sourceOf_cons, Part.source]
      rw [hjoined] at hn ⊢
      refine ih hps ?_ hn
      rw [Part.IsPlain, String.toList_append, List.forall_mem_append]
      exact ⟨hs, hp⟩
    | value name =>
      rw [sourceOf_cons, String.toList_append] at hn ⊢
      rw [Part.merge, List.map_append, List.map_cons]
      refine tokensFrom_held hs (Or.inr ⟨name.toList ++ ['\x7d', '\x7d'] ++ (sourceOf ps).toList, ?_⟩)
        hn fun m hm => ?_
      · simp [Part.source, openPair]
      · have hlength : (sourceOf ps).toList.length + 1 ≤ m := by
          simp [Part.source] at hm
          omega
        obtain ⟨k, rfl⟩ : ∃ k, m = k + 1 := ⟨m - 1, by omega⟩
        have hrest := ih (s := "") (n := k) hps (by simp [Part.IsPlain])
          (by simpa using Nat.le_of_succ_le_succ hlength)
        rw [tokensFrom_value hp]
        rw [String.toList_empty, List.nil_append] at hrest
        rw [hrest, Option.map_some]

/-- The text of plain parts is read as these parts. -/
theorem tokens?_parts {parts : List Part} (h : ∀ p ∈ parts, p.IsPlain) :
    tokens? (sourceOf parts).toList = some ((Part.merge "" parts).map Part.token) :=
  tokensFrom_parts (s := "") h (by simp [Part.IsPlain]) (Nat.le_refl _)

/-! ## White space and structure -/

/-- Texts and values leave white space as it is. -/
theorem layoutFrom_parts (before : Before) (ps : List Part) :
    layoutFrom before {} (ps.map Part.token) = ps.map Part.token := by
  induction ps generalizing before with
  | nil => rfl
  | cons p ps ih =>
    cases p with
    | text s =>
      have hback : ∀ here cs, trimBack here cs (ps.map Part.token) = cs := by
        intro here cs
        cases ps with
        | nil => rfl
        | cons q qs => cases q <;> rfl
      simp only [List.map_cons, Part.token, layoutFrom, hback, trimFront, Marks.afterText]
      simpa using ih _
    | value name =>
      simp only [List.map_cons, Part.token, layoutFrom, withIndent, Marks.afterTag, Tag.ownsLine]
      simpa using ih _

/-- Texts and values are the elements of a template themselves. -/
theorem build_parts (current : List Element) (ps : List Part) :
    build [] current (ps.map Part.token) = some (current.reverse ++ ps.map Part.element) := by
  induction ps generalizing current with
  | nil => simp [build]
  | cons p ps ih => cases p <;> simp [build, Part.token, Part.element, ih]

theorem elements?_parts {parts : List Part} (h : ∀ p ∈ parts, p.IsPlain) :
    elements? (sourceOf parts).toList = some ((Part.merge "" parts).map Part.element) := by
  rw [elements?, tokens?_parts h, Option.bind_some, layout, layoutFrom_parts, build_parts]
  rfl

/-! ## Rendering -/

/-- The text of the member of an object that a name refers to; a missing member has none. -/
def memberShown (members : Dict Json) (name : String) : String :=
  ((Dict.get? members name).map valueText).getD ""

/-- Joining texts that stand next to each other changes nothing about what is shown. -/
theorem shownOf_merge (look : String → String) (s : String) (parts : List Part) :
    shownOf look (Part.merge s parts) = s ++ shownOf look parts := by
  have hheld : ∀ s : String, String.join ((Part.held s).map (Part.shown look)) = s := by
    intro s
    by_cases hs : s = "" <;> simp [Part.held, hs, Part.shown]
  induction parts generalizing s with
  | nil => simp [Part.merge, shownOf, hheld]
  | cons p ps ih =>
    cases p with
    | text t =>
      rw [Part.merge, ih]
      simp [shownOf, Part.shown, String.append_assoc]
    | value name =>
      have hrest := ih ""
      simp only [shownOf] at hrest
      simp [Part.merge, shownOf, hheld, Part.shown, hrest]

/-- Nor does it change what names are shown. -/
theorem value_mem_merge {name s : String} {parts : List Part} :
    Part.value name ∈ Part.merge s parts ↔ Part.value name ∈ parts := by
  have hheld : ∀ s : String, Part.value name ∉ Part.held s := by
    intro s
    by_cases hs : s = "" <;> simp [Part.held, hs]
  induction parts generalizing s with
  | nil => simp [Part.merge, hheld]
  | cons p ps ih => cases p <;> simp [Part.merge, hheld, ih]

/-- A name refers to the member of the document of that name. -/
theorem lookup_pathOf (members : Dict Json) (name : String) :
    Scopes.lookup ⟨.object members, [⟨.object members, [], []⟩]⟩ (pathOf name)
      = some ((Dict.get? members name).getD .null) := by
  simp [Scopes.lookup, pathOf, Scopes.bound?, Scopes.out, descend]

/-- Texts are rendered as they are, and names as the members of the document. -/
theorem renderAll_parts (including : Including) (members : Dict Json)
    (bodies : List (List Element)) (kept : Kept) {ps : List Part}
    (h : ∀ name, Part.value name ∈ ps → isHelper name = false) :
    renderAll including ⟨.object members, [⟨.object members, [], []⟩]⟩ bodies kept
        (ps.map Part.element)
      = some ((shownOf (memberShown members) ps).toList, kept) := by
  induction ps with
  | nil => rfl
  | cons p ps ih =>
    have hrest := ih fun name hname => h name (List.mem_cons_of_mem p hname)
    cases p with
    | text s => simp [renderAll, render, Part.element, hrest, shownOf, Part.shown]
    | value name =>
      have hhelper : isHelper name = false := h name List.mem_cons_self
      have hshown : (valueText ((Dict.get? members name).getD .null))
          = memberShown members name := by
        rw [memberShown]
        cases Dict.get? members name <;> rfl
      simp [renderAll, render, Part.element, hrest, hhelper, eval, lookup_pathOf, shownOf,
        Part.shown, hshown]

/-! ## Main statement -/

/-- A template of plain parts renders, to its texts with the members of the document in the place
of their names. -/
theorem renderOver?_parts (members : Dict Json) {parts : List Part}
    (h : ∀ p ∈ parts, p.IsPlain) :
    renderOver? (.object members) (sourceOf parts)
      = some (shownOf (memberShown members) parts) := by
  have hhelper : ∀ name, Part.value name ∈ Part.merge "" parts → isHelper name = false :=
    fun name hname => (h _ (value_mem_merge.mp hname)).not_helper
  have hinclusions : renderWithin maxInclusions = renderAll (renderWithin 255) := rfl
  rw [renderOver?, elements?_parts h, hinclusions]
  simp [renderAll_parts _ _ _ _ hhelper, shownOf_merge]

end Template
end FormLogic
