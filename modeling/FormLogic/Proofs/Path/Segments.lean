/-
  FormLogic.Proofs.Path.Segments

  Dotted paths against the lists of segments that they are cut into.

  A path is built by joining one segment after the other and read back by
  cutting at the dots.  The two are inverse as long as every segment is a
  segment in the narrow sense (`isSegment`): not empty and without a dot.
  Names of fields are taken to be such, and the positions of entries are
  (`isSegment_toString`).

    * `segments_ofSegments`, `ofSegments_segments` — joining and cutting are
      inverse to each other.
    * `above_ofSegments_iff` — a path stands above those that it begins.
    * `number?_toString` — a written position is read back.
-/

import FormLogic.Path

namespace FormLogic

/-! ## Pieces of a text -/

namespace Text

/-- Cutting is the cutting of the standard library. -/
theorem splitOn_eq (sep : Char) (cs : List Char) : splitOn sep cs = cs.splitOn sep := by
  induction cs with
  | nil => simp [splitOn]
  | cons c cs ih =>
    rw [List.splitOn_cons_eq_if_modifyHead, splitOn, ih]
    have hne : cs.splitOn sep ≠ [] := List.splitOn_ne_nil sep cs
    -- a separator opens a piece, any other character goes in front of the first piece
    by_cases hc : c = sep
    · rw [if_pos hc, if_pos (beq_iff_eq.mpr hc)]
    · rw [if_neg hc, if_neg (by simpa using hc)]
      cases h : cs.splitOn sep with
      | nil => exact absurd h hne
      | cons piece pieces => rfl

/-- No piece has a separator in it. -/
theorem notMem_of_mem_splitOn {sep : Char} {cs piece : List Char} (h : piece ∈ splitOn sep cs) :
    sep ∉ piece := by
  induction cs generalizing piece with
  | nil =>
    rw [splitOn, List.mem_singleton] at h
    exact h ▸ List.not_mem_nil
  | cons c cs ih =>
    rw [splitOn] at h
    split at h
    · rcases List.mem_cons.mp h with rfl | h
      · exact List.not_mem_nil
      · exact ih h
    · next hc =>
      -- the character goes in front of the first piece and is no separator
      cases hpieces : splitOn sep cs with
      | nil => exact absurd hpieces (splitOn_ne_nil sep cs)
      | cons first pieces =>
        rw [hpieces] at h ih
        rcases List.mem_cons.mp h with rfl | h
        · have hfirst : sep ∉ first := ih List.mem_cons_self
          exact List.not_mem_cons_of_ne_of_not_mem (Ne.symm hc) hfirst
        · exact ih (List.mem_cons_of_mem _ h)

/-- A text without separators is one piece. -/
theorem pieces_of_notMem {sep : Char} {text : String} (h : sep ∉ text.toList) :
    pieces sep text = [text] := by
  rw [pieces, splitOn_eq, List.splitOn_eq_singleton h]
  simp

/-- A separator between two texts keeps their pieces apart. -/
theorem pieces_append_sep (sep : Char) (a b : String) :
    pieces sep (a ++ String.singleton sep ++ b) = pieces sep a ++ pieces sep b := by
  simp only [pieces, splitOn_eq, String.toList_append, String.toList_singleton,
    List.append_assoc, List.singleton_append]
  rw [List.splitOn_append_cons_self, List.map_append]

/-- There is at least one piece. -/
theorem pieces_ne_nil (sep : Char) (text : String) : pieces sep text ≠ [] := by
  simp [pieces, splitOn_ne_nil]

/-- The pieces determine the text. -/
theorem eq_of_pieces_eq {sep : Char} {a b : String} (h : pieces sep a = pieces sep b) :
    a = b := by
  have hlists : splitOn sep a.toList = splitOn sep b.toList := by
    have hmap := congrArg (List.map String.toList) h
    simpa [pieces, Function.comp_def] using hmap
  apply String.toList_inj.mp
  rw [← intercalate_splitOn sep a.toList, hlists, intercalate_splitOn]

end Text

namespace Path

/-! ## Segments -/

/-- Whether a name is one segment of its own: it is not empty and has no dot. -/
def isSegment (name : String) : Bool := name ≠ "" && !name.toList.contains '.'

theorem isSegment_iff {name : String} :
    isSegment name = true ↔ name ≠ "" ∧ '.' ∉ name.toList := by
  simp [isSegment]

theorem segments_ne_nil (path : String) : segments path ≠ [] := Text.pieces_ne_nil '.' path

/-- The segments determine the path. -/
theorem eq_of_segments_eq {a b : String} (h : segments a = segments b) : a = b :=
  Text.eq_of_pieces_eq h

/-- No segment has a dot. -/
theorem notMem_of_mem_segments {path s : String} (h : s ∈ segments path) : '.' ∉ s.toList := by
  obtain ⟨piece, hpiece, rfl⟩ := List.mem_map.mp h
  rw [String.toList_ofList]
  exact Text.notMem_of_mem_splitOn hpiece

theorem segments_append_dot (a b : String) :
    segments (a ++ "." ++ b) = segments a ++ segments b :=
  Text.pieces_append_sep '.' a b

theorem segments_of_isSegment {name : String} (h : isSegment name = true) :
    segments name = [name] :=
  Text.pieces_of_notMem (isSegment_iff.mp h).2

theorem join_of_ne_empty {parent : String} (h : parent ≠ "") (child : String) :
    join parent child = parent ++ "." ++ child :=
  if_neg h

theorem append_dot_ne_empty (a b : String) : a ++ "." ++ b ≠ "" := by
  intro h
  have hlist := congrArg String.toList h
  simp at hlist

/-- What is joined to a path is a path again. -/
theorem join_ne_empty {parent : String} (h : parent ≠ "") (child : String) :
    join parent child ≠ "" := by
  rw [join_of_ne_empty h]
  exact append_dot_ne_empty parent child

/-! ## Joined segments -/

/-- The path of segments, joined one after the other. -/
def ofSegments (segs : List String) : String := segs.foldl join ""

theorem foldl_join_ne_empty {parent : String} (hp : parent ≠ "") (segs : List String) :
    segs.foldl join parent ≠ "" := by
  induction segs generalizing parent with
  | nil => exact hp
  | cons s rest ih => exact ih (join_ne_empty hp s)

theorem ofSegments_ne_empty {segs : List String} (hne : segs ≠ [])
    (h : ∀ s ∈ segs, isSegment s = true) : ofSegments segs ≠ "" := by
  obtain ⟨s, rest, rfl⟩ := List.exists_cons_of_ne_nil hne
  exact foldl_join_ne_empty (isSegment_iff.mp (h s List.mem_cons_self)).1 rest

theorem ofSegments_cons (s : String) (rest : List String) :
    ofSegments (s :: rest) = rest.foldl join s :=
  rfl

theorem ofSegments_concat (segs : List String) (s : String) :
    ofSegments (segs ++ [s]) = join (ofSegments segs) s := by
  rw [ofSegments, List.foldl_append]
  rfl

/-- One more segment stands behind a dot. -/
theorem ofSegments_concat_of_ne_nil {segs : List String} (hne : segs ≠ [])
    (h : ∀ s ∈ segs, isSegment s = true) (s : String) :
    ofSegments (segs ++ [s]) = ofSegments segs ++ "." ++ s := by
  rw [ofSegments_concat, join_of_ne_empty (ofSegments_ne_empty hne h)]

/-- Joining segments to a path appends them to its segments. -/
theorem segments_foldl_join {parent : String} (hp : parent ≠ "") {segs : List String}
    (h : ∀ s ∈ segs, isSegment s = true) :
    segments (segs.foldl join parent) = segments parent ++ segs := by
  induction segs generalizing parent with
  | nil => simp
  | cons s rest ih =>
    -- the parent grows with every segment and so is never empty again
    have hs : isSegment s = true := h s List.mem_cons_self
    rw [List.foldl_cons, ih (join_ne_empty hp s) fun t ht => h t (List.mem_cons_of_mem _ ht),
      join_of_ne_empty hp, segments_append_dot, segments_of_isSegment hs, List.append_assoc]
    rfl

/-- Joined segments are cut apart again. -/
theorem segments_ofSegments {segs : List String} (hne : segs ≠ [])
    (h : ∀ s ∈ segs, isSegment s = true) : segments (ofSegments segs) = segs := by
  cases segs with
  | nil => exact absurd rfl hne
  | cons s rest =>
    have hs : isSegment s = true := h s List.mem_cons_self
    rw [ofSegments_cons, segments_foldl_join (isSegment_iff.mp hs).1
      fun t ht => h t (List.mem_cons_of_mem _ ht), segments_of_isSegment hs]
    rfl

/-- A path of proper segments is the path of its segments. -/
theorem ofSegments_segments {path : String} (h : ∀ s ∈ segments path, isSegment s = true) :
    ofSegments (segments path) = path :=
  eq_of_segments_eq (segments_ofSegments (segments_ne_nil path) h)

/-- What is joined to one path is determined by the path that comes out. -/
theorem eq_of_foldl_join_eq {parent : String} {xs ys : List String} (hx : xs ≠ []) (hy : ys ≠ [])
    (hxs : ∀ s ∈ xs, isSegment s = true) (hys : ∀ s ∈ ys, isSegment s = true)
    (h : xs.foldl join parent = ys.foldl join parent) : xs = ys := by
  have hsegments := congrArg segments h
  by_cases hp : parent = ""
  · subst hp
    exact (segments_ofSegments hx hxs).symm.trans (hsegments.trans (segments_ofSegments hy hys))
  · rw [segments_foldl_join hp hxs, segments_foldl_join hp hys] at hsegments
    exact List.append_cancel_left hsegments

/-! ## Paths above others -/

/-- One path stands above another: the other one continues it behind a dot. -/
def Above (upper lower : String) : Prop := ∃ rest, lower = upper ++ "." ++ rest

theorem Above.trans {a b c : String} (hab : Above a b) (hbc : Above b c) : Above a c := by
  obtain ⟨r, rfl⟩ := hab
  obtain ⟨s, rfl⟩ := hbc
  exact ⟨r ++ "." ++ s, by simp [String.append_assoc]⟩

/-- A path stands above what segments are joined to it. -/
theorem above_foldl_join {parent : String} (hp : parent ≠ "") {segs : List String}
    (hne : segs ≠ []) : Above parent (segs.foldl join parent) := by
  induction segs generalizing parent with
  | nil => exact absurd rfl hne
  | cons s rest ih =>
    have hjoin : Above parent (join parent s) := ⟨s, join_of_ne_empty hp s⟩
    rw [List.foldl_cons]
    by_cases hrest : rest = []
    · subst hrest
      exact hjoin
    · exact hjoin.trans (ih (join_ne_empty hp s) hrest)

/-- Of two paths of proper segments the one stands above the other if it is a beginning of it. -/
theorem above_ofSegments_iff {upper lower : List String} (hne : upper ≠ [])
    (hu : ∀ s ∈ upper, isSegment s = true) (hl : ∀ s ∈ lower, isSegment s = true) :
    Above (ofSegments upper) (ofSegments lower) ↔
      ∃ rest, rest ≠ [] ∧ lower = upper ++ rest := by
  constructor
  · rintro ⟨r, hr⟩
    have hsegments := congrArg segments hr
    rw [segments_append_dot, segments_ofSegments hne hu] at hsegments
    -- what stands behind the dot is cut into the segments that are left
    refine ⟨segments r, segments_ne_nil r, ?_⟩
    rw [← hsegments, segments_ofSegments ?_ hl]
    rintro rfl
    exact append_dot_ne_empty _ r hr.symm
  · rintro ⟨rest, hrest, rfl⟩
    cases upper with
    | nil => exact absurd rfl hne
    | cons s upper =>
      have hs : s ≠ "" := (isSegment_iff.mp (hu s List.mem_cons_self)).1
      rw [List.cons_append, ofSegments_cons, ofSegments_cons, List.foldl_append]
      exact above_foldl_join (foldl_join_ne_empty hs upper) hrest

/-! ## Positions -/

/-- Reading digits is the reading of the standard library. -/
theorem digitsValue_eq (acc : Nat) (cs : List Char) :
    Extended.digitsValue acc cs = Nat.ofDigitChars 10 cs acc := by
  induction cs generalizing acc with
  | nil => rw [Extended.digitsValue_nil, Nat.ofDigitChars_nil]
  | cons c cs ih => rw [Extended.digitsValue_cons, ih, Nat.ofDigitChars_cons, Nat.mul_comm]

/-- A digit is neither a dot nor a sign. -/
theorem notMem_toDigits {c : Char} (h : c.isDigit = false) (n : Nat) :
    c ∉ Nat.toDigits 10 n := by
  intro hc
  have hd := Nat.isDigit_of_mem_toDigits (by decide) (by decide) hc
  rw [h] at hd
  exact absurd hd (by decide)

/-- The text of a position is a segment. -/
theorem isSegment_toString (n : Nat) : isSegment (toString n) = true := by
  rw [isSegment_iff]
  refine ⟨by simp, ?_⟩
  simpa using notMem_toDigits (by decide) n

/-- The text of a position spells the position. -/
theorem number?_toString (n : Nat) : number? (toString n) = some n := by
  have hlist : (toString n).toList = Nat.toDigits 10 n := by simp
  have hne : Nat.toDigits 10 n ≠ [] := Nat.toDigits_ne_nil
  have hall : (Nat.toDigits 10 n).all Char.isDigit = true := by
    rw [List.all_eq_true]
    exact fun c hc => Nat.isDigit_of_mem_toDigits (by decide) (by decide) hc
  -- without a sign all of the text is read as digits
  have hplus : '+' ∉ Nat.toDigits 10 n := notMem_toDigits (by decide) n
  simp only [number?, hlist]
  split
  · next cs hcs => exact absurd (hcs ▸ List.mem_cons_self) hplus
  · rw [if_pos ⟨hne, hall⟩, digitsValue_eq, Nat.ofDigitChars_ten_toDigits]

/-- The text of a position determines the position. -/
theorem eq_of_toString_eq {m n : Nat} (h : toString m = toString n) : m = n := by
  have hnumber := congrArg number? h
  rw [number?_toString, number?_toString] at hnumber
  exact Option.some.inj hnumber

/-- Whether a segment, if it spells a number, spells it without a sign and without leading
zeros. -/
def isPlain (segment : String) : Bool := (number? segment).all fun n => segment = toString n

theorem eq_toString_of_isPlain {segment : String} (h : isPlain segment = true) {n : Nat}
    (hn : number? segment = some n) : segment = toString n := by
  simpa [isPlain, hn] using h

/-- A written position names the entry there. -/
theorem itemAt?_toString (items : List Json) (n : Nat) :
    itemAt? items (toString n) = items[n]? := by
  rw [itemAt?, number?_toString]
  rfl

end Path
end FormLogic
