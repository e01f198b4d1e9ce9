/-
  FormLogic.Url.Domain

  Names of hosts in plain characters.  Letters are brought to one form,
  labels are checked (marks, joiners, directions), and labels with other
  than plain characters are written in a plain encoding with a mark in
  front.
-/

import FormLogic.Url.Punycode
import FormLogic.Unicode.Composition
import FormLogic.Unicode.DomainMapping
import FormLogic.Unicode.Direction
import FormLogic.Unicode.CursiveJoining

namespace FormLogic
namespace Url
namespace Domain

/-! ## Characters -/

/-- The characters that cannot stand in a name, whatever they come from. -/
def isForbidden (c : Char) : Bool :=
  c.toNat ≤ 0x20 || c.toNat = 0x7f
    || ['%', '#', '/', ':', '<', '>', '?', '@', '[', '\\', ']', '^', '|'].contains c

/-- What a character becomes in a name. -/
def mapChar? (c : Char) : Option (List Char) :=
  if c.toNat < 0x80 then some [c.toLower]
  else
    match Unicode.domainStatus c.toNat with
    | .kept => some [c]
    | .replaced text => some (text.map Char.ofNat)
    | .ignored => some []
    | .barred => none

/-- What characters become in a name, before they are put in canonical form. -/
def mapChars? : List Char → Option (List Char)
  | [] => some []
  | c :: cs =>
    match mapChar? c, mapChars? cs with
    | some m, some rest => some (m ++ rest)
    | _, _ => none

/-- Whether a character stays as it is in a name. -/
def isKept (c : Char) : Bool := mapChar? c = some [c]

/-! ## Joiners -/

/-- Whether a combining class is that of signs that mute a vowel. -/
def isMuting (n : Nat) : Bool := Unicode.markOrder n = 9

/-- The first character that joining does not pass over. -/
def firstJoining (ns : List Nat) : Option Nat :=
  (ns.dropWhile (CharSet.hasCode Unicode.passedOver)).head?

/-- Whether a sign that parts letters stands between letters that would be joined. -/
def partsLetters (before after : List Nat) : Bool :=
  (firstJoining before).any (fun n =>
      CharSet.hasCode Unicode.joinedAfter n || CharSet.hasCode Unicode.joinedOnBothSides n)
    && (firstJoining after).any (fun n =>
      CharSet.hasCode Unicode.joinedBefore n || CharSet.hasCode Unicode.joinedOnBothSides n)

/-- Whether the invisible signs of a label stand where they make a difference; the characters
before the place at hand are given last first. -/
def joinersAllowed (before : List Nat) : List Nat → Bool
  | [] => true
  | n :: rest =>
    (if n = 0x200c then before.head?.any isMuting || partsLetters before rest
      else if n = 0x200d then before.head?.any isMuting
      else true)
      && joinersAllowed (n :: before) rest

/-! ## Directions -/

open Unicode (Direction)

/-- Whether a character calls for the rules about directions. -/
def callsForOrder (d : Direction) : Bool := d = .right || d = .arabicDigit

/-- The last direction but for marks. -/
def lastDirection (ds : List Direction) : Option Direction :=
  (ds.reverse.dropWhile fun d => d = .mark).head?

/-- Whether the directions of a label go together. -/
def directionsAgree (ds : List Direction) : Bool :=
  match ds.head? with
  | none => true
  | some .right =>
    ds.all (fun d => d ≠ .left)
      && (lastDirection ds).any (fun d => d = .right || d = .europeanDigit || d = .arabicDigit)
      && !(ds.contains .europeanDigit && ds.contains .arabicDigit)
  | some .left =>
    ds.all (fun d => d ≠ .right && d ≠ .arabicDigit)
      && (lastDirection ds).any (fun d => d = .left || d = .europeanDigit)
  | some _ => false

/-! ## Labels -/

/-- The mark in front of encoded labels. -/
def encodedMark : List Char := ['x', 'n', '-', '-']

/-- Whether a label is made of plain characters. -/
def isPlain (label : List Char) : Bool := label.all fun c => c.toNat < 0x80

/-- Whether a label that is not plain can be part of a name. -/
def isValidLabel (label : List Char) : Bool :=
  !encodedMark.isPrefixOf label
    && label.all isKept
    && !label.head?.any (fun c =>
      (Unicode.ofCategories [Unicode.nonspacingMark, Unicode.spacingMark,
        Unicode.enclosingMark]).has c)
    && joinersAllowed [] (label.map Char.toNat)

/-- The label that an encoded or plain label stands for, if it is a valid one. -/
def readLabel? (label : List Char) : Option (List Char) :=
  if encodedMark.isPrefixOf label then
    match Punycode.decode? (label.drop encodedMark.length) with
    | some decoded =>
      if !isPlain decoded && Unicode.composed decoded = decoded && isValidLabel decoded then
        some decoded
      else none
    | none => none
  else if isPlain label then some label
  else if isValidLabel label then some label
  else none

/-- A label in plain characters. -/
def writeLabel (label : List Char) : List Char :=
  if isPlain label then label else encodedMark ++ Punycode.encode label

/-! ## Names -/

/-- The name of a host in plain characters, if it is a possible one. -/
def toPlain? (name : List Char) : Option (List Char) :=
  match mapChars? name with
  | none => none
  | some mapped =>
    let mapped := if isPlain mapped then mapped else Unicode.composed mapped
    match (Text.splitOn '.' mapped).mapM readLabel? with
    | none => none
    | some labels =>
      if labels.any fun l => l.any isForbidden then none
      else
        let directions := labels.map fun l => l.map fun c => Unicode.direction c.toNat
        if directions.any (fun ds => ds.any callsForOrder)
            && !directions.all directionsAgree then none
        else some (['.'].intercalate (labels.map writeLabel))

end Domain
end Url
end FormLogic
