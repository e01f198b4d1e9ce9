/-
  FormLogic.Unicode.Break

  The parts that characters play where a text is divided into characters as
  they are seen, into words and into sentences.  Most of them follow from
  categories and other properties, with a few characters more or less.
-/

import FormLogic.Unicode.Property

namespace FormLogic
namespace Unicode

/-- The characters put before others that they apply to. -/
def prependedMarks : PropertyRule := .ranges prependedMark.lines

/-- The characters that tags are spelled with. -/
def tags : PropertyRule := .ranges ["e0020-e007f"]

/-! ## Characters as they are seen -/

/-- The syllables of Hangul from one place to another in each row of 28 that begin alike. -/
def syllables (first last : Nat) : CharSet :=
  (List.range 399).map fun row => (0xac00 + 28 * row + first, 0xac00 + 28 * row + last)

/-- The characters that stand apart from their neighbours. -/
def graphemeControl : PropertyRule :=
  .without
    (.either (.categories [control, format, lineSeparator, paragraphSeparator])
      (.ranges ["2065 fff0-fff8 e0000 e0002-e001f e0080-e00ff e01f0-e0fff"]))
    (.either (.either prependedMarks tags) (.ranges ["a d 200c-200d"]))

/-- The marks that take room and yet belong to the character before them. -/
def graphemeSpacing : PropertyRule :=
  .without (.either (.categories [spacingMark]) (.ranges ["e33 eb3"]))
    (.either graphemeExtend
      (.ranges ["102b-102c 1038 1062-1064 1067-106d 1083 1087-108c 108f 109a-109c 1a61 1a63-1a64",
        "aa7b aa7d 11720-11721"]))

/-- The parts that play a role for characters as they are seen, with their names. -/
def graphemeBreaks : List (List String × PropertyRule) := [
  (["cr"], .ranges ["d"]),
  (["cn", "control"], graphemeControl),
  (["ex", "extend"], .either graphemeExtend (.ranges ["1f3fb-1f3ff"])),
  (["l"], .ranges ["1100-115f a960-a97c"]),
  (["lf"], .ranges ["a"]),
  (["pp", "prepend"],
    .either prependedMarks
      (.ranges ["d4e 111c2-111c3 113d1 1193f 11941 11a84-11a89 11d46 11f02"])),
  (["ri", "regionalindicator"], .ranges ["1f1e6-1f1ff"]),
  (["sm", "spacingmark"], graphemeSpacing),
  (["t"], .ranges ["11a8-11ff d7cb-d7fb"]),
  (["v"], .ranges ["1160-11a7 d7b0-d7c6 16d63 16d67-16d6a"]),
  (["zwj"], .ranges ["200d"])]

/-- The characters that play a part for characters as they are seen. -/
def graphemeBreak? (name : String) : Option CharSet :=
  match name with
  | "lv" => some (syllables 0 0)
  | "lvt" => some (syllables 1 27)
  | name => PropertyRule.find? graphemeBreaks name

/-! ## Words -/

/-- The characters that go with the one before them within a word or a sentence. -/
def extending : PropertyRule := .either graphemeExtend (.categories [spacingMark])

def hebrewLetter : PropertyRule := .ranges [
  "5d0-5ea 5ef-5f2 fb1d fb1f-fb28 fb2a-fb36 fb38-fb3c fb3e fb40-fb41 fb43-fb44 fb46-fb4f"]

def katakanaLetter : PropertyRule := .ranges [
  "3031-3035 309b-309c 30a0-30fa 30fc-30ff 31f0-31ff 32d0-32fe 3300-3357 ff66-ff9d",
  "1aff0-1aff3 1aff5-1affb 1affd-1affe 1b000 1b120-1b122 1b155 1b164-1b167"]

/-- The alphabetic characters of scripts that are written without blanks between words. -/
def unspacedLetter : PropertyRule := .ranges [
  "e01-e30 e32-e33 e40-e46 e81-e82 e84 e86-e8a e8c-ea3 ea5 ea7-eb0 eb2-eb3 ebd ec0-ec4 ec6",
  "edc-edf 1000-102a 103f 1050-1055 105a-105d 1061 1065-1066 106e-1070 1075-1081 108e",
  "1780-17b3 17d7 17dc 1950-196d 1970-1974 1980-19ab 19b0-19c9 1a20-1a54 1aa7 3041-3096",
  "309d-309f a9e0-a9e4 a9e6-a9ef a9fa-a9fe aa60-aa76 aa7a aa7e-aaaf aab1 aab5-aab6",
  "aab9-aabd aac0 aac2 aadb-aadd 11700-1171a 11740-11746 1b001-1b11f 1b132 1b150-1b152"]

/-- The letters of words that blanks divide, but for Hebrew ones. -/
def wordLetter : PropertyRule :=
  .either
    (.without alphabetic
      (.either (.either extending (.ranges ideographic.lines))
        (.either unspacedLetter (.either hebrewLetter katakanaLetter))))
    (.ranges ["b8 2c2-2c5 2d2-2d7 2de-2df 2e5-2eb 2ed 2ef-2ff 55a-55c 55e 58a 5f3 70f a708-a716",
      "a720-a721 a789-a78a ab5b"])

/-- The characters of numbers, with signs that stand before numbers. -/
def numeric : PropertyRule :=
  .either (.categories [decimalNumber]) (.without (.either prependedMarks (.ranges ["66b 19da"]))
    (.ranges ["70f"]))

/-- The parts that play a role for words, with their names. -/
def wordBreaks : List (List String × PropertyRule) := [
  (["le", "aletter"], wordLetter),
  (["cr"], .ranges ["d"]),
  (["dq", "doublequote"], .ranges ["22"]),
  (["extend"], .either extending (.ranges ["1f3fb-1f3ff"])),
  (["ex", "extendnumlet"], .either (.categories [connectorPunctuation]) (.ranges ["202f"])),
  (["fo", "format"],
    .without (.categories [format])
      (.either (.either prependedMarks tags) (.ranges ["200b-200d"]))),
  (["hl", "hebrewletter"], hebrewLetter),
  (["ka", "katakana"], katakanaLetter),
  (["lf"], .ranges ["a"]),
  (["ml", "midletter"], .ranges ["3a b7 387 55f 5f4 2027 fe13 fe55 ff1a"]),
  (["mn", "midnum"], .ranges ["2c 3b 37e 589 60c-60d 66c 7f8 2044 fe50 fe54 ff0c ff1b"]),
  (["mb", "midnumlet"], .ranges ["2e 2018-2019 2024 fe52 ff07 ff0e"]),
  (["nl", "newline"], .ranges ["b-c 85 2028-2029"]),
  (["nu", "numeric"], numeric),
  (["ri", "regionalindicator"], .ranges ["1f1e6-1f1ff"]),
  (["sq", "singlequote"], .ranges ["27"]),
  (["wsegspace"], .ranges ["20 1680 2000-2006 2008-200a 205f 3000"]),
  (["zwj"], .ranges ["200d"])]

/-- The characters that play a part for words. -/
def wordBreak? (name : String) : Option CharSet := PropertyRule.find? wordBreaks name

/-! ## Sentences -/

/-- The capital letters of Georgian, which do not begin sentences, and the letters they belong
to. -/
def georgianLetter : PropertyRule := .ranges ["10d0-10fa 10fd-10ff 1c90-1cba 1cbd-1cbf"]

def sentenceLower : PropertyRule := .without lowercase (.either graphemeExtend georgianLetter)

def sentenceUpper : PropertyRule :=
  .without (.either uppercase (.categories [titlecaseLetter])) georgianLetter

/-- The signs that may end a sentence, as a full stop does. -/
def ambiguousStop : PropertyRule := .ranges ["2e 2024 fe52 ff0e"]

/-- The signs that end a sentence. -/
def sentenceStop : PropertyRule := .without (.ranges sentenceTerminal.lines) ambiguousStop

/-- The parts that play a role for sentences, with their names. -/
def sentenceBreaks : List (List String × PropertyRule) := [
  (["at", "aterm"], ambiguousStop),
  (["cr"], .ranges ["d"]),
  (["cl", "close"],
    .either (.categories [openPunctuation, closePunctuation, initialPunctuation, finalPunctuation])
      (.ranges ["22 27 275b-2760 2e00-2e01 2e06-2e08 2e0b 1f676-1f678"])),
  (["ex", "extend"], .either extending (.ranges ["200d"])),
  (["fo", "format"],
    .either (.ranges ["70f"])
      (.without (.categories [format])
        (.either (.either prependedMarks tags) (.ranges ["200c-200d"])))),
  (["lf"], .ranges ["a"]),
  (["lo", "lower"], sentenceLower),
  (["nu", "numeric"], .either numeric (.ranges ["66c"])),
  (["le", "oletter"],
    .either (.ranges ["5f3"])
      (.without alphabetic (.either extending (.either sentenceLower sentenceUpper)))),
  (["sc", "scontinue"], .ranges [
    "2c-2d 3a-3b 37e 55d 60c-60d 7f8 1802 1808 2013-2014 3001 fe10-fe11 fe13-fe14 fe31-fe32",
    "fe50-fe51 fe54-fe55 fe58 fe63 ff0c-ff0d ff1a-ff1b ff64"]),
  (["st", "sterm"], sentenceStop),
  (["se", "sep"], .ranges ["85 2028-2029"]),
  (["sp"], .ranges ["9 b-c 20 a0 1680 2000-200a 202f 205f 3000"]),
  (["up", "upper"], sentenceUpper)]

/-- The characters that play a part for sentences. -/
def sentenceBreak? (name : String) : Option CharSet := PropertyRule.find? sentenceBreaks name

end Unicode
end FormLogic
