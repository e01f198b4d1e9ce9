/-
  FormLogic.Unicode.ScriptExtension

  The characters that are used with several scripts.
-/

import FormLogic.Unicode.Script

namespace FormLogic
namespace Unicode

/-- The characters used with the same list of scripts, which is given by their first names. -/
structure SharedRow where
  scripts : List String
  lines : List String

/-- The characters that are used with other scripts than the one they belong to. -/
def sharedRows : List SharedRow := [
  { scripts := ["avst", "cari", "copt", "dupl", "elba", "geor", "glag", "gong", "goth",
      "grek", "hani", "latn", "lydi", "mahj", "perm", "shaw"]
    lines := [
      "b7"] },
  { scripts := ["beng", "cyrl", "deva", "latn", "lisu", "thai", "toto"]
    lines := [
      "2bc"] },
  { scripts := ["bopo", "latn"]
    lines := [
      "2c7 2c9-2cb 2d9"] },
  { scripts := ["latn", "lisu"]
    lines := [
      "2cd"] },
  { scripts := ["latn", "thai"]
    lines := [
      "2d7"] },
  { scripts := ["cher", "copt", "cyrl", "grek", "latn", "perm", "sunu", "tale"]
    lines := [
      "300"] },
  { scripts := ["cher", "cyrl", "grek", "latn", "osge", "sunu", "tale", "todr"]
    lines := [
      "301"] },
  { scripts := ["cher", "cyrl", "latn", "tfng"]
    lines := [
      "302"] },
  { scripts := ["glag", "latn", "sunu", "syrc", "thai"]
    lines := [
      "303"] },
  { scripts := ["aghb", "cher", "copt", "cyrl", "goth", "grek", "latn", "osge", "syrc",
      "tfng", "todr"]
    lines := [
      "304"] },
  { scripts := ["copt", "elba", "glag", "goth", "kana", "latn"]
    lines := [
      "305"] },
  { scripts := ["cyrl", "grek", "latn", "perm", "tfng"]
    lines := [
      "306"] },
  { scripts := ["copt", "dupl", "hebr", "latn", "perm", "syrc", "tale", "tfng", "todr"]
    lines := [
      "307"] },
  { scripts := ["armn", "cyrl", "dupl", "goth", "grek", "hebr", "latn", "perm", "syrc",
      "tale", "tfng"]
    lines := [
      "308"] },
  { scripts := ["latn", "tfng"]
    lines := [
      "309"] },
  { scripts := ["dupl", "latn", "syrc"]
    lines := [
      "30a"] },
  { scripts := ["cher", "cyrl", "latn", "osge"]
    lines := [
      "30b"] },
  { scripts := ["cher", "latn", "tale"]
    lines := [
      "30c"] },
  { scripts := ["latn", "sunu"]
    lines := [
      "30d 310"] },
  { scripts := ["ethi", "latn"]
    lines := [
      "30e"] },
  { scripts := ["cyrl", "latn", "todr"]
    lines := [
      "311"] },
  { scripts := ["grek", "latn", "perm", "todr"]
    lines := [
      "313"] },
  { scripts := ["cher", "dupl", "kana", "latn", "syrc", "tfng"]
    lines := [
      "323"] },
  { scripts := ["cher", "dupl", "latn", "syrc"]
    lines := [
      "324"] },
  { scripts := ["latn", "syrc"]
    lines := [
      "325 32e"] },
  { scripts := ["latn", "sunu", "syrc"]
    lines := [
      "32d"] },
  { scripts := ["cher", "latn", "syrc"]
    lines := [
      "330"] },
  { scripts := ["aghb", "cher", "goth", "latn", "sunu", "syrc", "thai"]
    lines := [
      "331"] },
  { scripts := ["grek"]
    lines := [
      "342 345 1dc0-1dc1"] },
  { scripts := ["latn", "osge"]
    lines := [
      "358"] },
  { scripts := ["aghb", "latn", "todr"]
    lines := [
      "35e"] },
  { scripts := ["latn"]
    lines := [
      "363-36f"] },
  { scripts := ["copt", "grek"]
    lines := [
      "374-375"] },
  { scripts := ["cyrl", "perm"]
    lines := [
      "483"] },
  { scripts := ["cyrl", "glag"]
    lines := [
      "484 487 2e43 a66f"] },
  { scripts := ["cyrl", "latn"]
    lines := [
      "485-486"] },
  { scripts := ["armn", "geor", "glag"]
    lines := [
      "589"] },
  { scripts := ["arab", "gara", "nkoo", "rohg", "syrc", "thaa", "yezi"]
    lines := [
      "60c 61b"] },
  { scripts := ["arab", "syrc", "thaa"]
    lines := [
      "61c"] },
  { scripts := ["adlm", "arab", "gara", "nkoo", "rohg", "syrc", "thaa", "yezi"]
    lines := [
      "61f"] },
  { scripts := ["adlm", "arab", "mand", "mani", "ougr", "phlp", "rohg", "sogd", "syrc"]
    lines := [
      "640"] },
  { scripts := ["arab", "syrc"]
    lines := [
      "64b-655 670"] },
  { scripts := ["arab", "thaa", "yezi"]
    lines := [
      "660-669"] },
  { scripts := ["arab", "rohg"]
    lines := [
      "6d4"] },
  { scripts := ["beng", "deva", "gran", "gujr", "guru", "knda", "latn", "mlym", "nand",
      "newa", "orya", "shrd", "taml", "telu", "tirh"]
    lines := [
      "951"] },
  { scripts := ["beng", "deva", "gran", "gujr", "guru", "knda", "latn", "mlym", "newa",
      "orya", "taml", "telu", "tirh"]
    lines := [
      "952"] },
  { scripts := ["beng", "deva", "dogr", "gong", "gonm", "gran", "gujr", "guru", "knda",
      "mahj", "mlym", "nand", "onao", "orya", "sind", "sinh", "sylo", "takr", "taml", "telu",
      "tirh"]
    lines := [
      "964"] },
  { scripts := ["beng", "deva", "dogr", "gong", "gonm", "gran", "gujr", "gukh", "guru",
      "knda", "limb", "mahj", "mlym", "nand", "onao", "orya", "sind", "sinh", "sylo", "takr",
      "taml", "telu", "tirh"]
    lines := [
      "965"] },
  { scripts := ["deva", "dogr", "kthi", "mahj"]
    lines := [
      "966-96f"] },
  { scripts := ["beng", "cakm", "sylo"]
    lines := [
      "9e6-9ef"] },
  { scripts := ["guru", "mult"]
    lines := [
      "a66-a6f"] },
  { scripts := ["gujr", "khoj"]
    lines := [
      "ae6-aef"] },
  { scripts := ["gran", "taml"]
    lines := [
      "be6-bf3 11301 11303 1133b-1133c 11fd0-11fd1 11fd3"] },
  { scripts := ["knda", "nand", "tutg"]
    lines := [
      "ce6-cef"] },
  { scripts := ["cakm", "mymr", "tale"]
    lines := [
      "1040-1049"] },
  { scripts := ["geor", "glag", "latn"]
    lines := [
      "10fb"] },
  { scripts := ["runr"]
    lines := [
      "16eb-16ed"] },
  { scripts := ["buhd", "hano", "tagb", "tglg"]
    lines := [
      "1735-1736"] },
  { scripts := ["mong", "phag"]
    lines := [
      "1802-1803 1805"] },
  { scripts := ["beng", "deva", "gran", "knda"]
    lines := [
      "1cd0 1cd2"] },
  { scripts := ["deva"]
    lines := [
      "1cd1 1cd4 1cdb 1cde-1cdf 1ce3-1ce8 1cec 1cee-1cf1"] },
  { scripts := ["deva", "gran", "knda"]
    lines := [
      "1cd3"] },
  { scripts := ["beng", "deva", "newa", "telu", "tirh"]
    lines := [
      "1cd5"] },
  { scripts := ["beng", "deva", "telu"]
    lines := [
      "1cd6"] },
  { scripts := ["deva", "newa", "shrd"]
    lines := [
      "1cd7"] },
  { scripts := ["beng", "deva", "newa", "telu"]
    lines := [
      "1cd8"] },
  { scripts := ["deva", "shrd"]
    lines := [
      "1cd9 1cdc-1cdd 1ce0"] },
  { scripts := ["deva", "knda", "mlym", "orya", "taml", "telu"]
    lines := [
      "1cda"] },
  { scripts := ["beng", "deva"]
    lines := [
      "1ce1 1cf5-1cf6"] },
  { scripts := ["deva", "newa", "tirh"]
    lines := [
      "1ce2"] },
  { scripts := ["deva", "nand", "newa"]
    lines := [
      "1ce9"] },
  { scripts := ["beng", "deva", "shrd"]
    lines := [
      "1cea"] },
  { scripts := ["deva", "newa"]
    lines := [
      "1ceb"] },
  { scripts := ["beng", "deva", "newa", "shrd"]
    lines := [
      "1ced"] },
  { scripts := ["beng", "deva", "gran", "knda", "mlym", "nand", "orya", "sinh", "telu",
      "tirh", "tutg"]
    lines := [
      "1cf2"] },
  { scripts := ["deva", "gran"]
    lines := [
      "1cf3 1cf8-1cf9"] },
  { scripts := ["deva", "gran", "knda", "tutg"]
    lines := [
      "1cf4"] },
  { scripts := ["beng"]
    lines := [
      "1cf7"] },
  { scripts := ["nand"]
    lines := [
      "1cfa"] },
  { scripts := ["cyrl", "latn", "syrc"]
    lines := [
      "1df8"] },
  { scripts := ["syrc"]
    lines := [
      "1dfa"] },
  { scripts := ["latn", "mong", "phag"]
    lines := [
      "202f"] },
  { scripts := ["adlm", "arab"]
    lines := [
      "204f"] },
  { scripts := ["cari", "geor", "glag", "hung", "lyci", "orkh"]
    lines := [
      "205a"] },
  { scripts := ["cari", "grek", "hung", "mero"]
    lines := [
      "205d"] },
  { scripts := ["deva", "gran", "latn"]
    lines := [
      "20f0"] },
  { scripts := ["copt", "latn"]
    lines := [
      "2e17"] },
  { scripts := ["avst", "orkh"]
    lines := [
      "2e30"] },
  { scripts := ["avst", "cari", "geor", "hung", "kthi", "lydi", "samr"]
    lines := [
      "2e31"] },
  { scripts := ["dupl"]
    lines := [
      "2e3c 1bca0-1bca3"] },
  { scripts := ["adlm", "arab", "hung"]
    lines := [
      "2e41"] },
  { scripts := ["hani", "tang"]
    lines := [
      "2ff0-2fff 31ef"] },
  { scripts := ["bopo", "hang", "hani", "hira", "kana", "mong", "yiii"]
    lines := [
      "3001"] },
  { scripts := ["bopo", "hang", "hani", "hira", "kana", "mong", "phag", "yiii"]
    lines := [
      "3002"] },
  { scripts := ["bopo", "hang", "hani", "hira", "kana"]
    lines := [
      "3003 3013 301c-301f 3030 3037 fe45-fe46"] },
  { scripts := ["hani"]
    lines := [
      "3006 303e-303f 3190-319f 31c0-31e5 3220-3247 3280-32b0 32c0-32cb 32ff 3358-3370",
      "337b-337f 33e0-33fe 1d360-1d371 1f250-1f251"] },
  { scripts := ["bopo", "hang", "hani", "hira", "kana", "mong", "tibt", "yiii"]
    lines := [
      "3008-3009"] },
  { scripts := ["bopo", "hang", "hani", "hira", "kana", "lisu", "mong", "tibt", "yiii"]
    lines := [
      "300a-300b"] },
  { scripts := ["bopo", "hang", "hani", "hira", "kana", "yiii"]
    lines := [
      "300c-3011 3014-301b 30fb ff61-ff65"] },
  { scripts := ["bopo", "hani"]
    lines := [
      "302a-302d"] },
  { scripts := ["hira", "kana"]
    lines := [
      "3031-3035 3099-309c 30a0 30fc ff70 ff9e-ff9f"] },
  { scripts := ["hani", "hira", "kana"]
    lines := [
      "303c-303d"] },
  { scripts := ["hani", "latn"]
    lines := [
      "a700-a707"] },
  { scripts := ["deva", "dogr", "gujr", "guru", "khoj", "knda", "kthi", "mahj", "mlym",
      "modi", "nand", "shrd", "sind", "takr", "tirh", "tutg"]
    lines := [
      "a830-a832"] },
  { scripts := ["deva", "dogr", "gujr", "guru", "khoj", "knda", "kthi", "mahj", "modi",
      "nand", "shrd", "sind", "takr", "tirh", "tutg"]
    lines := [
      "a833-a835"] },
  { scripts := ["deva", "dogr", "gujr", "guru", "khoj", "kthi", "mahj", "modi", "sind",
      "takr", "tirh"]
    lines := [
      "a836-a837 a839"] },
  { scripts := ["deva", "dogr", "gujr", "guru", "khoj", "kthi", "mahj", "modi", "shrd",
      "sind", "takr", "tirh"]
    lines := [
      "a838"] },
  { scripts := ["beng", "deva", "tutg"]
    lines := [
      "a8f1"] },
  { scripts := ["deva", "taml"]
    lines := [
      "a8f3"] },
  { scripts := ["kali", "latn", "mymr"]
    lines := [
      "a92e"] },
  { scripts := ["bugi", "java"]
    lines := [
      "a9cf"] },
  { scripts := ["arab", "nkoo"]
    lines := [
      "fd3e-fd3f"] },
  { scripts := ["arab", "thaa"]
    lines := [
      "fdf2 fdfd"] },
  { scripts := ["cpmn", "cprt", "linb"]
    lines := [
      "10100-10101"] },
  { scripts := ["cprt", "linb"]
    lines := [
      "10102 10137-1013f"] },
  { scripts := ["cprt", "lina", "linb"]
    lines := [
      "10107-10133"] },
  { scripts := ["arab", "copt"]
    lines := [
      "102e0-102fb"] },
  { scripts := ["mani", "ougr"]
    lines := [
      "10af2"] }]

/-- The characters of all rows. -/
def sharedChars (rows : List SharedRow) : CharSet :=
  CharSet.canonical (rows.flatMap fun r => CharSet.ofLines r.lines)

/-- The characters used with a script. -/
def scriptExtension? (name : String) : Option CharSet :=
  match scripts.find? fun t => t.names.contains name with
  | none => none
  | some t =>
    let named := sharedRows.filter fun r => r.scripts.any fun s => t.names.contains s
    some (CharSet.union (CharSet.diff t.set (sharedChars sharedRows)) (sharedChars named))

end Unicode
end FormLogic
