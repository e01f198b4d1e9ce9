/-
  FormLogic.Unicode.Direction

  The directions of characters, as far as names of hosts depend on them.
-/

import FormLogic.Unicode.Category

namespace FormLogic
namespace Unicode

/-! ## Tables -/

/-- Letters written from right to left. -/
def rightToLeft : CharSet := CharSet.ofLines [
  "5be 5c0 5c3 5c6 5d0-5ea 5ef-5f4 608 60b 60d 61b-64a 66d-66f 671-6d5 6e5-6e6 6ee-6ef",
  "6fa-70d 70f-710 712-72f 74d-7a5 7b1 7c0-7ea 7f4-7f5 7fa 7fe-815 81a 824 828 830-83e",
  "840-858 85e 860-86a 870-88f 897 8a0-8c9 200f fb1d fb1f-fb28 fb2a-fb36 fb38-fb3c fb3e",
  "fb40-fb41 fb43-fb44 fb46-fd3d fd50-fdce fdf0-fdfc fe70-fe74 fe76-fefc 10800-10805 10808",
  "1080a-10835 10837-10838 1083c 1083f-10855 10857-1089e 108a7-108af 108e0-108f2 108f4-108f5",
  "108fb-1091b 10920-10939 1093f-10959 10980-109b7 109bc-109cf 109d2-10a00 10a10-10a13",
  "10a15-10a17 10a19-10a35 10a40-10a48 10a50-10a58 10a60-10a9f 10ac0-10ae4 10aeb-10af6",
  "10b00-10b35 10b40-10b55 10b58-10b72 10b78-10b91 10b99-10b9c 10ba9-10baf 10c00-10c48",
  "10c80-10cb2 10cc0-10cf2 10cfa-10d23 10d4a-10d65 10d69-10d85 10d8e-10d8f 10e80-10ea9 10ead",
  "10eb0-10eb1 10ec2-10ec7 10ed0-10ed8 10efa-10efc 10f00-10f27 10f30-10f45 10f51-10f59",
  "10f70-10f81 10f86-10f89 10fb0-10fcb 10fe0-10ff6 1e800-1e8c4 1e8c7-1e8cf 1e900-1e943 1e94b",
  "1e950-1e959 1e95e-1e95f 1ec71-1ecb4 1ed01-1ed3d 1ee00-1ee03 1ee05-1ee1f 1ee21-1ee22 1ee24",
  "1ee27 1ee29-1ee32 1ee34-1ee37 1ee39 1ee3b 1ee42 1ee47 1ee49 1ee4b 1ee4d-1ee4f 1ee51-1ee52",
  "1ee54 1ee57 1ee59 1ee5b 1ee5d 1ee5f 1ee61-1ee62 1ee64 1ee67-1ee6a 1ee6c-1ee72 1ee74-1ee77",
  "1ee79-1ee7c 1ee7e 1ee80-1ee89 1ee8b-1ee9b 1eea1-1eea3 1eea5-1eea9 1eeab-1eebb"]

/-- Digits of texts written from right to left. -/
def arabicDigits : CharSet := CharSet.ofLines [
  "600-605 660-669 66b-66c 6dd 890-891 8e2 10d30-10d39 10d40-10d49 10e60-10e7e"]

/-- Digits of texts in either direction. -/
def europeanDigits : CharSet := CharSet.ofLines [
  "30-39 b2-b3 b9 6f0-6f9 2070 2074-2079 2080-2089 2488-249b ff10-ff19 102e1-102fb",
  "1d7ce-1d7ff 1f100-1f10a 1fbf0-1fbf9"]

/-- Characters without a direction of their own. -/
def neutralChars : CharSet := CharSet.ofLines [
  "0-8 e-1b 21-2f 3a-40 5b-60 7b-84 86-a9 ab-b1 b4 b6-b8 bb-bf d7 f7 2b9-2ba 2c2-2cf 2d2-2df",
  "2e5-2ed 2ef-2ff 374-375 37e 384-385 387 3f6 58a 58d-58f 606-607 609-60a 60c 60e-60f 66a",
  "6de 6e9 7f6-7f9 9f2-9f3 9fb af1 bf3-bfa c78-c7e e3f f3a-f3d 1390-1399 1400 169b-169c 17db",
  "17f0-17f9 1800-180a 180e 1940 1944-1945 19de-19ff 1fbd 1fbf-1fc1 1fcd-1fcf 1fdd-1fdf",
  "1fed-1fef 1ffd-1ffe 200b-200d 2010-2027 202f-205e 2060-2064 206a-206f 207a-207e 208a-208e",
  "20a0-20c1 2100-2101 2103-2106 2108-2109 2114 2116-2118 211e-2123 2125 2127 2129 212e",
  "213a-213b 2140-2144 214a-214d 2150-215f 2189-218b 2190-2335 237b-2394 2396-2426 2440-244a",
  "2460-2487 24ea-26ab 26ad-27ff 2900-2b73 2b76-2b95 2b97-2bff 2ce5-2cea 2cf9-2cff 2e00-2e5d",
  "2e80-2e99 2e9b-2ef3 2f00-2fd5 2ff0-2ffb 3001-3004 3008-3020 3030 3036-3037 303d-303f",
  "309b-309c 30a0 30fb 31c0-31e3 321d-321e 3250-325f 327c-327e 32b1-32bf 32cc-32cf 3377-337a",
  "33de-33df 33ff 4dc0-4dff a490-a4c6 a60d-a60f a673 a67e-a67f a700-a721 a788 a828-a82b",
  "a838-a839 a874-a877 ab6a-ab6b fb29 fd3e-fd4f fdcf fdfd-fdff fe10-fe19 fe30-fe52 fe54-fe66",
  "fe68-fe6b feff ff01-ff0f ff1a-ff20 ff3b-ff40 ff5b-ff65 ffe0-ffe6 ffe8-ffee fff9-fffd 10101",
  "10140-1018c 10190-1019c 101a0 1091f 10b39-10b3f 11052-11065 11660-1166c 11fd5-11ff1 16fe2",
  "1bca0-1bca3 1d173-1d17a 1d1e9-1d1ea 1d200-1d241 1d245 1d300-1d356 1d6db 1d715 1d74f 1d789",
  "1d7c3 1e2ff 1eef0-1eef1 1f000-1f02b 1f030-1f093 1f0a0-1f0ae 1f0b1-1f0bf 1f0c1-1f0cf",
  "1f0d1-1f0f5 1f10b-1f10f 1f12f 1f16a-1f16f 1f1ad 1f260-1f265 1f300-1f6d7 1f6dc-1f6ec",
  "1f6f0-1f6fc 1f700-1f776 1f77b-1f7d9 1f7e0-1f7eb 1f7f0 1f800-1f80b 1f810-1f847 1f850-1f859",
  "1f860-1f887 1f890-1f8ad 1f8b0-1f8b1 1f900-1fa53 1fa60-1fa6d 1fa70-1fa7c 1fa80-1fa88",
  "1fa90-1fabd 1fabf-1fac5 1face-1fadb 1fae0-1fae8 1faf0-1faf8 1fb00-1fb92 1fb94-1fbca e0001",
  "e0020-e007f"]

/-- Marks that take the direction of the letter before them. -/
def nonspacingMarks : CharSet := ofCategories [nonspacingMark, enclosingMark]

/-! ## Directions -/

/-- The direction of a character. -/
inductive Direction where
  | left
  | right
  | arabicDigit
  | europeanDigit
  | mark
  | neutral
deriving DecidableEq, Repr

/-- The direction of a code point. -/
def direction (n : Nat) : Direction :=
  if CharSet.hasCode rightToLeft n then .right
  else if CharSet.hasCode arabicDigits n then .arabicDigit
  else if CharSet.hasCode europeanDigits n then .europeanDigit
  else if CharSet.hasCode nonspacingMarks n then .mark
  else if CharSet.hasCode neutralChars n then .neutral
  else .left

end Unicode
end FormLogic
