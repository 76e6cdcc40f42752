import TemplateTrace.Unicode.Binary
import TemplateTrace.Unicode.Script

/-!
# Classes for breaks

Classes of characters that say where a text may be broken between what is seen as a character,
between words, and between sentences, as of Unicode 16.

- `graphemeBreak?`, `wordBreak?`, `sentenceBreak?`: the characters of a class.
-/

namespace TemplateTrace

namespace Unicode

/-! ## Between what is seen as a character -/

/-- Syllables of two parts: every 28th one of the block of syllables. -/
def openSyllables : CodeSet := ⟨(List.range 399).map fun n => (0xac00 + 28 * n, 0xac00 + 28 * n)⟩

/-- Syllables of three parts. -/
def closedSyllables : CodeSet := (CodeSet.ofText "ac00-d7a3").diff openSyllables

/-- Marks that take room of their own and belong to the character before them. -/
def spacingMarks : CodeSet :=
  differing ((inCategories ["mc"]).diff graphemeExtend)
    "e33 eb3 102b-102c 1038 1062-1064 1067-106d 1083 1087-108c 108f 109a-109c 1a61 1a63-1a64
    aa7b aa7d 11720-11721"

/-- The other classes for breaks between graphemes. -/
def graphemeBreaks : PropertyTable := [
  ("cr", "d"),
  ("cn control",
    "0-9 b-c e-1f 7f-9f ad 61c 180e 200b 200e-200f 2028-202e 2060-206f feff fff0-fffb
    13430-1343f 1bca0-1bca3 1d173-1d17a e0000-e001f e0080-e00ff e01f0-e0fff"),
  ("l", "1100-115f a960-a97c"),
  ("lf", "a"),
  ("pp prepend",
    "600-605 6dd 70f 890-891 8e2 d4e 110bd 110cd 111c2-111c3 113d1 1193f 11941 11a3a 11a84-11a89
    11d46 11f02"),
  ("ri regionalindicator", "1f1e6-1f1ff"),
  ("t", "11a8-11ff d7cb-d7fb"),
  ("v", "1160-11a7 d7b0-d7c6 16d63 16d67-16d6a"),
  ("zwj", "200d")]

/-- The characters of a class for breaks between graphemes. -/
def graphemeBreak? (name : Text) : Option CodeSet :=
  match String.ofList name with
  | "ex" => some (graphemeExtend.union (having "emod"))
  | "extend" => some (graphemeExtend.union (having "emod"))
  | "lv" => some openSyllables
  | "lvt" => some closedSyllables
  | "sm" => some spacingMarks
  | "spacingmark" => some spacingMarks
  | _ => graphemeBreaks.find? name

/-! ## Between words -/

/-- What belongs to the character before it. -/
def wordExtend : CodeSet :=
  .unions [graphemeExtend, inCategories ["mc"], having "emod"]

/-- Letters of words. -/
def wordLetters : CodeSet :=
  differing (alphabetic.diff
      (.unions [wordExtend, having "ideo", (script? "hira".toList).getD {}]))
    "2c2-2c5 2d2-2d7 2de-2df 2e5-2eb 2ed 2ef-2ff 55a-55c 55e 58a 5d0-5ea 5ef-5f3 70f e01-e30
    e32-e33 e40-e46 e81-e82 e84 e86-e8a e8c-ea3 ea5 ea7-eb0 eb2-eb3 ebd ec0-ec4 ec6 edc-edf
    1000-102a 103f 1050-1055 105a-105d 1061 1065-1066 106e-1070 1075-1081 108e 1780-17b3 17d7
    17dc 1950-196d 1970-1974 1980-19ab 19b0-19c9 1a20-1a54 1aa7 3031-3035 30a1-30fa 30fc-30ff
    31f0-31ff a708-a716 a720-a721 a789-a78a a9e0-a9e4 a9e6-a9ef a9fa-a9fe aa60-aa76 aa7a
    aa7e-aaaf aab1 aab5-aab6 aab9-aabd aac0 aac2 aadb-aadd ab5b fb1d fb1f-fb28 fb2a-fb36
    fb38-fb3c fb3e fb40-fb41 fb43-fb44 fb46-fb4f ff66-ff9d 11700-1171a 11740-11746 1aff0-1aff3
    1aff5-1affb 1affd-1affe 1b000 1b120-1b122 1b155 1b164-1b167"

/-- Format characters within words. -/
def wordFormat : CodeSet :=
  differing (inCategories ["cf"])
    "600-605 6dd 70f 890-891 8e2 200b-200d 110bd 110cd e0020-e007f"

/-- Digits of numbers. -/
def wordNumeric : CodeSet :=
  differing (inCategories ["nd"])
    "600-605 66b 6dd 890-891 8e2 19da 110bd 110cd"

/-- The other classes for breaks between words. -/
def wordBreaks : PropertyTable := [
  ("cr", "d"),
  ("dq doublequote", "22"),
  ("ex extendnumlet", "5f 202f 203f-2040 2054 fe33-fe34 fe4d-fe4f ff3f"),
  ("hl hebrewletter",
    "5d0-5ea 5ef-5f2 fb1d fb1f-fb28 fb2a-fb36 fb38-fb3c fb3e fb40-fb41 fb43-fb44 fb46-fb4f"),
  ("ka katakana",
    "3031-3035 309b-309c 30a0-30fa 30fc-30ff 31f0-31ff 32d0-32fe 3300-3357 ff66-ff9d 1aff0-1aff3
    1aff5-1affb 1affd-1affe 1b000 1b120-1b122 1b155 1b164-1b167"),
  ("lf", "a"),
  ("ml midletter", "3a b7 387 55f 5f4 2027 fe13 fe55 ff1a"),
  ("mn midnum", "2c 3b 37e 589 60c-60d 66c 7f8 2044 fe50 fe54 ff0c ff1b"),
  ("mb midnumlet", "2e 2018-2019 2024 fe52 ff07 ff0e"),
  ("nl newline", "b-c 85 2028-2029"),
  ("ri regionalindicator", "1f1e6-1f1ff"),
  ("sq singlequote", "27"),
  ("wsegspace", "20 1680 2000-2006 2008-200a 205f 3000"),
  ("zwj", "200d")]

/-- The characters of a class for breaks between words. -/
def wordBreak? (name : Text) : Option CodeSet :=
  match String.ofList name with
  | "extend" => some wordExtend
  | "le" => some wordLetters
  | "aletter" => some wordLetters
  | "fo" => some wordFormat
  | "format" => some wordFormat
  | "nu" => some wordNumeric
  | "numeric" => some wordNumeric
  | _ => wordBreaks.find? name

/-! ## Between sentences -/

/-- What belongs to the character before it, joiners included. -/
def sentenceExtend : CodeSet :=
  .unions [graphemeExtend, inCategories ["mc"], having "joinc"]

/-- Format characters within sentences. -/
def sentenceFormat : CodeSet :=
  differing (inCategories ["cf"])
    "600-605 6dd 890-891 8e2 200c-200d 110bd 110cd e0020-e007f"

/-- Lowercase letters of sentences. -/
def sentenceLower : CodeSet :=
  differing (lowercase.diff graphemeExtend)
    "10d0-10fa 10fd-10ff"

/-- Uppercase letters of sentences. -/
def sentenceUpper : CodeSet :=
  differing (uppercase.union (inCategories ["lt"]))
    "1c90-1cba 1cbd-1cbf"

/-- Other letters of sentences. -/
def sentenceLetters : CodeSet :=
  differing (alphabetic.diff (.unions [sentenceLower, sentenceUpper, sentenceExtend]))
    "5f3"

/-- Digits of numbers in sentences. -/
def sentenceNumeric : CodeSet :=
  differing (inCategories ["nd"])
    "600-605 66b-66c 6dd 890-891 8e2 19da 110bd 110cd"

/-- Signs at the end of a sentence. -/
def sentenceTerms : CodeSet :=
  differing (having "sterm")
    "2e 2024 fe52 ff0e"

/-- The other classes for breaks between sentences. -/
def sentenceBreaks : PropertyTable := [
  ("at aterm", "2e 2024 fe52 ff0e"),
  ("cr", "d"),
  ("cl close",
    "22 27-29 5b 5d 7b 7d ab bb f3a-f3d 169b-169c 2018-201f 2039-203a 2045-2046 207d-207e
    208d-208e 2308-230b 2329-232a 275b-2760 2768-2775 27c5-27c6 27e6-27ef 2983-2998 29d8-29db
    29fc-29fd 2e00-2e0d 2e1c-2e1d 2e20-2e29 2e42 2e55-2e5c 3008-3011 3014-301b 301d-301f
    fd3e-fd3f fe17-fe18 fe35-fe44 fe47-fe48 fe59-fe5e ff08-ff09 ff3b ff3d ff5b ff5d ff5f-ff60
    ff62-ff63 1f676-1f678"),
  ("lf", "a"),
  ("sc scontinue",
    "2c-2d 3a-3b 37e 55d 60c-60d 7f8 1802 1808 2013-2014 3001 fe10-fe11 fe13-fe14 fe31-fe32
    fe50-fe51 fe54-fe55 fe58 fe63 ff0c-ff0d ff1a-ff1b ff64"),
  ("se sep", "85 2028-2029"),
  ("sp", "9 b-c 20 a0 1680 2000-200a 202f 205f 3000")]

/-- The characters of a class for breaks between sentences. -/
def sentenceBreak? (name : Text) : Option CodeSet :=
  match String.ofList name with
  | "ex" => some sentenceExtend
  | "extend" => some sentenceExtend
  | "fo" => some sentenceFormat
  | "format" => some sentenceFormat
  | "lo" => some sentenceLower
  | "lower" => some sentenceLower
  | "up" => some sentenceUpper
  | "upper" => some sentenceUpper
  | "le" => some sentenceLetters
  | "oletter" => some sentenceLetters
  | "nu" => some sentenceNumeric
  | "numeric" => some sentenceNumeric
  | "st" => some sentenceTerms
  | "sterm" => some sentenceTerms
  | _ => sentenceBreaks.find? name

end Unicode

end TemplateTrace
