import Dossier.Text.Category
import Dossier.Text.CharClass
import Dossier.Text.Emoji
import Dossier.Text.Format
import Dossier.Text.Ideograph
import Dossier.Text.Mark
import Dossier.Text.Script

/-! What every character does where a text is cut into letters, words and sentences. -/

namespace Dossier.Boundary

def carriageReturn : CharSet := .ofText ["d"]

def lineFeed : CharSet := .ofText ["a"]

def widthJoiner : CharSet := .ofText ["200d"]

/-! ### Letters as they are seen -/

/-- What stands by itself and is not shown. -/
def control : CharSet :=
  (Category.chars [.Cc, .Cf, .Zl, .Zp] ∪ (Format.ignorable ∩ Category.chars [.Cn])).difference
    (carriageReturn ∪ lineFeed ∪ CharClass.joiner ∪ Format.prepended ∪ CharClass.extending)

/-- What joins the letter after it. -/
def prepended : CharSet := Format.prepended ∪
  .ofText ["d4e 111c2-111c3 113d1 1193f 11941 11a3a 11a84-11a89 11d46 11f02"]

/-- What joins the letter before it. -/
def extending : CharSet := CharClass.extending ∪ Emoji.modifier

/-- Marks that join the letter before it and take room. -/
def spacing : CharSet :=
  ((Category.chars [.Mc]).difference <| CharClass.extending ∪ .ofText [
      "102b-102c 1038 1062-1064 1067-106d 1083 1087-108c 108f 109a-109c 1a61 1a63-1a64 aa7b aa7d",
      "11720-11721"]) ∪
    .ofText ["e33 eb3"]

/-- Consonants that start a syllable. -/
def leading : CharSet := .ofText ["1100-115f a960-a97c"]

/-- Vowels inside a syllable. -/
def vowel : CharSet := .ofText ["1160-11a7 d7b0-d7c6 16d63 16d67-16d6a"]

/-- Consonants that end a syllable. -/
def trailing : CharSet := .ofText ["11a8-11ff d7cb-d7fb"]

/-- Whole syllables that end in a vowel: every twenty-eighth one. -/
def openSyllable : CharSet :=
  .ofRanges ((List.range 399).map fun i => (0xac00 + 28 * i, 0xac00 + 28 * i))

/-- Whole syllables that end in a consonant. -/
def closedSyllable : CharSet :=
  .ofRanges ((List.range 399).map fun i => (0xac00 + 28 * i + 1, 0xac00 + 28 * i + 27))

def grapheme? : String → Option CharSet
  | "cn" | "control" => some control
  | "cr" => some carriageReturn
  | "ex" | "extend" => some extending
  | "l" => some leading
  | "lf" => some lineFeed
  | "lv" => some openSyllable
  | "lvt" => some closedSyllable
  | "pp" | "prepend" => some prepended
  | "ri" | "regionalindicator" => some Format.regionalIndicator
  | "sm" | "spacingmark" => some spacing
  | "t" => some trailing
  | "v" => some vowel
  | "zwj" => some widthJoiner
  | _ => none

/-! ### Words -/

/-- What holds letters together. -/
def midLetter : CharSet := .ofText ["3a b7 387 55f 5f4 2027 fe13 fe55 ff1a"]

/-- What holds digits together. -/
def midNumber : CharSet := .ofText ["2c 3b 37e 589 60c-60d 66c 7f8 2044 fe50 fe54 ff0c ff1b"]

/-- What holds letters or digits together. -/
def midNumberLetter : CharSet := .ofText ["2e 2018-2019 2024 fe52 ff07 ff0e"]

def apostrophe : CharSet := .ofText ["27"]

def doubleQuote : CharSet := .ofText ["22"]

def newline : CharSet := .ofText ["b-c 85 2028-2029"]

/-- Spaces that make one space together. -/
def wordSpace : CharSet := .ofText ["20 1680 2000-2006 2008-200a 205f 3000"]

def katakana : CharSet := Script.chars "Kana" ∪ .ofText ["3031-3035 309b-309c 30a0 30fc ff70"]

def hebrewLetter : CharSet := Script.chars "Hebr" ∩ Category.chars [.Lo]

/-- What a word does not end at: marks of all kinds and changes of the skin. -/
def wordExtend : CharSet := CharClass.extending ∪ Category.chars [.Mc] ∪ Emoji.modifier

/-- Letters of scripts that do not part their words by spaces. -/
def unspaced : CharSet := .ofText [
  "e01-e30 e32-e33 e40-e46 e81-e82 e84 e86-e8a e8c-ea3 ea5 ea7-eb0 eb2-eb3 ebd ec0-ec4 ec6",
  "edc-edf 1000-102a 103f 1050-1055 105a-105d 1061 1065-1066 106e-1070 1075-1081 108e 1780-17b3",
  "17d7 17dc 1950-196d 1970-1974 1980-19ab 19b0-19c9 1a20-1a54 1aa7 a9e0-a9e4 a9e6-a9ef",
  "a9fa-a9fe aa60-aa76 aa7a aa7e-aaaf aab1 aab5-aab6 aab9-aabd aac0 aac2 aadb-aadd 11700-1171a",
  "11740-11746"]

/-- Letters of which words are made. -/
def wordLetter : CharSet :=
  (CharClass.alphabetic.difference (Ideograph.all ∪ katakana ∪ wordExtend ∪ Script.chars "Hira" ∪
    hebrewLetter ∪ unspaced)) ∪
  .ofText [
  "2c2-2c5 2d2-2d7 2de-2df 2e5-2eb 2ed 2ef-2ff 55a-55c 55e 58a 5f3 70f a708-a716 a720-a721",
  "a789-a78a ab5b"]

/-- What goes with digits without being one. -/
def otherNumeric : CharSet := .ofText ["600-605 66b-66c 6dd 890-891 8e2 19da 110bd 110cd"]

/-- Digits and what goes with them. -/
def numeric : CharSet := CharClass.digit ∪ otherNumeric

/-- Format characters that neither go with digits nor change what stands next to them. -/
def format : CharSet :=
  (Category.chars [.Cf]).difference (otherNumeric ∪ CharClass.joiner ∪ CharClass.extending)

def word? : String → Option CharSet
  | "cr" => some carriageReturn
  | "dq" | "doublequote" => some doubleQuote
  | "ex" | "extendnumlet" => some (Category.chars [.Pc] ∪ .ofText ["202f"])
  | "extend" => some wordExtend
  | "fo" | "format" => some (format.difference (.ofText ["70f 200b"]))
  | "hl" | "hebrewletter" => some hebrewLetter
  | "ka" | "katakana" => some katakana
  | "le" | "aletter" => some wordLetter
  | "lf" => some lineFeed
  | "mb" | "midnumlet" => some midNumberLetter
  | "ml" | "midletter" => some midLetter
  | "mn" | "midnum" => some midNumber
  | "nl" | "newline" => some newline
  | "nu" | "numeric" => some (numeric.difference (.ofText ["66c"]))
  | "ri" | "regionalindicator" => some Format.regionalIndicator
  | "sq" | "singlequote" => some apostrophe
  | "wsegspace" => some wordSpace
  | "zwj" => some widthJoiner
  | _ => none

/-! ### Sentences -/

/-- What may end a sentence or a shortened word. -/
def fullStop : CharSet := .ofText ["2e 2024 fe52 ff0e"]

/-- What goes on with a sentence. -/
def sentenceContinue : CharSet := .ofText [
  "2c-2d 3a-3b 37e 55d 60c-60d 7f8 1802 1808 2013-2014 3001 fe10-fe11 fe13-fe14 fe31-fe32",
  "fe50-fe51 fe54-fe55 fe58 fe63 ff0c-ff0d ff1a-ff1b ff64"]

/-- What ends a line. -/
def separator : CharSet := .ofText ["85 2028-2029"]

/-- Spaces between sentences. -/
def sentenceSpace : CharSet := .ofText ["9 b-c 20 a0 1680 2000-200a 202f 205f 3000"]

/-- What does not end a sentence before it. -/
def sentenceExtend : CharSet := CharClass.extending ∪ Category.chars [.Mc] ∪ widthJoiner

/-- Capitals; the letters of one script have capitals that start no sentence. -/
def sentenceCapital : CharSet :=
  (CharClass.uppercase ∪ Category.chars [.Lt]).difference (.ofText ["1c90-1cba 1cbd-1cbf"])

def sentenceSmall : CharSet :=
  CharClass.lowercase.difference (CharClass.extending ∪ .ofText ["10d0-10fa 10fd-10ff"])

/-- Letters without a case. -/
def caselessLetter : CharSet :=
  (CharClass.alphabetic ∪ .ofText ["5f3"]).difference
    (sentenceCapital ∪ sentenceSmall ∪ sentenceExtend)

/-- Brackets and quotation marks. -/
def bracket : CharSet :=
  (Category.chars [.Ps, .Pe, .Pi, .Pf] ∪ Mark.quotation ∪
    .ofText ["275b-2760 2e00-2e01 2e06-2e08 2e0b 1f676-1f678"]).difference
    (.ofText ["ff02 ff07"])

def sentence? : String → Option CharSet
  | "at" | "aterm" => some fullStop
  | "cl" | "close" => some bracket
  | "cr" => some carriageReturn
  | "ex" | "extend" => some sentenceExtend
  | "fo" | "format" => some format
  | "le" | "oletter" => some caselessLetter
  | "lf" => some lineFeed
  | "lo" | "lower" => some sentenceSmall
  | "nu" | "numeric" => some numeric
  | "sc" | "scontinue" => some sentenceContinue
  | "se" | "sep" => some separator
  | "sp" => some sentenceSpace
  | "st" | "sterm" => some (Mark.sentenceTerminal.difference fullStop)
  | "up" | "upper" => some sentenceCapital
  | _ => none

end Dossier.Boundary
