import Dossier.Text.Category
import Dossier.Text.CharClass

/-! Characters that act on their neighbours or on the direction of the line, and those that are not
meant to be seen or used. -/

namespace Dossier.Format

/-- What sets the direction of the text. -/
def bidiControl : CharSet := .ofText ["61c 200e-200f 202a-202e 2066-2069"]

/-- What is shown mirrored where the text runs from right to left. -/
def bidiMirrored : CharSet := .ofText [
  "28-29 3c 3e 5b 5d 7b 7d ab bb f3a-f3d 169b-169c 2039-203a 2045-2046 207d-207e 208d-208e 2140",
  "2201-2204 2208-220d 2211 2215-2216 221a-221d 221f-2222 2224 2226 222b-2233 2239 223b-224c",
  "2252-2255 225f-2260 2262 2264-226b 226d-228c 228f-2292 2298 22a2-22a3 22a6-22b8 22be-22bf",
  "22c9-22cd 22d0-22d1 22d6-22ed 22f0-22ff 2308-230b 2320-2321 2329-232a 2768-2775 27c0",
  "27c3-27c6 27c8-27c9 27cb-27cd 27d3-27d6 27dc-27de 27e2-27ef 2983-2998 299b-29a0 29a2-29af",
  "29b8 29c0-29c5 29c9 29ce-29d2 29d4-29d5 29d8-29dc 29e1 29e3-29e5 29e8-29e9 29f4-29f9",
  "29fc-29fd 2a0a-2a1c 2a1e-2a21 2a24 2a26 2a29 2a2b-2a2e 2a34-2a35 2a3c-2a3e 2a57-2a58",
  "2a64-2a65 2a6a-2a6d 2a6f-2a70 2a73-2a74 2a79-2aa3 2aa6-2aad 2aaf-2ad6 2adc 2ade 2ae2-2ae6",
  "2aec-2aee 2af3 2af7-2afb 2afd 2bfe 2e02-2e05 2e09-2e0a 2e0c-2e0d 2e1c-2e1d 2e20-2e29",
  "2e55-2e5c 3008-3011 3014-301b fe59-fe5e fe64-fe65 ff08-ff09 ff1c ff1e ff3b ff3d ff5b ff5d",
  "ff5f-ff60 ff62-ff63 1d6db 1d715 1d74f 1d789 1d7c3"]

/-- What chooses a form of the character before it. -/
def variationSelector : CharSet := .ofText ["180b-180d 180f fe00-fe0f e0100-e01ef"]

/-- Signs that enclose the digits after them. -/
def prepended : CharSet := .ofText ["600-605 6dd 70f 890-891 8e2 110bd 110cd"]

/-- What is not shown without being a format character or a variation selector. -/
def otherIgnorable : CharSet := .ofText [
  "34f 115f-1160 17b4-17b5 2065 3164 ffa0 fff0-fff8 e0000 e0002-e001f e0080-e00ff e01f0-e0fff"]

/-- What is not shown even where it is not known: format characters, but neither signs that enclose
digits nor annotation and hieroglyph controls, and variation selectors. -/
def ignorable : CharSet :=
  (otherIgnorable ∪ Category.chars [.Cf] ∪ variationSelector).difference
    (prepended ∪ .ofText ["fff9-fffb 13430-13440"])

/-- What never becomes a character. -/
def noncharacter : CharSet := .ofText [
  "fdd0-fdef fffe-ffff 1fffe-1ffff 2fffe-2ffff 3fffe-3ffff 4fffe-4ffff 5fffe-5ffff 6fffe-6ffff",
  "7fffe-7ffff 8fffe-8ffff 9fffe-9ffff afffe-affff bfffe-bffff cfffe-cffff dfffe-dffff",
  "efffe-effff ffffe-fffff 10fffe-10ffff"]

/-- What should no longer be used. -/
def deprecated : CharSet := .ofText ["149 673 f77 f79 17a3-17a4 206a-206f 2329-232a e0001"]

/-- Vowels that are written before the consonant they follow. -/
def logicalOrderException : CharSet := .ofText [
  "e40-e44 ec0-ec4 19b5-19b7 19ba aab5-aab6 aab9 aabb-aabc"]

/-- Letters of which two make a flag. -/
def regionalIndicator : CharSet := .ofText ["1f1e6-1f1ff"]

end Dossier.Format
