import Dossier.Text.Category
import Dossier.Text.CharClass

/-! The characters that names and the signs of a formal language are made of. -/

namespace Dossier.Identifier

/-- Signs that a language may give a meaning. -/
def syntaxSign : CharSet := .ofText [
  "21-2f 3a-40 5b-5e 60 7b-7e a1-a7 a9 ab-ac ae b0-b1 b6 bb bf d7 f7 2010-2027 2030-203e",
  "2041-2053 2055-205e 2190-245f 2500-2775 2794-2bff 2e00-2e7f 3001-3003 3008-3020 3030",
  "fd3e-fd3f fe45-fe46"]

/-- What parts the words of a language. -/
def blank : CharSet := .ofText ["9-d 20 85 200e-200f 2028-2029"]

/-- What names have started with before. -/
def otherStart : CharSet := .ofText ["1885-1886 2118 212e 309b-309c"]

/-- What names have gone on with before. -/
def otherPart : CharSet := .ofText ["b7 387 1369-1371 19da 200c-200d 30fb ff65"]

/-- What a name may start with. -/
def start : CharSet :=
  (CharClass.letter ∪ Category.chars [.Nl] ∪ otherStart).difference (syntaxSign ∪ blank)

/-- What a name may go on with. -/
def part : CharSet := start ∪ Category.chars [.Mn, .Mc, .Nd, .Pc] ∪ otherPart

/-- What a name may start with, and still may once it is brought to a normal form. -/
def normalStart : CharSet := start.difference <|
  .ofText [
  "37a e33 eb3 309b-309c fc5e-fc63 fdfa-fdfb fe70 fe72 fe74 fe76 fe78 fe7a fe7c fe7e ff9e-ff9f"]

/-- What a name may go on with, and still may once it is brought to a normal form. -/
def normalPart : CharSet := part.difference <|
  .ofText ["37a 309b-309c fc5e-fc63 fdfa-fdfb fe70 fe72 fe74 fe76 fe78 fe7a fe7c fe7e"]

/-- Mathematical signs that a name may start with. -/
def mathStart : CharSet := .ofText [
  "2202 2207 221e 1d6c1 1d6db 1d6fb 1d715 1d735 1d74f 1d76f 1d789 1d7a9 1d7c3"]

/-- Mathematical signs that a name may go on with. -/
def mathPart : CharSet := mathStart ∪ .ofText ["b2-b3 b9 2070 2074-207e 2080-208e"]

end Dossier.Identifier
