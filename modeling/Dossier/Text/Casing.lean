import Dossier.Text.Boundary
import Dossier.Text.Category
import Dossier.Text.CharClass
import Dossier.Text.Folding

/-! Which characters have a case, and which change when the case of a text is changed. -/

namespace Dossier.Casing

def cased : CharSet := CharClass.uppercase ∪ CharClass.lowercase ∪ Category.chars [.Lt]

/-- What does not part a word where its cases are looked at. -/
def ignorable : CharSet :=
  Category.chars [.Mn, .Me, .Cf, .Lm, .Sk] ∪ Boundary.midLetter ∪ Boundary.midNumberLetter ∪
    Boundary.apostrophe

/-- What changes in a text of small letters. -/
def lowered : CharSet :=
  (CharClass.uppercase ∪ Category.chars [.Lt]) ∩ Folding.changing ∪ .ofText ["130"]

/-- What changes in a text of capitals; that includes small letters whose capital form is several
letters. -/
def raised : CharSet :=
  (CharClass.lowercase ∪ Category.chars [.Lt]) ∩ Folding.changing ∪
    .ofText [
    "131 149 1f0 587 1e96-1e9a 1f50 1f52 1f54 1f56 1fb2 1fb4 1fb6-1fb7 1fc2 1fc4 1fc6-1fc7 1fd2",
    "1fd6-1fd7 1fe2 1fe4 1fe6-1fe7 1ff2 1ff4 1ff6-1ff7 fb00-fb04 fb13-fb17"]

/-- What changes at the start of a title: unlike in a text of capitals, letters that hold two may
keep the second one small. -/
def titled : CharSet := (raised ∪ .ofText ["1c4 1c7 1ca 1f1"]).difference <|
  .ofText ["1c5 1c8 1cb 1f2 10d0-10fa 10fd-10ff 1f88-1f8f 1f98-1f9f 1fa8-1faf 1fbc 1fcc 1ffc"]

/-- What changes when case no longer counts. -/
def folded : CharSet := (lowered.difference (.ofText ["13a0-13f5"])) ∪
  .ofText [
  "b5 df 149 17f 345 3c2 3d0-3d1 3d5-3d6 3f0-3f1 3f5 587 13f8-13fd 1c80-1c88 1e9a-1e9b 1f80-1f87",
  "1f90-1f97 1fa0-1fa7 1fb2-1fb4 1fb7 1fc2-1fc4 1fc7 1ff2-1ff4 1ff7 ab70-abbf fb00-fb06",
  "fb13-fb17"]

/-- What changes in any of the first three ways. -/
def mapped : CharSet := lowered ∪ raised ∪ titled

end Dossier.Casing
