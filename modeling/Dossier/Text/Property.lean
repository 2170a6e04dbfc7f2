import Dossier.Text.Age
import Dossier.Text.Boundary
import Dossier.Text.Casing
import Dossier.Text.Emoji
import Dossier.Text.Format
import Dossier.Text.Identifier
import Dossier.Text.Ideograph
import Dossier.Text.Mark
import Dossier.Text.Script

/-! The properties of characters that go by a name. Names are compared loosely. -/

namespace Dossier.Property

/-- What a name is compared by: its ASCII characters in small letters, without blanks, hyphens and
underscores, and without an `is` in front. That rule would make the short name of one property,
`isc`, the name of a category, so it is left as it is. -/
def looseName (name : List Char) : String :=
  let loose (cs : List Char) := cs.filterMap fun c =>
    if c = ' ' || c = '_' || c = '-' || decide (127 < c.toNat) then none else some c.toLower
  match name with
  | i :: s :: rest =>
    if i.toLower = 'i' && s.toLower = 's' then
      if loose rest = ['c'] then "isc" else .ofList (loose rest)
    else .ofList (loose name)
  | _ => .ofList (loose name)

/-- The categories that a name stands for. No character is a surrogate, so their
category is not found by itself. -/
def categories? : String → Option (List Category)
  | "l" | "letter" => some [.Lu, .Ll, .Lt, .Lm, .Lo]
  | "lc" | "casedletter" => some [.Lu, .Ll, .Lt]
  | "lu" | "uppercaseletter" => some [.Lu]
  | "ll" | "lowercaseletter" => some [.Ll]
  | "lt" | "titlecaseletter" => some [.Lt]
  | "lm" | "modifierletter" => some [.Lm]
  | "lo" | "otherletter" => some [.Lo]
  | "m" | "mark" | "combiningmark" => some [.Mn, .Mc, .Me]
  | "mn" | "nonspacingmark" => some [.Mn]
  | "mc" | "spacingmark" => some [.Mc]
  | "me" | "enclosingmark" => some [.Me]
  | "n" | "number" => some [.Nd, .Nl, .No]
  | "nd" | "decimalnumber" | "digit" => some [.Nd]
  | "nl" | "letternumber" => some [.Nl]
  | "no" | "othernumber" => some [.No]
  | "p" | "punctuation" | "punct" => some [.Pc, .Pd, .Ps, .Pe, .Pi, .Pf, .Po]
  | "pc" | "connectorpunctuation" => some [.Pc]
  | "pd" | "dashpunctuation" => some [.Pd]
  | "ps" | "openpunctuation" => some [.Ps]
  | "pe" | "closepunctuation" => some [.Pe]
  | "pi" | "initialpunctuation" => some [.Pi]
  | "pf" | "finalpunctuation" => some [.Pf]
  | "po" | "otherpunctuation" => some [.Po]
  | "s" | "symbol" => some [.Sm, .Sc, .Sk, .So]
  | "sm" | "mathsymbol" => some [.Sm]
  | "sc" | "currencysymbol" => some [.Sc]
  | "sk" | "modifiersymbol" => some [.Sk]
  | "so" | "othersymbol" => some [.So]
  | "z" | "separator" => some [.Zs, .Zl, .Zp]
  | "zs" | "spaceseparator" => some [.Zs]
  | "zl" | "lineseparator" => some [.Zl]
  | "zp" | "paragraphseparator" => some [.Zp]
  | "c" | "other" => some [.Cc, .Cf, .Cs, .Co, .Cn]
  | "cc" | "control" | "cntrl" => some [.Cc]
  | "cf" | "format" => some [.Cf]
  | "co" | "privateuse" => some [.Co]
  | "cn" | "unassigned" => some [.Cn]
  | _ => none

/-- The characters of a category or of a group of them. -/
def category? : String → Option CharSet
  | "any" => some .full
  | "assigned" => some (Category.chars [.Cn]).complement
  | "ascii" => some ⟨[(0, 127)]⟩
  | name => (categories? name).map Category.chars

/-- The code of a script under its code or its name. Two scripts have a second code. -/
def scriptCode? : String → Option String
  | "qaac" => some "Copt"
  | "qaai" => some "Zinh"
  | name =>
    let known := Script.names.find? fun (code, full) =>
      looseName code.toList == name || looseName full.toList == name
    known.map (·.1)

/-- The characters that an edition knows. Its number is written with a point, or without one after a
`v`. -/
def age? (name : String) : Option CharSet :=
  let known := Age.table.find? fun (edition, _) =>
    edition == name || "v" ++ edition.replace "." "" == name
  known.bind fun (edition, _) => Age.chars? edition

/-- The characters that have a property or do not. -/
def binary? : String → Option CharSet
  | "alpha" | "alphabetic" => some CharClass.alphabetic
  | "lower" | "lowercase" => some CharClass.lowercase
  | "upper" | "uppercase" => some CharClass.uppercase
  | "oalpha" | "otheralphabetic" => some CharClass.otherAlphabetic
  | "olower" | "otherlowercase" => some CharClass.otherLowercase
  | "oupper" | "otheruppercase" => some CharClass.otherUppercase
  | "cased" => some Casing.cased
  | "ci" | "caseignorable" => some Casing.ignorable
  | "cwl" | "changeswhenlowercased" => some Casing.lowered
  | "cwu" | "changeswhenuppercased" => some Casing.raised
  | "cwt" | "changeswhentitlecased" => some Casing.titled
  | "cwcf" | "changeswhencasefolded" => some Casing.folded
  | "cwcm" | "changeswhencasemapped" => some Casing.mapped
  | "space" | "whitespace" | "wspace" => some CharClass.blank
  | "ahex" | "asciihexdigit" => some CharClass.hexDigit
  | "hex" | "hexdigit" => some (CharClass.hexDigit ∪ .ofText ["ff10-ff19 ff21-ff26 ff41-ff46"])
  | "joinc" | "joincontrol" => some CharClass.joiner
  | "grext" | "graphemeextend" => some CharClass.extending
  | "ogrext" | "othergraphemeextend" => some CharClass.otherExtending
  | "grbase" | "graphemebase" => some Mark.graphemeBase
  | "grlink" | "graphemelink" => some Mark.graphemeLink
  | "dia" | "diacritic" => some Mark.diacritic
  | "ext" | "extender" => some Mark.extender
  | "mcm" | "modifiercombiningmark" => some Mark.modifierCombining
  | "sd" | "softdotted" => some Mark.softDotted
  | "dash" => some Mark.dash
  | "hyphen" => some Mark.hyphen
  | "qmark" | "quotationmark" => some Mark.quotation
  | "sterm" | "sentenceterminal" => some Mark.sentenceTerminal
  | "term" | "terminalpunctuation" => some Mark.terminal
  | "math" => some Mark.math
  | "omath" | "othermath" => some Mark.otherMath
  | "bidic" | "bidicontrol" => some Format.bidiControl
  | "bidim" | "bidimirrored" => some Format.bidiMirrored
  | "dep" | "deprecated" => some Format.deprecated
  | "di" | "defaultignorablecodepoint" => some Format.ignorable
  | "odi" | "otherdefaultignorablecodepoint" => some Format.otherIgnorable
  | "loe" | "logicalorderexception" => some Format.logicalOrderException
  | "nchar" | "noncharactercodepoint" => some Format.noncharacter
  | "pcm" | "prependedconcatenationmark" => some Format.prepended
  | "ri" | "regionalindicator" => some Format.regionalIndicator
  | "vs" | "variationselector" => some Format.variationSelector
  | "ids" | "idstart" => some Identifier.start
  | "idc" | "idcontinue" => some Identifier.part
  | "xids" | "xidstart" => some Identifier.normalStart
  | "xidc" | "xidcontinue" => some Identifier.normalPart
  | "oids" | "otheridstart" => some Identifier.otherStart
  | "oidc" | "otheridcontinue" => some Identifier.otherPart
  | "idcompatmathstart" => some Identifier.mathStart
  | "idcompatmathcontinue" => some Identifier.mathPart
  | "patsyn" | "patternsyntax" => some Identifier.syntaxSign
  | "patws" | "patternwhitespace" => some Identifier.blank
  | "emoji" => some Emoji.all
  | "epres" | "emojipresentation" => some Emoji.presented
  | "emod" | "emojimodifier" => some Emoji.modifier
  | "ebase" | "emojimodifierbase" => some Emoji.modifiable
  | "ecomp" | "emojicomponent" => some Emoji.component
  | "extpict" | "extendedpictographic" => some Emoji.pictographic
  | "ideo" | "ideographic" => some Ideograph.all
  | "uideo" | "unifiedideograph" => some Ideograph.unified
  | "radical" => some Ideograph.radical
  | "idsu" | "idsunaryoperator" => some Ideograph.unaryOperator
  | "idsb" | "idsbinaryoperator" => some Ideograph.binaryOperator
  | "idst" | "idstrinaryoperator" => some Ideograph.ternaryOperator
  | _ => none

/-- What a name alone stands for. -/
def ofName? (name : List Char) : Option CharSet :=
  let name := looseName name
  binary? name <|> category? name <|> (scriptCode? name).map Script.chars

/-- What the name of a property and a value of it stand for. -/
def ofValue? (name value : List Char) : Option CharSet :=
  let value := looseName value
  match looseName name with
  | "gc" | "generalcategory" => category? value
  | "sc" | "script" => (scriptCode? value).map Script.chars
  | "scx" | "scriptextensions" => (scriptCode? value).map Script.users
  | "age" => age? value
  | "gcb" | "graphemeclusterbreak" => Boundary.grapheme? value
  | "wb" | "wordbreak" => Boundary.word? value
  | "sb" | "sentencebreak" => Boundary.sentence? value
  | _ => none

end Dossier.Property
