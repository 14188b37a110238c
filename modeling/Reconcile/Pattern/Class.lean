import Reconcile.Text.Age
import Reconcile.Text.Break
import Reconcile.Text.CaseFold
import Reconcile.Text.Script

/-!
# Named sets of characters

The sets that patterns know by name: general categories, scripts, properties and ages, classes of
characters at which a text breaks, and the short names for digits, blanks and words.
-/

namespace Reconcile
namespace Pattern

open Unicode

/-- Names for categories and unions of them. -/
def categoryNames : List (List String × List Category) :=
  [(["lu", "uppercaseletter"], [.lu]), (["ll", "lowercaseletter"], [.ll]),
   (["lt", "titlecaseletter"], [.lt]), (["lm", "modifierletter"], [.lm]),
   (["lo", "otherletter"], [.lo]), (["lc", "casedletter"], [.lu, .ll, .lt]),
   (["l", "letter"], [.lu, .ll, .lt, .lm, .lo]),
   (["mn", "nonspacingmark"], [.mn]), (["mc", "spacingmark"], [.mc]),
   (["me", "enclosingmark"], [.me]), (["m", "mark", "combiningmark"], [.mn, .mc, .me]),
   (["nd", "decimalnumber", "digit"], [.nd]), (["nl", "letternumber"], [.nl]),
   (["no", "othernumber"], [.no]), (["n", "number"], [.nd, .nl, .no]),
   (["pc", "connectorpunctuation"], [.pc]), (["pd", "dashpunctuation"], [.pd]),
   (["ps", "openpunctuation"], [.ps]), (["pe", "closepunctuation"], [.pe]),
   (["pi", "initialpunctuation"], [.pi]), (["pf", "finalpunctuation"], [.pf]),
   (["po", "otherpunctuation"], [.po]),
   (["p", "punctuation", "punct"], [.pc, .pd, .ps, .pe, .pi, .pf, .po]),
   (["sm", "mathsymbol"], [.sm]), (["sc", "currencysymbol"], [.sc]),
   (["sk", "modifiersymbol"], [.sk]), (["so", "othersymbol"], [.so]),
   (["s", "symbol"], [.sm, .sc, .sk, .so]),
   (["zs", "spaceseparator"], [.zs]), (["zl", "lineseparator"], [.zl]),
   (["zp", "paragraphseparator"], [.zp]), (["z", "separator"], [.zs, .zl, .zp]),
   (["cc", "control", "cntrl"], [.cc]), (["cf", "format"], [.cf]), (["co", "privateuse"], [.co])]

/-- The set of a category or a union of categories, by one of its names. -/
def category? (name : String) : Option CharSet :=
  if name = "any" then some .all
  else if name = "ascii" then some (.range 0 0x7F)
  else if name = "assigned" then some (Category.assigned .sixteen)
  else if name = "cn" || name = "unassigned" then some (Category.assigned .sixteen).complement
  else if name = "c" || name = "other" then
    some ((Category.union .sixteen [.cc, .cf, .co]).union (Category.assigned .sixteen).complement)
  else (categoryNames.find? fun e => name ∈ e.1).map fun e => Category.union .sixteen e.2

/-- The properties by their names. -/
def propertyNames : List (List String × Property) :=
  [(["alphabetic", "alpha"], .alphabetic), (["lowercase", "lower"], .lowercase),
   (["uppercase", "upper"], .uppercase), (["cased"], .cased),
   (["caseignorable", "ci"], .caseIgnorable),
   (["changeswhencasefolded", "cwcf"], .changesWhenCasefolded),
   (["changeswhencasemapped", "cwcm"], .changesWhenCasemapped),
   (["changeswhenlowercased", "cwl"], .changesWhenLowercased),
   (["changeswhentitlecased", "cwt"], .changesWhenTitlecased),
   (["changeswhenuppercased", "cwu"], .changesWhenUppercased),
   (["softdotted", "sd"], .softDotted),
   (["whitespace", "wspace", "space"], .whiteSpace),
   (["patternwhitespace", "patws"], .patternWhiteSpace),
   (["patternsyntax", "patsyn"], .patternSyntax),
   (["idstart", "ids"], .idStart), (["idcontinue", "idc"], .idContinue),
   (["xidstart", "xids"], .xidStart), (["xidcontinue", "xidc"], .xidContinue),
   (["idcompatmathstart"], .idCompatMathStart),
   (["idcompatmathcontinue"], .idCompatMathContinue),
   (["graphemebase", "grbase"], .graphemeBase), (["graphemeextend", "grext"], .graphemeExtend),
   (["graphemelink", "grlink"], .graphemeLink), (["joincontrol", "joinc"], .joinControl),
   (["defaultignorablecodepoint", "di"], .defaultIgnorable),
   (["noncharactercodepoint", "nchar"], .noncharacter),
   (["variationselector", "vs"], .variationSelector),
   (["prependedconcatenationmark", "pcm"], .prependedConcatenationMark),
   (["modifiercombiningmark", "mcm"], .modifierCombiningMark),
   (["logicalorderexception", "loe"], .logicalOrderException),
   (["bidicontrol", "bidic"], .bidiControl), (["bidimirrored", "bidim"], .bidiMirrored),
   (["dash"], .dash), (["hyphen"], .hyphen), (["quotationmark", "qmark"], .quotationMark),
   (["sentenceterminal", "sterm"], .sentenceTerminal),
   (["terminalpunctuation", "term"], .terminalPunctuation),
   (["diacritic", "dia"], .diacritic), (["extender", "ext"], .extender), (["math"], .math),
   (["hexdigit", "hex"], .hexDigit), (["asciihexdigit", "ahex"], .asciiHexDigit),
   (["ideographic", "ideo"], .ideographic), (["unifiedideograph", "uideo"], .unifiedIdeograph),
   (["radical"], .radical), (["idsunaryoperator", "idsu"], .idsUnaryOperator),
   (["idsbinaryoperator", "idsb"], .idsBinaryOperator),
   (["idstrinaryoperator", "idst"], .idsTrinaryOperator),
   (["emoji"], .emoji), (["emojipresentation", "epres"], .emojiPresentation),
   (["emojimodifier", "emod"], .emojiModifier),
   (["emojimodifierbase", "ebase"], .emojiModifierBase),
   (["emojicomponent", "ecomp"], .emojiComponent),
   (["extendedpictographic", "extpict"], .extendedPictographic),
   (["regionalindicator", "ri"], .regionalIndicator), (["deprecated", "dep"], .deprecated),
   (["otheralphabetic", "oalpha"], .otherAlphabetic),
   (["otherlowercase", "olower"], .otherLowercase),
   (["otheruppercase", "oupper"], .otherUppercase), (["othermath", "omath"], .otherMath),
   (["otherdefaultignorablecodepoint", "odi"], .otherDefaultIgnorable),
   (["othergraphemeextend", "ogrext"], .otherGraphemeExtend),
   (["otheridstart", "oids"], .otherIdStart),
   (["otheridcontinue", "oidc"], .otherIdContinue)]

/-- The set of a property, by one of its names. -/
def property? (name : String) : Option CharSet :=
  (propertyNames.find? fun e => name ∈ e.1).map fun e => e.2.set .sixteen

/-- The characters of a name that count, in lower case: blanks, hyphens, underscores and what is
beyond ASCII do not. -/
def letters (name : List Char) : List Char :=
  (name.filter fun c => c.toNat < 0x80 && c ∉ [' ', '_', '-']).map Char.toLower

/-- The form of a name by which it is looked up.  An `is` in front of it does not count, unless
only a `c` is left. -/
def normalizeName (name : List Char) : String :=
  let bare :=
    match letters (name.take 2) with
    | ['i', 's'] => if letters (name.drop 2) = ['c'] then letters name else letters (name.drop 2)
    | _ => letters name
  String.ofList bare

/-- The set with a name. -/
def named? (name : List Char) : Option CharSet :=
  let name := normalizeName name
  (if name ∈ ["cf", "sc", "lc"] then none else property? name).or
    ((category? name).or ((script? name).map Script.set))

/-- The set of the characters for which a property has a value. -/
def valued? (property value : List Char) : Option CharSet :=
  let property := normalizeName property
  let value := normalizeName value
  if property ∈ ["gc", "generalcategory"] then category? value
  else if property ∈ ["sc", "script"] then (script? value).map Script.set
  else if property ∈ ["scx", "scriptextensions"] then (script? value).map Script.extension
  else if property = "age" then age? value
  else if property ∈ ["gcb", "graphemeclusterbreak"] then breakClass? graphemeBreaks value
  else if property ∈ ["wb", "wordbreak"] then breakClass? wordBreaks value
  else if property ∈ ["sb", "sentencebreak"] then breakClass? sentenceBreaks value
  else none

/-- The sets that ASCII knows by name. -/
def asciiNames : List (String × List CharRange) :=
  [("alnum", [⟨0x30, 0x39⟩, ⟨0x41, 0x5A⟩, ⟨0x61, 0x7A⟩]),
   ("alpha", [⟨0x41, 0x5A⟩, ⟨0x61, 0x7A⟩]), ("ascii", [⟨0, 0x7F⟩]),
   ("blank", [⟨9, 9⟩, ⟨0x20, 0x20⟩]), ("cntrl", [⟨0, 0x1F⟩, ⟨0x7F, 0x7F⟩]),
   ("digit", [⟨0x30, 0x39⟩]), ("graph", [⟨0x21, 0x7E⟩]), ("lower", [⟨0x61, 0x7A⟩]),
   ("print", [⟨0x20, 0x7E⟩]),
   ("punct", [⟨0x21, 0x2F⟩, ⟨0x3A, 0x40⟩, ⟨0x5B, 0x60⟩, ⟨0x7B, 0x7E⟩]),
   ("space", [⟨9, 0xD⟩, ⟨0x20, 0x20⟩]), ("upper", [⟨0x41, 0x5A⟩]),
   ("word", [⟨0x30, 0x39⟩, ⟨0x41, 0x5A⟩, ⟨0x5F, 0x5F⟩, ⟨0x61, 0x7A⟩]),
   ("xdigit", [⟨0x30, 0x39⟩, ⟨0x41, 0x46⟩, ⟨0x61, 0x66⟩])]

/-- The set that ASCII knows by a name. -/
def ascii? (name : String) : Option CharSet := (asciiNames.lookup name).map CharSet.mk

/-- The sets with a letter of their own. -/
inductive ShortSet where
  | digit
  | space
  | word
deriving DecidableEq, Repr

namespace ShortSet

/-- The characters of a set. -/
def wide : ShortSet → CharSet
  | digit => Category.set .sixteen .nd
  | space => Property.whiteSpace.set .sixteen
  | word =>
    ((Property.alphabetic.set .sixteen).union (Property.joinControl.set .sixteen)).union
      (Category.union .sixteen [.mn, .mc, .me, .nd, .pc])

/-- The characters of a set that are in ASCII. -/
def narrow : ShortSet → CharSet
  | digit => (ascii? "digit").getD .empty
  | space => (ascii? "space").getD .empty
  | word => (ascii? "word").getD .empty

end ShortSet
end Pattern
end Reconcile
