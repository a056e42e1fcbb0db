import ActivityFlow.Pattern.CharSet

/-!
# Properties of characters

The sets that a pattern describes by the name of a property: a category, a group of
categories, or one of a few properties that cut across them. In a name only ASCII characters
count; letter case, blanks, hyphens, underscores and a leading `is` do not matter.

Scripts, ages, breaks and the properties beyond those of `Property.mixed` are left out: a pattern
that names one of them, such as `\p{Greek}`, is refused here.
-/
namespace ActivityFlow.Pattern

open Text (Category)

namespace Property

/-- A name without the signs that do not matter. -/
def plainName (cs : List Char) : String :=
  let letters := cs.map Char.toLower
  let body := if ['i', 's'].isPrefixOf letters then letters.drop 2 else letters
  String.ofList (body.filter fun c => c.toNat < 0x80 && c != '_' && c != '-' && c != ' ')

/-- The names of categories and of groups of categories. Surrogates are no characters, and
their category has no name. -/
def categories : List (List String × List Category) :=
  [(["lu", "uppercaseletter"], [.uppercaseLetter]),
    (["ll", "lowercaseletter"], [.lowercaseLetter]),
    (["lt", "titlecaseletter"], [.titlecaseLetter]),
    (["lc", "casedletter"], Category.casedLetters),
    (["lm", "modifierletter"], [.modifierLetter]),
    (["lo", "otherletter"], [.otherLetter]),
    (["l", "letter"], Category.letters),
    (["mn", "nonspacingmark"], [.nonspacingMark]),
    (["mc", "spacingmark"], [.spacingMark]),
    (["me", "enclosingmark"], [.enclosingMark]),
    (["m", "mark", "combiningmark"], Category.marks),
    (["nd", "decimalnumber", "digit"], [.decimalDigit]),
    (["nl", "letternumber"], [.letterNumber]),
    (["no", "othernumber"], [.otherNumber]),
    (["n", "number"], Category.numbers),
    (["pc", "connectorpunctuation"], [.connector]),
    (["pd", "dashpunctuation"], [.dash]),
    (["ps", "openpunctuation"], [.opening]),
    (["pe", "closepunctuation"], [.closing]),
    (["pi", "initialpunctuation"], [.initialQuote]),
    (["pf", "finalpunctuation"], [.finalQuote]),
    (["po", "otherpunctuation"], [.otherPunctuation]),
    (["p", "punctuation", "punct"], Category.punctuation),
    (["sm", "mathsymbol"], [.mathSymbol]),
    (["sc", "currencysymbol"], [.currencySymbol]),
    (["sk", "modifiersymbol"], [.modifierSymbol]),
    (["so", "othersymbol"], [.otherSymbol]),
    (["s", "symbol"], Category.symbols),
    (["zs", "spaceseparator"], [.spaceSeparator]),
    (["zl", "lineseparator"], [.lineSeparator]),
    (["zp", "paragraphseparator"], [.paragraphSeparator]),
    (["z", "separator"], Category.separators),
    (["cc", "control", "cntrl"], [.control]),
    (["cf", "format"], [.format]),
    (["co", "privateuse"], [.privateUse]),
    (["cn", "unassigned"], [.unassigned]),
    (["c", "other"], Category.others)]

/-- Signs and other characters that count as small letters. -/
def otherLowercase : Text.RunList :=
  #[
    (0xAA, 0xAA, 1), (0xBA, 0xBA, 1), (0x2B0, 0x2B8, 1), (0x2C0, 0x2C1, 1), (0x2E0, 0x2E4, 1),
    (0x345, 0x345, 1), (0x37A, 0x37A, 1), (0x10FC, 0x10FC, 1), (0x1D2C, 0x1D6A, 1),
    (0x1D78, 0x1D78, 1), (0x1D9B, 0x1DBF, 1), (0x2071, 0x2071, 1), (0x207F, 0x207F, 1),
    (0x2090, 0x209C, 1), (0x2170, 0x217F, 1), (0x24D0, 0x24E9, 1), (0x2C7C, 0x2C7D, 1),
    (0xA69C, 0xA69D, 1), (0xA770, 0xA770, 1), (0xA7F1, 0xA7F4, 1), (0xA7F8, 0xA7F9, 1),
    (0xAB5C, 0xAB5F, 1), (0xAB69, 0xAB69, 1), (0x10780, 0x10780, 1), (0x10783, 0x10785, 1),
    (0x10787, 0x107B0, 1), (0x107B2, 0x107BA, 1), (0x1E030, 0x1E06D, 1)
  ]

/-- Signs and other characters that count as capital letters. -/
def otherUppercase : Text.RunList :=
  #[
    (0x2160, 0x216F, 1), (0x24B6, 0x24CF, 1), (0x1F130, 0x1F149, 1), (0x1F150, 0x1F169, 1),
    (0x1F170, 0x1F189, 1)
  ]

/-- The letters, and what is written in their place. -/
def alphabetic : CharSet :=
  .unionAll [.category (.letterNumber :: Category.letters), .listed Text.alphabeticMarkRuns,
    .listed Text.enclosedLetters]

/-- The properties that cut across the categories. -/
def mixed : List (List String × CharSet) :=
  [(["alpha", "alphabetic"], alphabetic),
    (["lower", "lowercase"], .union (.category [.lowercaseLetter]) (.listed otherLowercase)),
    (["upper", "uppercase"], .union (.category [.uppercaseLetter]) (.listed otherUppercase)),
    (["space", "wspace", "whitespace"], .blank)]

/-- The set of a category, a group of categories or an even wider range. -/
def category? (name : String) : Option CharSet :=
  if name = "any" then some .all
  else if name = "assigned" then some (.complement (.category [.unassigned]))
  else if name = "ascii" then some (.range 0 0x7F)
  else (categories.find? (·.1.contains name)).map fun e => .category e.2

def named? (name : String) : Option CharSet :=
  match mixed.find? (·.1.contains name) with
  | some e => some e.2
  | none => category? name

/-- Splits a text at the first occurrence of a sign. -/
def splitAtSign? (sign : List Char) : List Char → Option (List Char × List Char)
  | [] => none
  | c :: rest =>
    if sign.isPrefixOf (c :: rest) then some ([], (c :: rest).drop sign.length)
    else (splitAtSign? sign rest).map fun (name, value) => (c :: name, value)

/-- Splits a name at a sign for equality or inequality, and says whether it is one for
inequality. -/
def splitRelation? (cs : List Char) : Option (List Char × Bool × List Char) :=
  match splitAtSign? ['!', '='] cs with
  | some (name, value) => some (name, true, value)
  | none =>
    match splitAtSign? [':'] cs with
    | some (name, value) => some (name, false, value)
    | none => (splitAtSign? ['='] cs).map fun (name, value) => (name, false, value)

/-- The set that is written between the braces of a property, and whether it is negated. -/
def read? (cs : List Char) : Option (CharSet × Bool) :=
  match splitRelation? cs with
  | none => (named? (plainName cs)).map (·, false)
  | some (name, negated, value) =>
    if ["gc", "generalcategory"].contains (plainName name) then
      (category? (plainName value)).map (·, negated)
    else none

end Property

end ActivityFlow.Pattern
