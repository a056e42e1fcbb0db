import ActivityFlow.Text.Category.Letters
import ActivityFlow.Text.Category.Marks
import ActivityFlow.Text.Category.Signs

/-!
# Categories of characters

Each code point belongs to one category: a kind of letters, marks, numbers, punctuation or
signs, or one of the kinds that are not seen. Word characters, decimal digits and characters
without a glyph of their own are told by their categories.
-/
namespace ActivityFlow.Text

/-- The category of a code point. -/
inductive Category where
  | uppercaseLetter
  | lowercaseLetter
  | titlecaseLetter
  | modifierLetter
  | otherLetter
  | nonspacingMark
  | spacingMark
  | enclosingMark
  | decimalDigit
  | letterNumber
  | otherNumber
  | connector
  | dash
  | opening
  | closing
  | initialQuote
  | finalQuote
  | otherPunctuation
  | mathSymbol
  | currencySymbol
  | modifierSymbol
  | otherSymbol
  | spaceSeparator
  | lineSeparator
  | paragraphSeparator
  | control
  | format
  | surrogate
  | privateUse
  | unassigned
deriving DecidableEq

namespace Category

/-- The categories of assigned code points with what belongs to them. -/
def assigned : List (Category × RunList) :=
  [(uppercaseLetter, uppercaseLetterRuns), (lowercaseLetter, lowercaseLetterRuns),
    (titlecaseLetter, titlecaseLetterRuns), (modifierLetter, modifierLetterRuns),
    (otherLetter, otherLetterRuns), (nonspacingMark, nonspacingMarkRuns),
    (spacingMark, spacingMarkRuns), (enclosingMark, enclosingMarkRuns),
    (decimalDigit, decimalDigitRuns), (letterNumber, letterNumberRuns),
    (otherNumber, otherNumberRuns), (connector, connectorRuns), (dash, dashRuns),
    (opening, openingRuns), (closing, closingRuns), (initialQuote, initialQuoteRuns),
    (finalQuote, finalQuoteRuns), (otherPunctuation, otherPunctuationRuns),
    (mathSymbol, mathSymbolRuns), (currencySymbol, currencySymbolRuns),
    (modifierSymbol, modifierSymbolRuns), (otherSymbol, otherSymbolRuns),
    (spaceSeparator, spaceSeparatorRuns), (lineSeparator, #[(0x2028, 0x2028, 1)]),
    (paragraphSeparator, #[(0x2029, 0x2029, 1)]),
    (control, #[(0x0, 0x1F, 1), (0x7F, 0x9F, 1)]), (format, formatRuns),
    (surrogate, #[(0xD800, 0xDFFF, 1)]),
    (privateUse, #[(0xE000, 0xF8FF, 1), (0xF0000, 0xFFFFD, 1), (0x100000, 0x10FFFD, 1)])]

def ofChar (c : Char) : Category :=
  match assigned.find? fun e => e.2.covers c.toNat with
  | some e => e.1
  | none => unassigned

/-- The categories of letters that have a case. -/
def casedLetters : List Category := [uppercaseLetter, lowercaseLetter, titlecaseLetter]

def letters : List Category := casedLetters ++ [modifierLetter, otherLetter]

/-- The categories of combining marks. -/
def marks : List Category := [nonspacingMark, spacingMark, enclosingMark]

def numbers : List Category := [decimalDigit, letterNumber, otherNumber]

def punctuation : List Category :=
  [connector, dash, opening, closing, initialQuote, finalQuote, otherPunctuation]

/-- The categories of signs. -/
def symbols : List Category := [mathSymbol, currencySymbol, modifierSymbol, otherSymbol]

def separators : List Category := [spaceSeparator, lineSeparator, paragraphSeparator]

/-- The categories of all other code points. -/
def others : List Category := [control, format, surrogate, privateUse, unassigned]

end Category

/-- Letters that are drawn in a circle or a square, which make them signs. -/
def enclosedLetters : RunList :=
  #[(0x24B6, 0x24E9, 1), (0x1F130, 0x1F149, 1), (0x1F150, 0x1F169, 1), (0x1F170, 0x1F189, 1)]

/-- Whether a character may stand inside a word: letters, marks, digits, connecting
punctuation, and the two joiners. -/
def isWordChar (c : Char) : Bool :=
  match Category.ofChar c with
  | .uppercaseLetter | .lowercaseLetter | .titlecaseLetter | .modifierLetter | .otherLetter
  | .nonspacingMark | .spacingMark | .enclosingMark | .decimalDigit | .letterNumber
  | .connector => true
  | .otherSymbol => enclosedLetters.covers c.toNat
  | .format => c == '\u200c' || c == '\u200d'
  | _ => false

def isDigitChar (c : Char) : Bool := decimalDigitRuns.covers c.toNat

/-- Marks and letters with a width of their own that nevertheless extend the character
before them. -/
def extenders : RunList :=
  #[
    (0x9BE, 0x9BE, 1), (0x9D7, 0x9D7, 1), (0xB3E, 0xB3E, 1), (0xB57, 0xB57, 1), (0xBBE, 0xBBE, 1),
    (0xBD7, 0xBD7, 1), (0xCC0, 0xCC2, 2), (0xCC7, 0xCC8, 1), (0xCCA, 0xCCB, 1), (0xCD5, 0xCD6, 1),
    (0xD3E, 0xD3E, 1), (0xD57, 0xD57, 1), (0xDCF, 0xDCF, 1), (0xDDF, 0xDDF, 1), (0x1715, 0x1715, 1),
    (0x1734, 0x1734, 1), (0x1B35, 0x1B35, 1), (0x1B3B, 0x1B3D, 2), (0x1B43, 0x1B44, 1),
    (0x1BAA, 0x1BAA, 1), (0x1BF2, 0x1BF3, 1), (0x302E, 0x302F, 1), (0xA953, 0xA953, 1),
    (0xA9C0, 0xA9C0, 1), (0xFF9E, 0xFF9F, 1), (0x111C0, 0x111C0, 1), (0x11235, 0x11235, 1),
    (0x1133E, 0x1133E, 1), (0x1134D, 0x1134D, 1), (0x11357, 0x11357, 1), (0x113B8, 0x113B8, 1),
    (0x113C2, 0x113C2, 1), (0x113C5, 0x113C5, 1), (0x113C7, 0x113C9, 1), (0x113CF, 0x113CF, 1),
    (0x114B0, 0x114B0, 1), (0x114BD, 0x114BD, 1), (0x115AF, 0x115AF, 1), (0x116B6, 0x116B6, 1),
    (0x11930, 0x11930, 1), (0x1193D, 0x1193D, 1), (0x11F41, 0x11F41, 1), (0x16FF0, 0x16FF1, 1),
    (0x1D165, 0x1D166, 1), (0x1D16D, 0x1D172, 1)
  ]

/-- Whether a character has no glyph of its own: it is not seen, or only extends the character
before it. Quoted texts write such characters by number. -/
def isUnprintable (c : Char) : Bool :=
  match Category.ofChar c with
  | .control | .format | .surrogate | .privateUse | .unassigned | .lineSeparator
  | .paragraphSeparator | .nonspacingMark | .enclosingMark => true
  | .spaceSeparator => c != ' '
  | .spacingMark | .modifierLetter => extenders.covers c.toNat
  | _ => false

end ActivityFlow.Text
