import ActivityFlow.Text.Blank
import ActivityFlow.Text.Category
import ActivityFlow.Text.LetterCase

/-!
# Sets of characters

The sets that a pattern can describe: ranges and the classes of words, digits and blanks,
closed under the operations on sets and under a change of letter case.
-/
namespace ActivityFlow

inductive CharSet where
  /-- The characters whose code points lie in an inclusive range. -/
  | range (first last : Nat)
  /-- The characters of some categories. -/
  | category (kinds : List Text.Category)
  /-- The characters whose code points are listed. -/
  | listed (table : Text.RunList)
  | word
  | digit
  | blank
  | complement (s : CharSet)
  | union (s t : CharSet)
  | inter (s t : CharSet)
  /-- The characters that differ from a member in case only. -/
  | anyCase (s : CharSet)
  /-- The characters that differ from a member in the case of an ASCII letter only. -/
  | anyAsciiCase (s : CharSet)
deriving DecidableEq

namespace CharSet

def otherAsciiCase (c : Char) : Char := if c.isUpper then c.toLower else c.toUpper

/-- Whether a character belongs to a set. -/
def contains : CharSet → Char → Bool
  | range first last, c => first ≤ c.toNat && c.toNat ≤ last
  | category kinds, c => kinds.contains (Text.Category.ofChar c)
  | listed table, c => table.covers c.toNat
  | word, c => Text.isWordChar c
  | digit, c => Text.isDigitChar c
  | blank, c => Text.isBlank c
  | complement s, c => !s.contains c
  | union s t, c => s.contains c || t.contains c
  | inter s t, c => s.contains c && t.contains c
  | anyCase s, c => (Text.caseOrbit c).any s.contains
  | anyAsciiCase s, c => s.contains c || s.contains (otherAsciiCase c)

def single (c : Char) : CharSet := range c.toNat c.toNat

/-- The set without members. -/
def none : CharSet := range 1 0

def all : CharSet := complement none

/-- The members of one set that are not in another. -/
def diff (s t : CharSet) : CharSet := inter s (complement t)

/-- The members of exactly one of two sets. -/
def symmDiff (s t : CharSet) : CharSet := union (diff s t) (diff t s)

def unionAll (sets : List CharSet) : CharSet := sets.foldr union none

/-- The set of the characters of a text. -/
def ofChars (cs : List Char) : CharSet := unionAll (cs.map single)

def asciiDigit : CharSet := range 0x30 0x39

def asciiUpper : CharSet := range 0x41 0x5A

def asciiLower : CharSet := range 0x61 0x7A

def asciiLetter : CharSet := union asciiUpper asciiLower

def asciiWord : CharSet := unionAll [asciiDigit, asciiLetter, single '_']

/-- The white space of ASCII. -/
def asciiBlank : CharSet := union (range 9 13) (single ' ')

def asciiPunctuation : CharSet :=
  unionAll [range 0x21 0x2F, range 0x3A 0x40, range 0x5B 0x60, range 0x7B 0x7E]

/-- The named classes of ASCII characters. -/
def asciiClasses : List (String × CharSet) :=
  [("alnum", union asciiDigit asciiLetter), ("alpha", asciiLetter), ("ascii", range 0 0x7F),
    ("blank", ofChars ['\t', ' ']), ("cntrl", union (range 0 0x1F) (single '\x7f')),
    ("digit", asciiDigit), ("graph", range 0x21 0x7E), ("lower", asciiLower),
    ("print", range 0x20 0x7E), ("punct", asciiPunctuation), ("space", asciiBlank),
    ("upper", asciiUpper), ("word", asciiWord),
    ("xdigit", unionAll [asciiDigit, range 0x41 0x46, range 0x61 0x66])]

@[simp] theorem contains_none (c : Char) : none.contains c = false := by
  simp only [none, contains]
  generalize c.toNat = n
  cases n <;> simp

@[simp] theorem contains_single (c d : Char) : (single c).contains d = (c == d) := by
  rw [Bool.eq_iff_iff]
  simp only [single, contains, Bool.and_eq_true, decide_eq_true_eq, beq_iff_eq, Char.ext_iff,
    ← UInt32.toNat_inj]
  exact ⟨fun h => Nat.le_antisymm h.1 h.2, fun h => ⟨Nat.le_of_eq h, Nat.le_of_eq h.symm⟩⟩

@[simp] theorem contains_complement (s : CharSet) (c : Char) :
    (complement s).contains c = !s.contains c := rfl

@[simp] theorem contains_union (s t : CharSet) (c : Char) :
    (union s t).contains c = (s.contains c || t.contains c) := rfl

@[simp] theorem contains_inter (s t : CharSet) (c : Char) :
    (inter s t).contains c = (s.contains c && t.contains c) := rfl

end CharSet

end ActivityFlow
