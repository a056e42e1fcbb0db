import ActivityFlow.Text.Utf8
import ActivityFlow.Proofs.Span.Format
import Mathlib.Data.List.TakeWhile

/-!
# The grammar of spans

A span is spelled by a number and perhaps a unit behind it. Exactly the texts that spell a span
when the white space around them is left out are read, and they are read as this span.
-/
namespace ActivityFlow

namespace Text

/-- Letters are the capital and the small ones of ASCII. -/
theorem isAlpha_iff_toNat {c : Char} :
    c.isAlpha = true ↔ (65 ≤ c.toNat ∧ c.toNat ≤ 90) ∨ (97 ≤ c.toNat ∧ c.toNat ≤ 122) := by
  -- The bounds are spelled as characters here, which unfolds the test by computation alone.
  have hdef : c.isAlpha = (decide (c.val ≥ 'A'.val ∧ c.val ≤ 'Z'.val) ||
      (decide (c.val ≥ 'a'.val) && decide (c.val ≤ 'z'.val))) := rfl
  simp only [hdef, Bool.or_eq_true, Bool.and_eq_true, decide_eq_true_eq, ge_iff_le,
    UInt32.le_iff_toNat_le]
  rfl

/-- Characters in front of white space are what is left when it is trimmed. -/
theorem exists_append_trimEndChars (cs : List Char) :
    ∃ gap, cs = trimEndChars cs ++ gap ∧ ∀ c ∈ gap, isBlank c = true := by
  refine ⟨(cs.reverse.takeWhile isBlank).reverse, ?_, ?_⟩
  · rw [trimEndChars, ← List.reverse_append, List.takeWhile_append_dropWhile, List.reverse_reverse]
  · intro c hc
    exact List.mem_takeWhile_imp (List.mem_reverse.mp hc)

/-- A trimmed text does not begin with white space. -/
theorem isBlank_head_trimChars {cs rest : List Char} {c : Char} (h : trimChars cs = c :: rest) :
    isBlank c = false := by
  obtain ⟨gap, hgap, -⟩ := exists_append_trimEndChars (cs.dropWhile isBlank)
  have hcons : cs.dropWhile isBlank = c :: (rest ++ gap) := by
    rw [hgap, ← trimChars, h, List.cons_append]
  have hhead := List.head_dropWhile_not isBlank (l := cs) (by rw [hcons]; simp)
  simpa [hcons] using hhead

/-- White space behind characters that do not begin with white space is trimmed. -/
theorem exists_append_trimChars {cs : List Char} (h : ∀ c ∈ cs.head?, isBlank c = false) :
    ∃ gap, cs = trimChars cs ++ gap ∧ ∀ c ∈ gap, isBlank c = true := by
  have hfront : cs.dropWhile isBlank = cs := by
    cases cs with
    | nil => rfl
    | cons c rest => exact dropWhile_isBlank (h c rfl)
  rw [trimChars, hfront]
  exact exists_append_trimEndChars cs

/-- White space behind a text without white space at its ends is trimmed, and nothing else. -/
theorem trimChars_append {cs gap : List Char} (hne : cs ≠ [])
    (hcs : ∀ c ∈ cs, isBlank c = false) (hgap : ∀ c ∈ gap, isBlank c = true) :
    trimChars (cs ++ gap) = cs := by
  obtain ⟨first, rest, rfl⟩ := List.exists_cons_of_ne_nil hne
  have hback : ((first :: rest ++ gap).reverse).dropWhile isBlank = (first :: rest).reverse := by
    rw [List.reverse_append, List.dropWhile_append_of_pos (by simpa using hgap)]
    refine List.dropWhile_eq_self_iff.mpr fun hlt => ?_
    rw [hcs _ (List.mem_reverse.mp (List.getElem_mem hlt))]
    exact Bool.false_ne_true
  rw [trimChars, List.cons_append, dropWhile_isBlank (hcs first (List.mem_cons_self ..)),
    ← List.cons_append, trimEndChars, hback, List.reverse_reverse]

end Text

namespace Span

/-- A number of less than 64 bits is spelled by ASCII digits, with or without a plus sign. -/
def SpellsCount (cs : List Char) (n : Nat) : Prop :=
  ∃ digits, (cs = digits ∨ cs = '+' :: digits) ∧ digits ≠ [] ∧
    (∀ c ∈ digits, c.isDigit = true) ∧ Nat.ofDigitChars 10 digits 0 = n ∧ n < words64

def letterUnits : List (Char × Nat) :=
  [('s', 1), ('S', 1), ('m', 60), ('M', 60), ('h', 3600), ('H', 3600)]

/-- The spelling of a span: a number of seconds, or a number with a unit and perhaps white space
in between. -/
inductive Spells : List Char → Span → Prop where
  | bare {number : List Char} {n : Nat} {d : Span} (count : SpellsCount number n)
    (value : d.nanoseconds = n * nanosPerSecond) : Spells number d
  | millis {number gap : List Char} {n : Nat} {d : Span} (count : SpellsCount number n)
    (blank : ∀ c ∈ gap, Text.isBlank c = true) (value : d.nanoseconds = n * nanosPerMilli) :
    Spells (number ++ gap ++ ['m', 's']) d
  | letter {number gap : List Char} {n seconds : Nat} {unit : Char} {d : Span}
    (count : SpellsCount number n) (blank : ∀ c ∈ gap, Text.isBlank c = true)
    (known : (unit, seconds) ∈ letterUnits)
    (value : d.nanoseconds = n * seconds * nanosPerSecond) : Spells (number ++ gap ++ [unit]) d

/-! ## Numbers -/

theorem readCount?_plus {digits : List Char} (hne : digits ≠ [])
    (hdigits : ∀ c ∈ digits, c.isDigit = true) :
    readCount? ('+' :: digits) = readCount? digits := by
  have hall : digits.all Char.isDigit = true := List.all_eq_true.mpr hdigits
  rw [readCount?_of_digits hne hdigits, readCount?]
  simp [hne, hall]

theorem readCount?_eq_some_iff {cs : List Char} {n : Nat} :
    readCount? cs = some n ↔ SpellsCount cs n := by
  constructor
  · intro h
    unfold readCount? at h
    simp only [Option.ite_none_left_eq_some, Option.ite_none_right_eq_some, Option.some.injEq,
      Bool.or_eq_true, not_or, Bool.not_eq_true', Bool.not_eq_false, List.isEmpty_iff,
      List.all_eq_true, Text.decimalValue_eq] at h
    obtain ⟨⟨hne, hdigits⟩, hlt, hvalue⟩ := h
    refine ⟨_, ?_, hne, hdigits, hvalue, hvalue ▸ hlt⟩
    split
    · exact .inr rfl
    · exact .inl rfl
  · rintro ⟨digits, hcs, hne, hdigits, hvalue, hlt⟩
    have hread : readCount? digits = some n := by
      rw [readCount?_of_digits hne hdigits, Text.decimalValue_eq, hvalue, if_pos hlt]
    rcases hcs with rfl | rfl
    · exact hread
    · rw [readCount?_plus hne hdigits, hread]

/-- There is neither white space nor an `m` in a number. -/
theorem SpellsCount.chars {cs : List Char} {n : Nat} (h : SpellsCount cs n) :
    cs ≠ [] ∧ ∀ c ∈ cs, c = '+' ∨ c.isDigit = true := by
  obtain ⟨digits, rfl | rfl, hne, hdigits, -⟩ := h
  · exact ⟨hne, fun c hc => .inr (hdigits c hc)⟩
  · refine ⟨List.cons_ne_nil _ _, fun c hc => ?_⟩
    exact (List.mem_cons.mp hc).imp_right (hdigits c)

theorem SpellsCount.isBlank_eq_false {cs : List Char} {n : Nat} (h : SpellsCount cs n) :
    ∀ c ∈ cs, Text.isBlank c = false := by
  intro c hc
  rcases h.chars.2 c hc with rfl | hdigit
  · rfl
  · exact Text.isBlank_eq_false_of_isDigit hdigit

/-- The number in front of a unit is read, with or without white space in between. -/
theorem readCount?_trimChars_append {number gap : List Char} {n : Nat}
    (h : SpellsCount number n) (hgap : ∀ c ∈ gap, Text.isBlank c = true) :
    readCount? (Text.trimChars (number ++ gap)) = some n := by
  rw [Text.trimChars_append h.chars.1 h.isBlank_eq_false hgap, readCount?_eq_some_iff.mpr h]

/-- What is read in front of a unit is a number and perhaps white space, unless it begins with
white space. -/
theorem exists_spellsCount {cs : List Char} {n : Nat}
    (hhead : ∀ c ∈ cs.head?, Text.isBlank c = false)
    (h : readCount? (Text.trimChars cs) = some n) :
    ∃ number gap, cs = number ++ gap ∧ SpellsCount number n ∧
      ∀ c ∈ gap, Text.isBlank c = true := by
  obtain ⟨gap, hcs, hgap⟩ := Text.exists_append_trimChars hhead
  exact ⟨_, gap, hcs, readCount?_eq_some_iff.mp h, hgap⟩

/-! ## Units -/

theorem unitSeconds?_eq_some_iff {unit : Char} {seconds : Nat} :
    unitSeconds? unit = some seconds ↔ (unit, seconds) ∈ letterUnits := by
  grind [unitSeconds?, letterUnits]

theorem isAlpha_of_mem_letterUnits {unit : Char} {seconds : Nat}
    (h : (unit, seconds) ∈ letterUnits) : unit.isAlpha = true := by
  have hall : ∀ e ∈ letterUnits, e.1.isAlpha = true := by decide
  exact hall _ h

/-! ## Texts -/

/-- A unit of two letters is not a unit of one letter with an `m` in front. -/
theorem not_two_letters {number gap rest : List Char} {n : Nat} (h : SpellsCount number n)
    (hgap : ∀ c ∈ gap, Text.isBlank c = true) : (number ++ gap).reverse ≠ 'm' :: rest := by
  intro heq
  have hmem : 'm' ∈ number ++ gap := by
    rw [← List.mem_reverse, heq]
    exact List.mem_cons_self ..
  rcases List.mem_append.mp hmem with hm | hm
  · rcases h.chars.2 'm' hm with h | h
    · exact absurd h (by decide)
    · exact absurd h (by decide)
  · exact absurd (hgap 'm' hm) (by decide)

theorem parseReversed?_of_spells {t : List Char} {d : Span} (h : Spells t d) :
    parseReversed? t.reverse = some d := by
  cases h with
  | @bare _ n _ count value =>
    obtain ⟨c, rest, heq⟩ := List.exists_cons_of_ne_nil (List.reverse_ne_nil_iff.mpr count.chars.1)
    have hc : c = '+' ∨ c.isDigit = true := count.chars.2 c (by
      rw [← List.mem_reverse, heq]
      exact List.mem_cons_self ..)
    have halpha : c.isAlpha = false := by
      rcases hc with rfl | hdigit
      · rfl
      · have hrange := Char.isDigit_iff_toNat.mp hdigit
        rw [Bool.eq_false_iff, ne_eq, Text.isAlpha_iff_toNat]
        have hzero : '0'.toNat = 48 := rfl
        have hnine : '9'.toNat = 57 := rfl
        omega
    have hread : readCount? (c :: rest).reverse = some n := by
      rw [← heq, List.reverse_reverse, readCount?_eq_some_iff.mpr count]
    rw [heq, parseReversed?]
    · rw [if_neg (by simp [halpha]), hread]
      exact ofSeconds?_eq_some_iff.mpr value
    · rintro more rfl -
      cases halpha
  | @millis number gap n _ count blank value =>
    have hrev : (number ++ gap ++ ['m', 's']).reverse = 's' :: 'm' :: (number ++ gap).reverse := by
      simp
    rw [hrev, parseReversed?, List.reverse_reverse, readCount?_trimChars_append count blank]
    obtain ⟨_, -, -, -, -, hlt⟩ := count
    exact ofMillis?_eq_some_iff.mpr ⟨hlt, value⟩
  | @letter number gap n seconds unit _ count blank known value =>
    rw [List.reverse_append, List.reverse_singleton, List.singleton_append, parseReversed?]
    · rw [if_pos (isAlpha_of_mem_letterUnits known), List.reverse_reverse,
        readCount?_trimChars_append count blank, unitSeconds?_eq_some_iff.mpr known]
      exact ofSeconds?_eq_some_iff.mpr value
    · rintro more - heq
      exact not_two_letters count blank heq

theorem head_of_append {P : Char → Prop} {cs more : List Char}
    (h : ∀ c ∈ (cs ++ more).head?, P c) : ∀ c ∈ cs.head?, P c := by
  intro c hc
  refine h c ?_
  rw [List.head?_append, Option.mem_def.mp hc]
  rfl

/-- What is read from a text without white space in front spells the span. -/
theorem spells_of_parseReversed? {cs : List Char} {d : Span}
    (hhead : ∀ c ∈ cs.reverse.head?, Text.isBlank c = false) (h : parseReversed? cs = some d) :
    Spells cs.reverse d := by
  unfold parseReversed? at h
  split at h
  · cases h
  · next number =>
    obtain ⟨n, hn, hd⟩ := Option.bind_eq_some_iff.mp h
    have hrev : ('s' :: 'm' :: number).reverse = number.reverse ++ ['m', 's'] := by simp
    rw [hrev] at hhead ⊢
    obtain ⟨number, gap, hsplit, count, blank⟩ := exists_spellsCount (head_of_append hhead) hn
    rw [hsplit]
    exact .millis count blank (ofMillis?_eq_some_iff.mp hd).2
  · next unit number _ =>
    by_cases halpha : unit.isAlpha = true
    · rw [if_pos halpha] at h
      obtain ⟨n, hn, h⟩ := Option.bind_eq_some_iff.mp h
      obtain ⟨seconds, hseconds, hd⟩ := Option.bind_eq_some_iff.mp h
      rw [List.reverse_cons] at hhead ⊢
      obtain ⟨number, gap, hsplit, count, blank⟩ := exists_spellsCount (head_of_append hhead) hn
      rw [hsplit]
      exact .letter count blank (unitSeconds?_eq_some_iff.mp hseconds)
        (ofSeconds?_eq_some_iff.mp hd)
    · rw [if_neg halpha] at h
      obtain ⟨n, hn, hd⟩ := Option.bind_eq_some_iff.mp h
      exact .bare (readCount?_eq_some_iff.mp hn) (ofSeconds?_eq_some_iff.mp hd)

theorem parse?_eq_some {s : String} {d : Span} :
    parse? s = some d ↔ Spells (Text.trimChars s.toList) d := by
  rw [parse?]
  constructor
  · intro h
    have hspells := spells_of_parseReversed? (by
      intro c hc
      obtain ⟨rest, hrest⟩ := List.head?_eq_some_iff.mp hc
      exact Text.isBlank_head_trimChars (by rwa [List.reverse_reverse] at hrest)) h
    rwa [List.reverse_reverse] at hspells
  · exact parseReversed?_of_spells

theorem Spells.ascii {t : List Char} {d : Span} (h : Spells t d) :
    ∀ c ∈ t, c.toNat < 128 ∨ Text.isBlank c = true := by
  have hcount : ∀ {number : List Char} {n : Nat}, SpellsCount number n →
      ∀ c ∈ number, c.toNat < 128 := by
    intro number n count c hc
    rcases count.chars.2 c hc with rfl | hdigit
    · decide
    · have hle : c.toNat ≤ 57 := (Char.isDigit_iff_toNat.mp hdigit).2
      omega
  intro c hc
  cases h with
  | bare count value => exact .inl (hcount count c hc)
  | millis count blank value =>
    simp only [List.mem_append] at hc
    rcases hc with (hc | hc) | hc
    · exact .inl (hcount count c hc)
    · exact .inr (blank c hc)
    · simp only [List.mem_cons, List.not_mem_nil, or_false] at hc
      rcases hc with rfl | rfl
      · exact .inl (by decide)
      · exact .inl (by decide)
  | @letter _ _ _ seconds unit _ count blank known value =>
    simp only [List.mem_append, List.mem_singleton] at hc
    rcases hc with (hc | hc) | rfl
    · exact .inl (hcount count c hc)
    · exact .inr (blank c hc)
    · have hunit : ∀ e ∈ letterUnits, e.1.toNat < 128 := by decide
      exact .inl (hunit _ known)

/-- An ASCII letter is one byte, so that a text is left when its last byte is cut off. -/
theorem dropLast_encode_of_isAlpha (front : List Char) {unit : Char} (h : unit.isAlpha = true) :
    (Text.encode (String.ofList (front ++ [unit]))).dropLast =
      Text.encode (String.ofList front) := by
  have hsize : (String.utf8EncodeChar unit).length = 1 := by
    rw [String.length_utf8EncodeChar, Char.utf8Size_eq_one_iff, UInt32.le_iff_toNat_le]
    have hrange := Text.isAlpha_iff_toNat.mp h
    have hval : unit.val.toNat = unit.toNat := rfl
    have hlast : (127 : UInt32).toNat = 127 := rfl
    omega
  obtain ⟨byte, hbyte⟩ := List.length_eq_one_iff.mp hsize
  simp [Text.encode, hbyte]

/-- A text is read as a span exactly if it spells this span once the white space around it is
trimmed: by a number of less than 64 bits, alone for seconds or with a unit behind it, where the
product has to fit 64 bits as well. Every other text is refused, and so is every text with
characters that are neither ASCII nor white space. Where the last letter of a text is looked at
as its unit, it is its last byte, and a text is left in front of it. -/
theorem parse?_eq_some_iff_spells :
    (∀ s d, parse? s = some d ↔ Spells (Text.trimChars s.toList) d) ∧
    (∀ s, parse? s = none ↔ ∀ d, ¬ Spells (Text.trimChars s.toList) d) ∧
    (∀ s, (∃ c ∈ Text.trimChars s.toList, 128 ≤ c.toNat ∧ Text.isBlank c = false) →
      parse? s = none) ∧
    ∀ (front : List Char) (unit : Char), unit.isAlpha = true →
      (Text.encode (String.ofList (front ++ [unit]))).dropLast =
        Text.encode (String.ofList front) := by
  have hnone : ∀ s, parse? s = none ↔ ∀ d, ¬ Spells (Text.trimChars s.toList) d := by
    intro s
    simp only [← parse?_eq_some, Option.eq_none_iff_forall_ne_some, ne_eq]
  refine ⟨fun s d => parse?_eq_some, hnone, ?_, fun front unit => dropLast_encode_of_isAlpha front⟩
  rintro s ⟨c, hc, hascii, hblank⟩
  refine (hnone s).mpr fun d h => ?_
  rcases h.ascii c hc with hlt | hb
  · omega
  · rw [hblank] at hb
    cases hb

/-- Minutes with a plus sign and a wide blank in front of the unit, which is the last byte. A
micro sign is neither ASCII nor white space. -/
theorem parse?_eq_some_iff_spells_minutes :
    let front : List Char := ['+', '9', '0', '\u2003']
    Spells (front ++ ['M']) (.seconds 5400) ∧
    parse? "\t+90\u2003M\n" = some (.seconds 5400) ∧
    ((∃ c ∈ Text.trimChars "5 µs".toList, 128 ≤ c.toNat ∧ Text.isBlank c = false) ∧
      parse? "5 µs" = none) ∧
    'M'.isAlpha = true ∧
    (Text.encode (String.ofList (front ++ ['M']))).dropLast =
      Text.encode (String.ofList front) := by
  intro front
  obtain ⟨hread, -, hforeign, hcut⟩ := parse?_eq_some_iff_spells
  have hcount : SpellsCount ['+', '9', '0'] 90 :=
    ⟨['9', '0'], .inr rfl, by simp, List.all_eq_true.mp rfl, by decide, by decide⟩
  have hgap : ∀ c ∈ ['\u2003'], Text.isBlank c = true := List.all_eq_true.mp rfl
  have hunit : ('M', 60) ∈ letterUnits := by decide
  have hspells : Spells (front ++ ['M']) (.seconds 5400) := .letter hcount hgap hunit (by decide)
  have hmicro : ∃ c ∈ Text.trimChars "5 µs".toList, 128 ≤ c.toNat ∧ Text.isBlank c = false :=
    ⟨'µ', by decide, by decide, by decide⟩
  exact ⟨hspells, (hread "\t+90\u2003M\n" _).mpr hspells, ⟨hmicro, hforeign _ hmicro⟩, rfl,
    hcut front 'M' rfl⟩

end Span

end ActivityFlow
