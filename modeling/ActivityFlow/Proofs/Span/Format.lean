import ActivityFlow.Span

/-!
# Spans as settings

A span of whole seconds, or of a number of whole milliseconds that fits 64 bits, is written
as a number with a unit from which the same span is read. Whatever is read is such a span.
-/
namespace ActivityFlow

namespace Text

theorem isBlank_eq_false_of_isDigit {c : Char} (h : c.isDigit = true) : isBlank c = false := by
  rw [Char.isDigit_iff_toNat] at h
  have hlow : 48 ≤ c.toNat := h.1
  have hhigh : c.toNat ≤ 57 := h.2
  simp only [isBlank, Bool.or_eq_false_iff, Bool.and_eq_false_iff, decide_eq_false_iff_not,
    beq_eq_false_iff_ne]
  omega

theorem dropWhile_isBlank {c : Char} {cs : List Char} (h : isBlank c = false) :
    (c :: cs).dropWhile isBlank = c :: cs := by
  rw [List.dropWhile_cons_of_neg (by simp [h])]

/-- Nothing is trimmed from a text with neither a blank at its start nor one at its end. -/
theorem trimChars_of_ends {first last : Char} {cs : List Char} (hfirst : isBlank first = false)
    (hlast : isBlank last = false) :
    trimChars (first :: (cs ++ [last])) = first :: (cs ++ [last]) := by
  rw [trimChars, dropWhile_isBlank hfirst, trimEndChars]
  have hrev : (first :: (cs ++ [last])).reverse = last :: (cs.reverse ++ [first]) := by simp
  rw [hrev, dropWhile_isBlank hlast]
  simp

theorem trimChars_of_digits {cs : List Char} (h : ∀ c ∈ cs, c.isDigit = true) :
    trimChars cs = cs := by
  have hfront : ∀ ds : List Char, (∀ c ∈ ds, c.isDigit = true) → ds.dropWhile isBlank = ds := by
    intro ds hds
    cases ds with
    | nil => rfl
    | cons c rest =>
      exact dropWhile_isBlank (isBlank_eq_false_of_isDigit (hds c (List.mem_cons_self ..)))
  rw [trimChars, hfront cs h, trimEndChars, hfront cs.reverse (by simpa using h),
    List.reverse_reverse]

theorem decimalValue_eq (cs : List Char) : decimalValue cs = Nat.ofDigitChars 10 cs 0 := by
  have hfold : ∀ (cs : List Char) (start : Nat),
      cs.foldl (fun n c => n * 10 + (c.toNat - 48)) start = Nat.ofDigitChars 10 cs start := by
    intro cs
    induction cs with
    | nil => intro start; simp
    | cons c rest ih =>
      intro start
      rw [List.foldl_cons, ih, Nat.ofDigitChars_cons, Nat.mul_comm]
      rfl
  rw [decimalValue, hfold]

theorem decimalValue_toDigits (n : Nat) : decimalValue (Nat.toDigits 10 n) = n := by
  rw [decimalValue_eq, Nat.ofDigitChars_ten_toDigits]

end Text

namespace Span

theorem isDigit_of_mem_toDigits {n : Nat} {c : Char} (h : c ∈ Nat.toDigits 10 n) :
    c.isDigit = true :=
  Nat.isDigit_of_mem_toDigits (by decide) (by decide) h

theorem readCount?_of_digits {cs : List Char} (hne : cs ≠ [])
    (hdigits : ∀ c ∈ cs, c.isDigit = true) :
    readCount? cs =
      if Text.decimalValue cs < words64 then some (Text.decimalValue cs) else none := by
  obtain ⟨c, rest, rfl⟩ := List.exists_cons_of_ne_nil hne
  have hplus : c ≠ '+' := by
    rintro rfl
    exact absurd (hdigits '+' (List.mem_cons_self ..)) (by decide)
  have hall : (c :: rest).all Char.isDigit = true := List.all_eq_true.mpr hdigits
  rw [readCount?]
  · simp only [List.isEmpty_cons, hall, Bool.not_true, Bool.or_false, Bool.false_eq_true, if_false]
  · intro more heq
    exact hplus (List.cons.inj heq).1

theorem readCount?_toDigits (n : Nat) :
    readCount? (Text.trimChars (Nat.toDigits 10 n)) = if n < words64 then some n else none := by
  rw [Text.trimChars_of_digits fun c hc => isDigit_of_mem_toDigits hc,
    readCount?_of_digits Nat.toDigits_ne_nil (fun c hc => isDigit_of_mem_toDigits hc),
    Text.decimalValue_toDigits]

theorem mk_eq_iff {n : Nat} {fits : n < words64 * nanosPerSecond} {d : Span} :
    ⟨n, fits⟩ = d ↔ d.nanoseconds = n := by
  cases d
  rw [mk.injEq, eq_comm]

theorem ofSeconds?_eq_some_iff {n : Nat} {d : Span} :
    ofSeconds? n = some d ↔ d.nanoseconds = n * nanosPerSecond := by
  rw [ofSeconds?]
  by_cases hn : n < words64
  · rw [dif_pos hn, Option.some.injEq, mk_eq_iff]
  · rw [dif_neg hn]
    refine ⟨nofun, fun h => ?_⟩
    have hfits := d.fits
    rw [h] at hfits
    exact absurd (Nat.lt_of_mul_lt_mul_right hfits) hn

/-- A number of milliseconds makes the span that has as many, but only if it fits 64 bits
itself. -/
theorem ofMillis?_eq_some_iff {n : Nat} {d : Span} :
    ofMillis? n = some d ↔ n < words64 ∧ d.nanoseconds = n * nanosPerMilli := by
  rw [ofMillis?]
  by_cases hn : n < words64
  · rw [dif_pos hn, Option.some.injEq, mk_eq_iff, and_iff_right hn]
  · rw [dif_neg hn]
    exact ⟨nofun, fun h => absurd h.1 hn⟩

/-- A span that settings can spell. -/
def Writable (d : Span) : Prop :=
  d.nanoseconds % nanosPerSecond = 0 ∨
    (d.nanoseconds % nanosPerMilli = 0 ∧ d.wholeMillis < words64)

theorem writable_of_ofSeconds? {n : Nat} {d : Span} (h : ofSeconds? n = some d) : d.Writable := by
  refine Or.inl ?_
  rw [ofSeconds?_eq_some_iff.mp h, Nat.mul_mod_left]

theorem writable_of_ofMillis? {n : Nat} {d : Span} (h : ofMillis? n = some d) : d.Writable := by
  obtain ⟨hn, hd⟩ := ofMillis?_eq_some_iff.mp h
  refine Or.inr ⟨by rw [hd, Nat.mul_mod_left], ?_⟩
  rwa [wholeMillis, hd, Nat.mul_div_cancel _ (by decide)]

theorem writable_of_parse? {s : String} {d : Span} (h : parse? s = some d) : d.Writable := by
  rw [parse?] at h
  generalize (Text.trimChars s.toList).reverse = cs at h
  unfold parseReversed? at h
  split at h
  · cases h
  · obtain ⟨n, -, hn⟩ := Option.bind_eq_some_iff.mp h
    exact writable_of_ofMillis? hn
  · split at h
    · obtain ⟨n, -, hn⟩ := Option.bind_eq_some_iff.mp h
      obtain ⟨factor, -, hfactor⟩ := Option.bind_eq_some_iff.mp hn
      exact writable_of_ofSeconds? hfactor
    · obtain ⟨n, -, hn⟩ := Option.bind_eq_some_iff.mp h
      exact writable_of_ofSeconds? hn

/-! ## Writing -/

theorem trimChars_number (n : Nat) {unit : List Char} {last : Char}
    (hlast : Text.isBlank last = false) :
    Text.trimChars (Nat.toDigits 10 n ++ unit ++ [last]) =
      Nat.toDigits 10 n ++ unit ++ [last] := by
  obtain ⟨first, rest, heq⟩ := List.exists_cons_of_ne_nil (Nat.toDigits_ne_nil (n := n) (b := 10))
  have hfirst : first.isDigit = true := by
    refine isDigit_of_mem_toDigits (n := n) ?_
    rw [heq]
    exact List.mem_cons_self ..
  have hcons : Nat.toDigits 10 n ++ unit ++ [last] = first :: (rest ++ unit ++ [last]) := by
    rw [heq]
    rfl
  rw [hcons, Text.trimChars_of_ends (Text.isBlank_eq_false_of_isDigit hfirst) hlast]

/-- A number of milliseconds is read back, unless it is too large. -/
theorem parse?_millis (n : Nat) : parse? (toString n ++ "ms") = ofMillis? n := by
  have hchars : (toString n ++ "ms").toList = Nat.toDigits 10 n ++ ['m'] ++ ['s'] := by
    simp [String.toList_append]
  rw [parse?, hchars, trimChars_number n (by decide)]
  have hrev : (Nat.toDigits 10 n ++ ['m'] ++ ['s']).reverse =
      's' :: 'm' :: (Nat.toDigits 10 n).reverse := by simp
  rw [hrev, parseReversed?, List.reverse_reverse, readCount?_toDigits]
  by_cases hn : n < words64
  · rw [if_pos hn]
    rfl
  · rw [if_neg hn, ofMillis?, dif_neg hn]
    rfl

theorem parse?_unit {n factor : Nat} {unit : Char} (h : n < words64)
    (hunit : unitSeconds? unit = some factor) (halpha : unit.isAlpha = true)
    (hblank : Text.isBlank unit = false) :
    parse? (toString n ++ String.singleton unit) = ofSeconds? (n * factor) := by
  have hchars : (toString n ++ String.singleton unit).toList =
      Nat.toDigits 10 n ++ [] ++ [unit] := by
    simp
  rw [parse?, hchars, trimChars_number n hblank]
  have hrev : (Nat.toDigits 10 n ++ [] ++ [unit]).reverse =
      unit :: (Nat.toDigits 10 n).reverse := by simp
  rw [hrev, parseReversed?]
  · rw [if_pos halpha, List.reverse_reverse, readCount?_toDigits, if_pos h, hunit]
    rfl
  · -- Only a unit of two letters has an `m` in front of its last letter.
    rintro more - heq
    have hm : 'm' ∈ Nat.toDigits 10 n := by
      rw [← List.mem_reverse, heq]
      exact List.mem_cons_self ..
    exact absurd (isDigit_of_mem_toDigits hm) (by decide)

theorem wholeSeconds_lt (d : Span) : d.wholeSeconds < words64 := by
  refine Nat.div_lt_of_lt_mul ?_
  rw [Nat.mul_comm]
  exact d.fits

theorem ofSeconds?_wholeSeconds {d : Span} (h : d.nanoseconds % nanosPerSecond = 0) :
    ofSeconds? d.wholeSeconds = some d :=
  ofSeconds?_eq_some_iff.mpr (Nat.div_mul_cancel (Nat.dvd_of_mod_eq_zero h)).symm

theorem ofMillis?_wholeMillis {d : Span} (h : d.nanoseconds % nanosPerMilli = 0)
    (hlt : d.wholeMillis < words64) : ofMillis? d.wholeMillis = some d :=
  ofMillis?_eq_some_iff.mpr ⟨hlt, (Nat.div_mul_cancel (Nat.dvd_of_mod_eq_zero h)).symm⟩

theorem parse?_format_of_seconds {d : Span} (h : d.subNanos = 0) : parse? d.format = some d := by
  have hseconds := ofSeconds?_wholeSeconds h
  have hlt := d.wholeSeconds_lt
  rw [format, if_neg (by simp [h])]
  generalize d.wholeSeconds = n at hseconds hlt
  have hunit : ∀ (factor : Nat) (unit : Char), n % factor = 0 →
      unitSeconds? unit = some factor → unit.isAlpha = true → Text.isBlank unit = false →
      parse? (toString (n / factor) ++ String.singleton unit) = some d := by
    intro factor unit hmod hu halpha hblank
    rw [parse?_unit (Nat.lt_of_le_of_lt (Nat.div_le_self ..) hlt) hu halpha hblank,
      Nat.div_mul_cancel (Nat.dvd_of_mod_eq_zero hmod), hseconds]
  simp only [Bool.and_eq_true, decide_eq_true_eq]
  by_cases hhours : n ≠ 0 ∧ n % 3600 = 0
  · rw [if_pos hhours]
    exact hunit 3600 'h' hhours.2 rfl rfl rfl
  rw [if_neg hhours]
  by_cases hminutes : n ≠ 0 ∧ n % 60 = 0
  · rw [if_pos hminutes]
    exact hunit 60 'm' hminutes.2 rfl rfl rfl
  · rw [if_neg hminutes]
    have hs := hunit 1 's' (Nat.mod_one n) rfl rfl rfl
    rwa [Nat.div_one] at hs

/-- What is written for a span is read as the same span if it has whole seconds only, and else
as its whole milliseconds. -/
theorem parse?_format_eq (d : Span) :
    parse? d.format = if d.subNanos = 0 then some d else ofMillis? d.wholeMillis := by
  by_cases h : d.subNanos = 0
  · rw [if_pos h, parse?_format_of_seconds h]
  · rw [if_neg h, format, if_pos h, parse?_millis]

theorem parse?_format {d : Span} (h : d.Writable) : parse? d.format = some d := by
  rw [parse?_format_eq]
  by_cases hsub : d.subNanos = 0
  · rw [if_pos hsub]
  · obtain ⟨hmillis, hlt⟩ := h.resolve_left hsub
    rw [if_neg hsub, ofMillis?_wholeMillis hmillis hlt]

theorem nanoseconds_of_parse?_format {d back : Span} (h : parse? d.format = some back) :
    back.nanoseconds = d.wholeMillis * nanosPerMilli := by
  rw [parse?_format_eq] at h
  by_cases hsub : d.subNanos = 0
  · rw [if_pos hsub] at h
    obtain rfl := Option.some.inj h
    rw [subNanos] at hsub
    rw [wholeMillis]
    simp only [nanosPerSecond, nanosPerMilli] at hsub ⊢
    omega
  · rw [if_neg hsub] at h
    exact (ofMillis?_eq_some_iff.mp h).2

/-- Nothing is read back for a span with a part of a second and too many milliseconds. -/
theorem parse?_format_eq_none_iff (d : Span) :
    parse? d.format = none ↔ d.subNanos ≠ 0 ∧ words64 ≤ d.wholeMillis := by
  rw [parse?_format_eq]
  by_cases hsub : d.subNanos = 0
  · simp [hsub]
  · by_cases hlt : d.wholeMillis < words64
    · simp [hsub, ofMillis?, hlt]
    · simp [hsub, ofMillis?, hlt, Nat.le_of_not_lt hlt]

/-- A span is read back from what is written for it exactly if it is a number of whole seconds,
or a number of whole milliseconds that fits 64 bits. What is read from a text is always such a
span, and a span with a part of a millisecond never is: what is read back for it are its whole
milliseconds. Nothing at all is read back only for a span with a part of a second whose
milliseconds do not fit 64 bits. -/
theorem parse?_format_eq_some_iff :
    (∀ d : Span, parse? d.format = some d ↔
      (∃ n, d.nanoseconds = n * nanosPerSecond) ∨
        ∃ n < words64, d.nanoseconds = n * nanosPerMilli) ∧
    (∀ s d, parse? s = some d → parse? d.format = some d) ∧
    (∀ d : Span, d.nanoseconds % nanosPerMilli ≠ 0 → parse? d.format ≠ some d) ∧
    (∀ d back : Span, parse? d.format = some back →
      back.nanoseconds = d.wholeMillis * nanosPerMilli) ∧
    ∀ d : Span, parse? d.format = none ↔ d.subNanos ≠ 0 ∧ words64 ≤ d.wholeMillis := by
  have hwritable : ∀ d : Span, parse? d.format = some d ↔ d.Writable :=
    fun d => ⟨writable_of_parse?, parse?_format⟩
  refine ⟨?_, ?_, ?_, fun d back => nanoseconds_of_parse?_format, parse?_format_eq_none_iff⟩
  · intro d
    rw [hwritable, Writable, wholeMillis]
    constructor
    · rintro (h | ⟨h, hlt⟩)
      · exact .inl ⟨_, (Nat.div_mul_cancel (Nat.dvd_of_mod_eq_zero h)).symm⟩
      · exact .inr ⟨_, hlt, (Nat.div_mul_cancel (Nat.dvd_of_mod_eq_zero h)).symm⟩
    · rintro (⟨n, h⟩ | ⟨n, hlt, h⟩)
      · exact .inl (by rw [h, Nat.mul_mod_left])
      · refine .inr ⟨by rw [h, Nat.mul_mod_left], ?_⟩
        rwa [h, Nat.mul_div_cancel _ (by decide)]
  · exact fun s d h => parse?_format (writable_of_parse? h)
  · intro d hpart h
    rcases (hwritable d).mp h with hseconds | ⟨hmillis, -⟩
    · simp only [nanosPerSecond, nanosPerMilli] at hseconds hpart
      omega
    · exact hpart hmillis

/-- A minute and a half is read from another spelling and then read back. A minute and a half
less a nanosecond comes back as its milliseconds. Half a second more than the largest number of
seconds is too long for that. -/
theorem parse?_format_eq_some_iff_half_minutes :
    let half : Span := ⟨90 * nanosPerSecond, by decide⟩
    let short : Span := ⟨90 * nanosPerSecond - 1, by decide⟩
    let back : Span := ⟨89999 * nanosPerMilli, by decide⟩
    let long : Span := ⟨(words64 - 1) * nanosPerSecond + 500000000, by decide⟩
    (parse? " +90000 ms" = some half ∧ parse? half.format = some half) ∧
    (short.nanoseconds % nanosPerMilli ≠ 0 ∧ parse? short.format ≠ some short) ∧
    (parse? short.format = some back ∧ back.nanoseconds = short.wholeMillis * nanosPerMilli) ∧
    parse? long.format = none := by
  intro half short back long
  obtain ⟨-, hread, hpart, hmillis, hnone⟩ := parse?_format_eq_some_iff
  have hhalf : parse? " +90000 ms" = some half := by rfl
  have hshort : short.nanoseconds % nanosPerMilli ≠ 0 := by decide
  have hback : parse? short.format = some back := by
    have hwhole : short.wholeMillis = 89999 := by decide
    rw [parse?_format_eq, if_neg (by decide), hwhole]
    rfl
  exact ⟨⟨hhalf, hread _ _ hhalf⟩, ⟨hshort, hpart short hshort⟩,
    ⟨hback, hmillis short back hback⟩, (hnone long).mpr (by decide)⟩

end Span

end ActivityFlow
