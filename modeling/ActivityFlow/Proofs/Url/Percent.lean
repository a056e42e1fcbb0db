import ActivityFlow.Url.Percent

/-!
# Reading percent forms

A percent form stands for the bytes that it was written for. If the percent sign itself is
encoded, every text is read back from its percent form, so that different texts have different
percent forms. A slash that is encoded does not stand in a percent form at all.
-/
namespace ActivityFlow

/-- Different texts have different bytes. -/
theorem Text.encode_injective {s t : String} (h : Text.encode s = Text.encode t) : s = t := by
  have hbytes : s.toList.utf8Encode = t.toList.utf8Encode := congrArg List.toByteArray h
  rw [← String.toByteArray_ofList, ← String.toByteArray_ofList, String.ofList_toList,
    String.ofList_toList] at hbytes
  exact String.toByteArray_inj.mp hbytes

namespace Url

/-! ## Digits -/

theorem hexDigit?_upperHexDigit {n : Nat} (h : n < 16) :
    Text.hexDigit? (upperHexDigit n) = some n := by
  have hall : ∀ digit : Fin 16, Text.hexDigit? (upperHexDigit digit) = some digit.val := by decide
  exact hall ⟨n, h⟩

theorem upperHexDigit_ne_slash {n : Nat} (h : n < 16) : upperHexDigit n ≠ '/' := by
  have hall : ∀ digit : Fin 16, upperHexDigit digit ≠ '/' := by decide
  exact hall ⟨n, h⟩

theorem high_lt (b : UInt8) : b.toNat / 16 < 16 := by
  have hlt := b.toNat_lt
  omega

theorem low_lt (b : UInt8) : b.toNat % 16 < 16 := Nat.mod_lt _ (by decide)

/-! ## Reading -/

theorem percentDecode_percentByte (b : UInt8) (rest : List Char) :
    percentDecode (percentByte b ++ rest) = b :: percentDecode rest := by
  simp only [percentByte, List.cons_append, List.nil_append, percentDecode,
    hexDigit?_upperHexDigit (high_lt b), hexDigit?_upperHexDigit (low_lt b)]
  rw [Nat.div_add_mod', UInt8.ofNat_toNat]

theorem percentDecode_percentBytes (bytes : List UInt8) (rest : List Char) :
    percentDecode (bytes.flatMap percentByte ++ rest) = bytes ++ percentDecode rest := by
  induction bytes with
  | nil => rfl
  | cons b bytes ih =>
    rw [List.flatMap_cons, List.append_assoc, percentDecode_percentByte, ih, List.cons_append]

theorem percentDecode_cons {c : Char} (h : c ≠ '%') (rest : List Char) :
    percentDecode (c :: rest) = String.utf8EncodeChar c ++ percentDecode rest := by
  rw [percentDecode]
  intro a b rest' hc
  exact absurd hc h

/-- What was written in percent form is read back. -/
theorem percentDecode_percentEncode {encoded : Char → Bool} (h : encoded '%' = true)
    (cs : List Char) :
    percentDecode (percentEncode encoded cs) = cs.flatMap String.utf8EncodeChar := by
  induction cs with
  | nil => rfl
  | cons c rest ih =>
    have hcons : percentEncode encoded (c :: rest) =
        (if encoded c then percentChar c else [c]) ++ percentEncode encoded rest := rfl
    rw [hcons, List.flatMap_cons]
    by_cases hc : encoded c = true
    · rw [if_pos hc, percentChar, percentDecode_percentBytes, ih]
    · have hne : c ≠ '%' := by
        rintro rfl
        exact hc h
      rw [if_neg hc, List.singleton_append, percentDecode_cons hne, ih]

theorem slash_notMem_percentEncode {encoded : Char → Bool} (h : encoded '/' = true)
    (cs : List Char) : '/' ∉ percentEncode encoded cs := by
  intro hmem
  obtain ⟨c, -, hc⟩ := List.mem_flatMap.mp hmem
  by_cases hencoded : encoded c = true
  · rw [if_pos hencoded] at hc
    obtain ⟨b, -, hb⟩ := List.mem_flatMap.mp hc
    simp only [percentByte, List.mem_cons, List.not_mem_nil, or_false] at hb
    rcases hb with hb | hb | hb
    · exact absurd hb (by decide)
    · exact upperHexDigit_ne_slash (high_lt b) hb.symm
    · exact upperHexDigit_ne_slash (low_lt b) hb.symm
  · rw [if_neg hencoded, List.mem_singleton] at hc
    subst hc
    exact hencoded h

end Url

end ActivityFlow
