import ActivityFlow.Pattern.Basic

/-!
# Literal patterns

Where a text is read from one place on, a pattern of given characters ends behind them if the
text goes on with them, and nowhere else. So it is known what a pattern finds that consists of
characters and stands at the start of the text.
-/
namespace ActivityFlow

namespace Pattern

/-- A pattern for some characters, followed by another pattern. -/
def literal (cs : List Char) (rest : Pattern) : Pattern :=
  cs.foldr (fun c p => .seq (.char (.single c)) p) rest

variable {text : List Char} {place : Nat}

theorem mem_mergePlaces {n : Nat} (as bs : List Nat) :
    n ∈ mergePlaces as bs ↔ n ∈ as ∨ n ∈ bs := by
  induction as, bs using mergePlaces.induct with
  | case1 bs => simp [mergePlaces]
  | case2 a as => simp [mergePlaces]
  | case3 a as b bs hlt ih => simp [mergePlaces, hlt, ih, or_assoc]
  | case4 a as b bs hlt hgt ih =>
    simp only [mergePlaces, hlt, hgt, if_false, if_true, List.mem_cons, ih]
    exact or_left_comm
  | case5 a as b bs hlt hgt ih =>
    obtain rfl : a = b := by omega
    simp only [mergePlaces, hlt, if_false, List.mem_cons, ih]
    by_cases hn : n = a
    · simp [hn]
    · simp [hn]

theorem stepExactly_nil {step : List Nat → List Nat} (h : step [] = []) (n : Nat) :
    stepExactly step n [] = [] := by
  cases n with
  | zero => rfl
  | succ n => simp [stepExactly, h]

theorem stepUpTo_nil {step : List Nat → List Nat} (h : step [] = []) (n : Nat) :
    stepUpTo step n [] = [] := by
  cases n with
  | zero => rfl
  | succ n => simp [stepUpTo, h, mergePlaces]

@[simp] theorem ends_nil (text : Array Char) (p : Pattern) : ends text p [] = [] := by
  induction p with
  | empty => rfl
  | char set => rfl
  | anchor a => rfl
  | seq p q ihp ihq => rw [ends, ihp, ihq]
  | alt p q ihp ihq => rw [ends, ihp, ihq, mergePlaces]
  | times p least most ih =>
    simp only [ends]
    rw [stepExactly_nil ih, stepUpTo_nil ih]
  | group p ih => rw [ends, ih]

theorem ends_single (c : Char) (text : List Char) (place : Nat) :
    ends text.toArray (.char (.single c)) [place] =
      if text[place]? = some c then [place + 1] else [] := by
  cases hget : text[place]? with
  | none => simp [ends, afterChar, hget]
  | some d =>
    by_cases hcd : c = d
    · simp [ends, afterChar, hget, hcd]
    · simp [ends, afterChar, hget, hcd, Ne.symm hcd]

theorem cons_prefix_drop (c : Char) (cs text : List Char) (place : Nat) :
    c :: cs <+: text.drop place ↔ text[place]? = some c ∧ cs <+: text.drop (place + 1) := by
  by_cases hlt : place < text.length
  · rw [List.drop_eq_getElem_cons hlt, List.cons_prefix_cons, List.getElem?_eq_getElem hlt]
    simp [eq_comm]
  · rw [List.drop_eq_nil_of_le (by omega), List.getElem?_eq_none (by omega)]
    simp

/-- Where the text goes on with the characters, the pattern that follows them begins. -/
theorem ends_literal (cs : List Char) (rest : Pattern) (text : List Char) (place : Nat) :
    ends text.toArray (literal cs rest) [place] =
      if cs <+: text.drop place then ends text.toArray rest [place + cs.length] else [] := by
  induction cs generalizing place with
  | nil => simp [literal]
  | cons c cs ih =>
    have hstep : literal (c :: cs) rest = .seq (.char (.single c)) (literal cs rest) := rfl
    rw [hstep, ends, ends_single]
    by_cases hget : text[place]? = some c
    · rw [if_pos hget, ih, List.length_cons]
      simp only [cons_prefix_drop, hget, true_and]
      rw [Nat.add_assoc, Nat.add_comm 1]
    · rw [if_neg hget, ends_nil, if_neg]
      rw [cons_prefix_drop]
      exact fun h => hget h.1

/-- The last character may be the end of the pattern. -/
theorem ends_word (cs : List Char) (c : Char) (text : List Char) (place : Nat) :
    ends text.toArray (literal cs (.char (.single c))) [place] =
      if cs ++ [c] <+: text.drop place then [place + (cs.length + 1)] else [] := by
  have hempty : literal (cs ++ [c]) .empty = literal cs (.seq (.char (.single c)) .empty) := by
    simp [literal]
  have hends := ends_literal (cs ++ [c]) .empty text place
  rw [hempty, ends_literal, List.length_append] at hends
  rw [ends_literal]
  exact hends

/-- A pattern that stands at the start of the text begins at the first place only. -/
theorem occursIn_textStart (p : Pattern) (s : String) :
    occursIn (.seq (.anchor .textStart) p) s = true ↔ ends s.toList.toArray p [0] ≠ [] := by
  have hstart : (List.range (s.toList.toArray.size + 1)).filter
      (Anchor.textStart.holds s.toList.toArray) = [0] := by
    rw [List.range_succ_eq_map, List.filter_cons, List.filter_map]
    have hlater : (List.range s.toList.toArray.size).filter
        (Anchor.textStart.holds s.toList.toArray ∘ Nat.succ) = [] := by
      rw [List.filter_eq_nil_iff]
      intro place hplace
      have hlt : place < s.toList.length := by simpa using hplace
      simp [Anchor.holds, Anchor.admits, List.getElem?_eq_getElem hlt]
    rw [hlater]
    rfl
  simp only [occursIn, ends, hstart]
  simp

/-- Characters from the start to the end of the text. -/
theorem occursIn_whole (cs : List Char) (s : String) :
    occursIn (.seq (.anchor .textStart) (literal cs (.anchor .textEnd))) s = true ↔
      s.toList = cs := by
  rw [occursIn_textStart, ends_literal, List.drop_zero]
  by_cases hstarts : cs <+: s.toList
  · obtain ⟨rest, hrest⟩ := hstarts
    rw [if_pos ⟨rest, hrest⟩, ← hrest]
    cases rest with
    | nil => simp [ends, Anchor.holds, Anchor.admits]
    | cons c rest => simp [ends, Anchor.holds, Anchor.admits]
  · rw [if_neg hstarts]
    simp only [ne_eq, not_true_eq_false, false_iff]
    rintro rfl
    exact hstarts (List.prefix_refl _)

theorem concat_prefix_iff {cs text : List Char} {c : Char} :
    cs ++ [c] <+: text ↔ cs <+: text ∧ text[cs.length]? = some c := by
  constructor
  · rintro ⟨rest, rfl⟩
    refine ⟨⟨c :: rest, by simp⟩, by simp⟩
  · rintro ⟨⟨rest, rfl⟩, hget⟩
    cases rest with
    | nil => simp at hget
    | cons d rest =>
      obtain rfl : d = c := by simpa using hget
      exact ⟨rest, by simp⟩

theorem ends_single_ne_nil {c : Char} {text : List Char} {places : List Nat} :
    ends text.toArray (.char (.single c)) places ≠ [] ↔
      ∃ place ∈ places, text[place]? = some c := by
  simp only [ends, ne_eq, List.filterMap_eq_nil_iff, Classical.not_forall, exists_prop]
  refine exists_congr fun place => and_congr_right fun _ => ?_
  cases hget : text[place]? with
  | none => simp [afterChar, hget]
  | some d =>
    by_cases hcd : c = d
    · simp [afterChar, hget, hcd]
    · simp [afterChar, hget, hcd, Ne.symm hcd]

/-- One of two words at the start of the text, and a character behind it. -/
theorem occursIn_either (cs ds : List Char) (c d e : Char) (s : String) :
    occursIn (.seq (.anchor .textStart) (.seq
      (.group (.alt (literal cs (.char (.single c))) (literal ds (.char (.single d)))))
      (.char (.single e)))) s = true ↔
    cs ++ [c, e] <+: s.toList ∨ ds ++ [d, e] <+: s.toList := by
  have hword : ∀ (cs : List Char) (c : Char), cs ++ [c, e] <+: s.toList ↔
      cs ++ [c] <+: s.toList ∧ s.toList[cs.length + 1]? = some e := by
    intro cs c
    rw [show cs ++ [c, e] = (cs ++ [c]) ++ [e] by simp, concat_prefix_iff]
    simp
  rw [occursIn_textStart, ends, ends_single_ne_nil, ends, ends, ends_word, ends_word, hword, hword]
  simp only [mem_mergePlaces, List.drop_zero, Nat.zero_add, List.mem_ite_nil_right,
    List.mem_singleton]
  constructor
  · rintro ⟨place, ⟨hstarts, rfl⟩ | ⟨hstarts, rfl⟩, he⟩
    · exact .inl ⟨hstarts, he⟩
    · exact .inr ⟨hstarts, he⟩
  · rintro (⟨hstarts, he⟩ | ⟨hstarts, he⟩)
    · exact ⟨_, .inl ⟨hstarts, rfl⟩, he⟩
    · exact ⟨_, .inr ⟨hstarts, rfl⟩, he⟩

end Pattern

end ActivityFlow
