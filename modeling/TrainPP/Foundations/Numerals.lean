import Mathlib.Data.List.Basic

/-!
# Numerals joined by dots

A list of numbers is determined by its decimal numerals joined by dots (`dotted_injective`): a
numeral has no dot in it, so that the string splits into the numerals, and a numeral determines its
number.
-/

namespace TrainPP.Numerals

/-- The decimal numerals of the numbers of a list, joined by dots. -/
def dotted (l : List ℕ) : String := ".".intercalate (l.map toString)

theorem toList_toString (n : ℕ) : (toString n).toList = Nat.toDigits 10 n := Nat.toList_repr

theorem toString_injective : Function.Injective (toString : ℕ → String) := by
  intro m n h
  have hdigits := congrArg String.toList h
  rw [toList_toString, toList_toString] at hdigits
  rw [← Nat.ofDigitChars_ten_toDigits (n := m), hdigits, Nat.ofDigitChars_ten_toDigits]

theorem dot_notMem_toString (n : ℕ) : '.' ∉ (toString n).toList := by
  rw [toList_toString]
  intro h
  exact absurd (Nat.isDigit_of_mem_toDigits (by decide) (by decide) h) (by decide)

/-- The string splits at the dots into the numerals. -/
theorem split_dotted (l : List ℕ) :
    ((dotted l).split '.').toList.map (·.copy) = if l = [] then [""] else l.map toString := by
  have hdot : ∀ s ∈ l.map toString, '.' ∉ s.toList := by
    simpa using fun n _ => dot_notMem_toString n
  refine (String.toList_split_intercalate hdot).trans ?_
  cases l <;> rfl

theorem map_toString_ne (l : List ℕ) : l.map toString ≠ [""] := by
  intro h
  obtain ⟨n, -, hn⟩ := List.mem_map.1 (h ▸ List.mem_singleton_self "" : "" ∈ l.map toString)
  exact Nat.repr_ne_empty hn

/-- **Numbers joined by dots can be told apart.** -/
theorem dotted_injective : Function.Injective dotted := by
  intro l m h
  have hsplit := split_dotted l
  rw [h, split_dotted m] at hsplit
  by_cases hl : l = []
  · by_cases hm : m = []
    · rw [hl, hm]
    · rw [if_pos hl, if_neg hm] at hsplit
      exact absurd hsplit (map_toString_ne m)
  · by_cases hm : m = []
    · rw [if_neg hl, if_pos hm] at hsplit
      exact absurd hsplit.symm (map_toString_ne l)
    · rw [if_neg hl, if_neg hm] at hsplit
      exact (List.map_injective_iff.2 toString_injective hsplit).symm

end TrainPP.Numerals
