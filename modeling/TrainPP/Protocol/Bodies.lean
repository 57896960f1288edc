import Mathlib.Data.List.Induction
import TrainPP.Foundations.Checksums
import TrainPP.Protocol.Messages

/-!
# LAN_X bodies and their checksums

The exclusive disjunction of bytes is self-inverse, so that a LAN_X body passes the test of its
checksum exactly when it is balanced (`LanX.checkChecksum_eq_true_iff`,
`LanX.intact_iff_isBalanced`), and `appendChecksum` is what balances a body.
-/

namespace TrainPP

open Checked Checksums

theorem selfInverse_xor : SelfInverse (fun a b : UInt8 => a ^^^ b) 0 where
  assoc := UInt8.xor_assoc
  comm := UInt8.xor_comm
  op_unit _ := UInt8.xor_zero
  op_self _ := UInt8.xor_self

/-- A list of bytes whose exclusive disjunction is zero. -/
abbrev IsBalancedBody (data : List UInt8) : Prop := IsBalanced (fun a b : UInt8 => a ^^^ b) 0 data

theorem isBalancedBody_concat_iff {d : List UInt8} {c : UInt8} :
    IsBalancedBody (d ++ [c]) ↔ c = checksum d :=
  selfInverse_xor.isBalanced_concat_iff

theorem isBalancedBody_appendChecksum (d : List UInt8) : IsBalancedBody (appendChecksum d) :=
  isBalancedBody_concat_iff.2 rfl

theorem appendChecksum_ne_nil (d : List UInt8) : appendChecksum d ≠ [] :=
  List.append_ne_nil_of_right_ne_nil d (List.cons_ne_nil _ _)

namespace LanX

theorem intact_iff_isBalanced {data : List UInt8} :
    Intact data ↔ data ≠ [] ∧ IsBalancedBody data := by
  induction data using List.reverseRecOn with
  | nil => exact iff_of_false (fun h => ne_nil_of_intact h rfl) fun h => h.1 rfl
  | append_singleton d c =>
    rw [Intact, List.getLast?_concat, List.dropLast_concat, isBalancedBody_concat_iff,
      Option.some.injEq]
    exact (and_iff_right (List.append_ne_nil_of_right_ne_nil d (List.cons_ne_nil _ _))).symm

/-- The test of the checksum on a body that is not empty. -/
theorem checkChecksum_of_ne_nil {data : List UInt8} (h : data ≠ []) :
    checkChecksum data = .ok (decide (IsBalancedBody data)) := by
  rw [← toOption_eq_some_iff, toOption_checkChecksum h]
  exact congrArg some (decide_eq_decide.2 (intact_iff_isBalanced.trans (and_iff_right h)))

theorem checkChecksum_eq_true_iff {data : List UInt8} :
    checkChecksum data = .ok true ↔ data ≠ [] ∧ IsBalancedBody data := by
  by_cases h : data = []
  · subst h
    exact iff_of_false error_ne_ok fun hb => hb.1 rfl
  · rw [checkChecksum_of_ne_nil h]
    simp [h]

theorem checkChecksum_eq_false_iff {data : List UInt8} :
    checkChecksum data = .ok false ↔ data ≠ [] ∧ ¬IsBalancedBody data := by
  by_cases h : data = []
  · subst h
    exact iff_of_false error_ne_ok fun hb => hb.1 rfl
  · rw [checkChecksum_of_ne_nil h]
    simp [h]

/-- A body is intact when it passes the test. -/
theorem checkChecksum_eq_true_iff_intact {data : List UInt8} :
    checkChecksum data = .ok true ↔ Intact data :=
  checkChecksum_eq_true_iff.trans intact_iff_isBalanced.symm

theorem checkChecksum_appendChecksum (d : List UInt8) :
    checkChecksum (appendChecksum d) = .ok true :=
  checkChecksum_eq_true_iff.2 ⟨appendChecksum_ne_nil d, isBalancedBody_appendChecksum d⟩

end LanX

end TrainPP
