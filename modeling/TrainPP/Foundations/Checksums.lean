import Mathlib.Data.List.Basic

/-!
# Checksums of a self-inverse operation

The *total* of a list is its fold under a commutative operation in which every element is its own
inverse, such as the exclusive disjunction of words. A list is *balanced* when its total is the
unit; a list becomes balanced when its total is put behind it, and in no other way
(`isBalanced_concat_iff`). Changing one element of a list changes its total (`total_set_eq_iff`), so
that a balanced list is no longer balanced.
-/

namespace TrainPP.Checksums

variable {α : Type*}

/-- A commutative operation with unit `e` in which every element is its own inverse. -/
structure SelfInverse (op : α → α → α) (e : α) : Prop where
  assoc : ∀ a b c, op (op a b) c = op a (op b c)
  comm : ∀ a b, op a b = op b a
  op_unit : ∀ a, op a e = a
  op_self : ∀ a, op a a = e

/-- The fold of a list. -/
def total (op : α → α → α) (e : α) (l : List α) : α := l.foldl op e

/-- The total of a list is the unit. -/
def IsBalanced (op : α → α → α) (e : α) (l : List α) : Prop := total op e l = e

instance [DecidableEq α] (op : α → α → α) (e : α) (l : List α) : Decidable (IsBalanced op e l) :=
  inferInstanceAs (Decidable (total op e l = e))

namespace SelfInverse

variable {op : α → α → α} {e : α} (h : SelfInverse op e)
include h

theorem unit_op (a : α) : op e a = a := (h.comm e a).trans (h.op_unit a)

theorem op_op_cancel (a b : α) : op a (op a b) = b := by
  rw [← h.assoc, h.op_self, h.unit_op]

theorem op_left_inj {a b c : α} : op a b = op a c ↔ b = c := by
  constructor
  · intro heq
    rw [← h.op_op_cancel a b, heq, h.op_op_cancel]
  · rintro rfl
    rfl

/-- Two elements cancel exactly when they are equal. -/
theorem op_eq_unit_iff {a b : α} : op a b = e ↔ b = a := by
  rw [← h.op_self a, h.op_left_inj]

/-! ## Totals -/

theorem foldl_eq_op_total (a : α) (l : List α) : l.foldl op a = op a (total op e l) := by
  induction l generalizing a with
  | nil => exact (h.op_unit a).symm
  | cons b l ih =>
    rw [total, List.foldl_cons, List.foldl_cons, ih, ih (op e b), h.unit_op, h.assoc]

theorem total_cons (a : α) (l : List α) : total op e (a :: l) = op a (total op e l) := by
  rw [total, List.foldl_cons, h.unit_op, h.foldl_eq_op_total]

theorem total_append (l k : List α) :
    total op e (l ++ k) = op (total op e l) (total op e k) := by
  rw [total, List.foldl_append, h.foldl_eq_op_total]
  rfl

theorem total_concat (l : List α) (a : α) : total op e (l ++ [a]) = op (total op e l) a := by
  rw [h.total_append, h.total_cons]
  exact congrArg (op _) (h.op_unit a)

/-- **The total is the one element that balances a list.** -/
theorem isBalanced_concat_iff {l : List α} {a : α} :
    IsBalanced op e (l ++ [a]) ↔ a = total op e l := by
  rw [IsBalanced, h.total_concat, h.op_eq_unit_iff]

/-- The total after an element has been replaced. -/
theorem total_set {l : List α} {i : ℕ} (hi : i < l.length) (b : α) :
    total op e (l.set i b) = op (total op e l) (op l[i] b) := by
  induction l generalizing i with
  | nil => exact absurd hi (Nat.not_lt_zero i)
  | cons a l ih =>
    cases i with
    | zero =>
      rw [List.set_cons_zero, h.total_cons, h.total_cons, List.getElem_cons_zero, h.assoc,
        h.comm (total op e l), ← h.assoc, ← h.assoc, h.op_self, h.unit_op]
    | succ i =>
      rw [List.set_cons_succ, h.total_cons, h.total_cons, List.getElem_cons_succ,
        ih (Nat.lt_of_succ_lt_succ hi), h.assoc]

/-- **A change of one element shows in the total.** -/
theorem total_set_eq_iff {l : List α} {i : ℕ} (hi : i < l.length) {b : α} :
    total op e (l.set i b) = total op e l ↔ b = l[i] := by
  have hunit : total op e (l.set i b) = total op e l ↔
      op (total op e l) (op l[i] b) = op (total op e l) e := by
    rw [h.total_set hi, h.op_unit]
  rw [hunit, h.op_left_inj, h.op_eq_unit_iff]

theorem isBalanced_set_iff {l : List α} (hl : IsBalanced op e l) {i : ℕ} (hi : i < l.length)
    {b : α} : IsBalanced op e (l.set i b) ↔ b = l[i] := by
  rw [← h.total_set_eq_iff hi, IsBalanced, hl]

end SelfInverse

end TrainPP.Checksums
