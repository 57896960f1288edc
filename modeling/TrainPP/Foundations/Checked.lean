import Mathlib.Data.List.Basic

/-!
# Checked access to a vector

Reading an element, taking a subrange and reading the last element of a vector are undefined
outside the vector's bounds. Here each of them is a function to `Except Fault`, whose error names
the access that left the bounds; a computation built from them returns `ok` exactly when none of
its accesses did.
-/

universe u

namespace TrainPP.Checked

/-- An access outside the bounds of a vector. -/
inductive Fault
  /-- The element `i` of a vector of `size` elements. -/
  | index (i size : ℕ)
  /-- The range from `first` to before `last` of a vector of `size` elements. -/
  | range (first last size : ℕ)
  /-- The last element of a vector without elements. -/
  | back
  deriving DecidableEq, Repr

instance decidableEqExcept {ε β : Type*} [DecidableEq ε] [DecidableEq β] :
    DecidableEq (Except ε β)
  | .ok a, .ok b => decidable_of_iff (a = b) (by simp)
  | .ok _, .error _ => isFalse (by simp)
  | .error _, .ok _ => isFalse (by simp)
  | .error d, .error e => decidable_of_iff (d = e) (by simp)

variable {α : Type*}

/-- The element `i` of `v`. -/
def readAt (v : List α) (i : ℕ) : Except Fault α :=
  match v[i]? with
  | some a => .ok a
  | none => .error (.index i v.length)

/-- The elements of `v` from `first` to before `last`. -/
def subrange (v : List α) (first last : ℕ) : Except Fault (List α) :=
  if first ≤ last ∧ last ≤ v.length then .ok ((v.take last).drop first)
  else .error (.range first last v.length)

/-- The last element of `v`. -/
def back (v : List α) : Except Fault α :=
  match v.getLast? with
  | some a => .ok a
  | none => .error .back

/-! ## When an access is in bounds -/

@[simp] theorem readAt_eq_ok_iff {v : List α} {i : ℕ} {a : α} :
    readAt v i = .ok a ↔ v[i]? = some a := by
  unfold readAt
  cases v[i]? <;> simp

theorem subrange_eq_ok_iff {v w : List α} {first last : ℕ} :
    subrange v first last = .ok w ↔
      (first ≤ last ∧ last ≤ v.length) ∧ (v.take last).drop first = w := by
  unfold subrange
  split_ifs with h <;> simp [h]

/-! ## Sequencing -/

section Bind

variable {ε : Type*} {β γ : Type u}

@[simp] theorem ok_bind (a : β) (f : β → Except ε γ) : (Except.ok a >>= f) = f a := rfl

@[simp] theorem error_bind (e : ε) (f : β → Except ε γ) :
    ((Except.error e : Except ε β) >>= f) = .error e := rfl

theorem error_ne_ok {e : ε} {b : β} : (Except.error e : Except ε β) ≠ .ok b := by
  intro h
  cases h

theorem bind_eq_ok_iff {x : Except ε β} {f : β → Except ε γ} {c : γ} :
    (x >>= f) = .ok c ↔ ∃ b, x = .ok b ∧ f b = .ok c := by
  cases x <;> simp

end Bind

/-! ## The result without the fault -/

section ToOption

variable {ε : Type*} {β γ : Type u}

@[simp] theorem toOption_ok (b : β) : (Except.ok b : Except ε β).toOption = some b := rfl

@[simp] theorem toOption_error (e : ε) : (Except.error e : Except ε β).toOption = none := rfl

@[simp] theorem toOption_pure (b : β) : (pure b : Except ε β).toOption = some b := rfl

@[simp] theorem toOption_eq_some_iff {x : Except ε β} {b : β} :
    x.toOption = some b ↔ x = .ok b := by
  cases x <;> simp

theorem exists_eq_ok_iff {x : Except ε β} : (∃ b, x = .ok b) ↔ x.toOption.isSome := by
  cases x <;> simp

@[simp] theorem toOption_bind (x : Except ε β) (f : β → Except ε γ) :
    (x >>= f).toOption = x.toOption.bind fun b => (f b).toOption := by
  cases x <;> rfl

@[simp] theorem toOption_readAt (v : List α) (i : ℕ) : (readAt v i).toOption = v[i]? := by
  unfold readAt
  cases v[i]? <;> rfl

@[simp] theorem toOption_back (v : List α) : (back v).toOption = v.getLast? := by
  unfold back
  cases v.getLast? <;> rfl

end ToOption

end TrainPP.Checked
