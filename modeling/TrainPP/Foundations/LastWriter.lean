import Mathlib.Data.List.Induction

/-!
# Registers in which the last writer wins

A register that each input either overwrites or leaves alone ends a run with the value of the last
input that wrote it, `lastSome`. A *mirrored* register is a pair of a cache and the register that
copies it: an input may also load both or copy the cache again (`Move`).

Inputs acting on any number of such registers satisfy the absorption law `x y x = y x` and
`x x = x`, and then feeding a list twice does what feeding it once does
(`foldl_foldl_of_absorbing`).
-/

namespace TrainPP.LastWriter

variable {ι σ α : Type*}

/-! ## The last value of a list -/

/-- The value that the last element of `l` with a value has under `f`. -/
def lastSome (f : ι → Option α) (l : List ι) : Option α := (l.filterMap f).getLast?

theorem lastSome_cons (f : ι → Option α) (a : ι) (l : List ι) :
    lastSome f (a :: l) = (lastSome f l).or (f a) := by
  unfold lastSome
  cases h : f a with
  | none => simp [h]
  | some b =>
    rw [List.filterMap_cons_some h, List.getLast?_cons]
    cases (l.filterMap f).getLast? <;> rfl

theorem getD_lastSome_cons (f : ι → Option α) (a : ι) (l : List ι) (r : α) :
    (lastSome f (a :: l)).getD r = (lastSome f l).getD ((f a).getD r) := by
  rw [lastSome_cons]
  cases lastSome f l <;> simp

/-- **A register holds what its last writer wrote**, or what it held before any wrote. -/
theorem foldl_getD (f : ι → Option α) (l : List ι) (r : α) :
    l.foldl (fun r a => (f a).getD r) r = (lastSome f l).getD r := by
  induction l generalizing r with
  | nil => rfl
  | cons a l ih => rw [List.foldl_cons, ih, getD_lastSome_cons]

/-! ## Mirrored registers -/

/-- What an input does to a mirrored register. -/
inductive Move (α : Type*)
  /-- Nothing. -/
  | keep
  /-- Overwrite the register, but not its cache. -/
  | write (a : α)
  /-- Overwrite the cache and copy it to the register. -/
  | load (a : α)
  /-- Copy the cache to the register. -/
  | copy
  deriving DecidableEq

namespace Move

/-- The effect of a move on a cache and its register. -/
def apply : Move α → α × α → α × α
  | keep, p => p
  | write a, (c, _) => (c, a)
  | load a, _ => (a, a)
  | copy, (c, _) => (c, c)

theorem absorb (x y : Move α) (p : α × α) :
    x.apply (y.apply (x.apply p)) = x.apply (y.apply p) := by
  cases x <;> cases y <;> rfl

theorem idem (x : Move α) (p : α × α) : x.apply (x.apply p) = x.apply p := by
  cases x <;> rfl

/-- The effect of moves on a cache and its register. -/
def run (ms : List (Move α)) (p : α × α) : α × α := ms.foldl (fun p m => m.apply p) p

/-- **A load forgets what was held before.** -/
theorem run_of_load {ms : List (Move α)} {a : α} (h : load a ∈ ms) (p q : α × α) :
    run ms p = run ms q := by
  obtain ⟨l₁, l₂, rfl⟩ := List.append_of_mem h
  rw [run, run, List.foldl_append, List.foldl_append, List.foldl_cons, List.foldl_cons]
  rfl

/-- Without a load or a write, what is held stays what it is. -/
theorem run_of_held {ms : List (Move α)} (h : ∀ m ∈ ms, m = keep ∨ m = copy) (c : α) :
    run ms (c, c) = (c, c) := by
  induction ms with
  | nil => rfl
  | cons m ms ih =>
    rw [List.forall_mem_cons] at h
    rw [run, List.foldl_cons]
    rcases h.1 with rfl | rfl <;> exact ih h.2

theorem run_of_keep {ms : List (Move α)} (h : ∀ m ∈ ms, m = keep) (p : α × α) : run ms p = p := by
  induction ms with
  | nil => rfl
  | cons m ms ih =>
    rw [List.forall_mem_cons] at h
    rw [run, List.foldl_cons, h.1]
    exact ih h.2

/-- Without a load or a write, a copy shows what is held. -/
theorem run_of_copy {ms : List (Move α)} (h : ∀ m ∈ ms, m = keep ∨ m = copy) (hcopy : copy ∈ ms)
    (c r : α) : run ms (c, r) = (c, c) := by
  induction ms with
  | nil => cases hcopy
  | cons m ms ih =>
    rw [List.forall_mem_cons] at h
    rw [run, List.foldl_cons]
    rcases h.1 with rfl | rfl
    · exact ih h.2 (List.mem_of_ne_of_mem (by simp) hcopy)
    · exact run_of_held h.2 c

end Move

theorem getD_absorb (x y : Option α) (r : α) :
    x.getD (y.getD (x.getD r)) = x.getD (y.getD r) := by
  cases x <;> cases y <;> rfl

theorem getD_idem (x : Option α) (r : α) : x.getD (x.getD r) = x.getD r := by
  cases x <;> rfl

/-! ## Absorbing inputs -/

/-- An input undoes what it did earlier, whatever came in between. -/
structure Absorbing (step : σ → ι → σ) : Prop where
  absorb : ∀ s x y, step (step (step s x) y) x = step (step s y) x
  idem : ∀ s x, step (step s x) x = step s x

namespace Absorbing

variable {step : σ → ι → σ}

/-- The first of two occurrences of an input can be dropped. -/
theorem foldl_between (h : Absorbing step) (x : ι) :
    ∀ (l : List ι) (s : σ), step (l.foldl step (step s x)) x = step (l.foldl step s) x := by
  intro l
  induction l using List.reverseRecOn with
  | nil => exact fun s => h.idem s x
  | append_singleton l y ih =>
    intro s
    simp only [List.foldl_append, List.foldl_cons, List.foldl_nil]
    -- another `x` before `y` changes nothing, and makes room for the induction hypothesis
    rw [← h.absorb (l.foldl step (step s x)) x y, ih s, h.absorb]

/-- Inputs that occur in `l` can be dropped before `l`. -/
theorem foldl_of_subset (h : Absorbing step) (l : List ι) :
    ∀ (k : List ι) (s : σ), (∀ x ∈ k, x ∈ l) → l.foldl step (k.foldl step s) = l.foldl step s := by
  intro k
  induction k with
  | nil => exact fun _ _ => rfl
  | cons x k ih =>
    intro s hk
    rw [List.foldl_cons, ih _ fun y hy => hk y (by simp [hy])]
    obtain ⟨l₁, l₂, rfl⟩ := List.append_of_mem (hk x (by simp))
    simp only [List.foldl_append, List.foldl_cons]
    rw [h.foldl_between x l₁ s]

end Absorbing

/-- **Feeding a list twice does what feeding it once does.** -/
theorem foldl_foldl_of_absorbing {step : σ → ι → σ} (h : Absorbing step) (l : List ι) (s : σ) :
    l.foldl step (l.foldl step s) = l.foldl step s :=
  h.foldl_of_subset l l s fun _ hx => hx

end TrainPP.LastWriter
