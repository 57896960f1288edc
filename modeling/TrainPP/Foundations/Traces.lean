import TrainPP.Foundations.Runs

/-!
# Reordering independent inputs

Inputs have kinds, and kinds may be dependent. When two inputs of independent kinds commute, a run
depends only on the order of the inputs of dependent kinds: two lists that have, for each pair of
dependent kinds, the same inputs of these kinds in the same order, have the same run
(`toOption_runAll_of_sameOrder`).
-/

namespace TrainPP.Traces

open Runs

variable {σ ι κ ε : Type*}

/-! ## Lists with the same order -/

section SameOrder

variable [DecidableEq κ] (kind : ι → κ) (dep : κ → κ → Prop)

/-- The inputs of a list that are of one of two kinds. -/
def ofKinds (k k' : κ) (l : List ι) : List ι := l.filter fun a => kind a = k ∨ kind a = k'

/-- For each pair of dependent kinds, the inputs of these kinds come in the same order. -/
def SameOrder (l l' : List ι) : Prop :=
  ∀ k k', dep k k' → ofKinds kind k k' l = ofKinds kind k k' l'

variable {kind dep} {k k' : κ} {a : ι} {l l' l₁ l₂ : List ι}

theorem ofKinds_cons_of_pos (h : kind a = k ∨ kind a = k') :
    ofKinds kind k k' (a :: l) = a :: ofKinds kind k k' l :=
  List.filter_cons_of_pos (by simpa using h)

theorem ofKinds_cons_of_neg (h : ¬(kind a = k ∨ kind a = k')) :
    ofKinds kind k k' (a :: l) = ofKinds kind k k' l :=
  List.filter_cons_of_neg (by simpa using h)

theorem ofKinds_append :
    ofKinds kind k k' (l₁ ++ l₂) = ofKinds kind k k' l₁ ++ ofKinds kind k k' l₂ :=
  List.filter_append ..

theorem ofKinds_eq_nil_iff :
    ofKinds kind k k' l = [] ↔ ∀ b ∈ l, ¬(kind b = k ∨ kind b = k') := by
  simp [ofKinds]

/-- The first input of a list stands in the other behind inputs of independent kinds only. -/
theorem SameOrder.exists_of_cons (hrefl : ∀ k, dep k k) (h : SameOrder kind dep (a :: l) l') :
    ∃ l₁ l₂, l' = l₁ ++ a :: l₂ ∧ ∀ b ∈ l₁, ¬dep (kind a) (kind b) := by
  have hfirst := h _ _ (hrefl (kind a))
  rw [ofKinds_cons_of_pos (.inl rfl), eq_comm, ofKinds, List.filter_eq_cons_iff] at hfirst
  obtain ⟨l₁, l₂, rfl, hl₁, -, -⟩ := hfirst
  refine ⟨l₁, l₂, rfl, fun b hb hdep => ?_⟩
  -- otherwise an input of the kind of `b`, in front of `a`, is the first of these two kinds
  have hpair := h _ _ hdep
  rw [ofKinds_cons_of_pos (.inl rfl), ofKinds_append] at hpair
  cases hfront : ofKinds kind (kind a) (kind b) l₁ with
  | nil => exact ofKinds_eq_nil_iff.1 hfront b hb (.inr rfl)
  | cons c front =>
    rw [hfront, List.cons_append] at hpair
    obtain ⟨rfl, -⟩ := List.cons.inj hpair
    have hmem : a ∈ ofKinds kind (kind a) (kind b) l₁ := by rw [hfront]; simp
    exact hl₁ a (List.mem_filter.1 hmem).1 (by simp)

/-- What is left when the first input of a list is taken out of both lists. -/
theorem SameOrder.of_cons (hrefl : ∀ k, dep k k) (hsymm : ∀ k k', dep k k' → dep k' k)
    (h : SameOrder kind dep (a :: l) (l₁ ++ a :: l₂))
    (hindep : ∀ b ∈ l₁, ¬dep (kind a) (kind b)) : SameOrder kind dep l (l₁ ++ l₂) := by
  intro k k' hdep
  have hpair := h k k' hdep
  rw [ofKinds_append] at hpair ⊢
  by_cases ha : kind a = k ∨ kind a = k'
  · have hl₁ : ofKinds kind k k' l₁ = [] := by
      refine ofKinds_eq_nil_iff.2 fun b hb hkind => hindep b hb ?_
      rcases ha with rfl | rfl <;> rcases hkind with hb' | hb' <;> rw [hb']
      · exact hrefl _
      · exact hdep
      · exact hsymm _ _ hdep
      · exact hrefl _
    rw [ofKinds_cons_of_pos ha, ofKinds_cons_of_pos ha, hl₁, List.nil_append] at hpair
    rw [hl₁, List.nil_append]
    exact (List.cons.inj hpair).2
  · rwa [ofKinds_cons_of_neg ha, ofKinds_cons_of_neg ha] at hpair

/-- Two neighbouring inputs of independent kinds may change places. -/
theorem sameOrder_swap (hrefl : ∀ k, dep k k) (hsymm : ∀ k k', dep k k' → dep k' k) {b : ι}
    (h : ¬dep (kind a) (kind b)) (l₁ l₂ : List ι) :
    SameOrder kind dep (l₁ ++ a :: b :: l₂) (l₁ ++ b :: a :: l₂) := by
  intro k k' hdep
  rw [ofKinds_append, ofKinds_append]
  congr 1
  by_cases ha : kind a = k ∨ kind a = k'
  · have hb : ¬(kind b = k ∨ kind b = k') := by
      refine fun hb => h ?_
      rcases ha with rfl | rfl <;> rcases hb with hb | hb <;> rw [hb]
      · exact hrefl _
      · exact hdep
      · exact hsymm _ _ hdep
      · exact hrefl _
    rw [ofKinds_cons_of_pos ha, ofKinds_cons_of_neg hb, ofKinds_cons_of_neg hb,
      ofKinds_cons_of_pos ha]
  · rw [ofKinds_cons_of_neg ha]
    by_cases hb : kind b = k ∨ kind b = k'
    · rw [ofKinds_cons_of_pos hb, ofKinds_cons_of_pos hb, ofKinds_cons_of_neg ha]
    · rw [ofKinds_cons_of_neg hb, ofKinds_cons_of_neg hb, ofKinds_cons_of_neg ha]

end SameOrder

/-! ## Runs of lists with the same order -/

/-- Two inputs have the same effect, or both fail, in either order. -/
def Commute (f : σ → ι → Except ε σ) (a b : ι) : Prop :=
  ∀ s, (f s a).toOption.bind (fun s' => (f s' b).toOption) =
    (f s b).toOption.bind fun s' => (f s' a).toOption

variable {f : σ → ι → Except ε σ} {a : ι} {l l' l₁ l₂ : List ι}

theorem Commute.symm {b : ι} (h : Commute f a b) : Commute f b a := fun s => (h s).symm

theorem toOption_runAll_swap {b : ι} (h : Commute f a b) (s : σ) (l : List ι) :
    (runAll f s (a :: b :: l)).toOption = (runAll f s (b :: a :: l)).toOption := by
  simp only [toOption_runAll_cons, ← Option.bind_assoc]
  rw [h s]

/-- An input that commutes with all inputs in front of it can come first. -/
theorem toOption_runAll_move (h : ∀ b ∈ l₁, Commute f b a) (s : σ) :
    (runAll f s (l₁ ++ a :: l₂)).toOption = (runAll f s (a :: (l₁ ++ l₂))).toOption := by
  induction l₁ generalizing s with
  | nil => rfl
  | cons b l₁ ih =>
    rw [List.cons_append, List.cons_append, ← toOption_runAll_swap (h b (by simp)),
      toOption_runAll_cons, toOption_runAll_cons]
    exact congrArg _ (funext (ih fun c hc => h c (by simp [hc])))

/-- **Reordering**: when inputs of independent kinds commute, lists with the same order of the
inputs of dependent kinds have the same run. -/
theorem toOption_runAll_of_sameOrder [DecidableEq κ] {kind : ι → κ} {dep : κ → κ → Prop}
    (hrefl : ∀ k, dep k k) (hsymm : ∀ k k', dep k k' → dep k' k)
    (hcomm : ∀ a b, ¬dep (kind a) (kind b) → Commute f b a) (h : SameOrder kind dep l l') (s : σ) :
    (runAll f s l).toOption = (runAll f s l').toOption := by
  induction l generalizing s l' with
  | nil =>
    cases l' with
    | nil => rfl
    | cons b l' =>
      have hb := h _ _ (hrefl (kind b))
      rw [ofKinds_cons_of_pos (.inl rfl)] at hb
      cases hb
  | cons a l ih =>
    obtain ⟨l₁, l₂, rfl, hindep⟩ := h.exists_of_cons hrefl
    rw [toOption_runAll_move (fun b hb => hcomm a b (hindep b hb)), toOption_runAll_cons,
      toOption_runAll_cons]
    exact congrArg _ (funext (ih (h.of_cons hrefl hsymm hindep)))

end TrainPP.Traces
