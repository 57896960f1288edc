import Mathlib.Data.List.Basic

/-!
# Runs of a partial step function

A step function `f : σ → ι → Except ε σ` takes a state and an input to the next state, or fails.
`runAll f s l` feeds the inputs `l` to it one after the other from the state `s`; when a step
fails, the run stops there, with the error, the state and the input of the failing step.

* `runAll_simulates`: a step function simulated by a total one has its runs simulated by the fold;
* `toOption_runAll_filterMap`: what only some inputs change of the state, they change as they do in
  a run without the others;
* `runAll_induction`: what every step keeps, knowing what came before it, holds after a run;
* `Along`: a relation between the states of a run and the inputs received there, and
  `runAll_filter_of_along`: inputs that leave the state they arrive in as it was can be dropped
  from a run.
-/

namespace TrainPP.Runs

variable {σ τ ι ε : Type*}

/-- A step that failed. -/
structure Failure (ε σ ι : Type*) where
  error : ε
  state : σ
  input : ι
  deriving DecidableEq

/-- The run of `f` on the inputs of a list. -/
def runAll (f : σ → ι → Except ε σ) : σ → List ι → Except (Failure ε σ ι) σ
  | s, [] => .ok s
  | s, a :: l =>
    match f s a with
    | .error e => .error ⟨e, s, a⟩
    | .ok s' => runAll f s' l

variable {f : σ → ι → Except ε σ} {s s' : σ} {a : ι} {l : List ι}

@[simp] theorem runAll_nil (f : σ → ι → Except ε σ) (s : σ) : runAll f s [] = .ok s := rfl

theorem runAll_cons_ok (h : f s a = .ok s') : runAll f s (a :: l) = runAll f s' l := by
  rw [runAll, h]

theorem runAll_cons_error {e : ε} (h : f s a = .error e) :
    runAll f s (a :: l) = .error ⟨e, s, a⟩ := by
  rw [runAll, h]

theorem runAll_cons_eq_ok_iff {t : σ} :
    runAll f s (a :: l) = .ok t ↔ ∃ s', f s a = .ok s' ∧ runAll f s' l = .ok t := by
  rw [runAll]
  cases f s a <;> simp

theorem runAll_append_ok {l₁ l₂ : List ι} (h : runAll f s l₁ = .ok s') :
    runAll f s (l₁ ++ l₂) = runAll f s' l₂ := by
  induction l₁ generalizing s with
  | nil =>
    cases h
    rfl
  | cons a l₁ ih =>
    obtain ⟨s₁, h₁, h₂⟩ := runAll_cons_eq_ok_iff.1 h
    rw [List.cons_append, runAll_cons_ok h₁, ih h₂]

theorem runAll_append_error {l₁ l₂ : List ι} {e : Failure ε σ ι} (h : runAll f s l₁ = .error e) :
    runAll f s (l₁ ++ l₂) = .error e := by
  induction l₁ generalizing s with
  | nil => cases h
  | cons a l₁ ih =>
    rw [List.cons_append]
    cases hs : f s a with
    | error e' =>
      rw [runAll_cons_error hs] at h ⊢
      exact h
    | ok s₁ =>
      rw [runAll_cons_ok hs] at h ⊢
      exact ih h

theorem exists_runAll_of_append {l₁ l₂ : List ι} {t : σ} (h : runAll f s (l₁ ++ l₂) = .ok t) :
    ∃ s', runAll f s l₁ = .ok s' := by
  cases h₁ : runAll f s l₁ with
  | error e =>
    rw [runAll_append_error h₁] at h
    cases h
  | ok s' => exact ⟨s', rfl⟩

/-- A run along which every step succeeds is a fold. -/
theorem runAll_of_total {g : σ → ι → σ} (h : ∀ a ∈ l, ∀ s, f s a = .ok (g s a)) (s : σ) :
    runAll f s l = .ok (l.foldl g s) := by
  induction l generalizing s with
  | nil => rfl
  | cons a l ih =>
    rw [runAll_cons_ok (h a (by simp) s), List.foldl_cons]
    exact ih (fun b hb => h b (by simp [hb])) _

/-- When whether a step succeeds depends on the input alone, so does whether a run does. -/
theorem exists_runAll_ok_iff {P : ι → Prop} (h : ∀ s a, (∃ s', f s a = .ok s') ↔ P a) :
    ∀ (s : σ) (l : List ι), (∃ t, runAll f s l = .ok t) ↔ ∀ a ∈ l, P a
  | s, [] => by simp
  | s, a :: l => by
    rw [List.forall_mem_cons, ← h s a]
    constructor
    · rintro ⟨t, ht⟩
      obtain ⟨s', h₁, h₂⟩ := runAll_cons_eq_ok_iff.1 ht
      exact ⟨⟨s', h₁⟩, (exists_runAll_ok_iff h s' l).1 ⟨t, h₂⟩⟩
    · rintro ⟨⟨s', h₁⟩, hl⟩
      rw [runAll_cons_ok h₁]
      exact (exists_runAll_ok_iff h s' l).2 hl

/-- **Simulation**: when the step `f` is carried by `φ` to the total step `g` at every input of the
run, the run of `f` ends in a state carried to the fold of `g`. -/
theorem runAll_simulates {φ : σ → τ} {g : τ → ι → τ} :
    ∀ {l : List ι} {s t : σ}, (∀ a ∈ l, ∀ s s', f s a = .ok s' → φ s' = g (φ s) a) →
      runAll f s l = .ok t → φ t = l.foldl g (φ s)
  | [], _, _, _, h => by
    cases h
    rfl
  | a :: l, s, t, hstep, h => by
    obtain ⟨s', h₁, h₂⟩ := runAll_cons_eq_ok_iff.1 h
    rw [List.foldl_cons, ← hstep a (by simp) s s' h₁]
    exact runAll_simulates (fun b hb => hstep b (by simp [hb])) h₂

theorem toOption_runAll_cons (f : σ → ι → Except ε σ) (s : σ) (a : ι) (l : List ι) :
    (runAll f s (a :: l)).toOption = (f s a).toOption.bind fun s' => (runAll f s' l).toOption := by
  rw [runAll]
  cases f s a <;> rfl

theorem toOption_runAll_append (f : σ → ι → Except ε σ) (s : σ) (l₁ l₂ : List ι) :
    (runAll f s (l₁ ++ l₂)).toOption =
      (runAll f s l₁).toOption.bind fun s' => (runAll f s' l₂).toOption := by
  cases h : runAll f s l₁ with
  | error e =>
    rw [runAll_append_error h]
    rfl
  | ok s' =>
    rw [runAll_append_ok h]
    rfl

/-- **Projection**: when `φ` carries the step at an input to the step of `g` at what `p` makes of
the input, and an input of which `p` makes nothing does not fail and leaves `φ` of the state as it
was, the run of `f` is carried to the run of `g` on what `p` makes of the inputs. -/
theorem toOption_runAll_filterMap {κ ε' : Type*} {φ : σ → τ} {g : τ → κ → Except ε' τ}
    (p : ι → Option κ)
    (h : ∀ s a, (f s a).toOption.map φ =
      (p a).elim (some (φ s)) fun b => (g (φ s) b).toOption) (s : σ) (l : List ι) :
    (runAll f s l).toOption.map φ = (runAll g (φ s) (l.filterMap p)).toOption := by
  induction l generalizing s with
  | nil => rfl
  | cons a l ih =>
    have ha := h s a
    rw [toOption_runAll_cons]
    cases hp : p a with
    | none =>
      rw [List.filterMap_cons_none hp, ← ih s]
      rw [hp, Option.elim_none, Option.map_eq_some_iff] at ha
      obtain ⟨s', hs', hφ⟩ := ha
      rw [hs', Option.bind_some, ih s', ih s, hφ]
    | some b =>
      rw [List.filterMap_cons_some hp, toOption_runAll_cons]
      rw [hp, Option.elim_some] at ha
      rw [← ha, Option.map_bind, Option.bind_map]
      exact congrArg _ (funext ih)

/-- **Induction over a run**: what holds at its start, and is kept by a step behind any history,
holds of the whole of it. -/
theorem runAll_induction {R : List ι → σ → Prop} (hnil : R [] s)
    (hstep : ∀ l s a s', R l s → f s a = .ok s' → R (l ++ [a]) s') {t : σ}
    (h : runAll f s l = .ok t) : R l t := by
  suffices hgen : ∀ (l₂ l₁ : List ι) (s : σ), R l₁ s → runAll f s l₂ = .ok t → R (l₁ ++ l₂) t from
    hgen l [] s hnil h
  intro l₂
  induction l₂ with
  | nil =>
    intro l₁ s hR hrun
    cases hrun
    rwa [List.append_nil]
  | cons a l₂ ih =>
    intro l₁ s hR hrun
    obtain ⟨s', h₁, h₂⟩ := runAll_cons_eq_ok_iff.1 hrun
    rw [List.append_cons]
    exact ih (l₁ ++ [a]) s' (hstep l₁ s a s' hR h₁) h₂

/-! ## Along a run -/

/-- `P` holds of every state of the run of `f` on the inputs of a list, and the input received in
it. -/
def Along (f : σ → ι → Except ε σ) (P : σ → ι → Prop) : σ → List ι → Prop
  | _, [] => True
  | s, a :: l => P s a ∧ ∀ s', f s a = .ok s' → Along f P s' l

theorem along_congr {P Q : σ → ι → Prop} (h : ∀ s a, P s a ↔ Q s a) :
    ∀ (s : σ) (l : List ι), Along f P s l ↔ Along f Q s l
  | _, [] => Iff.rfl
  | s, a :: l => by
    simp only [Along, h s a, fun s' => along_congr h s' l]

theorem Along.imp {P Q : σ → ι → Prop} (h : ∀ s a, P s a → Q s a) :
    ∀ {s : σ} {l : List ι}, Along f P s l → Along f Q s l
  | _, [], _ => trivial
  | s, a :: _, hP => ⟨h s a hP.1, fun s' hs' => Along.imp h (hP.2 s' hs')⟩

/-- A relation that holds along a run holds at each of its steps. -/
theorem Along.of_append {P : σ → ι → Prop} {l₁ l₂ : List ι}
    (h : Along f P s (l₁ ++ a :: l₂)) (hr : runAll f s l₁ = .ok s') : P s' a := by
  induction l₁ generalizing s with
  | nil =>
    cases hr
    exact h.1
  | cons b l₁ ih =>
    obtain ⟨s₁, h₁, h₂⟩ := runAll_cons_eq_ok_iff.1 hr
    exact ih (h.2 s₁ h₁) h₂

/-- A relation that holds at each step of a run holds along it. -/
theorem along_of_forall {P : σ → ι → Prop} :
    ∀ {l : List ι} {s : σ},
      (∀ l₁ a l₂, l = l₁ ++ a :: l₂ → ∀ s', runAll f s l₁ = .ok s' → P s' a) → Along f P s l
  | [], _, _ => trivial
  | a :: l, s, h => by
    refine ⟨h [] a l rfl s rfl, fun s' hs' => along_of_forall fun l₁ b l₂ hl t ht => ?_⟩
    exact h (a :: l₁) b l₂ (by rw [hl, List.cons_append]) t (by rw [runAll_cons_ok hs', ht])

/-- Along a run that succeeds, what only concerns the inputs holds of every one of them. -/
theorem along_iff_forall_mem {P : ι → Prop} :
    ∀ {l : List ι} {s t : σ}, runAll f s l = .ok t →
      (Along f (fun _ a => P a) s l ↔ ∀ a ∈ l, P a)
  | [], _, _, _ => by simp [Along]
  | a :: l, s, t, h => by
    obtain ⟨s', h₁, h₂⟩ := runAll_cons_eq_ok_iff.1 h
    rw [List.forall_mem_cons, ← along_iff_forall_mem h₂, Along]
    simp [h₁]

/-- **Inputs without effect can be dropped**: when along a run every input that `p` drops leaves
the state it arrives in as it was, the run ends as it does without these inputs. -/
theorem runAll_filter_of_along (p : ι → Bool) :
    ∀ {l : List ι} {s : σ}, Along f (fun s a => p a = false → f s a = .ok s) s l →
      runAll f s (l.filter p) = runAll f s l
  | [], _, _ => rfl
  | a :: l, s, h => by
    cases hp : p a with
    | false =>
      have hs : f s a = .ok s := h.1 hp
      rw [List.filter_cons_of_neg (by simp [hp]), runAll_cons_ok hs]
      exact runAll_filter_of_along p (h.2 s hs)
    | true =>
      rw [List.filter_cons_of_pos (by simp [hp])]
      cases hs : f s a with
      | error e => rw [runAll_cons_error hs, runAll_cons_error hs]
      | ok s' =>
        rw [runAll_cons_ok hs, runAll_cons_ok hs]
        exact runAll_filter_of_along p (h.2 s' hs)

end TrainPP.Runs
