import Mathlib.Data.List.Basic

/-!
# Size-prefixed framing

A *frame* is a list that begins with a header, from which its own length can be read. A stream of
frames is cut back into its frames by reading a header, taking as many elements as it declares and
going on behind them (`split`); what is left when no further header fits is dropped.

* `split_eq_some_iff`: a stream is cut into frames exactly when it is their concatenation followed
  by less than a header;
* `prefix_of_split_take`: of a stream that ends early, only the first frames are cut off.
-/

namespace TrainPP.Framing

variable {α : Type*}

/-- A header of fixed length and the frame length that it declares. -/
structure Format (α : Type*) where
  /-- The length of a header. -/
  header : ℕ
  /-- The length of the frame that begins a stream, its header included. -/
  size : List α → ℕ
  header_pos : 0 < header
  /-- The declared length is read off the header. -/
  size_append : ∀ l r, header ≤ l.length → size (l ++ r) = size l

namespace Format

/-- A list that is one frame. -/
structure IsFrame (F : Format α) (f : List α) : Prop where
  header_le : F.header ≤ f.length
  size_eq : F.size f = f.length

/-- The frames of a stream, or `none` when a header declares less than itself or more than the
stream holds. -/
def split (F : Format α) (l : List α) : Option (List (List α)) :=
  if l.length < F.header then some []
  else if _h : F.header ≤ F.size l ∧ F.size l ≤ l.length then
    (split F (l.drop (F.size l))).map (l.take (F.size l) :: ·)
  else none
termination_by l.length
decreasing_by
  have := F.header_pos
  rw [List.length_drop]
  omega

variable {F : Format α}

theorem split_of_length_lt {l : List α} (h : l.length < F.header) : F.split l = some [] := by
  rw [split, if_pos h]

theorem split_of_size {l : List α} (h₁ : F.header ≤ F.size l) (h₂ : F.size l ≤ l.length) :
    F.split l = (F.split (l.drop (F.size l))).map (l.take (F.size l) :: ·) := by
  rw [split, if_neg (by omega), dif_pos ⟨h₁, h₂⟩]

theorem split_of_not_size {l : List α} (h : F.header ≤ l.length)
    (hs : ¬(F.header ≤ F.size l ∧ F.size l ≤ l.length)) : F.split l = none := by
  rw [split, if_neg (by omega), dif_neg hs]

theorem IsFrame.size_append {f : List α} (hf : F.IsFrame f) (r : List α) :
    F.size (f ++ r) = f.length := by
  rw [F.size_append f r hf.header_le, hf.size_eq]

/-- A frame at the head of a stream is the first one cut off. -/
theorem split_append {f : List α} (hf : F.IsFrame f) (r : List α) :
    F.split (f ++ r) = (F.split r).map (f :: ·) := by
  have hs := hf.size_append r
  rw [split_of_size (by rw [hs]; exact hf.header_le) (by rw [hs]; simp), hs, List.drop_left,
    List.take_left]

/-- The head of a stream that declares a length it holds is a frame. -/
theorem isFrame_take {l : List α} (h₁ : F.header ≤ F.size l) (h₂ : F.size l ≤ l.length) :
    F.IsFrame (l.take (F.size l)) := by
  have hlen : (l.take (F.size l)).length = F.size l := by rw [List.length_take]; omega
  have hs := F.size_append (l.take (F.size l)) (l.drop (F.size l)) (by omega)
  rw [List.take_append_drop] at hs
  exact ⟨by omega, by omega⟩

/-- Frames at the head of a stream are the first ones cut off. -/
theorem split_append_flatten {fs : List (List α)} (hfs : ∀ f ∈ fs, F.IsFrame f) (r : List α) :
    F.split (fs.flatten ++ r) = (F.split r).map (fs ++ ·) := by
  induction fs with
  | nil => exact Option.map_id'.symm
  | cons f fs ih =>
    rw [List.flatten_cons, List.append_assoc, split_append (hfs f (by simp)),
      ih fun g hg => hfs g (by simp [hg]), Option.map_map]
    rfl

/-- **Framing round trip**: the concatenation of frames, followed by less than a header, is cut
into these frames. -/
theorem split_flatten_append {fs : List (List α)} (hfs : ∀ f ∈ fs, F.IsFrame f) {r : List α}
    (hr : r.length < F.header) : F.split (fs.flatten ++ r) = some fs := by
  rw [split_append_flatten hfs, split_of_length_lt hr, Option.map_some, List.append_nil]

/-- Whatever is cut into frames is their concatenation, followed by less than a header. -/
theorem of_split_eq_some (l : List α) {fs : List (List α)} (h : F.split l = some fs) :
    (∀ f ∈ fs, F.IsFrame f) ∧ ∃ r, r.length < F.header ∧ l = fs.flatten ++ r := by
  induction l using split.induct F generalizing fs with
  | case1 l hl =>
    rw [split_of_length_lt hl] at h
    cases h
    exact ⟨by simp, l, hl, rfl⟩
  | case2 l hl hs ih =>
    rw [split_of_size hs.1 hs.2, Option.map_eq_some_iff] at h
    obtain ⟨gs, hgs, rfl⟩ := h
    obtain ⟨hf, r, hr, hl'⟩ := ih hgs
    refine ⟨?_, r, hr, ?_⟩
    · rintro f (_ | ⟨_, hfm⟩)
      · exact isFrame_take hs.1 hs.2
      · exact hf f hfm
    · rw [List.flatten_cons, List.append_assoc, ← hl', List.take_append_drop]
  | case3 l hl hs =>
    rw [split_of_not_size (Nat.not_lt.1 hl) hs] at h
    cases h

theorem split_eq_some_iff {l : List α} {fs : List (List α)} :
    F.split l = some fs ↔
      (∀ f ∈ fs, F.IsFrame f) ∧ ∃ r, r.length < F.header ∧ l = fs.flatten ++ r := by
  constructor
  · exact of_split_eq_some l
  · rintro ⟨hf, r, hr, rfl⟩
    exact split_flatten_append hf hr

/-- What is cut off a stream of frames that ends early are the first ones of these frames. -/
theorem prefix_of_split_take {fs gs : List (List α)} (hfs : ∀ f ∈ fs, F.IsFrame f) {n : ℕ}
    (h : F.split (fs.flatten.take n) = some gs) : gs <+: fs := by
  induction fs generalizing gs n with
  | nil =>
    rw [List.flatten_nil, List.take_nil, split_of_length_lt (l := []) F.header_pos] at h
    cases h
    exact List.nil_prefix
  | cons f fs ih =>
    have hf := hfs f (by simp)
    rw [List.flatten_cons] at h
    by_cases hn : f.length ≤ n
    · rw [List.take_append, List.take_of_length_le hn, split_append hf] at h
      obtain ⟨gs, hgs, rfl⟩ := Option.map_eq_some_iff.1 h
      exact List.cons_prefix_cons.2 ⟨rfl, ih (fun g hg => hfs g (by simp [hg])) hgs⟩
    · -- the stream ends inside the first frame, so that nothing is cut off
      rw [List.take_append_of_le_length (by omega)] at h
      by_cases hlen : (f.take n).length < F.header
      · rw [split_of_length_lt hlen] at h
        cases h
        exact List.nil_prefix
      · have hsize : F.size (f.take n) = f.length := by
          rw [← F.size_append (f.take n) (f.drop n) (by omega), List.take_append_drop, hf.size_eq]
        have hshort : (f.take n).length < f.length := by
          rw [List.length_take]
          omega
        rw [split_of_not_size (by omega) (by omega)] at h
        cases h

end Format

end TrainPP.Framing
