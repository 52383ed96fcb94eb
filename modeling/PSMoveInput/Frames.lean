import Mathlib.Data.List.Basic
import Mathlib.Tactic.Common

/-! Sequences that are cut into frames at end marks. A sequence consists of whole frames if every
complete frame is one of a given set, and the rest is the beginning of one. -/
namespace Frames

variable {α : Type*} (isEnd : α → Bool)

/-- The complete frames of a sequence, and what follows the last end mark. -/
def split : List α → List (List α) × List α
  | [] => ([], [])
  | x :: xs =>
    let r := split xs
    if isEnd x = true then ([x] :: r.1, r.2)
    else
      match r.1 with
      | [] => ([], x :: r.2)
      | f :: fs => ((x :: f) :: fs, r.2)

/-- One end mark, at the end. -/
def IsFrame (f : List α) : Prop :=
  ∃ body x, f = body ++ [x] ∧ isEnd x = true ∧ ∀ y ∈ body, isEnd y = false

/-- Complete frames of the set, and the beginning of another one. -/
def Whole (F : List α → Prop) (l : List α) : Prop :=
  (∀ f ∈ (split isEnd l).1, F f) ∧ ∃ f, F f ∧ (split isEnd l).2 <+: f

variable {isEnd}

theorem split_flatten (l : List α) : (split isEnd l).1.flatten ++ (split isEnd l).2 = l := by
  induction l with
  | nil => rfl
  | cons x l ih =>
    simp only [split]
    by_cases hx : isEnd x = true
    · rw [if_pos hx, List.flatten_cons, List.append_assoc, ih]
      rfl
    · rw [if_neg hx]
      cases hframes : (split isEnd l).1 with
      | nil =>
        rw [hframes] at ih
        exact congrArg (List.cons x) ih
      | cons f fs =>
        rw [hframes] at ih
        exact congrArg (List.cons x) ih

theorem split_of_no_end {l : List α} (h : ∀ x ∈ l, isEnd x = false) : split isEnd l = ([], l) := by
  induction l with
  | nil => rfl
  | cons x l ih =>
    have hx := h x List.mem_cons_self
    have hl := ih fun y hy => h y (List.mem_cons_of_mem x hy)
    rw [split, hl, hx]
    rfl

/-- A frame at the front is cut off. -/
theorem split_frame_append {f : List α} (hf : IsFrame isEnd f) (l : List α) :
    split isEnd (f ++ l) = (f :: (split isEnd l).1, (split isEnd l).2) := by
  obtain ⟨body, x, rfl, hx, hbody⟩ := hf
  induction body with
  | nil =>
    simp only [List.nil_append, List.cons_append, split]
    rw [if_pos hx]
  | cons y body ih =>
    have hy := hbody y List.mem_cons_self
    have hrest := ih fun z hz => hbody z (List.mem_cons_of_mem y hz)
    simp only [List.cons_append, split]
    rw [hrest, if_neg (by rw [hy]; exact Bool.false_ne_true)]

/-- Frames at the front are cut off one after another. -/
theorem split_flatten_append {fs : List (List α)} (hfs : ∀ f ∈ fs, IsFrame isEnd f) (l : List α) :
    split isEnd (fs.flatten ++ l) = (fs ++ (split isEnd l).1, (split isEnd l).2) := by
  induction fs with
  | nil => rfl
  | cons f fs ih =>
    have hrest := ih fun g hg => hfs g (List.mem_cons_of_mem f hg)
    rw [List.flatten_cons, List.append_assoc, split_frame_append (hfs f List.mem_cons_self), hrest]
    rfl

/-- A beginning of a frame that is not all of it has no end mark. -/
theorem IsFrame.proper_beginning {f l : List α} (hf : IsFrame isEnd f) (h : l <+: f) (hne : l ≠ f) :
    ∀ x ∈ l, isEnd x = false := by
  obtain ⟨body, x, rfl, -, hbody⟩ := hf
  rcases List.prefix_concat_iff.mp h with heq | hbegin
  · exact absurd heq hne
  · intro y hy
    exact hbody y (hbegin.subset hy)

/-- The sequences of whole frames are the beginnings of concatenations of frames. -/
theorem whole_iff {F : List α → Prop} (hF : ∀ f, F f → IsFrame isEnd f) (hne : ∃ f, F f)
    (l : List α) : Whole isEnd F l ↔ ∃ fs : List (List α), (∀ f ∈ fs, F f) ∧ l <+: fs.flatten := by
  constructor
  · intro h
    obtain ⟨hframes, f, hf, hrest⟩ := h
    refine ⟨(split isEnd l).1 ++ [f], ?_, ?_⟩
    · intro g hg
      rcases List.mem_append.mp hg with hg | hg
      · exact hframes g hg
      · rw [List.mem_singleton.mp hg]
        exact hf
    · have hl : (split isEnd l).1.flatten ++ (split isEnd l).2 = l := split_flatten l
      rw [List.flatten_append, List.flatten_singleton]
      nth_rewrite 1 [← hl]
      exact (List.prefix_append_right_inj _).mpr hrest
  · intro h
    obtain ⟨fs, hfs, hl⟩ := h
    induction fs generalizing l with
    | nil =>
      obtain rfl := List.prefix_nil.mp hl
      obtain ⟨f, hf⟩ := hne
      exact ⟨fun g hg => absurd hg List.not_mem_nil, f, hf, List.nil_prefix⟩
    | cons f fs ih =>
      have hf := hfs f List.mem_cons_self
      rw [List.flatten_cons] at hl
      have hrest : ∀ g ∈ fs, F g := fun g hg => hfs g (List.mem_cons_of_mem f hg)
      by_cases hlong : f <+: l
      · -- the first frame is complete
        obtain ⟨l', rfl⟩ := hlong
        obtain ⟨hframes, hend⟩ := ih l' hrest ((List.prefix_append_right_inj f).mp hl)
        rw [Whole, split_frame_append (hF f hf)]
        refine ⟨?_, hend⟩
        intro g hg
        rcases List.mem_cons.mp hg with rfl | hg
        · exact hf
        · exact hframes g hg
      · have hshort : l <+: f := by
          rcases List.prefix_or_prefix_of_prefix hl (List.prefix_append f fs.flatten) with h | h
          · exact h
          · exact absurd h hlong
        have hproper : l ≠ f := fun heq => hlong (heq ▸ List.prefix_refl l)
        have hsplit := split_of_no_end ((hF f hf).proper_beginning hshort hproper)
        rw [Whole, hsplit]
        exact ⟨fun g hg => absurd hg List.not_mem_nil, f, hf, hshort⟩

/-- The beginning of a sequence of whole frames is one as well. -/
theorem Whole.of_append {F : List α → Prop} (hF : ∀ f, F f → IsFrame isEnd f) (hne : ∃ f, F f)
    {l l' : List α} (h : Whole isEnd F (l ++ l')) : Whole isEnd F l := by
  obtain ⟨fs, hfs, hbegin⟩ := (whole_iff hF hne _).mp h
  exact (whole_iff hF hne l).mpr ⟨fs, hfs, (List.prefix_append l l').trans hbegin⟩

/-- Complete frames at the front do not matter. -/
theorem Whole.of_flatten_append {F : List α → Prop} (hF : ∀ f, F f → IsFrame isEnd f)
    {fs : List (List α)} (hfs : ∀ f ∈ fs, F f) {l : List α}
    (h : Whole isEnd F (fs.flatten ++ l)) : Whole isEnd F l := by
  induction fs with
  | nil => exact h
  | cons f fs ih =>
    apply ih fun g hg => hfs g (List.mem_cons_of_mem f hg)
    rw [List.flatten_cons, List.append_assoc, Whole,
      split_frame_append (hF f (hfs f List.mem_cons_self))] at h
    exact ⟨fun g hg => h.1 g (List.mem_cons_of_mem f hg), h.2⟩

/-- The first frame, as far as it has come. -/
theorem Whole.first_frame {F : List α → Prop} {p : List α} {x : α}
    (h : Whole isEnd F (p ++ [x])) (hp : ∀ y ∈ p, isEnd y = false) :
    ∃ f, F f ∧ p ++ [x] <+: f := by
  by_cases hx : isEnd x = true
  · have hframe : IsFrame isEnd (p ++ [x]) := ⟨p, x, rfl, hx, hp⟩
    have hsplit := split_frame_append hframe []
    rw [List.append_nil] at hsplit
    rw [Whole, hsplit] at h
    exact ⟨p ++ [x], h.1 _ List.mem_cons_self, List.prefix_refl _⟩
  · have hnone : ∀ y ∈ p ++ [x], isEnd y = false := by
      intro y hy
      rcases List.mem_append.mp hy with hy | hy
      · exact hp y hy
      · rw [List.mem_singleton.mp hy]
        exact eq_false_of_ne_true hx
    rw [Whole, split_of_no_end hnone] at h
    exact h.2

end Frames
