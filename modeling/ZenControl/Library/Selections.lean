import Mathlib.Data.List.Basic
import Mathlib.Tactic.Common
import Mathlib.Data.Nat.Notation

/-! Selections up to a limit: of the elements of a list some are wanted and some are unwanted, and
a condition that covers the wanted ones selects the first so many. -/
namespace Selections
variable {α : Type} {p : α → Bool} {n : ℕ} {xs before after : List α} {x : α}

/-- The first elements that a condition selects. -/
def firsts (p : α → Bool) (n : ℕ) (xs : List α) : List α := (xs.filter p).take n

/-- An element is chosen at its place, or the limit was used up before it. -/
def ChosenUpTo (n : ℕ) (before : List α) (x : α) (after chosen : List α) : Prop :=
  (∃ earlier later, earlier.Sublist before ∧ later.Sublist after ∧
    chosen=earlier ++ x::later) ∨ chosen.Sublist before ∧ chosen.length=n

/-- What is chosen of a list up to a limit: in order, every wanted element before the limit, and
no unwanted one. -/
structure Selects (wanted unwanted : α → Prop) (n : ℕ) (xs chosen : List α) : Prop where
  ordered : chosen.Sublist xs
  bounded : chosen.length ≤ n
  complete : ∀ before x after, xs=before ++ x::after → wanted x →
    ChosenUpTo n before x after chosen
  sound : ∀ x ∈ chosen, ¬unwanted x

/-- An element is reached: fewer than the limit were selected before it. -/
def Reached (p : α → Bool) (n : ℕ) (xs : List α) (x : α) : Prop :=
  ∃ before after, xs=before ++ x::after ∧ before.countP p < n

lemma firsts_sublist : (firsts p n xs).Sublist xs :=
  (List.take_sublist n _).trans List.filter_sublist

lemma length_firsts_le : (firsts p n xs).length ≤ n := List.length_take_le n _

lemma firsts_append_of_lt (h : before.countP p < n) (hx : p x) :
    firsts p n (before ++ x::after)=
      before.filter p ++ x::firsts p (n-before.countP p-1) after := by
  rw [List.countP_eq_length_filter] at h ⊢
  obtain ⟨m,hm⟩ : ∃ m, n-(before.filter p).length=m+1 := ⟨n-(before.filter p).length-1,by omega⟩
  unfold firsts
  rw [List.filter_append,List.take_append,List.filter_cons_of_pos hx,
    List.take_of_length_le (Nat.le_of_lt h),hm,List.take_succ_cons,Nat.add_sub_cancel]

lemma firsts_append_of_le (h : n ≤ before.countP p) :
    firsts p n (before ++ after)=firsts p n before := by
  rw [List.countP_eq_length_filter] at h
  unfold firsts
  rw [List.filter_append,List.take_append_of_le_length h]

lemma chosenUpTo_firsts (hx : p x) :
    ChosenUpTo n before x after (firsts p n (before ++ x::after)) := by
  by_cases h : before.countP p < n
  · rw [firsts_append_of_lt h hx]
    exact .inl ⟨_,_,List.filter_sublist,firsts_sublist,rfl⟩
  · rw [Nat.not_lt] at h
    rw [firsts_append_of_le h]
    refine .inr ⟨firsts_sublist,?_⟩
    rw [List.countP_eq_length_filter] at h
    exact List.length_take_of_le h

lemma mem_firsts : x ∈ firsts p n xs ↔ p x ∧ Reached p n xs x := by
  constructor
  · intro h
    induction xs generalizing n with
    | nil => simp [firsts] at h
    | cons y xs ih =>
      by_cases hy : p y
      · cases n with
        | zero => simp [firsts] at h
        | succ n =>
          rw [firsts,List.filter_cons_of_pos hy,List.take_succ_cons] at h
          rcases List.mem_cons.mp h with rfl | h
          · exact ⟨hy,[],xs,rfl,Nat.succ_pos n⟩
          · obtain ⟨hx,before,after,rfl,hcount⟩ := ih h
            refine ⟨hx,y::before,after,rfl,?_⟩
            rw [List.countP_cons_of_pos hy]
            omega
      · rw [firsts,List.filter_cons_of_neg hy] at h
        obtain ⟨hx,before,after,rfl,hcount⟩ := ih h
        refine ⟨hx,y::before,after,rfl,?_⟩
        rwa [List.countP_cons_of_neg hy]
  · rintro ⟨hx,before,after,rfl,hcount⟩
    rw [firsts_append_of_lt hcount hx]
    simp

/-- The first elements under a condition that covers the wanted ones are a selection exactly
where it selects no unwanted element that is reached. -/
theorem selects_firsts_iff {wanted unwanted : α → Prop} (h : ∀ x, wanted x → p x) :
    Selects wanted unwanted n xs (firsts p n xs) ↔
      ∀ x, Reached p n xs x → p x → ¬unwanted x := by
  constructor
  · intro hselects x hreached hx
    exact hselects.sound x (mem_firsts.mpr ⟨hx,hreached⟩)
  · intro hsound
    refine ⟨firsts_sublist,length_firsts_le,?_,fun x hx => ?_⟩
    · rintro before x after rfl hwanted
      exact chosenUpTo_firsts (h x hwanted)
    · obtain ⟨hp,hreached⟩ := mem_firsts.mp hx
      exact hsound x hreached hp

end Selections
