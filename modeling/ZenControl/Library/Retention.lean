import Mathlib.Data.List.Sort
import ZenControl.Library.NumberedRows

/-! Numbered tables of which only the newest rows are kept. What a reader sees of the newest rows
does not depend on how many older ones were dropped before. -/
namespace Rows.Table
variable {α : Type}

/-- The newest rows, the newest first. -/
def newest (t : Table α) (n : ℕ) : List (ℕ × α) := t.rows.reverse.take n

/-- Drop all rows but the newest. -/
def retain (t : Table α) (n : ℕ) : Table α :=
  t.delete fun k _ => ((t.newest n).map Prod.fst).all (· ≠ k)

/-- A table that has seen the same inserts as a full one, and has kept its newest rows. -/
structure Keeps (n : ℕ) (t full : Table α) : Prop where
  last : t.last=full.last
  newest : t.newest n=full.newest n

section Newest
variable {t full : Table α} {n m : ℕ}

lemma newest_insert (t : Table α) (a : α) (n : ℕ) :
    (t.insert a).newest (n+1)=(t.next,a)::t.newest n := by
  simp [newest,insert]

lemma newest_take (t : Table α) (h : m ≤ n) : (t.newest n).take m=t.newest m := by
  rw [newest,List.take_take,Nat.min_eq_left h,newest]

lemma newest_eq_reverse_drop (t : Table α) (n : ℕ) :
    t.newest n=(t.rows.drop (t.rows.length-n)).reverse := by
  rw [newest,List.take_reverse]

/-- What is retained are the rows at the end. -/
lemma rows_retain (t : Table α) (n : ℕ) : (t.retain n).rows=t.rows.drop (t.rows.length-n) := by
  unfold retain delete
  simp only
  have hsplit := List.take_append_drop (t.rows.length-n) t.rows
  have hincreasing := t.increasing
  rw [newest_eq_reverse_drop]
  generalize t.rows.take (t.rows.length-n)=old at hsplit
  generalize t.rows.drop (t.rows.length-n)=new at hsplit
  rw [← hsplit] at hincreasing ⊢
  obtain ⟨_,_,hbelow⟩ := List.pairwise_append.mp hincreasing
  have hold : ∀ r ∈ old, (new.reverse.map Prod.fst).all (· ≠ r.1)=true := by
    intro r hr
    simp only [List.all_eq_true,decide_eq_true_eq]
    intro k hk heq
    obtain ⟨x,hx,rfl⟩ := List.mem_map.mp hk
    exact absurd heq (Nat.ne_of_gt (hbelow r hr x (List.mem_reverse.mp hx)))
  have hnew : ∀ r ∈ new, (new.reverse.map Prod.fst).all (· ≠ r.1)=false := by
    intro r hr
    refine List.all_eq_false.mpr ⟨r.1,?_,by simp⟩
    exact List.mem_map.mpr ⟨r,List.mem_reverse.mpr hr,rfl⟩
  rw [List.filter_append,List.filter_eq_nil_iff.mpr,List.nil_append,List.filter_eq_self.mpr]
  · intro r hr
    rw [hnew r hr]
    rfl
  · intro r hr
    rw [hold r hr]
    decide

lemma newest_retain (t : Table α) (h : m ≤ n) : (t.retain n).newest m=t.newest m := by
  have hrows : (t.retain n).rows.reverse=t.rows.reverse.take n := by
    rw [rows_retain,List.take_reverse]
  rw [newest,hrows]
  exact newest_take t h

lemma Keeps.refl (n : ℕ) (t : Table α) : Keeps n t t := ⟨rfl,rfl⟩

/-- Dropping no more than the old rows keeps the newest. -/
lemma Keeps.retain (h : Keeps n t full) (hn : n ≤ m) : Keeps n (t.retain m) full :=
  ⟨h.last,(newest_retain t hn).trans h.newest⟩

lemma Keeps.insert (h : Keeps n t full) (a : α) : Keeps n (t.insert a) (full.insert a) := by
  constructor
  · change t.last+1=full.last+1
    rw [h.last]
  · cases n with
    | zero => rfl
    | succ n =>
      rw [newest_insert,newest_insert,← newest_take t n.le_succ,h.newest,newest_take full n.le_succ,
        next,next,h.last]

lemma Keeps.mono (h : Keeps n t full) (hm : m ≤ n) : Keeps m t full := by
  refine ⟨h.last,?_⟩
  rw [← newest_take t hm,h.newest,newest_take full hm]

/-- The newest rows, in the order of their numbers. -/
lemma insertionSort_newest (t : Table α) (n : ℕ) :
    (t.newest n).insertionSort (fun a b => a.1 ≤ b.1)=(t.newest n).reverse := by
  have hpairs : (t.newest n).reverse.Pairwise fun a b => a.1<b.1 := by
    rw [newest_eq_reverse_drop,List.reverse_reverse]
    exact t.increasing.drop
  have hsorted := List.pairwise_insertionSort (fun a b : ℕ × α => a.1 ≤ b.1) (t.newest n)
  have hperm := List.perm_insertionSort (fun a b : ℕ × α => a.1 ≤ b.1) (t.newest n)
  refine List.Perm.eq_of_pairwise (fun a b ha hb hab hba => ?_) hsorted
    (hpairs.imp fun h => Nat.le_of_lt h) (hperm.trans (List.reverse_perm _).symm)
  have hkey : a.1=b.1 := Nat.le_antisymm hab hba
  have ha := find_of_mem hpairs (List.mem_reverse.mpr (hperm.mem_iff.mp ha))
  rw [hkey,find_of_mem hpairs hb] at ha
  exact Prod.ext hkey (congrArg Prod.snd (Option.some.inj ha)).symm

end Newest
end Rows.Table
