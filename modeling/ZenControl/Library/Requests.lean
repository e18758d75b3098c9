import ZenControl.Library.Faults
import ZenControl.Library.NumberedRows
import Mathlib.Logic.Function.Basic

/-! Numbered tables of several kinds behind an interface of single requests: read the rows that
meet a query, add a row, change a row or remove it by its number. -/
namespace Requests
open Rows Calls
variable {K : Type} {Row : K → Type}

/-- One table of each kind. -/
abbrev TableFamily (Row : K → Type) := (k : K) → Table (Row k)

inductive Request (Row : K → Type)
  | get (k : K) (query : Row k → Bool)
  | add (k : K) (row : Row k)
  | set (k : K) (id : ℕ) (change : Row k → Row k)
  | remove (k : K) (id : ℕ)

abbrev Request.Answer : Request Row → Type
  | .get k _ => List (ℕ × Row k)
  | _ => Unit

/-- The rows that a query finds. -/
def TableFamily.rows (t : TableFamily Row) (k : K) (query : Row k → Bool) : List (ℕ × Row k) :=
  (t k).select fun _ row => query row

variable [DecidableEq K]

/-- Answer a request; there is no answer when the row to be changed does not exist. -/
def Request.perform : (q : Request Row) → TableFamily Row → Option q.Answer × TableFamily Row
  | .get k query, t => (some (t.rows k query),t)
  | .add k row, t => (some (),Function.update t k ((t k).insert row))
  | .set k id change, t =>
    if ((t k).find id).isSome then (some (),Function.update t k ((t k).modify id change))
    else (none,t)
  | .remove k id, t =>
    if ((t k).find id).isSome then (some (),Function.update t k ((t k).delete fun i _ => i=id))
    else (none,t)

/-- Whether a request only reads. -/
def Request.reads : Request Row → Bool
  | .get _ _ => true
  | _ => false

lemma Request.perform_reads {q : Request Row} (h : q.reads) (t : TableFamily Row) :
    (q.perform t).2=t := by
  cases q with
  | get k query => rfl
  | add k row => cases h
  | set k id change => cases h
  | remove k id => cases h

/-- Whether a request may change a table. -/
def Request.writes (k : K) : Request Row → Bool
  | .get _ _ => false
  | .add k' _ | .set k' _ _ | .remove k' _ => k'=k

lemma Request.perform_spares {q : Request Row} {k : K} (h : q.writes k=false)
    (t : TableFamily Row) : (q.perform t).2 k=t k := by
  cases q with
  | get _ _ => rfl
  | add k' row => exact Function.update_of_ne (fun heq => of_decide_eq_false h heq.symm) ..
  | set k' id change =>
    unfold Request.perform
    dsimp only
    split_ifs
    · exact Function.update_of_ne (fun heq => of_decide_eq_false h heq.symm) ..
    · rfl
  | remove k' id =>
    unfold Request.perform
    dsimp only
    split_ifs
    · exact Function.update_of_ne (fun heq => of_decide_eq_false h heq.symm) ..
    · rfl

section Rows
variable {α : Type}

lemma delete_congr {t : Table α} {p q : ℕ → α → Bool} (h : ∀ r ∈ t.rows, p r.1 r.2=q r.1 r.2) :
    t.delete p=t.delete q := by
  have hrows : t.rows.filter (fun r => !p r.1 r.2)=t.rows.filter fun r => !q r.1 r.2 :=
    List.filter_congr fun r hr => by rw [h r hr]
  unfold Table.delete
  congr 1

lemma delete_delete (t : Table α) (p q : ℕ → α → Bool) :
    (t.delete p).delete q=t.delete fun i a => p i a || q i a := by
  have hrows : (t.rows.filter fun r => !p r.1 r.2).filter (fun r => !q r.1 r.2)=
      t.rows.filter fun r => !(p r.1 r.2 || q r.1 r.2) := by
    rw [List.filter_filter]
    exact List.filter_congr fun r _ => by rw [Bool.not_or,Bool.and_comm]
  unfold Table.delete
  congr 1

lemma delete_none (t : Table α) : (t.delete fun _ _ => false)=t := by
  have hrows : (t.rows.filter fun _ => !false)=t.rows := by simp
  obtain ⟨rows,last,increasing,bounded⟩ := t
  unfold Table.delete
  congr 1

/-- The numbers of the rows that a query finds are those of no other rows. -/
lemma mem_select_numbers {t : Table α} {p : ℕ → α → Bool} {r : ℕ × α} (hr : r ∈ t.rows) :
    r.1 ∈ (t.select p).map Prod.fst ↔ p r.1 r.2 := by
  constructor
  · intro h
    obtain ⟨r',hr',hid⟩ := List.mem_map.mp h
    obtain ⟨hfind,hp⟩ := Table.mem_select.mp hr'
    have hrow : t.find r.1=some r.2 := Table.mem_iff.mp hr
    rw [hid,hrow] at hfind
    rw [Option.some.inj hfind,← hid]
    exact hp
  · intro h
    exact List.mem_map.mpr ⟨r,List.mem_filter.mpr ⟨hr,h⟩,rfl⟩

lemma select_numbers_nodup (t : Table α) (p : ℕ → α → Bool) :
    ((t.select p).map Prod.fst).Nodup := by
  have hrows : (t.select p).Pairwise fun r r' => r.1 < r'.1 := t.increasing.filter _
  exact List.pairwise_map.mpr (hrows.imp fun h => Nat.ne_of_lt h)

/-- Removing the rows that a query finds by their numbers is removing them by the query. -/
lemma delete_numbers (t : Table α) (p : ℕ → α → Bool) :
    (t.delete fun i _ => ((t.select p).map Prod.fst).contains i)=t.delete p := by
  refine delete_congr fun r hr => ?_
  rw [Bool.eq_iff_iff,List.contains_iff_mem]
  exact mem_select_numbers hr

end Rows

namespace TableFamily
variable (t : TableFamily Row) (k : K)

/-- Remove the rows that a query finds. -/
def without (query : Row k → Bool) : TableFamily Row :=
  Function.update t k ((t k).delete fun _ row => query row)

def adding (row : Row k) : TableFamily Row := Function.update t k ((t k).insert row)

def changing (id : ℕ) (change : Row k → Row k) : TableFamily Row :=
  Function.update t k ((t k).modify id change)

variable {t k} {k' : K}

@[simp] lemma without_self (query : Row k → Bool) :
    t.without k query k=(t k).delete fun _ row => query row := Function.update_self ..

@[simp] lemma adding_self (row : Row k) : t.adding k row k=(t k).insert row :=
  Function.update_self ..

lemma without_of_ne (h : k'≠k) (query : Row k → Bool) : t.without k query k'=t k' :=
  Function.update_of_ne h ..

lemma adding_of_ne (h : k'≠k) (row : Row k) : t.adding k row k'=t k' := Function.update_of_ne h ..

lemma changing_of_ne (h : k'≠k) (id : ℕ) (change : Row k → Row k) :
    t.changing k id change k'=t k' := Function.update_of_ne h ..

omit [DecidableEq K] in
/-- The rows of a table decide what a query finds in it. -/
lemma rows_congr {t' : TableFamily Row} (h : t' k=t k) (query : Row k → Bool) :
    t'.rows k query=t.rows k query := by rw [rows,rows,h]

lemma rows_without (removed query : Row k → Bool) :
    (t.without k removed).rows k query=(t.rows k query).filter fun r => !removed r.2 := by
  unfold rows
  rw [without_self]
  exact (List.filter_filter ..).trans ((List.filter_congr fun _ _ => Bool.and_comm ..).trans
    (List.filter_filter ..).symm)

lemma rows_without_self (query : Row k → Bool) : (t.without k query).rows k query=[] := by
  rw [rows_without]
  refine List.filter_eq_nil_iff.mpr fun r hr => ?_
  simpa using (List.mem_filter.mp hr).2

/-- A query that asks for other rows finds the same as before. -/
lemma rows_without_disjoint {removed query : Row k → Bool}
    (h : ∀ row, query row → removed row=false) :
    (t.without k removed).rows k query=t.rows k query := by
  rw [rows_without]
  refine List.filter_eq_self.mpr fun r hr => ?_
  rw [h r.2 (List.mem_filter.mp hr).2]
  rfl

lemma rows_adding (row : Row k) (query : Row k → Bool) :
    (t.adding k row).rows k query=
      t.rows k query ++ if query row then [((t k).next,row)] else [] := by
  unfold rows
  rw [adding_self]
  unfold Table.select Table.insert
  rw [List.filter_append]
  by_cases h : query row
  · simp [h]
  · simp [h]

lemma rows_adding_of_not {row : Row k} {query : Row k → Bool} (h : query row=false) :
    (t.adding k row).rows k query=t.rows k query := by
  rw [rows_adding,if_neg (by simp [h]),List.append_nil]

/-- A change that leaves alone what a query asks for. -/
lemma rows_changing {id : ℕ} {change : Row k → Row k} {query : Row k → Bool}
    (h : ∀ row, query (change row)=query row) : (t.changing k id change).rows k query=
      (t.rows k query).map fun r => (r.1,if r.1=id then change r.2 else r.2) := by
  have hquery (r : ℕ × Row k) : query (if r.1=id then change r.2 else r.2)=query r.2 := by
    split_ifs
    · exact h r.2
    · rfl
  unfold rows changing
  rw [Function.update_self]
  unfold Table.select Table.modify Table.update
  rw [List.filter_map]
  simp only [Function.comp_def,decide_eq_true_eq,hquery]

/-- What is removed may be changed before. -/
lemma without_changing {id : ℕ} {change : Row k → Row k} {query : Row k → Bool}
    (h : ∀ row, query (change row)=query row) (hid : ∀ row, (t k).find id=some row → query row) :
    (t.changing k id change).without k query=t.without k query := by
  have hquery (r : ℕ × Row k) : query (if r.1=id then change r.2 else r.2)=query r.2 := by
    split_ifs
    · exact h r.2
    · rfl
  have hrows : ((t k).modify id change).delete (fun _ row => query row)=
      (t k).delete fun _ row => query row := by
    have hfiltered : ((t k).rows.map fun r => (r.1,if r.1=id then change r.2 else r.2)).filter
        (fun r => !query r.2)=(t k).rows.filter fun r => !query r.2 := by
      rw [List.filter_map]
      simp only [Function.comp_def,hquery]
      refine (List.map_congr_left fun r hr => ?_).trans (List.map_id _)
      obtain ⟨hmem,hnot⟩ := List.mem_filter.mp hr
      have hne : r.1≠id := fun heq => by
        rw [hid r.2 (heq ▸ Table.mem_iff.mp hmem)] at hnot
        cases hnot
      rw [if_neg hne]
      rfl
    unfold Table.delete Table.modify Table.update
    simp only [decide_eq_true_eq]
    congr 1
  unfold without changing
  rw [Function.update_self,hrows,Function.update_idem]

end TableFamily
end Requests
