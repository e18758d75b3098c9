import Mathlib.Tactic.Common
import Mathlib.Data.Nat.Notation

/-! Tables with a key, as lists of rows. -/
namespace Rows
variable {α κ : Type} [DecidableEq κ] {key : α → κ}

/-- The row of a key. -/
def row (key : α → κ) (k : κ) (rows : List α) : Option α := rows.find? fun r => key r=k

/-- Replace the row with the key of `x`, or append `x`. -/
def put (key : α → κ) (x : α) : List α → List α
  | [] => [x]
  | r::rows => if key r=key x then x::rows else r::put key x rows

/-- Change the rows of a key. -/
def amend (key : α → κ) (k : κ) (f : α → α) (rows : List α) : List α :=
  rows.map fun r => if key r=k then f r else r

/-- Drop the rows of a key. -/
def drop (key : α → κ) (k : κ) (rows : List α) : List α := rows.filter fun r => key r≠k

attribute [grind =] row put amend drop

lemma row_some {k : κ} {rows : List α} {x : α} (h : row key k rows=some x) :
    x ∈ rows ∧ key x=k :=
  ⟨List.mem_of_find?_eq_some h,by simpa using List.find?_some h⟩

lemma row_put (x : α) (k : κ) (rows : List α) :
    row key k (put key x rows)=if key x=k then some x else row key k rows := by
  induction rows with
  | nil => by_cases h : key x=k <;> simp [row,put,h]
  | cons r rows ih =>
    by_cases hr : key r=key x
    · by_cases h : key x=k <;> simp [row,put,hr,h]
    · by_cases h : key r=k
      · have hx : key x≠k := fun e => hr (h.trans e.symm)
        simp [row,put,h,hx,show k≠key x from fun e => hx e.symm]
      · simp only [row,put,if_neg hr,List.find?_cons,decide_eq_false h] at ih ⊢
        exact ih

lemma mem_keys_put {x : α} {k : κ} {rows : List α} :
    k ∈ (put key x rows).map key ↔ k=key x ∨ k ∈ rows.map key := by
  induction rows with
  | nil => simp [put]
  | cons r rows ih =>
    unfold put
    split_ifs with hr
    · simp [hr]
    · simp only [List.map_cons,List.mem_cons,ih]
      tauto

lemma nodup_put {x : α} {rows : List α} (h : (rows.map key).Nodup) :
    ((put key x rows).map key).Nodup := by
  induction rows with
  | nil => simp [put]
  | cons r rows ih =>
    obtain ⟨hnew,hrest⟩ := List.nodup_cons.mp h
    unfold put
    split_ifs with hr
    · exact List.nodup_cons.mpr ⟨hr ▸ hnew,hrest⟩
    · refine List.nodup_cons.mpr ⟨fun hmem => ?_,ih hrest⟩
      rcases mem_keys_put.mp hmem with heq | hold
      · exact hr heq
      · exact hnew hold

/-- A row is the row of its key, when no two rows share one. -/
lemma row_of_mem {x : α} {rows : List α} (h : (rows.map key).Nodup) (hx : x ∈ rows) :
    row key (key x) rows=some x := by
  induction rows with
  | nil => cases hx
  | cons r rows ih =>
    obtain ⟨hnew,hrest⟩ := List.nodup_cons.mp h
    unfold row
    rcases List.mem_cons.mp hx with rfl | hx
    · exact List.find?_cons_of_pos (by simp)
    · have hne : key r≠key x := fun heq => hnew (heq ▸ List.mem_map_of_mem hx)
      rw [List.find?_cons_of_neg (by simpa using hne)]
      exact ih hrest hx

lemma row_amend {f : α → α} (hf : ∀ r, key (f r)=key r) (k l : κ) (rows : List α) :
    row key l (amend key k f rows)=
      if l=k then (row key l rows).map f else row key l rows := by
  induction rows with
  | nil => simp [row,amend]
  | cons r rows ih =>
    by_cases hl : l=k
    · subst hl
      by_cases hr : key r=l
      · simp [row,amend,hr,hf]
      · simpa [row,amend,hr] using ih
    · by_cases hr : key r=l
      · have hk : ¬key r=k := fun e => hl (hr.symm.trans e)
        simp [row,amend,hr,hl]
      · by_cases hk : key r=k
        · simpa [row,amend,hk,hf,hl,show ¬k=l from fun e => hl e.symm] using ih
        · simpa [row,amend,hr,hk,hl] using ih

end Rows
