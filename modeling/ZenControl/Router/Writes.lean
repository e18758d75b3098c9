import ZenControl.Router.Readings

/-! Single writes: what they leave behind when no call fails, and the states in between while
calls may fail. -/
namespace ZenControl.Router
open Calls Requests Rows

section Writes
variable {s : System} {n : ℕ} {I : System → Prop}

lemma exec_removing (k : Resource) (query : Row k → Bool) (s : System) :
    exec (removeFound k query) s=(.ok (),s.withTables (s.router.tables.without k query)) :=
  exec_removeFound k query s

lemma exec_adding (k : Resource) (row : Row k) (s : System) :
    exec (add k row) s=(.ok (),s.withTables (s.router.tables.adding k row)) := exec_add k row s

lemma exec_changing {k : Resource} {id : ℕ} (h : ((s.router.tables k).find id).isSome)
    (change : Row k → Row k) : exec (set k id change) s=
      (.ok (),s.withTables (s.router.tables.changing k id change)) := exec_set h change

/-- The state without some rows of a table. -/
def System.dropping (s : System) (k : Resource) (p : ℕ → Row k → Bool) : System :=
  s.withTables (Function.update s.router.tables k ((s.router.tables k).delete p))

/-- The state without the rows of some numbers. -/
def System.removed (s : System) (k : Resource) (numbers : List ℕ) : System :=
  s.dropping k fun i _ => numbers.contains i

lemma removed_nil (s : System) (k : Resource) : s.removed k []=s := by
  have hnone : (s.router.tables k).delete (fun i _ => ([] : List ℕ).contains i)=
      s.router.tables k := delete_none _
  unfold System.removed System.dropping
  rw [hnone,Function.update_eq_self]
  rfl

/-- Rows that a query finds, removed by their numbers, are removed by the query and more. -/
lemma removed_eq_dropping {k : Resource} {query : Row k → Bool} {numbers : List ℕ}
    (h : ∀ i ∈ numbers, i ∈ (s.router.tables.rows k query).map Prod.fst) :
    s.removed k numbers=s.dropping k fun i row => numbers.contains i && query row := by
  refine congrArg (fun t => s.withTables (Function.update s.router.tables k t))
    (delete_congr fun r hr => ?_)
  cases hgone : numbers.contains r.1 with
  | false => rfl
  | true =>
    have hquery := (mem_select_numbers (p:=fun _ row => query row) hr).mp
      (h r.1 (List.contains_iff_mem.mp hgone))
    rw [hquery]
    rfl

lemma removed_snoc (s : System) (k : Resource) (numbers : List ℕ) (i : ℕ) :
    (s.removed k numbers).dropping k (fun j _ => j=i)=s.removed k (numbers ++ [i]) := by
  unfold System.removed System.dropping
  simp only [System.withTables_tables,System.withTables_withTables,Function.update_self,
    Function.update_idem,delete_delete]
  refine congrArg (fun t => s.withTables (Function.update s.router.tables k t))
    (delete_congr fun r _ => ?_)
  simp [Bool.or_comm]

/-- Removing one row by its number. -/
lemma withstands_remove {k : Resource} {id : ℕ} {Q : Except Failure Unit → ℕ → System → Prop}
    (h : ((s.router.tables k).find id).isSome) (start : I s)
    (served : I (s.dropping k fun i _ => i=id) ∧ Q (.ok ()) n (s.dropping k fun i _ => i=id))
    (failed : ∀ e m, n=m+1 → Q (.error e) m s ∧ Q (.error e) m (s.dropping k fun i _ => i=id)) :
    (remove k id).Withstands router I n s Q := by
  have hserve : router.serve (.request (.remove k id)) s=
      (.ok (),s.dropping k fun i _ => i=id) := (exec_call _ s).symm.trans (exec_remove h)
  exact Prog.withstands_issue start (hserve ▸ served) fun e m _ hm => hserve ▸ failed e m hm

/-- Removing the rows that a query has found, while calls may fail: some of them are gone. -/
lemma withstands_removeEach {k : Resource} {query : Row k → Bool}
    {Q : Except Failure Unit → ℕ → System → Prop}
    (keep : ∀ p, (∀ i row, p i row → query row) → I (s.dropping k p))
    (done : Q (.ok ()) n (s.withTables (s.router.tables.without k query)))
    (failed : ∀ e m p, n=m+1 → (∀ i row, p i row → query row) →
      Q (.error e) m (s.dropping k p)) :
    (Prog.forEach (s.router.tables.rows k query) fun r => remove k r.1).Withstands
      router I n s Q := by
  let numbers := (s.router.tables.rows k query).map Prod.fst
  -- what holds of a part of the rows holds of the state without it
  have part {P : System → Prop} (h : ∀ p, (∀ i row, p i row → query row) → P (s.dropping k p))
      {gone : List ℕ} (hgone : ∀ i ∈ gone, i ∈ numbers) : P (s.removed k gone) := by
    rw [removed_eq_dropping hgone]
    exact h _ fun i row h => (Bool.and_eq_true_iff.mp h).2
  have hnil (i : ℕ) (hi : i ∈ ([] : List ℕ)) : i ∈ numbers := absurd hi List.not_mem_nil
  have hstart : I s := removed_nil s k ▸ part keep hnil
  refine Prog.withstands_forEach (fun rest m t => m=n ∧ ∃ gone,
    gone ++ rest.map Prod.fst=numbers ∧ t=s.removed k gone) ⟨rfl,[],rfl,(removed_nil s k).symm⟩
    hstart (fun r rest m t ht hJ => ?_) fun m t ht hJ => ?_
  · obtain ⟨rfl,gone,hgone,rfl⟩ := hJ
    have hnodup : (gone ++ r.1::rest.map Prod.fst).Nodup :=
      hgone ▸ select_numbers_nodup (s.router.tables k) fun _ row => query row
    have hmem (i : ℕ) (hi : i ∈ gone ++ [r.1]) : i ∈ numbers := by
      rw [← hgone]
      rcases List.mem_append.mp hi with hi | hi
      · exact List.mem_append_left _ hi
      · exact List.mem_append_right _ (List.mem_singleton.mp hi ▸ List.mem_cons_self)
    have hgone' (i : ℕ) (hi : i ∈ gone) : i ∈ numbers := hmem i (List.mem_append_left _ hi)
    have hfind : (((s.removed k gone).router.tables k).find r.1).isSome := by
      obtain ⟨row,hrow,hid⟩ := List.mem_map.mp (hmem r.1 (by simp))
      have hstored : (s.router.tables k).find r.1=some row.2 := hid ▸ (Table.mem_select.mp hrow).1
      have hnot : r.1 ∉ gone := fun h =>
        (List.nodup_append.mp hnodup).2.2 r.1 h r.1 List.mem_cons_self rfl
      unfold System.removed System.dropping
      rw [System.withTables_tables,Function.update_self,Table.find_delete,hstored]
      simp [hnot]
    refine withstands_remove hfind ht ?_ fun e m hm => ?_
    · rw [removed_snoc]
      exact ⟨part keep hmem,rfl,gone ++ [r.1],by rw [← hgone]; simp,rfl⟩
    · rw [removed_snoc]
      exact ⟨part (fun p => failed e m p hm) hgone',part (fun p => failed e m p hm) hmem⟩
  · obtain ⟨rfl,gone,hgone,rfl⟩ := hJ
    have hall : gone=numbers := by simpa using hgone
    have hwithout : s.removed k gone=s.withTables (s.router.tables.without k query) := by
      rw [hall]
      exact congrArg (fun t => s.withTables (Function.update s.router.tables k t))
        (delete_numbers _ fun _ row => query row)
    rw [hwithout]
    exact done

/-- Removing what a query finds, while calls may fail: some of the rows are gone. -/
lemma withstands_removeFound {k : Resource} {query : Row k → Bool}
    {Q : Except Failure Unit → ℕ → System → Prop}
    (keep : ∀ p, (∀ i row, p i row → query row) → I (s.dropping k p))
    (done : Q (.ok ()) n (s.withTables (s.router.tables.without k query)))
    (failed : ∀ e m p, n=m+1 → (∀ i row, p i row → query row) →
      Q (.error e) m (s.dropping k p)) :
    (removeFound k query).Withstands router I n s Q := by
  have hnone {P : System → Prop} (h : ∀ p, (∀ i row, p i row → query row) → P (s.dropping k p)) :
      P s := by
    have hnil := h (fun i _ => ([] : List ℕ).contains i) nofun
    exact removed_nil s k ▸ hnil
  exact Prog.withstands_bind (withstands_entries (hnone keep)
    (withstands_removeEach keep done failed) fun e m hm => hnone fun p => failed e m p hm)

/-- Adding a row. -/
lemma withstands_add {k : Resource} {row : Row k} {Q : Except Failure Unit → ℕ → System → Prop}
    (start : I s) (served : I (s.withTables (s.router.tables.adding k row)) ∧
      Q (.ok ()) n (s.withTables (s.router.tables.adding k row)))
    (failed : ∀ e m, n=m+1 → Q (.error e) m s ∧
      Q (.error e) m (s.withTables (s.router.tables.adding k row))) :
    (add k row).Withstands router I n s Q :=
  Prog.withstands_issue start served fun e m _ hm => failed e m hm

/-- Changing a row that is there. -/
lemma withstands_set {k : Resource} {id : ℕ} {change : Row k → Row k}
    {Q : Except Failure Unit → ℕ → System → Prop} (h : ((s.router.tables k).find id).isSome)
    (start : I s) (served : I (s.withTables (s.router.tables.changing k id change)) ∧
      Q (.ok ()) n (s.withTables (s.router.tables.changing k id change)))
    (failed : ∀ e m, n=m+1 → Q (.error e) m s ∧
      Q (.error e) m (s.withTables (s.router.tables.changing k id change))) :
    (set k id change).Withstands router I n s Q := by
  have hserve : router.serve (.request (.set k id change)) s=
      (.ok (),s.withTables (s.router.tables.changing k id change)) :=
    (exec_call _ s).symm.trans (exec_changing h change)
  exact Prog.withstands_issue start (hserve ▸ served) fun e m _ hm => hserve ▸ failed e m hm

end Writes
end ZenControl.Router
