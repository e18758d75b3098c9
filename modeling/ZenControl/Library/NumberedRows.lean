import Mathlib.Tactic.Common
import Mathlib.Data.Nat.Notation

/-! Tables whose rows are numbered by the store. A number is given out once: the rows stand
in the order of their numbers, and none is above the last one given out. A table is read
through `find`, and every statement on it is described by what `find` sees afterwards. -/
namespace Rows
variable {α : Type}

/-- A table with an automatic integer key. -/
structure Table (α : Type) where
  rows : List (ℕ × α)
  last : ℕ
  increasing : rows.Pairwise fun r r' => r.1 < r'.1
  bounded : ∀ r ∈ rows, r.1 ≤ last

namespace Table

/-- A table in which no row was ever inserted. -/
def empty : Table α := ⟨[],0,.nil,by simp⟩

instance : Inhabited (Table α) := ⟨empty⟩

/-- The row of a number. -/
def find (t : Table α) (k : ℕ) : Option α := (t.rows.find? fun r => r.1=k).map Prod.snd

/-- The number of the next row. -/
def next (t : Table α) : ℕ := t.last+1

def insert (t : Table α) (a : α) : Table α where
  rows := t.rows ++ [(t.next,a)]
  last := t.next
  increasing := by
    refine List.pairwise_append.mpr ⟨t.increasing,List.pairwise_singleton _ _,?_⟩
    intro r hr r' hr'
    rw [List.mem_singleton] at hr'
    subst hr'
    exact Nat.lt_succ_of_le (t.bounded r hr)
  bounded := by
    intro r hr
    rcases List.mem_append.mp hr with hr | hr
    · exact Nat.le_succ_of_le (t.bounded r hr)
    · rw [List.mem_singleton] at hr
      subst hr
      exact Nat.le_refl _

/-- Change the rows that meet a condition. -/
def update (t : Table α) (p : ℕ → α → Bool) (f : α → α) : Table α where
  rows := t.rows.map fun r => (r.1,if p r.1 r.2 then f r.2 else r.2)
  last := t.last
  increasing := List.pairwise_map.mpr t.increasing
  bounded := by
    intro r hr
    obtain ⟨s,hs,rfl⟩ := List.mem_map.mp hr
    exact t.bounded s hs

/-- Change the row of a number. -/
def modify (t : Table α) (k : ℕ) (f : α → α) : Table α := t.update (fun i _ => i=k) f

/-- Drop the rows that meet a condition. -/
def delete (t : Table α) (p : ℕ → α → Bool) : Table α where
  rows := t.rows.filter fun r => !p r.1 r.2
  last := t.last
  increasing := t.increasing.filter _
  bounded r hr := t.bounded r (List.mem_filter.mp hr).1

/-- The rows that meet a condition, by their numbers. -/
def select (t : Table α) (p : ℕ → α → Bool) : List (ℕ × α) := t.rows.filter fun r => p r.1 r.2

/-- The first row that meets a condition. -/
def first (t : Table α) (p : α → Bool) : Option (ℕ × α) := t.rows.find? fun r => p r.2

/-- Insert a row unless another one stands in its way. -/
def insertUnless (t : Table α) (clash : α → Bool) (a : α) : Table α :=
  if (t.first clash).isSome then t else t.insert a

@[simp] lemma find_empty (k : ℕ) : (empty : Table α).find k=none := rfl

lemma find_of_mem {rows : List (ℕ × α)} (h : rows.Pairwise fun r r' => r.1 < r'.1) {k : ℕ}
    {a : α} (hr : (k,a) ∈ rows) : rows.find? (fun r => r.1=k)=some (k,a) := by
  induction rows with
  | nil => cases hr
  | cons first rows ih =>
    obtain ⟨hfirst,hrest⟩ := List.pairwise_cons.mp h
    rcases List.mem_cons.mp hr with rfl | hr
    · simp
    · have hne : first.1≠k := by
        have := hfirst (k,a) hr
        omega
      rw [List.find?_cons_of_neg (by simpa using hne)]
      exact ih hrest hr

theorem mem_iff {t : Table α} {k : ℕ} {a : α} : (k,a) ∈ t.rows ↔ t.find k=some a := by
  constructor
  · intro h
    rw [find,find_of_mem t.increasing h]; rfl
  · intro h
    obtain ⟨r,hr,rfl⟩ := Option.map_eq_some_iff.mp h
    have hk : r.1=k := by simpa using List.find?_some hr
    have := List.mem_of_find?_eq_some hr
    rwa [← hk]

lemma find_le {t : Table α} {k : ℕ} {a : α} (h : t.find k=some a) : k ≤ t.last :=
  t.bounded _ (mem_iff.mpr h)

lemma find_next (t : Table α) : t.find t.next=none := by
  cases h : t.find t.next with
  | none => rfl
  | some a =>
    have := find_le h
    unfold next at this
    omega

lemma find_insert (t : Table α) (a : α) (k : ℕ) :
    (t.insert a).find k=if k=t.next then some a else t.find k := by
  apply Option.ext
  intro b
  rw [← mem_iff]
  change (k,b) ∈ t.rows ++ [(t.next,a)] ↔ _
  rw [List.mem_append,List.mem_singleton,mem_iff,Prod.mk.injEq]
  split_ifs with hk
  · rw [hk,find_next]
    simp [eq_comm]
  · simp [hk]

lemma find_insert_of_find {t : Table α} {k : ℕ} {a b : α} (h : t.find k=some b) :
    (t.insert a).find k=some b := by
  have hne : k≠t.next := by
    have := find_le h
    unfold next
    omega
  rw [find_insert,if_neg hne,h]

lemma find_insert_cases {t : Table α} {k : ℕ} {a b : α} (h : (t.insert a).find k=some b) :
    t.find k=some b ∨ k=t.next ∧ b=a := by
  rw [find_insert] at h
  split_ifs at h with hk
  · exact .inr ⟨hk,(Option.some.inj h).symm⟩
  · exact .inl h

lemma find_update (t : Table α) (p : ℕ → α → Bool) (f : α → α) (k : ℕ) :
    (t.update p f).find k=(t.find k).map fun a => if p k a then f a else a := by
  apply Option.ext
  intro b
  rw [← mem_iff]
  change (k,b) ∈ t.rows.map _ ↔ _
  rw [List.mem_map,Option.map_eq_some_iff]
  constructor
  · rintro ⟨⟨i,a⟩,hr,heq⟩
    obtain ⟨rfl,rfl⟩ := Prod.mk.inj heq
    exact ⟨a,mem_iff.mp hr,rfl⟩
  · rintro ⟨a,ha,rfl⟩
    exact ⟨(k,a),mem_iff.mpr ha,rfl⟩

lemma find_modify (t : Table α) (i : ℕ) (f : α → α) (k : ℕ) :
    (t.modify i f).find k=if k=i then (t.find k).map f else t.find k := by
  rw [modify,find_update]
  by_cases hk : k=i <;> simp [hk]

lemma modify_of_find_none {t : Table α} {i : ℕ} (h : t.find i=none) (f : α → α) :
    t.modify i f=t := by
  obtain ⟨rows,last,increasing,bounded⟩ := t
  have hrows : rows.map (fun r => (r.1,if decide (r.1=i) then f r.2 else r.2))=rows := by
    refine (List.map_congr_left fun r hr => ?_).trans (List.map_id rows)
    have hne : r.1≠i := by
      rintro rfl
      rw [mem_iff.mp hr] at h
      cases h
    rw [decide_eq_false hne]; rfl
  unfold modify update
  simp only [hrows]

lemma modify_id (t : Table α) (i : ℕ) : t.modify i id=t := by
  obtain ⟨rows,last,increasing,bounded⟩ := t
  have hrows : rows.map (fun r => (r.1,if decide (r.1=i) then id r.2 else r.2))=rows := by
    refine (List.map_congr_left fun r _ => ?_).trans (List.map_id rows)
    split_ifs <;> rfl
  unfold modify update
  simp only [hrows]

lemma find_delete (t : Table α) (p : ℕ → α → Bool) (k : ℕ) :
    (t.delete p).find k=(t.find k).filter fun a => !p k a := by
  apply Option.ext
  intro b
  rw [← mem_iff]
  change (k,b) ∈ t.rows.filter _ ↔ _
  rw [List.mem_filter,mem_iff,Option.filter_eq_some_iff]

lemma mem_select {t : Table α} {p : ℕ → α → Bool} {r : ℕ × α} :
    r ∈ t.select p ↔ t.find r.1=some r.2 ∧ p r.1 r.2 := by
  rw [select,List.mem_filter,mem_iff]

lemma first_some {t : Table α} {p : α → Bool} {k : ℕ} {a : α} (h : t.first p=some (k,a)) :
    t.find k=some a ∧ p a :=
  ⟨mem_iff.mp (List.mem_of_find?_eq_some h),by simpa using List.find?_some h⟩

lemma first_none {t : Table α} {p : α → Bool} (h : t.first p=none) {k : ℕ} {a : α}
    (ha : t.find k=some a) : p a=false := by
  simpa using List.find?_eq_none.mp h (k,a) (mem_iff.mpr ha)

lemma first_isSome {t : Table α} {p : α → Bool} {k : ℕ} {a : α} (ha : t.find k=some a)
    (hp : p a) : ∃ k' a', t.first p=some (k',a') := by
  cases h : t.first p with
  | none => rw [first_none h ha] at hp; cases hp
  | some r => exact ⟨r.1,r.2,rfl⟩

/-- What holds of every row. -/
def All (P : α → Prop) (t : Table α) : Prop := ∀ k a, t.find k=some a → P a

lemma All.empty {P : α → Prop} : All P empty := fun _ _ h => by cases h

lemma All.insert {P : α → Prop} {t : Table α} {a : α} (h : t.All P) (ha : P a) :
    (t.insert a).All P := by
  intro k b hb
  rcases find_insert_cases hb with hb | ⟨-,rfl⟩
  · exact h k b hb
  · exact ha

lemma All.insertUnless {P : α → Prop} {t : Table α} {clash : α → Bool} {a : α} (h : t.All P)
    (ha : P a) : (t.insertUnless clash a).All P := by
  unfold Table.insertUnless
  split_ifs
  · exact h
  · exact h.insert ha

lemma All.update {P : α → Prop} {t : Table α} {p : ℕ → α → Bool} {f : α → α} (h : t.All P)
    (hf : ∀ k a, t.find k=some a → p k a → P (f a)) : (t.update p f).All P := by
  intro k b hb
  rw [find_update] at hb
  obtain ⟨a,ha,rfl⟩ := Option.map_eq_some_iff.mp hb
  split_ifs with hp
  · exact hf k a ha hp
  · exact h k a ha

lemma All.modify {P : α → Prop} {t : Table α} {i : ℕ} {f : α → α} (h : t.All P)
    (hf : ∀ a, t.find i=some a → P (f a)) : (t.modify i f).All P :=
  h.update fun k a ha hk => hf a (by rw [← of_decide_eq_true hk]; exact ha)

lemma All.delete {P : α → Prop} {t : Table α} {p : ℕ → α → Bool} (h : t.All P) :
    (t.delete p).All P := by
  intro k b hb
  rw [find_delete,Option.filter_eq_some_iff] at hb
  exact h k b hb.1

lemma All.foldl {β : Type} {P : α → Prop} {f : Table α → β → Table α} {bs : List β}
    {t : Table α} (h : t.All P) (hf : ∀ t b, t.All P → (f t b).All P) :
    (bs.foldl f t).All P := by
  induction bs generalizing t with
  | nil => exact h
  | cons b bs ih => exact ih (hf t b h)

lemma first_update (t : Table α) {p : ℕ → α → Bool} {f : α → α} {q : α → Bool}
    (hq : ∀ a, q (f a)=q a) :
    (t.update p f).first q=(t.first q).map fun r => (r.1,if p r.1 r.2 then f r.2 else r.2) := by
  change (t.rows.map _).find? _=(t.rows.find? _).map _
  induction t.rows with
  | nil => rfl
  | cons r rows ih =>
    have hr : q (if p r.1 r.2 then f r.2 else r.2)=q r.2 := by
      split_ifs
      · exact hq r.2
      · rfl
    rw [List.map_cons,List.find?_cons,List.find?_cons,hr]
    cases q r.2 with
    | true => rfl
    | false => exact ih

/-- A loop over rows, each of which is changed by its own turn only. -/
lemma find_foldl {σ : Type} (get : σ → Table α) (step : σ → ℕ × α → σ) {g : α → α}
    (hstep : ∀ s i a, (get s).find i=some a → ∀ k,
      (get (step s (i,a))).find k=if k=i then some (g a) else (get s).find k)
    {rows : List (ℕ × α)} (hrows : rows.Pairwise fun r r' => r.1 < r'.1) {s : σ}
    (hfind : ∀ r ∈ rows, (get s).find r.1=some r.2) (k : ℕ) :
    (get (rows.foldl step s)).find k=
      ((get s).find k).map fun a => if k ∈ rows.map Prod.fst then g a else a := by
  induction rows generalizing s with
  | nil => simp
  | cons first rows ih =>
    obtain ⟨i,a⟩ := first
    obtain ⟨hfirst,hrest⟩ := List.pairwise_cons.mp hrows
    have hi : (get s).find i=some a := hfind (i,a) List.mem_cons_self
    have hone := hstep s i a hi
    have hnext : ∀ r ∈ rows, (get (step s (i,a))).find r.1=some r.2 := by
      intro r hr
      have hne : r.1≠i := by
        have := hfirst r hr
        dsimp only at this
        omega
      rw [hone,if_neg hne]
      exact hfind r (List.mem_cons_of_mem _ hr)
    rw [List.foldl_cons,ih hrest hnext,hone]
    by_cases hk : k=i
    · subst hk
      have hmem : k ∉ rows.map Prod.fst := by
        intro hmem
        obtain ⟨r,hr,hrk⟩ := List.mem_map.mp hmem
        have := hfirst r hr
        dsimp only at this
        omega
      simp [hi,hmem]
    · rw [if_neg hk]
      congr 1; funext b; simp only [List.map_cons,List.mem_cons,hk,false_or]

/-- An invariant of a loop over rows, each of which is still there when its turn comes. -/
lemma foldl_invariant {σ : Type} (get : σ → Table α) (step : σ → ℕ × α → σ) {I : σ → Prop}
    (hstep : ∀ s i a, I s → (get s).find i=some a →
      I (step s (i,a)) ∧ ∀ k, k≠i → (get (step s (i,a))).find k=(get s).find k)
    {rows : List (ℕ × α)} (hrows : rows.Pairwise fun r r' => r.1 < r'.1) {s : σ} (hI : I s)
    (hfind : ∀ r ∈ rows, (get s).find r.1=some r.2) : I (rows.foldl step s) := by
  induction rows generalizing s with
  | nil => exact hI
  | cons first rows ih =>
    obtain ⟨i,a⟩ := first
    obtain ⟨hfirst,hrest⟩ := List.pairwise_cons.mp hrows
    obtain ⟨hnext,hkeep⟩ := hstep s i a hI (hfind (i,a) List.mem_cons_self)
    refine ih hrest hnext fun r hr => ?_
    have hne : r.1≠i := by
      have := hfirst r hr
      dsimp only at this
      omega
    rw [hkeep _ hne]
    exact hfind r (List.mem_cons_of_mem _ hr)

/-- No two rows have the same key. -/
def Unique {β : Type} (key : α → β) (t : Table α) : Prop :=
  ∀ k k' a a', t.find k=some a → t.find k'=some a' → key a=key a' → k=k'

section Unique
variable {β : Type} {key : α → β} {t : Table α}

lemma Unique.empty : (empty : Table α).Unique key := fun _ _ _ _ h => by cases h

lemma Unique.insert {a : α} (h : t.Unique key) (ha : ∀ k b, t.find k=some b → key b≠key a) :
    (t.insert a).Unique key := by
  intro k k' b b' hb hb' hkey
  rcases find_insert_cases hb with hold | ⟨rfl,rfl⟩
  · rcases find_insert_cases hb' with hold' | ⟨-,rfl⟩
    · exact h k k' b b' hold hold' hkey
    · exact absurd hkey (ha k b hold)
  · rcases find_insert_cases hb' with hold' | ⟨rfl,-⟩
    · exact absurd hkey.symm (ha k' b' hold')
    · rfl

lemma Unique.update {p : ℕ → α → Bool} {f : α → α} (h : t.Unique key)
    (hf : ∀ a, key (f a)=key a) : (t.update p f).Unique key := by
  intro k k' b b' hb hb' hkey
  rw [find_update] at hb hb'
  obtain ⟨a,ha,rfl⟩ := Option.map_eq_some_iff.mp hb
  obtain ⟨a',ha',rfl⟩ := Option.map_eq_some_iff.mp hb'
  refine h k k' a a' ha ha' ?_
  split_ifs at hkey <;> simpa only [hf] using hkey

lemma Unique.delete {p : ℕ → α → Bool} (h : t.Unique key) : (t.delete p).Unique key := by
  intro k k' b b' hb hb' hkey
  rw [find_delete,Option.filter_eq_some_iff] at hb hb'
  exact h k k' b b' hb.1 hb'.1 hkey

/-- Under a unique key the first row of a key is the row of that key. -/
lemma Unique.first_eq [DecidableEq β] (h : t.Unique key) {k : ℕ} {a : α}
    (ha : t.find k=some a) : t.first (fun r => key r=key a)=some (k,a) := by
  obtain ⟨k',a',hfirst⟩ := first_isSome ha (p:=fun r => key r=key a) (by simp)
  obtain ⟨ha',hkey⟩ := first_some hfirst
  obtain rfl := h k' k a' a ha' ha (by simpa using hkey)
  obtain rfl : a'=a := Option.some.inj (ha'.symm.trans ha)
  exact hfirst

/-- Under a unique key a change of the first row of a key is a change of the rows of that key. -/
lemma Unique.find_modify_first [DecidableEq β] (h : t.Unique key) {b : β} {i : ℕ} {a : α}
    (hfirst : t.first (fun r => key r=b)=some (i,a)) (f : α → α) (k : ℕ) :
    (t.modify i f).find k=(t.find k).map fun r => if key r=b then f r else r := by
  obtain ⟨hi,hb⟩ := first_some hfirst
  have hb : key a=b := by simpa using hb
  rw [find_modify]
  cases hk : t.find k with
  | none => simp
  | some r =>
    by_cases hki : k=i
    · subst hki
      obtain rfl : a=r := Option.some.inj (hi.symm.trans hk)
      simp [hb]
    · have hne : key r≠b := fun hr => hki (h k i r a hk hi (hr.trans hb.symm))
      simp [hki,hne]

/-- Without a row of a key there is nothing to change. -/
lemma find_of_first_none [DecidableEq β] {b : β} (hfirst : t.first (fun r => key r=b)=none)
    (f : α → α) (k : ℕ) : t.find k=(t.find k).map fun r => if key r=b then f r else r := by
  cases hk : t.find k with
  | none => rfl
  | some r =>
    have hne : key r≠b := by simpa using first_none hfirst hk
    simp [hne]

end Unique

@[simp] lemma next_update (t : Table α) (p : ℕ → α → Bool) (f : α → α) :
    (t.update p f).next=t.next := rfl
@[simp] lemma next_modify (t : Table α) (i : ℕ) (f : α → α) : (t.modify i f).next=t.next := rfl
@[simp] lemma next_insert (t : Table α) (a : α) : (t.insert a).next=t.next+1 := rfl

end Table
end Rows
