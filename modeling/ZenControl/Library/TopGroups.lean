import Mathlib.Data.List.Dedup
import Mathlib.Data.List.Pairwise
import Mathlib.Data.List.Sort
import Mathlib.Data.Int.Order.Basic
import Mathlib.Tactic.Common

/-! Rows grouped by a key, the groups in the order of their latest rows, and the first of them. A
predicate on keys that further rows do not meet selects, with them, a prefix of what it selects
without them. -/
namespace TopGroups
variable {α κ ι : Type}

section Lists
variable {r : κ → κ → Prop} {l l' m : List κ} {x : κ}

/-- In a list without repetitions a prefix is longer than another if it has a member more. -/
lemma prefix_of_subset (h : l <+: m) (h' : l' <+: m) (hnodup : m.Nodup) (hsub : l ⊆ l') :
    l <+: l' := by
  rcases List.prefix_or_prefix_of_prefix h h' with hp | hp
  · exact hp
  · have hlength := (List.subperm_of_subset (hnodup.sublist h.sublist) hsub).length_le
    exact hp.eq_of_length_le hlength ▸ List.prefix_rfl

lemma take_of_forall {p : κ → Bool} : ∀ {l : List κ} {n : ℕ}, (∀ x ∈ l.take n, p x=true) →
    l.take n=(l.filter p).take n
  | [],_,_ => by simp
  | _::_,0,_ => by simp
  | x::l,n+1,h => by
    rw [List.take_succ_cons,List.filter_cons_of_pos (h x (by simp)),List.take_succ_cons,
      take_of_forall fun y hy => h y (by simp [hy])]

/-- In a strictly ordered list a member stands behind those before it in the order. -/
lemma mem_take_iff [DecidableRel r] (hasymm : ∀ a b, r a b → ¬r b a) :
    ∀ {l : List κ} {n : ℕ}, l.Pairwise r → x ∈ l → (x ∈ l.take n ↔ l.countP (r · x)<n)
  | y::l,0,_,_ => by simp
  | y::l,n+1,hl,hx => by
    obtain ⟨hy,hl⟩ := List.pairwise_cons.mp hl
    rw [List.take_succ_cons,List.countP_cons]
    by_cases hxy : x=y
    · subst hxy
      have hself : ¬r x x := fun h => hasymm x x h h
      have hrest : l.countP (r · x)=0 := by
        rw [List.countP_eq_zero]
        exact fun b hb => by simpa using hasymm x b (hy b hb)
      simp [hself,hrest]
    · have hmem : x ∈ l := (List.mem_cons.mp hx).resolve_left hxy
      have ih := mem_take_iff (n := n) hasymm hl hmem
      simp [hxy,hy x hmem,ih]

variable [DecidableRel r] [Std.Total r] [IsTrans κ r]

omit [Std.Total r] in
lemma filter_orderedInsert (p : κ → Bool) (a : κ) : ∀ {l : List κ}, l.Pairwise r →
    (l.orderedInsert r a).filter p=
      if p a then (l.filter p).orderedInsert r a else l.filter p
  | [],_ => by by_cases h : p a <;> simp [h]
  | b::l,hl => by
    obtain ⟨hb,hl⟩ := List.pairwise_cons.mp hl
    have ih := filter_orderedInsert p a hl
    by_cases hab : r a b
    · rw [List.orderedInsert_cons_of_le _ _ hab]
      split_ifs with hp
      · rw [List.filter_cons_of_pos hp]
        have hall : ∀ c ∈ (b::l).filter p, r a c := fun c hc => by
          rcases List.mem_cons.mp (List.mem_of_mem_filter hc) with rfl | hc
          · exact hab
          · exact trans_of r hab (hb c hc)
        cases hrest : (b::l).filter p with
        | nil => rfl
        | cons c rest =>
          rw [List.orderedInsert_cons_of_le _ _ (hall c (hrest ▸ List.mem_cons_self))]
      · rw [List.filter_cons_of_neg hp]
    · rw [List.orderedInsert_of_not_le _ _ hab]
      by_cases hpb : p b
      · rw [List.filter_cons_of_pos hpb,ih,List.filter_cons_of_pos hpb]
        split_ifs
        · rw [List.orderedInsert_of_not_le _ _ hab]
        · rfl
      · rw [List.filter_cons_of_neg hpb,ih,List.filter_cons_of_neg hpb]

/-- Sorting is stable: what a predicate selects is sorted by itself. -/
lemma filter_insertionSort (p : κ → Bool) (l : List κ) :
    (l.insertionSort r).filter p=(l.filter p).insertionSort r := by
  induction l with
  | nil => rfl
  | cons a l ih =>
    rw [List.insertionSort_cons,filter_orderedInsert p a (List.pairwise_insertionSort r l),ih]
    split_ifs with hp
    · rw [List.filter_cons_of_pos hp,List.insertionSort_cons]
    · rw [List.filter_cons_of_neg hp]

/-- Two parts of a list without repetitions that have the same members are the same. -/
lemma sublist_ext (h : l.Sublist m) (h' : l'.Sublist m) (hnodup : m.Nodup)
    (hmem : ∀ x, x ∈ l ↔ x ∈ l') : l=l' := by
  induction m generalizing l l' with
  | nil => rw [List.sublist_nil.mp h,List.sublist_nil.mp h']
  | cons a m ih =>
    obtain ⟨ha,hnodup⟩ := List.nodup_cons.mp hnodup
    cases h with
    | cons _ h =>
      cases h' with
      | cons _ h' => exact ih h h' hnodup hmem
      | cons_cons _ h' => exact absurd (h.subset ((hmem a).mpr List.mem_cons_self)) ha
    | cons_cons _ h =>
      cases h' with
      | cons _ h' => exact absurd (h'.subset ((hmem a).mp List.mem_cons_self)) ha
      | cons_cons _ h' =>
        refine congrArg (List.cons a) (ih h h' hnodup fun x => ?_)
        have hx := hmem x
        simp only [List.mem_cons] at hx
        by_cases hxa : x=a
        · exact iff_of_false (fun hin => ha (hxa ▸ h.subset hin)) fun hin =>
            ha (hxa ▸ h'.subset hin)
        · simpa [hxa] using hx

/-- Two parts of a list have the same first members in an order, if neither shows one that the
other lacks. -/
theorem take_insertionSort_eq {n : ℕ} (h : l.Sublist m) (h' : l'.Sublist m) (hnodup : m.Nodup)
    (hl : ∀ x ∈ (l.insertionSort r).take n, x ∈ l')
    (hl' : ∀ x ∈ (l'.insertionSort r).take n, x ∈ l) :
    (l.insertionSort r).take n=(l'.insertionSort r).take n := by
  classical
  have hcommon : l.filter (· ∈ l')=l'.filter (· ∈ l) :=
    sublist_ext (List.filter_sublist.trans h) (List.filter_sublist.trans h') hnodup fun x => by
      simp only [List.mem_filter,decide_eq_true_eq]
      exact and_comm
  calc (l.insertionSort r).take n
      = ((l.insertionSort r).filter (· ∈ l')).take n :=
        take_of_forall fun x hx => decide_eq_true (hl x hx)
    _ = ((l'.insertionSort r).filter (· ∈ l)).take n := by
        rw [filter_insertionSort,hcommon,filter_insertionSort]
    _ = (l'.insertionSort r).take n :=
        (take_of_forall fun x hx => decide_eq_true (hl' x hx)).symm

/-- Where a class of members stands in order already and loses its last ones, the first members
of the whole list hold fewer of the class if they held a lost one. -/
theorem countP_take_lt {c : κ → Bool} {n : ℕ} (hsorted : (l.filter c).Pairwise r)
    (hinitial : l'.filter c <+: l.filter c) (hx : x ∈ (l.insertionSort r).take n) (hc : c x=true)
    (hlost : x ∉ l') :
    ((l'.insertionSort r).take n).countP c<((l.insertionSort r).take n).countP c := by
  have hshown : ((l.insertionSort r).take n).filter c <+: l.filter c := by
    have hp := ( List.take_prefix n (l.insertionSort r)).filter c
    rwa [filter_insertionSort,hsorted.insertionSort_eq] at hp
  have hxc : x ∈ ((l.insertionSort r).take n).filter c := List.mem_filter.mpr ⟨hx,hc⟩
  have hfewer : (l'.filter c).length<(((l.insertionSort r).take n).filter c).length := by
    rcases List.prefix_or_prefix_of_prefix hshown hinitial with hp | hp
    · exact absurd (List.mem_of_mem_filter (hp.subset hxc)) hlost
    · refine hp.length_le.lt_of_ne fun hlength => hlost ?_
      exact List.mem_of_mem_filter (hp.eq_of_length hlength ▸ hxc)
  rw [List.countP_eq_length_filter (l := (l.insertionSort r).take n)]
  refine lt_of_le_of_lt ?_ hfewer
  calc ((l'.insertionSort r).take n).countP c
      ≤ (l'.insertionSort r).countP c := (List.take_sublist _ _).countP_le
    _ = l'.countP c := (List.perm_insertionSort r l').countP_eq c
    _ = (l'.filter c).length := List.countP_eq_length_filter

end Lists

section Ranks
variable {r : κ → κ → Prop} {l : List κ} {a b x : κ}

/-- A member of a list stands before another once the list is put in order: it comes first in the
order, or it is as early and stood before the other already. -/
def Outranks (r : κ → κ → Prop) (l : List κ) (a b : κ) : Prop :=
  ¬r b a ∨ r a b ∧ [a,b].Sublist l

instance [DecidableEq κ] [DecidableRel r] : DecidableRel (Outranks r l) :=
  fun _ _ => inferInstanceAs (Decidable (_ ∨ _))

lemma pair_asymm : ∀ {l : List κ}, l.Nodup → [a,b].Sublist l → ¬[b,a].Sublist l
  | c::l,hnodup,h,h' => by
    obtain ⟨hc,hnodup⟩ := List.nodup_cons.mp hnodup
    cases h with
    | cons _ h =>
      cases h' with
      | cons _ h' => exact pair_asymm hnodup h h'
      | cons_cons _ _ => exact hc (h.subset (by simp))
    | cons_cons _ h =>
      cases h' with
      | cons _ h' => exact hc (h'.subset (by simp))
      | cons_cons _ _ => exact hc (h.subset (by simp))

lemma pair_total (ha : a ∈ l) (hb : b ∈ l) (hne : a≠b) : [a,b].Sublist l ∨ [b,a].Sublist l := by
  have hpairs : l.Pairwise fun a b => [a,b].Sublist l ∨ [b,a].Sublist l :=
    List.pairwise_of_forall_sublist fun h => .inl h
  have hsymm : Std.Symm fun a b => [a,b].Sublist l ∨ [b,a].Sublist l := ⟨fun _ _ h => h.symm⟩
  exact hpairs.forall ha hb hne

variable [DecidableRel r] [Std.Total r] [IsTrans κ r]

omit [DecidableRel r] [IsTrans κ r] in
lemma outranks_asymm (hnodup : l.Nodup) (a b : κ) (h : Outranks r l a b) : ¬Outranks r l b a := by
  rintro (hab | ⟨hba,hl'⟩)
  · rcases h with hba | ⟨hr,-⟩
    · exact (total_of r a b).elim hab hba
    · exact hab hr
  · rcases h with hn | ⟨-,hl⟩
    · exact hn hba
    · exact pair_asymm hnodup hl hl'

lemma outranks_insertionSort (hnodup : l.Nodup) :
    (l.insertionSort r).Pairwise (Outranks r l) := by
  have hordered := (List.perm_insertionSort r l).nodup_iff.mpr hnodup
  refine List.pairwise_of_forall_sublist fun {a b} hab => ?_
  have hr := (List.pairwise_insertionSort r l).forall_sublist hab
  by_cases hba : r b a
  · have ha : a ∈ l := (List.mem_insertionSort r).mp (hab.subset (by simp))
    have hb : b ∈ l := (List.mem_insertionSort r).mp (hab.subset (by simp))
    have hne : a≠b := by simpa using hordered.sublist hab
    refine .inr ⟨hr,(pair_total ha hb hne).resolve_right fun hback => ?_⟩
    exact pair_asymm hordered hab (List.pair_sublist_insertionSort hba hback)
  · exact .inl hba

/-- A member is among the first of the ordered list when fewer members stand before it. -/
theorem mem_take_insertionSort [DecidableEq κ] {n : ℕ} (hnodup : l.Nodup) (hx : x ∈ l) :
    x ∈ (l.insertionSort r).take n ↔ l.countP (Outranks r l · x)<n := by
  rw [mem_take_iff (outranks_asymm hnodup) (outranks_insertionSort hnodup)
    ((List.mem_insertionSort r).mpr hx),(List.perm_insertionSort r l).countP_eq]

end Ranks

section Firsts
variable [DecidableEq ι] {ident : κ → ι} {l l' : List κ} {seen : List ι} {x : κ}

/-- Drop what has the identity of something before it. -/
def firsts (ident : κ → ι) (seen : List ι) : List κ → List κ
  | [] => []
  | x::l =>
    if ident x ∈ seen then firsts ident seen l
    else x::firsts ident (ident x::seen) l

lemma firsts_cons (x : κ) (l : List κ) (seen : List ι) :
    firsts ident seen (x::l)=
      if ident x ∈ seen then firsts ident seen l else x::firsts ident (ident x::seen) l := rfl

lemma firsts_sublist : ∀ {l : List κ} {seen : List ι}, (firsts ident seen l).Sublist l
  | [],_ => List.Sublist.slnil
  | x::l,seen => by
    rw [firsts_cons]
    split_ifs
    · exact firsts_sublist.cons x
    · exact firsts_sublist.cons_cons x

/-- What is kept of a list is kept of every longer one, and behind it only what follows. -/
lemma firsts_append (ident : κ → ι) : ∀ (l l' : List κ) (seen : List ι),
    ∃ seen', firsts ident seen (l++l')=firsts ident seen l ++ firsts ident seen' l'
  | [],_,seen => ⟨seen,rfl⟩
  | x::l,l',seen => by
    rw [List.cons_append,firsts_cons,firsts_cons]
    split_ifs
    · exact firsts_append ident l l' seen
    · obtain ⟨seen',h⟩ := firsts_append ident l l' (ident x::seen)
      exact ⟨seen',by rw [h,List.cons_append]⟩

lemma firsts_initial (h : l <+: l') : firsts ident seen l <+: firsts ident seen l' := by
  obtain ⟨rest,rfl⟩ := h
  obtain ⟨seen',happend⟩ := firsts_append ident l rest seen
  exact happend ▸ List.prefix_append _ _

lemma mem_firsts_of_initial (h : l <+: l') (hnodup : l'.Nodup) (hx : x ∈ firsts ident seen l')
    (hl : x ∈ l) : x ∈ firsts ident seen l := by
  obtain ⟨rest,rfl⟩ := h
  obtain ⟨seen',happend⟩ := firsts_append ident l rest seen
  rw [happend,List.mem_append] at hx
  refine hx.resolve_right fun hrest => ?_
  exact (List.nodup_append.mp hnodup).2.2 x hl x (firsts_sublist.subset hrest) rfl

/-- Every identity of the list has its first. -/
lemma ident_firsts : ∀ {l : List κ} {seen : List ι} {x : κ}, x ∈ l → ident x ∉ seen →
    ∃ y ∈ firsts ident seen l, ident y=ident x
  | y::l,seen,x,hx,hseen => by
    rw [firsts_cons]
    rcases List.mem_cons.mp hx with rfl | hx
    · rw [if_neg hseen]
      exact ⟨x,by simp,rfl⟩
    · split_ifs with hy
      · exact ident_firsts hx hseen
      · by_cases hxy : ident x=ident y
        · exact ⟨y,by simp,hxy.symm⟩
        · obtain ⟨z,hz,hzx⟩ := ident_firsts hx (show ident x ∉ ident y::seen by simp [hxy,hseen])
          exact ⟨z,List.mem_cons_of_mem _ hz,hzx⟩

end Firsts

section Groups
variable [LinearOrder κ] (key : α → κ) (time : α → ℤ) (rows : List α)

/-- The rows of a group. -/
def group (k : κ) : List α := rows.filter fun row => key row=k

/-- The time of the latest row of a group. -/
def latest (k : κ) : ℤ := ((group key rows k).map time).max?.getD 0

/-- A group stands before another if it is later; groups that are as late stand in the order of
their keys. -/
def Before (a b : κ) : Prop :=
  latest key time rows b<latest key time rows a ∨
    latest key time rows a=latest key time rows b ∧ a<b

instance : DecidableRel (Before key time rows) := fun _ _ => inferInstanceAs (Decidable (_ ∨ _))

def groups : List κ := (rows.map key).dedup

/-- The groups in their order. -/
def ranked : List κ := (groups key rows).insertionSort fun a b => ¬Before key time rows b a

/-- The first groups. -/
def top (n : ℕ) : List κ := (ranked key time rows).take n

/-- How many groups stand before one. -/
def ahead (k : κ) : ℕ := (groups key rows).countP (Before key time rows · k)

variable {key time rows} {a b c k : κ} {n : ℕ}

lemma before_asymm (h : Before key time rows a b) : ¬Before key time rows b a := by
  rintro (h' | ⟨h',hba⟩) <;> rcases h with h | ⟨h,hab⟩
  · exact lt_asymm h h'
  · exact absurd h' (h ▸ lt_irrefl _)
  · exact absurd h (h' ▸ lt_irrefl _)
  · exact lt_asymm hab hba

lemma before_of_ne (hne : a≠b) : Before key time rows a b ∨ Before key time rows b a := by
  rcases lt_trichotomy (latest key time rows a) (latest key time rows b) with h | h | h
  · exact .inr (.inl h)
  · rcases lt_or_gt_of_ne hne with hab | hab
    · exact .inl (.inr ⟨h,hab⟩)
    · exact .inr (.inr ⟨h.symm,hab⟩)
  · exact .inl (.inl h)

lemma before_trans (h : Before key time rows a b) (h' : Before key time rows b c) :
    Before key time rows a c := by
  rcases h with h | ⟨h,hab⟩ <;> rcases h' with h' | ⟨h',hbc⟩
  · exact .inl (h'.trans h)
  · exact .inl (h' ▸ h)
  · exact .inl (h ▸ h')
  · exact .inr ⟨h.trans h',hab.trans hbc⟩

instance : Std.Total fun a b => ¬Before key time rows b a :=
  ⟨fun _ _ => or_iff_not_imp_left.mpr fun h => before_asymm (not_not.mp h)⟩

instance : IsTrans κ fun a b => ¬Before key time rows b a :=
  ⟨fun a b _ hba hcb hca => by
    by_cases hab : a=b
    · exact hcb (hab ▸ hca)
    · exact hcb (before_trans hca ((before_of_ne hab).resolve_right hba))⟩

lemma nodup_ranked : (ranked key time rows).Nodup :=
  (List.perm_insertionSort _ _).nodup_iff.mpr (List.nodup_dedup _)

lemma mem_ranked : k ∈ ranked key time rows ↔ k ∈ rows.map key := by
  unfold ranked groups
  rw [List.mem_insertionSort,List.mem_dedup]

lemma ranked_pairwise : (ranked key time rows).Pairwise (Before key time rows) := by
  have hsorted := List.pairwise_insertionSort (fun a b => ¬Before key time rows b a)
    (groups key rows)
  exact (hsorted.and nodup_ranked).imp fun ⟨h,hne⟩ => (before_of_ne hne).resolve_right h

/-- The time of a group is the time of one of its rows. -/
lemma latest_mem (hk : k ∈ rows.map key) :
    ∃ row ∈ rows, key row=k ∧ time row=latest key time rows k := by
  obtain ⟨first,hfirst,hkey⟩ := List.mem_map.mp hk
  have hin : time first ∈ (group key rows k).map time :=
    List.mem_map_of_mem (List.mem_filter.mpr ⟨hfirst,by simpa using hkey⟩)
  unfold latest
  cases hmax : ((group key rows k).map time).max? with
  | none => exact absurd (List.max?_eq_none_iff.mp hmax ▸ hin) (by simp)
  | some t =>
    obtain ⟨row,hrow,rfl⟩ := List.mem_map.mp (List.max?_eq_some_iff.mp hmax).1
    obtain ⟨hrow,hkey⟩ := List.mem_filter.mp hrow
    exact ⟨row,hrow,by simpa using hkey,rfl⟩

lemma le_latest {row : α} (hrow : row ∈ rows) (hkey : key row=k) :
    time row ≤ latest key time rows k := by
  have hin : time row ∈ (group key rows k).map time :=
    List.mem_map_of_mem (List.mem_filter.mpr ⟨hrow,by simpa using hkey⟩)
  unfold latest
  cases hmax : ((group key rows k).map time).max? with
  | none => exact absurd (List.max?_eq_none_iff.mp hmax ▸ hin) (by simp)
  | some t => exact (List.max?_eq_some_iff.mp hmax).2 _ hin

lemma latest_le_of_before (h : Before key time rows a b) :
    latest key time rows b ≤ latest key time rows a := by
  rcases h with h | ⟨h,-⟩
  · exact h.le
  · exact h.ge

/-- A group is among the first `n` when fewer than `n` stand before it. -/
lemma mem_top : k ∈ top key time rows n ↔ k ∈ rows.map key ∧ ahead key time rows k<n := by
  have hcount : (ranked key time rows).countP (Before key time rows · k)=ahead key time rows k :=
    (List.perm_insertionSort _ _).countP_eq _
  constructor
  · intro h
    have hk := List.mem_of_mem_take h
    exact ⟨mem_ranked.mp hk,
      hcount ▸ (mem_take_iff (fun _ _ => before_asymm) ranked_pairwise hk).mp h⟩
  · rintro ⟨hk,h⟩
    exact (mem_take_iff (fun _ _ => before_asymm) ranked_pairwise (mem_ranked.mpr hk)).mpr
      (hcount ▸ h)

/-- Groups that are later than one stand before it. -/
lemma le_ahead {more : List κ} (hnodup : more.Nodup)
    (hmore : ∀ a ∈ more, a ∈ rows.map key ∧ latest key time rows k<latest key time rows a) :
    more.length ≤ ahead key time rows k := by
  unfold ahead
  rw [List.countP_eq_length_filter]
  refine (List.subperm_of_subset hnodup fun a ha => ?_).length_le
  obtain ⟨hmem,hlater⟩ := hmore a ha
  exact List.mem_filter.mpr ⟨List.mem_dedup.mpr hmem,decide_eq_true (.inl hlater)⟩

lemma top_nil : top key time [] n=[] := List.take_nil

lemma nodup_top : (top key time rows n).Nodup := nodup_ranked.sublist (List.take_sublist _ _)

end Groups

section Further
variable [LinearOrder κ] {key : α → κ} {time : α → ℤ} {rows further : List α} {p : κ → Bool}
  {k : κ} {n : ℕ}

lemma group_append (h : ∀ row ∈ further, key row≠k) :
    group key (rows++further) k=group key rows k := by
  unfold group
  have hnone : further.filter (fun row => key row=k)=[] :=
    List.filter_eq_nil_iff.mpr fun row hrow => by simpa using h row hrow
  rw [List.filter_append,hnone,List.append_nil]

lemma latest_append (h : ∀ row ∈ further, key row≠k) :
    latest key time (rows++further) k=latest key time rows k := by
  unfold latest
  rw [group_append h]

/-- Further rows only make a group later. -/
lemma latest_le (hk : k ∈ rows.map key) :
    latest key time rows k ≤ latest key time (rows++further) k := by
  obtain ⟨row,hrow,hkey,htime⟩ := latest_mem hk
  exact htime ▸ le_latest (List.mem_append_left _ hrow) hkey

variable (hp : ∀ row ∈ further, p (key row)=false)
include hp

omit [LinearOrder κ] in
lemma selected_ne (hk : p k=true) : ∀ row ∈ further, key row≠k :=
  fun row hrow h => by simp [← h,hp row hrow] at hk

lemma latest_selected (hk : p k=true) :
    latest key time (rows++further) k=latest key time rows k := latest_append (selected_ne hp hk)

/-- Further rows put groups in front of a selected one and take none away. -/
lemma ahead_le (hk : p k=true) : ahead key time rows k ≤ ahead key time (rows++further) k := by
  unfold ahead
  rw [List.countP_eq_length_filter,List.countP_eq_length_filter]
  refine (List.subperm_of_subset ((List.nodup_dedup _).filter _) fun a ha => ?_).length_le
  obtain ⟨ha,hbefore⟩ := List.mem_filter.mp ha
  have ha := List.mem_dedup.mp ha
  refine List.mem_filter.mpr ⟨List.mem_dedup.mpr (by simp only [List.map_append,List.mem_append]
                                                     exact .inl ha),?_⟩
  have hle : latest key time rows a ≤ latest key time (rows++further) a := latest_le ha
  have hself : latest key time (rows++further) k=latest key time rows k := latest_selected hp hk
  rw [decide_eq_true_eq] at hbefore ⊢
  rcases hbefore with h | ⟨h,hlt⟩
  · exact .inl (hself ▸ h.trans_le hle)
  · rcases hle.lt_or_eq with hle | hle
    · exact .inl (by rw [hself,← h]; exact hle)
    · exact .inr ⟨by rw [hself,← h,hle],hlt⟩

lemma filter_ranked :
    (ranked key time (rows++further)).filter p=(ranked key time rows).filter p := by
  have hperm : ((ranked key time (rows++further)).filter p).Perm
      ((ranked key time rows).filter p) := by
    refine (List.perm_ext_iff_of_nodup (nodup_ranked.filter _)
      (nodup_ranked.filter _)).mpr fun k => ?_
    simp only [List.mem_filter,mem_ranked,List.map_append,List.mem_append]
    refine ⟨fun ⟨h,hk⟩ => ⟨h.resolve_right fun h => ?_,hk⟩,fun ⟨h,hk⟩ => ⟨.inl h,hk⟩⟩
    obtain ⟨row,hrow,hkey⟩ := List.mem_map.mp h
    exact selected_ne hp hk row hrow hkey
  have hsorted : ((ranked key time (rows++further)).filter p).Pairwise (Before key time rows) := by
    refine (ranked_pairwise.sublist List.filter_sublist).imp_of_mem fun ha hb h => ?_
    unfold Before at h ⊢
    rwa [latest_selected hp (List.mem_filter.mp ha).2,
      latest_selected hp (List.mem_filter.mp hb).2] at h
  exact hperm.eq_of_pairwise (fun _ _ _ _ h h' => absurd h' (before_asymm h)) hsorted
    (ranked_pairwise.sublist List.filter_sublist)

/-- With further rows that a predicate does not select, the selected groups among the first are
the first of those that were selected without them. -/
theorem filter_top :
    (top key time (rows++further) n).filter p <+: (top key time rows n).filter p := by
  refine prefix_of_subset (m := (ranked key time rows).filter p) ?_
    (( List.take_prefix _ _).filter p) (nodup_ranked.filter _) fun k hk => ?_
  · rw [← filter_ranked hp]
    exact ( List.take_prefix _ _).filter p
  · obtain ⟨hk,hsel⟩ := List.mem_filter.mp hk
    obtain ⟨hmem,hahead⟩ := mem_top.mp hk
    rw [List.map_append,List.mem_append] at hmem
    refine List.mem_filter.mpr ⟨mem_top.mpr ⟨hmem.resolve_right fun h => ?_,?_⟩,hsel⟩
    · obtain ⟨row,hrow,hkey⟩ := List.mem_map.mp h
      exact selected_ne hp hsel row hrow hkey
    · exact (ahead_le hp hsel).trans_lt hahead

end Further
end TopGroups
