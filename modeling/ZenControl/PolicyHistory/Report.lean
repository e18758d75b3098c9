import ZenControl.PolicyHistory.Retention

/-! The policy report over stored checkpoints. It shows what the never-pruned, never-limited
checkpoints would show, exactly when the state in force at its start is still stored and the
listing drops nothing that shows. -/
namespace ZenControl.PolicyHistory
open Rows Histories

section Reports
variable (hasher : Hasher) (setting : Option String) (calls : List RecordCall)
  (ip identityId : String) (start stop limit : ℤ) (identityStart : Option ℤ)

/-- The report on the stored and listed checkpoints. -/
def storedReport : Py (List IntervalView) := do
  let history ← listPolicyStateHistory hasher ip (some start) (some stop) limit (some identityId)
    (storedHistory hasher setting calls)
  let intervals ← buildPolicyIntervals history start stop identityStart
  return intervals.map PolicyInterval.view

/-- The report on all checkpoints that were ever written for the identity. -/
def fullReport : Py (List IntervalView) := do
  let intervals ← buildPolicyIntervals
    ((fullHistory hasher calls).select fun _ r => r.belongs (strip ip) (some identityId))
    start stop identityStart
  return intervals.map PolicyInterval.view

/-- If a checkpoint was in force at the start, a checkpoint from before the start is stored. -/
def InForceKept : Prop :=
  (∃ r ∈ historyOf (strip ip) identityId (fullHistory hasher calls), r.instant ≤ start) →
    ∃ r ∈ historyOf (strip ip) identityId (storedHistory hasher setting calls), r.instant ≤ start

/-- The changes inside the window. -/
def windowRows (rows : List Checkpoint) : List Checkpoint :=
  rows.filter fun r => start < r.instant && r.instant < stop

/-- Those of them that the listing returns. -/
def listedRows (rows : List Checkpoint) : List Checkpoint :=
  ((windowRows start stop rows).filter fun r => r.capturedAt < instantSecond stop).take
    (max 1 (min limit 2000)).toNat

/-- The listing drops no change of the window, or only changes within the second of the last one
that it returns, which end in the same state. -/
def CutUnseen (rows : List Checkpoint) : Prop :=
  let listed := listedRows start stop limit rows
  let dropped := (windowRows start stop rows).drop listed.length
  dropped=[] ∨ ∃ last final, listed.getLast?=some last ∧ dropped.getLast?=some final ∧
    (∀ r ∈ dropped, r.capturedAt=last.capturedAt) ∧ final.stateHash=last.stateHash

end Reports

section Intervals
variable {cursor stop policyStart : ℤ} {active active' x : Checkpoint}
  {rows rows' : List Checkpoint}

/-- Of the state in force only the hash shows. -/
lemma intervalsFrom_alike (h : active.stateHash=active'.stateHash) :
    (intervalsFrom cursor stop active rows).map PolicyInterval.view=
      (intervalsFrom cursor stop active' rows).map PolicyInterval.view := by
  cases rows with
  | nil =>
    simp only [intervalsFrom]
    split_ifs
    · simp [PolicyInterval.view,h]
    · rfl
  | cons change changes =>
    simp only [intervalsFrom]
    split_ifs
    · simp [PolicyInterval.view,h]
    · rfl

/-- Changes at the cursor show only by the last one. -/
lemma intervalsFrom_still (h : ∀ r ∈ rows, r.instant=cursor) :
    intervalsFrom cursor stop active rows=
      intervalsFrom cursor stop (rows.getLast?.getD active) [] := by
  induction rows generalizing active with
  | nil => rfl
  | cons change changes ih =>
    have hchange := h change List.mem_cons_self
    have hrest : ∀ r ∈ changes, r.instant=cursor := fun r hr => h r (List.mem_cons_of_mem _ hr)
    have hstep : intervalsFrom cursor stop active (change::changes)=
        intervalsFrom change.instant stop change changes := if_neg (by omega)
    rw [hstep,hchange,ih hrest,List.getLast?_cons,Option.getD_some]

/-- Changes in the second of the last one that end in its state may be dropped. -/
lemma intervalsFrom_drop {dropped : List Checkpoint} {final : Checkpoint}
    (hstill : ∀ r ∈ dropped, r.instant=x.instant) (hfinal : dropped.getLast?=some final)
    (hhash : final.stateHash=x.stateHash) :
    (intervalsFrom cursor stop active (rows ++ x::dropped)).map PolicyInterval.view=
      (intervalsFrom cursor stop active (rows ++ [x])).map PolicyInterval.view := by
  induction rows generalizing cursor active with
  | nil =>
    have htail : (intervalsFrom x.instant stop x dropped).map PolicyInterval.view=
        (intervalsFrom x.instant stop x []).map PolicyInterval.view := by
      rw [intervalsFrom_still hstill,hfinal]
      exact intervalsFrom_alike hhash
    simp only [List.nil_append,intervalsFrom] at htail ⊢
    split_ifs at htail ⊢ <;> simp [htail]
  | cons change changes ih =>
    simp only [List.cons_append,intervalsFrom]
    split_ifs
    · rw [List.map_cons,List.map_cons,ih]
    · exact ih

variable (active) in
/-- The last interval: from the last change to the end of the window. -/
lemma intervalsFrom_getLast (hcursor : cursor < stop) (hrows : Ordered rows)
    (hbound : ∀ r ∈ rows, cursor ≤ r.instant ∧ r.instant < stop) :
    (intervalsFrom cursor stop active rows).getLast?=
      some { start := (rows.getLast?.map Checkpoint.instant).getD cursor, stop := stop,
             state := some (rows.getLast?.getD active) } := by
  induction rows generalizing cursor active with
  | nil => rw [intervalsFrom,if_pos hcursor]; rfl
  | cons change changes ih =>
    obtain ⟨hfirst,hrest⟩ := List.pairwise_cons.mp hrows
    have hchange := hbound change List.mem_cons_self
    have htail := @ih change.instant change hchange.2 hrest fun r hr =>
      ⟨by
        have hle := hfirst r hr
        unfold Checkpoint.instant microsecond
        omega,(hbound r (List.mem_cons_of_mem _ hr)).2⟩
    have hstart : ((change::changes).getLast?.map Checkpoint.instant).getD cursor=
        (changes.getLast?.map Checkpoint.instant).getD change.instant := by
      rw [List.getLast?_cons]
      cases changes.getLast? <;> rfl
    rw [hstart,List.getLast?_cons,Option.getD_some,intervalsFrom]
    split_ifs
    · rw [List.getLast?_cons,htail]; rfl
    · exact htail

variable (active) in
/-- The first interval of a known state starts at the cursor. -/
lemma intervalsFrom_head (hcursor : cursor < stop)
    (hbound : ∀ r ∈ rows, cursor < r.instant) :
    ∃ i, (intervalsFrom cursor stop active rows).head?=some i ∧ i.state=some active := by
  cases rows with
  | nil => rw [intervalsFrom,if_pos hcursor]; exact ⟨_,rfl,rfl⟩
  | cons change changes =>
    rw [intervalsFrom,if_pos (hbound change List.mem_cons_self)]
    exact ⟨_,rfl,rfl⟩

end Intervals

section Listing
variable {history : Table Checkpoint} {hasher : Hasher} {ip identityId : String}
  {start stop limit : ℤ}

lemma second_lt_iff {start t : ℤ} : instantSecond start < t ↔ start < t*microsecond := by
  unfold instantSecond microsecond
  omega

lemma le_second_iff {start t : ℤ} : t ≤ instantSecond start ↔ t*microsecond ≤ start := by
  unfold instantSecond microsecond
  omega

lemma pairs_byInstant {t : Table Checkpoint} {p : ℕ → Checkpoint → Bool}
    (h : Ordered ((t.select p).map Prod.snd)) :
    (t.select p).Pairwise fun r r' => byInstant r r' := by
  have hnumbers : (t.select p).Pairwise fun r r' => r.1 < r'.1 := t.increasing.filter _
  refine (hnumbers.and (List.pairwise_map.mp h)).imp fun {r r'} hr => ?_
  unfold byInstant
  rcases lt_or_eq_of_le hr.2 with hlt | heq
  · simp [hlt]
  · simp [heq,hr.1.le]

variable (start stop limit) in
/-- The listing of ordered checkpoints. -/
lemma list_ordered (hip : (hasher.ipAddress (strip ip)).isSome)
    (hordered : Ordered (historyOf (strip ip) identityId history)) :
    ∃ listing, listPolicyStateHistory hasher ip (some start) (some stop) limit (some identityId)
        history=.ok listing ∧
      (listing.mergeSort byInstant).map Prod.snd=
        (upTo (instantSecond start) (historyOf (strip ip) identityId history)).getLast?.toList ++
          listedRows start stop limit (historyOf (strip ip) identityId history) := by
  have hrows (p : Checkpoint → Bool) :
      (history.select fun _ r => r.belongs (strip ip) (some identityId) && p r).map Prod.snd=
        (historyOf (strip ip) identityId history).filter p := by
    unfold historyOf Table.select
    rw [List.filter_map,List.filter_filter]
    congr 1
    exact List.filter_congr fun r _ => Bool.and_comm _ _
  have hsub (p : Checkpoint → Bool) : Ordered ((history.select fun _ r =>
      r.belongs (strip ip) (some identityId) && p r).map Prod.snd) := by
    rw [hrows]
    exact hordered.filter p
  have hsorted {listing : List (ℕ × Checkpoint)}
      (h : listing.Pairwise fun r r' => byInstant r r') : listing.mergeSort byInstant=listing :=
    List.mergeSort_of_pairwise h
  have hwindow := hsub fun r => instantSecond start < r.capturedAt &&
    r.capturedAt < instantSecond stop
  have hbefore := hsub fun r => r.capturedAt ≤ instantSecond start
  have hlisted : ((history.select fun _ r => r.belongs (strip ip) (some identityId) &&
      (instantSecond start < r.capturedAt && r.capturedAt < instantSecond stop)).take
        (max 1 (min limit 2000)).toNat).map Prod.snd=
      listedRows start stop limit (historyOf (strip ip) identityId history) := by
    rw [List.map_take,hrows fun r => instantSecond start < r.capturedAt &&
      r.capturedAt < instantSecond stop]
    unfold listedRows windowRows
    rw [List.filter_filter]
    congr 1
    refine List.filter_congr fun r _ => ?_
    rw [Bool.eq_iff_iff]
    simp only [Bool.and_eq_true,decide_eq_true_eq,second_lt_iff]
    unfold Checkpoint.instant instantSecond microsecond
    omega
  unfold listPolicyStateHistory
  have hnone : (hasher.ipAddress (strip ip)).isNone=false := by
    rw [Option.isNone_eq_false_iff]
    exact hip
  dsimp only
  rw [if_neg (by simp [hnone])]
  simp only [Option.all_some,Option.bind_some,Bool.and_assoc]
  rw [latest_ordered hbefore,hsorted (pairs_byInstant hwindow)]
  have hpairs := (pairs_byInstant hwindow).sublist
    (List.take_sublist (max 1 (min limit 2000)).toNat _)
  have hlater (r : ℕ × Checkpoint) (hr : r ∈ (history.select fun _ r =>
      r.belongs (strip ip) (some identityId) && (decide (instantSecond start < r.capturedAt) &&
        decide (r.capturedAt < instantSecond stop))).take (max 1 (min limit 2000)).toNat) :
      history.find r.1=some r.2 ∧ instantSecond start < r.2.capturedAt := by
    obtain ⟨hfind,hr⟩ := Table.mem_select.mp (List.mem_of_mem_take hr)
    simp only [Bool.and_eq_true,decide_eq_true_eq] at hr
    exact ⟨hfind,hr.2.1⟩
  have hearlier (r : ℕ × Checkpoint) (hr : (history.select fun _ r =>
      r.belongs (strip ip) (some identityId) &&
        decide (r.capturedAt ≤ instantSecond start)).getLast?=some r) :
      history.find r.1=some r.2 ∧ r.2.capturedAt ≤ instantSecond start := by
    obtain ⟨hfind,hr⟩ := Table.mem_select.mp (List.mem_of_getLast? hr)
    simp only [Bool.and_eq_true,decide_eq_true_eq] at hr
    exact ⟨hfind,hr.2⟩
  have hlast : ((history.select fun _ r => r.belongs (strip ip) (some identityId) &&
      decide (r.capturedAt ≤ instantSecond start)).getLast?.toList).map Prod.snd=
      (upTo (instantSecond start) (historyOf (strip ip) identityId history)).getLast?.toList := by
    unfold upTo
    rw [← hrows fun r => r.capturedAt ≤ instantSecond start,List.getLast?_map]
    cases (history.select _).getLast? <;> rfl
  generalize (history.select fun _ r => r.belongs (strip ip) (some identityId) &&
    decide (r.capturedAt ≤ instantSecond start)).getLast?=previous at hearlier hlast ⊢
  generalize (history.select fun _ r => r.belongs (strip ip) (some identityId) &&
    (decide (instantSecond start < r.capturedAt) && decide (r.capturedAt < instantSecond stop))).take
      (max 1 (min limit 2000)).toNat=window at hlisted hpairs hlater ⊢
  have hunseen : window.filter (fun r => !previous.any fun p => decide (p.1=r.1))=window := by
    refine List.filter_eq_self.mpr fun r hr => ?_
    cases previous with
    | none => rfl
    | some p =>
      obtain ⟨hfind,hafter⟩ := hlater r hr
      obtain ⟨hfind',hbefore⟩ := hearlier p rfl
      have hne : p.1≠r.1 := by
        intro heq
        rw [heq,hfind] at hfind'
        rw [Option.some.inj hfind'] at hafter
        omega
      simp [hne]
  have hall : (previous.toList ++ window).Pairwise fun r r' => byInstant r r' := by
    refine List.pairwise_append.mpr ⟨?_,hpairs,fun r hr r' hr' => ?_⟩
    · cases previous with
      | none => exact .nil
      | some p => exact List.pairwise_singleton _ _
    · obtain ⟨-,hbefore⟩ := hearlier r (Option.mem_toList.mp hr)
      have hlt : r.2.capturedAt < r'.2.capturedAt := by
        have := (hlater r' hr').2
        omega
      simp [byInstant,hlt]
  refine ⟨_,rfl,?_⟩
  rw [hunseen,hsorted hall,hsorted hall,List.map_append,hlast,hlisted]

end Listing

/-- The intervals after the start of the policy, from the state in force there. -/
def intervalsAt (policyStart stop : ℤ) (active : Option Checkpoint) (inside : List Checkpoint) :
    List PolicyInterval :=
  match active, inside with
  | some active, inside => intervalsFrom policyStart stop active inside
  | none, [] => [{ start := policyStart, stop := stop, gapReason := some .policyUnobserved }]
  | none, first::inside =>
    (if policyStart < first.instant then
      [{ start := policyStart, stop := first.instant, gapReason := some .policyUnobserved }]
    else []) ++ intervalsFrom first.instant stop first inside

section Active
variable {policyStart stop : ℤ} {active active' : Option Checkpoint} {inside : List Checkpoint}

lemma policyIntervals_eq (ordered : List Checkpoint) :
    policyIntervals policyStart stop ordered=
      intervalsAt policyStart stop (ordered.filter fun r => r.instant ≤ policyStart).getLast?
        (ordered.filter fun r => policyStart < r.instant && r.instant < stop) := rfl

lemma intervalsAt_alike
    (h : active.map Checkpoint.stateHash=active'.map Checkpoint.stateHash) :
    (intervalsAt policyStart stop active inside).map PolicyInterval.view=
      (intervalsAt policyStart stop active' inside).map PolicyInterval.view := by
  cases active with
  | none =>
    cases active' with
    | none => rfl
    | some r => cases h
  | some r =>
    cases active' with
    | none => cases h
    | some r' => exact intervalsFrom_alike (Option.some.inj h)

lemma intervalsAt_drop {rows dropped : List Checkpoint} {x final : Checkpoint}
    (hstill : ∀ r ∈ dropped, r.instant=x.instant) (hfinal : dropped.getLast?=some final)
    (hhash : final.stateHash=x.stateHash) :
    (intervalsAt policyStart stop active (rows ++ x::dropped)).map PolicyInterval.view=
      (intervalsAt policyStart stop active (rows ++ [x])).map PolicyInterval.view := by
  cases active with
  | some a => exact intervalsFrom_drop hstill hfinal hhash
  | none =>
    cases rows with
    | nil =>
      have htail : (intervalsFrom x.instant stop x dropped).map PolicyInterval.view=
          (intervalsFrom x.instant stop x []).map PolicyInterval.view := by
        rw [intervalsFrom_still hstill,hfinal]
        exact intervalsFrom_alike hhash
      simp only [List.nil_append,intervalsAt,List.map_append,htail]
    | cons first rows =>
      simp only [List.cons_append,intervalsAt,List.map_append,
        intervalsFrom_drop hstill hfinal hhash]

variable (active) in
/-- The last interval starts at the last change of the window. -/
lemma intervalsAt_getLast {r : Checkpoint} (hstop : policyStart < stop) (hrows : Ordered inside)
    (hbound : ∀ r ∈ inside, policyStart < r.instant ∧ r.instant < stop)
    (hr : inside.getLast?=some r) :
    (intervalsAt policyStart stop active inside).getLast?=
      some { start := r.instant, stop := stop, state := some r } := by
  cases active with
  | some a =>
    refine (intervalsFrom_getLast a hstop hrows fun r hr => ?_).trans (by rw [hr]; rfl)
    exact ⟨(hbound r hr).1.le,(hbound r hr).2⟩
  | none =>
    cases inside with
    | nil => cases hr
    | cons first rows =>
      obtain ⟨hfirst,hrest⟩ := List.pairwise_cons.mp hrows
      have hlast := intervalsFrom_getLast first (hbound first List.mem_cons_self).2 hrest
        fun r hr => ⟨by
          have hle := hfirst r hr
          unfold Checkpoint.instant microsecond
          omega,(hbound r (List.mem_cons_of_mem _ hr)).2⟩
      rw [List.getLast?_cons] at hr
      rw [← Option.some.inj hr,intervalsAt,if_pos (hbound first List.mem_cons_self).1,
        List.singleton_append,List.getLast?_cons,hlast]
      cases rows.getLast? <;> rfl

/-- Whether the state at the start is known shows in the first interval. -/
lemma intervalsAt_head (hstop : policyStart < stop)
    (hbound : ∀ r ∈ inside, policyStart < r.instant) :
    ((intervalsAt policyStart stop active inside).head?.map PolicyInterval.view).map
      IntervalView.known=some active.isSome := by
  cases active with
  | some a =>
    obtain ⟨i,hhead,hstate⟩ := intervalsFrom_head a hstop hbound
    rw [intervalsAt,hhead]
    simp [PolicyInterval.view,hstate]
  | none =>
    cases inside with
    | nil => rfl
    | cons first rows =>
      rw [intervalsAt,if_pos (hbound first List.mem_cons_self)]
      rfl

end Active

/-- The intervals of ordered checkpoints, with the gap before the identity. -/
def intervalsOn (start stop : ℤ) (identityStart : Option ℤ) (ordered : List Checkpoint) :
    List PolicyInterval :=
  match identityStart.filter fun t => start < t with
  | none => policyIntervals start stop ordered
  | some identityStart =>
    let gap : PolicyInterval :=
      { start := start, stop := min identityStart stop, identityKnown := false,
        gapReason := some .identityUnproven }
    if stop ≤ identityStart then [gap] else gap::policyIntervals identityStart stop ordered

lemma build_ordered {listing : List (ℕ × Checkpoint)} {ordered : List Checkpoint} {start stop : ℤ}
    (hwindow : start < stop) (h : (listing.mergeSort byInstant).map Prod.snd=ordered)
    (identityStart : Option ℤ) : buildPolicyIntervals listing start stop identityStart=
      .ok (intervalsOn start stop identityStart ordered) := by
  unfold buildPolicyIntervals intervalsOn
  rw [if_neg (by omega),h]
  cases identityStart.filter fun t => decide (start < t) with
  | none => rfl
  | some policyStart =>
    dsimp only
    split_ifs <;> rfl

lemma intervalsOn_views {start stop : ℤ} {ordered ordered' : List Checkpoint}
    (hwindow : start < stop)
    (h : ∀ policyStart, start ≤ policyStart → policyStart < stop →
      (policyIntervals policyStart stop ordered).map PolicyInterval.view=
        (policyIntervals policyStart stop ordered').map PolicyInterval.view)
    (identityStart : Option ℤ) :
    (intervalsOn start stop identityStart ordered).map PolicyInterval.view=
      (intervalsOn start stop identityStart ordered').map PolicyInterval.view := by
  unfold intervalsOn
  cases hfilter : identityStart.filter fun t => decide (start < t) with
  | none => exact h start (Int.le_refl _) hwindow
  | some policyStart =>
    obtain ⟨-,hlt⟩ := Option.filter_eq_some_iff.mp hfilter
    dsimp only
    split_ifs with hstop
    · rfl
    · rw [List.map_cons,List.map_cons,h policyStart (of_decide_eq_true hlt).le (by omega)]

section Window
variable {start stop limit policyStart : ℤ} {rows full stored : List Checkpoint}

lemma windowRows_eq_since (rows : List Checkpoint) : windowRows start stop rows=
    (since (instantSecond start) rows).filter fun r => r.instant < stop := by
  unfold windowRows since
  rw [List.filter_filter]
  refine List.filter_congr fun r _ => ?_
  rw [Bool.eq_iff_iff]
  simp only [Bool.and_eq_true,decide_eq_true_eq,second_lt_iff]
  exact and_comm

/-- A filter by an upper bound keeps a first part of ordered checkpoints. -/
lemma ordered_filter_take (h : Ordered rows) (second : ℤ) :
    rows.filter (fun r => r.capturedAt < second) <+: rows := by
  induction rows with
  | nil => exact List.prefix_rfl
  | cons r rows ih =>
    obtain ⟨hfirst,hrest⟩ := List.pairwise_cons.mp h
    by_cases hr : r.capturedAt < second
    · rw [List.filter_cons_of_pos (by simpa using hr)]
      exact (List.prefix_cons_inj r).mpr (ih hrest)
    · have hnone : rows.filter (fun r => decide (r.capturedAt < second))=[] := by
        refine List.filter_eq_nil_iff.mpr fun r' hr' => ?_
        have hle := hfirst r' hr'
        simp only [decide_eq_true_eq]
        omega
      rw [List.filter_cons_of_neg (by simpa using hr),hnone]
      exact List.nil_prefix

/-- The listing returns a first part of the changes of the window. -/
lemma listedRows_append (h : Ordered rows) (start stop limit : ℤ) :
    listedRows start stop limit rows ++
      (windowRows start stop rows).drop (listedRows start stop limit rows).length=
        windowRows start stop rows := by
  have hprefix : listedRows start stop limit rows <+: windowRows start stop rows :=
    (List.take_prefix _ _).trans (ordered_filter_take (h.filter _) _)
  obtain ⟨rest,hrest⟩ := hprefix
  have hdrop : (windowRows start stop rows).drop (listedRows start stop limit rows).length=rest := by
    rw [← hrest,List.drop_left]
  rw [hdrop,hrest]

end Window

end ZenControl.PolicyHistory
