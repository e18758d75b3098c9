import ZenControl.PolicyHistory.Report

/-! The report does not depend on the storage limits, as long as the state in force at its start
is stored and the listing drops nothing that shows. -/
namespace ZenControl.PolicyHistory
open Rows Histories

section Shown
variable {start stop limit policyStart clock : ℤ} {before rows full stored : List Checkpoint}

/-- Changes after the window do not show. -/
lemma policyIntervals_window (hstop : policyStart < stop) (before rows : List Checkpoint) :
    policyIntervals policyStart stop (before ++ rows)=
      policyIntervals policyStart stop (before ++ rows.filter fun r => r.instant < stop) := by
  rw [policyIntervals_eq,policyIntervals_eq,List.filter_append,List.filter_append,
    List.filter_append,List.filter_append,List.filter_filter,List.filter_filter]
  congr 3
  · refine List.filter_congr fun r _ => ?_
    by_cases hr : r.instant ≤ policyStart
    · have hlt : r.instant < stop := by omega
      simp [hr,hlt]
    · simp [hr]
  · funext r
    rw [Bool.and_assoc,Bool.and_self]

/-- The intervals of checkpoints before the window and changes inside it. -/
lemma policyIntervals_append (hstart : start ≤ policyStart)
    (hbefore : ∀ r ∈ before, r.instant ≤ start)
    (hrows : ∀ r ∈ rows, start < r.instant ∧ r.instant < stop) :
    policyIntervals policyStart stop (before ++ rows)=
      intervalsAt policyStart stop
        (before ++ rows.filter fun r => r.instant ≤ policyStart).getLast?
        (rows.filter fun r => policyStart < r.instant) := by
  rw [policyIntervals_eq,List.filter_append,List.filter_append]
  have hall : before.filter (fun r => decide (r.instant ≤ policyStart))=before :=
    List.filter_eq_self.mpr fun r hr => by
      have hle := hbefore r hr
      simp only [decide_eq_true_eq]
      omega
  have hnone : before.filter (fun r => decide (policyStart < r.instant) &&
      decide (r.instant < stop))=[] :=
    List.filter_eq_nil_iff.mpr fun r hr => by
      have hle := hbefore r hr
      simp only [Bool.and_eq_true,decide_eq_true_eq]
      omega
  have hinside : rows.filter (fun r => decide (policyStart < r.instant) &&
      decide (r.instant < stop))=rows.filter fun r => decide (policyStart < r.instant) :=
    List.filter_congr fun r hr => by simp [(hrows r hr).2]
  rw [hall,hnone,hinside,List.nil_append]

/-- The last checkpoint up to the start of a policy, when the changes before it are alike. -/
lemma getLast_alike {before' : List Checkpoint}
    (h : before.getLast?.map Checkpoint.stateHash=before'.getLast?.map Checkpoint.stateHash)
    (rows : List Checkpoint) :
    (before ++ rows).getLast?.map Checkpoint.stateHash=
      (before' ++ rows).getLast?.map Checkpoint.stateHash := by
  rw [List.getLast?_append,List.getLast?_append]
  cases rows.getLast? with
  | none => exact h
  | some r => rfl

/-- The dropped changes of a window do not show. -/
lemma intervalsAt_cut {dropped : List Checkpoint}
    (hrows : Ordered (rows ++ dropped))
    (h : dropped=[] ∨ ∃ last final, rows.getLast?=some last ∧ dropped.getLast?=some final ∧
      (∀ r ∈ dropped, r.capturedAt=last.capturedAt) ∧ final.stateHash=last.stateHash) :
    (intervalsAt policyStart stop
        (before ++ (rows ++ dropped).filter fun r => r.instant ≤ policyStart).getLast?
        ((rows ++ dropped).filter fun r => policyStart < r.instant)).map PolicyInterval.view=
      (intervalsAt policyStart stop
        (before ++ rows.filter fun r => r.instant ≤ policyStart).getLast?
        (rows.filter fun r => policyStart < r.instant)).map PolicyInterval.view := by
  rcases h with rfl | ⟨last,final,hlast,hfinal,hstill,hhash⟩
  · rw [List.append_nil]
  obtain ⟨rows,rfl⟩ := List.getLast?_eq_some_iff.mp hlast
  have hinstant : ∀ r ∈ dropped, r.instant=last.instant := fun r hr => by
    unfold Checkpoint.instant
    rw [hstill r hr]
  by_cases hle : last.instant ≤ policyStart
  · have hold : ∀ r ∈ rows ++ [last], r.instant ≤ policyStart := by
      intro r hr
      rcases List.mem_append.mp hr with hr | hr
      · have hfirst : Ordered (rows ++ [last]) := (List.pairwise_append.mp hrows).1
        have := hfirst.last r hr
        unfold Checkpoint.instant microsecond at *
        omega
      · rw [List.mem_singleton.mp hr]
        exact hle
    have hdropped : ∀ r ∈ dropped, r.instant ≤ policyStart := fun r hr => by
      rw [hinstant r hr]
      exact hle
    have hnone (l : List Checkpoint) (hl : ∀ r ∈ l, r.instant ≤ policyStart) :
        l.filter (fun r => decide (policyStart < r.instant))=[] :=
      List.filter_eq_nil_iff.mpr fun r hr => by simpa using hl r hr
    have hall (l : List Checkpoint) (hl : ∀ r ∈ l, r.instant ≤ policyStart) :
        l.filter (fun r => decide (r.instant ≤ policyStart))=l :=
      List.filter_eq_self.mpr fun r hr => by simpa using hl r hr
    have hboth : ∀ r ∈ rows ++ [last] ++ dropped, r.instant ≤ policyStart := fun r hr =>
      (List.mem_append.mp hr).elim (hold r) (hdropped r)
    rw [hnone _ hboth,hnone _ hold,hall _ hboth,hall _ hold]
    refine intervalsAt_alike ?_
    rw [← List.append_assoc,List.getLast?_append,hfinal,← List.append_assoc,
      List.getLast?_concat]
    exact congrArg some hhash
  · have hlt : ∀ r ∈ dropped, policyStart < r.instant := fun r hr => by
      rw [hinstant r hr]
      omega
    have hbefore : (rows ++ [last] ++ dropped).filter (fun r => decide (r.instant ≤ policyStart))=
        (rows ++ [last]).filter fun r => decide (r.instant ≤ policyStart) := by
      have hnone : dropped.filter (fun r => decide (r.instant ≤ policyStart))=[] :=
        List.filter_eq_nil_iff.mpr fun r hr => by
          have := hlt r hr
          simp only [decide_eq_true_eq]
          omega
      rw [List.filter_append,hnone,List.append_nil]
    have hlast : (rows ++ [last]).filter (fun r => decide (policyStart < r.instant))=
        rows.filter (fun r => decide (policyStart < r.instant)) ++ [last] := by
      rw [List.filter_append,List.filter_cons_of_pos (by simpa using hle),List.filter_nil]
    have hinside : (rows ++ [last] ++ dropped).filter (fun r => decide (policyStart < r.instant))=
        rows.filter (fun r => decide (policyStart < r.instant)) ++ last::dropped := by
      have hall : dropped.filter (fun r => decide (policyStart < r.instant))=dropped :=
        List.filter_eq_self.mpr fun r hr => by simpa using hlt r hr
      rw [List.filter_append,hlast,hall,List.append_assoc,List.singleton_append]
    rw [hbefore,hinside,hlast]
    exact intervalsAt_drop hinstant hfinal hhash

lemma upTo_instant (rows : List Checkpoint) : ∀ r ∈ upTo (instantSecond start) rows,
    r.instant ≤ start := fun _ hr =>
  le_second_iff.mp (of_decide_eq_true (List.mem_filter.mp hr).2)

lemma windowRows_bound (rows : List Checkpoint) : ∀ r ∈ windowRows start stop rows,
    start < r.instant ∧ r.instant < stop := fun r hr => by
  simpa using (List.mem_filter.mp hr).2

lemma upTo_ne_nil_iff (rows : List Checkpoint) :
    upTo (instantSecond start) rows≠[] ↔ ∃ r ∈ rows, r.instant ≤ start := by
  constructor
  · intro h
    obtain ⟨r,hr⟩ := List.exists_mem_of_ne_nil _ h
    exact ⟨r,(List.mem_filter.mp hr).1,upTo_instant rows r hr⟩
  · rintro ⟨r,hr,hle⟩ hnil
    refine List.ne_nil_of_mem (List.mem_filter.mpr ⟨hr,?_⟩) hnil
    exact decide_eq_true (le_second_iff.mpr hle)

/-- The checkpoints of a full history that a report uses. -/
lemma policyIntervals_full (hstart : start ≤ policyStart) (hstop : policyStart < stop)
    (h : Ordered rows) : policyIntervals policyStart stop rows=
      intervalsAt policyStart stop
        (upTo (instantSecond start) rows ++
          (windowRows start stop rows).filter fun r => r.instant ≤ policyStart).getLast?
        ((windowRows start stop rows).filter fun r => policyStart < r.instant) := by
  conv_lhs => rw [← upTo_append_since h (instantSecond start)]
  rw [policyIntervals_window hstop,← windowRows_eq_since]
  exact policyIntervals_append hstart (upTo_instant rows) (windowRows_bound rows)

/-- Those of a listing. -/
lemma policyIntervals_listed (hstart : start ≤ policyStart) :
    policyIntervals policyStart stop
      ((upTo (instantSecond start) rows).getLast?.toList ++ listedRows start stop limit rows)=
      intervalsAt policyStart stop
        ((upTo (instantSecond start) rows).getLast?.toList ++
          (listedRows start stop limit rows).filter fun r => r.instant ≤ policyStart).getLast?
        ((listedRows start stop limit rows).filter fun r => policyStart < r.instant) := by
  refine policyIntervals_append hstart (fun r hr => ?_) fun r hr => ?_
  · exact upTo_instant rows r (List.mem_of_getLast? (Option.mem_toList.mp hr))
  · exact windowRows_bound rows r (List.mem_filter.mp (List.mem_of_mem_take hr)).1

/-- A listing of a kept history that drops nothing that shows. -/
lemma Kept.shown (h : Kept (instantSecond start) clock full stored)
    (hforce : upTo (instantSecond start) stored≠[] ∨ upTo (instantSecond start) full=[])
    (hcut : CutUnseen start stop limit stored) (hstart : start ≤ policyStart)
    (hstop : policyStart < stop) :
    (policyIntervals policyStart stop ((upTo (instantSecond start) stored).getLast?.toList ++
      listedRows start stop limit stored)).map PolicyInterval.view=
      (policyIntervals policyStart stop full).map PolicyInterval.view := by
  obtain ⟨hsince,hlast⟩ := h.inForce hforce
  have hwindow : windowRows start stop full=windowRows start stop stored := by
    rw [windowRows_eq_since,windowRows_eq_since,hsince]
  have hsplit := listedRows_append h.storedOrdered start stop limit
  have hordered : Ordered (windowRows start stop stored) := h.storedOrdered.filter _
  rw [policyIntervals_listed hstart,policyIntervals_full hstart hstop h.fullOrdered,hwindow]
  unfold CutUnseen at hcut
  dsimp only at hcut
  rw [← hsplit] at hordered ⊢
  rw [hsplit] at hordered ⊢
  rw [← hsplit]
  refine Eq.trans ?_ (intervalsAt_cut (by rw [hsplit]; exact hordered) hcut).symm
  refine intervalsAt_alike (getLast_alike ?_ _)
  cases hstored : (upTo (instantSecond start) stored).getLast? with
  | some r =>
    obtain ⟨r',hr',halike⟩ := hlast r hstored
    rw [hr']
    exact congrArg some halike.1
  | none =>
    have hnone := List.getLast?_eq_none_iff.mp hstored
    rw [hforce.resolve_left (by simp [hnone])]
    rfl

/-- From the start of the window on, the changes of the window are the intervals. -/
lemma policyIntervals_start (hstop : start < stop) (h : Ordered rows) :
    policyIntervals start stop rows=
      intervalsAt start stop (upTo (instantSecond start) rows).getLast?
        (windowRows start stop rows) := by
  have hbound : ∀ r ∈ windowRows start stop rows, _ := windowRows_bound rows
  have hnone : (windowRows start stop rows).filter (fun r => decide (r.instant ≤ start))=[] :=
    List.filter_eq_nil_iff.mpr fun r hr => by simpa using (hbound r hr).1
  have hall : (windowRows start stop rows).filter (fun r => decide (start < r.instant))=
      windowRows start stop rows :=
    List.filter_eq_self.mpr fun r hr => by simpa using (hbound r hr).1
  rw [policyIntervals_full (Int.le_refl _) hstop h,hnone,hall,List.append_nil]

lemma listedRows_bound (rows : List Checkpoint) : ∀ r ∈ listedRows start stop limit rows,
    start < r.instant := fun r hr =>
  (windowRows_bound rows r (List.mem_filter.mp (List.mem_of_mem_take hr)).1).1

lemma policyIntervals_listed_start :
    policyIntervals start stop
      ((upTo (instantSecond start) rows).getLast?.toList ++ listedRows start stop limit rows)=
      intervalsAt start stop (upTo (instantSecond start) rows).getLast?
        (listedRows start stop limit rows) := by
  have hbound : ∀ r ∈ listedRows start stop limit rows, _ := listedRows_bound rows
  have hnone : (listedRows start stop limit rows).filter (fun r => decide (r.instant ≤ start))=[] :=
    List.filter_eq_nil_iff.mpr fun r hr => by simpa using hbound r hr
  have hall : (listedRows start stop limit rows).filter (fun r => decide (start < r.instant))=
      listedRows start stop limit rows :=
    List.filter_eq_self.mpr fun r hr => by simpa using hbound r hr
  rw [policyIntervals_listed (Int.le_refl _),hnone,hall,List.append_nil]
  cases (upTo (instantSecond start) rows).getLast? <;> rfl

/-- A report that shows the same keeps the state in force at its start. -/
lemma inForce_of_shown (hstop : start < stop) (hordered : Ordered full)
    (h : (policyIntervals start stop ((upTo (instantSecond start) stored).getLast?.toList ++
      listedRows start stop limit stored)).map PolicyInterval.view=
      (policyIntervals start stop full).map PolicyInterval.view) :
    upTo (instantSecond start) full≠[] → upTo (instantSecond start) stored≠[] := by
  rw [policyIntervals_listed_start,policyIntervals_start hstop hordered] at h
  have hhead := congrArg (fun views => views.head?.map IntervalView.known) h
  simp only [List.head?_map] at hhead
  rw [intervalsAt_head hstop (listedRows_bound stored),
    intervalsAt_head hstop fun r hr => (windowRows_bound full r hr).1] at hhead
  intro hfull hstored
  rw [hstored] at hhead
  have hnone : (upTo (instantSecond start) full).getLast?=none := by
    simpa using (Option.some.inj hhead).symm
  exact hfull (List.getLast?_eq_none_iff.mp hnone)

/-- A report that shows the same drops no change that shows. -/
lemma cutUnseen_of_shown (hstop : start < stop) (hfull : Ordered full) (hstored : Ordered stored)
    (hwindow : windowRows start stop full=windowRows start stop stored)
    (h : (policyIntervals start stop ((upTo (instantSecond start) stored).getLast?.toList ++
      listedRows start stop limit stored)).map PolicyInterval.view=
      (policyIntervals start stop full).map PolicyInterval.view) :
    CutUnseen start stop limit stored := by
  rw [policyIntervals_listed_start,policyIntervals_start hstop hfull,hwindow] at h
  have hsplit := listedRows_append hstored start stop limit
  have hordered : Ordered (windowRows start stop stored) := hstored.filter _
  have hbound : ∀ r ∈ windowRows start stop stored, _ := windowRows_bound stored
  unfold CutUnseen
  dsimp only
  generalize listedRows start stop limit stored=listed at h hsplit ⊢
  generalize (windowRows start stop stored).drop listed.length=dropped at hsplit ⊢
  rw [← hsplit] at h hordered hbound
  rw [or_iff_not_imp_left]
  intro hne
  have hfinal := List.getLast?_eq_some_getLast hne
  generalize dropped.getLast hne=final at hfinal
  have hall := intervalsAt_getLast (upTo (instantSecond start) full).getLast? hstop
    hordered hbound (show (listed ++ dropped).getLast?=some final by
      rw [List.getLast?_append,hfinal,Option.some_or])
  have hviews := congrArg List.getLast? h
  rw [List.getLast?_map,List.getLast?_map,hall] at hviews
  have hafter := hbound final (List.mem_append_right _ (List.mem_of_getLast? hfinal))
  cases hlast : listed.getLast? with
  | none =>
    -- nothing listed: the report has no interval that starts at a change
    rw [List.getLast?_eq_none_iff.mp hlast] at hviews
    cases hactive : (upTo (instantSecond start) stored).getLast? with
    | none => simp [hactive,intervalsAt,PolicyInterval.view] at hviews
    | some a =>
      simp [hactive,intervalsAt,intervalsFrom,hstop,PolicyInterval.view] at hviews
      omega
  | some last =>
    have hordered' := List.pairwise_append.mp hordered
    have hshort := intervalsAt_getLast (upTo (instantSecond start) stored).getLast? hstop
      hordered'.1 (fun r hr => hbound r (List.mem_append_left _ hr)) hlast
    rw [hshort] at hviews
    simp only [Option.map_some,Option.some.injEq,PolicyInterval.view,Option.isSome_some,
      Option.getD_some,IntervalView.mk.injEq,true_and] at hviews
    refine ⟨last,final,rfl,hfinal,fun r hr => ?_,hviews.2.symm⟩
    have hle := hordered'.2.2 last (List.mem_of_getLast? hlast) r hr
    obtain ⟨dropped,rfl⟩ := List.getLast?_eq_some_iff.mp hfinal
    have hge : r.capturedAt ≤ final.capturedAt := by
      rcases List.mem_append.mp hr with hr | hr
      · exact Ordered.last hordered'.2.1 r hr
      · rw [List.mem_singleton.mp hr]
    have hsame := hviews.1
    unfold Checkpoint.instant microsecond at hsame
    omega

end Shown

section Theorem
variable {hasher : Hasher} {setting : Option String} {calls : List RecordCall}
  {ip identityId : String} {start stop limit reportNow : ℤ}

lemma exists_second_le (calls : List RecordCall) : ∃ last, ∀ c ∈ calls, c.second ≤ last := by
  induction calls with
  | nil => exact ⟨0,by simp⟩
  | cons call calls ih =>
    obtain ⟨last,hlast⟩ := ih
    refine ⟨max call.second last,fun c hc => ?_⟩
    rcases List.mem_cons.mp hc with rfl | hc
    · exact Int.le_max_left _ _
    · exact (hlast c hc).trans (Int.le_max_right _ _)

variable (hasher) in
/-- The stored checkpoints of every identity against the never-pruned ones, at the start of a
window inside the retention period. -/
lemma kept_history (h : NonDecreasing calls) (hnow : ∀ c ∈ calls, c.now ≤ reportNow)
    (hretained : reportNow-retentionDays setting*(86400*microsecond) ≤ start)
    (ip identityId : String) : ∃ last, Kept (instantSecond start) last
      (historyOf ip identityId (fullHistory hasher calls))
      (historyOf ip identityId (storedHistory hasher setting calls)) := by
  cases calls with
  | nil => exact ⟨0,Kept.nil _ _⟩
  | cons call rest =>
    obtain ⟨hnext,-⟩ := List.pairwise_cons.mp h
    obtain ⟨last,hlast⟩ := exists_second_le (call::rest)
    refine ⟨last,@kept_calls _ _ _ _ _ call.second _ _ h (fun c hc => ?_) hlast
      (hlast call List.mem_cons_self) (fun c hc => ?_) (fun ip identityId => ?_) ip identityId⟩
    · rcases List.mem_cons.mp hc with rfl | hc
      · exact Int.le_refl _
      · exact Int.ediv_le_ediv (by decide) (hnext c hc).1
    · refine Int.ediv_le_ediv (by decide) ?_
      have hle := hnow c hc
      omega
    · exact Kept.nil _ _

variable (start stop limit) in
/-- The report on stored checkpoints in their order. -/
lemma storedReport_ordered (hip : (hasher.ipAddress (strip ip)).isSome) (hwindow : start < stop)
    (h : Ordered (historyOf (strip ip) identityId (storedHistory hasher setting calls)))
    (identityStart : Option ℤ) :
    storedReport hasher setting calls ip identityId start stop limit identityStart=
      .ok ((intervalsOn start stop identityStart
        ((upTo (instantSecond start) (historyOf (strip ip) identityId
          (storedHistory hasher setting calls))).getLast?.toList ++
        listedRows start stop limit (historyOf (strip ip) identityId
          (storedHistory hasher setting calls)))).map PolicyInterval.view) := by
  obtain ⟨listing,hlist,hrows⟩ := list_ordered start stop limit hip h
  unfold storedReport
  rw [hlist]
  change (do let intervals ← buildPolicyIntervals listing start stop identityStart; _)=_
  rw [build_ordered hwindow hrows]
  rfl

variable (start stop) in
/-- The report on never-pruned checkpoints in their order. -/
lemma fullReport_ordered (hwindow : start < stop)
    (h : Ordered (historyOf (strip ip) identityId (fullHistory hasher calls)))
    (identityStart : Option ℤ) :
    fullReport hasher calls ip identityId start stop identityStart=
      .ok ((intervalsOn start stop identityStart
        (historyOf (strip ip) identityId (fullHistory hasher calls))).map PolicyInterval.view) := by
  unfold fullReport
  have hrows : (((fullHistory hasher calls).select fun _ r =>
      r.belongs (strip ip) (some identityId)).mergeSort byInstant).map Prod.snd=
      historyOf (strip ip) identityId (fullHistory hasher calls) := by
    rw [List.mergeSort_of_pairwise (pairs_byInstant h)]
    rfl
  rw [build_ordered hwindow hrows]
  rfl

/-- The report of a window inside the retention period does not depend on the storage limits
exactly when the state in force at its start is stored and the listing drops nothing that
shows. -/
theorem report_independent (h : NonDecreasing calls) (hnow : ∀ c ∈ calls, c.now ≤ reportNow)
    (hip : (hasher.ipAddress (strip ip)).isSome) (hwindow : start < stop)
    (hretained : reportNow-retentionDays setting*(86400*microsecond) ≤ start) :
    (∀ identityStart, storedReport hasher setting calls ip identityId start stop limit
      identityStart=fullReport hasher calls ip identityId start stop identityStart) ↔
      InForceKept hasher setting calls ip identityId start ∧
        CutUnseen start stop limit
          (historyOf (strip ip) identityId (storedHistory hasher setting calls)) := by
  obtain ⟨last,hkept⟩ := kept_history hasher h hnow hretained (strip ip) identityId
  have hstored (identityStart : Option ℤ) :=
    storedReport_ordered start stop limit hip hwindow hkept.storedOrdered identityStart
  have hfull (identityStart : Option ℤ) :=
    fullReport_ordered start stop hwindow hkept.fullOrdered identityStart
  have hforce : InForceKept hasher setting calls ip identityId start ↔
      (upTo (instantSecond start)
        (historyOf (strip ip) identityId (fullHistory hasher calls))≠[] →
      upTo (instantSecond start)
        (historyOf (strip ip) identityId (storedHistory hasher setting calls))≠[]) := by
    rw [upTo_ne_nil_iff,upTo_ne_nil_iff]
    rfl
  rw [hforce]
  constructor
  · intro hsame
    have hnone := hsame none
    rw [hstored,hfull] at hnone
    have hviews := Except.ok.inj hnone
    have hkeeps := inForce_of_shown hwindow hkept.fullOrdered hviews
    refine ⟨hkeeps,cutUnseen_of_shown hwindow hkept.fullOrdered hkept.storedOrdered ?_ hviews⟩
    have hor := Decidable.or_iff_not_imp_right.mpr fun hne => hkeeps hne
    rw [windowRows_eq_since,windowRows_eq_since,(hkept.inForce hor).1]
  · rintro ⟨hkeeps,hcut⟩ identityStart
    rw [hstored,hfull]
    refine congrArg Except.ok (intervalsOn_views hwindow (fun policyStart hstart hstop => ?_)
      identityStart)
    exact hkept.shown (Decidable.or_iff_not_imp_right.mpr fun hne => hkeeps hne) hcut hstart hstop

end Theorem

section Runs

def day : ℤ := 86400*microsecond

/-- A hasher that knows one device's state from another's by its mode. -/
def modeHasher : Hasher where
  ipAddress ip := if ip="" then none else some ip
  sha256 state := state.desiredMode

/-- A device is recorded under two modes in a row. -/
def switchedOn (ip : String) (instant : ℤ) (mode : String) : RecordCall where
  ip := ip
  policy := { mode := mode }
  now := instant

/-- Both checkpoints of a device are still stored, and both show. -/
theorem report_independent_recent :
    let calls := [switchedOn "10.0.0.2" 0 "normal",switchedOn "10.0.0.2" (2*day) "blocked"]
    storedReport modeHasher none calls "10.0.0.2" "" day (3*day) 1000 (some 0)=
      fullReport modeHasher calls "10.0.0.2" "" day (3*day) (some 0) := by
  intro calls
  have hnow : ∀ c ∈ calls, c.now ≤ 3*day := by decide
  have hkept : upTo (instantSecond day)
      (historyOf (strip "10.0.0.2") "" (storedHistory modeHasher none calls))≠[] := by decide
  refine (report_independent (by decide) hnow (by decide) (by decide) (by decide)).mpr
    ⟨fun _ => (upTo_ne_nil_iff _).mp hkept,.inl ?_⟩ (some 0)
  exact List.length_eq_zero_iff.mp (by decide)

/-- A device that kept its mode for longer than the retention period. -/
def longKept : List RecordCall :=
  [switchedOn "10.0.0.2" 0 "normal",switchedOn "10.0.0.3" (400*day) "normal"]

/-- The checkpoint in force is deleted by the write of another device. -/
theorem report_pruned :
    NonDecreasing longKept ∧ (∀ c ∈ longKept, c.now ≤ 400*day) ∧
      400*day-retentionDays none*(86400*microsecond) ≤ 370*day ∧
      storedReport modeHasher none longKept "10.0.0.2" "" (370*day) (400*day) 1000 none≠
        fullReport modeHasher longKept "10.0.0.2" "" (370*day) (400*day) none := by
  have hstored : Ordered (historyOf (strip "10.0.0.2") ""
      (storedHistory modeHasher none longKept)) := by decide
  have hfull : Ordered (historyOf (strip "10.0.0.2") "" (fullHistory modeHasher longKept)) := by
    decide
  refine ⟨by decide,by decide,by decide,?_⟩
  rw [storedReport_ordered _ _ _ (by decide) (by decide) hstored,
    fullReport_ordered _ _ (by decide) hfull]
  intro h
  exact absurd (Except.ok.inj h) (by decide)

end Runs
end ZenControl.PolicyHistory
