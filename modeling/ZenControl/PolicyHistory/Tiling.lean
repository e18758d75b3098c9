import Mathlib.Data.Prod.Lex
import ZenControl.PolicyHistory.Intervals

/-! The intervals of a report tile its window. `build_policy_intervals` reads only the instant and
the number of a checkpoint, so it is given here for checkpoints of any kind; the intervals of
stored checkpoints are an instance. -/
namespace ZenControl.PolicyHistory

/-- An interval and the checkpoint that it reports. -/
structure StateInterval (α : Type) where
  start : ℤ
  stop : ℤ
  known : Bool
  identityKnown : Bool
  gapReason : Option GapReason
  state : Option α

section Build
variable {α : Type}

/-- `_unknown_interval`. -/
def unknownInterval (start stop : ℤ) (identityKnown : Bool) (reason : GapReason) :
    StateInterval α where
  start := start
  stop := stop
  known := false
  identityKnown := identityKnown
  gapReason := some reason
  state := none

def knownInterval (start stop : ℤ) (active : α) : StateInterval α where
  start := start
  stop := stop
  known := true
  identityKnown := true
  gapReason := none
  state := some active

variable (instant number : α → ℤ)

/-- The key that checkpoints are sorted by. -/
def position (r : α) : ℤ ×ₗ ℤ := toLex (instant r,number r)

def byPosition (history : List α) : List α :=
  history.mergeSort fun r r' => position instant number r ≤ position instant number r'

/-- The loop over the changes, and the interval after the last one. -/
def knownFrom (cursor stop : ℤ) (active : α) : List α → List (StateInterval α)
  | [] => if cursor < stop then [knownInterval cursor stop active] else []
  | change::changes =>
    if cursor < instant change then
      knownInterval cursor (instant change) active::knownFrom (instant change) stop change changes
    else knownFrom (instant change) stop change changes

/-- The intervals after the start of the observed policy, by the checkpoint in force there and
those inside the window. -/
def observedAt (policyStart stop : ℤ) : Option α → List α → List (StateInterval α)
  | some active, inside => knownFrom instant policyStart stop active inside
  | none, [] => [unknownInterval policyStart stop true .policyUnobserved]
  | none, first::inside =>
    (if policyStart < instant first then
      [unknownInterval policyStart (instant first) true .policyUnobserved] else []) ++
      knownFrom instant (instant first) stop first inside

/-- The intervals from the start of the observed policy on. -/
def observedFrom (policyStart stop : ℤ) (ordered : List α) : List (StateInterval α) :=
  let before := ordered.filter fun r => instant r ≤ policyStart
  let inside := ordered.filter fun r => policyStart < instant r && instant r < stop
  observedAt instant policyStart stop before.getLast? inside

/-- `build_policy_intervals`, for checkpoints of any kind. -/
def buildIntervals (history : List α) (start stop : ℤ) (identityStart : Option ℤ) :
    Py (List (StateInterval α)) :=
  if stop ≤ start then .error (.valueError "Policy correlation end must be after start")
  else
    let ordered := byPosition instant number history
    match identityStart.filter fun t => start < t with
    | none => .ok (observedFrom instant start stop ordered)
    | some identityStart =>
      let gapEnd := min identityStart stop
      let gap := if start < gapEnd then [unknownInterval start gapEnd false .identityUnproven]
        else []
      if stop ≤ identityStart then .ok gap
      else .ok (gap ++ observedFrom instant identityStart stop ordered)

end Build

section Stored

/-- The interval of a stored checkpoint. -/
def StateInterval.stored (i : StateInterval (ℕ × Checkpoint)) : PolicyInterval where
  start := i.start
  stop := i.stop
  identityKnown := i.identityKnown
  gapReason := i.gapReason
  state := i.state.map Prod.snd

lemma knownFrom_stored (cursor stop : ℤ) (active : ℕ × Checkpoint) (rows : List (ℕ × Checkpoint)) :
    (knownFrom (fun r => r.2.instant) cursor stop active rows).map StateInterval.stored=
      intervalsFrom cursor stop active.2 (rows.map Prod.snd) := by
  induction rows generalizing cursor active with
  | nil =>
    rw [knownFrom,List.map_nil,intervalsFrom]
    split_ifs <;> rfl
  | cons change changes ih =>
    rw [knownFrom,List.map_cons,intervalsFrom]
    split_ifs
    · rw [List.map_cons,ih]
      rfl
    · exact ih _ _

lemma observedFrom_stored (policyStart stop : ℤ) (ordered : List (ℕ × Checkpoint)) :
    (observedFrom (fun r => r.2.instant) policyStart stop ordered).map StateInterval.stored=
      policyIntervals policyStart stop (ordered.map Prod.snd) := by
  unfold observedFrom policyIntervals
  dsimp only
  rw [List.filter_map,List.filter_map,List.getLast?_map]
  simp only [Function.comp_def]
  cases (ordered.filter fun r => r.2.instant ≤ policyStart).getLast? with
  | some active =>
    exact knownFrom_stored _ _ _ _
  | none =>
    cases ordered.filter fun r => policyStart < r.2.instant && r.2.instant < stop with
    | nil => rfl
    | cons first inside =>
      simp only [observedAt,Option.map_none,List.map_cons,List.map_append,knownFrom_stored]
      split_ifs <;> rfl

/-- The intervals of stored checkpoints are those of checkpoints with their seconds as instants. -/
theorem buildPolicyIntervals_eq (history : List (ℕ × Checkpoint)) (start stop : ℤ)
    (identityStart : Option ℤ) :
    buildPolicyIntervals history start stop identityStart=
      (buildIntervals (fun r => r.2.instant) (fun r => (r.1 : ℤ)) history start stop
        identityStart).map (List.map StateInterval.stored) := by
  have horder : (byPosition (fun r => r.2.instant) (fun r => (r.1 : ℤ)) history)=
      history.mergeSort byInstant := by
    unfold byPosition
    congr 1
    funext r r'
    rw [Bool.eq_iff_iff,decide_eq_true_eq,position,position,Prod.Lex.toLex_le_toLex]
    unfold byInstant Checkpoint.instant microsecond
    simp only [Bool.or_eq_true,Bool.and_eq_true,decide_eq_true_eq]
    omega
  unfold buildPolicyIntervals buildIntervals
  rw [horder]
  split_ifs with hwindow
  · rfl
  cases hidentity : identityStart.filter fun t => start < t with
  | none =>
    dsimp only
    rw [← observedFrom_stored]
    rfl
  | some t =>
    obtain ⟨-,hlt⟩ := Option.filter_eq_some_iff.mp hidentity
    have hgap : start < min t stop := lt_min (of_decide_eq_true hlt) (not_le.mp hwindow)
    dsimp only
    rw [if_pos hgap,← observedFrom_stored]
    split_ifs <;> rfl

end Stored

section Tiling
variable {α : Type}

/-- Intervals that are not empty and follow one another from `start` to `stop`. -/
def Tiles (start stop : ℤ) : List (StateInterval α) → Prop
  | [] => start=stop
  | i::rest => i.start=start ∧ i.start < i.stop ∧ Tiles i.stop stop rest

variable (instant number : α → ℤ)

/-- The last checkpoint up to an instant, by time and then by number; of those alike in both it
is the last one listed. -/
structure InForce (history : List α) (t : ℤ) (r : α) : Prop where
  upTo : instant r ≤ t
  latest : ∀ r' ∈ history, instant r' ≤ t → position instant number r' ≤ position instant number r
  listed : (history.filter fun r' => position instant number r'=position instant number r).getLast?=
    some r

/-- The interval is known exactly after the identity starts and a checkpoint was taken, and then
it reports the checkpoint in force over all of it. -/
structure Reports (history : List α) (identityStart : Option ℤ) (i : StateInterval α) : Prop where
  known : i.known=true ↔
    (∀ t ∈ identityStart, t ≤ i.start) ∧ ∃ r ∈ history, instant r ≤ i.start
  state : i.known=true → ∃ r, i.state=some r ∧ InForce instant number history i.start r
  still : i.known=true → ∀ r ∈ history, ¬(i.start < instant r ∧ instant r < i.stop)

end Tiling

section Known
variable {α : Type} {instant number : α → ℤ} {cursor stop policyStart : ℤ} {active : α}
  {changes ordered history : List α}

lemma Tiles.bounds {start : ℤ} {is : List (StateInterval α)} (h : Tiles start stop is) :
    ∀ i ∈ is, start ≤ i.start ∧ i.start < i.stop ∧ i.stop ≤ stop := by
  induction is generalizing start with
  | nil => exact fun i hi => absurd hi List.not_mem_nil
  | cons i rest ih =>
    obtain ⟨rfl,hlt,hrest⟩ := h
    have hstop : i.stop ≤ stop := by
      cases rest with
      | nil => exact hrest.le
      | cons j rest =>
        obtain ⟨hj,hjlt,hjle⟩ := ih hrest j List.mem_cons_self
        exact hj.trans (hjlt.le.trans hjle)
    intro j hj
    rcases List.mem_cons.mp hj with rfl | hj
    · exact ⟨le_refl _,hlt,hstop⟩
    · obtain ⟨hle,hj⟩ := ih hrest j hj
      exact ⟨hlt.le.trans hle,hj⟩

/-- Checkpoints in the order of their instants. -/
def InOrder (instant : α → ℤ) (rows : List α) : Prop :=
  rows.Pairwise fun r r' => instant r ≤ instant r'

/-- The checkpoints up to an instant. -/
def upToInstant (instant : α → ℤ) (t : ℤ) (rows : List α) : List α :=
  rows.filter fun r => instant r ≤ t

lemma upToInstant_none {t : ℤ} {rows : List α} (h : ∀ r ∈ rows, t < instant r) :
    upToInstant instant t rows=[] :=
  List.filter_eq_nil_iff.mpr fun r hr => by simpa using h r hr

/-- The intervals from a cursor on tile the rest of the window, and each reports the last of the
changes up to its start. -/
lemma knownFrom_tiles (hcursor : cursor < stop) (horder : InOrder instant changes)
    (hbound : ∀ r ∈ changes, cursor ≤ instant r ∧ instant r < stop) :
    Tiles cursor stop (knownFrom instant cursor stop active changes) ∧
    ∀ i ∈ knownFrom instant cursor stop active changes, i.known=true ∧
      i.state=(active::upToInstant instant i.start changes).getLast? ∧
      ∀ r ∈ changes, ¬(i.start < instant r ∧ instant r < i.stop) := by
  induction changes generalizing cursor active with
  | nil =>
    rw [knownFrom,if_pos hcursor]
    refine ⟨⟨rfl,hcursor,rfl⟩,fun i hi => ?_⟩
    obtain rfl := List.mem_singleton.mp hi
    exact ⟨rfl,rfl,fun r hr => absurd hr List.not_mem_nil⟩
  | cons change changes ih =>
    obtain ⟨hfirst,hrest⟩ := List.pairwise_cons.mp horder
    obtain ⟨hle,hlt⟩ := hbound change List.mem_cons_self
    obtain ⟨htiles,hall⟩ := @ih (instant change) change hlt hrest fun r hr =>
      ⟨hfirst r hr,(hbound r (List.mem_cons_of_mem _ hr)).2⟩
    have hlater : ∀ i ∈ knownFrom instant (instant change) stop change changes, i.known=true ∧
        i.state=(active::upToInstant instant i.start (change::changes)).getLast? ∧
        ∀ r ∈ change::changes, ¬(i.start < instant r ∧ instant r < i.stop) := by
      intro i hi
      obtain ⟨hknown,hstate,hstill⟩ := hall i hi
      have hstart := (htiles.bounds i hi).1
      refine ⟨hknown,?_,fun r hr => ?_⟩
      · have hhead : upToInstant instant i.start (change::changes)=
            change::upToInstant instant i.start changes :=
          List.filter_cons_of_pos (by simpa using hstart)
        rw [hstate,hhead,List.getLast?_cons_cons]
      · rcases List.mem_cons.mp hr with rfl | hr
        · exact fun h => absurd h.1 (not_lt.mpr hstart)
        · exact hstill r hr
    rw [knownFrom]
    split_ifs with hchange
    · refine ⟨⟨rfl,hchange,htiles⟩,fun i hi => ?_⟩
      rcases List.mem_cons.mp hi with rfl | hi
      · refine ⟨rfl,?_,fun r hr hin => ?_⟩
        · have hnone : upToInstant instant cursor (change::changes)=[] :=
            upToInstant_none fun r hr => by
              rcases List.mem_cons.mp hr with rfl | hr
              · exact hchange
              · exact hchange.trans_le (hfirst r hr)
          exact congrArg (fun rows => (active::rows).getLast?) hnone.symm
        · rcases List.mem_cons.mp hr with rfl | hr
          · exact lt_irrefl _ hin.2
          · exact not_lt.mpr (hfirst r hr) hin.2
      · exact hlater i hi
    · have hsame : instant change=cursor := le_antisymm (not_lt.mp hchange) hle
      exact ⟨hsame ▸ htiles,hlater⟩

/-- The checkpoints up to an instant are those up to an earlier one and those in between. -/
lemma upToInstant_append (horder : InOrder instant ordered) {s t : ℤ} (h : s ≤ t) :
    upToInstant instant t ordered=upToInstant instant s ordered ++
      ordered.filter fun r => s < instant r && instant r ≤ t := by
  induction ordered with
  | nil => rfl
  | cons r rows ih =>
    obtain ⟨hfirst,hrest⟩ := List.pairwise_cons.mp horder
    specialize ih hrest
    unfold upToInstant at ih ⊢
    by_cases hs : instant r ≤ s
    · have ht := hs.trans h
      simp [hs,ht,not_lt.mpr hs,ih]
    · have hnone : (rows.filter fun r => instant r ≤ s)=[] :=
        upToInstant_none fun r' hr' => (not_le.mp hs).trans_le (hfirst r' hr')
      rw [hnone,List.nil_append] at ih
      by_cases ht : instant r ≤ t <;> simp [hs,ht,not_le.mp hs,ih,hnone]

/-- After the start of the observed policy the intervals are known from the first checkpoint
on. -/
lemma observedAt_tiles (active : Option α) (hstart : policyStart < stop)
    (horder : InOrder instant changes)
    (hbound : ∀ r ∈ changes, policyStart < instant r ∧ instant r < stop) :
    Tiles policyStart stop (observedAt instant policyStart stop active changes) ∧
    ∀ i ∈ observedAt instant policyStart stop active changes,
      (i.known=true ↔ active.toList ++ upToInstant instant i.start changes≠[]) ∧
      (i.known=true → i.state=(active.toList ++ upToInstant instant i.start changes).getLast? ∧
        ∀ r ∈ changes, ¬(i.start < instant r ∧ instant r < i.stop)) := by
  cases active with
  | some active =>
    obtain ⟨htiles,hall⟩ := @knownFrom_tiles _ instant policyStart stop active changes hstart horder
      fun r hr => ⟨(hbound r hr).1.le,(hbound r hr).2⟩
    refine ⟨htiles,fun i hi => ?_⟩
    obtain ⟨hknown,hrest⟩ := hall i hi
    exact ⟨iff_of_true hknown (List.cons_ne_nil _ _),fun _ => hrest⟩
  | none =>
    cases changes with
    | nil =>
      refine ⟨⟨rfl,hstart,rfl⟩,fun i hi => ?_⟩
      obtain rfl := List.mem_singleton.mp hi
      exact ⟨iff_of_false Bool.false_ne_true (not_not.mpr rfl),fun h => absurd h Bool.false_ne_true⟩
    | cons first changes =>
      obtain ⟨hfirst,hrest⟩ := List.pairwise_cons.mp horder
      obtain ⟨hlt,hstop⟩ := hbound first List.mem_cons_self
      obtain ⟨htiles,hall⟩ := @knownFrom_tiles _ instant (instant first) stop first changes hstop
        hrest fun r hr => ⟨hfirst r hr,(hbound r (List.mem_cons_of_mem _ hr)).2⟩
      rw [observedAt,if_pos hlt,List.singleton_append]
      refine ⟨⟨rfl,hlt,htiles⟩,fun i hi => ?_⟩
      rw [Option.toList_none,List.nil_append]
      rcases List.mem_cons.mp hi with rfl | hi
      · have hnone : upToInstant instant policyStart (first::changes)=[] :=
          upToInstant_none fun r hr => (hbound r hr).1
        exact ⟨iff_of_false Bool.false_ne_true (not_not.mpr hnone),
          fun h => absurd h Bool.false_ne_true⟩
      · obtain ⟨hknown,hstate,hstill⟩ := hall i hi
        have hle := (htiles.bounds i hi).1
        have hhead : upToInstant instant i.start (first::changes)=
            first::upToInstant instant i.start changes :=
          List.filter_cons_of_pos (by simpa using hle)
        rw [hhead]
        refine ⟨iff_of_true hknown (List.cons_ne_nil _ _),fun _ => ⟨hstate,fun r hr => ?_⟩⟩
        rcases List.mem_cons.mp hr with rfl | hr
        · exact fun h => absurd h.1 (not_lt.mpr hle)
        · exact hstill r hr

/-- Of a first part only its last element shows in the last one of the whole. -/
lemma getLast?_toList_append (before inside : List α) :
    (before.getLast?.toList ++ inside=[] ↔ before ++ inside=[]) ∧
    (before.getLast?.toList ++ inside).getLast?=(before ++ inside).getLast? := by
  cases hbefore : before.getLast? with
  | none =>
    rw [List.getLast?_eq_none_iff.mp hbefore]
    exact ⟨Iff.rfl,rfl⟩
  | some last =>
    obtain ⟨rest,rfl⟩ := List.getLast?_eq_some_iff.mp hbefore
    refine ⟨by simp,?_⟩
    rw [List.append_assoc,Option.toList_some,List.singleton_append]
    exact (List.getLast?_append_of_ne_nil rest (List.cons_ne_nil last inside)).symm

/-- The intervals from the start of the observed policy on tile the rest of the window; they are
known where a checkpoint was taken before. -/
lemma observedFrom_tiles (hstart : policyStart < stop) (horder : InOrder instant ordered) :
    Tiles policyStart stop (observedFrom instant policyStart stop ordered) ∧
    ∀ i ∈ observedFrom instant policyStart stop ordered,
      (i.known=true ↔ upToInstant instant i.start ordered≠[]) ∧
      (i.known=true → i.state=(upToInstant instant i.start ordered).getLast? ∧
        ∀ r ∈ ordered, ¬(i.start < instant r ∧ instant r < i.stop)) := by
  obtain ⟨htiles,hall⟩ := observedAt_tiles (upToInstant instant policyStart ordered).getLast?
    hstart (horder.filter fun r => policyStart < instant r && instant r < stop)
    fun r hr => by simpa using (List.mem_filter.mp hr).2
  refine ⟨htiles,fun i hi => ?_⟩
  obtain ⟨hle,hlt,hstop⟩ := htiles.bounds i hi
  obtain ⟨hknown,hstate⟩ := hall i hi
  -- up to its start stand the checkpoints before the window and those inside
  have hsplit : upToInstant instant i.start ordered=upToInstant instant policyStart ordered ++
      upToInstant instant i.start
        (ordered.filter fun r => policyStart < instant r && instant r < stop) := by
    rw [upToInstant_append horder hle]
    unfold upToInstant
    rw [List.filter_filter]
    congr 1
    refine List.filter_congr fun r _ => ?_
    rw [Bool.eq_iff_iff]
    simp only [Bool.and_eq_true,decide_eq_true_eq]
    omega
  rw [hsplit]
  refine ⟨hknown.trans (not_congr (getLast?_toList_append _ _).1),fun h => ?_⟩
  obtain ⟨hi,hstill⟩ := hstate h
  refine ⟨hi.trans (getLast?_toList_append _ _).2,fun r hr hin => hstill r (List.mem_filter.mpr ⟨hr,?_⟩) hin⟩
  simpa using ⟨hle.trans_lt hin.1,hin.2.trans_le hstop⟩

lemma position_trans (a b c : α)
    (hab : decide (position instant number a ≤ position instant number b)=true)
    (hbc : decide (position instant number b ≤ position instant number c)=true) :
    decide (position instant number a ≤ position instant number c)=true :=
  decide_eq_true ((of_decide_eq_true hab).trans (of_decide_eq_true hbc))

lemma position_total (a b : α) :
    (decide (position instant number a ≤ position instant number b) ||
      decide (position instant number b ≤ position instant number a))=true := by
  simpa using le_total _ _

lemma byPosition_pairwise (history : List α) : (byPosition instant number history).Pairwise
    fun r r' => position instant number r ≤ position instant number r' :=
  (List.pairwise_mergeSort position_trans position_total history).imp of_decide_eq_true

lemma byPosition_inOrder (history : List α) :
    InOrder instant (byPosition instant number history) :=
  (byPosition_pairwise history).imp fun h =>
    (Prod.Lex.toLex_le_toLex.mp h).elim le_of_lt fun h => h.1.le

lemma mem_byPosition {r : α} : r ∈ byPosition instant number history ↔ r ∈ history :=
  List.mem_mergeSort

/-- Sorting keeps checkpoints of one position in their order. -/
lemma byPosition_alike (history : List α) (r : α) :
    ((byPosition instant number history).filter fun r' =>
      position instant number r'=position instant number r)=
    history.filter fun r' => position instant number r'=position instant number r := by
  have halike : (history.filter fun r' =>
      position instant number r'=position instant number r).Pairwise fun a b =>
        decide (position instant number a ≤ position instant number b)=true := by
    refine List.pairwise_of_forall_mem_list fun a ha b hb => decide_eq_true ?_
    rw [of_decide_eq_true (List.mem_filter.mp ha).2,of_decide_eq_true (List.mem_filter.mp hb).2]
  have hsublist := (List.sublist_mergeSort position_trans position_total halike
    List.filter_sublist).filter fun r' => decide (position instant number r'=position instant number r)
  rw [List.filter_filter,List.filter_congr fun r _ => Bool.and_self _] at hsublist
  exact (hsublist.eq_of_length
    ((List.mergeSort_perm history _).filter _).length_eq.symm).symm

/-- Among the sorted checkpoints the last one up to an instant is the one in force there. -/
lemma inForce_of_last {t : ℤ} {r : α}
    (h : (upToInstant instant t (byPosition instant number history)).getLast?=some r) :
    InForce instant number history t r := by
  obtain ⟨rest,hrest⟩ := List.getLast?_eq_some_iff.mp h
  have hupTo : instant r ≤ t :=
    of_decide_eq_true (List.mem_filter.mp (List.mem_of_getLast? h)).2
  have hpairs := (@byPosition_pairwise _ instant number history).filter
    fun r => instant r ≤ t
  refine ⟨hupTo,fun r' hr' ht => ?_,?_⟩
  · have hmem : r' ∈ upToInstant instant t (byPosition instant number history) :=
      List.mem_filter.mpr ⟨mem_byPosition.mpr hr',decide_eq_true ht⟩
    rw [hrest] at hmem
    change (upToInstant instant t (byPosition instant number history)).Pairwise _ at hpairs
    rw [hrest] at hpairs
    rcases List.mem_append.mp hmem with hmem | hmem
    · exact (List.pairwise_append.mp hpairs).2.2 r' hmem r (List.mem_singleton_self r)
    · exact le_of_eq (by rw [List.mem_singleton.mp hmem])
  · have halike : ((byPosition instant number history).filter fun r' =>
        position instant number r'=position instant number r)=
        (upToInstant instant t (byPosition instant number history)).filter fun r' =>
          position instant number r'=position instant number r := by
      rw [upToInstant,List.filter_filter]
      refine List.filter_congr fun r' _ => ?_
      by_cases hr' : position instant number r'=position instant number r
      · have hinstant : instant r'=instant r := congrArg (fun p => (ofLex p).1) hr'
        simp [hr',hinstant,hupTo]
      · simp [hr']
    rw [← byPosition_alike,halike,hrest,List.filter_append]
    simp

lemma observedFrom_reports {identityStart : Option ℤ} (hstart : policyStart < stop)
    (hidentity : ∀ t ∈ identityStart, t ≤ policyStart) :
    Tiles policyStart stop
      (observedFrom instant policyStart stop (byPosition instant number history)) ∧
    ∀ i ∈ observedFrom instant policyStart stop (byPosition instant number history),
      Reports instant number history identityStart i := by
  obtain ⟨htiles,hall⟩ := observedFrom_tiles hstart
    (@byPosition_inOrder _ instant number history)
  refine ⟨htiles,fun i hi => ?_⟩
  obtain ⟨hknown,hstate⟩ := hall i hi
  refine ⟨hknown.trans ?_,fun h => ?_,fun h r hr => (hstate h).2 r (mem_byPosition.mpr hr)⟩
  · have hidentity : ∀ t ∈ identityStart, t ≤ i.start :=
      fun t ht => (hidentity t ht).trans (htiles.bounds i hi).1
    rw [and_iff_right hidentity,ne_eq,List.eq_nil_iff_forall_not_mem]
    simp only [upToInstant,List.mem_filter,mem_byPosition,decide_eq_true_eq,not_forall,not_not]
  · have hne := hknown.mp h
    have hr := List.getLast?_eq_some_getLast hne
    exact ⟨_,(hstate h).1.trans hr,inForce_of_last hr⟩

variable (instant number) in
/-- The intervals tile the window, and each reports the state in force or a gap. -/
theorem buildIntervals_tile (history : List α) {start stop : ℤ} (h : start < stop)
    (identityStart : Option ℤ) :
    ∃ is, buildIntervals instant number history start stop identityStart=.ok is ∧ is≠[] ∧
      Tiles start stop is ∧ ∀ i ∈ is, Reports instant number history identityStart i := by
  have hnonempty : ∀ {is : List (StateInterval α)}, Tiles start stop is → is≠[] := by
    rintro is htiles rfl
    exact h.ne htiles
  suffices hbuilt : ∃ is, buildIntervals instant number history start stop identityStart=.ok is ∧
      Tiles start stop is ∧ ∀ i ∈ is, Reports instant number history identityStart i by
    obtain ⟨is,his,htiles,hreports⟩ := hbuilt
    exact ⟨is,his,hnonempty htiles,htiles,hreports⟩
  unfold buildIntervals
  rw [if_neg (not_le.mpr h)]
  cases hidentity : identityStart.filter fun t => start < t with
  | none =>
    have hbefore : ∀ t ∈ identityStart, t ≤ start := fun t ht => by
      simpa using Option.filter_eq_none_iff.mp hidentity t ht
    exact ⟨_,rfl,observedFrom_reports h hbefore⟩
  | some t =>
    obtain ⟨rfl,hlt⟩ := Option.filter_eq_some_iff.mp hidentity
    replace hlt : start < t := of_decide_eq_true hlt
    dsimp only
    rw [if_pos (lt_min hlt h)]
    have hgap : ∀ i : StateInterval α,
        i=unknownInterval start (min t stop) false .identityUnproven →
        Reports instant number history (some t) i := by
      rintro i rfl
      refine ⟨iff_of_false Bool.false_ne_true fun h => ?_,fun h => absurd h Bool.false_ne_true,
        fun h => absurd h Bool.false_ne_true⟩
      exact absurd (h.1 t rfl) (not_le.mpr hlt)
    split_ifs with hstop
    · rw [min_eq_right hstop] at hgap ⊢
      exact ⟨_,rfl,⟨rfl,h,rfl⟩,fun i hi => hgap i (List.mem_singleton.mp hi)⟩
    · obtain ⟨htiles,hreports⟩ := @observedFrom_reports _ instant number stop t history
        (some t) (not_le.mp hstop) fun s hs => (Option.some.inj hs).ge
      rw [min_eq_left (not_le.mp hstop).le] at hgap ⊢
      refine ⟨_,rfl,⟨rfl,hlt,htiles⟩,fun i hi => ?_⟩
      rcases List.mem_cons.mp hi with hi | hi
      · exact hgap i hi
      · exact hreports i hi

theorem buildIntervals_tile_change :
    ∃ is, buildIntervals (fun r : ℤ × ℤ => r.1) (fun r => r.2) [(7,3),(2,1),(7,2)] 0 10 (some 4)=
        .ok is ∧ is≠[] ∧ Tiles 0 10 is ∧
      ∀ i ∈ is, Reports (fun r : ℤ × ℤ => r.1) (fun r => r.2) [(7,3),(2,1),(7,2)] (some 4) i :=
  buildIntervals_tile _ _ _ (by decide) _

end Known

end ZenControl.PolicyHistory
