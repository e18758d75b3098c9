import Mathlib.Data.Finset.Dedup
import Mathlib.Data.Finset.Card
import Mathlib.Data.Finset.Insert
import Mathlib.Data.Finset.Filter
import ZenControl.Library.Cuttings
import ZenControl.PolicyHistory.Correlation
import ZenControl.PolicyHistory.Report
import ZenControl.PolicyHistory.Tiling

/-! Where the intervals of a report begin. They are the pieces of its window between the start of
the management identity and the listed changes of the policy. -/
namespace ZenControl.PolicyHistory
open Cuttings Rows

section Starts
variable {α : Type} {instant : α → ℤ} {cursor stop policyStart : ℤ} {active : α}
  {changes ordered : List α}

/-- Intervals that tile a window are the pieces between their starts. -/
lemma Tiles.pieces {start : ℤ} {is : List (StateInterval α)} (h : Tiles start stop is) :
    (is.map StateInterval.start).headD stop=start ∧
      Increasing stop (is.map StateInterval.start) ∧
      is.map (fun i => (i.start,i.stop))=pieces stop (is.map StateInterval.start) := by
  induction is generalizing start with
  | nil =>
    obtain rfl : start=stop := h
    exact ⟨rfl,⟨List.Pairwise.nil,nofun⟩,rfl⟩
  | cons i is ih =>
    have hbounds := h.bounds
    obtain ⟨rfl,hlt,hrest⟩ := h
    obtain ⟨hhead,hincreasing,hpieces⟩ := ih hrest
    refine ⟨rfl,⟨List.pairwise_cons.mpr ⟨?_,hincreasing.sorted⟩,?_⟩,?_⟩
    · intro t ht
      obtain ⟨j,hj,rfl⟩ := List.mem_map.mp ht
      exact hlt.trans_le (hrest.bounds j hj).1
    · intro t ht
      obtain ⟨j,hj,rfl⟩ := List.mem_map.mp ht
      obtain ⟨-,hjlt,hjstop⟩ := hbounds j hj
      exact hjlt.trans_le hjstop
    · rw [List.map_cons,hpieces,List.map_cons,Cuttings.pieces,hhead]

/-- The loop over the changes starts an interval at the cursor and at each change. -/
lemma knownFrom_starts (hcursor : cursor < stop) (horder : InOrder instant changes)
    (hbound : ∀ r ∈ changes, cursor ≤ instant r ∧ instant r < stop) (t : ℤ) :
    t ∈ (knownFrom instant cursor stop active changes).map StateInterval.start ↔
      t ∈ cursor::changes.map instant := by
  induction changes generalizing cursor active with
  | nil =>
    rw [knownFrom,if_pos hcursor]
    simp [knownInterval]
  | cons change changes ih =>
    obtain ⟨hfirst,hrest⟩ := List.pairwise_cons.mp horder
    obtain ⟨hle,hlt⟩ := hbound change List.mem_cons_self
    have hlater := @ih (instant change) change hlt hrest fun r hr =>
      ⟨hfirst r hr,(hbound r (List.mem_cons_of_mem _ hr)).2⟩
    rw [knownFrom]
    split_ifs with hchange
    · rw [List.map_cons,List.mem_cons,hlater,← List.map_cons,List.mem_cons (b:=cursor)]
      rfl
    · obtain rfl : cursor=instant change := le_antisymm hle (not_lt.mp hchange)
      rw [hlater,List.map_cons]
      simp

lemma observedAt_starts (observed : Option α) (hstart : policyStart < stop)
    (horder : InOrder instant changes)
    (hbound : ∀ r ∈ changes, policyStart < instant r ∧ instant r < stop) (t : ℤ) :
    t ∈ (observedAt instant policyStart stop observed changes).map StateInterval.start ↔
      t ∈ policyStart::changes.map instant := by
  cases observed with
  | some active =>
    exact knownFrom_starts hstart horder (fun r hr => ⟨(hbound r hr).1.le,(hbound r hr).2⟩) t
  | none =>
    cases changes with
    | nil => simp [observedAt,unknownInterval]
    | cons first changes =>
      obtain ⟨hfirst,hrest⟩ := List.pairwise_cons.mp horder
      obtain ⟨hlt,hstop⟩ := hbound first List.mem_cons_self
      rw [observedAt,if_pos hlt,List.singleton_append,List.map_cons,List.mem_cons,
        knownFrom_starts hstop hrest fun r hr =>
          ⟨hfirst r hr,(hbound r (List.mem_cons_of_mem _ hr)).2⟩]
      rw [← List.map_cons,List.mem_cons (b:=policyStart)]
      rfl

lemma observedFrom_starts (hstart : policyStart < stop) (horder : InOrder instant ordered)
    (t : ℤ) :
    t ∈ (observedFrom instant policyStart stop ordered).map StateInterval.start ↔
      t=policyStart ∨ ∃ r ∈ ordered, instant r=t ∧ policyStart < t ∧ t < stop := by
  unfold observedFrom
  rw [observedAt_starts _ hstart (horder.filter _)
    (fun r hr => by simpa using (List.mem_filter.mp hr).2) t]
  rw [List.mem_cons]
  refine or_congr_right ⟨fun ht => ?_,?_⟩
  · obtain ⟨r,hr,rfl⟩ := List.mem_map.mp ht
    obtain ⟨hr,hin⟩ := List.mem_filter.mp hr
    exact ⟨r,hr,rfl,by simpa using hin⟩
  · rintro ⟨r,hr,rfl,hin⟩
    exact List.mem_map_of_mem (List.mem_filter.mpr ⟨hr,by simpa using hin⟩)

lemma knownFrom_identity : ∀ i ∈ knownFrom instant cursor stop active changes,
    i.identityKnown=true := by
  induction changes generalizing cursor active with
  | nil =>
    rw [knownFrom]
    split_ifs <;> simp [knownInterval]
  | cons change changes ih =>
    rw [knownFrom]
    split_ifs
    · exact List.forall_mem_cons.mpr ⟨rfl,ih⟩
    · exact ih

/-- After its start the identity is known. -/
lemma observedFrom_identity : ∀ i ∈ observedFrom instant policyStart stop ordered,
    i.identityKnown=true := by
  unfold observedFrom
  dsimp only
  generalize (ordered.filter fun r => decide (instant r ≤ policyStart)).getLast?=observed
  generalize ordered.filter
    (fun r => decide (policyStart < instant r) && decide (instant r < stop))=changes
  match observed, changes with
  | some active, changes => exact knownFrom_identity
  | none, [] => simp [observedAt,unknownInterval]
  | none, first::changes =>
    rw [observedAt]
    refine List.forall_mem_append.mpr ⟨?_,knownFrom_identity⟩
    split_ifs <;> simp [unknownInterval]

end Starts

section Cut

/-- Where a report cuts its window: at its start, at the start of the identity and at the changes
of the policy after both. -/
def reportCuts (start stop managedSince : ℤ) (changes : List ℤ) : Finset ℤ :=
  insert start ((managedSince::changes).toFinset.filter fun t =>
    managedSince ≤ t ∧ start < t ∧ t < stop)

lemma mem_reportCuts {start stop managedSince t : ℤ} {changes : List ℤ} :
    t ∈ reportCuts start stop managedSince changes ↔ t=start ∨
      (t=managedSince ∨ t ∈ changes) ∧ managedSince ≤ t ∧ start < t ∧ t < stop := by
  simp [reportCuts]

section Build
variable {α : Type} {start stop : ℤ} (instant number : α → ℤ)

/-- The intervals tile the window, begin at its cuts and know the identity after its start. -/
lemma buildIntervals_cut (history : List α) (h : start < stop) (managedSince : ℤ) :
    ∃ is, buildIntervals instant number history start stop (some managedSince)=.ok is ∧
      Tiles start stop is ∧
      (∀ t, t ∈ is.map StateInterval.start ↔
        t ∈ reportCuts start stop managedSince (history.map instant)) ∧
      ∀ i ∈ is, (i.identityKnown=true ↔ managedSince ≤ i.start) := by
  have horder := @byPosition_inOrder _ instant number history
  have hchanges (t : ℤ) {policyStart : ℤ} :
      (∃ r ∈ byPosition instant number history, instant r=t ∧ policyStart < t ∧ t < stop) ↔
        t ∈ history.map instant ∧ policyStart < t ∧ t < stop := by
    simp only [mem_byPosition,List.mem_map]
    exact ⟨fun ⟨r,hr,ht,hin⟩ => ⟨⟨r,hr,ht⟩,hin⟩,fun ⟨⟨r,hr,ht⟩,hin⟩ => ⟨r,hr,ht,hin⟩⟩
  unfold buildIntervals
  rw [if_neg (not_le.mpr h)]
  by_cases hstart : start < managedSince
  · have hfilter : (some managedSince).filter (fun t => decide (start < t))=some managedSince := by
      simp [hstart]
    rw [hfilter]
    dsimp only
    rw [if_pos (lt_min hstart h)]
    split_ifs with hstop
    · -- the identity begins after the window
      rw [min_eq_right hstop]
      refine ⟨_,rfl,⟨rfl,h,rfl⟩,fun t => ?_,fun i hi => ?_⟩
      · rw [mem_reportCuts,List.map_singleton,List.mem_singleton]
        refine ⟨.inl,fun ht => ht.resolve_right ?_⟩
        rintro ⟨-,hle,-,hlt⟩
        exact absurd (hstop.trans hle) (not_le.mpr hlt)
      · obtain rfl := List.mem_singleton.mp hi
        exact iff_of_false Bool.false_ne_true (not_le.mpr hstart)
    · rw [not_le] at hstop
      rw [min_eq_left hstop.le]
      have htiles := (observedFrom_tiles hstop horder).1
      refine ⟨_,rfl,⟨rfl,hstart,htiles⟩,fun t => ?_,fun i hi => ?_⟩
      · rw [List.singleton_append,List.map_cons,List.mem_cons,observedFrom_starts hstop horder,
          hchanges,mem_reportCuts]
        refine or_congr_right ⟨?_,?_⟩
        · rintro (rfl | ⟨ht,hlt,htstop⟩)
          · exact ⟨.inl rfl,le_refl _,hstart,hstop⟩
          · exact ⟨.inr ht,hlt.le,hstart.trans hlt,htstop⟩
        · rintro ⟨ht,hle,-,htstop⟩
          rcases hle.eq_or_lt with rfl | hlt
          · exact .inl rfl
          · exact .inr ⟨ht.resolve_left hlt.ne',hlt,htstop⟩
      · rcases List.mem_cons.mp hi with rfl | hi
        · exact iff_of_false Bool.false_ne_true (not_le.mpr hstart)
        · exact iff_of_true (observedFrom_identity i hi) (htiles.bounds i hi).1
  · have hfilter : (some managedSince).filter (fun t => decide (start < t))=none := by
      simp [not_lt.mp hstart]
    rw [hfilter]
    have htiles := (observedFrom_tiles h horder).1
    refine ⟨_,rfl,htiles,fun t => ?_,fun i hi => ?_⟩
    · rw [observedFrom_starts h horder,hchanges,mem_reportCuts]
      refine or_congr_right ⟨fun ⟨ht,hlt,htstop⟩ => ?_,fun ⟨ht,_,hlt,htstop⟩ => ?_⟩
      · exact ⟨.inr ht,(not_lt.mp hstart).trans hlt.le,hlt,htstop⟩
      · exact ⟨ht.resolve_left fun heq => hstart (heq ▸ hlt),hlt,htstop⟩
    · exact iff_of_true (observedFrom_identity i hi)
        ((not_lt.mp hstart).trans (htiles.bounds i hi).1)

end Build

/-- Intervals that are the pieces of a window between its cuts. -/
structure CutUp (start stop managedSince : ℤ) (cuts : Finset ℤ) (is : List PolicyInterval) :
    Prop where
  head : (is.map PolicyInterval.start).headD stop=start
  increasing : Increasing stop (is.map PolicyInterval.start)
  spans : is.map (fun i => (i.start,i.stop))=pieces stop (is.map PolicyInterval.start)
  starts : (is.map PolicyInterval.start).toFinset=cuts
  identity : ∀ i ∈ is, (i.identityKnown=true ↔ managedSince ≤ i.start)

variable {start stop managedSince : ℤ} {cuts : Finset ℤ} {is : List PolicyInterval}

lemma build_cutUp (history : List (ℕ × Checkpoint)) (h : start < stop) (managedSince : ℤ) :
    ∃ is, buildPolicyIntervals history start stop (some managedSince)=.ok is ∧
      CutUp start stop managedSince
        (reportCuts start stop managedSince (history.map fun r => r.2.instant)) is := by
  obtain ⟨is,his,htiles,hstarts,hidentity⟩ := buildIntervals_cut (fun r => r.2.instant)
    (fun r : ℕ × Checkpoint => (r.1 : ℤ)) history h managedSince
  obtain ⟨hhead,hincreasing,hspans⟩ := htiles.pieces
  refine ⟨is.map StateInterval.stored,by rw [buildPolicyIntervals_eq,his]; rfl,?_⟩
  have hmap : (is.map StateInterval.stored).map PolicyInterval.start=
      is.map StateInterval.start := by
    rw [List.map_map]
    rfl
  refine ⟨by rw [hmap,hhead],by rwa [hmap],?_,?_,?_⟩
  · rw [hmap,← hspans,List.map_map]
    rfl
  · rw [hmap]
    ext t
    rw [List.mem_toFinset]
    exact hstarts t
  · intro i hi
    obtain ⟨j,hj,rfl⟩ := List.mem_map.mp hi
    exact hidentity j hj

lemma CutUp.length_eq (h : CutUp start stop managedSince cuts is) : is.length=cuts.card := by
  have hnodup : (is.map PolicyInterval.start).Nodup := h.increasing.sorted.imp fun h => h.ne
  rw [← h.starts,List.toFinset_card_of_nodup hnodup,List.length_map]

/-- What holds of neighbouring cuts holds of the intervals. -/
lemma CutUp.forall_iff (h : CutUp start stop managedSince cuts is) (P : ℤ → ℤ → Prop) :
    (∀ a b, Neighbours (cuts : Set ℤ) stop a b → P a b) ↔ ∀ i ∈ is, P i.start i.stop := by
  have hmem (a b : ℤ) : Neighbours (cuts : Set ℤ) stop a b ↔
      ∃ i ∈ is, i.start=a ∧ i.stop=b := by
    rw [← h.starts,List.coe_toFinset,← mem_pieces h.increasing,← h.spans,List.mem_map]
    simp only [Prod.mk.injEq]
  simp only [hmem]
  exact ⟨fun hall i hi => hall _ _ ⟨i,hi,rfl,rfl⟩,
    fun hall a b ⟨i,hi,ha,hb⟩ => ha ▸ hb ▸ hall i hi⟩

lemma CutUp.lt (h : CutUp start stop managedSince cuts is) : ∀ i ∈ is, i.start < i.stop :=
  (h.forall_iff fun a b => a < b).mp fun _ _ hpair => hpair.lt

end Cut

section Listing
variable {history : Table Checkpoint} {hasher : Hasher} {ip identityId : String} {start stop : ℤ}

/-- The instants of the first 800 checkpoints of an identity inside the seconds of a window. -/
def listedChanges (history : Table Checkpoint) (ip identityId : String) (start stop : ℤ) :
    List ℤ :=
  (((history.select fun _ r => r.belongs ip (some identityId) &&
    (instantSecond start < r.capturedAt && r.capturedAt < instantSecond stop)).mergeSort
      byInstant).take 800).map fun r => r.2.instant

lemma latest_mem {rows : List (ℕ × Checkpoint)} {r : ℕ × Checkpoint} (h : latest rows=some r) :
    r ∈ rows := by
  induction rows using List.reverseRecOn with
  | nil => cases h
  | append_singleton rows last ih =>
    unfold latest at h ih
    rw [List.foldl_concat] at h
    rw [List.mem_append,List.mem_singleton]
    split at h
    · exact .inr (Option.some.inj h).symm
    · rename_i best hbest
      split_ifs at h with hlast
      · exact .inr (Option.some.inj h).symm
      · exact .inl (ih (hbest.trans h))

/-- The listing holds checkpoints of the identity, and after the start of the window those that
are listed for it. -/
lemma list_changes (hip : (hasher.ipAddress ip).isSome) (hstrip : strip ip=ip) :
    ∃ listing, listPolicyStateHistory hasher ip (some start) (some stop) 800 (some identityId)
        history=.ok listing ∧ (∀ r ∈ listing, r.2.identityId=identityId) ∧
      ∀ t, start < t → (t ∈ listing.map (fun r => r.2.instant) ↔
        t ∈ listedChanges history ip identityId start stop) := by
  have hbelongs {r : Checkpoint} (h : r.belongs ip (some identityId)=true) :
      r.identityId=identityId := by
    unfold Checkpoint.belongs at h
    simpa using (Bool.and_eq_true_iff.mp h).2
  unfold listPolicyStateHistory listedChanges
  dsimp only
  rw [hstrip,if_neg (by simp [Option.isSome_iff_ne_none.mp hip])]
  simp only [Option.all_some,Option.bind_some,Bool.and_assoc]
  generalize hwindow : (history.select fun _ r => r.belongs ip (some identityId) &&
    (decide (instantSecond start < r.capturedAt) &&
      decide (r.capturedAt < instantSecond stop))).mergeSort byInstant=window
  have hinside : ∀ r ∈ window.take 800, history.find r.1=some r.2 ∧
      r.2.identityId=identityId ∧ start < r.2.instant := by
    intro r hr
    have hr := List.mem_of_mem_take hr
    rw [← hwindow,List.mem_mergeSort] at hr
    obtain ⟨hfind,hr⟩ := Table.mem_select.mp hr
    simp only [Bool.and_eq_true,decide_eq_true_eq] at hr
    exact ⟨hfind,hbelongs hr.1,second_lt_iff.mp hr.2.1⟩
  generalize hprevious : latest (history.select fun _ r => r.belongs ip (some identityId) &&
    decide (r.capturedAt ≤ instantSecond start))=previous
  have hbefore : ∀ p ∈ previous, history.find p.1=some p.2 ∧
      p.2.identityId=identityId ∧ p.2.instant ≤ start := by
    rintro p rfl
    obtain ⟨hfind,hp⟩ := Table.mem_select.mp (latest_mem hprevious)
    simp only [Bool.and_eq_true,decide_eq_true_eq] at hp
    exact ⟨hfind,hbelongs hp.1,le_second_iff.mp hp.2⟩
  have hlimit : (max 1 (min (800 : ℤ) 2000)).toNat=800 := by decide
  rw [hlimit]
  refine ⟨_,rfl,fun r hr => ?_,fun t ht => ?_⟩
  · rw [List.mem_mergeSort,List.mem_append,Option.mem_toList,List.mem_filter] at hr
    rcases hr with hr | ⟨hr,-⟩
    · exact (hbefore r hr).2.1
    · exact (hinside r hr).2.1
  · simp only [List.mem_map,List.mem_mergeSort,List.mem_append,Option.mem_toList,List.mem_filter]
    constructor
    · rintro ⟨r,hr | ⟨hr,-⟩,rfl⟩
      · exact absurd (hbefore r hr).2.2 (not_le.mpr ht)
      · exact ⟨r,hr,rfl⟩
    · rintro ⟨r,hr,rfl⟩
      refine ⟨r,.inr ⟨hr,?_⟩,rfl⟩
      cases previous with
      | none => rfl
      | some p =>
        have hne : p.1≠r.1 := by
          intro heq
          have hfind := (hbefore p rfl).1
          rw [heq,(hinside r hr).1] at hfind
          rw [Option.some.inj hfind] at ht
          exact absurd (hbefore p rfl).2.2 (not_le.mpr ht)
        simp [hne]

lemma reportCuts_congr {managedSince : ℤ} {changes changes' : List ℤ}
    (h : ∀ t, start < t → (t ∈ changes ↔ t ∈ changes')) :
    reportCuts start stop managedSince changes=reportCuts start stop managedSince changes' := by
  ext t
  rw [mem_reportCuts,mem_reportCuts]
  refine or_congr_right ⟨?_,?_⟩
  · rintro ⟨ht,hle,hlt,hstop⟩
    exact ⟨ht.imp_right (h t hlt).mp,hle,hlt,hstop⟩
  · rintro ⟨ht,hle,hlt,hstop⟩
    exact ⟨ht.imp_right (h t hlt).mpr,hle,hlt,hstop⟩

end Listing
end ZenControl.PolicyHistory
