import Mathlib.Data.List.Pairwise
import ZenControl.Policy.Occurrences
import ZenControl.Store.Plans

/-! The conflicts of schedule plans that the store reports, against the ambiguity that the
resolver raises. The report compares clock times, the resolver instants: two clock times are one
instant where the clocks leave one of them out. -/
namespace ZenControl

section Detector
variable (rt : Runtime) (t : Tables)

/-- `action_service` of a listed plan. -/
def actionService (value : String) : String :=
  match normalizeServiceScheduleAction rt t value with
  | .ok (key,_) => key
  | .error _ => ""

/-- `same_dimension`. -/
def sameDimension : PlanAction → PlanAction → Bool
  | .mode _,.mode _ => true
  | .service value,.service value' => actionService rt t value=actionService rt t value'
  | _,_ => false

/-- The days that two plans share, in the order of the first. -/
def overlap (a b : SchedulePlan) : List Weekday := a.days.filter fun day => day ∈ b.days

/-- Whether two plans are reported. -/
def conflicting (a b : SchedulePlan) : Bool :=
  a.target=b.target && !(overlap a b).isEmpty && a.clockTime=b.clockTime &&
    sameDimension rt t a.action b.action && decide (a.action≠b.action)

/-- What is reported of two plans. -/
def conflictText (a b : SchedulePlan) : String :=
  a.label ++ " conflicts with " ++ b.label ++ " at " ++ a.clockTime ++ " on " ++
    joinSorted ((overlap a b).map Weekday.text).dedup

/-- The conflicts of each plan with those behind it. -/
def conflictsOf : List SchedulePlan → List String
  | [] => []
  | a::rest => (rest.filter (conflicting rt t a)).map (conflictText a) ++ conflictsOf rest

/-- The enabled plans. -/
def enabledPlans : List SchedulePlan := (listSchedulePlans t).filter fun p => p.enabled

/-- `detect_schedule_conflicts`. -/
def detectScheduleConflicts : List String := conflictsOf rt t (enabledPlans t)

variable {rt t} {a b : SchedulePlan}

lemma sameDimension_comm (x y : PlanAction) :
    sameDimension rt t x y=sameDimension rt t y x := by
  cases x <;> cases y <;> first | rfl | exact decide_eq_decide.mpr eq_comm

lemma overlap_isEmpty : (overlap a b).isEmpty=true ↔ ∀ day ∈ a.days,day ∉ b.days := by
  simp [overlap]

lemma conflicting_comm : conflicting rt t a b=conflicting rt t b a := by
  have hoverlap : (overlap a b).isEmpty=(overlap b a).isEmpty := by
    rw [Bool.eq_iff_iff,overlap_isEmpty,overlap_isEmpty]
    exact ⟨fun h day hb ha => h day ha hb,fun h day ha hb => h day hb ha⟩
  unfold conflicting
  rw [hoverlap,sameDimension_comm a.action,decide_eq_decide.mpr (@eq_comm _ a.target _),
    decide_eq_decide.mpr (@eq_comm _ a.clockTime _),decide_eq_decide.mpr (@ne_comm _ a.action _)]

/-- Nothing is reported if and only if no two plans conflict. -/
lemma conflictsOf_eq_nil {plans : List SchedulePlan} :
    conflictsOf rt t plans=[] ↔ plans.Pairwise fun a b => conflicting rt t a b=false := by
  induction plans with
  | nil => simp [conflictsOf]
  | cons a rest ih =>
    simp only [conflictsOf,List.append_eq_nil_iff,List.map_eq_nil_iff,List.filter_eq_nil_iff,
      Bool.not_eq_true,List.pairwise_cons,ih]

lemma not_conflicting (h : detectScheduleConflicts rt t=[]) (ha : a ∈ enabledPlans t)
    (hb : b ∈ enabledPlans t) : conflicting rt t a b=false := by
  by_cases hne : a=b
  · simp [conflicting,hne]
  · have hsymm : Std.Symm fun a b : SchedulePlan => conflicting rt t a b=false :=
      ⟨fun x y hxy => conflicting_comm.trans hxy⟩
    exact (conflictsOf_eq_nil.mp h).forall ha hb hne

end Detector

section Ambiguity
variable {zone : Zone} {rt : Runtime} {t : Tables} {ip : String} {profileId : Option ℤ}
  {policyAt : Moment} {e : StoreError}

/-- The error of two schedules that disagree: its text begins with `Ambiguous`. -/
def StoreError.Ambiguous : StoreError → Prop
  | valueError m => "Ambiguous ".toList <+: m.toList
  | _ => False

lemma StoreError.Ambiguous.append {m : String} (h : (valueError m).Ambiguous) (rest : String) :
    (valueError (m ++ rest)).Ambiguous := by
  have hprefix : m.toList <+: (m ++ rest).toList := by
    rw [String.toList_append]
    exact List.prefix_append _ _
  exact List.IsPrefix.trans h hprefix

lemma starts_append {m : String} {c : Char} (h : m.toList.head?=some c) (rest : String) :
    (m ++ rest).toList.head?=some c := by
  rw [String.toList_append,List.head?_append,h]
  rfl

lemma not_ambiguous {m : String} {c : Char} (h : m.toList.head?=some c) (hc : c≠ 'A') :
    ¬(StoreError.valueError m).Ambiguous := by
  rintro ⟨rest,hm⟩
  rw [← hm] at h
  exact hc (Option.some.inj h).symm

/-- What a schedule decides on: the mode, or one service. -/
def inDimension : Option String → CandidateAction → Bool
  | none,action => action.isMode
  | some key,action => concerns key action

lemma selectScheduleCandidate_ambiguous {cs : List Candidate} {dimension : String}
    (h : selectScheduleCandidate zone cs dimension=.error e) : e.Ambiguous := by
  unfold selectScheduleCandidate at h
  split at h
  · cases h
  · dsimp only at h
    split_ifs at h
    obtain rfl := Except.error.inj h
    have hstart : (StoreError.valueError "Ambiguous ").Ambiguous := List.prefix_rfl
    exact ((((hstart.append _).append _).append _).append _).append _

lemma selectServices_ambiguous {groups : List (String × List Candidate)}
    (h : selectServices zone groups=.error e) : e.Ambiguous := by
  induction groups with
  | nil => cases h
  | cons entry rest ih =>
    obtain ⟨key,values⟩ := entry
    rw [selectServices] at h
    cases hselect : selectScheduleCandidate zone values s!"{key} service" with
    | error e' =>
      rw [hselect] at h
      exact Except.error.inj h ▸ selectScheduleCandidate_ambiguous hselect
    | ok chosen =>
      rw [hselect] at h
      cases hothers : selectServices zone rest with
      | error e' =>
        rw [hothers] at h
        exact ih (hothers.trans h)
      | ok others =>
        rw [hothers] at h
        cases h

lemma afterGap_not_ambiguous {naive : Wall} {left minutes : ℕ}
    (h : afterGap zone naive left minutes=.error e) : ¬e.Ambiguous := by
  induction left generalizing minutes with
  | zero =>
    obtain rfl := Except.error.inj h
    exact not_ambiguous (starts_append (starts_append (starts_append rfl _) _) _) (by decide)
  | succ left ih =>
    rw [afterGap] at h
    cases hvalid : validWallCandidates zone (naive+minutes*minuteUs) with
    | cons chosen rest => rw [hvalid] at h; cases h
    | nil => rw [hvalid] at h; exact ih h

lemma resolveLocalWallTime_not_ambiguous {naive : Wall}
    (h : resolveLocalWallTime zone naive=.error e) : ¬e.Ambiguous := by
  unfold resolveLocalWallTime at h
  split at h
  · cases h
  · exact afterGap_not_ambiguous h

lemma clockOccurrences_not_ambiguous {future : Bool} {hour minute : ℤ} {onDay : Day → Bool}
    {ns : List ℤ} (h : clockOccurrences zone policyAt future hour minute onDay ns=.error e) :
    ¬e.Ambiguous := by
  induction ns with
  | nil => cases h
  | cons n ns ih =>
    rw [clockOccurrences_cons] at h
    split_ifs at h with hon
    · cases htime : checkTime hour minute with
      | error e' =>
        rw [htime] at h
        obtain rfl := Except.error.inj h
        unfold checkTime at htime
        split_ifs at htime <;> obtain rfl := Except.error.inj htime <;>
          exact not_ambiguous rfl (by decide)
      | ok u =>
        rw [htime] at h
        cases hresolve : resolveLocalWallTime zone
            (combine (dayBy policyAt future n) hour minute) with
        | error e' =>
          rw [hresolve] at h
          exact Except.error.inj h ▸ resolveLocalWallTime_not_ambiguous hresolve
        | ok o =>
          rw [hresolve] at h
          cases hlater : clockOccurrences zone policyAt future hour minute onDay ns with
          | error e' =>
            rw [hlater] at h
            exact ih (hlater.trans h)
          | ok later =>
            rw [hlater] at h
            simp only [bind,Except.bind] at h
            split_ifs at h <;> cases h
    · exact ih h

lemma planAction_not_ambiguous {plan : SchedulePlan} (h : planAction rt t plan=.error e) :
    ¬e.Ambiguous := by
  unfold planAction at h
  split at h
  · cases h
  · rename_i value haction
    cases hnormal : normalizeServiceScheduleAction rt t value with
    | ok action => rw [hnormal] at h; cases h
    | error e' =>
      rw [hnormal] at h
      obtain rfl := Except.error.inj h
      unfold normalizeServiceScheduleAction at hnormal
      split at hnormal
      · obtain rfl := Except.error.inj hnormal
        exact not_ambiguous rfl (by decide)
      · dsimp only at hnormal
        split_ifs at hnormal
        · split at hnormal
          · obtain rfl := Except.error.inj hnormal
            exact not_ambiguous rfl (by decide)
          · cases hnormal
        · obtain rfl := Except.error.inj hnormal
          exact not_ambiguous (starts_append (starts_append rfl _) _) (by decide)

lemma planOccurrences_not_ambiguous {future : Bool} {plan : SchedulePlan}
    (h : planOccurrences zone rt t policyAt future plan=.error e) : ¬e.Ambiguous := by
  unfold planOccurrences at h
  split at h
  · obtain rfl := Except.error.inj h
    exact not_ambiguous (starts_append (starts_append rfl _) _) (by decide)
  · rename_i hour minute hclock
    cases haction : planAction rt t plan with
    | error e' =>
      rw [haction] at h
      exact Except.error.inj h ▸ planAction_not_ambiguous haction
    | ok action =>
      rw [haction] at h
      cases hfound : clockOccurrences zone policyAt future hour minute
          (fun day => weekdayCode day ∈ plan.days) offsets with
      | error e' =>
        rw [hfound] at h
        exact Except.error.inj h ▸ clockOccurrences_not_ambiguous hfound
      | ok found =>
        rw [hfound] at h
        cases h

lemma scheduleOccurrences_not_ambiguous {future : Bool}
    (h : scheduleOccurrences zone rt t ip profileId policyAt future=.error e) :
    ¬e.Ambiguous := by
  unfold scheduleOccurrences at h
  generalize (listSchedulePlans t).filter _=plans at h
  induction plans with
  | nil => cases h
  | cons plan plans ih =>
    rw [gather] at h
    cases hfirst : planOccurrences zone rt t policyAt future plan with
    | error e' =>
      rw [hfirst] at h
      exact Except.error.inj h ▸ planOccurrences_not_ambiguous hfirst
    | ok first =>
      rw [hfirst] at h
      cases hrest : gather (planOccurrences zone rt t policyAt future) plans with
      | error e' =>
        rw [hrest] at h
        exact ih (hrest.trans h)
      | ok rest =>
        rw [hrest] at h
        cases h

/-- The resolver raises an ambiguity where the candidates of one dimension are disputed. -/
lemma resolve_ambiguous :
    (∃ e,resolveRegularSchedule zone rt t ip profileId policyAt=.error e ∧ e.Ambiguous) ↔
      ∃ past,scheduleOccurrences zone rt t ip profileId policyAt false=.ok past ∧
        ∃ d,Disputed zone (· ∈ past.filter fun c => inDimension d c.action) := by
  unfold resolveRegularSchedule
  cases hpast : scheduleOccurrences zone rt t ip profileId policyAt false with
  | error e =>
    refine iff_of_false ?_ (fun ⟨past,h,_⟩ => by cases h)
    rintro ⟨e',he,hambiguous⟩
    exact scheduleOccurrences_not_ambiguous hpast (Except.error.inj he ▸ hambiguous)
  | ok past =>
    have hmodes := @selectScheduleCandidate_fails zone (past.filter fun c => c.action.isMode)
      "mode"
    have hservices := @services_fail zone past
    simp only [bind,Except.bind]
    cases hmode : selectScheduleCandidate zone (past.filter fun c => c.action.isMode) "mode" with
    | error e =>
      refine iff_of_true ⟨e,rfl,selectScheduleCandidate_ambiguous hmode⟩ ⟨past,rfl,none,?_⟩
      exact hmodes.mp ⟨e,hmode⟩
    | ok mode =>
      cases hservice : selectServices zone (byService past) with
      | error e =>
        obtain ⟨key,hdisputed⟩ := hservices.mp ⟨e,hservice⟩
        exact iff_of_true ⟨e,rfl,selectServices_ambiguous hservice⟩ ⟨past,rfl,some key,hdisputed⟩
      | ok services =>
        refine iff_of_false ?_ ?_
        · rintro ⟨e,he,hambiguous⟩
          cases hfuture : scheduleOccurrences zone rt t ip profileId policyAt true with
          | error e' =>
            rw [hfuture] at he
            exact scheduleOccurrences_not_ambiguous hfuture (Except.error.inj he ▸ hambiguous)
          | ok future => rw [hfuture] at he; cases he
        · rintro ⟨past',hpast',d,hdisputed⟩
          obtain rfl := Except.ok.inj hpast'
          cases d with
          | none =>
            obtain ⟨e,he⟩ := hmodes.mpr hdisputed
            cases hmode.symm.trans he
          | some key =>
            obtain ⟨e,he⟩ := hservices.mpr ⟨key,hdisputed⟩
            cases hservice.symm.trans he

end Ambiguity

section Plans
variable {zone : Zone} {rt : Runtime} {t : Tables} {a b : SchedulePlan} {c c' : Candidate}
  {day day' : ℤ}

/-- Equal instants are equal local times. -/
lemma wall_eq (h : zone.Real c.occurrence) (h' : zone.Real c'.occurrence)
    (heq : c.instant zone=c'.instant zone) : c.occurrence.wall=c'.occurrence.wall := by
  unfold Zone.Real at h h'
  unfold Candidate.instant at heq
  rw [← h,← h',heq]

lemma day_eq {day day' hour minute k k' : ℤ} (hk : 0 ≤ k ∧ k ≤ 180) (hk' : 0 ≤ k' ∧ k' ≤ 180)
    (h : combine day hour minute+k*minuteUs=combine day' hour minute+k'*minuteUs) : day=day' := by
  change (_ : ℤ)=_ at h
  simp only [combine,dayUs,hourUs,minuteUs] at h
  omega

/-- Two plans with one clock time occur at one instant only on one day. -/
lemma OccursOn.same_day (h : OccursOn zone rt t a day c) (h' : OccursOn zone rt t b day' c')
    (hclock : a.clockTime=b.clockTime) (hinstant : c.instant zone=c'.instant zone) :
    day=day' := by
  obtain ⟨-,hour,minute,action,⟨m,r⟩,hread,-,-,hresolve,rfl⟩ := h
  obtain ⟨-,hour',minute',action',⟨m',r'⟩,hread',-,-,hresolve',rfl⟩ := h'
  obtain ⟨rfl,rfl⟩ := Prod.mk.inj (Option.some.inj (hread.symm.trans (hclock ▸ hread')))
  obtain ⟨hreal,k,hk,hwall,-⟩ := resolveLocalWallTime_ok hresolve
  obtain ⟨hreal',k',hk',hwall',-⟩ := resolveLocalWallTime_ok hresolve'
  have hwalls := wall_eq hreal hreal' hinstant
  change m.wall=m'.wall at hwalls
  rw [hwall,hwall'] at hwalls
  exact day_eq ⟨Int.natCast_nonneg k,by omega⟩ ⟨Int.natCast_nonneg k',by omega⟩ hwalls

lemma planAction_congr (h : a.action=b.action) : planAction rt t a=planAction rt t b := by
  unfold planAction
  rw [h]

lemma actionService_ok {value key : String} {state : ServiceState}
    (h : normalizeServiceScheduleAction rt t value=.ok (key,state)) :
    actionService rt t value=key := by
  unfold actionService
  rw [h]

/-- What decides in one dimension is compared in one dimension. -/
lemma sameDimension_of {d : Option String} {action action' : CandidateAction}
    (h : planAction rt t a=.ok action) (h' : planAction rt t b=.ok action')
    (hd : inDimension d action=true) (hd' : inDimension d action'=true) :
    sameDimension rt t a.action b.action=true := by
  unfold planAction at h h'
  cases ha : a.action with
  | mode value =>
    rw [ha] at h
    obtain rfl := Except.ok.inj h
    cases hb : b.action with
    | mode value' => rfl
    | service value' =>
      rw [hb] at h'
      obtain ⟨⟨key,state⟩,-,h'⟩ := bind_ok h'
      obtain rfl := Except.ok.inj h'
      cases d <;> simp [inDimension,concerns,CandidateAction.serviceKey,
        CandidateAction.isMode] at hd hd'
  | service value =>
    rw [ha] at h
    obtain ⟨⟨key,state⟩,hnormal,h⟩ := bind_ok h
    obtain rfl := Except.ok.inj h
    cases hb : b.action with
    | mode value' =>
      rw [hb] at h'
      obtain rfl := Except.ok.inj h'
      cases d <;> simp [inDimension,concerns,CandidateAction.serviceKey,
        CandidateAction.isMode] at hd hd'
    | service value' =>
      rw [hb] at h'
      obtain ⟨⟨key',state'⟩,hnormal',h'⟩ := bind_ok h'
      obtain rfl := Except.ok.inj h'
      cases d with
      | none => cases hd
      | some k =>
        have hkey : key=k := Option.some.inj (of_decide_eq_true hd)
        have hkey' : key'=k := Option.some.inj (of_decide_eq_true hd')
        exact decide_eq_true (by rw [actionService_ok hnormal,actionService_ok hnormal',hkey,hkey'])

/-- Occurrences of two plans of one target with one clock time that differ are reported. -/
lemma conflicting_of_occurs {d : Option String} (h : OccursOn zone rt t a day c)
    (h' : OccursOn zone rt t b day' c') (htarget : a.target=b.target)
    (hclock : a.clockTime=b.clockTime) (hd : inDimension d c.action=true)
    (hd' : inDimension d c'.action=true) (hinstant : c.instant zone=c'.instant zone)
    (hdiffer : c.action≠c'.action) : conflicting rt t a b=true := by
  obtain rfl := h.same_day h' hclock hinstant
  obtain ⟨hday,hour,minute,action,o,-,haction,-,-,rfl⟩ := h
  obtain ⟨hday',hour',minute',action',o',-,haction',-,-,rfl⟩ := h'
  have hoverlap : (overlap a b).isEmpty=false := by
    rw [← Bool.not_eq_true,overlap_isEmpty]
    exact fun hnone => hnone _ hday hday'
  have hne : a.action≠b.action := fun heq =>
    hdiffer (Except.ok.inj (haction.symm.trans ((planAction_congr heq).trans haction')))
  simp only [conflicting,htarget,hoverlap,hclock,sameDimension_of haction haction' hd hd',hne,
    ne_eq,not_false_eq_true,decide_true,Bool.not_false,Bool.and_self]

end Plans

section Targets
variable {t : Tables} {ip : String} {profileId : Option ℤ}

/-- A target that some device has. -/
def Target.Reached : Target → Prop
  | profile value => ∃ p : ℤ,value=toString p
  | _ => True

/-- The enabled plans for all devices and for a target. -/
def plansUnder (t : Tables) (target : Target) : List SchedulePlan :=
  (enabledPlans t).filter fun p => p.target=.all ∨ p.target=target

lemma plansFor_eq : plansFor t ip profileId=
    (enabledPlans t).filter fun p => p.target.targetMatches ip profileId := by
  unfold plansFor enabledPlans
  rw [List.filter_filter]
  simp only [Bool.and_comm]

lemma mem_plansFor {plan : SchedulePlan} : plan ∈ plansFor t ip profileId ↔
    plan ∈ enabledPlans t ∧ plan.target.targetMatches ip profileId=true := by
  rw [plansFor_eq,List.mem_filter]

lemma mem_plansUnder {plan : SchedulePlan} {target : Target} : plan ∈ plansUnder t target ↔
    plan ∈ enabledPlans t ∧ (plan.target=.all ∨ plan.target=target) := by
  rw [plansUnder,List.mem_filter,decide_eq_true_eq]

/-- Targets of a device that are equally specific are equal. -/
lemma target_eq {x y : Target} (hx : x.targetMatches ip profileId=true)
    (hy : y.targetMatches ip profileId=true) (h : x.specificity=y.specificity) :
    x=y ∧ x.Reached := by
  cases x <;> cases y <;> simp_all [Target.specificity,Target.targetMatches,Target.Reached]
  cases profileId with
  | none => cases hx
  | some p =>
    exact ⟨(of_decide_eq_true hx).trans (of_decide_eq_true hy).symm,p,of_decide_eq_true hx⟩

lemma exists_longer (texts : List String) : ∃ s : String,∀ x ∈ texts,x.length < s.length := by
  induction texts with
  | nil => exact ⟨"",by simp⟩
  | cons x texts ih =>
    obtain ⟨s,hs⟩ := ih
    refine ⟨s ++ x ++ "x",List.forall_mem_cons.mpr ⟨?_,fun y hy => ?_⟩⟩
    · simp only [String.length_append]
      have hone : "x".length=1 := rfl
      omega
    · have hlt := hs y hy
      simp only [String.length_append]
      omega

/-- Each target has a device with no plans but those of the target and of all devices. -/
lemma exists_device {target : Target} (h : target.Reached) :
    ∃ ip profileId,plansFor t ip profileId=plansUnder t target := by
  obtain ⟨fresh,hfresh⟩ := exists_longer ((enabledPlans t).filterMap fun p => match p.target with
    | .device value => some value
    | _ => none)
  have hunknown : ∀ p ∈ enabledPlans t,p.target≠.device fresh := fun p hp heq => by
    have hlt := hfresh fresh (List.mem_filterMap.mpr ⟨p,hp,by rw [heq]⟩)
    exact absurd hlt (lt_irrefl _)
  cases target with
  | all =>
    refine ⟨fresh,none,plansFor_eq.trans (List.filter_congr fun p hp => ?_)⟩
    have hp' := hunknown p hp
    cases htarget : p.target <;> simp_all [Target.targetMatches]
  | profile value =>
    obtain ⟨pid,rfl⟩ := h
    refine ⟨fresh,some pid,plansFor_eq.trans (List.filter_congr fun p hp => ?_)⟩
    have hp' := hunknown p hp
    cases htarget : p.target <;> simp_all [Target.targetMatches]
  | device value =>
    refine ⟨value,none,plansFor_eq.trans (List.filter_congr fun p hp => ?_)⟩
    cases htarget : p.target <;> simp_all [Target.targetMatches]

end Targets

section Completeness
variable {zone : Zone} {rt : Runtime} {t : Tables}

/-- The plan occurs on one of the days that are looked at behind the moment. -/
def Shows (zone : Zone) (rt : Runtime) (t : Tables) (policyAt : Moment) (plan : SchedulePlan)
    (c : Candidate) : Prop :=
  ∃ n ∈ offsets,OccursOn zone rt t plan (dayBy policyAt false n) c ∧
    c.instant zone ≤ zone.instant policyAt

/-- Two plans of one target with different clock times that ask for different things occur at one
instant, as the last of the target in one dimension before a moment around which its plans can be
resolved. -/
structure Merged (zone : Zone) (rt : Runtime) (t : Tables) (a b : SchedulePlan)
    (policyAt : Moment) (d : Option String) (c c' : Candidate) : Prop where
  enabled : a ∈ enabledPlans t ∧ b ∈ enabledPlans t
  target : a.target=b.target
  reached : a.target.Reached
  clocks : a.clockTime≠b.clockTime
  real : zone.Real policyAt
  resolved : ∀ plan ∈ plansUnder t a.target,
    ∃ cs,planOccurrences zone rt t policyAt false plan=.ok cs
  shows : Shows zone rt t policyAt a c ∧ Shows zone rt t policyAt b c'
  dimension : inDimension d c.action=true ∧ inDimension d c'.action=true
  instant : c.instant zone=c'.instant zone
  differ : c.action≠c'.action
  last : ∀ plan ∈ plansUnder t a.target,∀ c'',Shows zone rt t policyAt plan c'' →
    inDimension d c''.action=true → c''.instant zone ≤ c.instant zone

variable {a b : SchedulePlan} {policyAt : Moment} {d : Option String} {c c' : Candidate}
  {ip : String} {profileId : Option ℤ} {past : List Candidate}

lemma near_iff_shows : OccursNear zone rt t ip profileId policyAt false c ↔
    ∃ plan ∈ plansFor t ip profileId,Shows zone rt t policyAt plan c := by
  refine exists_congr fun plan => and_congr_right fun _ => exists_congr fun n =>
    and_congr_right fun _ => and_congr_right fun _ => ?_
  exact decide_eq_true_iff

lemma Shows.specificity {plan : SchedulePlan} (h : Shows zone rt t policyAt plan c) :
    c.specificity=plan.target.specificity := by
  obtain ⟨n,-,⟨-,hour,minute,action,o,-,-,-,-,rfl⟩,-⟩ := h
  rfl

/-- Plans that merge are ambiguous for some device. -/
lemma Merged.ambiguous (h : Merged zone rt t a b policyAt d c c') : ∃ ip profileId e,
    resolveRegularSchedule zone rt t ip profileId policyAt=.error e ∧ e.Ambiguous := by
  obtain ⟨ip,profileId,hplans⟩ := @exists_device t a.target h.reached
  obtain ⟨past,hpast⟩ : ∃ past,scheduleOccurrences zone rt t ip profileId policyAt false=
    .ok past := gather_succeeds fun plan hplan => h.resolved plan (hplans ▸ hplan)
  obtain ⟨-,hmem⟩ := scheduleOccurrences_ok hpast
  have hin : ∀ c,c ∈ past.filter (fun c => inDimension d c.action) ↔
      (∃ plan ∈ plansUnder t a.target,Shows zone rt t policyAt plan c) ∧
        inDimension d c.action=true := fun c => by
    rw [List.mem_filter,hmem,near_iff_shows,hplans]
  have hspecific : ∀ c'' ∈ past.filter (fun c => inDimension d c.action),
      c''.specificity ≤ a.target.specificity := fun c'' hc'' => by
    obtain ⟨⟨plan,hplan,hshows⟩,-⟩ := (hin c'').mp hc''
    rw [hshows.specificity]
    rcases (mem_plansUnder.mp hplan).2 with hall | hsame
    · rw [hall]
      cases a.target <;> simp [Target.specificity]
    · rw [hsame]
  have hlast : ∀ c'' ∈ past.filter (fun c => inDimension d c.action),
      c''.instant zone ≤ c.instant zone := fun c'' hc'' => by
    obtain ⟨⟨plan,hplan,hshows⟩,hd⟩ := (hin c'').mp hc''
    exact h.last plan hplan c'' hshows hd
  have hfirst : c ∈ past.filter (fun c => inDimension d c.action) :=
    (hin c).mpr ⟨⟨a,mem_plansUnder.mpr ⟨h.enabled.1,.inr rfl⟩,h.shows.1⟩,h.dimension.1⟩
  have hsecond : c' ∈ past.filter (fun c => inDimension d c.action) :=
    (hin c').mpr ⟨⟨b,mem_plansUnder.mpr ⟨h.enabled.2,.inr h.target.symm⟩,h.shows.2⟩,
      h.dimension.2⟩
  obtain ⟨e,he⟩ := resolve_ambiguous.mpr ⟨past,hpast,d,c,c',
    ⟨hfirst,hlast,fun c'' hc'' _ => h.shows.1.specificity ▸ hspecific c'' hc''⟩,
    ⟨hsecond,fun c'' hc'' => h.instant ▸ hlast c'' hc'',
      fun c'' hc'' _ => (hspecific c'' hc'').trans_eq (h.target ▸ h.shows.2.specificity.symm)⟩,
    h.differ⟩
  exact ⟨ip,profileId,e,he⟩

/-- Where nothing is reported, an ambiguity comes from plans that merge. -/
lemma merged_of_ambiguous {e : StoreError} (hnone : detectScheduleConflicts rt t=[])
    (hreal : zone.Real policyAt)
    (h : resolveRegularSchedule zone rt t ip profileId policyAt=.error e) (he : e.Ambiguous) :
    ∃ a b d c c',Merged zone rt t a b policyAt d c c' := by
  obtain ⟨past,hpast,d,c,c',hc,hc',hdiffer⟩ := resolve_ambiguous.mp ⟨e,h,he⟩
  obtain ⟨hresolved,hmem⟩ := gather_parts hpast
  obtain ⟨-,hnear⟩ := scheduleOccurrences_ok hpast
  have hin : ∀ c,c ∈ past.filter (fun c => inDimension d c.action) ↔
      (∃ plan ∈ plansFor t ip profileId,Shows zone rt t policyAt plan c) ∧
        inDimension d c.action=true := fun c => by
    rw [List.mem_filter,hnear,near_iff_shows]
  obtain ⟨⟨a,ha,hshows⟩,hd⟩ := (hin c).mp hc.1
  obtain ⟨⟨b,hb,hshows'⟩,hd'⟩ := (hin c').mp hc'.1
  have hinstant : c.instant zone=c'.instant zone :=
    le_antisymm (hc'.2.1 c hc.1) (hc.2.1 c' hc'.1)
  have hspecificity : c.specificity=c'.specificity :=
    le_antisymm (hc'.2.2 c hc.1 hinstant) (hc.2.2 c' hc'.1 hinstant.symm)
  rw [hshows.specificity,hshows'.specificity] at hspecificity
  obtain ⟨hena,hmatch⟩ := mem_plansFor.mp ha
  obtain ⟨henb,hmatch'⟩ := mem_plansFor.mp hb
  obtain ⟨htarget,hreached⟩ := target_eq hmatch hmatch' hspecificity
  have hunder : ∀ plan ∈ plansUnder t a.target,plan ∈ plansFor t ip profileId := by
    intro plan hplan
    obtain ⟨henabled,hall | hsame⟩ := mem_plansUnder.mp hplan
    · exact mem_plansFor.mpr ⟨henabled,by rw [hall]; rfl⟩
    · exact mem_plansFor.mpr ⟨henabled,hsame ▸ hmatch⟩
  refine ⟨a,b,d,c,c',⟨hena,henb⟩,htarget,hreached,fun hclock => ?_,hreal,
    fun plan hplan => hresolved plan (hunder plan hplan),⟨hshows,hshows'⟩,⟨hd,hd'⟩,hinstant,
    hdiffer,fun plan hplan c'' hshows'' hd'' =>
      hc.2.1 c'' ((hin c'').mpr ⟨⟨plan,hunder plan hplan,hshows''⟩,hd''⟩)⟩
  obtain ⟨n,-,hoccurs,-⟩ := hshows
  obtain ⟨n',-,hoccurs',-⟩ := hshows'
  have hreported := conflicting_of_occurs hoccurs hoccurs' htarget hclock hd hd' hinstant hdiffer
  rw [not_conflicting hnone hena henb] at hreported
  cases hreported

lemma afterGap_adjusted {naive : Wall} {left minutes : ℕ} {m : Moment} {r : WallResolution}
    (h : afterGap zone naive left minutes=.ok (m,r)) : r.adjusted=true := by
  induction left generalizing minutes with
  | zero => cases h
  | succ left ih =>
    rw [afterGap] at h
    cases hvalid : validWallCandidates zone (naive+minutes*minuteUs) with
    | nil => rw [hvalid] at h; exact ih h
    | cons chosen rest =>
      rw [hvalid] at h
      obtain ⟨-,rfl⟩ := Prod.mk.inj (Except.ok.inj h)
      rfl

lemma resolveLocalWallTime_exact {naive : Wall} {m : Moment} {r : WallResolution}
    (h : resolveLocalWallTime zone naive=.ok (m,r)) (hexact : r.adjusted=false) :
    m.wall=naive := by
  unfold resolveLocalWallTime at h
  cases hvalid : validWallCandidates zone naive with
  | cons chosen rest =>
    rw [hvalid] at h
    obtain ⟨rfl,-⟩ := Prod.mk.inj (Except.ok.inj h)
    exact (real_of_mem_validWallCandidates (hvalid ▸ List.mem_cons_self)).1
  | nil =>
    rw [hvalid] at h
    cases (afterGap_adjusted h).symm.trans hexact

lemma combine_inj {day day' hour hour' minute minute' : ℤ} (h : checkTime hour minute=.ok ())
    (h' : checkTime hour' minute'=.ok ())
    (heq : combine day hour minute=combine day' hour' minute') :
    hour=hour' ∧ minute=minute' := by
  unfold checkTime at h h'
  split_ifs at h h'
  change (_ : ℤ)=_ at heq
  simp only [combine,dayUs,hourUs,minuteUs] at heq
  omega

/-- Plans merge where a gap moves one of them, if their clock times are not two spellings of
one. -/
theorem Merged.moved (h : Merged zone rt t a b policyAt d c c')
    (hclocks : parseClock a.clockTime≠parseClock b.clockTime) :
    c.wallResolution.adjusted=true ∨ c'.wallResolution.adjusted=true := by
  by_contra hexact
  rw [not_or,Bool.not_eq_true,Bool.not_eq_true] at hexact
  have hinstant := h.instant
  obtain ⟨⟨n,-,⟨-,hour,minute,action,⟨m,r⟩,hread,-,htime,hresolve,rfl⟩,-⟩,
    ⟨n',-,⟨-,hour',minute',action',⟨m',r'⟩,hread',-,htime',hresolve',rfl⟩,-⟩⟩ := h.shows
  have hwalls := wall_eq (resolveLocalWallTime_ok hresolve).1 (resolveLocalWallTime_ok hresolve').1
    hinstant
  change m.wall=m'.wall at hwalls
  rw [resolveLocalWallTime_exact hresolve hexact.1,
    resolveLocalWallTime_exact hresolve' hexact.2] at hwalls
  obtain ⟨rfl,rfl⟩ := combine_inj htime htime' hwalls
  exact hclocks (hread.trans hread'.symm)

/-- The report is complete for plans of which no two merge, and only for these. -/
theorem detection_complete_iff (zone : Zone) (rt : Runtime) (t : Tables)
    (h : detectScheduleConflicts rt t=[]) :
    (∀ ip profileId policyAt e,zone.Real policyAt →
      resolveRegularSchedule zone rt t ip profileId policyAt=.error e → ¬e.Ambiguous) ↔
      ¬∃ a b policyAt d c c',Merged zone rt t a b policyAt d c c' := by
  constructor
  · rintro hclear ⟨a,b,policyAt,d,c,c',hmerged⟩
    obtain ⟨ip,profileId,e,he,hambiguous⟩ := hmerged.ambiguous
    exact hclear ip profileId policyAt e hmerged.real he hambiguous
  · intro hapart ip profileId policyAt e hreal he hambiguous
    obtain ⟨a,b,d,c,c',hmerged⟩ := merged_of_ambiguous h hreal he hambiguous
    exact hapart ⟨a,b,policyAt,d,c,c',hmerged⟩

/-- A night that is blocked until the morning of every Sunday. -/
def nightTables : Tables :=
  { schedulePlans :=
      [{ id := 1, label := "Night", target := .all, action := .mode .blocked,
         clockTime := "01:30", days := [.sun] },
       { id := 2, label := "Morning", target := .all, action := .mode .normal,
         clockTime := "02:00", days := [.sun] }] }

/-- Two plans for every device, of which a gap can move one to the other. -/
theorem detection_complete_iff_night :
    (∀ ip profileId policyAt e,london.Real policyAt →
      resolveRegularSchedule london asciiEnv.toRuntime nightTables ip profileId policyAt=
        .error e → ¬e.Ambiguous) ↔
      ¬∃ a b policyAt d c c',Merged london asciiEnv.toRuntime nightTables a b policyAt d c c' :=
  detection_complete_iff london asciiEnv.toRuntime nightTables (by decide)

/-- When the clocks go forward at one o'clock, the night begins at the hour of the morning. -/
theorem night_undetected : ¬∀ (zone : Zone) (rt : Runtime) (t : Tables),
    detectScheduleConflicts rt t=[] → ∀ ip profileId policyAt e,zone.Real policyAt →
      resolveRegularSchedule zone rt t ip profileId policyAt=.error e → ¬e.Ambiguous := by
  intro h
  have hresolve : resolveRegularSchedule london asciiEnv.toRuntime nightTables "10.0.0.7" none
      sundayNoon=.error (.valueError "Ambiguous mode schedules at Sun 02:00: Morning, Night") := by
    have hmessage : (match resolveRegularSchedule london asciiEnv.toRuntime nightTables "10.0.0.7"
        none sundayNoon with
      | .error e => some e
      | .ok _ => none)=
        some (.valueError "Ambiguous mode schedules at Sun 02:00: Morning, Night") := by
      decide +kernel
    split at hmessage
    · rename_i heq
      rw [heq,Option.some.inj hmessage]
    · cases hmessage
  refine h london asciiEnv.toRuntime nightTables (by decide) "10.0.0.7" none sundayNoon _
    (by unfold Zone.Real; decide) hresolve ?_
  unfold StoreError.Ambiguous
  decide

end Completeness
end ZenControl
