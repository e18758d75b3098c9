import ZenControl.Policy.Selection
import ZenControl.Store.Access

/-! The occurrences of the schedules over all weeks. The resolver looks at eight days on each
side of a moment; in a zone whose transitions change no local date these hold the latest
occurrences behind the moment and the earliest ahead of it. -/
namespace ZenControl

section Zones
variable {zone : Zone} {naive : Wall}

/-- A local time that an instant has. -/
def Zone.Real (zone : Zone) (m : Moment) : Prop := (zone.fromutc (zone.instant m)).wall=m.wall

/-- Instants and local times of a zone: no transition changes the local date, and a gap is over
after 180 minutes at the latest. -/
structure Zone.Lawful (zone : Zone) : Prop where
  inverse : ∀ x, zone.instant (zone.fromutc x)=x
  days : ∀ x y, x ≤ y → (zone.fromutc x).day ≤ (zone.fromutc y).day
  gaps : ∀ naive : Wall, naive%minuteUs=0 → ∃ n : ℕ, n ≤ 180 ∧
    (naive+n*minuteUs)/dayUs=naive/dayUs ∧ ∃ x,(zone.fromutc x).wall=naive+n*minuteUs

lemma real_of_mem_validWallCandidates {m : Moment} (h : m ∈ validWallCandidates zone naive) :
    m.wall=naive ∧ zone.Real m := by
  have hboth : ∀ fold, decide ((zone.fromutc (zone.instant ⟨naive,fold⟩)).wall=naive)=true →
      zone.Real ⟨naive,fold⟩ := fun fold hreal => by
    have hwall := of_decide_eq_true hreal
    exact hwall
  unfold validWallCandidates at h
  dsimp only at h
  split at h
  · split_ifs at h <;> simp only [List.mem_cons,List.not_mem_nil,or_false] at h <;>
      rcases h with rfl | rfl <;> exact ⟨rfl,hboth _ (by assumption)⟩
  · obtain rfl := List.mem_singleton.mp h
    exact ⟨rfl,hboth _ (by assumption)⟩
  · obtain rfl := List.mem_singleton.mp h
    exact ⟨rfl,hboth _ (by assumption)⟩
  · cases h

/-- A local time that an instant has is valid. -/
lemma validWallCandidates_ne_nil (hzone : zone.Lawful) {x : ℤ}
    (hx : (zone.fromutc x).wall=naive) : validWallCandidates zone naive≠[] := by
  have hreal : ∃ fold,decide ((zone.fromutc (zone.instant ⟨naive,fold⟩)).wall=naive)=true := by
    refine ⟨(zone.fromutc x).fold,decide_eq_true ?_⟩
    rw [← hx]
    exact congrArg (fun y => (zone.fromutc y).wall) (hzone.inverse x)
  unfold validWallCandidates
  dsimp only
  split
  · split_ifs <;> exact List.cons_ne_nil _ _
  · exact List.cons_ne_nil _ _
  · exact List.cons_ne_nil _ _
  · rename_i hfirst hsecond
    obtain ⟨fold,hfold⟩ := hreal
    cases fold
    · cases hfirst.symm.trans hfold
    · cases hsecond.symm.trans hfold

/-- What the search after a gap finds is valid, and it finds the first that is. -/
lemma afterGap_ok {left minutes : ℕ} {m : Moment} {r : WallResolution}
    (h : afterGap zone naive left minutes=.ok (m,r)) : ∃ k,minutes ≤ k ∧ k < minutes+left ∧
      m ∈ validWallCandidates zone (naive+k*minuteUs) ∧
      ∀ j,minutes ≤ j → j < k → validWallCandidates zone (naive+j*minuteUs)=[] := by
  induction left generalizing minutes with
  | zero => cases h
  | succ left ih =>
    rw [afterGap] at h
    cases hvalid : validWallCandidates zone (naive+minutes*minuteUs) with
    | nil =>
      rw [hvalid] at h
      obtain ⟨k,hle,hlt,hmem,hbefore⟩ := ih h
      refine ⟨k,by omega,by omega,hmem,fun j hj hjk => ?_⟩
      rcases hj.eq_or_lt with rfl | hj
      · exact hvalid
      · exact hbefore j hj hjk
    | cons chosen rest =>
      rw [hvalid] at h
      obtain ⟨rfl,-⟩ := Prod.mk.inj (Except.ok.inj h)
      exact ⟨minutes,le_refl _,by omega,hvalid ▸ List.mem_cons_self,by omega⟩

lemma afterGap_succeeds {left minutes n : ℕ} (hle : minutes ≤ n) (hlt : n < minutes+left)
    (h : validWallCandidates zone (naive+n*minuteUs)≠[]) :
    ∃ found,afterGap zone naive left minutes=.ok found := by
  induction left generalizing minutes with
  | zero => omega
  | succ left ih =>
    rw [afterGap]
    cases hvalid : validWallCandidates zone (naive+minutes*minuteUs) with
    | cons chosen rest => exact ⟨_,rfl⟩
    | nil =>
      rcases hle.eq_or_lt with rfl | hle
      · exact absurd hvalid h
      · exact ih hle (by omega)

/-- A local time is resolved to a real one, at most 180 minutes later. -/
lemma resolveLocalWallTime_ok {m : Moment} {r : WallResolution}
    (h : resolveLocalWallTime zone naive=.ok (m,r)) : zone.Real m ∧
      ∃ k : ℕ,k ≤ 180 ∧ m.wall=naive+k*minuteUs ∧
        ∀ j : ℕ,j < k → validWallCandidates zone (naive+j*minuteUs)=[] := by
  unfold resolveLocalWallTime at h
  cases hvalid : validWallCandidates zone naive with
  | cons chosen rest =>
    rw [hvalid] at h
    obtain ⟨rfl,-⟩ := Prod.mk.inj (Except.ok.inj h)
    obtain ⟨hwall,hreal⟩ := real_of_mem_validWallCandidates (hvalid ▸ List.mem_cons_self)
    exact ⟨hreal,0,by omega,by rw [hwall]; simp,by omega⟩
  | nil =>
    rw [hvalid] at h
    obtain ⟨k,-,hlt,hmem,hbefore⟩ := afterGap_ok h
    obtain ⟨hwall,hreal⟩ := real_of_mem_validWallCandidates hmem
    refine ⟨hreal,k,by omega,hwall,fun j hj => ?_⟩
    rcases Nat.eq_zero_or_pos j with rfl | hpos
    · simpa using hvalid
    · exact hbefore j hpos hj

lemma same_day {a : ℤ} {k n : ℕ} (h : (a+n*minuteUs)/dayUs=a/dayUs) (hk : k ≤ n) :
    (a+k*minuteUs)/dayUs=a/dayUs := by
  unfold dayUs minuteUs at h ⊢
  omega

/-- In a lawful zone a whole minute is resolved on its own day. -/
theorem resolveLocalWallTime_lawful (hzone : zone.Lawful) (hminute : naive%minuteUs=0) :
    ∃ m r,resolveLocalWallTime zone naive=.ok (m,r) ∧ zone.Real m ∧ m.day=naive/dayUs := by
  obtain ⟨n,hn,hday,x,hx⟩ := hzone.gaps naive hminute
  have hvalid := validWallCandidates_ne_nil hzone hx
  have hfound : ∃ found,resolveLocalWallTime zone naive=.ok found := by
    unfold resolveLocalWallTime
    cases hcandidates : validWallCandidates zone naive with
    | cons chosen rest => exact ⟨_,rfl⟩
    | nil =>
      rcases Nat.eq_zero_or_pos n with rfl | hpos
      · exact absurd (by simpa using hcandidates) hvalid
      · exact afterGap_succeeds hpos (by omega) hvalid
  obtain ⟨⟨m,r⟩,hmr⟩ := hfound
  obtain ⟨hreal,k,-,hwall,hbefore⟩ := resolveLocalWallTime_ok hmr
  refine ⟨m,r,hmr,hreal,?_⟩
  have hk : k ≤ n := by
    by_contra hlt
    exact hvalid (hbefore n (by omega))
  unfold Moment.day
  rw [hwall]
  exact same_day hday hk

/-- Real local times of a lawful zone are in the order of their days. -/
lemma Zone.Lawful.instant_lt (hzone : zone.Lawful) {m m' : Moment} (hm : zone.Real m)
    (hm' : zone.Real m') (h : m.day < m'.day) : zone.instant m < zone.instant m' := by
  by_contra hle
  have hdays := hzone.days _ _ (not_lt.mp hle)
  unfold Moment.day at hdays h
  rw [hm,hm'] at hdays
  exact absurd h (not_lt.mpr hdays)

end Zones

section Weekdays

lemma weekdayCode_congr {day day' : ℤ} (h : (day-day')%7=0) :
    weekdayCode day=weekdayCode day' := by
  have hcode : (day+6)%7=(day'+6)%7 := by omega
  unfold weekdayCode
  rw [hcode]

/-- Every day has one of its weekday among the seven days behind another day. -/
lemma exists_earlier (today day : ℤ) :
    ∃ n : ℤ,1 ≤ n ∧ n ≤ 7 ∧ weekdayCode (today-n)=weekdayCode day :=
  ⟨(today-day-1)%7+1,by omega,by omega,weekdayCode_congr (by omega)⟩

/-- Every day has one of its weekday among the seven days ahead of another day. -/
lemma exists_later (today day : ℤ) :
    ∃ n : ℤ,1 ≤ n ∧ n ≤ 7 ∧ weekdayCode (today+n)=weekdayCode day :=
  ⟨(day-today-1)%7+1,by omega,by omega,weekdayCode_congr (by omega)⟩

end Weekdays

section Plans
variable (zone : Zone) (rt : Runtime) (t : Tables)

/-- A plan whose clock time and action can be read. -/
def Readable (plan : SchedulePlan) : Prop :=
  ∃ hour minute action,parseClock plan.clockTime=some (hour,minute) ∧
    planAction rt t plan=.ok action ∧ (plan.days≠[] → checkTime hour minute=.ok ())

/-- What a plan says at a resolved time. -/
def planCandidate (plan : SchedulePlan) (action : CandidateAction) (o : Moment × WallResolution) :
    Candidate where
  id := plan.id
  label := plan.label
  occurrence := o.1
  specificity := plan.target.specificity
  targetType := plan.target.kind
  action := action
  requestedTime := plan.clockTime
  wallResolution := o.2

/-- The candidate is the occurrence of a plan on a day. -/
def OccursOn (plan : SchedulePlan) (day : Day) (c : Candidate) : Prop :=
  weekdayCode day ∈ plan.days ∧ ∃ hour minute action o,
    parseClock plan.clockTime=some (hour,minute) ∧ planAction rt t plan=.ok action ∧
      checkTime hour minute=.ok () ∧ resolveLocalWallTime zone (combine day hour minute)=.ok o ∧
        c=planCandidate plan action o

/-- The enabled plans of a device. -/
def plansFor (ip : String) (profileId : Option ℤ) : List SchedulePlan :=
  (listSchedulePlans t).filter fun p => p.enabled && p.target.targetMatches ip profileId

/-- The candidate is an occurrence in some week. -/
def Occurs (ip : String) (profileId : Option ℤ) (c : Candidate) : Prop :=
  ∃ plan ∈ plansFor t ip profileId,∃ day,OccursOn zone rt t plan day c

end Plans

section Windows
variable {zone : Zone} {rt : Runtime} {t : Tables} {policyAt : Moment} {future : Bool}

/-- The days that are looked at. -/
def dayBy (policyAt : Moment) (future : Bool) (n : ℤ) : ℤ :=
  policyAt.day+(if future then n else -n)

lemma clockOccurrences_cons (hour minute : ℤ) (onDay : Day → Bool) (n : ℤ) (ns : List ℤ) :
    clockOccurrences zone policyAt future hour minute onDay (n::ns)=
      if onDay (dayBy policyAt future n)=true then do
        checkTime hour minute
        let o ← resolveLocalWallTime zone (combine (dayBy policyAt future n) hour minute)
        let later ← clockOccurrences zone policyAt future hour minute onDay ns
        if onSide future (zone.instant o.1) (zone.instant policyAt)=true then pure (o::later)
        else pure later
      else clockOccurrences zone policyAt future hour minute onDay ns := rfl

lemma clockOccurrences_ok {hour minute : ℤ} {onDay : Day → Bool} {ns : List ℤ}
    {found : List (Moment × WallResolution)}
    (h : clockOccurrences zone policyAt future hour minute onDay ns=.ok found) :
    (∀ n ∈ ns,onDay (dayBy policyAt future n)=true → checkTime hour minute=.ok ()) ∧
    ∀ o,o ∈ found ↔ ∃ n ∈ ns,onDay (dayBy policyAt future n)=true ∧
      resolveLocalWallTime zone (combine (dayBy policyAt future n) hour minute)=.ok o ∧
        onSide future (zone.instant o.1) (zone.instant policyAt)=true := by
  induction ns generalizing found with
  | nil =>
    obtain rfl := Except.ok.inj h
    exact ⟨by simp,by simp⟩
  | cons n ns ih =>
    rw [clockOccurrences_cons] at h
    simp only [List.mem_cons,forall_eq_or_imp,exists_eq_or_imp]
    by_cases hon : onDay (dayBy policyAt future n)=true
    · rw [if_pos hon] at h
      obtain ⟨_,htime,h⟩ := bind_ok h
      obtain ⟨o,hresolve,h⟩ := bind_ok h
      obtain ⟨later,hlater,h⟩ := bind_ok h
      obtain ⟨htimes,hmem⟩ := ih hlater
      refine ⟨⟨fun _ => htime,htimes⟩,fun o' => ?_⟩
      have hday : ∀ o',resolveLocalWallTime zone (combine (dayBy policyAt future n) hour minute)=
          .ok o' ↔ o'=o := fun o' => by
        rw [hresolve]
        exact ⟨fun heq => (Except.ok.inj heq).symm,fun heq => congrArg _ heq.symm⟩
      rw [← hmem,hday]
      split_ifs at h with hside
      · obtain rfl := Except.ok.inj h
        rw [List.mem_cons]
        refine or_congr_left ⟨fun heq => ⟨hon,heq,by rw [heq]; exact hside⟩,fun heq => heq.2.1⟩
      · obtain rfl := Except.ok.inj h
        refine (or_iff_right ?_).symm
        rintro ⟨-,rfl,hside'⟩
        exact hside hside'
    · rw [if_neg hon] at h
      obtain ⟨htimes,hmem⟩ := ih h
      refine ⟨⟨fun hon' => absurd hon' hon,htimes⟩,fun o => ?_⟩
      rw [hmem]
      exact (or_iff_right fun hn => hon hn.1).symm

lemma combine_minute (day hour minute : ℤ) : combine day hour minute%minuteUs=0 := by
  change (_ : ℤ)=_
  simp only [combine,dayUs,hourUs,minuteUs]
  omega

lemma combine_day {day hour minute : ℤ} (h : checkTime hour minute=.ok ()) :
    combine day hour minute/dayUs=day := by
  unfold checkTime at h
  split_ifs at h with hhour hminute
  change (_ : ℤ)=_
  simp only [combine,dayUs,hourUs,minuteUs]
  omega

/-- A readable clock time is resolved on its day. -/
lemma resolve_combine (hzone : zone.Lawful) {hour minute : ℤ} (h : checkTime hour minute=.ok ())
    (day : ℤ) : ∃ o,resolveLocalWallTime zone (combine day hour minute)=.ok o ∧
      zone.Real o.1 ∧ o.1.day=day := by
  obtain ⟨m,r,hmr,hreal,hday⟩ := resolveLocalWallTime_lawful hzone (combine_minute day hour minute)
  exact ⟨(m,r),hmr,hreal,hday.trans (combine_day h)⟩

lemma clockOccurrences_succeeds (hzone : zone.Lawful) {hour minute : ℤ} {onDay : Day → Bool}
    {ns : List ℤ} (h : ∀ n ∈ ns,onDay (dayBy policyAt future n)=true →
      checkTime hour minute=.ok ()) :
    ∃ found,clockOccurrences zone policyAt future hour minute onDay ns=.ok found := by
  induction ns with
  | nil => exact ⟨[],rfl⟩
  | cons n ns ih =>
    obtain ⟨later,hlater⟩ := ih fun n hn => h n (List.mem_cons_of_mem _ hn)
    rw [clockOccurrences_cons]
    by_cases hon : onDay (dayBy policyAt future n)=true
    · have htime := h n List.mem_cons_self hon
      obtain ⟨o,hresolve,-⟩ := resolve_combine hzone htime (dayBy policyAt future n)
      rw [if_pos hon]
      simp only [htime,hresolve,hlater,bind,Except.bind]
      split_ifs <;> exact ⟨_,rfl⟩
    · exact ⟨later,(if_neg hon).trans hlater⟩

/-- Some day has each weekday. -/
lemma exists_weekday (w : Weekday) : ∃ day : ℤ,weekdayCode day=w := by
  cases w
  · exact ⟨1,rfl⟩
  · exact ⟨2,rfl⟩
  · exact ⟨3,rfl⟩
  · exact ⟨4,rfl⟩
  · exact ⟨5,rfl⟩
  · exact ⟨6,rfl⟩
  · exact ⟨7,rfl⟩

lemma mem_offsets {n : ℤ} : n ∈ offsets ↔ 0 ≤ n ∧ n ≤ 7 := by
  simp only [offsets,List.mem_cons,List.not_mem_nil,or_false]
  omega

/-- The days that are looked at have every weekday, also without the day of the moment. -/
lemma exists_offset (policyAt : Moment) (future : Bool) (day : ℤ) :
    ∃ n,1 ≤ n ∧ n ∈ offsets ∧ weekdayCode (dayBy policyAt future n)=weekdayCode day := by
  unfold dayBy
  cases future with
  | true =>
    obtain ⟨n,h1,h7,hcode⟩ := exists_later policyAt.day day
    exact ⟨n,h1,mem_offsets.mpr ⟨by omega,h7⟩,hcode⟩
  | false =>
    obtain ⟨n,h1,h7,hcode⟩ := exists_earlier policyAt.day day
    exact ⟨n,h1,mem_offsets.mpr ⟨by omega,h7⟩,hcode⟩

lemma planOccurrences_ok {plan : SchedulePlan} {cs : List Candidate}
    (h : planOccurrences zone rt t policyAt future plan=.ok cs) : Readable rt t plan ∧
    ∀ c,c ∈ cs ↔ ∃ n ∈ offsets,OccursOn zone rt t plan (dayBy policyAt future n) c ∧
      onSide future (c.instant zone) (zone.instant policyAt)=true := by
  unfold planOccurrences at h
  cases hclock : parseClock plan.clockTime with
  | none => rw [hclock] at h; cases h
  | some clock =>
    obtain ⟨hour,minute⟩ := clock
    rw [hclock] at h
    obtain ⟨action,haction,h⟩ := bind_ok h
    obtain ⟨found,hfound,h⟩ := bind_ok h
    obtain rfl := Except.ok.inj h
    obtain ⟨htimes,hmem⟩ := clockOccurrences_ok hfound
    have htime : plan.days≠[] → checkTime hour minute=.ok () := by
      intro hdays
      obtain ⟨w,hw⟩ := List.exists_mem_of_ne_nil _ hdays
      obtain ⟨day,rfl⟩ := exists_weekday w
      obtain ⟨n,-,hn,hcode⟩ := exists_offset policyAt future day
      exact htimes n hn (decide_eq_true (hcode ▸ hw))
    refine ⟨⟨hour,minute,action,hclock,haction,htime⟩,fun c => ?_⟩
    rw [List.mem_map]
    constructor
    · rintro ⟨o,ho,rfl⟩
      obtain ⟨n,hn,hon,hresolve,hside⟩ := (hmem o).mp ho
      have hday := of_decide_eq_true hon
      exact ⟨n,hn,⟨hday,hour,minute,action,o,hclock,haction,
        htime (List.ne_nil_of_mem hday),hresolve,rfl⟩,hside⟩
    · rintro ⟨n,hn,⟨hday,hour',minute',action',o,hclock',haction',-,hresolve,rfl⟩,hside⟩
      obtain ⟨rfl,rfl⟩ := Prod.mk.inj (Option.some.inj (hclock.symm.trans hclock'))
      obtain rfl := Except.ok.inj (haction.symm.trans haction')
      exact ⟨o,(hmem o).mpr ⟨n,hn,decide_eq_true hday,hresolve,hside⟩,rfl⟩

lemma planOccurrences_succeeds (hzone : zone.Lawful) {plan : SchedulePlan}
    (h : Readable rt t plan) : ∃ cs,planOccurrences zone rt t policyAt future plan=.ok cs := by
  obtain ⟨hour,minute,action,hclock,haction,htime⟩ := h
  obtain ⟨found,hfound⟩ := @clockOccurrences_succeeds zone policyAt future hzone hour minute
    (fun day => weekdayCode day ∈ plan.days) offsets
    fun n _ hon => htime (List.ne_nil_of_mem (of_decide_eq_true hon))
  unfold planOccurrences
  simp only [hclock,haction,hfound,bind,Except.bind]
  exact ⟨_,rfl⟩

lemma gather_parts {α : Type} {f : α → Except StoreError (List Candidate)} {as : List α}
    {cs : List Candidate} (h : gather f as=.ok cs) : (∀ a ∈ as,∃ found,f a=.ok found) ∧
      ∀ c,c ∈ cs ↔ ∃ a ∈ as,∃ found,f a=.ok found ∧ c ∈ found := by
  induction as generalizing cs with
  | nil =>
    obtain rfl := Except.ok.inj h
    exact ⟨by simp,by simp⟩
  | cons a as ih =>
    obtain ⟨first,hfirst,h⟩ := bind_ok h
    obtain ⟨rest,hrest,h⟩ := bind_ok h
    obtain rfl := Except.ok.inj h
    obtain ⟨hall,hmem⟩ := ih hrest
    refine ⟨List.forall_mem_cons.mpr ⟨⟨first,hfirst⟩,hall⟩,fun c => ?_⟩
    simp only [List.mem_append,List.mem_cons,exists_eq_or_imp,hmem,hfirst]
    refine or_congr_left ⟨fun hc => ⟨first,rfl,hc⟩,fun ⟨found,heq,hc⟩ => ?_⟩
    exact Except.ok.inj heq ▸ hc

lemma gather_succeeds {α : Type} {f : α → Except StoreError (List Candidate)} {as : List α}
    (h : ∀ a ∈ as,∃ found,f a=.ok found) : ∃ cs,gather f as=.ok cs := by
  induction as with
  | nil => exact ⟨[],rfl⟩
  | cons a as ih =>
    obtain ⟨⟨first,hfirst⟩,hrest⟩ := List.forall_mem_cons.mp h
    obtain ⟨rest,hrest⟩ := ih hrest
    exact ⟨first ++ rest,by simp [gather,hfirst,hrest,bind,Except.bind,pure,Except.pure]⟩

variable {ip : String} {profileId : Option ℤ}

/-- The candidate occurs on one of the days that are looked at. -/
def OccursNear (zone : Zone) (rt : Runtime) (t : Tables) (ip : String) (profileId : Option ℤ)
    (policyAt : Moment) (future : Bool) (c : Candidate) : Prop :=
  ∃ plan ∈ plansFor t ip profileId,∃ n ∈ offsets,
    OccursOn zone rt t plan (dayBy policyAt future n) c ∧
      onSide future (c.instant zone) (zone.instant policyAt)=true

lemma scheduleOccurrences_ok {cs : List Candidate}
    (h : scheduleOccurrences zone rt t ip profileId policyAt future=.ok cs) :
    (∀ plan ∈ plansFor t ip profileId,Readable rt t plan) ∧
      ∀ c,c ∈ cs ↔ OccursNear zone rt t ip profileId policyAt future c := by
  obtain ⟨hall,hmem⟩ := gather_parts h
  refine ⟨fun plan hplan => ?_,fun c => (hmem c).trans ?_⟩
  · obtain ⟨found,hfound⟩ := hall plan hplan
    exact (planOccurrences_ok hfound).1
  · constructor
    · rintro ⟨plan,hplan,found,hfound,hc⟩
      exact ⟨plan,hplan,((planOccurrences_ok hfound).2 c).mp hc⟩
    · rintro ⟨plan,hplan,hoccurs⟩
      obtain ⟨found,hfound⟩ := hall plan hplan
      exact ⟨plan,hplan,found,hfound,((planOccurrences_ok hfound).2 c).mpr hoccurs⟩

lemma scheduleOccurrences_succeeds (hzone : zone.Lawful)
    (h : ∀ plan ∈ plansFor t ip profileId,Readable rt t plan) :
    ∃ cs,scheduleOccurrences zone rt t ip profileId policyAt future=.ok cs :=
  gather_succeeds fun plan hplan => planOccurrences_succeeds hzone (h plan hplan)

end Windows

section Choice
variable {zone : Zone} {S T : Candidate → Prop} {cs : List Candidate} {c : Candidate}

/-- The candidate is one of the latest, and of these one of the most specific. -/
def Decides (zone : Zone) (S : Candidate → Prop) (c : Candidate) : Prop :=
  S c ∧ (∀ c',S c' → c'.instant zone ≤ c.instant zone) ∧
    ∀ c',S c' → c'.instant zone=c.instant zone → c'.specificity ≤ c.specificity

/-- Two candidates that decide differ in what they do. -/
def Disputed (zone : Zone) (S : Candidate → Prop) : Prop :=
  ∃ c c',Decides zone S c ∧ Decides zone S c' ∧ c.action≠c'.action

/-- What is chosen from a set of candidates: one that decides, with which all that decide agree
and of which none has a greater id. -/
def ChosenFrom (zone : Zone) (S : Candidate → Prop) : Option Candidate → Prop
  | none => ∀ c,¬S c
  | some c => Decides zone S c ∧ ∀ c',Decides zone S c' → c'.action=c.action ∧ c'.id ≤ c.id

lemma wins_iff_decides : Wins zone cs c ↔ Decides zone (· ∈ cs) c := by
  unfold Wins Decides
  simp only [mem_greatest,and_imp,Int.ofNat_le]
  constructor
  · rintro ⟨⟨hc,hlatest⟩,hspecific⟩
    refine ⟨hc,hlatest,fun c' hc' heq => hspecific c' hc' fun c'' hc'' => ?_⟩
    exact heq ▸ hlatest c'' hc''
  · rintro ⟨hc,hlatest,hspecific⟩
    refine ⟨⟨hc,hlatest⟩,fun c' hc' hlatest' => hspecific c' hc' ?_⟩
    exact le_antisymm (hlatest c' hc') (hlatest' c hc)

/-- Candidates that are earlier than others do not decide. -/
lemma decides_congr (hsub : ∀ c,S c → T c)
    (hlater : ∀ c,T c → ¬S c → ∃ c',S c' ∧ c.instant zone < c'.instant zone) :
    Decides zone S c ↔ Decides zone T c := by
  constructor
  · rintro ⟨hc,hlatest,hspecific⟩
    refine ⟨hsub c hc,fun c' hc' => ?_,fun c' hc' heq => ?_⟩
    · by_cases hin : S c'
      · exact hlatest c' hin
      · obtain ⟨c'',hc'',hlt⟩ := hlater c' hc' hin
        exact hlt.le.trans (hlatest c'' hc'')
    · by_cases hin : S c'
      · exact hspecific c' hin heq
      · obtain ⟨c'',hc'',hlt⟩ := hlater c' hc' hin
        exact absurd (hlatest c'' hc'') (not_le.mpr (heq ▸ hlt))
  · rintro ⟨hc,hlatest,hspecific⟩
    have hin : S c := by
      by_contra hout
      obtain ⟨c',hc',hlt⟩ := hlater c hc hout
      exact absurd (hlatest c' (hsub c' hc')) (not_le.mpr hlt)
    exact ⟨hin,fun c' hc' => hlatest c' (hsub c' hc'),fun c' hc' => hspecific c' (hsub c' hc')⟩

lemma chosenFrom_congr (hsub : ∀ c,S c → T c)
    (hlater : ∀ c,T c → ¬S c → ∃ c',S c' ∧ c.instant zone < c'.instant zone)
    {chosen : Option Candidate} (h : ChosenFrom zone S chosen) : ChosenFrom zone T chosen := by
  cases chosen with
  | none =>
    intro c hc
    obtain ⟨c',hc',-⟩ := hlater c hc (h c)
    exact h c' hc'
  | some c =>
    exact ⟨(decides_congr hsub hlater).mp h.1,
      fun c' hc' => h.2 c' ((decides_congr hsub hlater).mpr hc')⟩

lemma disputed_congr (hsub : ∀ c,S c → T c)
    (hlater : ∀ c,T c → ¬S c → ∃ c',S c' ∧ c.instant zone < c'.instant zone) :
    Disputed zone S ↔ Disputed zone T := by
  unfold Disputed
  simp only [decides_congr hsub hlater]

/-- The last one behind a sort has the greatest id. -/
lemma id_le_getLast {xs : List Candidate} (h : (xs.insertionSort fun a b => a.id ≤ b.id).getLast?=
    some c) {w : Candidate} (hw : w ∈ xs) : w.id ≤ c.id := by
  obtain ⟨first,hsplit⟩ := List.getLast?_eq_some_iff.mp h
  have hsorted := List.pairwise_insertionSort (fun a b : Candidate => a.id ≤ b.id) xs
  rw [hsplit,List.pairwise_append] at hsorted
  rw [← List.mem_insertionSort (r:=fun a b : Candidate => a.id ≤ b.id),hsplit,
    List.mem_append,List.mem_singleton] at hw
  rcases hw with hw | rfl
  · exact hsorted.2.2 w hw c List.mem_cons_self
  · exact le_refl _

/-- What is selected is chosen from the candidates. -/
lemma selectScheduleCandidate_chosen {dimension : String} {chosen : Option Candidate}
    (h : selectScheduleCandidate zone cs dimension=.ok chosen) :
    ChosenFrom zone (· ∈ cs) chosen := by
  rcases selectScheduleCandidate_ok h with ⟨rfl,rfl⟩ | ⟨c,rfl,hwins,hagree⟩
  · exact fun c hc => absurd hc List.not_mem_nil
  · refine ⟨wins_iff_decides.mp hwins,fun c' hc' => ?_⟩
    have hwins' := wins_iff_decides.mpr hc'
    refine ⟨hagree c' hwins',?_⟩
    unfold selectScheduleCandidate at h
    unfold Wins at hwins'
    cases hlatest : greatest (Candidate.instant zone) cs with
    | nil => rw [Wins,hlatest] at hwins; cases hwins
    | cons first latest =>
      rw [hlatest] at h hwins'
      dsimp only at h
      split_ifs at h
      exact id_le_getLast (Except.ok.inj h) hwins'

/-- The selection fails where the candidates that decide differ, and only there. -/
lemma selectScheduleCandidate_fails (dimension : String) :
    (∃ e,selectScheduleCandidate zone cs dimension=.error e) ↔ Disputed zone (· ∈ cs) := by
  constructor
  · rintro ⟨e,he⟩
    by_contra hagree
    by_cases hempty : cs=[]
    · subst hempty
      cases he
    · obtain ⟨c,hc⟩ := List.exists_mem_of_ne_nil _ (greatest_ne_nil
        (f:=fun c => (c.specificity : ℤ)) (greatest_ne_nil (f:=Candidate.instant zone) hempty))
      obtain ⟨r,hr,-⟩ := (selectScheduleCandidate_spec dimension hc).1 fun c' hc' => by
        by_contra hne
        exact hagree ⟨c',c,wins_iff_decides.mp hc',wins_iff_decides.mp hc,hne⟩
      cases he.symm.trans hr
  · rintro ⟨c,c',hc,hc',hne⟩
    exact (selectScheduleCandidate_spec dimension (wins_iff_decides.mpr hc)).2 c'
      (wins_iff_decides.mpr hc') hne.symm

/-- The services are selected if and only if each of them is. -/
lemma selectServices_fails {groups : List (String × List Candidate)} :
    (∃ e,selectServices zone groups=.error e) ↔
      ∃ key values,(key,values) ∈ groups ∧ Disputed zone (· ∈ values) := by
  induction groups with
  | nil => exact ⟨fun ⟨e,he⟩ => (by cases he),fun ⟨_,_,hin,_⟩ => absurd hin List.not_mem_nil⟩
  | cons entry rest ih =>
    obtain ⟨key,values⟩ := entry
    rw [selectServices]
    cases hselect : selectScheduleCandidate zone values s!"{key} service" with
    | error e =>
      refine iff_of_true ⟨e,rfl⟩ ⟨key,values,List.mem_cons_self,?_⟩
      exact (selectScheduleCandidate_fails _).mp ⟨e,hselect⟩
    | ok chosen =>
      have hfine : ¬Disputed zone (· ∈ values) := fun hdisputed => by
        obtain ⟨e,he⟩ := (selectScheduleCandidate_fails s!"{key} service").mpr hdisputed
        cases hselect.symm.trans he
      have hrest : (∃ k vs,(k,vs) ∈ (key,values)::rest ∧ Disputed zone (· ∈ vs)) ↔
          ∃ k vs,(k,vs) ∈ rest ∧ Disputed zone (· ∈ vs) := by
        refine exists₂_congr fun k vs => and_congr_left fun hdisputed => ?_
        rw [List.mem_cons]
        refine or_iff_right fun heq => ?_
        obtain ⟨rfl,rfl⟩ := Prod.mk.inj heq
        exact hfine hdisputed
      rw [hrest,← ih]
      cases hothers : selectServices zone rest with
      | error e => exact iff_of_true ⟨e,rfl⟩ ⟨e,rfl⟩
      | ok others =>
        exact iff_of_false (fun ⟨e,he⟩ => by cases he) fun ⟨e,he⟩ => by cases he

end Choice

section Weeks
variable {zone : Zone} {rt : Runtime} {t : Tables} {policyAt : Moment} {ip : String}
  {profileId : Option ℤ} {future : Bool}

/-- The candidate occurs in some week, on one side of the moment. -/
def OccursEver (zone : Zone) (rt : Runtime) (t : Tables) (ip : String) (profileId : Option ℤ)
    (policyAt : Moment) (future : Bool) (c : Candidate) : Prop :=
  Occurs zone rt t ip profileId c ∧ onSide future (c.instant zone) (zone.instant policyAt)=true

lemma OccursNear.ever {c : Candidate} (h : OccursNear zone rt t ip profileId policyAt future c) :
    OccursEver zone rt t ip profileId policyAt future c := by
  obtain ⟨plan,hplan,n,-,hon,hside⟩ := h
  exact ⟨⟨plan,hplan,_,hon⟩,hside⟩

/-- An occurrence in a lawful zone is real and falls on its day. -/
lemma OccursOn.day (hzone : zone.Lawful) {plan : SchedulePlan} {day : ℤ} {c : Candidate}
    (h : OccursOn zone rt t plan day c) : zone.Real c.occurrence ∧ c.occurrence.day=day := by
  obtain ⟨-,hour,minute,action,o,-,-,htime,hresolve,rfl⟩ := h
  obtain ⟨o',ho',hreal,hday⟩ := resolve_combine hzone htime day
  obtain rfl := Except.ok.inj (hresolve.symm.trans ho')
  exact ⟨hreal,hday⟩

/-- A plan that occurs on a day occurs on every day of the same weekday, and does the same. -/
lemma OccursOn.move (hzone : zone.Lawful) {plan : SchedulePlan} {day day' : ℤ} {c : Candidate}
    (h : OccursOn zone rt t plan day c) (hcode : weekdayCode day'=weekdayCode day) :
    ∃ c',OccursOn zone rt t plan day' c' ∧ c'.action=c.action := by
  obtain ⟨hday,hour,minute,action,o,hclock,haction,htime,-,rfl⟩ := h
  obtain ⟨o',ho',-⟩ := resolve_combine hzone htime day'
  exact ⟨_,⟨hcode ▸ hday,hour,minute,action,o',hclock,haction,htime,ho',rfl⟩,rfl⟩

lemma mem_offsets_behind {today day : ℤ} (hle : day ≤ today) (hnear : ¬day < today-7) :
    today-day ∈ offsets ∧ today+-(today-day)=day := by
  rw [mem_offsets]
  omega

lemma mem_offsets_ahead {today day : ℤ} (hle : today ≤ day) (hnear : ¬today+7 < day) :
    day-today ∈ offsets ∧ today+(day-today)=day := by
  rw [mem_offsets]
  omega

lemma behind_bounds {today n : ℤ} (h1 : 1 ≤ n) (hn : n ∈ offsets) :
    today+-n < today ∧ today-7 ≤ today+-n := by
  have h7 := (mem_offsets.mp hn).2
  omega

lemma ahead_bounds {today n : ℤ} (h1 : 1 ≤ n) (hn : n ∈ offsets) :
    today < today+n ∧ today+n ≤ today+7 := by
  have h7 := (mem_offsets.mp hn).2
  omega

/-- What occurs farther away than the days that are looked at is followed by an occurrence of the
same plan that is nearer. -/
lemma near_follows (hzone : zone.Lawful) (hat : zone.Real policyAt) {c : Candidate}
    (h : OccursEver zone rt t ip profileId policyAt false c)
    (hfar : ¬OccursNear zone rt t ip profileId policyAt false c) :
    ∃ c',OccursNear zone rt t ip profileId policyAt false c' ∧ c'.action=c.action ∧
      c.instant zone < c'.instant zone := by
  obtain ⟨⟨plan,hplan,day,hon⟩,hside⟩ := h
  obtain ⟨hreal,hday⟩ := hon.day hzone
  have hbehind : c.instant zone ≤ zone.instant policyAt := of_decide_eq_true hside
  have hle : day ≤ policyAt.day := by
    by_contra hlt
    exact absurd hbehind (not_le.mpr (hzone.instant_lt hat hreal (hday ▸ not_le.mp hlt)))
  have hlt : day < policyAt.day-7 := by
    by_contra hnear
    obtain ⟨hin,hback⟩ := mem_offsets_behind hle hnear
    have hback : dayBy policyAt false (policyAt.day-day)=day := hback
    exact hfar ⟨plan,hplan,_,hin,by rwa [hback],hside⟩
  obtain ⟨n,h1,hn,hcode⟩ := exists_offset policyAt false day
  obtain ⟨hbelow,hnear⟩ := @behind_bounds policyAt.day n h1 hn
  obtain ⟨c',hon',haction⟩ := hon.move hzone hcode
  obtain ⟨hreal',hday'⟩ := hon'.day hzone
  refine ⟨c',⟨plan,hplan,n,hn,hon',decide_eq_true ?_⟩,haction,?_⟩
  · exact (hzone.instant_lt hreal' hat (hday'.trans_lt hbelow)).le
  · exact hzone.instant_lt hreal hreal' (hday.trans_lt (hlt.trans_le (hnear.trans_eq hday'.symm)))

/-- What occurs later than the days that are looked at comes behind an occurrence of the same plan
on one of them. -/
lemma near_precedes (hzone : zone.Lawful) (hat : zone.Real policyAt) {c : Candidate}
    (h : OccursEver zone rt t ip profileId policyAt true c)
    (hfar : ¬OccursNear zone rt t ip profileId policyAt true c) :
    ∃ c',OccursNear zone rt t ip profileId policyAt true c' ∧ c'.instant zone < c.instant zone := by
  obtain ⟨⟨plan,hplan,day,hon⟩,hside⟩ := h
  obtain ⟨hreal,hday⟩ := hon.day hzone
  have hahead : zone.instant policyAt < c.instant zone := of_decide_eq_true hside
  have hle : policyAt.day ≤ day := by
    by_contra hlt
    exact absurd hahead (not_lt.mpr (hzone.instant_lt hreal hat (hday ▸ not_le.mp hlt)).le)
  have hlt : policyAt.day+7 < day := by
    by_contra hnear
    obtain ⟨hin,hforth⟩ := mem_offsets_ahead hle hnear
    have hforth : dayBy policyAt true (day-policyAt.day)=day := hforth
    exact hfar ⟨plan,hplan,_,hin,by rwa [hforth],hside⟩
  obtain ⟨n,h1,hn,hcode⟩ := exists_offset policyAt true day
  obtain ⟨habove,hnear⟩ := @ahead_bounds policyAt.day n h1 hn
  obtain ⟨c',hon',-⟩ := hon.move hzone hcode
  obtain ⟨hreal',hday'⟩ := hon'.day hzone
  refine ⟨c',⟨plan,hplan,n,hn,hon',decide_eq_true ?_⟩,?_⟩
  · exact hzone.instant_lt hat hreal' (habove.trans_eq hday'.symm)
  · exact hzone.instant_lt hreal' hreal ((hday'.le.trans hnear).trans_lt (hlt.trans_eq hday.symm))

/-- The occurrences of all past weeks that concern one dimension. -/
def Behind (zone : Zone) (rt : Runtime) (t : Tables) (ip : String) (profileId : Option ℤ)
    (policyAt : Moment) (kind : CandidateAction → Bool) (c : Candidate) : Prop :=
  OccursEver zone rt t ip profileId policyAt false c ∧ kind c.action=true

def concerns (key : String) (action : CandidateAction) : Bool := action.serviceKey=some key

/-- The next event is one of the earliest of all future weeks. -/
def IsNext (zone : Zone) (rt : Runtime) (t : Tables) (ip : String) (profileId : Option ℤ)
    (policyAt : Moment) : Option Candidate → Prop
  | none => ∀ c,¬OccursEver zone rt t ip profileId policyAt true c
  | some c => OccursEver zone rt t ip profileId policyAt true c ∧
      ∀ c',OccursEver zone rt t ip profileId policyAt true c' →
        c.instant zone ≤ c'.instant zone

section Dimension
variable {kind : CandidateAction → Bool} {cs : List Candidate}

lemma behind_sub (hcs : ∀ c,c ∈ cs ↔ OccursNear zone rt t ip profileId policyAt false c)
    (c : Candidate) (h : c ∈ cs.filter fun c => kind c.action) :
    Behind zone rt t ip profileId policyAt kind c :=
  ⟨((hcs c).mp (List.mem_filter.mp h).1).ever,(List.mem_filter.mp h).2⟩

lemma behind_later (hzone : zone.Lawful) (hat : zone.Real policyAt)
    (hcs : ∀ c,c ∈ cs ↔ OccursNear zone rt t ip profileId policyAt false c)
    (c : Candidate) (h : Behind zone rt t ip profileId policyAt kind c)
    (hout : c ∉ cs.filter fun c => kind c.action) :
    ∃ c',c' ∈ cs.filter (fun c => kind c.action) ∧ c.instant zone < c'.instant zone := by
  have hfar : ¬OccursNear zone rt t ip profileId policyAt false c := fun hnear =>
    hout (List.mem_filter.mpr ⟨(hcs c).mpr hnear,h.2⟩)
  obtain ⟨c',hnear,haction,hlt⟩ := near_follows hzone hat h.1 hfar
  exact ⟨c',List.mem_filter.mpr ⟨(hcs c').mpr hnear,haction ▸ h.2⟩,hlt⟩

end Dimension

lemma minimumOf_le {f : Candidate → ℤ} {cs : List Candidate} {c : Candidate} (h : c ∈ cs) :
    minimumOf f cs ≤ f c := by
  induction cs with
  | nil => cases h
  | cons a cs ih =>
    cases cs with
    | nil => rw [List.mem_singleton.mp h]; exact le_refl _
    | cons b cs =>
      rw [minimumOf]
      rcases List.mem_cons.mp h with rfl | h
      · exact min_le_left _ _
      · exact (min_le_right _ _).trans (ih h)
      · exact List.cons_ne_nil b cs

lemma minimumOf_mem {f : Candidate → ℤ} {cs : List Candidate} (h : cs≠[]) :
    ∃ c ∈ cs,f c=minimumOf f cs := by
  induction cs with
  | nil => exact absurd rfl h
  | cons a cs ih =>
    cases cs with
    | nil => exact ⟨a,List.mem_cons_self,rfl⟩
    | cons b cs =>
      obtain ⟨c,hc,hmin⟩ := ih (List.cons_ne_nil b cs)
      rw [minimumOf]
      · rcases le_total (f a) (minimumOf f (b::cs)) with hle | hle
        · exact ⟨a,List.mem_cons_self,(min_eq_left hle).symm⟩
        · exact ⟨c,List.mem_cons_of_mem _ hc,hmin.trans (min_eq_right hle).symm⟩
      · exact List.cons_ne_nil b cs

/-- The next candidate is one of the earliest. -/
lemma nextCandidate_earliest {future : List Candidate} :
    match nextCandidate zone future with
    | none => future=[]
    | some c => c ∈ future ∧ ∀ c' ∈ future,c.instant zone ≤ c'.instant zone := by
  cases hnext : nextCandidate zone future with
  | none =>
    by_contra hne
    obtain ⟨c,hc,hmin⟩ := minimumOf_mem (f:=Candidate.instant zone) hne
    have hleast : least (Candidate.instant zone) future≠[] :=
      List.ne_nil_of_mem (List.mem_filter.mpr ⟨hc,decide_eq_true hmin⟩)
    have hspecific := greatest_ne_nil (f:=fun c => (c.specificity : ℤ)) hleast
    rw [nextCandidate,List.head?_eq_none_iff] at hnext
    have hlength := List.length_insertionSort (fun a b : Candidate => a.id ≤ b.id)
      (greatest (fun c => (c.specificity : ℤ)) (least (Candidate.instant zone) future))
    rw [hnext] at hlength
    exact hspecific (List.length_eq_zero_iff.mp hlength.symm)
  | some c =>
    have hc := (List.mem_insertionSort _).mp (List.mem_of_head? hnext)
    obtain ⟨hin,hmin⟩ := List.mem_filter.mp (mem_greatest.mp hc).1
    exact ⟨hin,fun c' hc' => (of_decide_eq_true hmin).trans_le (minimumOf_le hc')⟩

/-- The moment of a policy question is a real local time. -/
theorem normalizePolicyDatetime_real (hzone : zone.Lawful) {policyAt : PolicyAt}
    {found : Moment × WallResolution} (h : normalizePolicyDatetime zone policyAt=.ok found) :
    zone.Real found.1 := by
  have hinstant : ∀ x,zone.Real (zone.fromutc x) := fun x =>
    congrArg (fun y => (zone.fromutc y).wall) (hzone.inverse x)
  cases policyAt with
  | current x => exact Except.ok.inj h ▸ hinstant x
  | aware x => exact Except.ok.inj h ▸ hinstant x
  | naive wall => exact (resolveLocalWallTime_ok h).1
  | malformed => cases h
  | unsupported => cases h

section Regular
variable {past : List Candidate}

lemma forService_eq (key : String) (cs : List Candidate) :
    forService key cs=cs.filter fun c => concerns key c.action := rfl

lemma forService_ne_nil {key : String} {values : List Candidate}
    (h : (key,values) ∈ byService past) : values=forService key past := by
  have hlookup := (lookup_of_mem (byService_nodup past)).mp h
  rw [byService_lookup] at hlookup
  split_ifs at hlookup
  exact (Option.some.inj hlookup).symm

/-- Each service has what is chosen from its candidates. -/
lemma services_chosen {services : List (String × Candidate)}
    (h : selectServices zone (byService past)=.ok services) (key : String) :
    ChosenFrom zone (· ∈ forService key past) (services.lookup key) := by
  obtain ⟨hsublist,hmem,hall⟩ := selectServices_ok h
  have hnodup := (byService_nodup past).sublist hsublist
  cases hlookup : services.lookup key with
  | some c =>
    obtain ⟨values,hin,hselect⟩ := (hmem key c).mp ((lookup_of_mem hnodup).mpr hlookup)
    have hchosen := selectScheduleCandidate_chosen hselect
    rwa [forService_ne_nil hin] at hchosen
  | none =>
    by_contra hsome
    have hne : forService key past≠[] := fun hnil => hsome (by simp [ChosenFrom,hnil])
    have hin : (key,forService key past) ∈ byService past := by
      rw [lookup_of_mem (byService_nodup past),byService_lookup,if_neg hne]
    obtain ⟨chosen,hselect⟩ := hall key _ hin
    have hchosen := selectScheduleCandidate_chosen hselect
    cases chosen with
    | none => exact hsome hchosen
    | some c =>
      have hlookup' := (lookup_of_mem hnodup).mp ((hmem key c).mpr ⟨_,hin,hselect⟩)
      cases hlookup.symm.trans hlookup'

/-- The services fail where the candidates of one of them do. -/
lemma services_fail : (∃ e,selectServices zone (byService past)=.error e) ↔
    ∃ key,Disputed zone (· ∈ forService key past) := by
  rw [selectServices_fails]
  constructor
  · rintro ⟨key,values,hin,hdisputed⟩
    exact ⟨key,forService_ne_nil hin ▸ hdisputed⟩
  · rintro ⟨key,hdisputed⟩
    refine ⟨key,_,?_,hdisputed⟩
    obtain ⟨c,-,hc,-⟩ := hdisputed
    rw [lookup_of_mem (byService_nodup past),byService_lookup,if_neg (List.ne_nil_of_mem hc.1)]

lemma nextCandidate_isNext (hzone : zone.Lawful) (hat : zone.Real policyAt)
    {future : List Candidate}
    (hfuture : ∀ c,c ∈ future ↔ OccursNear zone rt t ip profileId policyAt true c) :
    IsNext zone rt t ip profileId policyAt (nextCandidate zone future) := by
  have hnext := @nextCandidate_earliest zone future
  cases hc : nextCandidate zone future with
  | none =>
    rw [hc] at hnext
    intro c hever
    have hnear : ∃ c',OccursNear zone rt t ip profileId policyAt true c' := by
      by_cases hnear : OccursNear zone rt t ip profileId policyAt true c
      · exact ⟨c,hnear⟩
      · obtain ⟨c',hnear',-⟩ := near_precedes hzone hat hever hnear
        exact ⟨c',hnear'⟩
    obtain ⟨c',hnear'⟩ := hnear
    have hin := (hfuture c').mpr hnear'
    rw [hnext] at hin
    cases hin
  | some c =>
    rw [hc] at hnext
    refine ⟨((hfuture c).mp hnext.1).ever,fun c' hever => ?_⟩
    by_cases hnear : OccursNear zone rt t ip profileId policyAt true c'
    · exact hnext.2 c' ((hfuture c').mpr hnear)
    · obtain ⟨c'',hnear'',hlt⟩ := near_precedes hzone hat hever hnear
      exact (hnext.2 c'' ((hfuture c'').mpr hnear'')).trans hlt.le

/-- Where all plans can be read, the resolver fails where the candidates behind the moment do. -/
lemma resolveRegularSchedule_fails {future : List Candidate}
    (hpast : scheduleOccurrences zone rt t ip profileId policyAt false=.ok past)
    (hfuture : scheduleOccurrences zone rt t ip profileId policyAt true=.ok future) :
    (∃ e,resolveRegularSchedule zone rt t ip profileId policyAt=.error e) ↔
      Disputed zone (· ∈ past.filter fun c => c.action.isMode) ∨
      ∃ key,Disputed zone (· ∈ forService key past) := by
  rw [← selectScheduleCandidate_fails "mode",← services_fail]
  unfold resolveRegularSchedule
  rw [hpast]
  simp only [hfuture,bind,Except.bind]
  cases selectScheduleCandidate zone (past.filter fun c => c.action.isMode) "mode" with
  | error e => exact iff_of_true ⟨e,rfl⟩ (.inl ⟨e,rfl⟩)
  | ok mode =>
    cases selectServices zone (byService past) with
    | error e => exact iff_of_true ⟨e,rfl⟩ (.inr ⟨e,rfl⟩)
    | ok services =>
      refine iff_of_false (fun ⟨e,he⟩ => by cases he) ?_
      rintro (⟨e,he⟩ | ⟨e,he⟩) <;> cases he

/-- The eight days lose nothing: what the resolver finds is what all weeks have. -/
theorem resolveRegularSchedule_all_weeks (zone : Zone) (rt : Runtime) (t : Tables) (ip : String)
    (profileId : Option ℤ) (policyAt : Moment) (hzone : zone.Lawful) (hat : zone.Real policyAt) :
    (∀ r,resolveRegularSchedule zone rt t ip profileId policyAt=.ok r →
      ChosenFrom zone (Behind zone rt t ip profileId policyAt CandidateAction.isMode) r.mode ∧
      (∀ key,ChosenFrom zone (Behind zone rt t ip profileId policyAt (concerns key))
        (r.services.lookup key)) ∧
      IsNext zone rt t ip profileId policyAt r.next) ∧
    ((∃ e,resolveRegularSchedule zone rt t ip profileId policyAt=.error e) ↔
      (∃ plan ∈ plansFor t ip profileId,¬Readable rt t plan) ∨
      Disputed zone (Behind zone rt t ip profileId policyAt CandidateAction.isMode) ∨
      ∃ key,Disputed zone (Behind zone rt t ip profileId policyAt (concerns key))) := by
  constructor
  · intro r h
    obtain ⟨past,hpast,h⟩ := bind_ok h
    obtain ⟨mode,hmode,h⟩ := bind_ok h
    obtain ⟨services,hservices,h⟩ := bind_ok h
    obtain ⟨future,hfuture,h⟩ := bind_ok h
    obtain rfl := Except.ok.inj h
    obtain ⟨-,hbehind⟩ := scheduleOccurrences_ok hpast
    obtain ⟨-,hahead⟩ := scheduleOccurrences_ok hfuture
    refine ⟨?_,fun key => ?_,?_⟩
    · exact chosenFrom_congr (behind_sub hbehind) (behind_later hzone hat hbehind)
        (selectScheduleCandidate_chosen hmode)
    · exact chosenFrom_congr (behind_sub hbehind) (behind_later hzone hat hbehind)
        (services_chosen hservices key)
    · exact nextCandidate_isNext hzone hat hahead
  · by_cases hreadable : ∀ plan ∈ plansFor t ip profileId,Readable rt t plan
    · have hsucceeds : ∀ future,∃ cs,scheduleOccurrences zone rt t ip profileId policyAt future=
          .ok cs := fun _ => scheduleOccurrences_succeeds hzone hreadable
      obtain ⟨past,hpast⟩ := hsucceeds false
      obtain ⟨future,hfuture⟩ := hsucceeds true
      obtain ⟨-,hbehind⟩ := scheduleOccurrences_ok hpast
      rw [resolveRegularSchedule_fails hpast hfuture,
        disputed_congr (behind_sub hbehind) (behind_later hzone hat hbehind)]
      simp only [forService_eq,
        disputed_congr (behind_sub hbehind) (behind_later hzone hat hbehind)]
      refine (or_iff_right ?_).symm
      rintro ⟨plan,hplan,hunreadable⟩
      exact hunreadable (hreadable plan hplan)
    · refine iff_of_true ?_ (.inl (by simpa using hreadable))
      cases hresolve : resolveRegularSchedule zone rt t ip profileId policyAt with
      | error e => exact ⟨e,rfl⟩
      | ok r =>
        obtain ⟨past,hpast,-⟩ := bind_ok hresolve
        exact absurd (scheduleOccurrences_ok hpast).1 hreadable

end Regular

end Weeks

section Forward

/-- A zone whose clocks go forward by an hour, once. -/
def forwardZone (key : String) (transition : ℤ) : Zone where
  key := key
  utcoffset wall fold :=
    if wall<transition then 0
    else if wall < transition+hourUs ∧ fold=false then 0
    else hourUs
  fromutc x := if x<transition then ⟨x,false⟩ else ⟨x+hourUs,false⟩

variable {key : String} {transition : ℤ}

lemma forward_fromutc (x : ℤ) : ((forwardZone key transition).fromutc x).wall=
    if x<transition then x else x+hourUs := by
  simp only [forwardZone]
  split_ifs <;> rfl

lemma ediv_day_le {x y : ℤ} (h : x ≤ y) : x/dayUs ≤ y/dayUs :=
  Int.ediv_le_ediv (by decide) h

lemma minutes_to_end {naive : ℤ} (hminute : transition%minuteUs=0) (hnaive : naive%minuteUs=0)
    (hgap : transition ≤ naive ∧ naive < transition+hourUs) :
    ∃ n : ℕ,n ≤ 180 ∧ naive+n*minuteUs=transition+hourUs := by
  refine ⟨((transition+hourUs-naive)/minuteUs).toNat,?_,?_⟩ <;>
    unfold minuteUs hourUs at * <;> omega

lemma after_gap {naive : ℤ} (hbefore : ¬naive<transition)
    (hgap : ¬(transition ≤ naive ∧ naive < transition+hourUs)) : ¬naive-hourUs<transition := by
  omega

/-- The clocks may go forward on every full minute, if not at the end of a day. -/
lemma forward_lawful (hminute : transition%minuteUs=0)
    (hday : (transition+hourUs)/dayUs=transition/dayUs) :
    (forwardZone key transition).Lawful where
  inverse x := by
    by_cases hx : x<transition
    · simp [Zone.instant,forwardZone,hx]
    · have hwall : ¬x+hourUs<transition := by unfold hourUs; omega
      have hgap : ¬x+hourUs<transition+hourUs := by omega
      simp [Zone.instant,forwardZone,hx,hwall,hgap]
  days x y hxy := by
    unfold Moment.day
    rw [forward_fromutc,forward_fromutc]
    refine ediv_day_le ?_
    unfold hourUs
    split_ifs <;> omega
  gaps naive hnaive := by
    by_cases hgap : transition ≤ naive ∧ naive < transition+hourUs
    · obtain ⟨n,hn,hend⟩ := minutes_to_end hminute hnaive hgap
      refine ⟨n,hn,?_,transition,?_⟩
      · rw [hend,hday]
        exact le_antisymm (ediv_day_le hgap.1) (hday ▸ ediv_day_le hgap.2.le)
      · rw [forward_fromutc,if_neg (lt_irrefl _),hend]
    · refine ⟨0,by omega,by simp,?_⟩
      by_cases hbefore : naive<transition
      · exact ⟨naive,by simp [forward_fromutc,hbefore]⟩
      · have hafter := after_gap hbefore hgap
        exact ⟨naive-hourUs,by simp [forward_fromutc,hafter]⟩

/-- A block on Sundays at an hour that the clocks leave out, and the days that allow it. -/
def sundayTables : Tables :=
  { schedulePlans :=
      [{ id := 1, label := "Sunday lie-in", target := .all, action := .mode .blocked,
         clockTime := "01:30", days := [.sun] },
       { id := 2, label := "School days", target := .profile "1", action := .mode .normal,
         clockTime := "07:00", days := [.mon,.tue,.wed,.thu,.fri] }] }

/-- The clocks of the zone go forward on Sunday, 29 March 2026, at one o'clock. -/
def london : Zone := forwardZone "Europe/London" (combine (ordinal 2026 3 29) 1 0)

lemma london_lawful : london.Lawful := forward_lawful (by decide) (by decide)

def sundayNoon : Moment := london.fromutc (combine (ordinal 2026 3 29) 12 0)

theorem resolveRegularSchedule_all_weeks_london :
    ∃ r,resolveRegularSchedule london asciiEnv.toRuntime sundayTables "10.0.0.7" (some 1)
        sundayNoon=.ok r ∧
      ChosenFrom london (Behind london asciiEnv.toRuntime sundayTables "10.0.0.7" (some 1)
        sundayNoon CandidateAction.isMode) r.mode ∧
      IsNext london asciiEnv.toRuntime sundayTables "10.0.0.7" (some 1) sundayNoon r.next := by
  obtain ⟨hchosen,hfails⟩ := resolveRegularSchedule_all_weeks london asciiEnv.toRuntime
    sundayTables "10.0.0.7" (some 1) sundayNoon london_lawful (by unfold Zone.Real; decide)
  have hok : (resolveRegularSchedule london asciiEnv.toRuntime sundayTables "10.0.0.7" (some 1)
    sundayNoon).isOk=true := by decide
  cases hr : resolveRegularSchedule london asciiEnv.toRuntime sundayTables "10.0.0.7" (some 1)
      sundayNoon with
  | error e =>
    rw [hr] at hok
    cases hok
  | ok r =>
    obtain ⟨hmode,-,hnext⟩ := hchosen r hr
    exact ⟨r,rfl,hmode,hnext⟩

end Forward

end ZenControl
