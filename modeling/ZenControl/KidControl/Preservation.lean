import Mathlib.Data.Int.LeastGreatest
import ZenControl.KidControl.Materialize
import ZenControl.Policy.Occurrences

/-! What the replacement of Kid Control keeps of the legacy windows. The plans of a translated
profile set marks; the resolver follows the latest marks behind a minute. In a week without
transitions these agree with the windows exactly where the windows are apart and the week before
leaves off as the week begins. -/
namespace ZenControl

namespace KidControl

section Marks

/-- A minute at which the plans set a mode. -/
structure Mark where
  day : ℤ
  time : ClockTime
  mode : Mode

/-- The minutes since the start of the day with ordinal 0. -/
def Mark.minute (m : Mark) : ℤ := 1440*m.day+m.time.val

/-- The local time of a minute. -/
def wallOf (minute : ℤ) : ℤ := minute*minuteUs

/-- The instant at which a mark takes effect. -/
def Mark.effect (zone : Zone) (m : Mark) : Except StoreError ℤ :=
  (resolveLocalWallTime zone (wallOf m.minute)).map fun o => zone.instant o.1

lemma combine_clock (day : ℤ) (t : ClockTime) :
    combine day (hourPart t).val (minutePart t).val=wallOf (1440*day+t.val) := by
  change (_ : ℤ)=_
  simp only [combine,wallOf,hourPart,minutePart,dayUs,hourUs,minuteUs]
  omega

lemma checkTime_clock (t : ClockTime) :
    checkTime (hourPart t).val (minutePart t).val=.ok () := by
  have h1 := (hourPart t).isLt
  have h2 := (minutePart t).isLt
  unfold checkTime
  rw [if_neg (by omega),if_neg (by omega)]

variable {zone : Zone} {rt : Runtime} {t : Tables} {pid : RowId} {ip : String} {future : Bool}
  {policyAt : Moment} {plan : SchedulePlan} {m : Mark}

lemma effect_ok {x : ℤ} : m.effect zone=.ok x ↔
    ∃ o, resolveLocalWallTime zone (wallOf m.minute)=.ok o ∧ zone.instant o.1=x := by
  unfold Mark.effect
  cases resolveLocalWallTime zone (wallOf m.minute) with
  | error e => simp [Except.map]
  | ok o => simp [Except.map]

lemma clockOccurrences_exists {hour minute : ℤ} {onDay : ℤ → Bool} {ns : List ℤ}
    (htime : checkTime hour minute=.ok ()) :
    (∃ found, clockOccurrences zone policyAt future hour minute onDay ns=.ok found) ↔
      ∀ n ∈ ns, onDay (dayBy policyAt future n)=true →
        ∃ o, resolveLocalWallTime zone (combine (dayBy policyAt future n) hour minute)=.ok o := by
  induction ns with
  | nil => exact ⟨fun _ n hn => absurd hn List.not_mem_nil,fun _ => ⟨[],rfl⟩⟩
  | cons n ns ih =>
    rw [clockOccurrences_cons,List.forall_mem_cons,← ih]
    by_cases hon : onDay (dayBy policyAt future n)=true
    · simp only [hon,htime,true_imp_iff,if_true,bind,Except.bind]
      cases resolveLocalWallTime zone (combine (dayBy policyAt future n) hour minute) with
      | error e => simp
      | ok o =>
        cases clockOccurrences zone policyAt future hour minute onDay ns with
        | error e => simp
        | ok later =>
          simp only [Except.ok.injEq,exists_eq',true_and,iff_true]
          split_ifs <;> exact ⟨_,rfl⟩
    · rw [if_neg hon,and_iff_right fun h => absurd h hon]

/-- The day is one of those that are looked at around a moment. -/
def Near (policyAt : Moment) (future : Bool) (day : ℤ) : Prop :=
  ∃ n ∈ offsets, dayBy policyAt future n=day

/-- The plans of a profile can be read where all their marks take effect. -/
lemma planOccurrences_exists (hkid : KidPlan pid plan) :
    (∃ cs, planOccurrences zone rt t policyAt future plan=.ok cs) ↔
      ∀ m : Mark, Near policyAt future m.day →
        PlanSays [plan] m.time m.mode (weekdayCode m.day) → ∃ x, m.effect zone=.ok x := by
  obtain ⟨-,-,⟨mode,hmode⟩,clock,hclock⟩ := hkid
  have hplan : (∃ cs, planOccurrences zone rt t policyAt future plan=.ok cs) ↔
      ∃ found, clockOccurrences zone policyAt future (hourPart clock).val (minutePart clock).val
        (fun day => weekdayCode day ∈ plan.days) offsets=.ok found := by
    unfold planOccurrences
    simp only [hclock,parseClock_clockText,planAction,hmode,bind,Except.bind]
    cases clockOccurrences zone policyAt future (hourPart clock).val (minutePart clock).val
        (fun day => weekdayCode day ∈ plan.days) offsets with
    | error e => simp
    | ok found => exact ⟨fun _ => ⟨_,rfl⟩,fun _ => ⟨_,rfl⟩⟩
  rw [hplan,clockOccurrences_exists (checkTime_clock clock)]
  constructor
  · rintro h ⟨day,time,mode'⟩ ⟨n,hn,rfl⟩ ⟨plan',hplan',htime,-,hday⟩
    obtain rfl := List.mem_singleton.mp hplan'
    obtain rfl := clockText_injective (htime.symm.trans hclock)
    obtain ⟨o,ho⟩ := h n hn (decide_eq_true hday)
    rw [combine_clock] at ho
    exact ⟨_,effect_ok.mpr ⟨o,ho,rfl⟩⟩
  · intro h n hn hon
    obtain ⟨x,hx⟩ := h ⟨dayBy policyAt future n,clock,mode⟩ ⟨n,hn,rfl⟩
      ⟨plan,List.mem_singleton_self _,hclock,hmode,of_decide_eq_true hon⟩
    obtain ⟨o,ho,-⟩ := effect_ok.mp hx
    exact ⟨o,by rw [combine_clock]; exact ho⟩

/-- The plans set the mark, on one of the days that are looked at and on the given side. -/
def Reached (zone : Zone) (plans : List SchedulePlan) (future : Bool) (policyAt : Moment)
    (m : Mark) (x : ℤ) : Prop :=
  Near policyAt future m.day ∧ PlanSays plans m.time m.mode (weekdayCode m.day) ∧
    m.effect zone=.ok x ∧ onSide future x (zone.instant policyAt)=true

/-- The candidate of a mark that takes effect at an instant. -/
def Stands (zone : Zone) (c : Candidate) (m : Mark) (x : ℤ) : Prop :=
  c.instant zone=x ∧ c.action=.mode m.mode ∧ c.specificity=2

lemma plansFor_kid (hkid : ∀ plan ∈ t.schedulePlans, KidPlan pid plan) :
    plansFor t ip (some pid.val)=listSchedulePlans t := by
  unfold plansFor
  rw [List.filter_eq_self]
  intro plan hplan
  obtain ⟨henabled,htarget,-⟩ := hkid plan (mem_listSchedulePlans.mp hplan)
  simp [henabled,htarget,Target.targetMatches]

/-- The occurrences of the plans of the profile can be found where their marks take effect. -/
theorem scheduleOccurrences_exists (hkid : ∀ plan ∈ t.schedulePlans, KidPlan pid plan) :
    (∃ cs, scheduleOccurrences zone rt t ip (some pid.val) policyAt future=.ok cs) ↔
      ∀ m : Mark, Near policyAt future m.day →
        PlanSays t.schedulePlans m.time m.mode (weekdayCode m.day) →
          ∃ x, m.effect zone=.ok x := by
  have hplans : scheduleOccurrences zone rt t ip (some pid.val) policyAt future=
      gather (planOccurrences zone rt t policyAt future) (listSchedulePlans t) :=
    congrArg _ (plansFor_kid hkid)
  rw [hplans]
  constructor
  · rintro ⟨cs,hcs⟩ m hnear ⟨plan,hplan,hmarks⟩
    have hfound := (gather_parts hcs).1 plan (mem_listSchedulePlans.mpr hplan)
    exact (planOccurrences_exists (hkid plan hplan)).mp hfound m hnear
      ⟨plan,List.mem_singleton_self _,hmarks⟩
  · intro h
    refine gather_succeeds fun plan hplan => ?_
    have hplan := mem_listSchedulePlans.mp hplan
    refine (planOccurrences_exists (hkid plan hplan)).mpr fun m hnear hmarks => ?_
    obtain ⟨plan',hplan',hmarks⟩ := hmarks
    obtain rfl := List.mem_singleton.mp hplan'
    exact h m hnear ⟨plan',hplan,hmarks⟩

/-- The occurrences of the plans of the profile are the marks that they set. -/
theorem scheduleOccurrences_kid (hkid : ∀ plan ∈ t.schedulePlans, KidPlan pid plan)
    {cs : List Candidate}
    (h : scheduleOccurrences zone rt t ip (some pid.val) policyAt future=.ok cs) :
    (∀ c ∈ cs, ∃ m x, Reached zone t.schedulePlans future policyAt m x ∧ Stands zone c m x) ∧
      ∀ m x, Reached zone t.schedulePlans future policyAt m x → ∃ c ∈ cs, Stands zone c m x := by
  obtain ⟨-,hmem⟩ := scheduleOccurrences_ok h
  refine ⟨fun c hc => ?_,fun m x hm => ?_⟩
  · obtain ⟨plan,hplan,n,hn,⟨hday,hour,minute,action,o,hclock,haction,-,ho,rfl⟩,hside⟩ :=
      (hmem c).mp hc
    rw [plansFor_kid hkid,mem_listSchedulePlans] at hplan
    obtain ⟨-,htarget,⟨mode,hmode⟩,clock,htext⟩ := hkid plan hplan
    rw [htext,parseClock_clockText] at hclock
    obtain ⟨rfl,rfl⟩ := Prod.mk.inj (Option.some.inj hclock)
    rw [combine_clock] at ho
    rw [planAction,hmode] at haction
    refine ⟨⟨dayBy policyAt future n,clock,mode⟩,zone.instant o.1,
      ⟨⟨n,hn,rfl⟩,⟨plan,hplan,htext,hmode,hday⟩,effect_ok.mpr ⟨o,ho,rfl⟩,hside⟩,rfl,
      (Except.ok.inj haction).symm,?_⟩
    rw [planCandidate,htarget]
    rfl
  · obtain ⟨⟨n,hn,hnear⟩,⟨plan,hplan,htext,hmode,hday⟩,heffect,hside⟩ := hm
    obtain ⟨o,ho,rfl⟩ := effect_ok.mp heffect
    have htarget := (hkid plan hplan).2.1
    refine ⟨planCandidate plan (.mode m.mode) o,(hmem _).mpr ⟨plan,?_,n,hn,⟨hnear ▸ hday,_,_,_,o,
      by rw [htext,parseClock_clockText],by rw [planAction,hmode],checkTime_clock m.time,?_,rfl⟩,
      hside⟩,rfl,rfl,?_⟩
    · rw [plansFor_kid hkid,mem_listSchedulePlans]
      exact hplan
    · rw [hnear,combine_clock]
      exact ho
    · rw [planCandidate,htarget]
      rfl

end Marks

section Moment
variable {zone : Zone} {rt : Runtime} {t : Tables} {pid : RowId} {ip : String}
  {policyAt : Moment} {plans : List SchedulePlan}

/-- The plans set the mark on a day that is looked at, and it takes effect before the moment or
at it. -/
def Behind (zone : Zone) (plans : List SchedulePlan) (policyAt : Moment) (m : Mark) (x : ℤ) :
    Prop :=
  Near policyAt false m.day ∧ PlanSays plans m.time m.mode (weekdayCode m.day) ∧
    m.effect zone=.ok x ∧ x ≤ zone.instant policyAt

/-- No mark behind the moment takes effect later. -/
def Latest (zone : Zone) (plans : List SchedulePlan) (policyAt : Moment) (m : Mark) (x : ℤ) :
    Prop :=
  Behind zone plans policyAt m x ∧ ∀ m' x', Behind zone plans policyAt m' x' → x' ≤ x

lemma reached_behind {m : Mark} {x : ℤ} :
    Reached zone plans false policyAt m x ↔ Behind zone plans policyAt m x := by
  simp only [Reached,Behind,onSide,Bool.false_eq_true,if_false,decide_eq_true_eq]

/-- The winners among the candidates of the past are those of the latest marks. -/
lemma wins_latest {cs : List Candidate}
    (hcs : ∀ c ∈ cs, ∃ m x, Behind zone plans policyAt m x ∧ Stands zone c m x)
    (hms : ∀ m x, Behind zone plans policyAt m x → ∃ c ∈ cs, Stands zone c m x) {c : Candidate}
    (hc : c ∈ cs) {m : Mark} {x : ℤ} (hm : Behind zone plans policyAt m x)
    (hstands : Stands zone c m x) : Wins zone cs c ↔ Latest zone plans policyAt m x := by
  rw [Wins,mem_greatest,mem_greatest]
  constructor
  · rintro ⟨⟨-,hmax⟩,-⟩
    refine ⟨hm,fun m' x' hm' => ?_⟩
    obtain ⟨c',hc',hs'⟩ := hms m' x' hm'
    have := hmax c' hc'
    rwa [hs'.1,hstands.1] at this
  · rintro ⟨-,hmax⟩
    refine ⟨⟨hc,fun c' hc' => ?_⟩,fun c' hc' => ?_⟩
    · obtain ⟨m',x',hm',hs'⟩ := hcs c' hc'
      rw [hs'.1,hstands.1]
      exact hmax m' x' hm'
    · obtain ⟨m',x',-,hs'⟩ := hcs c' (mem_greatest.mp hc').1
      rw [hs'.2.2,hstands.2.2]

lemma byService_modes {cs : List Candidate} (h : ∀ c ∈ cs, c.action.isMode=true) :
    byService cs=[] := by
  unfold byService
  induction cs with
  | nil => rfl
  | cons c cs ih =>
    have hc := h c List.mem_cons_self
    rw [List.foldl_cons]
    cases haction : c.action with
    | mode value => exact ih fun d hd => h d (List.mem_cons_of_mem _ hd)
    | service key state => rw [haction] at hc; cases hc
    | reEvaluate => rw [haction] at hc; cases hc

/-- A regular schedule needs all the marks around the moment. -/
theorem resolveRegularSchedule_effect (hkid : ∀ plan ∈ t.schedulePlans, KidPlan pid plan)
    {r : RegularSchedule}
    (h : resolveRegularSchedule zone rt t ip (some pid.val) policyAt=.ok r) (future : Bool)
    {m : Mark} (hnear : Near policyAt future m.day)
    (hmarks : PlanSays t.schedulePlans m.time m.mode (weekdayCode m.day)) :
    ∃ x, m.effect zone=.ok x := by
  obtain ⟨past,hpast,h⟩ := bind_ok h
  obtain ⟨mode,-,h⟩ := bind_ok h
  obtain ⟨services,-,h⟩ := bind_ok h
  obtain ⟨ahead,hahead,-⟩ := bind_ok h
  cases future with
  | false => exact (scheduleOccurrences_exists hkid).mp ⟨past,hpast⟩ m hnear hmarks
  | true => exact (scheduleOccurrences_exists hkid).mp ⟨ahead,hahead⟩ m hnear hmarks

/-- The regular schedule of a moment around which all marks take effect: nothing, the mode of the
latest marks, or an error where they differ. -/
theorem resolveRegularSchedule_kid (hkid : ∀ plan ∈ t.schedulePlans, KidPlan pid plan)
    (heffect : ∀ (future : Bool) (m : Mark), Near policyAt future m.day →
      PlanSays t.schedulePlans m.time m.mode (weekdayCode m.day) → ∃ x, m.effect zone=.ok x) :
    ((∀ m x, ¬Behind zone t.schedulePlans policyAt m x) →
      ∃ r, resolveRegularSchedule zone rt t ip (some pid.val) policyAt=.ok r ∧ r.mode=none) ∧
    ∀ m x, Latest zone t.schedulePlans policyAt m x →
      ((∀ m' x', Latest zone t.schedulePlans policyAt m' x' → m'.mode=m.mode) →
        ∃ r c, resolveRegularSchedule zone rt t ip (some pid.val) policyAt=.ok r ∧
          r.mode=some c ∧ c.action=.mode m.mode) ∧
      ∀ m' x', Latest zone t.schedulePlans policyAt m' x' → m'.mode≠m.mode →
        ∃ e, resolveRegularSchedule zone rt t ip (some pid.val) policyAt=.error e := by
  have hfound (future : Bool) :
      ∃ cs, scheduleOccurrences zone rt t ip (some pid.val) policyAt future=.ok cs :=
    (scheduleOccurrences_exists hkid).mpr (heffect future)
  obtain ⟨past,hpast⟩ := hfound false
  obtain ⟨ahead,hahead⟩ := hfound true
  obtain ⟨hcs,hms⟩ := scheduleOccurrences_kid hkid hpast
  simp only [reached_behind] at hcs hms
  have hmodes : ∀ c ∈ past, c.action.isMode=true := fun c hc => by
    obtain ⟨m,x,-,hs⟩ := hcs c hc
    rw [hs.2.1]
    rfl
  have hfilter : past.filter (fun c => c.action.isMode)=past :=
    List.filter_eq_self.mpr hmodes
  have hresolve : resolveRegularSchedule zone rt t ip (some pid.val) policyAt=
      (selectScheduleCandidate zone past "mode").map fun mode =>
        { mode := mode, services := [], next := nextCandidate zone ahead } := by
    simp only [resolveRegularSchedule,hpast,hahead,hfilter,byService_modes hmodes,selectServices,
      bind,Except.bind,pure,Except.pure]
    cases selectScheduleCandidate zone past "mode" <;> rfl
  rw [hresolve]
  constructor
  · intro hnone
    have hnil : past=[] := by
      cases past with
      | nil => rfl
      | cons c past =>
        obtain ⟨m,x,hm,-⟩ := hcs c List.mem_cons_self
        exact absurd hm (hnone m x)
    rw [hnil]
    exact ⟨_,rfl,rfl⟩
  intro m x hm
  obtain ⟨c,hc,hstands⟩ := hms m x hm.1
  have hwins := (wins_latest hcs hms hc hm.1 hstands).mpr hm
  obtain ⟨hagree,hdiffer⟩ := selectScheduleCandidate_spec "mode" hwins
  constructor
  · intro hall
    obtain ⟨r,hr,haction⟩ := hagree fun c' hc' => by
      obtain ⟨m',x',hm',hs'⟩ := hcs c' hc'.mem
      rw [hs'.2.1,hstands.2.1,hall m' x' ((wins_latest hcs hms hc'.mem hm' hs').mp hc')]
    exact ⟨_,r,by rw [hr]; rfl,rfl,haction.trans hstands.2.1⟩
  · intro m' x' hm' hne
    obtain ⟨c',hc',hs'⟩ := hms m' x' hm'.1
    have hwins' := (wins_latest hcs hms hc' hm'.1 hs').mpr hm'
    obtain ⟨e,he⟩ := hdiffer c' hwins' (by
      rw [hs'.2.1,hstands.2.1]
      exact fun heq => hne (CandidateAction.mode.inj heq))
    exact ⟨e,by rw [he]; rfl⟩

/-- Where anything lies behind, something latest does. -/
lemma exists_latest {m : Mark} {x : ℤ} (hm : Behind zone plans policyAt m x) :
    ∃ m' x', Latest zone plans policyAt m' x' := by
  obtain ⟨x',⟨m',hm'⟩,hmax⟩ := Int.exists_greatest_of_bdd
    (P := fun x => ∃ m, Behind zone plans policyAt m x)
    ⟨zone.instant policyAt,fun _ ⟨_,hm'⟩ => hm'.2.2.2⟩ ⟨x,m,hm⟩
  exact ⟨m',x',hm',fun m'' x'' hm'' => hmax x'' ⟨m'',hm''⟩⟩

/-- A mark that takes effect at the moment itself is a latest one. -/
lemma latest_now {m : Mark} (hm : Behind zone plans policyAt m (zone.instant policyAt)) :
    Latest zone plans policyAt m (zone.instant policyAt) :=
  ⟨hm,fun _ _ hm' => hm'.2.2.2⟩

end Moment

section Policy
variable {rt : Runtime} {t old : Tables} {p : ProposedProfile} {profile : Profile} {zone : Zone}
  {ip key : String} {policyAt : PolicyAt} {moment : Moment} {resolution : WallResolution}

/-- A profile without quotas keeps the mode that the moment asks for. -/
lemma evaluateQuotaState_translated (rt : Runtime) (t : Tables) {presets : List BandwidthPreset}
    (h : Translated presets profile.toPolicyFields) (mode : Mode) (blocked : List String)
    (usage : Option QuotaUsage) (catalog : GroupCatalog) :
    (evaluateQuotaState rt t (some profile) mode blocked usage catalog).mode=mode := by
  simp [evaluateQuotaState,h.dailyQuotaMb,h.serviceQuotas]

/-- The mode that a regular schedule asks for over a blocked profile. -/
def regularMode (r : RegularSchedule) : Mode :=
  match r.mode.map Candidate.action with
  | some (.mode m) => m
  | _ => .blocked

/-- The policy of an assigned device is its regular schedule over the blocked profile. -/
theorem computeEffectivePolicy_kid (hreplaced : Replaced p profile old t)
    (hexceptions : t.dateExceptions=[]) (hassigned : Assigned profile.id t ip)
    (hzone : policyZone rt t=.ok (zone,key))
    (hmoment : normalizePolicyDatetime zone policyAt=.ok (moment,resolution))
    (usage : Option QuotaUsage) (supported : Option (List String)) :
    (∀ r, resolveRegularSchedule zone rt t ip (some profile.id.val) moment=.ok r →
      ∃ v, computeEffectivePolicy rt t ip policyAt usage supported=.ok v ∧
        v.mode=regularMode r) ∧
    ∀ e, resolveRegularSchedule zone rt t ip (some profile.id.val) moment=.error e →
      computeEffectivePolicy rt t ip policyAt usage supported=.error e := by
  obtain ⟨d,hd,hprofileId,hoverride⟩ := hassigned
  obtain ⟨preset,hpreset,hkey⟩ := hreplaced.translated.preset
  have hfind : ∃ found, t.bandwidthPresets.find? (fun b => b.key=profile.bandwidthPreset)=
      some found := by
    rw [← Option.isSome_iff_exists,List.find?_isSome]
    exact ⟨preset,hpreset,by simpa using hkey⟩
  obtain ⟨found,hfound⟩ := hfind
  have hprofile : profileOf t (some profile.id.val)=some profile := by
    have := profileOf_rowId t (some profile.id)
    simpa [getProfile,hreplaced.profiles] using this
  have hexception : matchingException t ip moment.day (some profile.id.val)=.ok none := by
    simp [matchingException,exceptionMatches,listDateExceptions,orderBy2,hexceptions,
      chooseException,mostSpecific]
  constructor
  · intro r hr
    simp only [computeEffectivePolicy,hd,Option.getD_some,hprofileId,hoverride,Option.map_some,
      hprofile,computeEffectivePolicyFromContext,hfound,hzone,hmoment,hr,hexception,bind,
      Except.bind,pure,Except.pure,decideMode]
    refine ⟨_,rfl,?_⟩
    simp only [evaluateQuotaState_translated rt t hreplaced.translated,regularMode,
      hreplaced.translated.desiredMode]
    cases r.mode with
    | none => rfl
    | some c =>
      simp only [Option.map_some]
      cases c.action <;> rfl
  · intro e he
    simp only [computeEffectivePolicy,hd,Option.getD_some,hprofileId,Option.map_some,hprofile,
      computeEffectivePolicyFromContext,hfound,hzone,hmoment,he,bind,Except.bind]

end Policy

section Windows

/-- The minute begins inside one of the windows. -/
def Inside (windows : List (ℕ × ℕ)) (minute : ℕ) : Prop :=
  ∃ w ∈ windows, w.1 ≤ 60*minute ∧ 60*minute < w.2

instance (windows : List (ℕ × ℕ)) (minute : ℕ) : Decidable (Inside windows minute) := by
  unfold Inside
  infer_instance

/-- To the minute, every window starts inside some window and none ends inside another. -/
def Apart (windows : List (ℕ × ℕ)) : Prop :=
  ∀ w ∈ windows, Inside windows (w.1/60) ∧ ¬Inside windows (w.2/60)

instance (windows : List (ℕ × ℕ)) : Decidable (Apart windows) := by
  unfold Apart
  infer_instance

/-- The mode that the windows of a day give a minute. -/
def windowMode (windows : List (ℕ × ℕ)) (minute : ℕ) : Mode :=
  if Inside windows minute then .normal else .blocked

/-- The windows of the weekdays open or close at the mark. -/
def Mark.Of (windows : Weekday → List (ℕ × ℕ)) (m : Mark) : Prop :=
  match m.mode with
  | .normal => Opens (windows (weekdayCode m.day)) m.time
  | .blocked => Closes (windows (weekdayCode m.day)) m.time
  | .slow => False

/-- The plans open and close the windows of every weekday. -/
structure Tells (plans : List SchedulePlan) (windows : Weekday → List (ℕ × ℕ)) : Prop where
  ordered : ∀ d, ∀ w ∈ windows d, w.1/60 < w.2/60 ∧ w.2/60 < 1440
  marks : ∀ m : Mark, PlanSays plans m.time m.mode (weekdayCode m.day) ↔ m.Of windows

end Windows

section Weeks

/-- The minute of the day as a moment of the zone. -/
def momentOf (today : ℤ) (now : ClockTime) : Moment := ⟨wallOf (1440*today+now.val),false⟩

/-- The zone has one offset in the seven days from the day on. -/
def FixedWeek (zone : Zone) (offset week : ℤ) : Prop :=
  ∀ wall : Wall, wallOf (1440*week) ≤ wall → wall < wallOf (1440*(week+7)) →
    zone.FixedAt offset wall

/-- Offsets are less than a day, as those of every `tzinfo`. -/
def OffsetsBounded (zone : Zone) : Prop :=
  ∀ wall fold, -dayUs < zone.utcoffset wall fold ∧ zone.utcoffset wall fold < dayUs

/-- The marks from a week before the week to a week after it all take effect. -/
def TakeEffect (zone : Zone) (windows : Weekday → List (ℕ × ℕ)) (week : ℤ) : Prop :=
  ∀ m : Mark, week-7 ≤ m.day → m.day<week+14 → m.Of windows → ∃ x, m.effect zone=.ok x

/-- The mark is one of the week before. -/
def WeekBefore (windows : Weekday → List (ℕ × ℕ)) (week : ℤ) (m : Mark) : Prop :=
  week-7 ≤ m.day ∧ m.day<week ∧ m.Of windows

/-- Every opening of the week before takes effect before one of its closings does. -/
def LeftClosed (zone : Zone) (windows : Weekday → List (ℕ × ℕ)) (week : ℤ) : Prop :=
  ∀ m x, WeekBefore windows week m → m.mode=.normal → m.effect zone=.ok x →
    ∃ m' x', WeekBefore windows week m' ∧ m'.mode=.blocked ∧ m'.effect zone=.ok x' ∧ x<x'

/-- Every closing of the week before takes effect before the week begins. -/
def LeftBehind (zone : Zone) (windows : Weekday → List (ℕ × ℕ)) (week : ℤ) : Prop :=
  ∀ m x, WeekBefore windows week m → m.mode=.blocked → m.effect zone=.ok x →
    x < zone.instant ⟨wallOf (1440*week),false⟩

/-- The week before leaves off as the week begins: behind an open first minute, or closed. -/
def LeavesOff (zone : Zone) (windows : Weekday → List (ℕ × ℕ)) (week : ℤ) : Prop :=
  if Inside (windows (weekdayCode week)) 0 then LeftBehind zone windows week
  else LeftClosed zone windows week

/-- A week without transitions, and plans that tell its windows. -/
structure Told (zone : Zone) (offset week : ℤ) (plans : List SchedulePlan)
    (windows : Weekday → List (ℕ × ℕ)) : Prop where
  fixed : FixedWeek zone offset week
  bounded : OffsetsBounded zone
  tells : Tells plans windows

variable {zone : Zone} {offset week today : ℤ} {plans : List SchedulePlan}
  {windows : Weekday → List (ℕ × ℕ)} {now : ClockTime} {m : Mark} {x : ℤ}

lemma momentOf_day (today : ℤ) (now : ClockTime) : (momentOf today now).day=today := by
  have := now.isLt
  change (_ : ℤ)=_
  simp only [Moment.day,momentOf,wallOf,dayUs,minuteUs]
  omega

lemma wallOf_le {a b : ℤ} : wallOf a ≤ wallOf b ↔ a ≤ b := by
  simp only [wallOf,minuteUs]
  omega

lemma wallOf_lt {a b : ℤ} : wallOf a < wallOf b ↔ a < b := by
  simp only [wallOf,minuteUs]
  omega

lemma near_past {day : ℤ} :
    Near (momentOf today now) false day ↔ today-7 ≤ day ∧ day ≤ today := by
  simp only [Near,dayBy,momentOf_day,mem_offsets,Bool.false_eq_true,if_false]
  exact ⟨fun ⟨n,hn,hday⟩ => by omega,fun h => ⟨today-day,by omega,by omega⟩⟩

lemma near_future {day : ℤ} :
    Near (momentOf today now) true day ↔ today ≤ day ∧ day ≤ today+7 := by
  simp only [Near,dayBy,momentOf_day,mem_offsets,if_true]
  exact ⟨fun ⟨n,hn,hday⟩ => by omega,fun h => ⟨day-today,by omega,by omega⟩⟩

/-- In the week a local minute is what it says. -/
lemma FixedWeek.at_minute (h : FixedWeek zone offset week) {day : ℤ} (h1 : week ≤ day)
    (h2 : day<week+7) (t : ClockTime) : zone.FixedAt offset (wallOf (1440*day+t.val)) := by
  have ht := t.isLt
  exact h _ (wallOf_le.mpr (by omega)) (wallOf_lt.mpr (by omega))

lemma FixedWeek.instant (h : FixedWeek zone offset week) (h1 : week ≤ today)
    (h2 : today<week+7) : zone.instant (momentOf today now)=wallOf (1440*today+now.val)-offset :=
  instant_fixed (h.at_minute h1 h2 now)

lemma FixedWeek.start (h : FixedWeek zone offset week) (fold : Bool) :
    zone.instant ⟨wallOf (1440*week),fold⟩=wallOf (1440*week)-offset := by
  rw [Zone.instant,(h _ le_rfl (wallOf_lt.mpr (by omega))).1]

/-- The marks of the week take effect when they say. -/
lemma FixedWeek.effect (h : FixedWeek zone offset week) (h1 : week ≤ m.day)
    (h2 : m.day<week+7) : m.effect zone=.ok (wallOf m.minute-offset) := by
  have hfixed := h.at_minute h1 h2 m.time
  obtain ⟨resolution,hresolve⟩ := resolveLocalWallTime_fixed hfixed
  exact effect_ok.mpr ⟨_,hresolve,instant_fixed hfixed⟩

/-- A real local time before the week is an instant before it. -/
lemma FixedWeek.real_before (h : FixedWeek zone offset week) (hbounded : OffsetsBounded zone)
    {moment : Moment} (hreal : zone.Real moment) (hwall : moment.wall < wallOf (1440*week)) :
    zone.instant moment < wallOf (1440*week)-offset := by
  by_contra hle
  rw [not_lt,sub_le_iff_le_add] at hle
  by_cases hin : zone.instant moment+offset < wallOf (1440*(week+7))
  · have hfixed := (h _ (by omega) hin).2
    rw [add_sub_cancel_right] at hfixed
    rw [Zone.Real,hfixed] at hreal
    change zone.instant moment+offset=_ at hreal
    exact absurd hwall (not_lt.mpr (hreal ▸ hle))
  · have hoffset := hbounded (wallOf (1440*week)) false
    rw [(h _ le_rfl (wallOf_lt.mpr (by omega))).1] at hoffset
    have hother := hbounded moment.wall moment.fold
    rw [Zone.instant] at hin
    change (_ : ℤ) < _ at hwall
    simp only [wallOf,minuteUs,dayUs] at *
    omega

/-- The marks of earlier weeks take effect before the week, or as it begins where the clocks leave
out the time before it. -/
lemma FixedWeek.effect_before (h : FixedWeek zone offset week) (hbounded : OffsetsBounded zone)
    (hday : m.day<week) (hx : m.effect zone=.ok x) : x ≤ wallOf (1440*week)-offset := by
  obtain ⟨⟨moment,resolution⟩,hresolve,rfl⟩ := effect_ok.mp hx
  obtain ⟨hreal,k,-,hwall,hbefore⟩ := resolveLocalWallTime_ok hresolve
  have htime := m.time.isLt
  have hminute : m.minute<1440*week := by
    unfold Mark.minute
    omega
  have hle : moment.wall ≤ wallOf (1440*week) := by
    by_contra hlt
    -- the search for a valid time would have stopped where the week begins
    have hlater : (1440*week-m.minute).toNat<k := by
      rw [not_le,hwall] at hlt
      change (_ : ℤ) < _ at hlt
      simp only [wallOf,minuteUs] at hlt
      omega
    have hstart := hbefore _ hlater
    have hsum : wallOf m.minute+((1440*week-m.minute).toNat : ℤ)*minuteUs=wallOf (1440*week) := by
      rw [Int.toNat_of_nonneg (by omega)]
      simp only [wallOf,minuteUs]
      omega
    rw [hsum,validWallCandidates_fixed (h _ le_rfl (wallOf_lt.mpr (by omega)))] at hstart
    cases hstart
  rcases hle.eq_or_lt with heq | hlt
  · have hmoment : moment=⟨wallOf (1440*week),moment.fold⟩ := by rw [← heq]
    rw [hmoment]
    exact (h.start moment.fold).le
  · exact (h.real_before hbounded hreal hlt).le

/-- In a lawful zone every mark takes effect on its day. -/
lemma effect_lawful (hzone : zone.Lawful) (m : Mark) :
    ∃ moment, m.effect zone=.ok (zone.instant moment) ∧ zone.Real moment ∧ moment.day=m.day := by
  obtain ⟨moment,resolution,hresolve,hreal,hday⟩ := resolveLocalWallTime_lawful hzone
    (show wallOf m.minute%minuteUs=0 from Int.mul_emod_left _ _)
  refine ⟨moment,effect_ok.mpr ⟨_,hresolve,rfl⟩,hreal,hday.trans ?_⟩
  have htime := m.time.isLt
  change (_ : ℤ)=_
  simp only [wallOf,Mark.minute,minuteUs,dayUs]
  omega

lemma effect_lt (hzone : zone.Lawful) {m' : Mark} (hday : m.day < m'.day)
    {x' : ℤ} (hx : m.effect zone=.ok x) (hx' : m'.effect zone=.ok x') : x<x' := by
  obtain ⟨moment,heffect,hreal,hm⟩ := effect_lawful hzone m
  obtain ⟨moment',heffect',hreal',hm'⟩ := effect_lawful hzone m'
  obtain rfl := Except.ok.inj (heffect.symm.trans hx)
  obtain rfl := Except.ok.inj (heffect'.symm.trans hx')
  exact hzone.instant_lt hreal hreal' (by rw [hm,hm']; exact hday)

/-- A lawful zone has all the marks. -/
lemma takeEffect_lawful (hzone : zone.Lawful) (windows : Weekday → List (ℕ × ℕ)) (week : ℤ) :
    TakeEffect zone windows week := by
  intro m _ _ _
  obtain ⟨moment,heffect,-⟩ := effect_lawful hzone m
  exact ⟨_,heffect⟩

end Weeks

section Told
variable {zone : Zone} {offset week today : ℤ} {plans : List SchedulePlan}
  {windows : Weekday → List (ℕ × ℕ)} {now : ClockTime} {m : Mark} {x : ℤ}

/-- A mark of the week lies behind from its minute on. -/
lemma Told.behind (h : Told zone offset week plans windows) (h2 : today<week+7)
    (hfrom : week ≤ m.day) (hto : m.day ≤ today) (hof : m.Of windows)
    (hle : m.minute ≤ 1440*today+now.val) :
    Behind zone plans (momentOf today now) m (wallOf m.minute-offset) := by
  refine ⟨near_past.mpr ⟨by omega,hto⟩,(h.tells.marks m).mpr hof,
    h.fixed.effect hfrom (by omega),?_⟩
  rw [h.fixed.instant (by omega) h2]
  exact Int.sub_le_sub_right (wallOf_le.mpr hle) offset

/-- A window of a day of the week opens at a mark. -/
lemma Told.opening (h : Told zone offset week plans windows) (h2 : today<week+7)
    (now : ClockTime) {day : ℤ} (hfrom : week ≤ day) (hto : day ≤ today) {w : ℕ × ℕ} (hw : w ∈ windows (weekdayCode day))
    (hle : 1440*day+(w.1/60 : ℕ) ≤ 1440*today+now.val) :
    ∃ m, Behind zone plans (momentOf today now) m (wallOf m.minute-offset) ∧ m.mode=.normal ∧
      m.minute=1440*day+(w.1/60 : ℕ) := by
  obtain ⟨hlt,hbound⟩ := h.tells.ordered _ w hw
  exact ⟨⟨day,⟨w.1/60,by omega⟩,.normal⟩,h.behind h2 hfrom hto ⟨w,hw,rfl⟩ hle,rfl,rfl⟩

/-- A window of a day of the week closes at a mark. -/
lemma Told.closing (h : Told zone offset week plans windows) (h2 : today<week+7)
    (now : ClockTime) {day : ℤ} (hfrom : week ≤ day) (hto : day ≤ today) {w : ℕ × ℕ} (hw : w ∈ windows (weekdayCode day))
    (hle : 1440*day+(w.2/60 : ℕ) ≤ 1440*today+now.val) :
    ∃ m, Behind zone plans (momentOf today now) m (wallOf m.minute-offset) ∧ m.mode=.blocked ∧
      m.minute=1440*day+(w.2/60 : ℕ) := by
  obtain ⟨-,hbound⟩ := h.tells.ordered _ w hw
  exact ⟨⟨day,⟨w.2/60,hbound⟩,.blocked⟩,h.behind h2 hfrom hto ⟨w,hw,rfl⟩ hle,rfl,rfl⟩

/-- A latest mark of the week is at no earlier minute than another one behind. -/
lemma Told.minute_le (h : Told zone offset week plans windows) (h2 : today<week+7)
    (hm : Latest zone plans (momentOf today now) m x) (hfrom : week ≤ m.day) {m' : Mark}
    (hm' : Behind zone plans (momentOf today now) m' (wallOf m'.minute-offset)) :
    m'.minute ≤ m.minute := by
  have hto := (near_past.mp hm.1.1).2
  have heffect := h.fixed.effect hfrom (by omega)
  obtain rfl := Except.ok.inj (hm.1.2.2.1.symm.trans heffect)
  exact wallOf_le.mp (Int.sub_le_sub_right_iff.mp (hm.2 m' _ hm'))

/-- A latest mark from before the week is at no earlier minute than the week begins, if another
one behind is. -/
lemma Told.start_le (h : Told zone offset week plans windows)
    (hm : Latest zone plans (momentOf today now) m x) (hfrom : m.day<week) {m' : Mark}
    (hm' : Behind zone plans (momentOf today now) m' (wallOf m'.minute-offset)) :
    m'.minute ≤ 1440*week ∧ (m'.minute=1440*week → x=wallOf (1440*week)-offset) := by
  have hx := h.fixed.effect_before h.bounded hfrom hm.1.2.2.1
  have hle := hm.2 m' _ hm'
  exact ⟨wallOf_le.mp (Int.sub_le_sub_right_iff.mp (hle.trans hx)),fun heq =>
    le_antisymm hx (heq ▸ hle)⟩

/-- A latest mark of an earlier day of the week blocks, and today has not opened yet. -/
lemma Told.latest_earlier (h : Told zone offset week plans windows) (h2 : today<week+7)
    (hm : Latest zone plans (momentOf today now) m x) (hfrom : week ≤ m.day)
    (hday : m.day<today) : m.mode=windowMode (windows (weekdayCode today)) now := by
  have htime := m.time.isLt
  have hminute : m.minute<1440*today := by
    unfold Mark.minute
    omega
  have hout : ¬Inside (windows (weekdayCode today)) now := by
    rintro ⟨w,hw,h1,-⟩
    obtain ⟨m',hm',-,hopens⟩ := h.opening h2 now (by omega) le_rfl hw (by omega)
    have := h.minute_le h2 hm hfrom hm'
    omega
  rw [windowMode,if_neg hout]
  have hof := (h.tells.marks m).mp hm.1.2.1
  unfold Mark.Of at hof
  cases hmode : m.mode with
  | blocked => rfl
  | slow => simp [hmode] at hof
  | normal =>
    simp only [hmode] at hof
    obtain ⟨w,hw,hopen⟩ := hof
    obtain ⟨hlt,hbound⟩ := h.tells.ordered _ w hw
    obtain ⟨m',hm',-,hcloses⟩ := h.closing h2 now hfrom hday.le hw (by omega)
    have := h.minute_le h2 hm hfrom hm'
    unfold Mark.minute at this hcloses
    omega

/-- A latest mark of today gives the mode of the windows where these are apart. -/
lemma Told.latest_today (h : Told zone offset week plans windows) (h1 : week ≤ today)
    (h2 : today<week+7) (hapart : Apart (windows (weekdayCode today)))
    (hm : Latest zone plans (momentOf today now) m x) (hday : m.day=today) :
    m.mode=windowMode (windows (weekdayCode today)) now := by
  have hfrom : week ≤ m.day := by omega
  have hof := (h.tells.marks m).mp hm.1.2.1
  have hnow : m.time.val ≤ now.val := by
    have hle := hm.1.2.2.2
    obtain rfl := Except.ok.inj (hm.1.2.2.1.symm.trans (h.fixed.effect hfrom (by omega)))
    rw [h.fixed.instant h1 h2,Int.sub_le_sub_right_iff,wallOf_le,Mark.minute] at hle
    omega
  unfold Mark.Of at hof
  rw [hday] at hof
  cases hmode : m.mode with
  | slow => simp [hmode] at hof
  | normal =>
    simp only [hmode] at hof
    obtain ⟨w,hw,hopen⟩ := hof
    obtain ⟨v,hv,hv1,hv2⟩ := hopen ▸ (hapart w hw).1
    -- the window that the day stands in at the opening has not closed since
    have hstill : 60*now.val < v.2 := by
      by_contra hclosed
      obtain ⟨m',hm',-,hcloses⟩ := h.closing h2 now h1 le_rfl hv (by omega)
      have := h.minute_le h2 hm hfrom hm'
      unfold Mark.minute at this hcloses
      have heq : v.2/60=m.time.val := by omega
      exact (hapart v hv).2 (heq ▸ ⟨v,hv,hv1,hv2⟩)
    rw [windowMode,if_pos ⟨v,hv,by omega,hstill⟩]
  | blocked =>
    simp only [hmode] at hof
    obtain ⟨w,hw,hclose⟩ := hof
    have hout := hclose ▸ (hapart w hw).2
    rw [windowMode,if_neg]
    rintro ⟨v,hv,hv1,hv2⟩
    obtain ⟨m',hm',-,hopens⟩ := h.opening h2 now h1 le_rfl hv (by omega)
    have := h.minute_le h2 hm hfrom hm'
    unfold Mark.minute at this hopens
    by_cases heq : v.1/60=m.time.val
    · exact hout (heq ▸ (hapart v hv).1)
    · exact hout ⟨v,hv,by omega,by omega⟩

/-- A latest mark of the week before does not close it where a window is open now: the week has
begun with its opening. -/
lemma Told.latest_open (h : Told zone offset week plans windows) (h1 : week ≤ today)
    (h2 : today<week+7) (hapart : Apart (windows (weekdayCode today)))
    (hleaves : LeavesOff zone windows week) (hm : Latest zone plans (momentOf today now) m x)
    (hday : m.day<week) (hin : Inside (windows (weekdayCode today)) now) : m.mode≠.blocked := by
  intro hmode
  obtain ⟨w,hw,hw1,hw2⟩ := hin
  obtain ⟨m',hm',-,hopens⟩ := h.opening h2 now h1 le_rfl hw (by omega)
  obtain ⟨hstart,hlate⟩ := h.start_le hm hday hm'
  obtain rfl : today=week := by omega
  have hzero : w.1/60=0 := by omega
  rw [LeavesOff,if_pos (hzero ▸ (hapart w hw).1)] at hleaves
  have hnear := (near_past.mp hm.1.1).1
  have hearly := hleaves m x ⟨hnear,hday,(h.tells.marks m).mp hm.1.2.1⟩ hmode hm.1.2.2.1
  rw [h.fixed.start,hlate (by omega)] at hearly
  exact lt_irrefl _ hearly

/-- Nor is it an opening where none is open now: had the week begun with an opening, its closing
would be later, and the week before leaves off closed. -/
lemma Told.latest_closed (h : Told zone offset week plans windows) (h1 : week ≤ today)
    (h2 : today<week+7) (hleaves : LeavesOff zone windows week)
    (hm : Latest zone plans (momentOf today now) m x) (hday : m.day<week)
    (hin : ¬Inside (windows (weekdayCode today)) now) : m.mode≠.normal := by
  intro hmode
  by_cases hopen : Inside (windows (weekdayCode week)) 0
  · obtain ⟨v,hv,hv1,hv2⟩ := hopen
    obtain ⟨hlt,hbound⟩ := h.tells.ordered _ v hv
    by_cases hclosed : 1440*week+(v.2/60 : ℕ) ≤ 1440*today+now.val
    · obtain ⟨m',hm',-,hcloses⟩ := h.closing h2 now le_rfl h1 hv hclosed
      have := (h.start_le hm hday hm').1
      omega
    · obtain rfl : today=week := by omega
      exact hin ⟨v,hv,by omega,by omega⟩
  · rw [LeavesOff,if_neg hopen] at hleaves
    have hnear := (near_past.mp hm.1.1).1
    obtain ⟨c,y,⟨hc1,hc2,hof⟩,hcmode,hcy,hlater⟩ := hleaves m x
      ⟨by omega,hday,(h.tells.marks m).mp hm.1.2.1⟩ hmode hm.1.2.2.1
    by_cases hreach : today-7 ≤ c.day
    · have hy := h.fixed.effect_before h.bounded hc2 hcy
      have hnow : wallOf (1440*week)-offset ≤ zone.instant (momentOf today now) := by
        rw [h.fixed.instant h1 h2]
        exact Int.sub_le_sub_right (wallOf_le.mpr (by omega)) offset
      have := hm.2 c y ⟨near_past.mpr ⟨hreach,by omega⟩,(h.tells.marks c).mpr hof,hcy,
        hy.trans hnow⟩
      omega
    · -- the same closing lies behind in the week itself
      simp only [Mark.Of,hcmode] at hof
      obtain ⟨w,hw,-⟩ := hof
      have hcode : weekdayCode c.day=weekdayCode (c.day+7) := weekdayCode_congr (by omega)
      rw [hcode] at hw
      have hbounds := h.tells.ordered _ w hw
      obtain ⟨m',hm',-,hcloses⟩ := h.closing h2 now (by omega) (by omega) hw (by omega)
      have := (h.start_le hm hday hm').1
      omega

/-- The latest marks give the mode of the windows. -/
theorem Told.latest_mode (h : Told zone offset week plans windows) (h1 : week ≤ today)
    (h2 : today<week+7) (hapart : Apart (windows (weekdayCode today)))
    (hleaves : LeavesOff zone windows week) (hm : Latest zone plans (momentOf today now) m x) :
    m.mode=windowMode (windows (weekdayCode today)) now := by
  by_cases hweek : week ≤ m.day
  · rcases (near_past.mp hm.1.1).2.eq_or_lt with hday | hday
    · exact h.latest_today h1 h2 hapart hm hday
    · exact h.latest_earlier h2 hm hweek hday
  · rw [not_le] at hweek
    have hslow : m.mode≠.slow := by
      intro hmode
      have hof := (h.tells.marks m).mp hm.1.2.1
      simp only [Mark.Of,hmode] at hof
    unfold windowMode
    split_ifs with hin
    · have := h.latest_open h1 h2 hapart hleaves hm hweek hin
      cases hmode : m.mode with
      | normal => rfl
      | slow => exact absurd hmode hslow
      | blocked => exact absurd hmode this
    · have := h.latest_closed h1 h2 hleaves hm hweek hin
      cases hmode : m.mode with
      | normal => exact absurd hmode this
      | slow => exact absurd hmode hslow
      | blocked => rfl

/-- Where the marks at the minutes of a day all give the mode of the windows, windows are
apart. -/
theorem Told.apart (h : Told zone offset week plans windows) (h1 : week ≤ today)
    (h2 : today<week+7)
    (hnow : ∀ now m x, Latest zone plans (momentOf today now) m x →
      m.mode=windowMode (windows (weekdayCode today)) now) :
    Apart (windows (weekdayCode today)) := by
  have hlatest (now : ClockTime) (m : Mark)
      (hm : Behind zone plans (momentOf today now) m (wallOf m.minute-offset))
      (hminute : m.minute=1440*today+now.val) :
      m.mode=windowMode (windows (weekdayCode today)) now := by
    rw [hminute,← h.fixed.instant h1 h2] at hm
    exact hnow now m _ (latest_now hm)
  intro w hw
  obtain ⟨hlt,hbound⟩ := h.tells.ordered _ w hw
  constructor
  · obtain ⟨m,hm,hmode,hminute⟩ := h.opening h2 ⟨w.1/60,by omega⟩ h1 le_rfl hw le_rfl
    have := hlatest _ m hm hminute
    by_contra hout
    rw [hmode,windowMode,if_neg hout] at this
    cases this
  · obtain ⟨m,hm,hmode,hminute⟩ := h.closing h2 ⟨w.2/60,hbound⟩ h1 le_rfl hw le_rfl
    have := hlatest _ m hm hminute
    intro hin
    rw [hmode,windowMode,if_pos hin] at this
    cases this

/-- Where the marks at the first minute of the week give the mode of the windows, the week before
leaves off as the week begins. -/
theorem Told.leavesOff (h : Told zone offset week plans windows) (hfirst : now.val=0)
    (hnow : ∀ m x, Latest zone plans (momentOf week now) m x →
      m.mode=windowMode (windows (weekdayCode week)) now) : LeavesOff zone windows week := by
  have hstart : zone.instant (momentOf week now)=wallOf (1440*week)-offset := by
    rw [h.fixed.instant le_rfl (by omega),hfirst,Nat.cast_zero,add_zero]
  have hbehind {m : Mark} {x : ℤ} (hm : WeekBefore windows week m) (hx : m.effect zone=.ok x) :
      Behind zone plans (momentOf week now) m x :=
    ⟨near_past.mpr ⟨hm.1,hm.2.1.le⟩,(h.tells.marks m).mpr hm.2.2,hx,
      hstart ▸ h.fixed.effect_before h.bounded hm.2.1 hx⟩
  rw [hfirst] at hnow
  unfold LeavesOff windowMode at *
  split_ifs at hnow ⊢ with hin
  · intro m x hm hmode hx
    rw [h.fixed.start]
    refine lt_of_le_of_ne (h.fixed.effect_before h.bounded hm.2.1 hx) fun heq => ?_
    have hlatest := latest_now (hstart ▸ heq ▸ hbehind hm hx)
    have := hnow m _ hlatest
    rw [hmode] at this
    cases this
  · intro m x hm hmode hx
    obtain ⟨m',x',hm'⟩ := exists_latest (hbehind hm hx)
    have hblocked := hnow m' x' hm'
    have hle := hm'.2 m x (hbehind hm hx)
    obtain ⟨hfrom,hto⟩ := near_past.mp hm'.1.1
    have hof := (h.tells.marks m').mp hm'.1.2.1
    refine ⟨m',x',⟨hfrom,?_,hof⟩,hblocked,hm'.1.2.2.1,lt_of_le_of_ne hle fun heq => ?_⟩
    · refine lt_of_le_of_ne hto fun hday => ?_
      -- a closing of the first day comes after its first minute
      have hx' := hm'.1.2.2.2
      obtain rfl := Except.ok.inj (hm'.1.2.2.1.symm.trans (h.fixed.effect hday.ge (by omega)))
      rw [hstart,Int.sub_le_sub_right_iff,wallOf_le,Mark.minute,hday] at hx'
      simp only [Mark.Of,hblocked] at hof
      obtain ⟨w,hw,hcloses⟩ := hof
      have := (h.tells.ordered _ w hw).1
      omega
    · subst heq
      have := hnow m x ⟨hbehind hm hx,hm'.2⟩
      rw [hmode] at this
      cases this

end Told

section Preservation
variable {rt : Runtime} {t old : Tables} {p : ProposedProfile} {profile : Profile} {zone : Zone}
  {offset week : ℤ} {ip key : String} {windows : Weekday → List (ℕ × ℕ)}

/-- The policy of the device is the mode of the windows at every minute of the day. -/
def Preserved (rt : Runtime) (t : Tables) (zone : Zone) (ip : String)
    (windows : Weekday → List (ℕ × ℕ)) (today : ℤ) : Prop :=
  ∀ (now : ClockTime) (policyAt : PolicyAt) (resolution : WallResolution)
    (usage : Option QuotaUsage) (supported : Option (List String)),
    normalizePolicyDatetime zone policyAt=.ok (momentOf today now,resolution) →
      ∃ v, computeEffectivePolicy rt t ip policyAt usage supported=.ok v ∧
        v.mode=windowMode (windows (weekdayCode today)) now

/-- The same for all days of a week. -/
def PreservedWeek (rt : Runtime) (t : Tables) (zone : Zone) (ip : String)
    (windows : Weekday → List (ℕ × ℕ)) (week : ℤ) : Prop :=
  ∀ today, week ≤ today → today < week+7 → Preserved rt t zone ip windows today

/-- The policy of a day follows the windows: it resolves, and so do its latest marks. -/
theorem preserved_latest (hreplaced : Replaced p profile old t)
    (hexceptions : t.dateExceptions=[]) (hassigned : Assigned profile.id t ip)
    (hzone : policyZone rt t=.ok (zone,key)) {today : ℤ}
    (htold : Told zone offset week t.schedulePlans windows) (h1 : week ≤ today)
    (h2 : today<week+7) (hpreserved : Preserved rt t zone ip windows today) (now : ClockTime) :
    (∀ (future : Bool) (m : Mark), Near (momentOf today now) future m.day → m.Of windows →
      ∃ x, m.effect zone=.ok x) ∧
    ∀ m x, Latest zone t.schedulePlans (momentOf today now) m x →
      m.mode=windowMode (windows (weekdayCode today)) now := by
  obtain ⟨resolution,hmoment⟩ := resolveLocalWallTime_fixed (htold.fixed.at_minute h1 h2 now)
  have hnaive : normalizePolicyDatetime zone (.naive (wallOf (1440*today+now.val)))=
      .ok (momentOf today now,resolution) := hmoment
  obtain ⟨v,hv,hmode⟩ := hpreserved now _ resolution none none hnaive
  obtain ⟨hok,herror⟩ := computeEffectivePolicy_kid hreplaced hexceptions hassigned hzone hnaive
    none none
  have hregular : ∃ r, resolveRegularSchedule zone rt t ip (some profile.id.val)
      (momentOf today now)=.ok r := by
    cases hr : resolveRegularSchedule zone rt t ip (some profile.id.val) (momentOf today now) with
    | ok r => exact ⟨r,rfl⟩
    | error e => rw [herror e hr] at hv; cases hv
  obtain ⟨r,hr⟩ := hregular
  have heffect (future : Bool) (m : Mark) (hnear : Near (momentOf today now) future m.day)
      (hmarks : PlanSays t.schedulePlans m.time m.mode (weekdayCode m.day)) :=
    resolveRegularSchedule_effect hreplaced.plans hr future hnear hmarks
  refine ⟨fun future m hnear hof => heffect future m hnear ((htold.tells.marks m).mpr hof),?_⟩
  intro m x hm
  obtain ⟨-,hlatest⟩ := @resolveRegularSchedule_kid zone rt t profile.id ip (momentOf today now)
    hreplaced.plans heffect
  obtain ⟨hagree,hdiffer⟩ := hlatest m x hm
  have hall : ∀ m' x', Latest zone t.schedulePlans (momentOf today now) m' x' →
      m'.mode=m.mode := by
    intro m' x' hm'
    by_contra hne
    obtain ⟨e,he⟩ := hdiffer m' x' hm' hne
    cases hr.symm.trans he
  obtain ⟨r',c,hr',hc,haction⟩ := hagree hall
  obtain ⟨v',hv',hmode'⟩ := hok r' hr'
  obtain rfl := Except.ok.inj (hv.symm.trans hv')
  rw [← hmode,hmode',regularMode,hc,Option.map_some,haction]

/-- Where the windows of a day are apart, all marks take effect and the week before leaves off as
the week begins, the policy of the day follows the windows. -/
theorem preserved_day (hreplaced : Replaced p profile old t)
    (hexceptions : t.dateExceptions=[]) (hassigned : Assigned profile.id t ip)
    (hzone : policyZone rt t=.ok (zone,key)) {today : ℤ}
    (htold : Told zone offset week t.schedulePlans windows) (h1 : week ≤ today)
    (h2 : today<week+7) (hapart : Apart (windows (weekdayCode today)))
    (heffect : TakeEffect zone windows week) (hleaves : LeavesOff zone windows week) :
    Preserved rt t zone ip windows today := by
  intro now policyAt resolution usage supported hmoment
  have hmarks (future : Bool) (m : Mark) (hnear : Near (momentOf today now) future m.day)
      (hset : PlanSays t.schedulePlans m.time m.mode (weekdayCode m.day)) :
      ∃ x, m.effect zone=.ok x := by
    have hday : week-7 ≤ m.day ∧ m.day<week+14 := by
      cases future with
      | false => have := near_past.mp hnear; omega
      | true => have := near_future.mp hnear; omega
    exact heffect m hday.1 hday.2 ((htold.tells.marks m).mp hset)
  obtain ⟨hnone,hlatest⟩ := @resolveRegularSchedule_kid zone rt t profile.id ip
    (momentOf today now) hreplaced.plans hmarks
  obtain ⟨hok,-⟩ := computeEffectivePolicy_kid hreplaced hexceptions hassigned hzone hmoment
    usage supported
  by_cases hbehind : ∃ m x, Behind zone t.schedulePlans (momentOf today now) m x
  · obtain ⟨m₀,x₀,hm₀⟩ := hbehind
    obtain ⟨m,x,hm⟩ := exists_latest hm₀
    obtain ⟨r,c,hr,hc,haction⟩ := (hlatest m x hm).1 fun m' x' hm' => by
      rw [htold.latest_mode h1 h2 hapart hleaves hm',htold.latest_mode h1 h2 hapart hleaves hm]
    obtain ⟨v,hv,hmode⟩ := hok r hr
    refine ⟨v,hv,?_⟩
    rw [hmode,regularMode,hc,Option.map_some,haction,htold.latest_mode h1 h2 hapart hleaves hm]
  · have hno : ∀ m x, ¬Behind zone t.schedulePlans (momentOf today now) m x :=
      fun m x hm => hbehind ⟨m,x,hm⟩
    obtain ⟨r,hr,hmodeNone⟩ := hnone hno
    obtain ⟨v,hv,hmode⟩ := hok r hr
    refine ⟨v,hv,?_⟩
    rw [hmode,regularMode,hmodeNone,Option.map_none,windowMode,if_neg]
    rintro ⟨w,hw,hw1,-⟩
    obtain ⟨m,hm,-⟩ := htold.opening h2 now h1 le_rfl hw (by omega)
    exact hno m _ hm

/-- Every weekday comes up in a week. -/
lemma exists_weekday (week : ℤ) (d : Weekday) :
    ∃ day, week ≤ day ∧ day < week+7 ∧ weekdayCode day=d := by
  obtain ⟨day,rfl⟩ := ZenControl.exists_weekday d
  obtain ⟨n,h1,h7,hcode⟩ := exists_later (week-1) day
  exact ⟨week-1+n,by omega,by omega,hcode⟩

/-- The policy follows the windows all week exactly where the windows of every weekday are apart,
all marks take effect and the week before leaves off as the week begins. -/
theorem preserved_week_iff (hreplaced : Replaced p profile old t)
    (hexceptions : t.dateExceptions=[]) (hassigned : Assigned profile.id t ip)
    (hzone : policyZone rt t=.ok (zone,key))
    (htold : Told zone offset week t.schedulePlans windows) :
    PreservedWeek rt t zone ip windows week ↔
      (∀ d, Apart (windows d)) ∧ TakeEffect zone windows week ∧ LeavesOff zone windows week := by
  constructor
  · intro hall
    have hlatest (today : ℤ) (h1 : week ≤ today) (h2 : today<week+7) := preserved_latest hreplaced
      hexceptions hassigned hzone htold h1 h2 (hall today h1 h2)
    obtain ⟨first,hfirst⟩ : ∃ now : ClockTime, now.val=0 := ⟨⟨0,by decide⟩,rfl⟩
    refine ⟨fun d => ?_,fun m hfrom hto hof => ?_,
      htold.leavesOff hfirst (hlatest week le_rfl (by omega) first).2⟩
    · obtain ⟨today,h1,h2,rfl⟩ := exists_weekday week d
      exact htold.apart h1 h2 fun now => (hlatest today h1 h2 now).2
    · -- the first day of the week looks back a week, its last day ahead
      by_cases hday : m.day<week+7
      · by_cases hweek : week ≤ m.day
        · exact ⟨_,htold.fixed.effect hweek hday⟩
        · exact (hlatest week le_rfl (by omega) first).1 false m
            (near_past.mpr ⟨by omega,by omega⟩) hof
      · exact (hlatest (week+6) (by omega) (by omega) first).1 true m
          (near_future.mpr ⟨by omega,by omega⟩) hof
  · rintro ⟨hapart,heffect,hleaves⟩ today h1 h2
    exact preserved_day hreplaced hexceptions hassigned hzone htold h1 h2 (hapart _) heffect
      hleaves

lemma translateProfile_proposed (rt : Runtime) (raw : KidProfile) :
    ∃ slots, (translateProfile rt raw).proposed=
      { name := raw.name,
        notes := "Staged from MikroTik Kid Control; not active until explicit cutover.",
        schedule := scheduleOf slots } := by
  unfold translateProfile
  rcases collectDays rt raw days [] [] with ⟨slots,warnings⟩
  exact ⟨slots,rfl⟩

/-- The plans of a translation without warnings open and close its windows. -/
lemma translated_tells {raw : KidProfile} {plans : List SchedulePlan}
    (hwarnings : (translateProfile rt raw).warnings=[])
    (hevents : ∀ time mode d,
      PlanSays plans time mode d ↔ Says (translateProfile rt raw).proposed.schedule time mode d) :
    Tells plans fun d => spelledWindows rt (raw.windows d) := by
  have hsets (d : Weekday) := translateProfile_sets hwarnings d
  refine ⟨fun d => (hsets d).1,fun ⟨day,time,mode⟩ => ?_⟩
  rw [hevents]
  obtain ⟨hopens,hcloses,hslow⟩ := (hsets (weekdayCode day)).2 time
  cases mode with
  | normal => exact hopens
  | blocked => exact hcloses
  | slow => exact iff_of_false hslow id

/-- The replacement of a translated profile follows the legacy windows at every minute of a
week without transitions exactly where, to the minute, the windows of every weekday are apart, so
that each starts inside some window and none ends inside one, the marks around the week all take
effect, and the week before leaves off as the week begins. -/
theorem kidControl_preserved_iff (env : Env) (raw : KidProfile) (staged : Staged) (zone : Zone)
    (key : String) (offset week : ℤ) {s s' : Store} {artifacts : Artifacts}
    (hwarnings : (translateProfile env.toRuntime raw).warnings=[])
    (hstaged : staged.profiles=[(translateProfile env.toRuntime raw).proposed])
    (hs : s.journal.Reachable) (hprofiles : s.tables.profiles=[])
    (hplans : s.tables.schedulePlans=[]) (hexceptions : s.tables.dateExceptions=[])
    (h : (materializeKidControlReplacement env staged).solo s=(.ok artifacts,s'))
    (item : StagedDevice) (hitem : item ∈ staged.devices)
    (hzone : policyZone env.toRuntime s.tables=.ok (zone,key))
    (hbounded : OffsetsBounded zone) (hfixed : FixedWeek zone offset week) :
    PreservedWeek env.toRuntime s'.tables zone (strip item.ipv4)
        (fun d => spelledWindows env.toRuntime (raw.windows d)) week ↔
      (∀ d, Apart (spelledWindows env.toRuntime (raw.windows d))) ∧
      TakeEffect zone (fun d => spelledWindows env.toRuntime (raw.windows d)) week ∧
      LeavesOff zone (fun d => spelledWindows env.toRuntime (raw.windows d)) week := by
  obtain ⟨slots,hproposed⟩ := translateProfile_proposed env.toRuntime raw
  have htimes : ∀ event ∈ (translateProfile env.toRuntime raw).proposed.schedule,
      ∃ clock, event.time=clockText clock := by
    rw [hproposed]
    intro event hevent
    obtain ⟨clock,-,-,-,rfl⟩ := mem_scheduleOf.mp hevent
    exact ⟨clock,rfl⟩
  obtain ⟨profile,hreplaced,hassigned⟩ := materialize_solo hstaged (by rw [hproposed])
    (by rw [hproposed]) (by rw [hproposed]) htimes hs.bounded hprofiles hplans h
  have htold : Told zone offset week s'.tables.schedulePlans
      fun d => spelledWindows env.toRuntime (raw.windows d) :=
    ⟨hfixed,hbounded,translated_tells hwarnings hreplaced.events⟩
  have hzone' : policyZone env.toRuntime s'.tables=.ok (zone,key) := by
    rw [policyZone,hreplaced.appSettings]
    exact hzone
  exact preserved_week_iff hreplaced (hreplaced.dateExceptions.trans hexceptions)
    (hassigned item hitem) hzone' htold

end Preservation

section Example

def emptyTables : Tables :=
  { bandwidthPresets :=
      [{ key := "normal", name := "Normal", upload := "Unlimited", download := "Unlimited",
         builtin := true }] }

/-- A household in London. -/
def londonEnv : Env := { asciiEnv with zone := fun _ => some london }

/-- A profile that is open on Mondays and Sundays. -/
def openDays (monday sunday : String) : KidProfile :=
  { name := "Kids",
    windows := fun d => if d=.mon then monday else if d=.sun then sunday else "" }

def openWindows (monday sunday : String) (d : Weekday) : List (ℕ × ℕ) :=
  spelledWindows londonEnv.toRuntime ((openDays monday sunday).windows d)

def stagedDays (monday sunday : String) : Staged :=
  { profiles := [(translateProfile londonEnv.toRuntime (openDays monday sunday)).proposed],
    devices := [{ legacyName := "tablet", mac := "02:00:00:00:00:01", identityState := "matched",
                  ipv4 := "10.0.0.7", profileName := "Kids" }] }

/-- The store after the replacement. -/
def replacedStore (monday sunday : String) : Store :=
  ((materializeKidControlReplacement londonEnv (stagedDays monday sunday)).solo
    ⟨{},emptyTables⟩).2

lemma london_bounded : OffsetsBounded london := by
  intro wall fold
  simp only [london,forwardZone]
  split_ifs <;> decide

/-- From two o'clock on Sunday, 29 March 2026, on London is an hour ahead. -/
lemma london_summer (wall : ℤ) (h : 63910432800000000 ≤ wall) : london.FixedAt hourUs wall := by
  have htransition : combine (ordinal 2026 3 29) 1 0=63910429200000000 := by decide
  have hafter : ¬wall<63910429200000000 := by omega
  have hgap : ¬wall<63910429200000000+hourUs := by
    unfold hourUs
    omega
  refine ⟨fun fold => ?_,?_⟩
  · simp only [london,forwardZone,htransition]
    rw [if_neg hafter,if_neg fun h => hgap h.1]
  · simp only [london,forwardZone,htransition]
    rw [if_neg (by omega),Int.sub_add_cancel]

lemma london_fixed : FixedWeek london hourUs 739705 := fun wall hwall _ =>
  london_summer wall (le_trans (by decide) hwall)

/-- The Sunday before, the clocks leave out the opening; the window still closes after it. -/
lemma london_leavesOff : LeavesOff london (openWindows "8:00-10h,10h30m-12:00" "01:15-02:30")
    739705 := by
  rw [LeavesOff,if_neg (by decide)]
  obtain ⟨closes,hcloses,-⟩ := effect_lawful london_lawful ⟨739704,150,.blocked⟩
  rintro ⟨day,time,mode⟩ x ⟨hfrom,hto,hof⟩ rfl hx
  refine ⟨⟨739704,150,.blocked⟩,_,⟨by decide,by decide,(4500,9000),by decide,rfl⟩,rfl,hcloses,?_⟩
  by_cases hday : day=739704
  · subst hday
    have hsunday : openWindows "8:00-10h,10h30m-12:00" "01:15-02:30" (weekdayCode 739704)=
        [(4500,9000)] := by decide
    obtain ⟨w,hw,htime⟩ := hof
    rw [hsunday,List.mem_singleton] at hw
    obtain rfl : time=75 := Fin.ext (by rw [← htime,hw]; rfl)
    have hopens : (Mark.effect london ⟨739704,75,.normal⟩).toOption=some 63910429200000000 := by
      decide +kernel
    have hblocks : (Mark.effect london ⟨739704,150,.blocked⟩).toOption=
        some 63910431000000000 := by decide
    rw [hx] at hopens
    rw [hcloses] at hblocks
    rw [Option.some.inj hopens,Option.some.inj hblocks]
    decide
  · have hearlier : day<739704 := by
      change day<739705 at hto
      omega
    exact effect_lt london_lawful hearlier hx hcloses

/-- The clocks went forward the day before, and the policy still follows the windows all week. -/
theorem kidControl_preserved_gap :
    PreservedWeek londonEnv.toRuntime
      (replacedStore "8:00-10h,10h30m-12:00" "01:15-02:30").tables london "10.0.0.7"
      (openWindows "8:00-10h,10h30m-12:00" "01:15-02:30") 739705 :=
  have saved : (materializeKidControlReplacement londonEnv
      (stagedDays "8:00-10h,10h30m-12:00" "01:15-02:30")).solo ⟨{},emptyTables⟩=
        (.ok _,replacedStore "8:00-10h,10h30m-12:00" "01:15-02:30") := rfl
  (kidControl_preserved_iff londonEnv (openDays "8:00-10h,10h30m-12:00" "01:15-02:30") _ london
    "Europe/London" hourUs 739705 rfl rfl Journal.Reachable.initial rfl rfl rfl saved _
    List.mem_cons_self rfl london_bounded london_fixed).mpr
      ⟨fun d => by cases d <;> decide,
       takeEffect_lawful london_lawful _ _,london_leavesOff⟩

/-- At ten the profile closes and opens again, which the resolver refuses to decide. -/
theorem kidControl_touching_ambiguous :
    (translateProfile londonEnv.toRuntime (openDays "08:00-10:00,10:00-12:00" "")).warnings=[] ∧
      ((materializeKidControlReplacement londonEnv
        (stagedDays "08:00-10:00,10:00-12:00" "")).solo ⟨{},emptyTables⟩).1.isOk=true ∧
      Inside (openWindows "08:00-10:00,10:00-12:00" "" (weekdayCode 739705)) 600 ∧
      (computeEffectivePolicy londonEnv.toRuntime
        (replacedStore "08:00-10:00,10:00-12:00" "").tables "10.0.0.7"
        (.naive (wallOf (1440*739705+600))) none none).map EffectivePolicy.mode=
          .error (.valueError ("Ambiguous mode schedules at Mon 10:00: " ++
            "Kid Control migration · Kids · BLOCKED, Kid Control migration · Kids · NORMAL")) :=
  ⟨rfl,rfl,by decide,by decide⟩

/-- A lone window on a Sunday that the clocks leave out opens and closes at one instant, and
nothing is later until the next Sunday. -/
example : (computeEffectivePolicy londonEnv.toRuntime (replacedStore "" "01:15-01:45").tables
    "10.0.0.7" (.naive (wallOf (1440*739705))) none none).map EffectivePolicy.mode=
      .error (.valueError ("Ambiguous mode schedules at Sun 02:00: " ++
        "Kid Control migration · Kids · BLOCKED, Kid Control migration · Kids · NORMAL")) := by
  decide +kernel

end Example
end KidControl
end ZenControl
