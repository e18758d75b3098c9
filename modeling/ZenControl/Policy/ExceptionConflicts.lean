import ZenControl.Policy.Conflicts
import ZenControl.Policy.Simulation

/-! The conflicts of date exceptions that the store reports, against the refusals of the resolver.
Exceptions hold for whole days, so no clock comes between the report and the resolver. -/
namespace ZenControl

section Detector

/-- `a["target_value"] or "all"`. -/
def Target.named : Target → String
  | .all => "all"
  | .profile value | .device value => orElse value "all"

/-- Whether two exceptions are reported. -/
def clashing (a b : DateException) : Bool :=
  a.target=b.target && !(a.endDate < b.startDate || b.endDate < a.startDate) &&
    decide (a.mode≠b.mode)

/-- What is reported of two exceptions. -/
def clashText (a b : DateException) : String :=
  "Date exception " ++ a.label ++ " overlaps " ++ b.label ++ " for " ++ a.target.kind ++ " " ++
    a.target.named

/-- The conflicts of each exception with those behind it. -/
def clashesOf : List DateException → List String
  | [] => []
  | a::rest => (rest.filter (clashing a)).map (clashText a) ++ clashesOf rest

/-- `detect_date_exception_conflicts`. -/
def detectDateExceptionConflicts (t : Tables) : List String := clashesOf (listDateExceptions t)

/-- What `save_date_exception` asks of the days and the target of an exception. -/
structure DateException.Accepted (e : DateException) : Prop where
  dated : e.startDate ≤ e.endDate
  reached : e.target.Reached

variable {t : Tables} {a b : DateException}

lemma clashing_iff : clashing a b=true ↔ a.target=b.target ∧
    (b.startDate ≤ a.endDate ∧ a.startDate ≤ b.endDate) ∧ a.mode≠b.mode := by
  simp only [clashing,Bool.and_eq_true,decide_eq_true_eq,Bool.not_eq_true',Bool.or_eq_false_iff,
    decide_eq_false_iff_not,not_lt,and_assoc]

lemma clashing_comm : clashing a b=clashing b a := by
  rw [Bool.eq_iff_iff,clashing_iff,clashing_iff,eq_comm,and_comm (a:=b.startDate ≤ a.endDate),
    ne_comm]

lemma clashesOf_eq_nil {es : List DateException} :
    clashesOf es=[] ↔ es.Pairwise fun a b => clashing a b=false := by
  induction es with
  | nil => simp [clashesOf]
  | cons a rest ih =>
    simp only [clashesOf,List.append_eq_nil_iff,List.map_eq_nil_iff,List.filter_eq_nil_iff,
      Bool.not_eq_true,List.pairwise_cons,ih]

lemma mem_listDateExceptions : a ∈ listDateExceptions t ↔ a ∈ t.dateExceptions := by
  simp [listDateExceptions,orderBy2,List.mem_insertionSort]

/-- Nothing is reported if and only if no two exceptions clash. -/
lemma detectDateExceptionConflicts_eq_nil : detectDateExceptionConflicts t=[] ↔
    ∀ a ∈ t.dateExceptions,∀ b ∈ t.dateExceptions,clashing a b=false := by
  unfold detectDateExceptionConflicts
  rw [clashesOf_eq_nil]
  constructor
  · intro h a ha b hb
    by_cases hne : a=b
    · simp [clashing,hne]
    · have hsymm : Std.Symm fun a b : DateException => clashing a b=false :=
        ⟨fun x y hxy => clashing_comm.trans hxy⟩
      exact h.forall (mem_listDateExceptions.mpr ha) (mem_listDateExceptions.mpr hb) hne
  · exact fun h => List.pairwise_of_forall_mem_list fun a ha b hb =>
      h a (mem_listDateExceptions.mp ha) b (mem_listDateExceptions.mp hb)

lemma validateScheduleTarget_reached {env : Env} {targetType targetValue : PyVal}
    {target : Target} (h : validateScheduleTarget env t targetType targetValue=.ok target) :
    target.Reached := by
  unfold validateScheduleTarget at h
  dsimp only at h
  split at h
  · cases h; trivial
  · split at h
    · cases h
    · obtain ⟨found,-,h⟩ := bind_ok h
      cases found with
      | none => cases h
      | some p => cases h; exact ⟨_,rfl⟩
  · split at h
    · cases h
    · cases h; trivial
  · cases h

/-- What `save_date_exception` stores is accepted. -/
lemma exceptionFields_accepted {env : Env} {args : ExceptionArgs} {e : DateException}
    (h : exceptionFields env t args=.ok e) : e.Accepted := by
  obtain ⟨label,-,h⟩ := bind_ok h
  obtain ⟨_,-,h⟩ := bind_ok h
  obtain ⟨target,htarget,h⟩ := bind_ok h
  obtain ⟨mode,-,h⟩ := bind_ok h
  have hreached := validateScheduleTarget_reached htarget
  split at h
  · obtain ⟨_,-,h⟩ := bind_ok h
    split at h
    · obtain ⟨_,hdates,h⟩ := bind_ok h
      have hdated := not_lt.mp (refuse_ok hdates)
      dsimp only at h
      split at h
      · obtain rfl := Except.ok.inj h
        exact ⟨hdated,hreached⟩
      · obtain ⟨_,-,h⟩ := bind_ok h
        obtain ⟨id,-,h⟩ := bind_ok h
        obtain ⟨_,-,h⟩ := bind_ok h
        obtain rfl := Except.ok.inj h
        exact ⟨hdated,hreached⟩
    · cases h
  · split_ifs at h
  · cases h

end Detector

section Refusals
variable {t : Tables} {ip : String} {day : Day} {profileId : Option ℤ} {es : List DateException}

/-- The resolver refuses where the most specific exceptions differ. -/
lemma chooseException_error_iff : (∃ e,chooseException ip day es=.error e) ↔
    ∃ a ∈ mostSpecific es,∃ b ∈ mostSpecific es,a.mode≠b.mode := by
  unfold chooseException
  dsimp only
  split_ifs with hmany
  · refine ⟨fun _ => ?_,fun _ => ⟨_,rfl⟩⟩
    by_contra hnone
    push Not at hnone
    refine dedup_length_le_one.mpr (fun x hx y hy => ?_) hmany
    obtain ⟨a,ha,rfl⟩ := List.mem_map.mp hx
    obtain ⟨b,hb,rfl⟩ := List.mem_map.mp hy
    exact hnone a ha b hb
  · constructor
    · rintro ⟨e,he⟩
      cases he
    · rintro ⟨a,ha,b,hb,hne⟩
      exact absurd (dedup_length_le_one.mp hmany _ (List.mem_map_of_mem ha) _
        (List.mem_map_of_mem hb)) hne

/-- Exceptions of a device that make the resolver refuse clash. -/
lemma clashing_of_refused {e : StoreError} (h : matchingException t ip day profileId=.error e) :
    let asked := if profileId=none then storedProfileId t ip else profileId
    ∃ a ∈ t.dateExceptions,∃ b ∈ t.dateExceptions,clashing a b=true ∧
      a.target.targetMatches ip asked=true ∧ b.target.targetMatches ip asked=true := by
  obtain ⟨a,ha,b,hb,hmode⟩ := chooseException_error_iff.mp ⟨e,h⟩
  obtain ⟨hain,hamax⟩ := mem_mostSpecific ha
  obtain ⟨hbin,hbmax⟩ := mem_mostSpecific hb
  obtain ⟨hamem,hadays,hatarget⟩ := mem_exceptionMatches.mp hain
  obtain ⟨hbmem,hbdays,hbtarget⟩ := mem_exceptionMatches.mp hbin
  have hspecificity := le_antisymm (hbmax a hain) (hamax b hbin)
  exact ⟨a,hamem,b,hbmem,clashing_iff.mpr ⟨(target_eq hatarget hbtarget hspecificity).1,
    ⟨hbdays.1.trans hadays.2,hadays.1.trans hbdays.2⟩,hmode⟩,hatarget,hbtarget⟩

/-- Each target has a device for which no exception is more specific. -/
lemma exists_exempt {target : Target} (h : target.Reached) : ∃ ip profileId,
    let asked := if profileId=none then storedProfileId t ip else profileId
    target.targetMatches ip asked=true ∧ ∀ e ∈ t.dateExceptions,
      e.target.targetMatches ip asked=true → e.target.specificity ≤ target.specificity := by
  obtain ⟨fresh,hfresh⟩ := exists_longer (t.devicePolicy.filterMap DevicePolicy.ip ++
    t.dateExceptions.filterMap fun e => match e.target with
      | .device value => some value
      | _ => none)
  have hunstored : storedProfileId t fresh=none := by
    unfold storedProfileId
    rw [List.find?_eq_none.mpr fun d hd => ?_]
    · rfl
    · simp only [decide_eq_true_eq]
      intro hip
      exact absurd (hfresh fresh (List.mem_append_left _ (List.mem_filterMap.mpr ⟨d,hd,hip⟩)))
        (lt_irrefl _)
  have hunknown : ∀ e ∈ t.dateExceptions,e.target≠.device fresh := fun e he heq => by
    have hlt := hfresh fresh
      (List.mem_append_right _ (List.mem_filterMap.mpr ⟨e,he,by rw [heq]⟩))
    exact absurd hlt (lt_irrefl _)
  cases target with
  | all =>
    refine ⟨fresh,none,rfl,fun e he hmatch => ?_⟩
    have hne := hunknown e he
    rw [if_pos rfl,hunstored] at hmatch
    cases htarget : e.target <;> simp_all [Target.targetMatches,Target.specificity]
  | profile value =>
    obtain ⟨pid,rfl⟩ := h
    refine ⟨fresh,some pid,by simp [Target.targetMatches],fun e he hmatch => ?_⟩
    have hne := hunknown e he
    cases htarget : e.target <;> simp_all [Target.targetMatches,Target.specificity]
  | device value =>
    exact ⟨value,none,by simp [Target.targetMatches],fun e _ _ => specificity_le e.target⟩

/-- Accepted exceptions that clash make the resolver refuse some device on some day. -/
lemma refused_of_clashing {a b : DateException} (ha : a ∈ t.dateExceptions)
    (hb : b ∈ t.dateExceptions) (accepted : a.Accepted) (accepted' : b.Accepted)
    (h : clashing a b=true) :
    ∃ ip day profileId e,matchingException t ip day profileId=.error e := by
  obtain ⟨htarget,⟨hba,hab⟩,hmode⟩ := clashing_iff.mp h
  obtain ⟨ip,profileId,hmatch,hmost⟩ := @exists_exempt t a.target accepted.reached
  obtain ⟨e,he⟩ := (@chooseException_error_iff ip (max a.startDate b.startDate)
    (exceptionMatches t ip (max a.startDate b.startDate)
      (if profileId=none then storedProfileId t ip else profileId))).mpr (by
    have hwinner {c : DateException} (hc : c ∈ t.dateExceptions) (hsame : c.target=a.target)
        (hdays : c.startDate ≤ max a.startDate b.startDate ∧
          max a.startDate b.startDate ≤ c.endDate) :
        c ∈ mostSpecific (exceptionMatches t ip (max a.startDate b.startDate)
          (if profileId=none then storedProfileId t ip else profileId)) := by
      unfold mostSpecific
      rw [List.mem_filter,List.all_eq_true]
      refine ⟨mem_exceptionMatches.mpr ⟨hc,hdays,hsame ▸ hmatch⟩,fun e he => ?_⟩
      obtain ⟨hmem,-,htargeted⟩ := mem_exceptionMatches.mp he
      rw [hsame]
      exact decide_eq_true (hmost e hmem htargeted)
    exact ⟨a,hwinner ha rfl ⟨le_max_left _ _,max_le accepted.dated hba⟩,
      b,hwinner hb htarget.symm ⟨le_max_right _ _,max_le hab accepted'.dated⟩,hmode⟩)
  exact ⟨ip,_,profileId,e,he⟩

end Refusals

section Exactness

/-- The store reports no conflict of date exceptions if and only if the resolver answers for every
device, profile and day. -/
theorem exceptions_resolved_iff (t : Tables) (accepted : ∀ e ∈ t.dateExceptions,e.Accepted) :
    detectDateExceptionConflicts t=[] ↔ ∀ ip day profileId,
      ∃ chosen,matchingException t ip day profileId=.ok chosen := by
  rw [detectDateExceptionConflicts_eq_nil]
  constructor
  · intro h ip day profileId
    cases hanswer : matchingException t ip day profileId with
    | ok chosen => exact ⟨chosen,rfl⟩
    | error e =>
      obtain ⟨a,ha,b,hb,hclash,-⟩ := clashing_of_refused hanswer
      rw [h a ha b hb] at hclash
      cases hclash
  · intro h a ha b hb
    by_contra hclash
    obtain ⟨ip,day,profileId,e,he⟩ := refused_of_clashing ha hb (accepted a ha) (accepted b hb)
      (Bool.not_eq_false _ ▸ hclash)
    obtain ⟨chosen,hok⟩ := h ip day profileId
    rw [he] at hok
    cases hok

/-- One exception for all devices within another one. -/
def holidays : Tables where
  dateExceptions :=
    [{ id := 1, label := "Holidays", startDate := 738885, endDate := 738895, target := .all,
       mode := .mode .normal },
     { id := 2, label := "Exam", startDate := 738890, endDate := 738890, target := .all,
       mode := .mode .blocked }]

theorem holidays_refused : ∃ ip day profileId,
    ∀ chosen,matchingException holidays ip day profileId≠.ok chosen := by
  have hreported : detectDateExceptionConflicts holidays≠[] := by decide
  have hdated : ∀ e ∈ holidays.dateExceptions,e.startDate ≤ e.endDate ∧ e.target=.all := by decide
  by_contra hnone
  push Not at hnone
  exact hreported ((exceptions_resolved_iff holidays fun e he =>
    ⟨(hdated e he).1,by rw [(hdated e he).2]; trivial⟩).mpr hnone)

end Exactness
end ZenControl
