import ZenControl.References.Writers
import ZenControl.Policy.Resolver

/-! Runs of the public operations, and that policy resolves in every state that they reach
while no operation drops what is still referred to. -/
namespace ZenControl
open Calls

section Errors

def missingPreset (key ip : String) : StoreError :=
  .valueError s!"Bandwidth preset '{key}' referenced by {ip} does not exist"

def missingTemplate (label : String) : StoreError :=
  .valueError s!"Date exception '{label}' references a missing template"

/-- The errors that say that a preset or a template is missing. -/
def MissingReference (e : StoreError) : Prop :=
  (∃ key ip, e=missingPreset key ip) ∨ ∃ label, e=missingTemplate label

/-- A result that is no such error. The texts of the other errors start differently. -/
def NotMissing {α : Type} (r : Py α) : Prop := ∀ e, r=.error e → ¬MissingReference e

variable {α β : Type}

lemma head_append {a b : String} {c : Char} (h : a.toList.head?=some c) :
    (a ++ b).toList.head?=some c := by
  rw [String.toList_append,List.head?_append,h]
  rfl

lemma NotMissing.ok (a : α) : NotMissing (.ok a : Py α) := nofun

lemma NotMissing.bind {x : Py α} {f : α → Py β} (hx : NotMissing x)
    (hf : ∀ a, x=.ok a → NotMissing (f a)) : NotMissing (x >>= f) := by
  cases x with
  | error e => exact fun e' he => hx e' (by cases he; rfl)
  | ok a => exact hf a rfl

lemma NotMissing.map {x : Py α} {f : α → β} (hx : NotMissing x) : NotMissing (f <$> x) := by
  cases x with
  | error e => exact fun e' he => hx e' (by cases he; rfl)
  | ok a => exact nofun

lemma notMissing_of_head {message : String} {c : Char} (h : message.toList.head?=some c)
    (hb : c≠ 'B') (hd : c≠ 'D') : NotMissing (.error (.valueError message) : Py α) := by
  rintro e he hmissing
  obtain rfl := Except.error.inj he
  rcases hmissing with ⟨key,ip,heq⟩ | ⟨label,heq⟩
  · have htext := StoreError.valueError.inj heq
    have hhead : message.toList.head?=some 'B' := by
      rw [htext]
      exact head_append (head_append (head_append (head_append rfl)))
    exact hb (Option.some.inj (h.symm.trans hhead))
  · have htext := StoreError.valueError.inj heq
    have hhead : message.toList.head?=some 'D' := by
      rw [htext]
      exact head_append (head_append rfl)
    exact hd (Option.some.inj (h.symm.trans hhead))

end Errors

section Clock
variable (zone : Zone)

lemma notMissing_afterGap (naive : Wall) (left minutes : ℕ) :
    NotMissing (afterGap zone naive left minutes) := by
  induction left generalizing minutes with
  | zero =>
    refine notMissing_of_head (c := 'U') ?_ (by decide) (by decide)
    exact head_append (head_append (head_append rfl))
  | succ left ih =>
    unfold afterGap
    split
    · exact NotMissing.ok _
    · exact ih _

lemma notMissing_resolveLocalWallTime (naive : Wall) :
    NotMissing (resolveLocalWallTime zone naive) := by
  unfold resolveLocalWallTime
  split
  · exact NotMissing.ok _
  · exact notMissing_afterGap zone naive _ _

lemma notMissing_normalizePolicyDatetime (policyAt : PolicyAt) :
    NotMissing (normalizePolicyDatetime zone policyAt) := by
  cases policyAt with
  | current instant => exact NotMissing.ok _
  | naive wall => exact notMissing_resolveLocalWallTime zone wall
  | aware instant => exact NotMissing.ok _
  | malformed => exact notMissing_of_head (c := 'P') rfl (by decide) (by decide)
  | unsupported => exact notMissing_of_head (c := 'U') rfl (by decide) (by decide)

lemma notMissing_checkTime (hour minute : ℤ) : NotMissing (checkTime hour minute) := by
  unfold checkTime
  split_ifs
  · exact notMissing_of_head (c := 'h') rfl (by decide) (by decide)
  · exact notMissing_of_head (c := 'm') rfl (by decide) (by decide)
  · exact NotMissing.ok _

lemma notMissing_clockOccurrences (policyAt : Moment) (future : Bool) (hour minute : ℤ)
    (onDay : Day → Bool) (days : List ℤ) :
    NotMissing (clockOccurrences zone policyAt future hour minute onDay days) := by
  induction days with
  | nil => exact NotMissing.ok _
  | cons offset rest ih =>
    unfold clockOccurrences
    dsimp only
    generalize policyAt.day+(if future then offset else -offset)=day
    by_cases hday : onDay day
    · rw [if_pos hday]
      refine (notMissing_checkTime hour minute).bind fun _ _ => ?_
      refine (notMissing_resolveLocalWallTime zone _).bind fun _ _ => ?_
      refine ih.bind fun later _ => ?_
      split_ifs <;> exact NotMissing.ok _
    · rw [if_neg hday]
      exact ih

end Clock

section Schedules
variable (zone : Zone) (rt : Runtime) (t : Tables)

lemma notMissing_selectScheduleCandidate (candidates : List Candidate) (dimension : String) :
    NotMissing (selectScheduleCandidate zone candidates dimension) := by
  unfold selectScheduleCandidate
  split
  · exact NotMissing.ok _
  · dsimp only
    split_ifs
    · refine notMissing_of_head (c := 'A') ?_ (by decide) (by decide)
      exact head_append (head_append (head_append (head_append (head_append rfl))))
    · exact NotMissing.ok _

lemma notMissing_gather {α : Type} {f : α → Py (List Candidate)} (hf : ∀ a, NotMissing (f a))
    (as : List α) : NotMissing (gather f as) := by
  induction as with
  | nil => exact NotMissing.ok _
  | cons a as ih =>
    exact (hf a).bind fun _ _ => ih.bind fun _ _ => NotMissing.ok _

lemma notMissing_planAction (plan : SchedulePlan) : NotMissing (planAction rt t plan) := by
  unfold planAction
  split
  · exact NotMissing.ok _
  · refine NotMissing.bind ?_ fun _ _ => NotMissing.ok _
    unfold normalizeServiceScheduleAction
    split
    · exact notMissing_of_head (c := 'S') rfl (by decide) (by decide)
    · dsimp only
      split_ifs
      · split
        · exact notMissing_of_head (c := 'S') rfl (by decide) (by decide)
        · exact NotMissing.ok _
      · refine notMissing_of_head (c := 'U') ?_ (by decide) (by decide)
        exact head_append (head_append rfl)

lemma notMissing_scheduleOccurrences (ip : String) (profileId : Option ℤ) (policyAt : Moment)
    (future : Bool) : NotMissing (scheduleOccurrences zone rt t ip profileId policyAt future) := by
  refine notMissing_gather (fun plan => ?_) _
  unfold planOccurrences
  split
  · refine notMissing_of_head (c := 'S') ?_ (by decide) (by decide)
    exact head_append (head_append rfl)
  · refine (notMissing_planAction rt t plan).bind fun _ _ => ?_
    exact (notMissing_clockOccurrences zone _ _ _ _ _ _).bind fun _ _ => NotMissing.ok _

lemma notMissing_selectServices (services : List (String × List Candidate)) :
    NotMissing (selectServices zone services) := by
  induction services with
  | nil => exact NotMissing.ok _
  | cons entry rest ih =>
    obtain ⟨key,values⟩ := entry
    refine (notMissing_selectScheduleCandidate zone values _).bind fun _ _ => ?_
    exact ih.bind fun _ _ => NotMissing.ok _

lemma notMissing_resolveRegularSchedule (ip : String) (profileId : Option ℤ)
    (policyAt : Moment) : NotMissing (resolveRegularSchedule zone rt t ip profileId policyAt) := by
  refine (notMissing_scheduleOccurrences zone rt t _ _ _ _).bind fun _ _ => ?_
  refine (notMissing_selectScheduleCandidate zone _ _).bind fun _ _ => ?_
  refine (notMissing_selectServices zone _).bind fun _ _ => ?_
  exact (notMissing_scheduleOccurrences zone rt t _ _ _ _).bind fun _ _ => NotMissing.ok _

lemma notMissing_matchingException (ip : String) (day : Day) (profileId : Option ℤ) :
    NotMissing (matchingException t ip day profileId) := by
  unfold matchingException chooseException
  dsimp only
  split_ifs
  all_goals first
    | exact NotMissing.ok _
    | refine notMissing_of_head (c := 'C') ?_ (by decide) (by decide)
      exact head_append (head_append (head_append (head_append (head_append rfl))))

variable {t}

/-- An exception that is chosen is one of the stored ones. -/
lemma matchingException_mem {ip : String} {day : Day} {profileId : Option ℤ} {e : DateException}
    (h : matchingException t ip day profileId=.ok (some e)) : e ∈ t.dateExceptions := by
  unfold matchingException chooseException at h
  dsimp only at h
  split_ifs at h
  all_goals
    have hlast := List.mem_of_getLast? (Except.ok.inj h)
    have hwinner := (List.mem_insertionSort _).mp hlast
    have hmatch := (List.mem_filter.mp (List.mem_filter.mp hwinner).1).1
    simpa [listDateExceptions,orderBy2] using hmatch

lemma notMissing_resolveExceptionTemplate {e : DateException} {id : ℤ} (policyAt : Moment)
    (hid : ∃ s ∈ t.scheduleTemplates, s.id=id) :
    NotMissing (resolveExceptionTemplate zone t e id policyAt) := by
  unfold resolveExceptionTemplate
  split
  · next hnone =>
    obtain ⟨s,hs,hsid⟩ := hid
    have hlisted : s ∈ listScheduleTemplates t := by
      simpa [listScheduleTemplates,orderBy] using hs
    have := List.find?_eq_none.mp hnone s hlisted
    simp [hsid] at this
  · have hcandidates (template : ScheduleTemplate) (future : Bool) :
        NotMissing (templateCandidates zone template policyAt e.startDate e.endDate future) := by
      refine notMissing_gather ?_ _
      rintro ⟨entry,index⟩
      unfold templateEntryOccurrences
      dsimp only
      split
      · exact notMissing_of_head (c := 'i') rfl (by decide) (by decide)
      · exact (notMissing_clockOccurrences zone _ _ _ _ _ _).bind fun _ _ => NotMissing.ok _
    refine (hcandidates _ _).bind fun _ _ => ?_
    refine (notMissing_selectScheduleCandidate zone _ _).bind fun _ _ => ?_
    exact (hcandidates _ _).bind fun _ _ => NotMissing.ok _

lemma notMissing_decideMode {policyAt : Moment} {regular : RegularSchedule} {baseMode : Mode}
    {baseSource : String} {exception : Option DateException}
    (h : ∀ e, exception=some e → e.mode.Resolves t) :
    NotMissing (decideMode t zone policyAt regular baseMode baseSource exception) := by
  have hend (e : DateException) (otherwise : Option Candidate) :
      NotMissing (exceptionEnd zone e policyAt otherwise) := by
    refine (notMissing_resolveLocalWallTime zone _).bind ?_
    rintro ⟨occurrence,resolution⟩ -
    dsimp only
    split_ifs <;> exact NotMissing.ok _
  cases exception with
  | none => exact NotMissing.ok _
  | some e =>
    have hresolves := h e rfl
    unfold decideMode
    dsimp only
    split
    · exact (hend e _).bind fun _ _ => NotMissing.ok _
    · next id hmode =>
      rw [hmode] at hresolves
      refine (notMissing_resolveExceptionTemplate zone policyAt hresolves).bind ?_
      rintro ⟨template,current,next⟩ -
      dsimp only
      split
      · exact NotMissing.ok _
      · exact (hend e _).bind fun _ _ => NotMissing.ok _

end Schedules

section Resolution
variable {t : Tables}

/-- Where all references exist no effective policy fails for a missing one. -/
theorem References.resolves (h : References t) (hs : Seeded t) (rt : Runtime) (ip : String)
    (policyAt : PolicyAt) (usage : Option QuotaUsage) (supported : Option (List String)) :
    NotMissing (computeEffectivePolicy rt t ip policyAt usage supported) := by
  set cfg := (devicePolicy t ip).getD { ip := some ip }
  have hpreset : ∃ preset, t.bandwidthPresets.find? (fun p => p.key=
      ((profileOf t (cfg.profileId.map Subtype.val)).map fun p => p.bandwidthPreset).getD "normal")=
        some preset := by
    rw [← Option.isSome_iff_exists,List.find?_isSome]
    cases hp : profileOf t (cfg.profileId.map Subtype.val) with
    | none =>
      obtain ⟨b,hb,hkey⟩ := hs.1
      exact ⟨b,hb,decide_eq_true hkey⟩
    | some p =>
      have hmem : p ∈ t.profiles := by
        rw [profileOf_rowId] at hp
        obtain ⟨id,-,hfound⟩ := Option.bind_eq_some_iff.mp hp
        exact List.mem_of_find?_eq_some hfound
      obtain ⟨b,hb,hkey⟩ := h.presets p hmem
      exact ⟨b,hb,decide_eq_true hkey⟩
  obtain ⟨preset,hpreset⟩ := hpreset
  unfold computeEffectivePolicy computeEffectivePolicyFromContext
  dsimp only
  rw [hpreset]
  dsimp only
  refine NotMissing.bind ?_ fun _ _ => ?_
  · unfold policyZone
    dsimp only
    split
    · refine notMissing_of_head (c := 'P') ?_ (by decide) (by decide)
      exact head_append (head_append rfl)
    · exact NotMissing.ok _
  refine (notMissing_normalizePolicyDatetime _ _).bind fun _ _ => ?_
  refine (notMissing_resolveRegularSchedule _ rt t _ _ _).bind fun regular _ => ?_
  refine (notMissing_matchingException t _ _ _).bind fun exception hexception => ?_
  refine (notMissing_decideMode _ ?_).bind fun _ _ => ?_
  · rintro e rfl
    exact (h.exceptions e (matchingException_mem hexception)).2
  split
  · exact NotMissing.ok _
  · exact (notMissing_scheduleOccurrences _ rt t _ _ _ _).bind fun _ _ => NotMissing.ok _

end Resolution
end ZenControl
