import ZenControl.Attention.Escalation

/-! The open periods of notifications. An evaluation looks at the first sighting of a
notification and at all its occurrences; both survive its resolution. What an escalation should
measure, the period since the notification was last opened, is read off the history here. -/
namespace ZenControl.Attention
open Rows Histories

/-- The clock to the microsecond. -/
def Host.instant (host : Host) : ℤ := host.now*1000000+host.microsecond.val

/-- When a notification was opened or reopened, to the microsecond, and what it had counted
before. -/
structure Period where
  openedAt : ℤ := 0
  before : ℕ := 0
  deriving DecidableEq, Repr

/-- The tables with the open period of every notification. -/
structure Watch where
  desk : Desk := {}
  period : ℕ → Period := fun _ => {}

/-- The period after a step: a row that was added or that is no longer resolved opens one. -/
def Period.next (instant : ℤ) (old : Option Notification) (new : Option Notification)
    (period : Period) : Period :=
  match old,new with
  | none,some _ => ⟨instant,0⟩
  | some n,some n' =>
    if n.resolvedAt.isSome ∧ n'.resolvedAt=none then ⟨instant,n.occurrences⟩ else period
  | _,none => period

/-- One request with the periods it opens. -/
def Watch.next (p : Platform) (request : Request) (w : Watch) : Watch where
  desk := request.next p w.desk
  period k := (w.period k).next request.host.instant (w.desk.notifications.find k)
    ((request.next p w.desk).notifications.find k)

/-- The time that an evaluation works with, to the microsecond: its argument, or the clock. -/
def Host.evaluatedAt (host : Host) (now : Option ℤ) : ℤ :=
  now.getD host.now*1000000+host.microsecond.val

/-- A reason that is one by the open period alone. -/
def EscalationReason.Justified (instant : ℤ) (period : Period) (n : Notification) :
    EscalationReason → Prop
  | age _ threshold => threshold*1000000 ≤ instant-period.openedAt
  | repeated _ threshold => threshold ≤ (n.occurrences : ℤ)-period.before

/-- What an evaluation escalates, it escalates for what happened in the open period. -/
def MeasuresOpenPeriod (p : Platform) (request : Request) (w : Watch) : Prop :=
  match request.call with
  | .evaluate now => ∀ result desk' k reasons n,
      evaluateNotificationIntelligence p request.host now w.desk=.ok (result,desk') →
      (k,reasons) ∈ result.escalated → w.desk.notifications.find k=some n →
      ∀ reason ∈ reasons, reason.Justified (request.host.evaluatedAt now) (w.period k) n
  | _ => True

/-- The age by the first sighting and the age by the open period are on one side of the
threshold: it is too early for both, or late enough for both. -/
def Period.SameAge (settings : IntelligenceSettings) (instant : ℤ) (period : Period)
    (n : Notification) : Prop :=
  instant < (n.firstSeenAt+settings.ageSeconds)*1000000 ∨
    period.openedAt+settings.ageSeconds*1000000 ≤ instant

/-- So are the count of all occurrences and that of the open period. -/
def Period.SameCount (settings : IntelligenceSettings) (period : Period) (n : Notification) :
    Prop :=
  (n.occurrences : ℤ) < settings.repeatCount ∨
    (period.before : ℤ)+settings.repeatCount ≤ n.occurrences

/-- No evaluation falls between the time at which an open warning is old by its first sighting and
the time at which it is old by its last opening, nor finds one that was reopened with enough
occurrences in all and too few since then. -/
def Timely (request : Request) (w : Watch) : Prop :=
  match request.call with
  | .evaluate now => w.desk.intelligence.escalationEnabled →
      ∀ r ∈ w.desk.notifications.rows, r.2.candidate →
        (w.period r.1).SameAge w.desk.intelligence (request.host.evaluatedAt now) r.2 ∧
        (0 < r.2.reopenCount → (w.period r.1).SameCount w.desk.intelligence r.2)
  | _ => True

section Evaluation
variable {p : Platform} {host : Host}

/-- What one round of the evaluation adds to its report. -/
lemma evaluateOne_escalated {now : ℤ} {settings : IntelligenceSettings} {i : ℕ}
    {row : Notification} {state : Evaluation × Desk}
    (hrow : state.2.notifications.find i=some row) :
    (evaluateOne p host now settings (i,row) state).1.escalated=state.1.escalated ++
      if row.escalationReasons settings now=[] then []
      else [(i,row.escalationReasons settings now)] := by
  by_cases hreasons : row.escalationReasons settings now=[]
  · rw [evaluateOne_nil hreasons,if_pos hreasons,List.append_nil]
  · rw [evaluateOne_cons hrow hreasons,if_neg hreasons]

/-- The report of the loop. -/
lemma evaluateEach_escalated {now : ℤ} {settings : IntelligenceSettings}
    {rows : List (ℕ × Notification)} (hrows : rows.Pairwise fun r r' => r.1 < r'.1)
    {state : Evaluation × Desk} (hfind : ∀ r ∈ rows, state.2.notifications.find r.1=some r.2) :
    (rows.foldl (fun state r => evaluateOne p host now settings r state) state).1.escalated=
      state.1.escalated ++ (rows.filter fun r =>
        r.2.escalationReasons settings now≠[]).map fun r =>
          (r.1,r.2.escalationReasons settings now) := by
  induction rows generalizing state with
  | nil => simp
  | cons r rows ih =>
    obtain ⟨i,row⟩ := r
    have hrow := hfind (i,row) List.mem_cons_self
    rw [List.foldl_cons,ih (List.pairwise_cons.mp hrows).2 fun r hr => ?_,
      evaluateOne_escalated hrow,List.filter_cons]
    · by_cases hreasons : row.escalationReasons settings now=[]
      · simp [hreasons]
      · simp [hreasons]
    · rw [evaluateOne_find hrow,if_neg]
      · exact hfind r (List.mem_cons_of_mem _ hr)
      · exact ((List.pairwise_cons.mp hrows).1 r hr).ne'

/-- An evaluation reports the candidates that are due, with all their reasons. -/
theorem evaluate_escalated {now : Option ℤ} {desk desk' : Desk} {result : Evaluation}
    (h : evaluateNotificationIntelligence p host now desk=.ok (result,desk')) {k : ℕ}
    {reasons : List EscalationReason} :
    (k,reasons) ∈ result.escalated ↔ desk.intelligence.escalationEnabled ∧
      ∃ n, desk.notifications.find k=some n ∧ n.candidate ∧ reasons≠[] ∧
        reasons=n.escalationReasons desk.intelligence (now.getD host.now) := by
  unfold evaluateNotificationIntelligence at h
  split_ifs at h with henabled
  · cases h
    simp [henabled]
  · have hresult := congrArg (fun r => r.toOption.map fun r => r.1.escalated) h
    simp only [Except.toOption,Option.map_some,Option.some.injEq] at hresult
    have hrows : (desk.notifications.select fun _ r => r.candidate).Pairwise
        fun r r' => r.1 < r'.1 := desk.notifications.increasing.filter _
    rw [← hresult,evaluateEach_escalated hrows fun r hr => (Table.mem_select.mp hr).1]
    simp only [List.nil_append,List.mem_map,List.mem_filter,Prod.mk.injEq,Prod.exists]
    constructor
    · rintro ⟨i,n,⟨hselect,hne⟩,rfl,rfl⟩
      obtain ⟨hfind,hcandidate⟩ := Table.mem_select.mp hselect
      exact ⟨by simpa using henabled,n,hfind,hcandidate,of_decide_eq_true hne,rfl⟩
    · rintro ⟨-,n,hfind,hcandidate,hne,rfl⟩
      exact ⟨k,n,⟨Table.mem_select.mpr ⟨hfind,hcandidate⟩,decide_eq_true hne⟩,rfl,rfl⟩

lemma evaluate_ok (p : Platform) (host : Host) (now : Option ℤ) (desk : Desk) :
    ∃ result desk', evaluateNotificationIntelligence p host now desk=.ok (result,desk') := by
  unfold evaluateNotificationIntelligence
  split_ifs
  · exact ⟨_,_,rfl⟩
  · exact ⟨_,_,rfl⟩

end Evaluation

section Steps
variable {p : Platform} {request : Request}

/-- A notification that was never reopened stays resolved once it is. -/
lemma NotificationMoved.original {desk : Desk} {k : ℕ} {n n' : Notification}
    (h : NotificationMoved request desk k n n') (hcount : n'.reopenCount=0) :
    n.reopenCount=0 ∧ (n.resolvedAt.isSome → n'.resolvedAt.isSome) := by
  cases h with
  | touched h => exact ⟨h.reopenCount.symm.trans hcount,h.resolved⟩
  | @upserted args hupsert hfirst h hresolved =>
    rw [h.reopenCount] at hcount
    have hreopens : n.reopens args=false := by
      by_contra hreopens
      simp only [Notification.upserted,Bool.not_eq_false] at hcount hreopens
      rw [if_pos hreopens] at hcount
      cases hcount
    refine ⟨?_,fun hsome => ?_⟩
    · simpa [Notification.upserted,hreopens] using hcount
    · have hraise : args.raiseAttention=false := by
        simpa [Notification.reopens,hsome] using hreopens
      rw [hresolved]
      simpa [Notification.upserted,hreopens,Notification.attentionEscalates,hraise] using hsome
  | evaluated hcall hcandidate h =>
    subst h
    unfold Notification.evaluated at hcount ⊢
    split_ifs at hcount ⊢ with hreasons
    · exact ⟨hcount,fun h => h⟩
    · exact ⟨hcount,fun h => h⟩

/-- A notification that was never reopened has counted nothing before its period. -/
def Watch.Original (w : Watch) : Prop := ∀ k n, w.desk.notifications.find k=some n →
  n.reopenCount=0 → (w.period k).before=0

lemma Watch.Original.next {w : Watch} (h : w.Original) : (w.next p request).Original := by
  intro k n' hn' hcount
  change ((w.period k).next _ _ _).before=0
  change (request.next p w.desk).notifications.find k=some n' at hn'
  rw [hn']
  cases hn : w.desk.notifications.find k with
  | none => rfl
  | some n =>
    obtain ⟨m,hm,hmoved⟩ := request.notification_moved p w.desk hn
    obtain rfl : m=n' := Option.some.inj (hm.symm.trans hn')
    obtain ⟨hcount',hresolved⟩ := hmoved.original hcount
    have hclosed : ¬(n.resolvedAt.isSome ∧ m.resolvedAt=none) := by
      rintro ⟨hsome,hnone⟩
      have := hresolved hsome
      rw [hnone] at this
      cases this
    rw [← h k n hn hcount']
    exact congrArg Period.before (if_neg hclosed)

/-- The evaluation finds a notification old when the threshold has passed since its first
sighting, to the microsecond: the stored time and the threshold are whole seconds. -/
lemma mem_escalationReasons_age {settings : IntelligenceSettings} {host : Host} {now : Option ℤ}
    {n : Notification} :
    (∃ age, .age age settings.ageSeconds ∈ n.escalationReasons settings (now.getD host.now)) ↔
      (n.firstSeenAt+settings.ageSeconds)*1000000 ≤ host.evaluatedAt now := by
  have hage : 60 ≤ settings.ageSeconds := le_max_left _ _
  have hmicrosecond := host.microsecond.isLt
  unfold Host.evaluatedAt Notification.escalationReasons
  dsimp only
  constructor
  · rintro ⟨age,h⟩
    rcases List.mem_append.mp h with h | h
    · split_ifs at h with hdue
      · omega
      · cases h
    · split_ifs at h
      · cases List.mem_singleton.mp h
      · cases h
  · intro h
    refine ⟨max 0 (now.getD host.now-n.firstSeenAt),List.mem_append_left _ ?_⟩
    rw [if_pos (by omega)]
    exact List.mem_singleton_self _

lemma mem_escalationReasons_repeated {settings : IntelligenceSettings} {now : ℤ}
    {n : Notification} :
    (∃ count, .repeated count settings.repeatCount ∈ n.escalationReasons settings now) ↔
      settings.repeatCount ≤ n.occurrences := by
  have hrepeat : 2 ≤ settings.repeatCount := le_max_left _ _
  unfold Notification.escalationReasons
  dsimp only
  constructor
  · rintro ⟨count,h⟩
    rcases List.mem_append.mp h with h | h
    · split_ifs at h
      · cases List.mem_singleton.mp h
      · cases h
    · split_ifs at h with hdue
      · omega
      · cases h
  · intro h
    refine ⟨max 1 n.occurrences,List.mem_append_right _ ?_⟩
    rw [if_pos (by omega)]
    exact List.mem_singleton_self _

/-- The thresholds of the reasons are those of the settings. -/
lemma escalationReasons_cases {settings : IntelligenceSettings} {now : ℤ} {n : Notification}
    {reason : EscalationReason} (h : reason ∈ n.escalationReasons settings now) :
    (∃ age, reason=.age age settings.ageSeconds) ∨
      ∃ count, reason=.repeated count settings.repeatCount := by
  rcases List.mem_append.mp h with h | h
  · split_ifs at h
    · exact .inl ⟨_,List.mem_singleton.mp h⟩
    · cases h
  · split_ifs at h
    · exact .inr ⟨_,List.mem_singleton.mp h⟩
    · cases h

/-- The reasons to escalate a notification are justified when both measures agree. -/
lemma justified_iff {settings : IntelligenceSettings} {host : Host} {now : Option ℤ}
    {n : Notification} {period : Period} :
    (∀ reason ∈ n.escalationReasons settings (now.getD host.now),
      reason.Justified (host.evaluatedAt now) period n) ↔
    period.SameAge settings (host.evaluatedAt now) n ∧ period.SameCount settings n := by
  unfold Period.SameAge Period.SameCount
  constructor
  · intro h
    refine ⟨?_,?_⟩
    · rw [or_iff_not_imp_left,not_lt]
      intro hdue
      obtain ⟨age,hage⟩ := mem_escalationReasons_age.mpr hdue
      have hjustified := h _ hage
      simp only [EscalationReason.Justified] at hjustified
      omega
    · rw [or_iff_not_imp_left,not_lt]
      intro hdue
      obtain ⟨count,hcount⟩ := mem_escalationReasons_repeated.mpr hdue
      have hjustified := h _ hcount
      simp only [EscalationReason.Justified] at hjustified
      omega
  · rintro ⟨hage,hcount⟩ reason hreason
    rcases escalationReasons_cases hreason with ⟨age,rfl⟩ | ⟨count,rfl⟩
    · have hdue := mem_escalationReasons_age.mp ⟨age,hreason⟩
      simp only [EscalationReason.Justified]
      omega
    · have hdue := mem_escalationReasons_repeated.mp ⟨count,hreason⟩
      simp only [EscalationReason.Justified]
      omega

/-- One step measures the open periods exactly when its evaluation is timely. -/
lemma measures_iff_timely {w : Watch} (h : w.Original) :
    MeasuresOpenPeriod p request w ↔ Timely request w := by
  obtain ⟨host,call⟩ := request
  cases call with
  | evaluate now =>
    constructor
    · rintro hmeasures henabled ⟨k,n⟩ hmem hcandidate
      obtain ⟨result,desk',hresult⟩ := evaluate_ok p host now w.desk
      have hn := Table.mem_iff.mp hmem
      have hjustified : ∀ reason ∈ n.escalationReasons w.desk.intelligence (now.getD host.now),
          reason.Justified (host.evaluatedAt now) (w.period k) n := fun reason hreason =>
        hmeasures result desk' k _ n hresult ((evaluate_escalated hresult).mpr
          ⟨henabled,n,hn,hcandidate,List.ne_nil_of_mem hreason,rfl⟩) hn reason hreason
      obtain ⟨hage,hcount⟩ := justified_iff.mp hjustified
      exact ⟨hage,fun _ => hcount⟩
    · intro htimely result desk' k reasons n hresult hmem hn
      obtain ⟨henabled,m,hm,hcandidate,-,rfl⟩ := (evaluate_escalated hresult).mp hmem
      obtain rfl : m=n := Option.some.inj (hm.symm.trans hn)
      obtain ⟨hage,hcount⟩ := htimely henabled (k,m) (Table.mem_iff.mpr hm) hcandidate
      refine justified_iff.mpr ⟨hage,?_⟩
      rcases Nat.eq_zero_or_pos m.reopenCount with hzero | hpos
      · have hbefore := h k m hm hzero
        unfold Period.SameCount
        omega
      · exact hcount hpos
  | _ => exact .rfl

end Steps

/-- Escalations measure the current open period throughout a history exactly when no evaluation
comes between the age by the first sighting and the age by the last opening, or between the two
counts of a reopened notification. -/
theorem measures_open_period_iff (p : Platform) (requests : List Request) :
    Each (Watch.next p) (MeasuresOpenPeriod p) requests {} ↔
      Each (Watch.next p) Timely requests {} := by
  have hstart : Watch.Original {} := fun k n hn => by cases hn
  constructor
  · intro h
    exact h.imp hstart (fun _ _ hw _ => hw.next) fun _ _ hw => (measures_iff_timely hw).mp
  · intro h
    exact h.imp hstart (fun _ _ hw _ => hw.next) fun _ _ hw => (measures_iff_timely hw).mpr

/-- A warning that was resolved after ten seconds and comes back after hours. -/
def briefWarnings : List Request :=
  [alert "warning" 0,⟨{ now := 10 },.resolveNotification "router:cpu" "system" ""⟩,
    alert "warning" 5000]

/-- Ten seconds after it was reopened the warning is escalated as unresolved for 5010
seconds. -/
theorem age_counts_resolved_time : ¬Each (Watch.next asciiPlatform)
    (MeasuresOpenPeriod asciiPlatform)
    (briefWarnings ++ [⟨{ now := 5010 },.evaluate none⟩]) {} := by
  intro h
  have hlast := (Each.append.mp h).2.1
  have hperiod : (after (Watch.next asciiPlatform) briefWarnings {}).period 1=⟨5000000000,1⟩ := by
    decide
  have henabled : (after (Watch.next asciiPlatform) briefWarnings {}).desk.intelligence={} := by
    decide
  obtain ⟨n,hn,hrow⟩ := Option.map_eq_some_iff.mp
    (show ((after (Watch.next asciiPlatform) briefWarnings {}).desk.notifications.find 1).map
      (fun n => (n.candidate,n.escalationReasons {} 5010))=some (true,[.age 5010 1800]) by
        decide)
  obtain ⟨hcandidate,hreasons⟩ := Prod.mk.inj hrow
  obtain ⟨result,desk',hresult⟩ := evaluate_ok asciiPlatform { now := 5010 } none
    (after (Watch.next asciiPlatform) briefWarnings {}).desk
  have hjustified := hlast result desk' 1 [.age 5010 1800] n hresult
    ((evaluate_escalated hresult).mpr ⟨by rw [henabled],n,hn,hcandidate,by simp,
      by rw [henabled]; exact hreasons.symm⟩) hn _ (List.mem_singleton.mpr rfl)
  rw [hperiod] at hjustified
  have hten : (1800 : ℤ)*1000000 ≤ 5010000000-5000000000 := hjustified
  exact absurd hten (by decide)

end ZenControl.Attention
