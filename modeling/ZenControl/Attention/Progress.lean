import ZenControl.Attention.SummaryRows

/-! Work that does not get stuck. A background job that is given back has attempts left, and
one whose last lease ran out is closed. A summary that is recovered after its last attempt is
not closed: it waits for a claim that never takes it. -/
namespace ZenControl.Attention
open Rows Histories

/-- The attempts of a job are in its limit, with one left while it waits. -/
structure BackgroundJob.Sound (r : BackgroundJob) : Prop where
  pending : r.status=.pending → r.attempts < r.maxAttempts
  running : r.status=.running → 1 ≤ r.attempts ∧ r.attempts ≤ r.maxAttempts ∧ r.leaseToken≠""

/-- A waiting summary has an attempt left, one that is sent may be at its last. -/
structure SummaryDelivery.Sound (limit : ℕ) (r : SummaryDelivery) : Prop where
  waiting : r.waiting → r.attempts < limit
  sending : r.status=.sending → r.attempts ≤ limit

/-- Every item that waits has an attempt left, and is taken once its time has come. -/
structure Desk.Unstuck (limit : ℕ) (desk : Desk) : Prop where
  jobs : desk.jobs.All BackgroundJob.Sound
  summaries : desk.summaryDeliveries.All fun r => r.waiting → r.attempts < limit
  job_claimable : desk.jobs.All fun r => r.status=.pending → ∀ now kinds,
    r.availableAt ≤ now → kinds=[] ∨ r.kind ∈ kinds → r.claimable now kinds
  summary_claimable : desk.summaryDeliveries.All fun r => r.waiting → ∀ now,
    (∀ t, r.nextAttemptAt=some t → t ≤ now) →
      r.claimable now (max 1 (min (limit : ℤ) 10)).toNat

/-- Nothing is stuck in any state of a history, and no recovery leaves an expired lease. -/
def NeverStuck (p : Platform) (limit : ℕ) (requests : List Request) : Prop :=
  Throughout (Request.next p) (Desk.Unstuck limit) requests {} ∧
    ∀ before host rest, requests=before ++ ⟨host,.recoverJobs⟩::rest →
      (deskAfter p (before ++ [⟨host,.recoverJobs⟩])).jobs.All fun r => r.expired host.now=false

/-- The summary worker works with one limit. -/
def Request.UsesLimit (limit : ℕ) (request : Request) : Prop :=
  match request.call with
  | .claimSummaries _ retryLimit | .failSummary _ _ retryLimit => retryLimit=limit
  | _ => True

/-- Every interrupted summary that is recovered has an attempt left. -/
def Request.RecoversWithin (limit : ℕ) (request : Request) (desk : Desk) : Prop :=
  match request.call with
  | .recoverSummaries => ∀ row ∈ desk.summaryDeliveries.select fun _ r => r.status=.sending,
    row.2.attempts < limit
  | _ => True

instance (limit : ℕ) (request : Request) : Decidable (request.UsesLimit limit) := by
  unfold Request.UsesLimit
  split <;> infer_instance

instance (limit : ℕ) (request : Request) (desk : Desk) :
    Decidable (request.RecoversWithin limit desk) := by
  unfold Request.RecoversWithin
  split <;> infer_instance

section Jobs
variable (p : Platform) (host : Host)

lemma BackgroundJob.Sound.of_settled {r : BackgroundJob}
    (h : r.status=.succeeded ∨ r.status=.failed) : r.Sound where
  pending hp := by rcases h with h | h <;> rw [h] at hp <;> cases hp
  running hr := by rcases h with h | h <;> rw [h] at hr <;> cases hr

lemma BackgroundJob.Sound.of_pending {r : BackgroundJob} (hs : r.status=.pending)
    (ha : r.attempts < r.maxAttempts) : r.Sound where
  pending _ := ha
  running hr := by rw [hs] at hr; cases hr

lemma BackgroundJob.leasedBy_running {owner token : String} {r : BackgroundJob}
    (h : r.leasedBy owner token) : r.status=.running := by
  simp only [leasedBy,Bool.and_eq_true,decide_eq_true_eq] at h
  exact h.1.1

lemma Desk.leased_ok {id : ℕ} {owner token : String} {desk : Desk} {row : BackgroundJob}
    (h : desk.leased id owner token=.ok row) :
    desk.jobs.find id=some row ∧ row.status=.running := by
  unfold leased at h
  split at h
  · cases h
  · split_ifs at h with hl
    cases h
    exact ⟨by assumption,BackgroundJob.leasedBy_running hl⟩

@[simp] lemma BackgroundJob.recover_expired (now : ℤ) (r : BackgroundJob) :
    (r.recover now).expired now=false := rfl

@[simp] lemma BackgroundJob.close_expired (now : ℤ) (r : BackgroundJob) :
    (r.close now).expired now=false := rfl

lemma insertJob_sound {kind scope key : String} {maxAttempts : ℕ} {availableAt : ℤ}
    {jobs : Table BackgroundJob} (hpos : 1 ≤ maxAttempts) (h : jobs.All BackgroundJob.Sound) :
    (insertJob host kind scope key maxAttempts availableAt jobs).All BackgroundJob.Sound :=
  h.insertUnless (.of_pending rfl hpos)

/-- The step of the jobs: no call breaks the attempts of a job. -/
lemma Request.jobs_sound (request : Request) {desk : Desk}
    (h : desk.jobs.All BackgroundJob.Sound) :
    (request.next p desk).jobs.All BackgroundJob.Sound := by
  obtain ⟨host,call⟩ := request
  cases hj : call.onJobs with
  | false =>
    rw [show (Request.next p ⟨host,call⟩ desk).jobs=_ from DeskCall.commit_jobs p host hj desk]
    exact h
  | true =>
    cases call with
    | enqueueJob args =>
      simp only [next,DeskCall.commit,enqueueBackgroundJob]
      split_ifs
      · exact h
      · exact insertJob_sound host (by omega) h.delete
      · exact insertJob_sound host (by omega) h
    | dispatchOutbox events =>
      simp only [next,DeskCall.commit,Attention.dispatchOutbox,Call.commit]
      exact h.foldl fun jobs event hjobs => by
        split_ifs
        · exact hjobs
        · exact insertJob_sound host (by omega) hjobs
    | recoverJobs =>
      refine Table.All.update (Table.All.update h ?_) ?_
      · intro k r _ hr
        simp only [Bool.and_eq_true,decide_eq_true_eq] at hr
        exact .of_pending rfl hr.2
      · intro k r _ _
        exact .of_settled (.inr rfl)
    | claimJob workerName leaseSeconds kinds token =>
      simp only [next,DeskCall.commit,claimBackgroundJob]
      split
      · exact h
      · rename_i id row hfirst
        refine h.modify fun r hr => ⟨fun hp => (by cases hp),fun _ => ?_⟩
        obtain ⟨hrow,hclaim⟩ := Table.first_some hfirst
        obtain rfl : row=r := Option.some.inj (hrow.symm.trans hr)
        simp only [BackgroundJob.claimable,Bool.and_eq_true,decide_eq_true_eq] at hclaim
        exact ⟨Nat.succ_le_succ (Nat.zero_le _),hclaim.1.2,token.nonempty⟩
    | completeJob id owner token =>
      simp only [next,DeskCall.commit,completeBackgroundJob]
      split
      · exact h
      · rename_i row hleased
        simp only [Call.commit]
        rw [Desk.jobs_eq (resolveNotificationDb_others host _ _ _ _)]
        exact h.modify fun r _ => .of_settled (.inl rfl)
    | failJob id owner token error =>
      simp only [next,DeskCall.commit,failBackgroundJob]
      split
      · exact h
      · rename_i row hleased
        obtain ⟨hrow,-⟩ := Desk.leased_ok hleased
        have hfail (error : String) :
            (desk.jobs.modify id (.fail host.now error)).All BackgroundJob.Sound := by
          refine h.modify fun r hr => ?_
          by_cases ht : r.terminal
          · exact .of_settled (.inr (by simp [BackgroundJob.fail,ht]))
          · refine .of_pending (by simp [BackgroundJob.fail,ht]) ?_
            exact Nat.lt_of_not_le fun hle => ht (decide_eq_true hle)
        split_ifs
        · split
          · exact h
          · rename_i upsert hu
            simp only [Call.commit]
            rw [Desk.jobs_eq (upsertNotificationDb_others p host hu)]
            exact hfail _
        · exact hfail _
    | deferJob id owner token delaySeconds reason =>
      simp only [next,DeskCall.commit,deferBackgroundJob]
      split
      · exact h
      · rename_i row hleased
        obtain ⟨hrow,hrunning⟩ := Desk.leased_ok hleased
        refine h.modify fun r hr => .of_pending rfl ?_
        obtain rfl : row=r := Option.some.inj (hrow.symm.trans hr)
        obtain ⟨hpos,hle,-⟩ := (h id row hrow).running hrunning
        simp only [BackgroundJob.defer]
        split_ifs <;> omega
    | pruneJobs retentionDays keepJobs => exact h.delete
    | _ => cases hj

/-- A recovery gives back or closes every lease that ran out. -/
lemma recoverJobs_expired (desk : Desk) :
    (Request.next p ⟨host,.recoverJobs⟩ desk).jobs.All fun r => r.expired host.now=false := by
  intro id r' hr'
  simp only [Request.next,DeskCall.commit,recoverExpiredBackgroundWork,Call.commit,
    Table.find_update,Option.map_map] at hr'
  obtain ⟨r,hr,rfl⟩ := Option.map_eq_some_iff.mp hr'
  by_cases he : r.expired host.now
  · by_cases hlt : r.attempts < r.maxAttempts
    · simp [he,hlt]
    · simp [he,hlt,Nat.le_of_not_lt hlt]
  · simp [he]

end Jobs

section Summaries
variable {p : Platform} {limit : ℕ}

lemma SummaryDelivery.Sound.of_idle {r : SummaryDelivery} (hw : r.waiting=false)
    (hs : r.status≠.sending) : r.Sound limit where
  waiting h := by rw [hw] at h; cases h
  sending h := absurd h hs

lemma SummaryDelivery.fail_sound (now : ℤ) (error : String) (r : SummaryDelivery) :
    (r.fail now error limit).Sound limit := by
  by_cases hterminal : (limit : ℤ) ≤ r.attempts
  · have hs : (r.fail now error limit).status=.failed := by
      simp only [fail,decide_eq_true hterminal,if_true]
    exact .of_idle (by simp [waiting,hs]) (by simp [hs])
  · have hs : (r.fail now error limit).status=.retry := by
      simp only [fail,decide_eq_false hterminal]; rfl
    exact ⟨fun _ => by simp only [fail]; omega,fun h => by rw [hs] at h; cases h⟩

/-- The step of the summaries. -/
lemma Request.summaries_sound (hlimit : 1 ≤ limit) {request : Request} {desk : Desk}
    (huse : request.UsesLimit limit) (ok : request.RecoversWithin limit desk)
    (h : desk.summaryDeliveries.All (SummaryDelivery.Sound limit)) :
    (request.next p desk).summaryDeliveries.All (SummaryDelivery.Sound limit) := by
  intro id r' hr'
  have hchange := request.summary_change p desk
  cases hr : desk.summaryDeliveries.find id with
  | none =>
    obtain ⟨-,hs,ha⟩ := hchange.fresh hr hr'
    exact ⟨fun _ => by omega,fun hsending => by rw [hs] at hsending; cases hsending⟩
  | some r =>
    rcases hchange.row hr with ⟨hnone,-⟩ | ⟨row,hrow,hmoved⟩
    · rw [hnone] at hr'; cases hr'
    obtain rfl : row=r' := Option.some.inj (hrow.symm.trans hr')
    have hsound := h id r hr
    obtain ⟨host,call⟩ := request
    cases hmoved with
    | kept hs ha =>
      refine ⟨fun hw => ?_,fun hsending => ?_⟩
      · rw [ha]
        refine hsound.waiting ?_
        rw [SummaryDelivery.waiting_iff,← hs]
        exact (row.waiting_iff).mp hw
      · rw [ha]
        exact hsound.sending (hs ▸ hsending)
    | cancelled => exact .of_idle rfl (by simp [SummaryDelivery.cancel])
    | recovered hsending =>
      have hlt := ok (id,r) (Table.mem_select.mpr ⟨hr,by simpa using hsending⟩)
      exact ⟨fun _ => hlt,fun hs => by cases hs⟩
    | claimed hw =>
      have hlt := hsound.waiting hw
      exact ⟨fun h => (by cases h),fun _ => hlt⟩
    | deferred hsending =>
      refine ⟨fun _ => ?_,fun hs => by cases hs⟩
      have hle := hsound.sending hsending
      simp only [SummaryDelivery.defer]
      split_ifs <;> omega
    | completed => exact .of_idle rfl (by simp [SummaryDelivery.complete])
    | failed =>
      obtain rfl := huse
      exact r.fail_sound _ _
    | retried => exact ⟨fun _ => hlimit,fun hsending => by cases hsending⟩

lemma Desk.unstuck_of_sound {desk : Desk} (hlimit : 1 ≤ limit ∧ limit ≤ 10)
    (hj : desk.jobs.All BackgroundJob.Sound)
    (hs : desk.summaryDeliveries.All (SummaryDelivery.Sound limit)) : desk.Unstuck limit where
  jobs := hj
  summaries id r hr := (hs id r hr).waiting
  job_claimable id r hr hp now kinds hdue hkind := by
    have hlt := (hj id r hr).pending hp
    rcases hkind with rfl | hkind
    · simp [BackgroundJob.claimable,hp,hdue,hlt]
    · simp [BackgroundJob.claimable,hp,hdue,hlt,hkind]
  summary_claimable id r hr hw now hdue := by
    have hlt := (hs id r hr).waiting hw
    have hall : r.nextAttemptAt.all (fun t => decide (t ≤ now))=true := by
      cases ht : r.nextAttemptAt with
      | none => rfl
      | some t => simpa using hdue t ht
    have hclamp : (max 1 (min (limit : ℤ) 10)).toNat=limit := by omega
    rw [hclamp]
    simp [SummaryDelivery.claimable,hw,hlt,hall]

end Summaries

/-- Nothing gets stuck exactly when no interrupted summary is recovered after its last
attempt. -/
theorem never_stuck_iff (p : Platform) {limit : ℕ} (hlimit : 1 ≤ limit ∧ limit ≤ 10)
    (requests : List Request) (huse : ∀ request ∈ requests, request.UsesLimit limit) :
    NeverStuck p limit requests ↔
      Each (Request.next p) (Request.RecoversWithin limit) requests {} := by
  constructor
  · intro h
    refine h.1.each.mono fun request desk hnext => ?_
    obtain ⟨host,call⟩ := request
    cases call with
    | recoverSummaries =>
      rintro ⟨id,r⟩ hrow
      obtain ⟨hr,hsending⟩ := Table.mem_select.mp hrow
      have hr' : (Request.next p ⟨host,.recoverSummaries⟩ desk).summaryDeliveries.find id=
          some (r.recover host.now) := by
        simp only [Request.next,DeskCall.commit,recoverSummaryDeliveries,Call.commit,
          Table.find_update]
        rw [hr,Option.map_some,if_pos hsending]
      exact hnext.summaries id (r.recover host.now) hr' rfl
    | _ => trivial
  · intro h
    have hstates := (h.and_mem huse).throughout
      (I:=fun desk => desk.jobs.All BackgroundJob.Sound ∧
        desk.summaryDeliveries.All (SummaryDelivery.Sound limit))
      ⟨Table.All.empty,Table.All.empty⟩ fun request desk hI ok =>
        ⟨request.jobs_sound p hI.1,Request.summaries_sound hlimit.1 ok.2 ok.1 hI.2⟩
    refine ⟨fun before rest hrequests => ?_,fun before host rest _ => ?_⟩
    · obtain ⟨hj,hs⟩ := hstates before rest hrequests
      exact Desk.unstuck_of_sound hlimit hj hs
    · rw [deskAfter,after_append]
      exact recoverJobs_expired p host _

/-- A summary worker that dies while it sends, and is recovered. -/
def interruptedSummary (limit : ℕ) : List Request :=
  [.enqueueSummary ⟨"2024-01-01","today","email","ana@example.org","scheduled",""⟩,
    .claimSummaries 10 limit,.recoverSummaries].map (⟨{},·⟩)

/-- With two attempts the summary is taken again. -/
theorem never_stuck_two_attempts :
    NeverStuck asciiPlatform 2 (interruptedSummary 2) :=
  (never_stuck_iff asciiPlatform ⟨by decide,by decide⟩ _ (by decide)).mpr (by decide)

/-- With one attempt it is not. -/
theorem interrupted_summary_stuck : ¬NeverStuck asciiPlatform 1 (interruptedSummary 1) := by
  intro h
  obtain ⟨r,hr,hw,hattempts⟩ : ∃ r,
      (deskAfter asciiPlatform (interruptedSummary 1)).summaryDeliveries.find 1=some r ∧
        r.waiting ∧ r.attempts=1 := ⟨_,rfl,rfl,rfl⟩
  have hlt := (h.1 (interruptedSummary 1) [] rfl).summaries 1 r hr hw
  omega

end ZenControl.Attention
