import ZenControl.Attention.Operations

/-! What the calls leave alone. Whatever happens to a notification stays within the
notifications and their two queues; whatever happens to an incident does not reach the
summaries and the background jobs. -/
namespace ZenControl.Attention
open Rows

/-- All tables but the notifications and their queues. -/
def Desk.others (desk : Desk) : Desk :=
  { desk with notifications := .empty, pushDeliveries := .empty, externalDeliveries := .empty }

/-- The tables of the work that does not come from a notification. -/
def Desk.background (desk : Desk) : Table SummaryDelivery × Table BackgroundJob :=
  (desk.summaryDeliveries,desk.jobs)

/-- The tables that a notification stands beside. -/
def Desk.beside (desk : Desk) :
    Table Incident × Table SummaryDelivery × Table BackgroundJob :=
  (desk.incidents,desk.background)

lemma Desk.beside_eq {desk desk' : Desk} (h : desk'.others=desk.others) :
    desk'.beside=desk.beside := by
  have hb := congrArg Desk.beside h
  exact hb

lemma Desk.background_eq {desk desk' : Desk} (h : desk'.others=desk.others) :
    desk'.background=desk.background := congrArg Prod.snd (beside_eq h)

lemma Desk.incidents_eq {desk desk' : Desk} (h : desk'.others=desk.others) :
    desk'.incidents=desk.incidents := congrArg Prod.fst (beside_eq h)

lemma Desk.summaries_eq {desk desk' : Desk} (h : desk'.others=desk.others) :
    desk'.summaryDeliveries=desk.summaryDeliveries := congrArg Prod.fst (background_eq h)

lemma Desk.jobs_eq {desk desk' : Desk} (h : desk'.others=desk.others) :
    desk'.jobs=desk.jobs := congrArg Prod.snd (background_eq h)

lemma Desk.retentionDays_eq {desk desk' : Desk} (h : desk'.others=desk.others) :
    desk'.retentionDays=desk.retentionDays := by
  have hdays := congrArg Desk.retentionDays h
  exact hdays

section Notifications
variable (p : Platform) (host : Host)

@[simp] lemma queueNotificationPush_others (kind : DeliveryKind) (id : ℕ) (row : Notification)
    (desk : Desk) : (queueNotificationPush p host kind id row desk).others=desk.others := by
  unfold queueNotificationPush
  split_ifs <;> rfl

@[simp] lemma queueNotificationExternal_others (kind : DeliveryKind) (id : ℕ)
    (row : Notification) (desk : Desk) :
    (queueNotificationExternal p host kind id row desk).others=desk.others := by
  unfold queueNotificationExternal
  split_ifs <;> rfl

@[simp] lemma queueNotification_others (kind : DeliveryKind) (id : ℕ) (row : Notification)
    (desk : Desk) : (queueNotification p host kind id row desk).others=desk.others := by
  simp only [queueNotification,queueNotificationExternal_others,queueNotificationPush_others]

@[simp] lemma cancelDeliveriesFor_others (id : ℕ) (pushReason externalReason : String)
    (desk : Desk) :
    (cancelDeliveriesFor host id pushReason externalReason desk).others=desk.others := rfl

lemma upsertNormalized_others (args : NotificationArgs) (desk : Desk) :
    (upsertNormalized p host args desk).desk.others=desk.others := by
  unfold upsertNormalized
  split
  all_goals
    dsimp only
    split_ifs
    · rw [queueNotification_others]; rfl
    · rfl

lemma upsertNotificationDb_others {args : NotificationArgs} {desk : Desk} {upsert : Upsert}
    (h : upsertNotificationDb p host args desk=.ok upsert) :
    upsert.desk.others=desk.others := by
  unfold upsertNotificationDb at h
  split_ifs at h
  cases h
  exact upsertNormalized_others p host _ desk

lemma resolveNotificationDb_others (key actor resolution : String) (desk : Desk) :
    (resolveNotificationDb host key actor resolution desk).others=desk.others := by
  unfold resolveNotificationDb
  split <;> rfl

lemma notificationTransition_others (id : ℕ) (state : NotificationState) (actor : String)
    (desk : Desk) :
    ((notificationTransition host id state actor desk).commit desk).others=desk.others := by
  unfold notificationTransition
  dsimp only
  split_ifs
  · rfl
  · split <;> rfl

lemma markAllNotificationsRead_others (actor : String) (desk : Desk) :
    ((markAllNotificationsRead host actor desk).commit desk).others=desk.others := by
  have hfold (rows : List (ℕ × Notification)) (d : Desk) :
      (rows.foldl (fun desk r =>
        cancelDeliveriesFor host r.1 "Notification marked read before push delivery"
          "Notification marked read before external delivery" desk) d).others=d.others := by
    induction rows generalizing d with
    | nil => rfl
    | cons r rows ih => exact ih _
  exact hfold _ _

lemma evaluateOne_others (now : ℤ) (settings : IntelligenceSettings) (r : ℕ × Notification)
    (state : Evaluation × Desk) :
    (evaluateOne p host now settings r state).2.others=state.2.others := by
  obtain ⟨result,desk⟩ := state
  unfold evaluateOne
  dsimp only
  split
  · rfl
  · dsimp only
    split
    · rfl
    · rw [queueNotification_others]; rfl

lemma evaluateEach_others (now : ℤ) (settings : IntelligenceSettings)
    (rows : List (ℕ × Notification)) (state : Evaluation × Desk) :
    (rows.foldl (fun state r => evaluateOne p host now settings r state) state).2.others=
      state.2.others := by
  induction rows generalizing state with
  | nil => rfl
  | cons r rows ih => exact (ih _).trans (evaluateOne_others p host now settings r state)

lemma evaluateNotificationIntelligence_others (now : Option ℤ) (desk : Desk) :
    ((evaluateNotificationIntelligence p host now desk).commit desk).others=desk.others := by
  unfold evaluateNotificationIntelligence
  split_ifs
  · rfl
  · exact evaluateEach_others p host _ _ _ ({},desk)

lemma syncIncidentNotification_others {id : ℕ} {incident : Incident}
    {action : IncidentAction} {actor : String} {desk desk' : Desk}
    (h : syncIncidentNotification p host id incident action actor desk=.ok desk') :
    desk'.others=desk.others := by
  unfold syncIncidentNotification at h
  dsimp only at h
  split at h
  · split at h
    · cases h
    · rename_i upsert hu
      cases h
      rw [← upsertNotificationDb_others p host hu]
      split_ifs <;> rfl
  split at h
  · split at h
    · cases h
    · rename_i upsert hu
      cases h
      exact upsertNotificationDb_others p host hu
  · cases h
    rfl

end Notifications

section Incidents
variable (p : Platform) (host : Host)

lemma sightIncident_background {args : IncidentArgs} {desk desk' : Desk}
    {reply : IncidentReply} (h : sightIncident p host args desk=.ok (reply,desk')) :
    desk'.background=desk.background := by
  unfold sightIncident at h
  dsimp only at h
  split at h
  all_goals
    split at h
    · cases h
    · rename_i hsync
      cases h
      exact (Desk.background_eq (syncIncidentNotification_others p host hsync)).trans rfl

lemma upsertIncident_background (args : IncidentArgs) (desk : Desk) :
    ((upsertIncident p host args desk).commit desk).background=desk.background := by
  unfold upsertIncident
  split_ifs
  · rfl
  · split
    · rfl
    · rename_i hs
      have hb := sightIncident_background p host hs
      exact hb

lemma acknowledgeIncident_background (id : ℕ) (actor : String) (desk : Desk) :
    ((acknowledgeIncident host id actor desk).commit desk).background=desk.background := by
  unfold acknowledgeIncident
  dsimp only
  split
  · rfl
  · split_ifs
    · rfl
    · simp only [Call.commit]
      split <;> rfl

lemma resolveIncident_background (id : ℕ) (actor resolution : String) (suppress : Bool)
    (desk : Desk) :
    ((resolveIncident host id actor resolution suppress desk).commit desk).background=
      desk.background := by
  unfold resolveIncident
  dsimp only
  split
  · rfl
  · exact (Desk.background_eq (resolveNotificationDb_others host _ _ _ _)).trans rfl

lemma clearIncident_background (actor : String) (r : ℕ × Incident) (desk : Desk) :
    (clearIncident host actor r desk).background=desk.background := by
  unfold clearIncident
  split_ifs
  · exact (Desk.background_eq (resolveNotificationDb_others host _ _ _ _)).trans rfl
  · rfl
  · rfl

lemma resolveInactiveIncidents_background (source : String) (active : List String)
    (actor : String) (desk : Desk) :
    ((resolveInactiveIncidents host source active actor desk).commit desk).background=
      desk.background := by
  have hfold (rows : List (ℕ × Incident)) (d : Desk) :
      (rows.foldl (fun desk r => clearIncident host actor r desk) d).background=
        d.background := by
    induction rows generalizing d with
    | nil => rfl
    | cons r rows ih => exact (ih _).trans (clearIncident_background host actor r d)
  unfold resolveInactiveIncidents
  dsimp only
  split_ifs
  · rfl
  · exact hfold _ _

end Incidents

section Calls
variable (p : Platform) (host : Host)

/-- The calls on the summaries. -/
def DeskCall.onSummaries : DeskCall → Bool
  | enqueueSummary _ | updateSummaryDestination _ _ | cancelSummary _ _
  | cancelDisabledSummaries _ _ | recoverSummaries | claimSummaries _ _ | deferSummary _ _ _
  | completeSummary _ | failSummary _ _ _ | retrySummary _ | pruneSummaries _ => true
  | _ => false

/-- The calls on the background jobs. -/
def DeskCall.onJobs : DeskCall → Bool
  | enqueueJob _ | dispatchOutbox _ | recoverJobs | claimJob _ _ _ _ | completeJob _ _ _
  | failJob _ _ _ _ | deferJob _ _ _ _ _ | pruneJobs _ _ => true
  | _ => false

/-- The calls on the incidents. -/
def DeskCall.onIncidents : DeskCall → Bool
  | upsertIncident _ | acknowledgeIncident _ _ | resolveIncident _ _ _ _
  | resolveInactive _ _ _ => true
  | _ => false

/-- A summary call writes the summaries. -/
lemma DeskCall.commit_onSummaries {call : DeskCall} (h : call.onSummaries) (desk : Desk) :
    ∃ t, call.commit p host desk={ desk with summaryDeliveries := t } := by
  have reply (id : ℕ) (t : Table SummaryDelivery) :
      ∃ t', (replySummary id { desk with summaryDeliveries := t }).commit desk=
        { desk with summaryDeliveries := t' } := by
    unfold replySummary
    split
    · exact ⟨_,rfl⟩
    · exact ⟨_,rfl⟩
  cases call with
  | enqueueSummary args =>
    simp only [commit,enqueueSummaryDelivery]
    split_ifs
    · exact ⟨_,rfl⟩
    · split
      all_goals exact ⟨_,rfl⟩
    · split
      · exact ⟨_,rfl⟩
      · exact ⟨_,rfl⟩
      · exact ⟨_,rfl⟩
      · split
        all_goals exact ⟨_,rfl⟩
  | updateSummaryDestination id destination =>
    simp only [commit,updateSummaryDeliveryDestination]
    split_ifs
    · exact ⟨_,rfl⟩
    · exact reply _ _
  | cancelDisabledSummaries | recoverSummaries | claimSummaries | pruneSummaries =>
    exact ⟨_,rfl⟩
  | cancelSummary id reason => exact reply _ _
  | deferSummary id error delaySeconds => exact reply _ _
  | completeSummary id => exact reply _ _
  | failSummary id error retryLimit => exact reply _ _
  | retrySummary id =>
    simp only [commit,retrySummaryDelivery]
    split
    · exact ⟨_,rfl⟩
    · split_ifs
      · exact ⟨_,rfl⟩
      · exact reply _ _
  | _ => cases h

/-- A job call writes the jobs, and the notification of a job. -/
lemma DeskCall.commit_onJobs {call : DeskCall} (h : call.onJobs) (desk : Desk) :
    ∃ t, (call.commit p host desk).others=({ desk with jobs := t } : Desk).others := by
  cases call with
  | enqueueJob args =>
    simp only [commit,enqueueBackgroundJob]
    split_ifs
    all_goals exact ⟨_,rfl⟩
  | dispatchOutbox | recoverJobs | pruneJobs => exact ⟨_,rfl⟩
  | claimJob workerName leaseSeconds kinds token =>
    simp only [commit,claimBackgroundJob]
    split
    all_goals exact ⟨_,rfl⟩
  | completeJob id owner token =>
    simp only [commit,completeBackgroundJob]
    split
    · exact ⟨_,rfl⟩
    · exact ⟨_,resolveNotificationDb_others host _ _ _ _⟩
  | failJob id owner token error =>
    simp only [commit,failBackgroundJob]
    split
    · exact ⟨_,rfl⟩
    · split_ifs
      · split
        · exact ⟨_,rfl⟩
        · rename_i hu
          exact ⟨_,upsertNotificationDb_others p host hu⟩
      · exact ⟨_,rfl⟩
  | deferJob id owner token delaySeconds reason =>
    simp only [commit,deferBackgroundJob]
    split
    all_goals exact ⟨_,rfl⟩
  | _ => cases h

/-- No other call reaches the incidents, the summaries and the jobs. -/
theorem DeskCall.commit_beside {call : DeskCall} (hi : call.onIncidents=false)
    (hs : call.onSummaries=false) (hj : call.onJobs=false) (desk : Desk) :
    (call.commit p host desk).beside=desk.beside := by
  cases call with
  | enqueueSummary | updateSummaryDestination | cancelSummary | cancelDisabledSummaries
  | recoverSummaries | claimSummaries | deferSummary | completeSummary | failSummary
  | retrySummary | pruneSummaries => cases hs
  | enqueueJob | dispatchOutbox | recoverJobs | claimJob | completeJob | failJob | deferJob
  | pruneJobs => cases hj
  | upsertIncident | acknowledgeIncident | resolveIncident | resolveInactive => cases hi
  | registerPush username endpoint p256dh auth =>
    simp only [commit,registerPushSubscription]
    split_ifs
    all_goals rfl
  | disablePush username endpoint =>
    simp only [commit,disablePushSubscription]
    split <;> rfl
  | testPush milliseconds username =>
    simp only [commit,enqueueNotificationPushTest]
    split_ifs
    · rfl
    · rfl
    · split <;> rfl
  | recoverPush | claimPush => rfl
  | completePush id =>
    simp only [commit,completeNotificationPushDelivery]
    split <;> rfl
  | failPush id error disableSubscription =>
    simp only [commit,failNotificationPushDelivery]
    split <;> rfl
  | cancelPush id reason => rfl
  | saveExternalSettings enabled name url =>
    simp only [commit,saveNotificationExternalDeliverySettings]
    split
    · rfl
    · split_ifs <;> rfl
  | retireWebhook reason => rfl
  | testExternal milliseconds channel =>
    simp only [commit,enqueueNotificationExternalTest]
    split_ifs
    all_goals rfl
  | recoverExternal | claimExternal => rfl
  | completeExternal id =>
    simp only [commit,completeNotificationExternalDelivery]
    split <;> rfl
  | failExternal id error retryable httpStatus =>
    simp only [commit,failNotificationExternalDelivery]
    split <;> rfl
  | upsertNotification args =>
    simp only [commit,Attention.upsertNotification]
    split
    · rfl
    · rename_i hu
      exact Desk.beside_eq (upsertNotificationDb_others p host hu)
  | resolveNotification dedupeKey actor resolution =>
    exact Desk.beside_eq (resolveNotificationDb_others host dedupeKey actor resolution desk)
  | markRead id actor =>
    exact Desk.beside_eq (notificationTransition_others host id .read actor desk)
  | acknowledge id actor =>
    exact Desk.beside_eq (notificationTransition_others host id .acknowledged actor desk)
  | dismiss id actor =>
    exact Desk.beside_eq (notificationTransition_others host id .dismissed actor desk)
  | markAllRead actor =>
    exact Desk.beside_eq (markAllNotificationsRead_others host actor desk)
  | evaluate now =>
    exact Desk.beside_eq (evaluateNotificationIntelligence_others p host now desk)
  | savePreferences preferences => rfl
  | saveIntelligence settings => rfl
  | saveIncidentRetention days => rfl

/-- Only the incident calls write the incidents. -/
theorem DeskCall.commit_incidents {call : DeskCall} (hi : call.onIncidents=false)
    (desk : Desk) : (call.commit p host desk).incidents=desk.incidents := by
  cases hs : call.onSummaries with
  | true =>
    obtain ⟨t,ht⟩ := commit_onSummaries p host hs desk
    rw [ht]
  | false =>
    cases hj : call.onJobs with
    | true =>
      obtain ⟨t,ht⟩ := commit_onJobs p host hj desk
      exact congrArg Prod.fst (Desk.beside_eq ht)
    | false => exact congrArg Prod.fst (commit_beside p host hi hs hj desk)

/-- No other call reaches the summaries and the jobs. -/
theorem DeskCall.commit_background {call : DeskCall} (hs : call.onSummaries=false)
    (hj : call.onJobs=false) (desk : Desk) :
    (call.commit p host desk).background=desk.background := by
  cases hi : call.onIncidents with
  | false => exact congrArg Prod.snd (commit_beside p host hi hs hj desk)
  | true =>
    cases call with
    | upsertIncident args => exact upsertIncident_background p host args desk
    | acknowledgeIncident id actor => exact acknowledgeIncident_background host id actor desk
    | resolveIncident id actor resolution suppressUntilClear =>
      exact resolveIncident_background host id actor resolution suppressUntilClear desk
    | resolveInactive source active actor =>
      exact resolveInactiveIncidents_background host source active actor desk
    | _ => cases hi

/-- Only the summary calls write the summaries. -/
lemma DeskCall.commit_summaries {call : DeskCall} (hs : call.onSummaries=false) (desk : Desk) :
    (call.commit p host desk).summaryDeliveries=desk.summaryDeliveries := by
  cases hj : call.onJobs with
  | false => exact congrArg Prod.fst (commit_background p host hs hj desk)
  | true =>
    obtain ⟨t,ht⟩ := commit_onJobs p host hj desk
    exact (Desk.summaries_eq ht).trans rfl

/-- Only the job calls write the jobs. -/
lemma DeskCall.commit_jobs {call : DeskCall} (hj : call.onJobs=false) (desk : Desk) :
    (call.commit p host desk).jobs=desk.jobs := by
  cases hs : call.onSummaries with
  | false => exact congrArg Prod.snd (commit_background p host hs hj desk)
  | true =>
    obtain ⟨t,ht⟩ := commit_onSummaries p host hs desk
    rw [ht]

end Calls
end ZenControl.Attention
