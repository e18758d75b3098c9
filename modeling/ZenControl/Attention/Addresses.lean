import ZenControl.Attention.Requeueing

/-! Where external deliveries go. A call that is not one of the settings, of a test or of the
external worker cancels rows of the queue and adds rows for the targets that are configured; it
never changes where a row goes, nor the settings. -/
namespace ZenControl.Attention
open Rows

/-- What the store does to the external queue outside its worker, as the two operations it is
made of. -/
inductive Rewrites (p : Platform) : Desk → Desk → Prop
  | same {desk desk' : Desk} (queue : desk'.externalDeliveries=desk.externalDeliveries)
      (webhook : desk'.webhook=desk.webhook) : Rewrites p desk desk'
  | cancel (host : Host) (id : ℕ) (reason : String) (desk : Desk) :
      Rewrites p desk (cancelExternalFor host id reason desk)
  | queue (host : Host) (kind : DeliveryKind) (id : ℕ) (row : Notification) (desk : Desk) :
      Rewrites p desk (queueNotificationExternal p host kind id row desk)
  | trans {a b c : Desk} (h : Rewrites p a b) (h' : Rewrites p b c) : Rewrites p a c

namespace Rewrites
variable {p : Platform}

lemma refl (desk : Desk) : Rewrites p desk desk := .same rfl rfl

lemma after {a b c : Desk} (h : Rewrites p b c) (queue : b.externalDeliveries=a.externalDeliveries)
    (webhook : b.webhook=a.webhook) : Rewrites p a c := (same queue webhook).trans h

lemma foldl {β : Type} {f : Desk → β → Desk} (hf : ∀ d b, Rewrites p d (f d b)) (bs : List β)
    (d : Desk) : Rewrites p d (bs.foldl f d) := by
  induction bs generalizing d with
  | nil => exact refl d
  | cons b bs ih => exact (hf d b).trans (ih _)

end Rewrites

section Effects
variable (p : Platform) (host : Host)

lemma cancelDeliveriesFor_rewrites (id : ℕ) (pushReason externalReason : String) (desk : Desk) :
    Rewrites p desk (cancelDeliveriesFor host id pushReason externalReason desk) :=
  (Rewrites.cancel host id externalReason (cancelPushFor host id pushReason desk)).after rfl rfl

lemma queueNotification_rewrites (kind : DeliveryKind) (id : ℕ) (row : Notification)
    (desk : Desk) : Rewrites p desk (queueNotification p host kind id row desk) := by
  refine (Rewrites.queue host kind id row (queueNotificationPush p host kind id row desk)).after
    ?_ ?_
  · rw [queueNotificationPush_frame]
  · rw [queueNotificationPush_frame]

lemma resolveNotificationDb_rewrites (key actor resolution : String) (desk : Desk) :
    Rewrites p desk (resolveNotificationDb host key actor resolution desk) := by
  unfold resolveNotificationDb
  split
  · exact .refl desk
  · exact (cancelDeliveriesFor_rewrites p host _ _ _ _).after rfl rfl

lemma notificationTransition_rewrites (id : ℕ) (state : NotificationState) (actor : String)
    (desk : Desk) :
    Rewrites p desk ((notificationTransition host id state actor desk).commit desk) := by
  unfold notificationTransition
  dsimp only
  split_ifs
  · exact .refl desk
  · split
    · exact .refl desk
    · exact (cancelDeliveriesFor_rewrites p host _ _ _ _).after rfl rfl

lemma markAllNotificationsRead_rewrites (actor : String) (desk : Desk) :
    Rewrites p desk ((markAllNotificationsRead host actor desk).commit desk) := by
  have hfold (rows : List (ℕ × Notification)) (d : Desk) : Rewrites p d
      (rows.foldl (fun desk r =>
        cancelDeliveriesFor host r.1 "Notification marked read before push delivery"
          "Notification marked read before external delivery" desk) d) :=
    .foldl (fun d r => cancelDeliveriesFor_rewrites p host r.1 _ _ d) rows d
  exact (hfold _ _).after rfl rfl

lemma upsertNormalized_rewrites (args : NotificationArgs) (desk : Desk) :
    Rewrites p desk (upsertNormalized p host args desk).desk := by
  unfold upsertNormalized
  split
  all_goals
    dsimp only
    split_ifs
    · exact (queueNotification_rewrites p host _ _ _ _).after rfl rfl
    · exact .same rfl rfl

lemma upsertNotificationDb_rewrites {args : NotificationArgs} {desk : Desk} {upsert : Upsert}
    (h : upsertNotificationDb p host args desk=.ok upsert) : Rewrites p desk upsert.desk := by
  unfold upsertNotificationDb at h
  split_ifs at h
  cases h
  exact upsertNormalized_rewrites p host _ desk

lemma evaluateOne_rewrites (now : ℤ) (settings : IntelligenceSettings) (r : ℕ × Notification)
    (state : Evaluation × Desk) :
    Rewrites p state.2 (evaluateOne p host now settings r state).2 := by
  obtain ⟨result,desk⟩ := state
  unfold evaluateOne
  dsimp only
  split
  · exact .refl desk
  · have hcancel : Rewrites p desk (cancelDeliveriesFor host r.1
        "Notification escalated; superseded pending delivery"
        "Notification escalated; superseded pending delivery"
        { desk with
          notifications := desk.notifications.modify r.1
            (.escalate now (reasonText (r.2.escalationReasons settings now))) }) :=
      (cancelDeliveriesFor_rewrites p host _ _ _ _).after rfl rfl
    refine hcancel.trans ?_
    split
    · exact .refl _
    · exact queueNotification_rewrites p host _ _ _ _

lemma evaluateNotificationIntelligence_rewrites (now : Option ℤ) (desk : Desk) :
    Rewrites p desk ((evaluateNotificationIntelligence p host now desk).commit desk) := by
  have heach (settings : IntelligenceSettings) (now : ℤ) (rows : List (ℕ × Notification))
      (state : Evaluation × Desk) : Rewrites p state.2
        (rows.foldl (fun state r => evaluateOne p host now settings r state) state).2 := by
    induction rows generalizing state with
    | nil => exact .refl _
    | cons r rows ih => exact (evaluateOne_rewrites p host now settings r state).trans (ih _)
  unfold evaluateNotificationIntelligence
  split_ifs
  · exact .refl desk
  · exact heach _ _ _ ({},desk)

lemma syncIncidentNotification_rewrites {id : ℕ} {incident : Incident}
    {action : IncidentAction} {actor : String} {desk desk' : Desk}
    (h : syncIncidentNotification p host id incident action actor desk=.ok desk') :
    Rewrites p desk desk' := by
  unfold syncIncidentNotification at h
  dsimp only at h
  split at h
  · split at h
    · cases h
    · rename_i upsert hu
      cases h
      refine (upsertNotificationDb_rewrites p host hu).trans ?_
      split_ifs
      · exact .same rfl rfl
      · exact .refl _
  split at h
  · split at h
    · cases h
    · rename_i upsert hu
      cases h
      exact upsertNotificationDb_rewrites p host hu
  · cases h
    exact .refl desk

lemma upsertIncident_rewrites (args : IncidentArgs) (desk : Desk) :
    Rewrites p desk ((upsertIncident p host args desk).commit desk) := by
  have hsight {args : IncidentArgs} {desk' : Desk} {reply : IncidentReply}
      (h : sightIncident p host args desk=.ok (reply,desk')) : Rewrites p desk desk' := by
    unfold sightIncident at h
    dsimp only at h
    split at h
    all_goals
      split at h
      · cases h
      · rename_i hsync
        cases h
        exact (syncIncidentNotification_rewrites p host hsync).after rfl rfl
  unfold upsertIncident
  split_ifs
  · exact .refl desk
  · split
    · exact .refl desk
    · rename_i hs
      exact (hsight hs).trans (.same rfl rfl)

lemma acknowledgeIncident_rewrites (id : ℕ) (actor : String) (desk : Desk) :
    Rewrites p desk ((acknowledgeIncident host id actor desk).commit desk) := by
  unfold acknowledgeIncident
  dsimp only
  split
  · exact .refl desk
  · split_ifs
    · exact .refl desk
    · simp only [Call.commit]
      split
      · exact .same rfl rfl
      · exact (cancelDeliveriesFor_rewrites p host _ _ _ _).after rfl rfl

lemma resolveIncident_rewrites (id : ℕ) (actor resolution : String) (suppress : Bool)
    (desk : Desk) :
    Rewrites p desk ((resolveIncident host id actor resolution suppress desk).commit desk) := by
  unfold resolveIncident
  dsimp only
  split
  · exact .refl desk
  · exact (resolveNotificationDb_rewrites p host _ _ _ _).after rfl rfl

lemma resolveInactiveIncidents_rewrites (source : String) (active : List String)
    (actor : String) (desk : Desk) :
    Rewrites p desk ((resolveInactiveIncidents host source active actor desk).commit desk) := by
  have hclear (d : Desk) (r : ℕ × Incident) : Rewrites p d (clearIncident host actor r d) := by
    unfold clearIncident
    split_ifs
    · exact (resolveNotificationDb_rewrites p host _ _ _ _).after rfl rfl
    · exact .same rfl rfl
    · exact .refl d
  unfold resolveInactiveIncidents
  dsimp only
  split_ifs
  · exact .refl desk
  · exact .foldl hclear _ _

lemma completeBackgroundJob_rewrites (id : ℕ) (owner token : String) (desk : Desk) :
    Rewrites p desk ((completeBackgroundJob host id owner token desk).commit desk) := by
  unfold completeBackgroundJob
  split
  · exact .refl desk
  · exact (resolveNotificationDb_rewrites p host _ _ _ _).after rfl rfl

lemma failBackgroundJob_rewrites (id : ℕ) (owner token error : String) (desk : Desk) :
    Rewrites p desk ((failBackgroundJob p host id owner token error desk).commit desk) := by
  unfold failBackgroundJob
  dsimp only
  split
  · exact .refl desk
  · split_ifs
    · split
      · exact .refl desk
      · rename_i hu
        exact (upsertNotificationDb_rewrites p host hu).after rfl rfl
    · exact .same rfl rfl

end Effects

/-- The calls of the external settings, of their tests and of their worker. -/
def DeskCall.external : DeskCall → Bool
  | saveExternalSettings _ _ _ | retireWebhook _ | testExternal _ _ | recoverExternal
  | claimExternal _ | completeExternal _ | failExternal _ _ _ _ => true
  | _ => false

/-- What all other calls do to the external queue. -/
theorem DeskCall.commit_rewrites (p : Platform) (host : Host) {call : DeskCall}
    (h : call.external=false) (desk : Desk) : Rewrites p desk (call.commit p host desk) := by
  cases hs : call.onSummaries with
  | true =>
    obtain ⟨t,ht⟩ := commit_onSummaries p host hs desk
    rw [ht]
    exact .same rfl rfl
  | false =>
  cases call with
  | saveExternalSettings | retireWebhook | testExternal | recoverExternal | claimExternal
  | completeExternal | failExternal => cases h
  | enqueueSummary | updateSummaryDestination | cancelSummary | cancelDisabledSummaries
  | recoverSummaries | claimSummaries | deferSummary | completeSummary | failSummary
  | retrySummary | pruneSummaries => cases hs
  | upsertNotification args =>
    simp only [commit,Attention.upsertNotification]
    split
    · exact .refl desk
    · rename_i hu
      exact upsertNotificationDb_rewrites p host hu
  | evaluate now => exact evaluateNotificationIntelligence_rewrites p host now desk
  | upsertIncident args => exact upsertIncident_rewrites p host args desk
  | failJob id owner token error => exact failBackgroundJob_rewrites p host id owner token error desk
  | recoverPush | claimPush => exact .same rfl rfl
  | completePush id =>
    simp only [commit,completeNotificationPushDelivery]
    split
    all_goals exact .same rfl rfl
  | failPush id error disableSubscription =>
    simp only [commit,failNotificationPushDelivery]
    split
    all_goals exact .same rfl rfl
  | registerPush username endpoint p256dh auth =>
    simp only [commit,registerPushSubscription]
    split_ifs
    all_goals exact .same rfl rfl
  | disablePush username endpoint =>
    simp only [commit,disablePushSubscription]
    split
    all_goals exact .same rfl rfl
  | testPush milliseconds username =>
    simp only [commit,enqueueNotificationPushTest]
    split_ifs
    · exact .refl desk
    · exact .refl desk
    · split
      all_goals exact .same rfl rfl
  | cancelPush id reason => exact .same rfl rfl
  | resolveNotification dedupeKey actor resolution =>
    exact resolveNotificationDb_rewrites p host dedupeKey actor resolution desk
  | markRead id actor => exact notificationTransition_rewrites p host id .read actor desk
  | acknowledge id actor =>
    exact notificationTransition_rewrites p host id .acknowledged actor desk
  | dismiss id actor => exact notificationTransition_rewrites p host id .dismissed actor desk
  | markAllRead actor => exact markAllNotificationsRead_rewrites p host actor desk
  | acknowledgeIncident id actor => exact acknowledgeIncident_rewrites p host id actor desk
  | resolveIncident id actor resolution suppressUntilClear =>
    exact resolveIncident_rewrites p host id actor resolution suppressUntilClear desk
  | resolveInactive source active actor =>
    exact resolveInactiveIncidents_rewrites p host source active actor desk
  | enqueueJob args =>
    simp only [commit,enqueueBackgroundJob]
    split_ifs
    all_goals exact .same rfl rfl
  | dispatchOutbox | recoverJobs | pruneJobs => exact .same rfl rfl
  | claimJob workerName leaseSeconds kinds token =>
    simp only [commit,claimBackgroundJob]
    split
    all_goals exact .same rfl rfl
  | completeJob id owner token => exact completeBackgroundJob_rewrites p host id owner token desk
  | deferJob id owner token delaySeconds reason =>
    simp only [commit,deferBackgroundJob]
    split
    all_goals exact .same rfl rfl
  | savePreferences | saveIntelligence | saveIncidentRetention => exact .same rfl rfl

section Rows

/-- Two rows that go the same way. -/
structure ExternalDelivery.SameWay (r r' : ExternalDelivery) : Prop where
  channel : r'.channel=r.channel
  destination : r'.destination=r.destination

/-- A row that a worker may send, now or after a recovery. -/
def ExternalDelivery.Live (r : ExternalDelivery) : Prop := r.status.cancellable=true

/-- What becomes of the rows of the external queue: a row goes where it went, a dead row stays
dead, and new webhook rows go to the webhook that is configured. -/
structure Readdressed (desk desk' : Desk) : Prop where
  webhook : desk'.webhook=desk.webhook
  kept : ∀ {k r}, desk.externalDeliveries.find k=some r →
    ∃ r', desk'.externalDeliveries.find k=some r' ∧ r.SameWay r' ∧ (r'.Live → r.Live)
  fresh : ∀ {k r'}, desk.externalDeliveries.find k=none →
    desk'.externalDeliveries.find k=some r' → r'.channel=.webhook →
      desk.webhook.enabled ∧ r'.destination=strip desk.webhook.url

namespace Readdressed
variable {p : Platform} {desk desk' desk'' : Desk}

lemma of_eq (queue : desk'.externalDeliveries=desk.externalDeliveries)
    (webhook : desk'.webhook=desk.webhook) : Readdressed desk desk' where
  webhook := webhook
  kept h := ⟨_,by rw [queue]; exact h,⟨rfl,rfl⟩,id⟩
  fresh h h' := by
    rw [queue,h] at h'
    cases h'

lemma trans (h : Readdressed desk desk') (h' : Readdressed desk' desk'') :
    Readdressed desk desk'' where
  webhook := h'.webhook.trans h.webhook
  kept hr := by
    obtain ⟨r',hr',hway,hlive⟩ := h.kept hr
    obtain ⟨r'',hr'',hway',hlive'⟩ := h'.kept hr'
    exact ⟨r'',hr'',⟨hway'.channel.trans hway.channel,hway'.destination.trans hway.destination⟩,
      hlive ∘ hlive'⟩
  fresh {k r''} hk hr'' hchannel := by
    cases hk' : desk'.externalDeliveries.find k with
    | none =>
      have hfresh := h'.fresh hk' hr'' hchannel
      rwa [h.webhook] at hfresh
    | some r' =>
      obtain ⟨r,hr,hway,-⟩ := h'.kept hk'
      obtain rfl : r''=r := Option.some.inj (hr''.symm.trans hr)
      obtain ⟨henabled,hdestination⟩ := h.fresh hk hk' (hway.channel.symm.trans hchannel)
      exact ⟨henabled,hway.destination.trans hdestination⟩

/-- A row for each target that is configured. -/
lemma queue (host : Host) (kind : DeliveryKind) (id : ℕ) (row : Notification) (desk : Desk) :
    Readdressed desk (queueNotificationExternal p host kind id row desk) := by
  have hinsert (suppressed : Option String) (t : Table ExternalDelivery)
      (target : Channel × String) (htarget : target ∈ desk.externalTargets host) :
      Readdressed { desk with externalDeliveries := t } { desk with
        externalDeliveries := t.insertUnless
          (ExternalDelivery.queued p host id (max 1 row.occurrences) kind suppressed target).clashes
          (ExternalDelivery.queued p host id (max 1 row.occurrences) kind suppressed target) } := by
    unfold Table.insertUnless
    split_ifs
    · exact of_eq rfl rfl
    refine ⟨rfl,fun hr => ⟨_,Table.find_insert_of_find hr,⟨rfl,rfl⟩,fun h => h⟩,
      fun {k r'} hk hr' hchannel => ?_⟩
    rcases Table.find_insert_cases hr' with hold | ⟨-,rfl⟩
    · rw [hk] at hold
      cases hold
    · simp only [Desk.externalTargets,List.mem_append] at htarget
      rcases htarget with hemail | hwebhook
      · split_ifs at hemail
        · rw [List.mem_singleton.mp hemail] at hchannel
          cases hchannel
        · cases hemail
      · split_ifs at hwebhook with hset
        · rw [List.mem_singleton.mp hwebhook]
          exact ⟨hset.1,rfl⟩
        · cases hwebhook
  have hfold (suppressed : Option String) (targets : List (Channel × String))
      (htargets : ∀ target ∈ targets, target ∈ desk.externalTargets host)
      (t : Table ExternalDelivery) :
      Readdressed { desk with externalDeliveries := t } { desk with
        externalDeliveries := targets.foldl (fun t target => t.insertUnless
          (ExternalDelivery.queued p host id (max 1 row.occurrences) kind suppressed target).clashes
          (ExternalDelivery.queued p host id (max 1 row.occurrences) kind suppressed target)) t } := by
    induction targets generalizing t with
    | nil => exact of_eq rfl rfl
    | cons target targets ih =>
      exact (hinsert suppressed t target (htargets target List.mem_cons_self)).trans
        (ih (fun x hx => htargets x (List.mem_cons_of_mem _ hx)) _)
  unfold queueNotificationExternal
  split_ifs
  · exact of_eq rfl rfl
  · exact hfold _ _ (fun _ h => h) desk.externalDeliveries

lemma cancel (host : Host) (id : ℕ) (reason : String) (desk : Desk) :
    Readdressed desk (cancelExternalFor host id reason desk) where
  webhook := rfl
  kept {k r} hr := by
    refine ⟨_,by rw [cancelExternalFor,Table.find_update,hr]; rfl,?_⟩
    dsimp only
    split_ifs
    · exact ⟨⟨rfl,rfl⟩,fun h => by cases h⟩
    · exact ⟨⟨rfl,rfl⟩,fun h => h⟩
  fresh {k r'} hk hr' := by
    rw [cancelExternalFor,Table.find_update,hk] at hr'
    cases hr'

end Readdressed

theorem Rewrites.readdressed {p : Platform} {desk desk' : Desk} (h : Rewrites p desk desk') :
    Readdressed desk desk' := by
  induction h with
  | same queue webhook => exact .of_eq queue webhook
  | cancel host id reason desk => exact .cancel host id reason desk
  | queue host kind id row desk => exact .queue host kind id row desk
  | trans _ _ ih ih' => exact ih.trans ih'

end Rows
end ZenControl.Attention
