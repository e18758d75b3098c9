import ZenControl.Attention.Queues
import ZenControl.Attention.Frames

/-! What the calls do to the notifications and their delivery queues. Only the workers of a
queue do more to it than to add rows that were not tried yet and to cancel rows; only four
calls add a row that is not a test, and these are the calls that may raise a notification. -/
namespace ZenControl.Attention
open Rows

/-- What a call that raises nothing may make of a notification. -/
structure Touched (n n' : Notification) : Prop where
  dedupeKey : n'.dedupeKey=n.dedupeKey
  severity : n'.severity=n.severity
  sourceSeverity : n'.sourceSeverity=n.sourceSeverity
  firstSeenAt : n'.firstSeenAt=n.firstSeenAt
  occurrences : n'.occurrences=n.occurrences
  escalationLevel : n'.escalationLevel=n.escalationLevel
  reopenCount : n'.reopenCount=n.reopenCount
  resolved : n.resolvedAt.isSome → n'.resolvedAt.isSome

namespace Touched

@[refl] lemma refl (n : Notification) : Touched n n := ⟨rfl,rfl,rfl,rfl,rfl,rfl,rfl,id⟩

lemma trans {n n' n'' : Notification} (h : Touched n n') (h' : Touched n' n'') :
    Touched n n'' where
  dedupeKey := h'.dedupeKey.trans h.dedupeKey
  severity := h'.severity.trans h.severity
  sourceSeverity := h'.sourceSeverity.trans h.sourceSeverity
  firstSeenAt := h'.firstSeenAt.trans h.firstSeenAt
  occurrences := h'.occurrences.trans h.occurrences
  escalationLevel := h'.escalationLevel.trans h.escalationLevel
  reopenCount := h'.reopenCount.trans h.reopenCount
  resolved := h'.resolved ∘ h.resolved

lemma resolve (now : ℤ) (actor resolution : String) (n : Notification) :
    Touched n (n.resolve now actor resolution) := ⟨rfl,rfl,rfl,rfl,rfl,rfl,rfl,fun _ => rfl⟩

lemma transition (now : ℤ) (actor : String) (state : NotificationState) (n : Notification) :
    Touched n (n.transition now actor state) := by
  cases state <;> exact ⟨rfl,rfl,rfl,rfl,rfl,rfl,rfl,id⟩

lemma acknowledgedAs (incident : Incident) (actor : String) (now : ℤ) (n : Notification) :
    Touched n (n.acknowledgedAs incident actor now) := ⟨rfl,rfl,rfl,rfl,rfl,rfl,rfl,id⟩

end Touched

/-- Both queues of notifications were only added to and cancelled in. -/
structure Requeued (desk desk' : Desk) : Prop where
  push : Queued desk.pushDeliveries desk'.pushDeliveries
  external : Queued desk.externalDeliveries desk'.externalDeliveries

/-- No notification was raised, and none was added to a queue. -/
structure Hushed (desk desk' : Desk) : Prop where
  push : Muted desk.pushDeliveries desk'.pushDeliveries
  external : Muted desk.externalDeliveries desk'.externalDeliveries
  kept : ∀ {k n}, desk.notifications.find k=some n →
    ∃ n', desk'.notifications.find k=some n' ∧ Touched n n'
  fresh : ∀ {k}, desk.notifications.find k=none → desk'.notifications.find k=none

namespace Requeued

@[refl] lemma refl (desk : Desk) : Requeued desk desk := ⟨.refl _,.refl _⟩

lemma of_eq {desk desk' : Desk} (hp : desk'.pushDeliveries=desk.pushDeliveries)
    (he : desk'.externalDeliveries=desk.externalDeliveries) : Requeued desk desk' :=
  ⟨.of_eq hp,.of_eq he⟩

lemma trans {a b c : Desk} (h : Requeued a b) (h' : Requeued b c) : Requeued a c :=
  ⟨h.push.trans h'.push,h.external.trans h'.external⟩

/-- What was done before to the other tables does not matter. -/
lemma after {a b c : Desk} (h : Requeued b c) (hp : b.pushDeliveries=a.pushDeliveries)
    (he : b.externalDeliveries=a.externalDeliveries) : Requeued a c :=
  (of_eq hp he).trans h

end Requeued

namespace Hushed

lemma requeued {desk desk' : Desk} (h : Hushed desk desk') : Requeued desk desk' :=
  ⟨h.push.toQueued,h.external.toQueued⟩

@[refl] lemma refl (desk : Desk) : Hushed desk desk :=
  ⟨.refl _,.refl _,fun h => ⟨_,h,.refl _⟩,id⟩

lemma of_eq {desk desk' : Desk} (hn : desk'.notifications=desk.notifications)
    (hp : desk'.pushDeliveries=desk.pushDeliveries)
    (he : desk'.externalDeliveries=desk.externalDeliveries) : Hushed desk desk' where
  push := .of_eq hp
  external := .of_eq he
  kept h := ⟨_,by rw [hn]; exact h,.refl _⟩
  fresh h := by rw [hn]; exact h

lemma trans {a b c : Desk} (h : Hushed a b) (h' : Hushed b c) : Hushed a c where
  push := h.push.trans h'.push
  external := h.external.trans h'.external
  kept hk := by
    obtain ⟨n',hn',ht⟩ := h.kept hk
    obtain ⟨n'',hn'',ht'⟩ := h'.kept hn'
    exact ⟨n'',hn'',ht.trans ht'⟩
  fresh hk := h'.fresh (h.fresh hk)

/-- What was done before to the other tables does not matter. -/
lemma after {a b c : Desk} (h : Hushed b c) (hn : b.notifications=a.notifications)
    (hp : b.pushDeliveries=a.pushDeliveries)
    (he : b.externalDeliveries=a.externalDeliveries) : Hushed a c := (of_eq hn hp he).trans h

/-- An update of the notifications that raises nothing. -/
lemma touch {desk desk' : Desk} {p : ℕ → Notification → Bool}
    {f : Notification → Notification} (hf : ∀ n, Touched n (f n))
    (hn : desk'.notifications=desk.notifications.update p f)
    (hp : desk'.pushDeliveries=desk.pushDeliveries)
    (he : desk'.externalDeliveries=desk.externalDeliveries) : Hushed desk desk' where
  push := .of_eq hp
  external := .of_eq he
  kept {k n} h := by
    refine ⟨if p k n then f n else n,by rw [hn,Table.find_update,h]; rfl,?_⟩
    split_ifs
    · exact hf n
    · exact .refl n
  fresh h := by rw [hn,Table.find_update,h]; rfl

lemma afterTouch {a b c : Desk} (h : Hushed b c) {p : ℕ → Notification → Bool}
    {f : Notification → Notification} (hf : ∀ n, Touched n (f n))
    (hn : b.notifications=a.notifications.update p f)
    (hp : b.pushDeliveries=a.pushDeliveries)
    (he : b.externalDeliveries=a.externalDeliveries) : Hushed a c := (touch hf hn hp he).trans h

lemma afterModify {a b c : Desk} (h : Hushed b c) {i : ℕ} {f : Notification → Notification}
    (hf : ∀ n, Touched n (f n)) (hn : b.notifications=a.notifications.modify i f)
    (hp : b.pushDeliveries=a.pushDeliveries)
    (he : b.externalDeliveries=a.externalDeliveries) : Hushed a c := h.afterTouch hf hn hp he

lemma foldl {β : Type} {f : Desk → β → Desk} (hf : ∀ d b, Hushed d (f d b))
    (bs : List β) (d : Desk) : Hushed d (bs.foldl f d) := by
  induction bs generalizing d with
  | nil => exact refl d
  | cons b bs ih => exact (hf d b).trans (ih _)

end Hushed

section Effects
variable (p : Platform) (host : Host)

lemma queueNotificationPush_queued (kind : DeliveryKind) (id : ℕ) (row : Notification)
    (desk : Desk) : Queued desk.pushDeliveries
      (queueNotificationPush p host kind id row desk).pushDeliveries := by
  unfold queueNotificationPush
  split_ifs
  · exact .refl _
  · exact .foldl (fun t subscription => .insertUnless t ⟨rfl,Nat.succ_le_succ (Nat.zero_le 2)⟩) _ _

lemma Host.one_le_maxAttempts (host : Host) : 1 ≤ host.maxAttempts := by
  unfold maxAttempts
  omega

lemma queueNotificationExternal_queued (kind : DeliveryKind) (id : ℕ) (row : Notification)
    (desk : Desk) : Queued desk.externalDeliveries
      (queueNotificationExternal p host kind id row desk).externalDeliveries := by
  unfold queueNotificationExternal
  split_ifs
  · exact .refl _
  · exact .foldl (fun t target => .insertUnless t ⟨rfl,host.one_le_maxAttempts⟩) _ _

/-- Queueing a notification for push changes that queue only. -/
lemma queueNotificationPush_frame (kind : DeliveryKind) (id : ℕ) (row : Notification)
    (desk : Desk) : queueNotificationPush p host kind id row desk=
      { desk with
        pushDeliveries := (queueNotificationPush p host kind id row desk).pushDeliveries } := by
  unfold queueNotificationPush
  split_ifs <;> rfl

lemma queueNotificationExternal_frame (kind : DeliveryKind) (id : ℕ) (row : Notification)
    (desk : Desk) : queueNotificationExternal p host kind id row desk=
      { desk with
        externalDeliveries :=
          (queueNotificationExternal p host kind id row desk).externalDeliveries } := by
  unfold queueNotificationExternal
  split_ifs <;> rfl

lemma queueNotification_requeued (kind : DeliveryKind) (id : ℕ) (row : Notification)
    (desk : Desk) : Requeued desk (queueNotification p host kind id row desk) := by
  unfold queueNotification
  constructor
  · rw [queueNotificationExternal_frame]
    exact queueNotificationPush_queued p host kind id row desk
  · refine .trans (.of_eq ?_) (queueNotificationExternal_queued p host kind id row _)
    rw [queueNotificationPush_frame]

lemma cancelDeliveriesFor_hushed (id : ℕ) (pushReason externalReason : String)
    (desk : Desk) :
    Hushed desk (cancelDeliveriesFor host id pushReason externalReason desk) where
  push := Muted.update desk.pushDeliveries
    (p:=fun _ r => r.notificationId=id && r.status.cancellable)
    (fun _ _ h => (Bool.and_eq_true_iff.mp h).2) (PushDelivery.cancel_spec host.now _)
  external := Muted.update desk.externalDeliveries
    (p:=fun _ r => r.notificationId=id && r.status.cancellable)
    (fun _ _ h => (Bool.and_eq_true_iff.mp h).2) (ExternalDelivery.cancel_spec host.now _)
  kept h := ⟨_,h,.refl _⟩
  fresh h := h

lemma resolveNotificationDb_hushed (key actor resolution : String) (desk : Desk) :
    Hushed desk (resolveNotificationDb host key actor resolution desk) := by
  unfold resolveNotificationDb
  split
  · exact .refl desk
  · exact (cancelDeliveriesFor_hushed host _ _ _ _).afterModify
      (Touched.resolve host.now actor resolution) rfl rfl rfl

lemma notificationTransition_hushed (id : ℕ) (state : NotificationState) (actor : String)
    (desk : Desk) :
    Hushed desk ((notificationTransition host id state actor desk).commit desk) := by
  unfold notificationTransition
  dsimp only
  split_ifs
  · exact .refl desk
  · split
    · exact .refl desk
    · exact (cancelDeliveriesFor_hushed host _ _ _ _).afterModify
        (Touched.transition host.now _ state) rfl rfl rfl

lemma markAllNotificationsRead_hushed (actor : String) (desk : Desk) :
    Hushed desk ((markAllNotificationsRead host actor desk).commit desk) := by
  have hfold (rows : List (ℕ × Notification)) (d : Desk) : Hushed d
      (rows.foldl (fun desk r =>
        cancelDeliveriesFor host r.1 "Notification marked read before push delivery"
          "Notification marked read before external delivery" desk) d) :=
    .foldl (fun d r => cancelDeliveriesFor_hushed host r.1 _ _ d) rows d
  exact (hfold _ _).afterTouch (p:=fun _ r => r.state=.unread)
    (Touched.transition host.now (clip (strip (orElse actor "unknown")) 100) .read) rfl rfl rfl

lemma acknowledgeIncident_hushed (id : ℕ) (actor : String) (desk : Desk) :
    Hushed desk ((acknowledgeIncident host id actor desk).commit desk) := by
  unfold acknowledgeIncident
  dsimp only
  split
  · exact .refl desk
  · split_ifs
    · exact .refl desk
    · simp only [Call.commit]
      split
      · exact .of_eq rfl rfl rfl
      · exact (cancelDeliveriesFor_hushed host _ _ _ _).afterModify
          (Touched.transition host.now _ .acknowledged) rfl rfl rfl

lemma resolveIncident_hushed (id : ℕ) (actor resolution : String) (suppress : Bool)
    (desk : Desk) :
    Hushed desk ((resolveIncident host id actor resolution suppress desk).commit desk) := by
  unfold resolveIncident
  dsimp only
  split
  · exact .refl desk
  · exact (resolveNotificationDb_hushed host _ _ _ _).after rfl rfl rfl

lemma clearIncident_hushed (actor : String) (r : ℕ × Incident) (desk : Desk) :
    Hushed desk (clearIncident host actor r desk) := by
  unfold clearIncident
  split_ifs
  · exact (resolveNotificationDb_hushed host _ _ _ _).after rfl rfl rfl
  · exact .of_eq rfl rfl rfl
  · exact .refl desk

lemma resolveInactiveIncidents_hushed (source : String) (active : List String)
    (actor : String) (desk : Desk) :
    Hushed desk ((resolveInactiveIncidents host source active actor desk).commit desk) := by
  unfold resolveInactiveIncidents
  dsimp only
  split_ifs
  · exact .refl desk
  · exact .foldl (fun d r => clearIncident_hushed host actor r d) _ _

lemma completeBackgroundJob_hushed (id : ℕ) (owner token : String) (desk : Desk) :
    Hushed desk ((completeBackgroundJob host id owner token desk).commit desk) := by
  unfold completeBackgroundJob
  split
  · exact .refl desk
  · exact (resolveNotificationDb_hushed host _ _ _ _).after rfl rfl rfl

lemma disablePushSubscription_hushed (username endpoint : String) (desk : Desk) :
    Hushed desk ((disablePushSubscription host username endpoint desk).commit desk) := by
  unfold disablePushSubscription
  dsimp only
  split
  · exact .refl desk
  · rename_i id _ _
    refine ⟨?_,.refl _,fun h => ⟨_,h,.refl _⟩,fun h => h⟩
    exact Muted.update desk.pushDeliveries
      (p:=fun _ r => r.subscriptionId=id && r.status.cancellable)
      (fun _ _ h => (Bool.and_eq_true_iff.mp h).2) (PushDelivery.cancel_spec host.now _)

lemma insertPushTests_muted {now : ℤ} {occurrence : ℕ} {subscriptions ids : List ℕ}
    {t t' : Table PushDelivery}
    (h : insertPushTests now occurrence subscriptions t=.ok (ids,t')) : Muted t t' := by
  induction subscriptions generalizing t ids with
  | nil => cases h; exact .refl _
  | cons subscription subscriptions ih =>
    unfold insertPushTests at h
    dsimp only at h
    split_ifs at h
    split at h
    · cases h
    · rename_i hrest
      cases h
      exact (Muted.insert _ ⟨rfl,Nat.succ_le_succ (Nat.zero_le 2)⟩ rfl).trans (ih hrest)

lemma enqueueNotificationPushTest_hushed (milliseconds : ℕ) (username : String)
    (desk : Desk) :
    Hushed desk ((enqueueNotificationPushTest host milliseconds username desk).commit desk) := by
  unfold enqueueNotificationPushTest
  dsimp only
  split_ifs
  · exact .refl desk
  · exact .refl desk
  · split
    · exact .refl desk
    · rename_i ht
      exact ⟨insertPushTests_muted ht,.refl _,fun h => ⟨_,h,.refl _⟩,fun h => h⟩

lemma cancelNotificationPushDelivery_hushed (id : ℕ) (reason : String) (desk : Desk) :
    Hushed desk ((cancelNotificationPushDelivery host id reason desk).commit desk) := by
  refine ⟨?_,.refl _,fun h => ⟨_,h,.refl _⟩,fun h => h⟩
  exact Muted.update desk.pushDeliveries (p:=fun k r => k=id && r.status.cancellable)
    (fun _ _ h => (Bool.and_eq_true_iff.mp h).2) (PushDelivery.cancel_spec host.now _)

lemma saveNotificationExternalDeliverySettings_hushed (enabled : Bool) (name url : String)
    (desk : Desk) :
    Hushed desk
      ((saveNotificationExternalDeliverySettings p host enabled name url desk).commit desk) := by
  unfold saveNotificationExternalDeliverySettings
  dsimp only
  split
  · exact .refl desk
  · split_ifs
    · exact .refl desk
    · exact .of_eq rfl rfl rfl
    · refine ⟨.refl _,?_,fun h => ⟨_,h,.refl _⟩,fun h => h⟩
      exact Muted.update desk.externalDeliveries
        (p:=fun _ r => r.channel=.webhook && r.status.cancellable)
        (fun _ _ h => (Bool.and_eq_true_iff.mp h).2) (ExternalDelivery.cancel_spec host.now _)

lemma retireNotificationWebhook_hushed (reason : String) (desk : Desk) :
    Hushed desk ((retireNotificationWebhook host reason desk).commit desk) := by
  refine ⟨.refl _,?_,fun h => ⟨_,h,.refl _⟩,fun h => h⟩
  refine Muted.update desk.externalDeliveries
    (p:=fun _ r => r.channel=.webhook && r.status=.pending) (fun k r h => ?_)
    (ExternalDelivery.cancel_spec host.now _)
  have hs : r.status=.pending := by simpa using (Bool.and_eq_true_iff.mp h).2
  exact r.status.cancellable_iff.mpr (.inl hs)

lemma enqueueNotificationExternalTest_hushed (milliseconds : ℕ) (channel : String)
    (desk : Desk) :
    Hushed desk
      ((enqueueNotificationExternalTest p host milliseconds channel desk).commit desk) := by
  have htest {desk' : Desk} {t : Table ExternalDelivery}
      (h : Muted desk.externalDeliveries t) (hd : desk'={ desk with externalDeliveries := t }) :
      Hushed desk desk' := by
    rw [hd]
    exact ⟨.refl _,h,fun h => ⟨_,h,.refl _⟩,fun h => h⟩
  unfold enqueueNotificationExternalTest
  dsimp only
  split_ifs
  all_goals first
    | exact .refl desk
    | exact htest (.insert _ ⟨rfl,host.one_le_maxAttempts⟩ rfl) rfl

lemma upsertNormalized_requeued (args : NotificationArgs) (desk : Desk) :
    Requeued desk (upsertNormalized p host args desk).desk := by
  unfold upsertNormalized
  split
  · dsimp only
    split_ifs
    · exact (queueNotification_requeued p host _ _ _ _).after rfl rfl
    · exact .of_eq rfl rfl
  · dsimp only
    split_ifs
    · exact (queueNotification_requeued p host _ _ _ _).after rfl rfl
    · exact .of_eq rfl rfl

lemma upsertNotificationDb_requeued {args : NotificationArgs} {desk : Desk} {upsert : Upsert}
    (h : upsertNotificationDb p host args desk=.ok upsert) : Requeued desk upsert.desk := by
  unfold upsertNotificationDb at h
  split_ifs at h
  cases h
  exact upsertNormalized_requeued p host _ desk

lemma evaluateOne_requeued (now : ℤ) (settings : IntelligenceSettings) (r : ℕ × Notification)
    (state : Evaluation × Desk) :
    Requeued state.2 (evaluateOne p host now settings r state).2 := by
  obtain ⟨result,desk⟩ := state
  unfold evaluateOne
  dsimp only
  split
  · exact .refl desk
  · have hcancel : Requeued desk (cancelDeliveriesFor host r.1
        "Notification escalated; superseded pending delivery"
        "Notification escalated; superseded pending delivery"
        { desk with
          notifications := desk.notifications.modify r.1
            (.escalate now (reasonText (r.2.escalationReasons settings now))) }) :=
      (cancelDeliveriesFor_hushed host _ _ _ _).requeued.after rfl rfl
    refine hcancel.trans ?_
    split
    · exact .refl _
    · exact queueNotification_requeued p host _ _ _ _

lemma evaluateEach_requeued (now : ℤ) (settings : IntelligenceSettings)
    (rows : List (ℕ × Notification)) (state : Evaluation × Desk) :
    Requeued state.2
      (rows.foldl (fun state r => evaluateOne p host now settings r state) state).2 := by
  induction rows generalizing state with
  | nil => exact .refl _
  | cons r rows ih => exact (evaluateOne_requeued p host now settings r state).trans (ih _)

lemma evaluateNotificationIntelligence_requeued (now : Option ℤ) (desk : Desk) :
    Requeued desk ((evaluateNotificationIntelligence p host now desk).commit desk) := by
  unfold evaluateNotificationIntelligence
  split_ifs
  · exact .refl desk
  · exact evaluateEach_requeued p host _ _ _ ({},desk)

lemma syncIncidentNotification_requeued {id : ℕ} {incident : Incident}
    {action : IncidentAction} {actor : String} {desk desk' : Desk}
    (h : syncIncidentNotification p host id incident action actor desk=.ok desk') :
    Requeued desk desk' := by
  unfold syncIncidentNotification at h
  dsimp only at h
  split at h
  · split at h
    · cases h
    · rename_i upsert hu
      cases h
      split_ifs
      · exact (upsertNotificationDb_requeued p host hu).trans (.of_eq rfl rfl)
      · exact upsertNotificationDb_requeued p host hu
  split at h
  · split at h
    · cases h
    · rename_i upsert hu
      cases h
      exact upsertNotificationDb_requeued p host hu
  · cases h
    exact .refl desk

lemma sightIncident_requeued {args : IncidentArgs} {desk desk' : Desk} {reply : IncidentReply}
    (h : sightIncident p host args desk=.ok (reply,desk')) : Requeued desk desk' := by
  unfold sightIncident at h
  dsimp only at h
  split at h
  all_goals
    split at h
    · cases h
    · rename_i hsync
      cases h
      exact (syncIncidentNotification_requeued p host hsync).after rfl rfl

lemma upsertIncident_requeued (args : IncidentArgs) (desk : Desk) :
    Requeued desk ((upsertIncident p host args desk).commit desk) := by
  unfold upsertIncident
  split_ifs
  · exact .refl desk
  · split
    · exact .refl desk
    · rename_i hs
      exact (sightIncident_requeued p host hs).trans (.of_eq rfl rfl)

lemma failBackgroundJob_requeued (id : ℕ) (owner token error : String) (desk : Desk) :
    Requeued desk ((failBackgroundJob p host id owner token error desk).commit desk) := by
  unfold failBackgroundJob
  dsimp only
  split
  · exact .refl desk
  · split_ifs
    · split
      · exact .refl desk
      · rename_i hu
        exact (upsertNotificationDb_requeued p host hu).after rfl rfl
    · exact .of_eq rfl rfl

end Effects

/-- The calls that may raise a notification. -/
def DeskCall.raises : DeskCall → Bool
  | upsertNotification _ | evaluate _ | upsertIncident _ | failJob _ _ _ _ => true
  | _ => false

/-- All other calls, but for the workers of the two queues, raise nothing. -/
theorem DeskCall.commit_hushed (p : Platform) (host : Host) {call : DeskCall} {desk : Desk}
    (hr : call.raises=false) (hp : call.pushWork host desk=.other)
    (he : call.externalWork host desk=.other) : Hushed desk (call.commit p host desk) := by
  cases hs : call.onSummaries with
  | true =>
    obtain ⟨t,ht⟩ := commit_onSummaries p host hs desk
    rw [ht]
    exact .of_eq rfl rfl rfl
  | false =>
  cases call with
  | upsertNotification | evaluate | upsertIncident | failJob => cases hr
  | recoverPush | claimPush | completePush | failPush => cases hp
  | recoverExternal | claimExternal | completeExternal | failExternal => cases he
  | enqueueSummary | updateSummaryDestination | cancelSummary | cancelDisabledSummaries
  | recoverSummaries | claimSummaries | deferSummary | completeSummary | failSummary
  | retrySummary | pruneSummaries => cases hs
  | registerPush username endpoint p256dh auth =>
    simp only [commit,registerPushSubscription]
    split_ifs
    all_goals exact .of_eq rfl rfl rfl
  | disablePush username endpoint =>
    exact disablePushSubscription_hushed host username endpoint desk
  | testPush milliseconds username =>
    exact enqueueNotificationPushTest_hushed host milliseconds username desk
  | cancelPush id reason => exact cancelNotificationPushDelivery_hushed host id reason desk
  | saveExternalSettings enabled name url =>
    exact saveNotificationExternalDeliverySettings_hushed p host enabled name url desk
  | retireWebhook reason => exact retireNotificationWebhook_hushed host reason desk
  | testExternal milliseconds channel =>
    exact enqueueNotificationExternalTest_hushed p host milliseconds channel desk
  | resolveNotification dedupeKey actor resolution =>
    exact resolveNotificationDb_hushed host dedupeKey actor resolution desk
  | markRead id actor => exact notificationTransition_hushed host id .read actor desk
  | acknowledge id actor =>
    exact notificationTransition_hushed host id .acknowledged actor desk
  | dismiss id actor => exact notificationTransition_hushed host id .dismissed actor desk
  | markAllRead actor => exact markAllNotificationsRead_hushed host actor desk
  | acknowledgeIncident id actor => exact acknowledgeIncident_hushed host id actor desk
  | resolveIncident id actor resolution suppressUntilClear =>
    exact resolveIncident_hushed host id actor resolution suppressUntilClear desk
  | resolveInactive source active actor =>
    exact resolveInactiveIncidents_hushed host source active actor desk
  | enqueueJob args =>
    simp only [commit,enqueueBackgroundJob]
    split_ifs
    all_goals exact .of_eq rfl rfl rfl
  | dispatchOutbox | recoverJobs | pruneJobs => exact .of_eq rfl rfl rfl
  | claimJob workerName leaseSeconds kinds token =>
    simp only [commit,claimBackgroundJob]
    split
    all_goals exact .of_eq rfl rfl rfl
  | completeJob id owner token => exact completeBackgroundJob_hushed host id owner token desk
  | deferJob id owner token delaySeconds reason =>
    simp only [commit,deferBackgroundJob]
    split
    all_goals exact .of_eq rfl rfl rfl
  | savePreferences | saveIntelligence | saveIncidentRetention => exact .of_eq rfl rfl rfl

/-- Only the workers of a queue do more to it than to add and to cancel. -/
theorem DeskCall.commit_requeued (p : Platform) (host : Host) {call : DeskCall} {desk : Desk}
    (hp : call.pushWork host desk=.other) (he : call.externalWork host desk=.other) :
    Requeued desk (call.commit p host desk) := by
  cases hr : call.raises with
  | false => exact (commit_hushed p host hr hp he).requeued
  | true =>
    cases call with
    | upsertNotification args =>
      simp only [commit,Attention.upsertNotification]
      split
      · exact .refl desk
      · rename_i hu
        exact upsertNotificationDb_requeued p host hu
    | evaluate now => exact evaluateNotificationIntelligence_requeued p host now desk
    | upsertIncident args => exact upsertIncident_requeued p host args desk
    | failJob id owner token error =>
      exact failBackgroundJob_requeued p host id owner token error desk
    | _ => cases hr

/-- What a request does to the push queue; the external worker does not touch it. -/
theorem Request.push_moves (p : Platform) (request : Request) (desk : Desk) :
    (request.call.pushWork request.host desk).Moves request.host.now desk.pushDeliveries
      (request.next p desk).pushDeliveries := by
  obtain ⟨host,call⟩ := request
  cases call with
  | recoverPush | claimPush => rfl
  | completePush id =>
    simp only [next,DeskCall.commit,completeNotificationPushDelivery]
    split
    · exact (Table.modify_of_find_none (by assumption) _).symm
    · rfl
  | failPush id error disableSubscription =>
    simp only [next,DeskCall.commit,failNotificationPushDelivery]
    split
    · exact (Table.modify_of_find_none (by assumption) _).symm
    · rfl
  | recoverExternal | claimExternal => exact .refl _
  | completeExternal | failExternal =>
    simp only [next,DeskCall.commit,completeNotificationExternalDelivery,
      failNotificationExternalDelivery]
    split
    all_goals exact .refl _
  | _ => exact (DeskCall.commit_requeued p host rfl rfl).push

/-- What a request does to the external queue; the push worker does not touch it. -/
theorem Request.external_moves (p : Platform) (request : Request) (desk : Desk) :
    (request.call.externalWork request.host desk).Moves request.host.now
      desk.externalDeliveries (request.next p desk).externalDeliveries := by
  obtain ⟨host,call⟩ := request
  cases call with
  | recoverExternal | claimExternal => rfl
  | completeExternal id =>
    simp only [next,DeskCall.commit,completeNotificationExternalDelivery]
    split
    · exact (Table.modify_of_find_none (by assumption) _).symm
    · rfl
  | failExternal id error retryable httpStatus =>
    simp only [next,DeskCall.commit,failNotificationExternalDelivery]
    split
    · exact (Table.modify_of_find_none (by assumption) _).symm
    · rfl
  | recoverPush | claimPush => exact .refl _
  | completePush | failPush =>
    simp only [next,DeskCall.commit,completeNotificationPushDelivery,
      failNotificationPushDelivery]
    split
    all_goals exact .refl _
  | _ => exact (DeskCall.commit_requeued p host rfl rfl).external

end ZenControl.Attention
