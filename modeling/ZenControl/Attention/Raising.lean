import ZenControl.Attention.Requeueing

/-! The calls that may raise a notification, reduced to two things: one upsert of a
notification, or the escalation of the notifications that are due. -/
namespace ZenControl.Attention
open Rows

section Upsert
variable (p : Platform) (host : Host)

@[simp] lemma queueNotification_notifications (kind : DeliveryKind) (id : ℕ)
    (row : Notification) (desk : Desk) :
    (queueNotification p host kind id row desk).notifications=desk.notifications := by
  unfold queueNotification
  rw [queueNotificationExternal_frame,queueNotificationPush_frame]

@[simp] lemma cancelDeliveriesFor_notifications (id : ℕ) (pushReason externalReason : String)
    (desk : Desk) : (cancelDeliveriesFor host id pushReason externalReason desk).notifications=
      desk.notifications := rfl

@[simp] lemma Notification.upserted_dedupeKey (args : NotificationArgs)
    (prefs : NotificationPreferences) (now : ℤ) (n : Notification) :
    (n.upserted args prefs now).dedupeKey=n.dedupeKey := rfl

/-- An upsert that raises attention opens the notification; any other leaves it resolved or
open. -/
lemma Notification.upserted_resolvedAt (args : NotificationArgs)
    (prefs : NotificationPreferences) (now : ℤ) (n : Notification) :
    (n.upserted args prefs now).resolvedAt=
      if args.raiseAttention then none else n.resolvedAt := by
  simp only [upserted,reopens,attentionEscalates]
  by_cases hraise : args.raiseAttention
  · by_cases hr : n.resolvedAt=none
    · simp [hr]
    · simp [hraise,Option.isSome_iff_ne_none.mpr hr]
  · simp [hraise]

/-- The upsert of a key that is not there. -/
lemma upsertNormalized_none {args : NotificationArgs} {desk : Desk}
    (h : desk.notifications.first (fun r => r.dedupeKey=args.dedupeKey)=none) :
    (upsertNormalized p host args desk).action=.created ∧
      (upsertNormalized p host args desk).id=desk.notifications.next ∧
      (upsertNormalized p host args desk).desk.notifications=
        desk.notifications.insert (args.created host.now) := by
  unfold upsertNormalized
  rw [h]
  dsimp only
  refine ⟨rfl,rfl,?_⟩
  split_ifs
  · rw [queueNotification_notifications]
  · rfl

/-- The upsert of a key that is there. -/
lemma upsertNormalized_some {args : NotificationArgs} {desk : Desk} {id : ℕ}
    {row : Notification}
    (h : desk.notifications.first (fun r => r.dedupeKey=args.dedupeKey)=some (id,row)) :
    (upsertNormalized p host args desk).action=row.upsertAction args ∧
      (upsertNormalized p host args desk).id=id ∧
      (upsertNormalized p host args desk).desk.notifications=
        desk.notifications.modify id (.upserted args desk.preferences host.now) := by
  unfold upsertNormalized
  rw [h]
  dsimp only
  refine ⟨rfl,rfl,?_⟩
  split_ifs
  · rw [queueNotification_notifications]
  · rfl

/-- What an upsert does is not changed by the incidents and the jobs. -/
lemma queueNotification_beside (kind : DeliveryKind) (id : ℕ) (row : Notification)
    (incidents : Table Incident) (jobs : Table BackgroundJob) (desk : Desk) :
    queueNotification p host kind id row { desk with incidents := incidents, jobs := jobs }=
      { queueNotification p host kind id row desk with incidents := incidents, jobs := jobs } := by
  unfold queueNotification queueNotificationExternal queueNotificationPush
  split_ifs <;> rfl

lemma upsertNormalized_beside (args : NotificationArgs) (incidents : Table Incident)
    (jobs : Table BackgroundJob) (desk : Desk) :
    upsertNormalized p host args { desk with incidents := incidents, jobs := jobs }=
      { upsertNormalized p host args desk with
        desk := { (upsertNormalized p host args desk).desk with
          incidents := incidents, jobs := jobs } } := by
  unfold upsertNormalized
  dsimp only
  split
  all_goals
    split_ifs
    · rw [← queueNotification_beside]
    · rfl

end Upsert

/-- The arguments with which `_sync_incident_notification_db` upserts, if it does. -/
def syncUpsert (incidentId : ℕ) (incident : Incident) (action : IncidentAction)
    (desk : Desk) : Option NotificationArgs :=
  let key := incidentKey incident.fingerprint
  let existing := desk.notifications.first fun r => r.dedupeKey=key
  let shouldCreate := existing.isNone && incident.status≠.resolved
  if shouldCreate || action.loud then
    some (syncArgs incidentId incident (incident.status=.opened)
      (!shouldCreate || action.loud))
  else if existing.isSome then some (syncArgs incidentId incident false false)
  else none

/-- The arguments with which `upsert_incident` upserts a notification. -/
def incidentUpsert (host : Host) (args : IncidentArgs) (desk : Desk) :
    Option NotificationArgs :=
  let args := args.normalized
  if args.fingerprint="" then none
  else match desk.incidents.first fun r => r.fingerprint=args.fingerprint with
    | none => syncUpsert desk.incidents.next (args.created host.now) .opened desk
    | some (id,row) => syncUpsert id (row.upserted args host.now) (row.action args) desk

/-- The arguments with which `fail_background_job` upserts a notification. -/
def jobUpsert (id : ℕ) (owner token error : String) (desk : Desk) : Option NotificationArgs :=
  match desk.leased id owner token with
  | .error _ => none
  | .ok row =>
    if row.terminal then
      some (jobFailedArgs id row (clip (orElse error "Background job failed") 500))
    else none

/-- The arguments as they are stored; without a key nothing is. -/
def storedArgs (args : Option NotificationArgs) : Option NotificationArgs :=
  (args.map NotificationArgs.normalized).filter fun args => args.dedupeKey≠""

/-- The arguments, as they are stored, with which a request upserts a notification. -/
def Request.upsert (request : Request) (desk : Desk) : Option NotificationArgs :=
  storedArgs (match request.call with
    | .upsertNotification args => some args
    | .upsertIncident args => incidentUpsert request.host args desk
    | .failJob id owner token error => jobUpsert id owner token error desk
    | _ => none)

lemma storedArgs_some {args : NotificationArgs} (h : args.normalized.dedupeKey≠"") :
    storedArgs (some args)=some args.normalized := by
  simp [storedArgs,Option.filter,h]

lemma storedArgs_blank {args : NotificationArgs} (h : args.normalized.dedupeKey="") :
    storedArgs (some args)=none := by
  simp [storedArgs,Option.filter,h]

/-- A table after one upsert; the row may have been acknowledged with its incident. -/
structure Upserted (p : Platform) (host : Host) (args : NotificationArgs) (desk desk' : Desk) :
    Prop where
  push : desk'.pushDeliveries=(upsertNormalized p host args desk).desk.pushDeliveries
  external : desk'.externalDeliveries=
    (upsertNormalized p host args desk).desk.externalDeliveries
  notifications : ∃ f : Notification → Notification, (∀ n, Touched n (f n)) ∧
    (∀ n, (f n).resolvedAt=n.resolvedAt) ∧ desk'.notifications=
      (upsertNormalized p host args desk).desk.notifications.modify
        (upsertNormalized p host args desk).id f

section Sync
variable (p : Platform) (host : Host)

lemma Upserted.of_eq {args : NotificationArgs} {desk desk' : Desk}
    (h : desk'=(upsertNormalized p host args desk).desk) : Upserted p host args desk desk' where
  push := by rw [h]
  external := by rw [h]
  notifications := ⟨id,fun n => .refl n,fun _ => rfl,by rw [h,Table.modify_id]⟩

lemma upsertNotificationDb_ok {args : NotificationArgs} {desk : Desk} {upsert : Upsert}
    (h : upsertNotificationDb p host args desk=.ok upsert) :
    args.normalized.dedupeKey≠"" ∧ upsert=upsertNormalized p host args.normalized desk := by
  unfold upsertNotificationDb at h
  split_ifs at h with hkey
  cases h
  exact ⟨hkey,rfl⟩

lemma syncIncidentNotification_none {id : ℕ} {incident : Incident} {action : IncidentAction}
    {actor : String} {desk desk' : Desk} (hs : syncUpsert id incident action desk=none)
    (h : syncIncidentNotification p host id incident action actor desk=.ok desk') :
    desk'=desk := by
  unfold syncUpsert at hs
  unfold syncIncidentNotification at h
  dsimp only at h hs
  split at h
  · rename_i hcond
    rw [if_pos hcond] at hs
    cases hs
  rename_i hcond
  rw [if_neg hcond] at hs
  split at h
  · rename_i hsome
    rw [if_pos hsome] at hs
    cases hs
  · cases h
    rfl

lemma syncIncidentNotification_some {id : ℕ} {incident : Incident} {action : IncidentAction}
    {actor : String} {desk desk' : Desk} {args : NotificationArgs}
    (hs : syncUpsert id incident action desk=some args)
    (h : syncIncidentNotification p host id incident action actor desk=.ok desk') :
    args.normalized.dedupeKey≠"" ∧ Upserted p host args.normalized desk desk' := by
  unfold syncUpsert at hs
  unfold syncIncidentNotification at h
  dsimp only at h hs
  split at h
  · rename_i hcond
    rw [if_pos hcond] at hs
    obtain rfl := Option.some.inj hs
    split at h
    · cases h
    · rename_i upsert hu
      obtain ⟨hkey,rfl⟩ := upsertNotificationDb_ok p host hu
      cases h
      refine ⟨hkey,?_⟩
      split_ifs
      · exact ⟨rfl,rfl,_,Touched.acknowledgedAs incident actor host.now,fun _ => rfl,rfl⟩
      · exact .of_eq p host rfl
  rename_i hcond
  rw [if_neg hcond] at hs
  split at h
  · rename_i hsome
    rw [if_pos hsome] at hs
    obtain rfl := Option.some.inj hs
    split at h
    · cases h
    · rename_i upsert hu
      obtain ⟨hkey,rfl⟩ := upsertNotificationDb_ok p host hu
      cases h
      exact ⟨hkey,.of_eq p host rfl⟩
  · rename_i hsome
    rw [if_neg hsome] at hs
    cases hs

lemma upsertNotificationDb_error {args : NotificationArgs} {desk : Desk} {e : StoreError}
    (h : upsertNotificationDb p host args desk=.error e) : args.normalized.dedupeKey="" := by
  unfold upsertNotificationDb at h
  split_ifs at h with hkey
  exact hkey

lemma syncIncidentNotification_error {id : ℕ} {incident : Incident} {action : IncidentAction}
    {actor : String} {desk : Desk} {e : StoreError}
    (h : syncIncidentNotification p host id incident action actor desk=.error e) :
    ∃ args, syncUpsert id incident action desk=some args ∧ args.normalized.dedupeKey="" := by
  unfold syncIncidentNotification at h
  unfold syncUpsert
  dsimp only at h ⊢
  split at h
  · rename_i hcond
    rw [if_pos hcond]
    split at h
    · rename_i hu
      exact ⟨_,rfl,upsertNotificationDb_error p host hu⟩
    · cases h
  rename_i hcond
  rw [if_neg hcond]
  split at h
  · rename_i hsome
    rw [if_pos hsome]
    split at h
    · rename_i hu
      exact ⟨_,rfl,upsertNotificationDb_error p host hu⟩
    · cases h
  · cases h

lemma Upserted.of_beside {args : NotificationArgs} {desk desk' : Desk}
    (incidents : Table Incident) (jobs : Table BackgroundJob)
    (h : Upserted p host args { desk with incidents := incidents, jobs := jobs } desk') :
    Upserted p host args desk desk' := by
  obtain ⟨hpush,hexternal,f,hf,hresolved,hnotes⟩ := h
  rw [upsertNormalized_beside] at hpush hexternal hnotes
  exact ⟨hpush,hexternal,f,hf,hresolved,hnotes⟩

lemma sightIncident_sync {args : IncidentArgs} {desk desk' : Desk} {reply : IncidentReply}
    (h : sightIncident p host args desk=.ok (reply,desk')) :
    ∃ incidents, syncIncidentNotification p host reply.id reply.row reply.action args.actor
        { desk with incidents := incidents }=.ok desk' ∧
      (match desk.incidents.first fun r => r.fingerprint=args.fingerprint with
        | none => syncUpsert desk.incidents.next (args.created host.now) .opened desk
        | some (id,row) => syncUpsert id (row.upserted args host.now) (row.action args) desk)=
      syncUpsert reply.id reply.row reply.action desk := by
  unfold sightIncident at h
  cases hfirst : desk.incidents.first fun r => r.fingerprint=args.fingerprint with
  | none =>
    rw [hfirst] at h
    dsimp only at h
    split at h
    · cases h
    · rename_i hsync
      cases h
      exact ⟨desk.incidents.insert (args.created host.now),hsync,rfl⟩
  | some found =>
    obtain ⟨id,row⟩ := found
    rw [hfirst] at h
    dsimp only at h
    split at h
    · cases h
    · rename_i hsync
      cases h
      exact ⟨desk.incidents.modify id (.upserted args host.now),hsync,rfl⟩

lemma upsertIncident_ok {args : IncidentArgs} {desk desk' : Desk} {reply : IncidentReply}
    (h : upsertIncident p host args desk=.ok (reply,desk')) :
    args.normalized.fingerprint≠"" ∧ ∃ sighted,
      sightIncident p host args.normalized desk=.ok (reply,sighted) ∧
        desk'=sighted.expireIncidents host := by
  unfold upsertIncident at h
  split_ifs at h with hne
  split at h
  · cases h
  · rename_i hs
    cases h
    exact ⟨hne,_,hs,rfl⟩

lemma syncUpsert_beside (id : ℕ) (incident : Incident) (action : IncidentAction)
    (incidents : Table Incident) (desk : Desk) :
    syncUpsert id incident action { desk with incidents := incidents }=
      syncUpsert id incident action desk := rfl

/-- A sighting is refused for want of a key, of the incident or of its notification. -/
lemma upsertIncident_error {args : IncidentArgs} {desk : Desk} {e : StoreError}
    (h : upsertIncident p host args desk=.error e) :
    storedArgs (incidentUpsert host args desk)=none := by
  unfold upsertIncident at h
  unfold incidentUpsert
  dsimp only
  split_ifs at h ⊢ with hne
  · rfl
  split at h
  · rename_i hs
    unfold sightIncident at hs
    cases hfirst : desk.incidents.first fun r => r.fingerprint=args.normalized.fingerprint
    all_goals
      rw [hfirst] at hs
      dsimp only at hs
      split at hs
      · rename_i hsync
        obtain ⟨args',hsome,hkey⟩ := syncIncidentNotification_error p host hsync
        rw [syncUpsert_beside] at hsome
        dsimp only
        rw [hsome]
        exact storedArgs_blank hkey
      · cases hs
  · cases h

/-- The two ways of an incident's sighting with its notification. -/
lemma upsertIncident_upsert {args : IncidentArgs} {desk desk' : Desk} {reply : IncidentReply}
    (h : upsertIncident p host args desk=.ok (reply,desk')) :
    incidentUpsert host args desk=none ∧ Hushed desk desk' ∨
      ∃ upsert, incidentUpsert host args desk=some upsert ∧ upsert.normalized.dedupeKey≠"" ∧
        Upserted p host upsert.normalized desk desk' := by
  obtain ⟨hne,sighted,hs,rfl⟩ := upsertIncident_ok p host h
  obtain ⟨incidents,hsync,hsame⟩ := sightIncident_sync p host hs
  have hupsert : incidentUpsert host args desk=
      syncUpsert reply.id reply.row reply.action desk := by
    unfold incidentUpsert
    rw [if_neg hne]
    exact hsame
  rw [hupsert]
  rw [← syncUpsert_beside _ _ _ incidents]
  cases hsome : syncUpsert reply.id reply.row reply.action
      { desk with incidents := incidents } with
  | none =>
    obtain rfl := syncIncidentNotification_none p host hsome hsync
    exact .inl ⟨rfl,.of_eq rfl rfl rfl⟩
  | some upsert =>
    obtain ⟨hkey,hpush,hexternal,hnotes⟩ := syncIncidentNotification_some p host hsome hsync
    exact .inr ⟨upsert,rfl,hkey,
      Upserted.of_beside p host incidents desk.jobs ⟨hpush,hexternal,hnotes⟩⟩

end Sync

section Step
variable (p : Platform) (host : Host) (desk : Desk)

/-- What the three calls do that may upsert a notification. -/
inductive UpsertStep : Option NotificationArgs → Desk → Prop
  | hushed {desk'} (h : Hushed desk desk') : UpsertStep none desk'
  | upserted {args desk'} (hkey : args.dedupeKey≠"") (h : Upserted p host args desk desk') :
    UpsertStep (some args) desk'

lemma upsertNotification_step (args : NotificationArgs) :
    UpsertStep p host desk (storedArgs (some args))
      ((upsertNotification p host args desk).commit desk) := by
  by_cases hkey : args.normalized.dedupeKey=""
  · rw [storedArgs_blank hkey,upsertNotification,upsertNotificationDb,if_pos hkey]
    exact .hushed (.refl desk)
  · rw [storedArgs_some hkey,upsertNotification,upsertNotificationDb,if_neg hkey]
    exact .upserted hkey (.of_eq p host rfl)

lemma upsertIncident_step (args : IncidentArgs) :
    UpsertStep p host desk (storedArgs (incidentUpsert host args desk))
      ((upsertIncident p host args desk).commit desk) := by
  cases hcommit : upsertIncident p host args desk with
  | error e =>
    rw [upsertIncident_error p host hcommit]
    exact .hushed (.refl desk)
  | ok result =>
    obtain ⟨reply,desk'⟩ := result
    rcases upsertIncident_upsert p host hcommit with ⟨hnone,hh⟩ | ⟨args',hsome,hkey,hu⟩
    · rw [hnone]
      exact .hushed hh
    · rw [hsome,storedArgs_some hkey]
      exact .upserted hkey hu

lemma failBackgroundJob_step (id : ℕ) (owner token error : String) :
    UpsertStep p host desk (storedArgs (jobUpsert id owner token error desk))
      ((failBackgroundJob p host id owner token error desk).commit desk) := by
  unfold jobUpsert failBackgroundJob
  dsimp only
  cases desk.leased id owner token with
  | error e => exact .hushed (.refl desk)
  | ok row =>
    dsimp only
    split_ifs with hterminal
    · split
      · rename_i hu
        rw [storedArgs_blank (upsertNotificationDb_error p host hu)]
        exact .hushed (.refl desk)
      · rename_i hu
        obtain ⟨hkey,rfl⟩ := upsertNotificationDb_ok p host hu
        rw [storedArgs_some hkey]
        exact .upserted hkey (.of_beside p host desk.incidents _ (.of_eq p host rfl))
    · exact .hushed (.of_eq rfl rfl rfl)

theorem Request.upsert_step (request : Request) (hcall : ∀ now, request.call≠.evaluate now)
    (hp : request.call.pushWork request.host desk=.other)
    (he : request.call.externalWork request.host desk=.other) :
    UpsertStep p request.host desk (request.upsert desk) (request.next p desk) := by
  obtain ⟨host,call⟩ := request
  cases hr : call.raises with
  | false =>
    have hnone : Request.upsert ⟨host,call⟩ desk=none := by
      cases call with
      | upsertNotification | evaluate | upsertIncident | failJob => cases hr
      | _ => rfl
    rw [hnone]
    exact .hushed (DeskCall.commit_hushed p host hr hp he)
  | true =>
    cases call with
    | upsertNotification args => exact upsertNotification_step p host desk args
    | upsertIncident args => exact upsertIncident_step p host desk args
    | failJob id owner token error =>
      exact failBackgroundJob_step p host desk id owner token error
    | evaluate now => exact absurd rfl (hcall now)
    | _ => cases hr

end Step
section Rows
variable {p : Platform} {host : Host} {args : NotificationArgs} {desk desk' : Desk}

/-- An upsert of a new key adds a row. -/
lemma Upserted.find_none (h : Upserted p host args desk desk')
    (hfirst : desk.notifications.first (fun r => r.dedupeKey=args.dedupeKey)=none) :
    ∃ n, Touched (args.created host.now) n ∧ n.resolvedAt=none ∧
      ∀ k, desk'.notifications.find k=
        if k=desk.notifications.next then some n else desk.notifications.find k := by
  obtain ⟨-,-,f,hf,hresolved,hnotes⟩ := h
  obtain ⟨-,hid,htable⟩ := upsertNormalized_none p host hfirst
  refine ⟨f (args.created host.now),hf _,hresolved _,fun k => ?_⟩
  rw [hnotes,htable,hid,Table.find_modify,Table.find_insert]
  split_ifs
  · rfl
  · rfl

/-- An upsert of a known key changes the row of that key. -/
lemma Upserted.find_some (h : Upserted p host args desk desk')
    (hu : desk.notifications.Unique Notification.dedupeKey) {id : ℕ} {row : Notification}
    (hfirst : desk.notifications.first (fun r => r.dedupeKey=args.dedupeKey)=some (id,row)) :
    ∃ f : Notification → Notification, (∀ n, Touched n (f n)) ∧
      (∀ n, (f n).resolvedAt=n.resolvedAt) ∧
      ∀ k, desk'.notifications.find k=(desk.notifications.find k).map fun n =>
        if n.dedupeKey=args.dedupeKey then f (n.upserted args desk.preferences host.now) else n := by
  obtain ⟨-,-,f,hf,hresolved,hnotes⟩ := h
  obtain ⟨-,hid,htable⟩ := upsertNormalized_some p host hfirst
  refine ⟨f,hf,hresolved,fun k => ?_⟩
  rw [hnotes,htable,hid,← hu.find_modify_first hfirst
    fun n => f (n.upserted args desk.preferences host.now)]
  simp only [Table.find_modify]
  split_ifs
  · rw [Option.map_map]; rfl
  · rfl

/-- A resolution changes the row of its key. -/
lemma resolveNotificationDb_find (desk : Desk)
    (hu : desk.notifications.Unique Notification.dedupeKey)
    (key actor resolution : String) (k : ℕ) :
    (resolveNotificationDb host key actor resolution desk).notifications.find k=
      (desk.notifications.find k).map fun n =>
        if n.dedupeKey=key then n.resolve host.now actor resolution else n := by
  unfold resolveNotificationDb
  split
  · rename_i hfirst
    exact Table.find_of_first_none hfirst _ k
  · rename_i id row hfirst
    exact hu.find_modify_first hfirst _ k

/-- A notification is escalated: what waits of it is cancelled, and it is queued anew. -/
def escalateNotification (p : Platform) (host : Host) (now : ℤ)
    (reasons : List EscalationReason) (id : ℕ) (row : Notification) (desk : Desk) : Desk :=
  queueNotification p host .escalation id (row.escalate now (reasonText reasons))
    (cancelDeliveriesFor host id "Notification escalated; superseded pending delivery"
      "Notification escalated; superseded pending delivery"
      { desk with
        notifications := desk.notifications.modify id (.escalate now (reasonText reasons)) })

lemma evaluateOne_nil {now : ℤ} {settings : IntelligenceSettings} {i : ℕ} {row : Notification}
    {state : Evaluation × Desk} (hreasons : row.escalationReasons settings now=[]) :
    evaluateOne p host now settings (i,row) state=
      ({ state.1 with scanned := state.1.scanned ++ [i] },state.2) := by
  unfold evaluateOne
  dsimp only
  rw [hreasons]

lemma evaluateOne_cons {now : ℤ} {settings : IntelligenceSettings} {i : ℕ} {row : Notification}
    {state : Evaluation × Desk} (hrow : state.2.notifications.find i=some row)
    (hreasons : row.escalationReasons settings now≠[]) :
    evaluateOne p host now settings (i,row) state=
      ({ scanned := state.1.scanned ++ [i],
         escalated := state.1.escalated ++ [(i,row.escalationReasons settings now)] },
        escalateNotification p host now (row.escalationReasons settings now) i row state.2) := by
  have hfind (f : Notification → Notification) :
      (state.2.notifications.modify i f).find i=some (f row) := by
    rw [Table.find_modify,if_pos rfl,hrow]; rfl
  unfold evaluateOne escalateNotification
  dsimp only
  generalize hr : row.escalationReasons settings now=reasons at hreasons
  cases reasons with
  | nil => exact absurd rfl hreasons
  | cons reason reasons =>
    dsimp only
    rw [cancelDeliveriesFor_notifications,hfind]

lemma escalateNotification_notifications (now : ℤ) (reasons : List EscalationReason) (id : ℕ)
    (row : Notification) (desk : Desk) :
    (escalateNotification p host now reasons id row desk).notifications=
      desk.notifications.modify id (.escalate now (reasonText reasons)) := by
  unfold escalateNotification
  rw [queueNotification_notifications,cancelDeliveriesFor_notifications]

/-- What the evaluation makes of a candidate. -/
def Notification.evaluated (settings : IntelligenceSettings) (now : ℤ) (n : Notification) :
    Notification :=
  if n.escalationReasons settings now=[] then n
  else n.escalate now (reasonText (n.escalationReasons settings now))

lemma evaluateOne_find {now : ℤ} {settings : IntelligenceSettings} {i : ℕ} {row : Notification}
    {state : Evaluation × Desk} (hrow : state.2.notifications.find i=some row) (k : ℕ) :
    (evaluateOne p host now settings (i,row) state).2.notifications.find k=
      if k=i then some (row.evaluated settings now) else state.2.notifications.find k := by
  unfold Notification.evaluated
  by_cases hreasons : row.escalationReasons settings now=[]
  · rw [evaluateOne_nil hreasons,if_pos hreasons]
    split_ifs with hk
    · rw [hk,hrow]
    · rfl
  · rw [evaluateOne_cons hrow hreasons,if_neg hreasons,escalateNotification_notifications,
      Table.find_modify]
    split_ifs with hk
    · rw [hk,hrow]; rfl
    · rfl

/-- The loop of the evaluation changes each of its rows once. -/
lemma evaluateEach_find {now : ℤ} {settings : IntelligenceSettings}
    {rows : List (ℕ × Notification)} (hrows : rows.Pairwise fun r r' => r.1 < r'.1)
    {state : Evaluation × Desk} (hfind : ∀ r ∈ rows, state.2.notifications.find r.1=some r.2)
    (k : ℕ) :
    (rows.foldl (fun state r => evaluateOne p host now settings r state)
      state).2.notifications.find k=(state.2.notifications.find k).map fun n =>
        if k ∈ rows.map Prod.fst then n.evaluated settings now else n :=
  Table.find_foldl (fun state : Evaluation × Desk => state.2.notifications)
    (fun state r => evaluateOne p host now settings r state)
    (fun _ _ _ hrow => evaluateOne_find hrow) hrows hfind k

variable (p host) in
/-- The evaluation escalates the candidates that are due, and leaves the others alone. -/
theorem evaluateNotificationIntelligence_find (now : Option ℤ) (desk : Desk) (k : ℕ) :
    ((evaluateNotificationIntelligence p host now desk).commit desk).notifications.find k=
      (desk.notifications.find k).map fun n =>
        if desk.intelligence.escalationEnabled && n.candidate then
          n.evaluated desk.intelligence (now.getD host.now)
        else n := by
  unfold evaluateNotificationIntelligence
  by_cases henabled : desk.intelligence.escalationEnabled
  · rw [if_neg (by simp [henabled])]
    have hrows : (desk.notifications.select fun _ r => r.candidate).Pairwise
        fun r r' => r.1 < r'.1 := desk.notifications.increasing.filter _
    refine (evaluateEach_find hrows (fun r hr => (Table.mem_select.mp hr).1) k).trans ?_
    dsimp only
    cases hk : desk.notifications.find k with
    | none => rfl
    | some n =>
      have hmem : k ∈ (desk.notifications.select fun _ r => r.candidate).map Prod.fst ↔
          n.candidate := by
        rw [List.mem_map]
        constructor
        · rintro ⟨⟨i,row⟩,hrow,rfl⟩
          obtain ⟨hi,hcandidate⟩ := Table.mem_select.mp hrow
          obtain rfl : row=n := Option.some.inj (hi.symm.trans hk)
          exact hcandidate
        · intro hcandidate
          exact ⟨(k,n),Table.mem_select.mpr ⟨hk,hcandidate⟩,rfl⟩
      simp [hmem,henabled]
  · rw [if_pos (by simpa using henabled)]
    simp [Call.commit,henabled]

end Rows
end ZenControl.Attention
