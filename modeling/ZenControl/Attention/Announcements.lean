import ZenControl.Attention.Raising

/-! How a notification gets into its two queues: one row for each recipient, unless a row of the
same notification, recipient, occurrence and kind is there. Both queues are seen through one
view, so that what is raised is followed once. -/
namespace ZenControl.Attention
open Rows Queueable

/-- What a row delivers: the notification, the recipient, the occurrence and the kind. -/
abbrev Notice (α : Type) [Queueable α] := ℕ × Recipient α × ℕ × DeliveryKind

section Tables
variable {α : Type} [Queueable α] (subject : α → ℕ)

/-- Rows were queued for the notices of a list, in its order; of the others only those of some
notifications were changed. -/
structure Announced (ids : List ℕ) (ns : List (Notice α)) (t t' : Table α) : Prop where
  kept : ∀ {k r}, t.find k=some r → ∃ r', t'.find k=some r' ∧ (r'=r ∨ subject r ∈ ids)
  notices_eq : notices t'=notices t ++ ns
  added : ∀ n ∈ ns, ∃ k r, t.find k=none ∧ t'.find k=some r ∧ notice r=some n ∧
    subject r=n.1 ∧ (status r=.pending ∨ status r=.suppressed)

namespace Announced
variable {subject}

@[refl] lemma refl (t : Table α) : Announced subject [] [] t t where
  kept h := ⟨_,h,.inl rfl⟩
  notices_eq := (List.append_nil _).symm
  added _ h := by cases h

/-- What was queued first is left alone by what is done to other notifications. -/
lemma trans {ids ids' : List ℕ} {ns ns' : List (Notice α)} {t t' t'' : Table α}
    (h : Announced subject ids ns t t') (h' : Announced subject ids' ns' t' t'')
    (hids : ∀ n ∈ ns, n.1 ∉ ids') : Announced subject (ids ++ ids') (ns ++ ns') t t'' where
  kept hk := by
    obtain ⟨r',hr',hkept⟩ := h.kept hk
    obtain ⟨r'',hr'',hkept'⟩ := h'.kept hr'
    refine ⟨r'',hr'',?_⟩
    rcases hkept with rfl | hmem
    · rcases hkept' with rfl | hmem'
      · exact .inl rfl
      · exact .inr (List.mem_append_right _ hmem')
    · exact .inr (List.mem_append_left _ hmem)
  notices_eq := by rw [h'.notices_eq,h.notices_eq,List.append_assoc]
  added n hn := by
    rcases List.mem_append.mp hn with hn | hn
    · obtain ⟨k,r,hk,hr,hnotice,hsubject,hstatus⟩ := h.added n hn
      obtain ⟨r',hr',hkept⟩ := h'.kept hr
      have hsame : r'=r := hkept.resolve_right (by rw [hsubject]; exact hids n hn)
      exact ⟨k,r,hk,by rw [hr',hsame],hnotice,hsubject,hstatus⟩
    · obtain ⟨k,r,hk,hr,hrest⟩ := h'.added n hn
      refine ⟨k,r,?_,hr,hrest⟩
      cases hfirst : t.find k with
      | none => rfl
      | some r₀ =>
        obtain ⟨r',hr',-⟩ := h.kept hfirst
        rw [hk] at hr'
        cases hr'

lemma insertUnless {t : Table α} {clash : α → Bool} {r : α} {n : Notice α}
    (hclash : ∀ b, clash b → notice b=notice r) (hr : notice r=some n)
    (hsubject : subject r=n.1) (hstatus : status r=.pending ∨ status r=.suppressed)
    (hnew : n ∉ notices t) : Announced subject [] [n] t (t.insertUnless clash r) where
  kept {k b} hb := by
    refine ⟨b,?_,.inl rfl⟩
    unfold Table.insertUnless
    split_ifs
    · exact hb
    · exact Table.find_insert_of_find hb
  notices_eq := notices_insertUnless hclash hr hnew
  added m hm := by
    obtain rfl := List.mem_singleton.mp hm
    have hmem : m ∈ notices (t.insertUnless clash r) := by
      rw [notices_insertUnless hclash hr hnew]
      exact List.mem_append_right _ hm
    obtain ⟨k,b,hb,hnotice⟩ := mem_notices.mp hmem
    by_cases hfirst : (t.first clash).isSome
    · rw [Table.insertUnless,if_pos hfirst] at hb
      exact absurd (mem_notices.mpr ⟨k,b,hb,hnotice⟩) hnew
    · refine ⟨t.next,r,Table.find_next t,?_,hr,hsubject,hstatus⟩
      rw [Table.insertUnless,if_neg hfirst,Table.find_insert,if_pos rfl]

/-- One row for each recipient. -/
lemma insertEach {τ : Type} (row : τ → α) {clash : α → α → Bool} (recipient : τ → Recipient α)
    {id occurrence : ℕ} {kind : DeliveryKind}
    (hclash : ∀ s b, clash (row s) b → notice b=notice (row s))
    (hrow : ∀ s, notice (row s)=some (id,recipient s,occurrence,kind))
    (hsubject : ∀ s, subject (row s)=id)
    (hstatus : ∀ s, status (row s)=.pending ∨ status (row s)=.suppressed)
    {targets : List τ} (hnodup : (targets.map recipient).Nodup) {t : Table α}
    (hnew : ∀ s ∈ targets, (id,recipient s,occurrence,kind) ∉ notices t) :
    Announced subject [] (targets.map fun s => (id,recipient s,occurrence,kind)) t
      (targets.foldl (fun t s => t.insertUnless (clash (row s)) (row s)) t) := by
  induction targets generalizing t with
  | nil => exact .refl t
  | cons s targets ih =>
    obtain ⟨hs,hrest⟩ := List.nodup_cons.mp hnodup
    have hfirst : Announced subject [] _ t _ :=
      insertUnless (hclash s) (hrow s) (hsubject s) (hstatus s) (hnew s List.mem_cons_self)
    refine hfirst.trans (ih hrest fun s' hs' hmem => ?_) fun _ _ h => by cases h
    rw [hfirst.notices_eq,List.mem_append,List.mem_singleton,Prod.mk.injEq,Prod.mk.injEq] at hmem
    rcases hmem with hmem | ⟨-,hsame,-⟩
    · exact hnew s' (List.mem_cons_of_mem _ hs') hmem
    · exact hs (List.mem_map.mpr ⟨s',hs',hsame⟩)

/-- A cancelling update of one notification. -/
lemma update (t : Table α) {p : ℕ → α → Bool} {f : α → α} {id : ℕ}
    (hp : ∀ k r, p k r → subject r=id) (hf : ∀ r, notice (f r)=notice r) :
    Announced subject [id] [] t (t.update p f) where
  kept {k r} h := by
    rw [Table.find_update,h]
    refine ⟨_,rfl,?_⟩
    dsimp only
    split_ifs with hpr
    · exact .inr (List.mem_singleton.mpr (hp k r hpr))
    · exact .inl rfl
  notices_eq := (notices_update t hf).trans (List.append_nil _).symm
  added _ h := by cases h

end Announced
end Tables

/-- A view on one of the two queues: its recipients, and how notifications come into it. -/
structure QueueView (p : Platform) (α : Type) [Queueable α] where
  table : Desk → Table α
  recipients : Host → Desk → List (Recipient α)
  subject : α → ℕ
  table_eq : ∀ {desk desk' : Desk}, desk'.pushDeliveries=desk.pushDeliveries →
    desk'.externalDeliveries=desk.externalDeliveries → table desk'=table desk
  recipients_eq : ∀ {desk desk' : Desk} (host : Host), desk'.others=desk.others →
    recipients host desk'=recipients host desk
  nodup : ∀ host desk, (recipients host desk).Nodup
  queue : ∀ host kind id desk {row : Notification}, row.state=.unread →
    row.resolvedAt=none → 1 ≤ row.occurrences → kind≠.test →
    (∀ s ∈ recipients host desk, (id,s,row.occurrences,kind) ∉ notices (table desk)) →
    Announced subject [] ((recipients host desk).map fun s => (id,s,row.occurrences,kind))
      (table desk) (table (queueNotification p host kind id row desk))
  cancel : ∀ host id push external desk, Announced subject [id] [] (table desk)
    (table (cancelDeliveriesFor host id push external desk))
  hushed : ∀ {desk desk'}, Hushed desk desk' → notices (table desk')=notices (table desk)
  worker : ∀ (request : Request) desk,
    request.call.pushWork request.host desk≠.other ∨
      request.call.externalWork request.host desk≠.other →
    notices (table (request.next p desk))=notices (table desk)

section Views
variable (p : Platform)

lemma Desk.enabledSubscriptions_eq {desk desk' : Desk} (h : desk'.others=desk.others) :
    desk'.enabledSubscriptions=desk.enabledSubscriptions := by
  have hsubscriptions := congrArg Desk.enabledSubscriptions h
  exact hsubscriptions

lemma Desk.externalTargets_eq {desk desk' : Desk} (host : Host) (h : desk'.others=desk.others) :
    desk'.externalTargets host=desk.externalTargets host := by
  have htargets := congrArg (Desk.externalTargets host) h
  exact htargets

/-- Where an external delivery goes: the channel and the key of its destination. -/
def Desk.externalRecipients (host : Host) (desk : Desk) : List (Channel × String) :=
  (desk.externalTargets host).map fun target => (target.1,p.destinationKey target.1 target.2)

/-- There is at most one target of a channel. -/
lemma Desk.externalRecipients_nodup (host : Host) (desk : Desk) :
    (desk.externalRecipients p host).Nodup := by
  unfold externalRecipients externalTargets
  split_ifs <;> simp

lemma Desk.enabledSubscriptions_nodup (desk : Desk) : desk.enabledSubscriptions.Nodup := by
  have hrows : (desk.subscriptions.select fun _ s => s.enabled).Pairwise
      fun r r' => r.1 < r'.1 := desk.subscriptions.increasing.filter _
  exact (List.pairwise_map.mpr hrows).imp fun h => h.ne

lemma PushDelivery.notice_of_clashes {row r : PushDelivery} (h : row.clashes r) :
    Queueable.notice r=Queueable.notice row := by
  simp only [clashes,Bool.and_eq_true,decide_eq_true_eq] at h
  obtain ⟨⟨⟨hid,hsubscription⟩,hoccurrence⟩,hkind⟩ := h
  change r.notice=row.notice
  simp only [PushDelivery.notice,hid,hsubscription,hoccurrence,hkind]

lemma ExternalDelivery.notice_of_clashes {row r : ExternalDelivery} (h : row.clashes r) :
    Queueable.notice r=Queueable.notice row := by
  have hkey : r.idempotencyKey=row.idempotencyKey := of_decide_eq_true h
  change r.notice=row.notice
  simp only [ExternalDelivery.notice,hkey]

lemma PushDelivery.queued_status (now : ℤ) (id occurrence : ℕ) (kind : DeliveryKind)
    (suppressed : Option String) (subscription : ℕ) :
    (queued now id occurrence kind suppressed subscription).status=.pending ∨
      (queued now id occurrence kind suppressed subscription).status=.suppressed := by
  unfold queued
  cases suppressed with
  | none => exact .inl rfl
  | some reason => exact .inr rfl

lemma ExternalDelivery.queued_status (host : Host) (id occurrence : ℕ) (kind : DeliveryKind)
    (suppressed : Option String) (target : Channel × String) :
    (queued p host id occurrence kind suppressed target).status=.pending ∨
      (queued p host id occurrence kind suppressed target).status=.suppressed := by
  unfold queued
  cases suppressed with
  | none => exact .inl rfl
  | some reason => exact .inr rfl

variable {host : Host} {kind : DeliveryKind} {id : ℕ} {row : Notification} {desk : Desk}

lemma queueNotification_push (hstate : row.state=.unread) (hopen : row.resolvedAt=none)
    (hcount : 1 ≤ row.occurrences) (hkind : kind≠.test)
    (hnew : ∀ s ∈ desk.enabledSubscriptions,
      (id,s,row.occurrences,kind) ∉ notices desk.pushDeliveries) :
    Announced PushDelivery.notificationId []
      (desk.enabledSubscriptions.map fun s => (id,s,row.occurrences,kind)) desk.pushDeliveries
      (queueNotification p host kind id row desk).pushDeliveries := by
  have hmax : max 1 row.occurrences=row.occurrences := by omega
  unfold queueNotification
  rw [queueNotificationExternal_frame]
  unfold queueNotificationPush
  rw [if_neg (by simp [hstate,hopen]),hmax]
  exact Announced.insertEach
    (fun s => PushDelivery.queued host.now id row.occurrences kind
      (notificationPolicyDecision p desk.preferences row host.now) s) (fun s => s)
    (fun _ _ h => PushDelivery.notice_of_clashes h) (fun _ => if_neg hkind) (fun _ => rfl)
    (fun s => PushDelivery.queued_status _ _ _ _ _ s)
    (by rw [List.map_id']; exact desk.enabledSubscriptions_nodup) hnew

lemma queueNotification_external (hstate : row.state=.unread) (hopen : row.resolvedAt=none)
    (hcount : 1 ≤ row.occurrences)
    (hnew : ∀ s ∈ desk.externalRecipients p host,
      (id,s,row.occurrences,kind) ∉ notices desk.externalDeliveries) :
    Announced ExternalDelivery.notificationId []
      ((desk.externalRecipients p host).map fun s => (id,s,row.occurrences,kind))
      desk.externalDeliveries
      (queueNotification p host kind id row desk).externalDeliveries := by
  have hmax : max 1 row.occurrences=row.occurrences := by omega
  have hframe := queueNotificationPush_frame p host kind id row desk
  unfold queueNotification
  rw [hframe]
  unfold queueNotificationExternal
  rw [if_neg (by simp [hstate,hopen]),hmax,Desk.externalRecipients,List.map_map]
  exact Announced.insertEach
    (fun target => ExternalDelivery.queued p host id row.occurrences kind
      (notificationPolicyDecision p desk.preferences row host.now) target)
    (fun target => (target.1,p.destinationKey target.1 target.2))
    (fun _ _ h => ExternalDelivery.notice_of_clashes h) (fun _ => rfl) (fun _ => rfl)
    (fun target => ExternalDelivery.queued_status p _ _ _ _ _ target)
    (desk.externalRecipients_nodup p host)
    fun target htarget => hnew _ (List.mem_map.mpr ⟨target,htarget,rfl⟩)

/-- The queue for browsers. -/
def pushView : QueueView p PushDelivery where
  table := Desk.pushDeliveries
  recipients _ desk := desk.enabledSubscriptions
  subject := PushDelivery.notificationId
  table_eq h _ := h
  recipients_eq _ h := Desk.enabledSubscriptions_eq h
  nodup _ desk := desk.enabledSubscriptions_nodup
  queue _ _ _ _ _ := queueNotification_push p
  cancel host id push external desk := Announced.update desk.pushDeliveries
    (p:=fun _ r => r.notificationId=id && r.status.cancellable)
    (fun _ _ h => of_decide_eq_true (Bool.and_eq_true_iff.mp h).1)
    fun r => (PushDelivery.cancel_spec host.now _ r).2.2.2
  hushed h := h.push.notices_eq
  worker request desk h := by
    refine (request.push_moves p desk).notices_eq fun hother => ?_
    obtain ⟨host,call⟩ := request
    cases call with
    | recoverExternal | claimExternal => rfl
    | completeExternal | failExternal =>
      simp only [Request.next,DeskCall.commit,completeNotificationExternalDelivery,
        failNotificationExternalDelivery]
      split
      all_goals rfl
    | recoverPush | claimPush | completePush | failPush => cases hother
    | _ => rcases h with h | h <;> exact absurd rfl h

/-- The queue for mail and the webhook. -/
def externalView : QueueView p ExternalDelivery where
  table := Desk.externalDeliveries
  recipients host desk := desk.externalRecipients p host
  subject := ExternalDelivery.notificationId
  table_eq _ h := h
  recipients_eq host h := by rw [Desk.externalRecipients,Desk.externalTargets_eq host h]; rfl
  nodup host desk := desk.externalRecipients_nodup p host
  queue _ _ _ _ _ hstate hopen hcount _ := queueNotification_external p hstate hopen hcount
  cancel host id push external desk := Announced.update desk.externalDeliveries
    (p:=fun _ r => r.notificationId=id && r.status.cancellable)
    (fun _ _ h => of_decide_eq_true (Bool.and_eq_true_iff.mp h).1)
    fun r => (ExternalDelivery.cancel_spec host.now _ r).2.2.2
  hushed h := h.external.notices_eq
  worker request desk h := by
    refine (request.external_moves p desk).notices_eq fun hother => ?_
    obtain ⟨host,call⟩ := request
    cases call with
    | recoverPush | claimPush => rfl
    | completePush | failPush =>
      simp only [Request.next,DeskCall.commit,completeNotificationPushDelivery,
        failNotificationPushDelivery]
      split
      all_goals rfl
    | recoverExternal | claimExternal | completeExternal | failExternal => cases hother
    | _ => rcases h with h | h <;> exact absurd rfl h

end Views
end ZenControl.Attention
