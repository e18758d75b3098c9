import ZenControl.Attention.Raising

/-! What the calls do to the notifications: one description of what becomes of a row, for every
call, and of the rows that are added. No row is dropped, and no two rows have the same key. -/
namespace ZenControl.Attention
open Rows

/-- What one notification becomes of a request. -/
inductive NotificationMoved (request : Request) (desk : Desk) (k : ℕ) (n n' : Notification) :
    Prop
  | touched (h : Touched n n')
  | upserted {args} (hupsert : request.upsert desk=some args)
    (hfirst : desk.notifications.first (fun r => r.dedupeKey=args.dedupeKey)=some (k,n))
    (h : Touched (n.upserted args desk.preferences request.host.now) n')
    (hresolved : n'.resolvedAt=
      (n.upserted args desk.preferences request.host.now).resolvedAt)
  | evaluated {now} (hcall : request.call=.evaluate now)
    (hcandidate : desk.intelligence.escalationEnabled ∧ n.candidate)
    (h : n'=n.evaluated desk.intelligence (now.getD request.host.now))

/-- Rows that were only touched. -/
structure TouchedRows (t t' : Table Notification) : Prop where
  kept : ∀ {k n}, t.find k=some n → ∃ n', t'.find k=some n' ∧ Touched n n'
  fresh : ∀ {k}, t.find k=none → t'.find k=none

/-- The row that a request adds. -/
structure NotificationAdded (request : Request) (desk : Desk) (k : ℕ) (n' : Notification)
    (args : NotificationArgs) : Prop where
  upsert : request.upsert desk=some args
  first : desk.notifications.first (fun r => r.dedupeKey=args.dedupeKey)=none
  number : k=desk.notifications.next
  row : Touched (args.created request.host.now) n'
  resolvedAt : n'.resolvedAt=none

section Rows
variable {p : Platform} {host : Host} {args : NotificationArgs} {desk desk' : Desk}

/-- The row that an upsert finds, and the others. -/
lemma Upserted.row (h : Upserted p host args desk desk') {id k : ℕ} {row n : Notification}
    (hfirst : desk.notifications.first (fun r => r.dedupeKey=args.dedupeKey)=some (id,row))
    (hn : desk.notifications.find k=some n) : ∃ n', desk'.notifications.find k=some n' ∧
      (k≠id ∧ n'=n ∨ k=id ∧ n=row ∧ Touched (n.upserted args desk.preferences host.now) n' ∧
        n'.resolvedAt=(n.upserted args desk.preferences host.now).resolvedAt) := by
  obtain ⟨-,-,f,hf,hresolved,hnotes⟩ := h
  obtain ⟨-,hid,htable⟩ := upsertNormalized_some p host hfirst
  rw [hnotes,htable,hid,Table.find_modify,Table.find_modify]
  by_cases hk : k=id
  · rw [if_pos hk,if_pos hk,hn]
    subst hk
    obtain rfl : row=n := Option.some.inj ((Table.first_some hfirst).1.symm.trans hn)
    exact ⟨_,rfl,.inr ⟨rfl,rfl,hf _,hresolved _⟩⟩
  · rw [if_neg hk,if_neg hk]
    exact ⟨n,hn,.inl ⟨hk,rfl⟩⟩

end Rows

namespace Request
variable (p : Platform) (request : Request) (desk : Desk)

/-- The workers of the two queues leave the notifications alone. -/
lemma worker_notifications (h : request.call.pushWork request.host desk≠.other ∨
    request.call.externalWork request.host desk≠.other) :
    (request.next p desk).notifications=desk.notifications ∧ request.upsert desk=none := by
  obtain ⟨host,call⟩ := request
  cases call with
  | recoverPush | claimPush | recoverExternal | claimExternal => exact ⟨rfl,rfl⟩
  | completePush | failPush | completeExternal | failExternal =>
    refine ⟨?_,rfl⟩
    simp only [next,DeskCall.commit,completeNotificationPushDelivery,
      failNotificationPushDelivery,completeNotificationExternalDelivery,
      failNotificationExternalDelivery]
    split
    all_goals rfl
  | _ => rcases h with h | h <;> exact absurd rfl h

/-- What a request does to the notifications, in one of three ways. -/
lemma notifications_cases : (∃ now, request.call=.evaluate now) ∨
    request.upsert desk=none ∧
      TouchedRows desk.notifications (request.next p desk).notifications ∨
    ∃ args, request.upsert desk=some args ∧
      Upserted p request.host args desk (request.next p desk) := by
  by_cases he : ∃ now, request.call=.evaluate now
  · exact .inl he
  refine .inr ?_
  by_cases hworker : request.call.pushWork request.host desk=.other ∧
      request.call.externalWork request.host desk=.other
  · have hstep := request.upsert_step p desk (fun now h => he ⟨now,h⟩) hworker.1 hworker.2
    generalize request.upsert desk=upsert at hstep
    cases hstep with
    | hushed h => exact .inl ⟨rfl,h.kept,h.fresh⟩
    | upserted hkey h => exact .inr ⟨_,rfl,h⟩
  · obtain ⟨hnotes,hnone⟩ := worker_notifications p request desk (by tauto)
    exact .inl ⟨hnone,fun hn => ⟨_,by rw [hnotes]; exact hn,.refl _⟩,
      fun hn => by rw [hnotes]; exact hn⟩

/-- A request that upserts a notification does it. -/
lemma upserted {args : NotificationArgs} (h : request.upsert desk=some args) :
    Upserted p request.host args desk (request.next p desk) := by
  rcases notifications_cases p request desk with ⟨now,he⟩ | ⟨hnone,-⟩ | ⟨args',hsome,hu⟩
  · unfold upsert at h
    rw [he] at h
    cases h
  · rw [hnone] at h
    cases h
  · obtain rfl : args'=args := Option.some.inj (hsome.symm.trans h)
    exact hu

/-- What becomes of a notification. -/
theorem notification_moved {k : ℕ} {n : Notification}
    (hn : desk.notifications.find k=some n) :
    ∃ n', (request.next p desk).notifications.find k=some n' ∧
      NotificationMoved request desk k n n' := by
  rcases notifications_cases p request desk with ⟨now,he⟩ | ⟨-,h⟩ | ⟨args,hupsert,h⟩
  · obtain ⟨host,call⟩ := request
    dsimp only at he
    subst he
    have hfind := evaluateNotificationIntelligence_find p host now desk k
    rw [hn,Option.map_some] at hfind
    refine ⟨_,hfind,?_⟩
    split_ifs with hcandidate
    · exact .evaluated rfl (by simpa using hcandidate) rfl
    · exact .touched (.refl n)
  · obtain ⟨n',hn',htouched⟩ := h.kept hn
    exact ⟨n',hn',.touched htouched⟩
  · cases hfirst : desk.notifications.first fun r => r.dedupeKey=args.dedupeKey with
    | none =>
      obtain ⟨m,-,-,hfind⟩ := h.find_none hfirst
      have hne : k≠desk.notifications.next := by
        rintro rfl
        rw [Table.find_next] at hn
        cases hn
      refine ⟨n,?_,.touched (.refl n)⟩
      rw [hfind,if_neg hne]
      exact hn
    | some found =>
      obtain ⟨n',hn',hrow⟩ := h.row hfirst hn
      refine ⟨n',hn',?_⟩
      rcases hrow with ⟨-,rfl⟩ | ⟨hk,hrow,htouched,hresolved⟩
      · exact .touched (.refl _)
      · refine .upserted hupsert ?_ htouched hresolved
        rw [hfirst,hk,hrow]

/-- A row that was not there before. -/
theorem notification_added {k : ℕ} {n' : Notification}
    (hn : desk.notifications.find k=none)
    (hn' : (request.next p desk).notifications.find k=some n') :
    ∃ args, NotificationAdded request desk k n' args := by
  rcases notifications_cases p request desk with ⟨now,he⟩ | ⟨-,h⟩ | ⟨args,hupsert,h⟩
  · obtain ⟨host,call⟩ := request
    dsimp only at he
    subst he
    have hfind := evaluateNotificationIntelligence_find p host now desk k
    rw [hn,Option.map_none] at hfind
    rw [show (next p ⟨host,.evaluate now⟩ desk).notifications.find k=none from hfind] at hn'
    cases hn'
  · rw [show (request.next p desk).notifications.find k=none from h.fresh hn] at hn'
    cases hn'
  · cases hfirst : desk.notifications.first fun r => r.dedupeKey=args.dedupeKey with
    | none =>
      obtain ⟨m,htouched,hresolved,hfind⟩ := h.find_none hfirst
      rw [hfind] at hn'
      split_ifs at hn' with hk
      · obtain rfl := Option.some.inj hn'
        exact ⟨args,hupsert,hfirst,hk,htouched,hresolved⟩
      · rw [hn] at hn'
        cases hn'
    | some found =>
      obtain ⟨-,-,f,-,-,hnotes⟩ := h
      rw [hnotes,(upsertNormalized_some p request.host hfirst).2.2,Table.find_modify,
        Table.find_modify,hn] at hn'
      split_ifs at hn' <;> cases hn'

end Request
end ZenControl.Attention
