import ZenControl.Attention.Requeueing
import ZenControl.Attention.SummaryRows

/-! Settled deliveries. A failure is recorded on a row without a look at its status, so a row
that was cancelled while a worker sent it goes back to the queue unless the failure is its
last one; and an operator may retry every summary that is not sent, not only a failed one.
These are the only ways in which a settled delivery is worked on again. -/
namespace ZenControl.Attention
open Rows Histories

section Queue
variable {α : Type} [Queueable α] {now : ℤ} {work : Work α} {t t' t'' : Table α}
open Queueable

/-- No delivery that was settled is worked on again. -/
def StaysSettled (t t' : Table α) : Prop :=
  ∀ id r r', t.find id=some r → t'.find id=some r' → (status r).Settled → (status r').Settled

/-- The rows are kept, and the settled ones stay settled. -/
def KeepsSettled (t t' : Table α) : Prop :=
  ∀ id r, t.find id=some r →
    ∃ r', t'.find id=some r' ∧ ((status r).Settled → (status r').Settled)

/-- A failure of a settled row is its last one. -/
def Work.FailsInTime : Work α → Table α → Prop
  | .fail id failure,t => ∀ r, t.find id=some r → (status r).Settled → terminal failure r
  | _,_ => True

lemma KeepsSettled.refl (t : Table α) : KeepsSettled t t := fun _ r h => ⟨r,h,id⟩

lemma KeepsSettled.trans (h : KeepsSettled t t') (h' : KeepsSettled t' t'') :
    KeepsSettled t t'' := by
  intro id r hr
  obtain ⟨r',hr',hs⟩ := h id r hr
  obtain ⟨r'',hr'',hs'⟩ := h' id r' hr'
  exact ⟨r'',hr'',hs' ∘ hs⟩

lemma KeepsSettled.stays (h : KeepsSettled t t') : StaysSettled t t' := by
  intro id r r' hr hr' hs
  obtain ⟨row,hrow,hkeep⟩ := h id r hr
  obtain rfl : row=r' := Option.some.inj (hrow.symm.trans hr')
  exact hkeep hs

lemma Dropped.settled {r r' : α} (h : Dropped r r') (hs : (status r).Settled) :
    (status r').Settled := by
  rcases h with rfl | ⟨hc,-⟩
  · exact hs
  · rw [hs.not_cancellable] at hc; cases hc

/-- The step: every call keeps settled rows, but for a failure that comes too late. -/
lemma Work.Moves.keepsSettled (h : work.Moves now t t') (ok : work.FailsInTime t) :
    KeepsSettled t t' := by
  intro k r hr
  obtain ⟨r',hr',hmoved⟩ := h.row hr
  refine ⟨r',hr',fun hs => ?_⟩
  cases hmoved with
  | dropped hd => exact hd.settled hs
  | recovered hstale =>
    rw [stale_sending hstale] at hs
    exact absurd hs (by decide)
  | claimed hp =>
    rw [hp] at hs
    exact absurd hs (by decide)
  | completed =>
    rw [status_complete]
    decide
  | failed =>
    rw [status_fail,if_pos (ok r hr hs)]
    decide

lemma Work.Moves.failsInTime (h : work.Moves now t t') (hs : StaysSettled t t') :
    work.FailsInTime t := by
  cases work with
  | fail id failure =>
    intro r hr hset
    have hr' : t'.find id=some (Queueable.fail now failure r) := by
      rw [h,Table.find_modify,if_pos rfl,hr]; rfl
    have := hs id r _ hr hr' hset
    rw [status_fail] at this
    split_ifs at this with ht
    · exact ht
    · exact absurd this (by decide)
  | _ => trivial

end Queue

/-- A failure of a settled row is its last one, in each of the three queues. -/
def Request.FailsInTime (request : Request) (desk : Desk) : Prop :=
  (request.call.pushWork request.host desk).FailsInTime desk.pushDeliveries ∧
    (request.call.externalWork request.host desk).FailsInTime desk.externalDeliveries ∧
    match request.call with
    | .failSummary id _ retryLimit => ∀ r, desk.summaryDeliveries.find id=some r →
      r.status.Settled → retryLimit ≤ r.attempts
    | _ => True

/-- Between any two points of a history a settled delivery stays settled; a summary that had
failed does unless an operator retries it in between. -/
def SettledForGood (p : Platform) (requests : List Request) : Prop :=
  ∀ before later rest, requests=before ++ later ++ rest →
    let desk := deskAfter p before
    let desk' := deskAfter p (before ++ later)
    StaysSettled desk.pushDeliveries desk'.pushDeliveries ∧
      StaysSettled desk.externalDeliveries desk'.externalDeliveries ∧
      ∀ id r r', desk.summaryDeliveries.find id=some r → desk'.summaryDeliveries.find id=some r' →
        r.status.Settled →
        (r.status=.failed → ∀ request ∈ later, request.call≠.retrySummary id) →
        r'.status.Settled

/-- The request is a retry of the summary that is not refused: the summary is there and not
sent. -/
def Request.Retries (request : Request) (id : ℕ) (desk : Desk) : Prop :=
  request.call=.retrySummary id ∧
    ∃ r, desk.summaryDeliveries.find id=some r ∧ r.status≠.sent

/-- A summary that is retried was not settled before, other than as failed. -/
def RetriesFailed (p : Platform) (requests : List Request) : Prop :=
  ∀ before between request rest, requests=before ++ between ++ request::rest → ∀ id,
    request.Retries id (deskAfter p (before ++ between)) → ∀ r,
    (deskAfter p before).summaryDeliveries.find id=some r → r.status.Settled → r.status=.failed

section Summaries
variable {p : Platform} {request : Request} {desk : Desk}

/-- A summary that was settled, or settled and then dropped. -/
def Retired (id : ℕ) (desk : Desk) : Prop :=
  id < desk.summaryDeliveries.next ∧
    ∀ r, desk.summaryDeliveries.find id=some r → r.status.Settled

/-- A retry that is not refused puts the summary back into the queue. -/
lemma Request.Retries.pending {id : ℕ} (h : request.Retries id desk) :
    ∃ r', (request.next p desk).summaryDeliveries.find id=some r' ∧ r'.status=.pending := by
  obtain ⟨host,call⟩ := request
  obtain ⟨hcall,r,hr,hsent⟩ := h
  obtain rfl : call=.retrySummary id := hcall
  have hretried : (desk.summaryDeliveries.modify id (.retry host.now)).find id=
      some (r.retry host.now) := by
    rw [Table.find_modify,if_pos rfl,hr]; rfl
  refine ⟨r.retry host.now,?_,rfl⟩
  simp only [next,DeskCall.commit,retrySummaryDelivery,hr,if_neg hsent,replySummary,hretried]
  exact hretried

/-- A retry of a sent summary is refused. -/
lemma Request.retry_refused {id : ℕ} {r : SummaryDelivery}
    (hcall : request.call=.retrySummary id) (hr : desk.summaryDeliveries.find id=some r)
    (hsent : r.status=.sent) :
    (request.next p desk).summaryDeliveries=desk.summaryDeliveries := by
  obtain ⟨host,call⟩ := request
  obtain rfl : call=.retrySummary id := hcall
  simp only [next,DeskCall.commit,retrySummaryDelivery,hr,if_pos hsent]
  rfl

lemma Request.retired {id : ℕ} (h : Retired id desk) (ok : request.FailsInTime desk)
    (hretry : ¬request.Retries id desk) : Retired id (request.next p desk) := by
  obtain ⟨hid,hset⟩ := h
  have hchange := request.summary_change p desk
  refine ⟨Nat.lt_of_lt_of_le hid hchange.next_le,fun r' hr' => ?_⟩
  cases hr : desk.summaryDeliveries.find id with
  | none =>
    have := (hchange.fresh hr hr').1
    omega
  | some r =>
    have hs := hset r hr
    rcases hchange.row hr with ⟨hnone,-⟩ | ⟨row,hrow,hmoved⟩
    · rw [hnone] at hr'; cases hr'
    obtain rfl : row=r' := Option.some.inj (hrow.symm.trans hr')
    obtain ⟨host,call⟩ := request
    cases hmoved with
    | kept hsame => rw [hsame]; exact hs
    | cancelled => exact .inl rfl
    | recovered hsending => rw [hsending] at hs; exact absurd hs (by decide)
    | claimed hw =>
      rcases r.waiting_iff.mp hw with hp | hp
      all_goals
        rw [hp] at hs
        exact absurd hs (by decide)
    | deferred hsending => rw [hsending] at hs; exact absurd hs (by decide)
    | completed => exact .inr (.inl rfl)
    | failed =>
      have hlimit := ok.2.2 r hr hs
      refine .inr (.inr (.inr ?_))
      simp only [SummaryDelivery.fail]
      rw [decide_eq_true hlimit]; rfl
    | retried =>
      -- the retry was refused, so the row is the one that was there
      have hsent : r.status=.sent := by
        by_contra hne
        exact hretry ⟨rfl,r,hr,hne⟩
      rw [retry_refused rfl hr hsent,hr,Option.some.injEq] at hrow
      rw [← hrow]
      exact hs

lemma Request.failsInTime
    (hp : StaysSettled desk.pushDeliveries (request.next p desk).pushDeliveries)
    (he : StaysSettled desk.externalDeliveries (request.next p desk).externalDeliveries)
    (hs : ∀ id r r', desk.summaryDeliveries.find id=some r →
      (request.next p desk).summaryDeliveries.find id=some r' → r.status.Settled →
      request.call≠.retrySummary id → r'.status.Settled) :
    request.FailsInTime desk := by
  refine ⟨(request.push_moves p desk).failsInTime hp,
    (request.external_moves p desk).failsInTime he,?_⟩
  obtain ⟨host,call⟩ := request
  cases call with
  | failSummary id error retryLimit =>
    intro r hr hset
    let t := desk.summaryDeliveries.modify id
      (.fail host.now (clip error 500) retryLimit)
    have hfail : t.find id=some (r.fail host.now (clip error 500) retryLimit) := by
      rw [Table.find_modify,if_pos rfl,hr]; rfl
    have hr' : (Request.next p ⟨host,.failSummary id error retryLimit⟩
        desk).summaryDeliveries.find id=
        some (r.fail host.now (clip error 500) retryLimit) := by
      simp only [next,DeskCall.commit,failSummaryDelivery,replySummary]
      rw [show (desk.summaryDeliveries.modify id
        (.fail host.now (clip error 500) retryLimit)).find id=_ from hfail]
      exact hfail
    have := hs id r _ hr hr' hset (by simp)
    by_contra hlt
    simp only [SummaryDelivery.fail] at this
    rw [decide_eq_false hlt] at this
    exact absurd this (by decide)
  | _ => trivial

end Summaries

/-- A subscription is disabled while its delivery is being sent, and then the send fails. -/
def disabledWhileSending : List Request :=
  [.registerPush "ana" "https://push.example" "key" "auth",.testPush 1 "ana",.claimPush 10,
    .disablePush "ana" "https://push.example",.failPush 1 "timeout" false].map (⟨{},·⟩)

end ZenControl.Attention
