import ZenControl.Reconciliation.Requests

/-! What one event may do to one row of the requests. A request is never deleted and keeps its
target and its revision; its status moves from pending to running and from there to its end. -/
namespace ZenControl.Reconciliation
open Rows
variable {ipAddress : String → Option String}

/-- A later request for a target. -/
def RequestStore.Renewed (store : RequestStore) (id : ℕ) (target : String) : Prop :=
  ∃ k r, store.requests.find k=some r ∧ id < k ∧ r.target=target

/-- The statuses with which an event may finish a request: that of a direct call, or that of the
worker. -/
def Event.Finishes (e : Event) (s : Service) (id : ℕ) (status : RequestStatus) : Prop :=
  (∃ now text applied result error, e=.finish now id text applied result error ∧
    RequestStatus.ofText (nocase (strip (orElse text "failed")))=some status) ∨
  (∃ now adapter run c, e=.work now adapter ∧ s.stage=some (.concluded run c) ∧ run.id=id ∧
    c.status=status) ∨
  status=.failed

/-- One row before and after an event. -/
inductive RowStep (ipAddress : String → Option String) (e : Event) (s : Service) (id : ℕ) :
    Option ReconciliationRequest → Option ReconciliationRequest → Prop
  | kept (r : Option ReconciliationRequest) : RowStep ipAddress e s id r r
  | added {r : ReconciliationRequest} (pending : r.status=.pending) :
      RowStep ipAddress e s id none (some r)
  | superseded {r : ReconciliationRequest} {now : String} (pending : r.status=.pending)
      (renewed : (e.next ipAddress s).store.Renewed id r.target) :
      RowStep ipAddress e s id (some r) (some (r.supersede now))
  | recovered {r : ReconciliationRequest} (call : e=.recover) (running : r.status=.running) :
      RowStep ipAddress e s id (some r) (some r.recover)
  | claimed {r : ReconciliationRequest} {now : String} (pending : r.status=.pending) :
      RowStep ipAddress e s id (some r) (some (r.claim now))
  | finished {r : ReconciliationRequest} {now error : String} {status : RequestStatus}
      {applied : ℤ} {result : Option RequestResult} (running : r.status=.running)
      (finishes : e.Finishes s id status) :
      RowStep ipAddress e s id (some r) (some (r.finish now status applied result error))

lemma RequestStatus.ofText_text (status : RequestStatus) :
    ofText (nocase (strip (orElse status.text "failed")))=
      if status.concluded then some status else none := by
  cases status <;> decide

section Store
variable {store store' : RequestStore}

/-- What an accepted request does: the pending rows of its target are superseded. -/
lemma enqueue_ok {now target actor reason : String} {requestedRevision : ℤ}
    {reply : ℕ × ReconciliationRequest}
    (h : enqueueReconciliationRequest ipAddress now target actor reason requestedRevision store=
      .ok (reply,store')) :
    let row := ReconciliationRequest.queued now target actor reason requestedRevision
    store'.revision=store.revision ∧
      store'.requests=(store.requests.update
        (fun _ r => r.target=row.target && r.status=.pending) (.supersede now)).insert row := by
  unfold enqueueReconciliationRequest at h
  dsimp only at h ⊢
  split_ifs at h with hvalid
  cases h
  exact ⟨rfl,rfl⟩

lemma finish_ok {now status error : String} {id : ℕ} {applied : ℤ}
    {result : Option RequestResult} {reply : Option ReconciliationRequest}
    (h : finishReconciliationRequest now id status applied result error store=
      .ok (reply,store')) :
    ∃ outcome r, RequestStatus.ofText (nocase (strip (orElse status "failed")))=some outcome ∧
      store.requests.find id=some r ∧ r.status=.running ∧ store'.revision=store.revision ∧
      store'.requests=store.requests.modify id (.finish now outcome applied result error) := by
  unfold finishReconciliationRequest at h
  split at h
  · cases h
  · rename_i outcome houtcome
    split_ifs at h with hrunning
    cases h
    cases hr : store.requests.find id with
    | none => rw [hr] at hrunning; cases hrunning
    | some r =>
      rw [hr] at hrunning
      exact ⟨outcome,r,houtcome,rfl,of_decide_eq_true hrunning,rfl,rfl⟩

end Store

section Rows
variable (ipAddress) {e : Event} {s : Service} {store' : RequestStore}

lemma enqueue_rows {now target actor reason : String} {requestedRevision : ℤ}
    {reply : ℕ × ReconciliationRequest} (hnext : (e.next ipAddress s).store=store')
    (h : enqueueReconciliationRequest ipAddress now target actor reason requestedRevision s.store=
      .ok (reply,store')) (id : ℕ) :
    RowStep ipAddress e s id (s.store.requests.find id) (store'.requests.find id) := by
  obtain ⟨-,htable⟩ := enqueue_ok h
  rw [htable,Table.find_insert,Table.find_update]
  split_ifs with hid
  · rw [hid,Table.next_update,Table.find_next]
    exact .added rfl
  · cases hr : s.store.requests.find id with
    | none => exact .kept _
    | some r =>
      rw [Option.map_some]
      split_ifs with hsame
      · obtain ⟨hsame,hpending⟩ := Bool.and_eq_true_iff.mp hsame
        refine .superseded (of_decide_eq_true hpending) ⟨s.store.requests.next,_,?_,?_,
          (of_decide_eq_true hsame).symm⟩
        · rw [hnext,htable,Table.find_insert,Table.next_update,if_pos rfl]
        · exact Nat.lt_succ_of_le (Table.find_le hr)
      · exact .kept _

lemma finish_rows {now status error : String} {id : ℕ} {applied : ℤ}
    {result : Option RequestResult} {reply : Option ReconciliationRequest}
    (h : finishReconciliationRequest now id status applied result error s.store=
      .ok (reply,store'))
    (hfinishes : ∀ outcome,
      RequestStatus.ofText (nocase (strip (orElse status "failed")))=some outcome →
        e.Finishes s id outcome) (k : ℕ) :
    RowStep ipAddress e s k (s.store.requests.find k) (store'.requests.find k) := by
  obtain ⟨outcome,r,houtcome,hr,hrunning,-,htable⟩ := finish_ok h
  rw [htable,Table.find_modify]
  split_ifs with hk
  · subst hk
    rw [hr]
    exact .finished hrunning (hfinishes outcome houtcome)
  · exact .kept _

lemma claim_rows (now : String) (id : ℕ) :
    RowStep ipAddress e s id (s.store.requests.find id)
      ((claimReconciliationRequest now s.store).2.requests.find id) := by
  unfold claimReconciliationRequest
  split
  · exact .kept _
  · rename_i k r hfirst
    obtain ⟨hr,hpending⟩ := Table.first_some hfirst
    dsimp only
    rw [Table.find_modify]
    split_ifs with hid
    · rw [hid,hr]
      exact .claimed (of_decide_eq_true hpending)
    · exact .kept _

lemma startRun_store (now actor : String) (store : RequestStore) :
    (startRun now actor store).2=(claimReconciliationRequest now store).2 := by
  unfold startRun
  split <;> simp_all

/-- Every event is described row by row. -/
theorem Event.row (e : Event) (s : Service) (id : ℕ) :
    RowStep ipAddress e s id (s.store.requests.find id)
      ((e.next ipAddress s).store.requests.find id) := by
  cases e with
  | enqueue now target actor reason requestedRevision =>
    cases h : enqueueReconciliationRequest ipAddress now target actor reason requestedRevision
        s.store with
    | error error => simp only [next.eq_def,h]; exact .kept _
    | ok r =>
      have hnext : (Event.next ipAddress (.enqueue now target actor reason requestedRevision)
        s).store=r.2 := by simp only [next.eq_def,h]
      rw [hnext]
      exact enqueue_rows ipAddress hnext h id
  | claim now => exact claim_rows ipAddress now id
  | finish now k status applied result error =>
    cases h : finishReconciliationRequest now k status applied result error s.store with
    | error error => simp only [next.eq_def,h]; exact .kept _
    | ok r =>
      simp only [next.eq_def,h]
      exact finish_rows ipAddress h (fun _ houtcome => .inl ⟨_,_,_,_,_,rfl,houtcome⟩) id
  | recover =>
    simp only [next.eq_def,recoverReconciliationRequests,Table.find_update]
    cases hr : s.store.requests.find id with
    | none => exact .kept _
    | some r =>
      rw [Option.map_some]
      split_ifs with hrunning
      · exact .recovered rfl (of_decide_eq_true hrunning)
      · exact .kept _
  | configWrite => exact .kept _
  | run now actor =>
    cases hstage : s.stage with
    | none =>
      simp only [next.eq_def,hstage,startRun_store]
      exact claim_rows ipAddress now id
    | some stage => simp only [next.eq_def,hstage]; exact .kept _
  | work now adapter =>
    cases hstage : s.stage with
    | none => simp only [next.eq_def,hstage]; exact .kept _
    | some stage =>
      cases stage with
      | claimed run => simp only [next.eq_def,hstage,Stage.advance.eq_def]; exact .kept _
      | started run revision =>
        simp only [next.eq_def,hstage,Stage.advance.eq_def]
        cases requestedPass adapter run.target <;> exact .kept _
      | passed run revision outcomes failures =>
        simp only [next.eq_def,hstage,Stage.advance.eq_def]; exact .kept _
      | concluded run c =>
        cases h : finishReconciliationRequest now run.id c.status.text c.revision (some c.result)
            c.error s.store with
        | error error => simp only [next.eq_def,hstage,Stage.advance.eq_def,h]; exact .kept _
        | ok r =>
          simp only [next.eq_def,hstage,Stage.advance.eq_def,h]
          refine finish_rows ipAddress h (fun outcome houtcome => ?_) id
          rw [RequestStatus.ofText_text] at houtcome
          split_ifs at houtcome
          obtain rfl := Option.some.inj houtcome
          exact .inr (.inl ⟨now,adapter,run,c,rfl,hstage,rfl,rfl⟩)
      | finished run revision => simp only [next.eq_def,hstage,Stage.advance.eq_def]; exact .kept _
      | renewing run revision requestedRevision =>
        cases h : enqueueReconciliationRequest ipAddress now run.target run.requestActor
            ("Superseding request " ++ toString run.id ++ " at revision " ++ toString revision)
            requestedRevision s.store with
        | error error => simp only [next.eq_def,hstage,Stage.advance.eq_def,h]; exact .kept _
        | ok r =>
          have hnext : (Event.next ipAddress (.work now adapter) s).store=r.2 := by
            simp only [next.eq_def,hstage,Stage.advance.eq_def,h]
          rw [hnext]
          exact enqueue_rows ipAddress hnext h id
      | raised run error => simp only [next.eq_def,hstage,Stage.advance.eq_def]; exact .kept _
      | failing run error revision =>
        cases h : finishReconciliationRequest now run.id "failed" revision
            (some (.raised run.request.target)) error s.store with
        | error error' => simp only [next.eq_def,hstage,Stage.advance.eq_def,h]; exact .kept _
        | ok r =>
          simp only [next.eq_def,hstage,Stage.advance.eq_def,h]
          refine finish_rows ipAddress h (fun outcome houtcome => ?_) id
          have hfailed : some RequestStatus.failed=some outcome := houtcome
          exact .inr (.inr (Option.some.inj hfailed).symm)
  | except error => exact .kept _
  | crash => exact .kept _

end Rows
end ZenControl.Reconciliation
