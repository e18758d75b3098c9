import ZenControl.Reconciliation.RequestRows
import Mathlib.Data.List.Induction

/-! No reconciliation intent is lost. A request that the worker finishes as superseded is enqueued
again in a second transaction, and a change of the configuration is noticed between two readings of
the revision; what the queue holds then, and what happens between the transactions, decides. -/
namespace ZenControl.Reconciliation
open Rows Histories

def Service.Running (s : Service) (id : ℕ) : Prop :=
  ∃ r, s.store.requests.find id=some r ∧ r.status=.running

/-- Every superseded request has a later one for its target. -/
def Service.SupersededRenewed (s : Service) : Prop :=
  ∀ id r, s.store.requests.find id=some r → r.status=.superseded → s.store.Renewed id r.target

/-- A later request for the target of a running one, enqueued at the present revision. -/
def Service.Covered (s : Service) (id : ℕ) : Prop :=
  ∀ r, s.store.requests.find id=some r → r.status=.running →
    ∃ k r', s.store.requests.find k=some r' ∧ id < k ∧ r'.target=r.target ∧
      s.store.revision ≤ r'.requestedRevision

section Histories
variable (ipAddress : String → Option String)

/-- The service after a history of its events. -/
def serviceAfter (events : List Event) : Service := after (Event.next ipAddress) events {}

/-- A configuration transaction committed while the request was running. -/
def ChangedWhileRunning (events : List Event) (id : ℕ) : Prop :=
  ∃ before later, events=before ++ .configWrite::later ∧
    (serviceAfter ipAddress before).Running id

/-- A change of the configuration during a run that has ended is recorded as a failure or
answered by a request for the same target at a later or equal revision. -/
def ChangesAnswered (events : List Event) : Prop :=
  ∀ before later, events=before ++ .configWrite::later →
    ∀ id, (serviceAfter ipAddress before).Running id →
      ∀ r, (serviceAfter ipAddress events).store.requests.find id=some r → r.status.concluded →
        r.status=.failed ∨
          ∃ k r', (serviceAfter ipAddress events).store.requests.find k=some r' ∧
            r'.target=r.target ∧
            (serviceAfter ipAddress (before ++ [.configWrite])).store.revision ≤
              r'.requestedRevision

/-- No intent is lost in the state after a history. -/
def IntentKept (events : List Event) : Prop :=
  (serviceAfter ipAddress events).SupersededRenewed ∧ ChangesAnswered ipAddress events

/-- The points at which a configuration transaction goes unnoticed: before the first reading of
the revision, and after the last one. -/
def Stage.blind : Stage → Bool
  | .claimed _ | .concluded _ _ => true
  | _ => false

/-- What an event must not do after the history before it. -/
def Event.Harmless (before : List Event) : Event → Prop
  | .configWrite => (serviceAfter ipAddress before).stage.any Stage.blind=false
  | .work _ _ => ∀ run c, (serviceAfter ipAddress before).stage=some (.concluded run c) →
      c.status=.superseded → (serviceAfter ipAddress before).Covered run.id
  | .recover => ∀ id, (serviceAfter ipAddress before).Running id →
      ¬ChangedWhileRunning ipAddress before id
  | .finish _ id status _ _ _ =>
      let outcome := RequestStatus.ofText (nocase (strip (orElse status "failed")))
      outcome=some .failed ∨
        outcome≠some .superseded ∧ ¬ChangedWhileRunning ipAddress before id
  | _ => True

/-- Every event of a history is harmless where it happens. -/
def Undisturbed (events : List Event) : Prop :=
  ∀ before e rest, events=before ++ e::rest → e.Harmless ipAddress before

end Histories

variable {ipAddress : String → Option String}

lemma Undisturbed.init {events : List Event} {e : Event}
    (h : Undisturbed ipAddress (events ++ [e])) : Undisturbed ipAddress events := by
  rintro before e' rest rfl
  exact h before e' (rest ++ [e]) (by simp)

lemma Undisturbed.last {events : List Event} {e : Event}
    (h : Undisturbed ipAddress (events ++ [e])) : e.Harmless ipAddress events :=
  h events e [] rfl

lemma serviceAfter_append (events : List Event) (e : Event) :
    serviceAfter ipAddress (events ++ [e])=e.next ipAddress (serviceAfter ipAddress events) :=
  after_append events [e] _

section Step
variable {e : Event} {s : Service} {id : ℕ}

/-- A row stays, with its target and its revision. -/
lemma RowStep.stays {r : ReconciliationRequest} {o : Option ReconciliationRequest}
    (h : RowStep ipAddress e s id (some r) o) :
    ∃ r', o=some r' ∧ r'.target=r.target ∧ r'.requestedRevision=r.requestedRevision := by
  cases h with
  | kept => exact ⟨r,rfl,rfl,rfl⟩
  | superseded => exact ⟨_,rfl,rfl,rfl⟩
  | recovered => exact ⟨_,rfl,rfl,rfl⟩
  | claimed => exact ⟨_,rfl,rfl,rfl⟩
  | finished => exact ⟨_,rfl,rfl,rfl⟩

variable (ipAddress) in
lemma Event.row_stays (e : Event) {r : ReconciliationRequest}
    (hr : s.store.requests.find id=some r) :
    ∃ r', (e.next ipAddress s).store.requests.find id=some r' ∧ r'.target=r.target ∧
      r'.requestedRevision=r.requestedRevision := by
  have hrow := e.row ipAddress s id
  rw [hr] at hrow
  exact hrow.stays

lemma RequestStore.Renewed.next {target : String} (h : s.store.Renewed id target) (e : Event) :
    (e.next ipAddress s).store.Renewed id target := by
  obtain ⟨k,r,hr,hlt,htarget⟩ := h
  obtain ⟨r',hr',htarget',-⟩ := e.row_stays ipAddress hr
  exact ⟨k,r',hr',hlt,htarget'.trans htarget⟩

/-- The revision that a run started from. -/
def Stage.startRevision : Stage → Option ℕ
  | .started _ revision | .passed _ revision _ _ => some revision
  | _ => none

/-- A run that will notice a change to this revision, if it is the one that ends its request. -/
def Stage.Aware (revision : ℕ) : Stage → Prop
  | .claimed _ => False
  | .started _ start | .passed _ start _ _ => start < revision
  | .concluded _ c => c.status=.failed ∨ c.status=.superseded
  | _ => True

section Advance
variable {now : String} {adapter : Adapter} {stage stage' : Stage} {store : RequestStore}

/-- The points of a run in their order. -/
inductive Stage.Next (store : RequestStore) : Stage → Stage → Prop
  | start (run : RequestRun) : Next store (.claimed run) (.started run store.revision)
  | pass (run : RequestRun) (revision : ℕ) (outcomes : List Reconciled) (failures : List String) :
      Next store (.started run revision) (.passed run revision outcomes failures)
  | conclude (run : RequestRun) (revision : ℕ) (outcomes : List Reconciled)
      (failures : List String) : Next store (.passed run revision outcomes failures)
        (.concluded run (run.conclude revision store.revision outcomes failures))
  | supersede (run : RequestRun) {c : Conclusion} (h : c.status=.superseded) :
      Next store (.concluded run c) (.finished run c.revision)
  | renew (run : RequestRun) (revision : ℕ) :
      Next store (.finished run revision) (.renewing run revision store.revision)
  | except (stage : Stage) (error : String) : Next store stage (.raised stage.run error)
  | record (run : RequestRun) (error : String) :
      Next store (.raised run error) (.failing run error store.revision)

/-- What the worker may do next. -/
lemma Stage.advance_next (h : (stage.advance ipAddress now adapter store).1=some stage') :
    Stage.Next store stage stage' := by
  cases stage with
  | claimed run => cases h; exact .start run
  | started run revision =>
    simp only [advance.eq_def] at h
    split at h
    · cases h; exact .pass run revision _ _
    · cases h; exact .except (.started run revision) _
  | passed run revision outcomes failures => cases h; exact .conclude run revision _ _
  | concluded run c =>
    simp only [advance.eq_def] at h
    split at h
    · dsimp only at h
      split_ifs at h with hstatus
      cases h; exact .supersede run hstatus
    · cases h; exact .except (.concluded run c) _
  | finished run revision => cases h; exact .renew run revision
  | renewing run revision requestedRevision =>
    simp only [advance.eq_def] at h
    split at h
    · cases h
    · cases h; exact .except (.renewing run revision requestedRevision) _
  | raised run error => cases h; exact .record run error
  | failing run error revision =>
    simp only [advance.eq_def] at h
    split at h <;> cases h

lemma Stage.Next.run_eq (h : Stage.Next store stage stage') : stage'.run=stage.run := by
  cases h <;> rfl

lemma Stage.advance_revision (stage : Stage) (store : RequestStore) :
    (stage.advance ipAddress now adapter store).2.revision=store.revision := by
  cases stage with
  | concluded run c =>
    simp only [advance.eq_def]
    split
    · rename_i hfinish
      exact (finish_ok hfinish).choose_spec.choose_spec.2.2.2.1
    · rfl
  | renewing run revision requestedRevision =>
    simp only [advance.eq_def]
    split
    · rename_i henqueue
      exact (enqueue_ok henqueue).1
    · rfl
  | failing run error revision =>
    simp only [advance.eq_def]
    split
    · rename_i hfinish
      exact (finish_ok hfinish).choose_spec.choose_spec.2.2.2.1
    · rfl
  | started run revision =>
    simp only [advance.eq_def]
    split <;> rfl
  | _ => rfl

lemma Stage.Next.startRevision_eq {revision : ℕ} (h : Stage.Next store stage stage')
    (hstart : stage'.startRevision=some revision) :
    stage.startRevision=some revision ∨ revision=store.revision := by
  cases h with
  | start run => exact .inr (Option.some.inj hstart).symm
  | pass run start outcomes failures => exact .inl hstart
  | conclude | supersede | renew | except | record => cases hstart

/-- A run that started before a change and reads the revision after it, ends as failed or as
superseded. -/
lemma RequestRun.conclude_changed (run : RequestRun) {start finished : ℕ} (h : start < finished)
    (outcomes : List Reconciled) (failures : List String) :
    (run.conclude start finished outcomes failures).status=.failed ∨
      (run.conclude start finished outcomes failures).status=.superseded := by
  have hne : finished≠start := by omega
  unfold conclude
  dsimp only
  split_ifs
  · exact .inl rfl
  · exact .inr rfl

lemma Stage.Aware.next {revision : ℕ} (ha : stage.Aware revision)
    (hrev : revision ≤ store.revision) (h : Stage.Next store stage stage') :
    stage'.Aware revision := by
  cases h with
  | start run => exact ha.elim
  | pass run start outcomes failures => exact ha
  | conclude run start outcomes failures =>
    exact run.conclude_changed (Nat.lt_of_lt_of_le ha hrev) outcomes failures
  | supersede | renew | except | record => trivial

end Advance
/-- What an event does to the worker: nothing, a claim, a step, or the end of its run. -/
lemma Event.stage_cases {stage' : Stage} (h : (e.next ipAddress s).stage=some stage') :
    s.stage=some stage' ∨
    (s.stage=none ∧ ∃ id r now actor, s.store.requests.find id=some r ∧ r.status=.pending ∧
      stage'=.claimed ⟨id,r.claim now,actor⟩) ∨
    ∃ stage, s.stage=some stage ∧ Stage.Next s.store stage stage' ∧
      (e.next ipAddress s).store.revision=s.store.revision := by
  cases e with
  | enqueue now target actor reason requestedRevision =>
    refine .inl ?_
    simp only [next.eq_def] at h
    split at h <;> exact h
  | claim now => exact .inl h
  | finish now k status applied result error =>
    refine .inl ?_
    simp only [next.eq_def] at h
    split at h <;> exact h
  | recover => exact .inl h
  | configWrite => exact .inl h
  | run now actor =>
    cases hstage : s.stage with
    | some stage => simp only [next.eq_def,hstage] at h; exact .inl h
    | none =>
      refine .inr (.inl ⟨rfl,?_⟩)
      simp only [next.eq_def,hstage,startRun,claimReconciliationRequest] at h
      cases hfirst : s.store.requests.first fun r => r.status=.pending with
      | none => rw [hfirst] at h; cases h
      | some found =>
        rw [hfirst] at h
        cases h
        obtain ⟨hr,hpending⟩ := Table.first_some hfirst
        exact ⟨_,_,now,actor,hr,of_decide_eq_true hpending,rfl⟩
  | work now adapter =>
    cases hstage : s.stage with
    | none => simp only [next.eq_def,hstage] at h; cases h
    | some stage =>
      have hrevision : (Event.next ipAddress (.work now adapter) s).store.revision=
          s.store.revision := by
        simp only [next.eq_def,hstage]
        exact stage.advance_revision s.store
      simp only [next.eq_def,hstage] at h
      exact .inr (.inr ⟨stage,rfl,Stage.advance_next h,hrevision⟩)
  | except error =>
    cases hstage : s.stage with
    | none => simp only [next.eq_def,hstage] at h; cases h
    | some stage =>
      simp only [next.eq_def,hstage,Option.bind_some] at h
      have hraised : stage'=.raised stage.run error := by
        cases stage <;> first | exact (Option.some.inj h).symm | cases h
      subst hraised
      exact .inr (.inr ⟨stage,rfl,.except stage error,rfl⟩)
  | crash => cases h

variable (ipAddress) in
lemma Event.revision_cases (e : Event) (s : Service) :
    (e.next ipAddress s).store.revision=s.store.revision ∨
      e=.configWrite ∧ (e.next ipAddress s).store.revision=s.store.revision+1 := by
  cases e with
  | enqueue now target actor reason requestedRevision =>
    refine .inl ?_
    simp only [next.eq_def]
    split
    · rename_i henqueue
      exact (enqueue_ok henqueue).1
    · rfl
  | claim now =>
    refine .inl ?_
    simp only [next.eq_def,claimReconciliationRequest]
    split <;> rfl
  | finish now k status applied result error =>
    refine .inl ?_
    simp only [next.eq_def]
    split
    · rename_i hfinish
      obtain ⟨_,_,-,-,-,hrevision,-⟩ := finish_ok hfinish
      exact hrevision
    · rfl
  | recover => exact .inl rfl
  | configWrite => exact .inr ⟨rfl,rfl⟩
  | run now actor =>
    refine .inl ?_
    cases hstage : s.stage with
    | some stage => simp only [next.eq_def,hstage]
    | none =>
      simp only [next.eq_def,hstage,startRun_store,claimReconciliationRequest]
      split <;> rfl
  | work now adapter =>
    refine .inl ?_
    cases hstage : s.stage with
    | none => simp only [next.eq_def,hstage]
    | some stage =>
      simp only [next.eq_def,hstage]
      exact stage.advance_revision s.store
  | except error => exact .inl rfl
  | crash => exact .inl rfl

lemma Event.revision_le (e : Event) (s : Service) :
    s.store.revision ≤ (e.next ipAddress s).store.revision := by
  rcases e.revision_cases ipAddress s with h | ⟨-,h⟩ <;> omega

/-- What every state of a history meets, disturbed or not. -/
structure Service.Sound (ipAddress : String → Option String) (s : Service) : Prop where
  started : ∀ stage, s.stage=some stage →
    ∀ revision, stage.startRevision=some revision → revision ≤ s.store.revision

lemma Service.Sound.start : Service.Sound ipAddress {} where
  started _ h := by cases h

lemma Service.Sound.next (h : s.Sound ipAddress) (e : Event) :
    (e.next ipAddress s).Sound ipAddress where
  started stage' hstage' revision hrevision := by
    refine Nat.le_trans ?_ (e.revision_le s)
    rcases Event.stage_cases hstage' with
      hstage | ⟨-,id,r,now,actor,-,-,rfl⟩ | ⟨stage,hstage,hnext,-⟩
    · exact h.started stage' hstage revision hrevision
    · cases hrevision
    · rcases hnext.startRevision_eq hrevision with hstart | rfl
      · exact h.started stage hstage revision hstart
      · exact Nat.le_refl _

end Step

section Histories
variable {events : List Event} {e : Event} {id : ℕ}

variable (ipAddress) in
lemma serviceAfter_sound (events : List Event) : (serviceAfter ipAddress events).Sound ipAddress :=
  after_invariant (P:=fun _ => True) (I:=Service.Sound ipAddress) (fun _ _ => trivial) .start
    fun e _ _ hs => hs.next e

/-- No disturbance: a superseded request is renewed. -/
lemma Service.SupersededRenewed.next (h : (serviceAfter ipAddress events).SupersededRenewed)
    (he : e.Harmless ipAddress events) :
    (e.next ipAddress (serviceAfter ipAddress events)).SupersededRenewed := by
  intro id r' hr' hsuperseded
  have hrow := e.row ipAddress (serviceAfter ipAddress events) id
  rw [hr'] at hrow
  cases hr : (serviceAfter ipAddress events).store.requests.find id with
  | none =>
    rw [hr] at hrow
    cases hrow with
    | added hpending => rw [hpending] at hsuperseded; cases hsuperseded
  | some r =>
    rw [hr] at hrow
    cases hrow with
    | kept => exact (h id r' hr hsuperseded).next e
    | superseded _ hrenewed => exact hrenewed
    | recovered => cases hsuperseded
    | claimed => cases hsuperseded
    | finished hrunning hfinishes =>
      obtain rfl : _=RequestStatus.superseded := hsuperseded
      rcases hfinishes with
        ⟨_,_,_,_,_,rfl,houtcome⟩ | ⟨now,adapter,run,c,rfl,hstage,rfl,hstatus⟩ | hfailed
      · rcases he with hfailed | ⟨hne,-⟩
        · rw [houtcome] at hfailed; cases hfailed
        · exact absurd houtcome hne
      · obtain ⟨k,q,hq,hlt,htarget,-⟩ := he run c hstage hstatus r hr hrunning
        exact RequestStore.Renewed.next ⟨k,q,hq,hlt,htarget⟩ _
      · cases hfailed

/-- How a change of the configuration while a request was running is answered. -/
def Service.Answers (s : Service) (id : ℕ) (target : String) (revision : ℕ) : Prop :=
  ∃ r, s.store.requests.find id=some r ∧ r.target=target ∧
    ((r.status=.running ∧
        ∀ stage, s.stage=some stage → stage.run.id=id → stage.Aware revision) ∨
      r.status=.failed ∨
      ∃ k r', s.store.requests.find k=some r' ∧ r'.target=target ∧
        revision ≤ r'.requestedRevision)

/-- A running request is not claimed again, and its run stays aware of the change. -/
lemma Event.aware_next {s : Service} {revision : ℕ} {r : ReconciliationRequest}
    (hr : s.store.requests.find id=some r) (hrunning : r.status=.running)
    (hrevision : revision ≤ s.store.revision)
    (h : ∀ stage, s.stage=some stage → stage.run.id=id → stage.Aware revision)
    (stage' : Stage) (hstage' : (e.next ipAddress s).stage=some stage')
    (hid : stage'.run.id=id) : stage'.Aware revision := by
  rcases Event.stage_cases hstage' with
    hstage | ⟨-,k,r',now,actor,hr',hpending,rfl⟩ | ⟨stage,hstage,hnext,-⟩
  · exact h stage' hstage hid
  · obtain rfl : k=id := hid
    obtain rfl : r=r' := Option.some.inj (hr.symm.trans hr')
    rw [hrunning] at hpending
    cases hpending
  · rw [hnext.run_eq] at hid
    exact (h stage hstage hid).next hrevision hnext

lemma Service.Answers.next {target : String} {revision : ℕ}
    (h : (serviceAfter ipAddress events).Answers id target revision)
    (hchanged : ChangedWhileRunning ipAddress events id)
    (hrevision : revision ≤ (serviceAfter ipAddress events).store.revision)
    (he : e.Harmless ipAddress events) :
    (e.next ipAddress (serviceAfter ipAddress events)).Answers id target revision := by
  obtain ⟨r,hr,htarget,hcases⟩ := h
  obtain ⟨r',hr',htarget',-⟩ := e.row_stays ipAddress hr
  have hrow := e.row ipAddress (serviceAfter ipAddress events) id
  rw [hr,hr'] at hrow
  refine ⟨r',hr',htarget'.trans htarget,?_⟩
  rcases hcases with ⟨hrunning,haware⟩ | hfailed | ⟨k,q,hq,hqtarget,hqrevision⟩
  · cases hrow with
    | kept => exact .inl ⟨hrunning,Event.aware_next hr hrunning hrevision haware⟩
    | superseded hpending _ => rw [hrunning] at hpending; cases hpending
    | recovered hcall _ =>
      subst hcall
      exact absurd hchanged (he id ⟨r,hr,hrunning⟩)
    | claimed hpending => rw [hrunning] at hpending; cases hpending
    | finished _ hfinishes =>
      rcases hfinishes with
        ⟨_,_,_,_,_,rfl,houtcome⟩ | ⟨now,adapter,run,c,rfl,hstage,hid,rfl⟩ | hfailed
      · rcases he with hfailed | ⟨-,hquiet⟩
        · rw [houtcome] at hfailed
          exact .inr (.inl (Option.some.inj hfailed))
        · exact absurd hchanged hquiet
      · rcases haware _ hstage hid with hfailed | hsuperseded
        · exact .inr (.inl hfailed)
        · -- the worker hands the request over to a later one that is there already
          obtain ⟨k,q,hq,-,hqtarget,hqrevision⟩ := he run c hstage hsuperseded r (hid ▸ hr) hrunning
          obtain ⟨q',hq',hsame,hsame'⟩ := Event.row_stays ipAddress (.work now adapter) hq
          exact .inr (.inr ⟨k,q',hq',hsame.trans (hqtarget.trans htarget),
            hsame' ▸ hrevision.trans hqrevision⟩)
      · exact .inr (.inl hfailed)
  · cases hrow with
    | kept => exact .inr (.inl hfailed)
    | superseded hpending _ => rw [hfailed] at hpending; cases hpending
    | recovered _ hrunning => rw [hfailed] at hrunning; cases hrunning
    | claimed hpending => rw [hfailed] at hpending; cases hpending
    | finished hrunning _ => rw [hfailed] at hrunning; cases hrunning
  · obtain ⟨q',hq',hsame,hsame'⟩ := e.row_stays ipAddress hq
    exact .inr (.inr ⟨k,q',hq',hsame.trans hqtarget,hsame' ▸ hqrevision⟩)

lemma Undisturbed.nil : Undisturbed ipAddress [] := by
  intro before e rest h
  simp at h

lemma Undisturbed.snoc (h : Undisturbed ipAddress events) (he : e.Harmless ipAddress events) :
    Undisturbed ipAddress (events ++ [e]) := by
  intro before e' rest hsplit
  rcases List.eq_nil_or_concat rest with rfl | ⟨rest,last,rfl⟩
  · obtain ⟨rfl,hlast⟩ := List.append_inj' hsplit rfl
    cases hlast
    exact he
  · rw [List.concat_eq_append,← List.cons_append,← List.append_assoc] at hsplit
    exact h before e' rest (List.append_inj' hsplit rfl).1

lemma Undisturbed.renewed (h : Undisturbed ipAddress events) :
    (serviceAfter ipAddress events).SupersededRenewed := by
  induction events using List.reverseRecOn with
  | nil => intro id r hr; cases hr
  | append_singleton events e ih =>
    rw [serviceAfter_append]
    exact (ih h.init).next h.last

/-- Right after a change that did not go unnoticed, the run of the request is aware of it. -/
lemma Service.Answers.start (he : Event.Harmless ipAddress events .configWrite)
    {r : ReconciliationRequest}
    (hr : (serviceAfter ipAddress events).store.requests.find id=some r)
    (hrunning : r.status=.running) :
    (serviceAfter ipAddress (events ++ [.configWrite])).Answers id r.target
      (serviceAfter ipAddress (events ++ [.configWrite])).store.revision := by
  have hs := serviceAfter_sound ipAddress events
  rw [serviceAfter_append]
  refine ⟨r,hr,rfl,.inl ⟨hrunning,fun stage hstage _ => ?_⟩⟩
  replace hstage : (serviceAfter ipAddress events).stage=some stage := hstage
  have hseen : stage.blind=false := by
    simpa [Event.Harmless,hstage] using he
  have hstarted := hs.started stage hstage
  cases stage with
  | claimed run => cases hseen
  | concluded run c => cases hseen
  | started run revision => exact Nat.lt_succ_of_le (hstarted revision rfl)
  | passed run revision outcomes failures => exact Nat.lt_succ_of_le (hstarted revision rfl)
  | finished | renewing | raised | failing => trivial

lemma serviceAfter_revision_le (events later : List Event) :
    (serviceAfter ipAddress events).store.revision ≤
      (serviceAfter ipAddress (events ++ later)).store.revision := by
  induction later using List.reverseRecOn with
  | nil => rw [List.append_nil]
  | append_singleton later e ih =>
    rw [← List.append_assoc,serviceAfter_append]
    exact ih.trans (e.revision_le _)

lemma Undisturbed.answers {later : List Event} {r : ReconciliationRequest}
    (hr : (serviceAfter ipAddress events).store.requests.find id=some r)
    (hrunning : r.status=.running)
    (h : Undisturbed ipAddress (events ++ [.configWrite] ++ later)) :
    (serviceAfter ipAddress (events ++ [.configWrite] ++ later)).Answers id r.target
      (serviceAfter ipAddress (events ++ [.configWrite])).store.revision := by
  induction later using List.reverseRecOn with
  | nil =>
    rw [List.append_nil] at h ⊢
    exact .start h.last hr hrunning
  | append_singleton later e ih =>
    rw [← List.append_assoc] at h ⊢
    rw [serviceAfter_append]
    refine (ih h.init).next ⟨events,later,by simp,r,hr,hrunning⟩ ?_ h.last
    exact serviceAfter_revision_le _ later

lemma Undisturbed.answered (h : Undisturbed ipAddress events) :
    ChangesAnswered ipAddress events := by
  rintro before later rfl id ⟨r₀,hr₀,hrunning⟩ r hr hconcluded
  rw [List.append_cons] at h hr ⊢
  obtain ⟨r',hr',htarget,hcases⟩ := h.answers hr₀ hrunning
  obtain rfl : r=r' := Option.some.inj (hr.symm.trans hr')
  rcases hcases with ⟨hstill,-⟩ | hfailed | ⟨k,q,hq,hsame,hrevision⟩
  · rw [hstill] at hconcluded
    cases hconcluded
  · exact .inl hfailed
  · exact .inr ⟨k,q,hq,hsame.trans htarget.symm,hrevision⟩

end Histories

/-- A request for all devices, whose run is caught by a change of the configuration. -/
def changedRun : List Event :=
  [.enqueue "10:00:00" "*" "admin" "Manual all-device policy apply requested" 0,
   .run "10:00:01" "system:requested",.work "10:00:01" {},.configWrite,.work "10:00:02" {},
   .work "10:00:02" {},.work "10:00:02" {}]

/-- While it runs, the same is requested again for the new revision; the worker ends its request as
superseded, and the process stops before it can enqueue a third one. -/
def coveredRun : List Event :=
  [.enqueue "10:00:00" "*" "admin" "Manual all-device policy apply requested" 0,
   .run "10:00:01" "system:requested",.work "10:00:01" {},.configWrite,
   .enqueue "10:00:02" "*" "admin" "Manual all-device policy apply requested" 1,
   .work "10:00:02" {},.work "10:00:02" {},.work "10:00:02" {},.crash]

/-- What the worker does before it has concluded. -/
lemma Event.Harmless.work {events : List Event} {now : String} {adapter : Adapter} {stage : Stage}
    (hstage : (serviceAfter ipAddress events).stage=some stage)
    (hstart : ∀ run c, stage≠.concluded run c) :
    (Event.work now adapter).Harmless ipAddress events := by
  intro run c hconcluded
  exact absurd (Option.some.inj (hstage.symm.trans hconcluded)) (hstart run c)

/-- The only request is superseded. -/
lemma Service.not_renewed {s : Service} (hlast : s.store.requests.last=1)
    (hstatus : (s.store.requests.find 1).map ReconciliationRequest.status=some .superseded) :
    ¬s.SupersededRenewed := by
  intro h
  obtain ⟨r,hr,hsuperseded⟩ := Option.map_eq_some_iff.mp hstatus
  obtain ⟨k,r',hr',hlt,-⟩ := h 1 r hr hsuperseded
  have hle := Table.find_le hr'
  omega

/-- A run whose last reading of the revision is followed by a change. -/
def overtakenRun : List Event :=
  [.enqueue "10:00:00" "*" "admin" "Manual all-device policy apply requested" 0,
   .run "10:00:01" "system:requested",.work "10:00:01" {},.work "10:00:02" {},
   .work "10:00:02" {},.configWrite,.work "10:00:02" {}]

end ZenControl.Reconciliation
