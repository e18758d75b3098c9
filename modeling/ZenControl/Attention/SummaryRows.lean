import ZenControl.Attention.Queues
import ZenControl.Attention.Frames

/-! What the calls do to the queue of summaries: one description of what becomes of a row, for
every call. A row is dropped only when it is settled, and its number is not given out again. -/
namespace ZenControl.Attention
open Rows

/-- What one summary becomes of a call. -/
inductive SummaryMoved (now : ℤ) (k : ℕ) (r : SummaryDelivery) :
    DeskCall → SummaryDelivery → Prop
  | kept {call r'} (hs : r'.status=r.status) (ha : r'.attempts=r.attempts) :
    SummaryMoved now k r call r'
  | cancelled {call error} : SummaryMoved now k r call (r.cancel now error)
  | recovered (h : r.status=.sending) : SummaryMoved now k r .recoverSummaries (r.recover now)
  | claimed {limit retryLimit} (h : r.waiting) :
    SummaryMoved now k r (.claimSummaries limit retryLimit) (r.claim now)
  | deferred {error delaySeconds delay text} (h : r.status=.sending) :
    SummaryMoved now k r (.deferSummary k error delaySeconds) (r.defer now delay text)
  | completed : SummaryMoved now k r (.completeSummary k) (r.complete now)
  | failed {error retryLimit} :
    SummaryMoved now k r (.failSummary k error retryLimit)
      (r.fail now (clip error 500) retryLimit)
  | retried : SummaryMoved now k r (.retrySummary k) (r.retry now)

/-- The summaries before and after a call. -/
structure SummaryChange (now : ℤ) (call : DeskCall) (t t' : Table SummaryDelivery) :
    Prop where
  row : ∀ {k r}, t.find k=some r →
    t'.find k=none ∧ r.status.Settled ∨ ∃ r', t'.find k=some r' ∧ SummaryMoved now k r call r'
  fresh : ∀ {k r'}, t.find k=none → t'.find k=some r' →
    k=t.next ∧ r'.status=.pending ∧ r'.attempts=0
  next_le : t.next ≤ t'.next

namespace SummaryChange
variable {now : ℤ} {call : DeskCall}

lemma same (t : Table SummaryDelivery) : SummaryChange now call t t where
  row h := .inr ⟨_,h,.kept rfl rfl⟩
  fresh h h' := by rw [h] at h'; cases h'
  next_le := Nat.le_refl _

lemma of_eq {t t' : Table SummaryDelivery} (h : t'=t) : SummaryChange now call t t' := by
  rw [h]
  exact same t

lemma update (t : Table SummaryDelivery) {p : ℕ → SummaryDelivery → Bool}
    {f : SummaryDelivery → SummaryDelivery}
    (h : ∀ k r, p k r → SummaryMoved now k r call (f r)) :
    SummaryChange now call t (t.update p f) where
  row {k r} hr := by
    refine .inr ⟨if p k r then f r else r,by rw [Table.find_update,hr]; rfl,?_⟩
    split_ifs with hp
    · exact h k r hp
    · exact .kept rfl rfl
  fresh hr hr' := by
    rw [Table.find_update,hr] at hr'
    cases hr'
  next_le := Nat.le_refl _

lemma insert (t : Table SummaryDelivery) {r : SummaryDelivery} (hs : r.status=.pending)
    (ha : r.attempts=0) : SummaryChange now call t (t.insert r) where
  row hr := .inr ⟨_,Table.find_insert_of_find hr,.kept rfl rfl⟩
  fresh hr hr' := by
    rcases Table.find_insert_cases hr' with hr' | ⟨hk,rfl⟩
    · rw [hr] at hr'; cases hr'
    · exact ⟨hk,hs,ha⟩
  next_le := Nat.le_succ _

lemma delete (t : Table SummaryDelivery) {p : ℕ → SummaryDelivery → Bool}
    (h : ∀ k r, p k r → r.status.Settled) : SummaryChange now call t (t.delete p) where
  row {k r} hr := by
    rw [Table.find_delete,hr]
    cases hp : p k r with
    | true => exact .inl ⟨by simp [Option.filter,hp],h k r hp⟩
    | false => exact .inr ⟨r,by simp [Option.filter,hp],.kept rfl rfl⟩
  fresh hr hr' := by
    rw [Table.find_delete,hr] at hr'
    cases hr'
  next_le := Nat.le_refl _

end SummaryChange

lemma SummaryDelivery.waiting_iff (r : SummaryDelivery) :
    r.waiting ↔ r.status=.pending ∨ r.status=.retry := by simp [waiting]

lemma SummaryDelivery.claim_not_waiting (now : ℤ) (r : SummaryDelivery) :
    (r.claim now).waiting=false := rfl

section Calls
variable (p : Platform) (host : Host)

lemma claimEach_next {α : Type} (waiting : α → Bool) (claim : α → α) (rows : List (ℕ × α))
    (t : Table α) : (claimEach waiting claim rows t).2.next=t.next := by
  induction rows generalizing t with
  | nil => rfl
  | cons r rows ih =>
    obtain ⟨i,_⟩ := r
    simp only [claimEach]
    split
    · exact ih t
    · split_ifs
      · exact ih _
      · exact ih t

lemma claimSummaries_change (limit retryLimit : ℤ) (desk : Desk) :
    SummaryChange host.now (.claimSummaries limit retryLimit) desk.summaryDeliveries
      ((claimSummaryDeliveries host limit retryLimit desk).commit desk).summaryDeliveries where
  row {k r} hr := by
    simp only [claimSummaryDeliveries,Call.commit]
    rw [claimEach_find (SummaryDelivery.claim_not_waiting host.now),hr]
    refine .inr ⟨_,rfl,?_⟩
    dsimp only
    split_ifs with h
    · exact .claimed h.1
    · exact .kept rfl rfl
  fresh hr hr' := by
    simp only [claimSummaryDeliveries,Call.commit] at hr'
    rw [claimEach_find (SummaryDelivery.claim_not_waiting host.now),hr] at hr'
    cases hr'
  next_le := by
    simp only [claimSummaryDeliveries,Call.commit,claimEach_next]
    exact Nat.le_refl _

/-- A summary call writes the table, or refuses and leaves it. -/
lemma replySummary_change {now : ℤ} {call : DeskCall} (id : ℕ) {desk : Desk}
    {t : Table SummaryDelivery} (h : SummaryChange now call desk.summaryDeliveries t) :
    SummaryChange now call desk.summaryDeliveries
      ((replySummary id { desk with summaryDeliveries := t }).commit desk).summaryDeliveries := by
  unfold replySummary
  split
  · exact .same _
  · exact h

lemma enqueueSummary_change (args : SummaryArgs) (desk : Desk) :
    SummaryChange host.now (.enqueueSummary args) desk.summaryDeliveries
      ((enqueueSummaryDelivery p host args desk).commit desk).summaryDeliveries := by
  unfold enqueueSummaryDelivery
  dsimp only
  split_ifs
  · exact .same _
  · split
    all_goals exact .same _
  · split
    · exact .same _
    · exact .same _
    · exact .same _
    · split
      · rename_i id row _
        simp only [Call.commit]
        split_ifs
        · exact .same _
        · exact .update _ fun k r _ => .kept rfl rfl
      · exact .insert _ rfl rfl

/-- What a request does to the summaries. -/
theorem Request.summary_change (request : Request) (desk : Desk) :
    SummaryChange request.host.now request.call desk.summaryDeliveries
      (request.next p desk).summaryDeliveries := by
  obtain ⟨host,call⟩ := request
  cases hs : call.onSummaries with
  | false => exact .of_eq (DeskCall.commit_summaries p host hs desk)
  | true =>
    cases call with
    | enqueueSummary args => exact enqueueSummary_change p host args desk
    | updateSummaryDestination id destination =>
      simp only [next,DeskCall.commit,updateSummaryDeliveryDestination]
      split_ifs
      · exact .same _
      · exact replySummary_change id (.update _ fun k r _ => .kept rfl rfl)
    | cancelSummary id reason =>
      exact replySummary_change id (.update _ fun k r _ => .cancelled)
    | cancelDisabledSummaries scheduledEnabled enabledChannels =>
      simp only [next,DeskCall.commit,cancelDisabledSummaryDeliveries,Call.commit]
      exact .update _ fun k r _ => .cancelled
    | recoverSummaries =>
      simp only [next,DeskCall.commit,recoverSummaryDeliveries,Call.commit]
      exact .update _ fun k r h => .recovered (by simpa using h)
    | claimSummaries limit retryLimit => exact claimSummaries_change host limit retryLimit desk
    | deferSummary id error delaySeconds =>
      refine replySummary_change id (.update _ fun k r h => ?_)
      have hk := Bool.and_eq_true_iff.mp h
      obtain rfl : k=id := by simpa using hk.1
      exact .deferred (by simpa using hk.2)
    | completeSummary id =>
      refine replySummary_change id (.update _ fun k r h => ?_)
      obtain rfl : k=id := by simpa using (Bool.and_eq_true_iff.mp h).1
      exact .completed
    | failSummary id error retryLimit =>
      refine replySummary_change id (.update _ fun k r h => ?_)
      obtain rfl : k=id := by simpa using h
      exact .failed
    | retrySummary id =>
      simp only [next,DeskCall.commit,retrySummaryDelivery]
      split
      · exact .same _
      · split_ifs
        · exact .same _
        · refine replySummary_change id (.update _ fun k r h => ?_)
          obtain rfl : k=id := by simpa using h
          exact .retried
    | pruneSummaries retentionDays =>
      simp only [next,DeskCall.commit,pruneSummaryDeliveries,Call.commit]
      refine .delete _ fun k r h => ?_
      have hs := (Bool.and_eq_true_iff.mp h).2
      revert hs
      cases r.status <;> decide
    | _ => cases hs

end Calls
end ZenControl.Attention
