import ZenControl.Attention.Operations

/-! The two delivery queues of notifications as one kind of queue: what the calls of a worker
make of a row, and that all other calls only add rows that were not tried yet and cancel rows
that wait or are being sent. -/
namespace ZenControl.Attention
open Rows

/-- What a push delivery delivers: the notification, the subscription, the occurrence and the
kind. -/
def PushDelivery.notice (r : PushDelivery) : Option (ℕ × ℕ × ℕ × DeliveryKind) :=
  if r.kind=.test then none else some (r.notificationId,r.subscriptionId,r.occurrence,r.kind)

/-- What an external delivery delivers: the notification, the channel with the key of its
destination, the occurrence and the kind. -/
def ExternalDelivery.notice (r : ExternalDelivery) :
    Option (ℕ × (Channel × String) × ℕ × DeliveryKind) :=
  match r.idempotencyKey with
  | .notification id channel key occurrence kind => some (id,(channel,key),occurrence,kind)
  | .test _ _ _ => none

/-- A row on which the workers of a queue work, with what their calls make of it. -/
class Queueable (α : Type) where
  status : α → DeliveryStatus
  attempts : α → ℕ
  limit : α → ℕ
  /-- How a worker reports a failure. -/
  Failure : Type
  /-- Where a row goes. -/
  Recipient : Type
  /-- The notification, the target, the occurrence and the kind of a row; a test has none. -/
  notice : α → Option (ℕ × Recipient × ℕ × DeliveryKind)
  stale : ℤ → α → Bool
  recover : ℤ → α → α
  claim : ℤ → α → α
  complete : ℤ → α → α
  fail : ℤ → Failure → α → α
  /-- Whether a reported failure is the last one of a row. -/
  terminal : Failure → α → Bool
  stale_sending : ∀ {now r}, stale now r → status r=.sending
  status_recover : ∀ now r, status (recover now r)=.pending
  status_claim : ∀ now r, status (claim now r)=.sending
  status_complete : ∀ now r, status (complete now r)=.sent
  status_fail : ∀ now f r, status (fail now f r)=if terminal f r then .failed else .pending
  attempts_recover : ∀ now r, attempts (recover now r)=attempts r
  attempts_claim : ∀ now r, attempts (claim now r)=attempts r+1
  attempts_complete : ∀ now r, attempts (complete now r)=attempts r
  attempts_fail : ∀ now f r, attempts (fail now f r)=attempts r
  limit_recover : ∀ now r, limit (recover now r)=limit r
  limit_claim : ∀ now r, limit (claim now r)=limit r
  limit_complete : ∀ now r, limit (complete now r)=limit r
  limit_fail : ∀ now f r, limit (fail now f r)=limit r
  notice_recover : ∀ now r, notice (recover now r)=notice r
  notice_claim : ∀ now r, notice (claim now r)=notice r
  notice_complete : ∀ now r, notice (complete now r)=notice r
  notice_fail : ∀ now f r, notice (fail now f r)=notice r
  /-- A row that is given back after a failure has attempts left. -/
  lt_limit : ∀ {f r}, 1 ≤ limit r → terminal f r=false → attempts r < limit r

attribute [simp] Queueable.notice_recover Queueable.notice_claim Queueable.notice_complete
  Queueable.notice_fail Queueable.status_recover Queueable.status_claim Queueable.status_complete
  Queueable.status_fail Queueable.attempts_recover Queueable.attempts_claim
  Queueable.attempts_complete Queueable.attempts_fail Queueable.limit_recover
  Queueable.limit_claim Queueable.limit_complete Queueable.limit_fail

lemma countOr_of_pos {n default : ℕ} (h : 1 ≤ n) : countOr n default=n := by
  unfold countOr
  rw [if_neg (by omega)]

instance : Queueable PushDelivery where
  status := PushDelivery.status
  attempts := PushDelivery.attempts
  limit := PushDelivery.maxAttempts
  Failure := String × Bool
  Recipient := ℕ
  notice := PushDelivery.notice
  stale := PushDelivery.stale
  recover := PushDelivery.recover
  claim := PushDelivery.claim
  complete := PushDelivery.complete
  fail now f := PushDelivery.fail now f.1 f.2
  terminal f := PushDelivery.terminal f.2
  stale_sending h := by simpa using (Bool.and_eq_true_iff.mp h).1
  status_recover _ _ := rfl
  status_claim _ _ := rfl
  status_complete _ _ := rfl
  status_fail _ _ _ := rfl
  attempts_recover _ _ := rfl
  attempts_claim _ _ := rfl
  attempts_complete _ _ := rfl
  attempts_fail _ _ _ := rfl
  limit_recover _ _ := rfl
  limit_claim _ _ := rfl
  limit_complete _ _ := rfl
  limit_fail _ _ _ := rfl
  notice_recover _ _ := rfl
  notice_claim _ _ := rfl
  notice_complete _ _ := rfl
  notice_fail _ _ _ := rfl
  lt_limit hl h := by
    simpa [countOr_of_pos hl] using (Bool.or_eq_false_iff.mp h).2

instance : Queueable ExternalDelivery where
  status := ExternalDelivery.status
  attempts := ExternalDelivery.attempts
  limit := ExternalDelivery.maxAttempts
  Failure := String × Bool × ℤ
  Recipient := Channel × String
  notice := ExternalDelivery.notice
  stale := ExternalDelivery.stale
  recover := ExternalDelivery.recover
  claim := ExternalDelivery.claim
  complete := ExternalDelivery.complete
  fail now f := ExternalDelivery.fail now f.1 f.2.1 f.2.2
  terminal f := ExternalDelivery.terminal f.2.1
  stale_sending h := by simpa using (Bool.and_eq_true_iff.mp h).1
  status_recover _ _ := rfl
  status_claim _ _ := rfl
  status_complete _ _ := rfl
  status_fail _ _ _ := rfl
  attempts_recover _ _ := rfl
  attempts_claim _ _ := rfl
  attempts_complete _ _ := rfl
  attempts_fail _ _ _ := rfl
  limit_recover _ _ := rfl
  limit_claim _ _ := rfl
  limit_complete _ _ := rfl
  limit_fail _ _ _ := rfl
  notice_recover _ _ := rfl
  notice_claim _ _ := rfl
  notice_complete _ _ := rfl
  notice_fail _ _ _ := rfl
  lt_limit hl h := by
    simpa [countOr_of_pos hl] using (Bool.or_eq_false_iff.mp h).2

namespace DeliveryStatus

@[simp] lemma cancellable_iff (s : DeliveryStatus) :
    s.cancellable=true ↔ s=.pending ∨ s=.sending := by
  cases s <;> decide

lemma Settled.not_cancellable {s : DeliveryStatus} (h : s.Settled) : s.cancellable=false := by
  revert h
  cases s <;> decide

end DeliveryStatus

section Queued
variable {α : Type} [Queueable α]
open Queueable

/-- A row that was never claimed and may be. -/
def Untried (r : α) : Prop := attempts r=0 ∧ 1 ≤ limit r

/-- A row that was left alone, or cancelled before it was settled. -/
def Dropped (r r' : α) : Prop :=
  r'=r ∨ (status r).cancellable ∧ status r'=.cancelled ∧ attempts r'=attempts r ∧
    limit r'=limit r

/-- Rows were added or cancelled, and nothing else. -/
structure Queued (t t' : Table α) : Prop where
  kept : ∀ {k r}, t.find k=some r → ∃ r', t'.find k=some r' ∧ Dropped r r'
  fresh : ∀ {k r'}, t.find k=none → t'.find k=some r' → Untried r'

lemma Dropped.trans {r r' r'' : α} (h : Dropped r r') (h' : Dropped r' r'') : Dropped r r'' := by
  rcases h with rfl | ⟨hc,hs,ha,hl⟩
  · exact h'
  · rcases h' with rfl | ⟨hc',-⟩
    · exact .inr ⟨hc,hs,ha,hl⟩
    · rw [hs] at hc'; cases hc'

lemma Dropped.untried {r r' : α} (h : Dropped r r') (hr : Untried r) : Untried r' := by
  rcases h with rfl | ⟨-,-,ha,hl⟩
  · exact hr
  · exact ⟨ha.trans hr.1,hl ▸ hr.2⟩

namespace Queued

@[refl] lemma refl (t : Table α) : Queued t t where
  kept h := ⟨_,h,.inl rfl⟩
  fresh h h' := by rw [h] at h'; cases h'

lemma of_eq {t t' : Table α} (h : t'=t) : Queued t t' := h ▸ refl t

lemma trans {t t' t'' : Table α} (h : Queued t t') (h' : Queued t' t'') : Queued t t'' where
  kept hk := by
    obtain ⟨r',hr',hd⟩ := h.kept hk
    obtain ⟨r'',hr'',hd'⟩ := h'.kept hr'
    exact ⟨r'',hr'',hd.trans hd'⟩
  fresh {k r''} hk hk'' := by
    cases hk' : t'.find k with
    | none => exact h'.fresh hk' hk''
    | some r' =>
      obtain ⟨r,hr,hd⟩ := h'.kept hk'
      rw [hk''] at hr
      cases hr
      exact hd.untried (h.fresh hk hk')

/-- A cancelling update. -/
lemma update (t : Table α) {p : ℕ → α → Bool} {f : α → α}
    (hp : ∀ k r, p k r → (status r).cancellable)
    (hf : ∀ r, status (f r)=.cancelled ∧ attempts (f r)=attempts r ∧ limit (f r)=limit r) :
    Queued t (t.update p f) where
  kept {k r} h := by
    rw [Table.find_update,h]
    refine ⟨if p k r then f r else r,rfl,?_⟩
    split_ifs with hpr
    · exact .inr ⟨hp k r hpr,hf r⟩
    · exact .inl rfl
  fresh h h' := by
    rw [Table.find_update,h] at h'
    cases h'

lemma insert (t : Table α) {r : α} (hr : Untried r) : Queued t (t.insert r) where
  kept h := ⟨_,Table.find_insert_of_find h,.inl rfl⟩
  fresh h h' := by
    rcases Table.find_insert_cases h' with h' | ⟨-,rfl⟩
    · rw [h] at h'; cases h'
    · exact hr

lemma insertUnless (t : Table α) {clash : α → Bool} {r : α} (hr : Untried r) :
    Queued t (t.insertUnless clash r) := by
  unfold Table.insertUnless
  split_ifs
  · exact refl t
  · exact insert t hr

lemma foldl {β : Type} {f : Table α → β → Table α} (hf : ∀ t b, Queued t (f t b))
    (bs : List β) (t : Table α) : Queued t (bs.foldl f t) := by
  induction bs generalizing t with
  | nil => exact refl t
  | cons b bs ih => exact (hf t b).trans (ih _)

end Queued

/-- The notices of a queue, in the order in which they were queued. -/
def notices (t : Table α) : List (ℕ × Recipient α × ℕ × DeliveryKind) :=
  t.rows.filterMap fun r => notice r.2

lemma notices_update (t : Table α) {p : ℕ → α → Bool} {f : α → α}
    (hf : ∀ r, notice (f r)=notice r) : notices (t.update p f)=notices t := by
  unfold notices Table.update
  rw [List.filterMap_map]
  congr 1
  funext r
  simp only [Function.comp]
  split_ifs
  · exact hf r.2
  · rfl

lemma notices_insert (t : Table α) (r : α) :
    notices (t.insert r)=notices t ++ (notice r).toList := by
  unfold notices Table.insert
  rw [List.filterMap_append]
  cases h : notice r <;> simp [h]

lemma mem_notices {t : Table α} {n : ℕ × Recipient α × ℕ × DeliveryKind} :
    n ∈ notices t ↔ ∃ k r, t.find k=some r ∧ notice r=some n := by
  unfold notices
  rw [List.mem_filterMap]
  constructor
  · rintro ⟨⟨k,r⟩,hr,hn⟩
    exact ⟨k,r,Table.mem_iff.mp hr,hn⟩
  · rintro ⟨k,r,hr,hn⟩
    exact ⟨(k,r),Table.mem_iff.mpr hr,hn⟩

/-- A new notice is queued. -/
lemma notices_insertUnless {t : Table α} {clash : α → Bool} {r : α}
    {n : ℕ × Recipient α × ℕ × DeliveryKind} (hclash : ∀ b, clash b → notice b=notice r)
    (hr : notice r=some n) (hnew : n ∉ notices t) :
    notices (t.insertUnless clash r)=notices t ++ [n] := by
  have hnone : (t.first clash).isSome=false := by
    cases hfirst : t.first clash with
    | none => rfl
    | some found =>
      obtain ⟨k,b⟩ := found
      obtain ⟨hb,hclashes⟩ := Table.first_some hfirst
      exact absurd (mem_notices.mpr ⟨k,b,hb,(hclash b hclashes).trans hr⟩) hnew
  unfold Table.insertUnless
  rw [hnone,if_neg (by decide),notices_insert,hr]; rfl

/-- Nothing but tests was added. -/
structure Muted (t t' : Table α) : Prop extends Queued t t' where
  notices_eq : notices t'=notices t

namespace Muted

@[refl] lemma refl (t : Table α) : Muted t t := ⟨.refl t,rfl⟩

lemma of_eq {t t' : Table α} (h : t'=t) : Muted t t' := h ▸ refl t

lemma trans {t t' t'' : Table α} (h : Muted t t') (h' : Muted t' t'') : Muted t t'' :=
  ⟨h.toQueued.trans h'.toQueued,h'.notices_eq.trans h.notices_eq⟩

/-- A cancelling update. -/
lemma update (t : Table α) {p : ℕ → α → Bool} {f : α → α}
    (hp : ∀ k r, p k r → (status r).cancellable)
    (hf : ∀ r, status (f r)=.cancelled ∧ attempts (f r)=attempts r ∧ limit (f r)=limit r ∧
      notice (f r)=notice r) : Muted t (t.update p f) where
  toQueued := Queued.update t hp fun r => ⟨(hf r).1,(hf r).2.1,(hf r).2.2.1⟩
  notices_eq := notices_update t fun r => (hf r).2.2.2

lemma insert (t : Table α) {r : α} (hr : Untried r) (htest : notice r=none) :
    Muted t (t.insert r) where
  toQueued := Queued.insert t hr
  notices_eq := by rw [notices_insert,htest]; exact List.append_nil _

end Muted

/-- What the loop of a claim leaves of a row. -/
lemma claimEach_find {α : Type} {waiting : α → Bool} {claim : α → α}
    (hclaim : ∀ r, waiting (claim r)=false) (rows : List (ℕ × α)) (t : Table α) (k : ℕ) :
    (claimEach waiting claim rows t).2.find k=(t.find k).map fun r =>
      if waiting r ∧ k ∈ rows.map Prod.fst then claim r else r := by
  induction rows generalizing t with
  | nil => simp [claimEach]
  | cons r rows ih =>
    obtain ⟨i,_⟩ := r
    simp only [claimEach,List.map_cons,List.mem_cons]
    cases hi : t.find i with
    | none =>
      dsimp only
      rw [ih]
      by_cases hk : k=i
      · rw [hk,hi]; rfl
      · congr 1; funext r; simp only [hk,false_or]
    | some row =>
      dsimp only
      by_cases hw : waiting row
      · rw [if_pos hw]
        dsimp only
        rw [ih]
        by_cases hk : k=i
        · subst hk
          simp [Table.find_modify,hi,hw,hclaim]
        · have hm : (t.modify i claim).find k=t.find k := by rw [Table.find_modify,if_neg hk]
          rw [hm]
          congr 1; funext r; simp only [hk,false_or]
      · rw [if_neg hw,ih]
        by_cases hk : k=i
        · subst hk
          simp [hi,hw]
        · congr 1; funext r; simp only [hk,false_or]

/-- A claim hands out a row once, and hands out the rows that it moves. -/
lemma claimEach_count {α : Type} {waiting : α → Bool} {claim : α → α}
    (hclaim : ∀ r, waiting (claim r)=false) (rows : List (ℕ × α)) (t : Table α) (k : ℕ) :
    ((claimEach waiting claim rows t).1.map Prod.fst).count k=
      if (t.find k).any waiting ∧ k ∈ rows.map Prod.fst then 1 else 0 := by
  induction rows generalizing t with
  | nil => simp [claimEach]
  | cons r rows ih =>
    obtain ⟨i,_⟩ := r
    simp only [claimEach,List.map_cons,List.mem_cons]
    cases hi : t.find i with
    | none =>
      dsimp only
      rw [ih]
      by_cases hk : k=i
      · subst hk; simp [hi]
      · simp only [hk,false_or]
    | some row =>
      dsimp only
      by_cases hw : waiting row
      · rw [if_pos hw]
        simp only [List.map_cons,List.count_cons]
        rw [ih]
        by_cases hk : k=i
        · subst hk
          simp [Table.find_modify,hi,hw,hclaim]
        · have hm : (t.modify i claim).find k=t.find k := by rw [Table.find_modify,if_neg hk]
          have hi : ¬i=k := fun e => hk e.symm
          simp only [hm,beq_iff_eq,hi,hk,if_false,Nat.add_zero,false_or]
      · rw [if_neg hw,ih]
        by_cases hk : k=i
        · subst hk
          simp [hi,hw]
        · simp only [hk,false_or]

/-- What a call does to a queue; a claim comes with the rows it selected. -/
inductive Work (α : Type) [Queueable α]
  | recover
  | claim (rows : List (ℕ × α))
  | complete (id : ℕ)
  | fail (id : ℕ) (failure : Failure α)
  | other

/-- What one row becomes of a call. -/
inductive Moved (now : ℤ) (k : ℕ) (r : α) : Work α → α → Prop
  | dropped {work r'} (h : Dropped r r') : Moved now k r work r'
  | recovered (h : stale now r) : Moved now k r .recover (recover now r)
  | claimed {rows} (h : status r=.pending) : Moved now k r (.claim rows) (claim now r)
  | completed : Moved now k r (.complete k) (complete now r)
  | failed {failure} : Moved now k r (.fail k failure) (fail now failure r)

namespace Work

/-- The tables before and after a call. -/
def Moves (now : ℤ) : Work α → Table α → Table α → Prop
  | recover,t,t' => t'=t.update (fun _ r => stale now r) (Queueable.recover now)
  | claim rows,t,t' => t'=(claimEach (fun r => status r=.pending) (Queueable.claim now) rows t).2
  | complete id,t,t' => t'=t.modify id (Queueable.complete now)
  | fail id failure,t,t' => t'=t.modify id (Queueable.fail now failure)
  | other,t,t' => Queued t t'

/-- How often a call hands out a row. -/
def claims (now : ℤ) : Work α → Table α → ℕ → ℕ
  | claim rows,t,k =>
    ((claimEach (fun r => status r=.pending) (Queueable.claim now) rows t).1.map Prod.fst).count k
  | _,_,_ => 0

variable {now : ℤ} {work : Work α} {t t' : Table α} {k : ℕ} {r r' : α}

lemma claimed_not_pending (r : α) :
    decide (status (Queueable.claim now r)=.pending)=false := by
  rw [status_claim]; rfl

lemma claimEach_notices (waiting : α → Bool) {claim : α → α}
    (hclaim : ∀ r, notice (claim r)=notice r) (rows : List (ℕ × α)) (t : Table α) :
    notices (claimEach waiting claim rows t).2=notices t := by
  induction rows generalizing t with
  | nil => rfl
  | cons r rows ih =>
    obtain ⟨i,_⟩ := r
    simp only [claimEach]
    split
    · exact ih t
    · split_ifs
      · exact (ih _).trans (notices_update t hclaim)
      · exact ih t

/-- A worker adds nothing. -/
lemma Moves.notices_eq (h : work.Moves now t t')
    (hother : work=.other → notices t'=notices t) : notices t'=notices t := by
  cases work with
  | recover => subst h; exact notices_update t fun r => notice_recover now r
  | claim rows => subst h; exact claimEach_notices _ (notice_claim now) rows t
  | complete id => subst h; exact notices_update t fun r => notice_complete now r
  | fail id failure => subst h; exact notices_update t fun r => notice_fail now failure r
  | other => exact hother rfl

lemma Moves.row (h : work.Moves now t t') (hr : t.find k=some r) :
    ∃ r', t'.find k=some r' ∧ Moved now k r work r' := by
  cases work with
  | recover =>
    subst h
    rw [Table.find_update,hr]
    refine ⟨_,rfl,?_⟩
    dsimp only
    split_ifs with hs
    · exact .recovered hs
    · exact .dropped (.inl rfl)
  | claim rows =>
    subst h
    rw [claimEach_find claimed_not_pending,hr]
    refine ⟨_,rfl,?_⟩
    dsimp only
    split_ifs with hs
    · exact .claimed (by simpa using hs.1)
    · exact .dropped (.inl rfl)
  | complete id =>
    subst h
    rw [Table.find_modify,hr]
    split_ifs with hk
    · subst hk
      exact ⟨_,rfl,.completed⟩
    · exact ⟨_,rfl,.dropped (.inl rfl)⟩
  | fail id failure =>
    subst h
    rw [Table.find_modify,hr]
    split_ifs with hk
    · subst hk
      exact ⟨_,rfl,.failed⟩
    · exact ⟨_,rfl,.dropped (.inl rfl)⟩
  | other =>
    obtain ⟨r',hr',hd⟩ := Queued.kept h hr
    exact ⟨r',hr',.dropped hd⟩

/-- A row that was not there is one that was never claimed. -/
lemma Moves.fresh (h : work.Moves now t t') (hr : t.find k=none) (hr' : t'.find k=some r') :
    Untried r' := by
  cases work with
  | other => exact Queued.fresh h hr hr'
  | recover => subst h; rw [Table.find_update,hr] at hr'; cases hr'
  | claim rows => subst h; rw [claimEach_find claimed_not_pending,hr] at hr'; cases hr'
  | complete id => subst h; rw [Table.find_modify,hr] at hr'; split_ifs at hr'; cases hr'
  | fail id failure => subst h; rw [Table.find_modify,hr] at hr'; split_ifs at hr'; cases hr'

end Work

end Queued

lemma PushDelivery.cancel_spec (now : ℤ) (error : String) (r : PushDelivery) :
    Queueable.status (r.cancel now error)=.cancelled ∧
      Queueable.attempts (r.cancel now error)=Queueable.attempts r ∧
      Queueable.limit (r.cancel now error)=Queueable.limit r ∧
      Queueable.notice (r.cancel now error)=Queueable.notice r := ⟨rfl,rfl,rfl,rfl⟩

lemma ExternalDelivery.cancel_spec (now : ℤ) (error : String) (r : ExternalDelivery) :
    Queueable.status (r.cancel now error)=.cancelled ∧
      Queueable.attempts (r.cancel now error)=Queueable.attempts r ∧
      Queueable.limit (r.cancel now error)=Queueable.limit r ∧
      Queueable.notice (r.cancel now error)=Queueable.notice r := ⟨rfl,rfl,rfl,rfl⟩

/-- What a call does to the push queue. -/
def DeskCall.pushWork (host : Host) (desk : Desk) : DeskCall → Work PushDelivery
  | recoverPush => .recover
  | claimPush limit => .claim
    ((desk.pushDeliveries.select fun _ r =>
      r.status=.pending && decide (r.availableAt ≤ host.now)).take (max 1 (min limit 100)))
  | completePush id => .complete id
  | failPush id error disableSubscription =>
    .fail id (clip (orElse error "Push delivery failed") 500,disableSubscription)
  | _ => .other

/-- What a call does to the external queue. -/
def DeskCall.externalWork (host : Host) (desk : Desk) : DeskCall → Work ExternalDelivery
  | recoverExternal => .recover
  | claimExternal limit => .claim
    ((desk.externalDeliveries.select fun _ r =>
      r.status=.pending && decide (r.availableAt ≤ host.now)).take (max 1 (min limit 100)))
  | completeExternal id => .complete id
  | failExternal id error retryable httpStatus =>
    .fail id (clip (orElse error "External delivery failed") 500,retryable,httpStatus.getD 0)
  | _ => .other

end ZenControl.Attention
