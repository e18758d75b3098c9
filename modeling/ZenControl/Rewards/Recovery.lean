import ZenControl.Rewards.Ledger
import ZenControl.Router.TemporaryAccess
import ZenControl.Store.Access

/-! The recovery of reserved redemptions, when the application starts or an operator asks for it.
What RouterOS says about the temporary access of a device settles the redemption, or leaves it
reserved. -/
namespace ZenControl
open Calls

/-- The reserved redemptions of an address; the empty text stands for every address. -/
def RewardTables.pending (ip : String) (t : RewardTables) : List Redemption :=
  (t.redemptions.filter fun r => r.status=.reserved ∧ (ip="" ∨ r.ip=ip)).insertionSort
    fun r r' => r.id ≤ r'.id

/-- `list_pending_reward_redemptions`. -/
def listPendingRewardRedemptions (ip : Option String) : StoreProg (List Redemption) :=
  query fun t => .ok (t.rewards.pending (strip (ip.getD "")))

/-- `temporary_state_proves_reward`. -/
def temporaryStateProvesReward (state : Router.TemporaryAccess) (id : ℤ) : Bool :=
  state.reference.getD ""=redemptionReference id

/-- What `get_device_temporary_access` returns, or the text of its `RouterError`. -/
abbrev AccessEvidence := Except String Router.TemporaryAccess

/-- The arguments of a call of `audit`. -/
structure AuditCall where
  event : String
  actor : String
  detail : String
  deriving DecidableEq, Repr

/-- How a redemption was recovered, with the reason why it was not. -/
inductive Recovery
  | applied
  | refunded
  | deferred (reason : String)
  deriving DecidableEq, Repr

/-- An entry of the outcomes, with what the audit is told about it. -/
structure RecoveryOutcome where
  row : Redemption
  recovery : Recovery
  audited : AuditCall
  deriving DecidableEq, Repr

/-- `dict(row)` of a settlement's reply. -/
def settledRow : RewardReply → StoreProg Redemption
  | .redemption row => .ret row
  | _ => .raise .typeError

/-- One turn of `recover_pending_reward_redemptions`. -/
def recoverRewardRedemption (actor now : String) (evidence : AccessEvidence)
    (pending : Redemption) : StoreProg RecoveryOutcome :=
  let subject := s!"redemption={pending.id} ip={pending.ip}"
  match evidence with
  | .error reason => .ret
    { row := pending, recovery := .deferred reason,
      audited := ⟨"REWARD_REDEMPTION_RECOVERY_DEFERRED",actor,
        s!"{subject}; RouterOS state unavailable: {reason}"⟩ }
  | .ok state =>
    let active := if state.active then "True" else "False"
    let expired := if state.expired then "True" else "False"
    if temporaryStateProvesReward state pending.id then
      (completeRewardRedemption pending.id state.restoreTime
        "Recovered confirmed RouterOS reward access after application interruption" now).bind
        fun reply => (settledRow reply).bind fun row => .ret
      { row := row, recovery := .applied,
        audited := ⟨"REWARD_REDEMPTION_RECOVERED_APPLIED",actor,
          s!"{subject} spent={pending.minutes}m; active={active} expired={expired}"⟩ }
    else if state.active then .ret
      { row := pending, recovery := .deferred "unbound active temporary access",
        audited := ⟨"REWARD_REDEMPTION_RECOVERY_DEFERRED",actor,
          s!"{subject}; active temporary access exists without matching reward reference"⟩ }
    else
      (refundRewardRedemption pending.id
        "Recovered unconfirmed reward redemption; RouterOS grant was not present" now).bind
        fun reply => (settledRow reply).bind fun row => .ret
      { row := row, recovery := .refunded,
        audited := ⟨"REWARD_REDEMPTION_RECOVERED_REFUNDED",actor,
          s!"{subject} refunded={pending.minutes}m"⟩ }

/-- The turns of `recover_pending_reward_redemptions`, one after the other. -/
def recoverEach (actor : String) (now : ℤ → String) (evidence : ℤ → AccessEvidence) :
    List Redemption → StoreProg (List RecoveryOutcome)
  | [] => .ret []
  | row::rows =>
    (recoverRewardRedemption actor (now row.id) (evidence row.id) row).bind fun outcome =>
    (recoverEach actor now evidence rows).bind fun outcomes => .ret (outcome::outcomes)

/-- `recover_pending_reward_redemptions`; RouterOS is asked once for every pending redemption. -/
def recoverPendingRewardRedemptions (actor : String) (ip : Option String) (now : ℤ → String)
    (evidence : ℤ → AccessEvidence) : StoreProg (List RecoveryOutcome) :=
  (listPendingRewardRedemptions ip).bind (recoverEach actor now evidence)

/-- A store whose reward bank is in order. -/
structure SoundStore where
  db : Store
  books : db.tables.rewards.Books
  redeemed : db.tables.rewards.Redeemed

def SoundStore.rewards (s : SoundStore) : RewardTables := s.db.tables.rewards

/-- Every state of a run from an empty bank is one, when the calls meet the condition. -/
def SoundStore.reached {ι : Type} [DecidableEq ι] {ops : ι → RewardOp} {db : Store}
    (empty : db.tables.rewards={}) {c : Bank ι × Views ι Store}
    (run : Watched (bankGuard ops) (Bank.start ops db,fun _ => []) c) : SoundStore :=
  ⟨c.1.shared.committed,(bank_sound empty run).1,(bank_sound empty run).2⟩

/-- How the evidence decides. -/
def recoveryOf (evidence : AccessEvidence) (id : ℤ) : Recovery :=
  match evidence with
  | .error reason => .deferred reason
  | .ok state =>
    if temporaryStateProvesReward state id then .applied
    else if state.active then .deferred "unbound active temporary access"
    else .refunded

def Recovery.status : Recovery → RedemptionStatus
  | .applied => .applied
  | .refunded => .refunded
  | .deferred _ => .reserved

section Settlements
variable {db : Store} {id : ℤ} {row : Redemption}

/-- The block of a completion, and what it does to a reserved redemption. -/
lemma complete_block (id : ℤ) (restoreAt note now : String) :
    ∃ body : StoreProg RewardReply, completeRewardRedemption id restoreAt note now=
        Prog.withDb body ∧ body.Plain ∧
      ∀ {db : Store} {row : Redemption}, db.tables.rewards.redemption id=some row →
        row.status=.reserved → body.run Prog.inTransaction db=
          (.ok (.redemption (Redemption.complete restoreAt note now row row)),
            onRewards (.updateRedemption id (Redemption.complete restoreAt note now row)) db) := by
  refine ⟨_,rfl,Prog.Plain.select fun db => ?_,fun {db row} found reserved => ?_⟩
  · cases db.tables.rewards.redemption id with
    | none => trivial
    | some row =>
      dsimp only
      cases row.status with
      | applied => trivial
      | refunded => trivial
      | reserved => exact Prog.Plain.update fun _ => Prog.Plain.select fun _ => replyRow_plain _
  · have hrow : (db.tables.rewards.updateRedemption id
        (Redemption.complete restoreAt note now row)).redemption id=
        some (Redemption.complete restoreAt note now row row) := by
      rw [RewardTables.redemption_update (f:=Redemption.complete restoreAt note now row)
        (fun _ => rfl),found,Option.map_some,if_pos (RewardTables.redemption_id found)]
    simp only [Prog.select_run,found,reserved,Prog.update_run,onRewards_rewards,hrow,replyRow]
    rfl

/-- The block of a refund, and what it does to a reserved redemption. -/
lemma refund_block (id : ℤ) (note now : String) :
    ∃ body : StoreProg RewardReply, refundRewardRedemption id note now=Prog.immediately body ∧
      body.Plain ∧
      ∀ {db : Store} {row : Redemption}, db.tables.rewards.redemption id=some row →
        row.status=.reserved → body.run Prog.inTransaction db=
          (.ok (.redemption (Redemption.refund note now row)),
            onRewards (.refundOf row note now) db) := by
  refine ⟨_,rfl,Prog.Plain.select fun db => ?_,fun {db row} found reserved => ?_⟩
  · cases db.tables.rewards.redemption id with
    | none => trivial
    | some row =>
      dsimp only
      cases row.status with
      | refunded => trivial
      | applied => trivial
      | reserved =>
        exact Prog.Plain.select fun _ => Prog.Plain.update fun _ => Prog.Plain.update fun _ =>
          Prog.Plain.update fun _ => Prog.Plain.select fun _ => replyRow_plain _
  · obtain rfl := RewardTables.redemption_id found
    have hrow : (db.tables.rewards.refundOf row note now).redemption row.id=
        some (Redemption.refund note now row) := by
      unfold RewardTables.refundOf
      rw [RewardTables.redemption_update (f:=Redemption.refund note now) (fun _ => rfl)]
      change (db.tables.rewards.redemption row.id).map _=_
      rw [found,Option.map_some,if_pos rfl]
    simp only [Prog.select_run,found,reserved,Prog.update_run]
    change (replyRow ((db.tables.rewards.refundOf row note now).redemption row.id)).run _ _=_
    rw [hrow]
    rfl

end Settlements

/-- What the recovery of one redemption does to the bank. -/
structure Redemption.Decided (row : Redemption) (recovery : Recovery)
    (t t' : RewardTables) : Prop where
  books : t'.Books
  redeemed : t'.Redeemed
  status : t'.status row.id=some recovery.status
  others : ∀ id, id≠row.id → t'.redemption id=t.redemption id
  balance : ∀ ip, t'.balance ip=
    t.balance ip+if row.ip=ip ∧ recovery=.refunded then row.minutes else 0

section Turn
variable {t : RewardTables} {row : Redemption}

lemma RewardTables.redemption_update_ne {f : Redemption → Redemption} (hf : ∀ r, (f r).id=r.id)
    (t : RewardTables) {id id' : ℤ} (h : id≠id') :
    (t.updateRedemption id' f).redemption id=t.redemption id := by
  rw [redemption_update hf]
  cases hr : t.redemption id with
  | none => rfl
  | some r =>
    have hid := redemption_id hr
    simp only [Option.map_some,if_neg (hid ▸ h : r.id≠id')]

lemma Redemption.Decided.deferred (hb : t.Books) (hr : t.Redeemed)
    (found : t.redemption row.id=some row) (reserved : row.status=.reserved)
    (reason : String) : row.Decided (.deferred reason) t t where
  books := hb
  redeemed := hr
  status := by rw [RewardTables.status_of_redemption found,reserved]; rfl
  others _ _ := rfl
  balance ip := by rw [if_neg (by rintro ⟨-,⟨⟩⟩),Int.add_zero]

lemma Redemption.Decided.applied (hb : t.Books) (hr : t.Redeemed)
    (found : t.redemption row.id=some row) (reserved : row.status=.reserved)
    (restoreAt note now : String) :
    row.Decided .applied t
      (t.updateRedemption row.id (Redemption.complete restoreAt note now row)) where
  books := ⟨hb.nonneg,hb.balance,hb.running,hb.ordered,hb.bounded⟩
  redeemed := hr.complete _ _ _ _ (by
    rw [RewardTables.status_of_redemption found,reserved]
    decide)
  status := by
    rw [RewardTables.status_update_self (f:=Redemption.complete restoreAt note now row)
      (fun _ => rfl) found]
    rfl
  others _ hne := RewardTables.redemption_update_ne
    (f:=Redemption.complete restoreAt note now row) (fun _ => rfl) t hne
  balance ip := by
    rw [if_neg (by rintro ⟨-,⟨⟩⟩),Int.add_zero]
    rfl

lemma Redemption.Decided.refunded (hb : t.Books) (hr : t.Redeemed)
    (found : t.redemption row.id=some row) (reserved : row.status=.reserved) (note now : String) :
    row.Decided .refunded t (t.refundOf row note now) where
  books := RewardOp.Effect.books_refundOf hb
    (hr.minutes _ (RewardTables.mem_of_redemption found)) _ _
  redeemed := hr.refund found reserved _ _
  status := by
    unfold RewardTables.refundOf
    refine (RewardTables.status_update_self (f:=Redemption.refund note now) (fun _ => rfl)
      (r:=row) ?_).trans rfl
    exact found
  others _ hne := RewardTables.redemption_update_ne (f:=Redemption.refund note now)
    (fun _ => rfl) _ hne
  balance ip := by
    change (t.upsertAccount row.ip (t.balance row.ip+row.minutes) now).balance ip=_
    rw [RewardTables.balance_upsertAccount]
    by_cases hip : row.ip=ip
    · subst hip
      rw [if_pos rfl,if_pos ⟨rfl,rfl⟩]
    · rw [if_neg fun e => hip e.symm,if_neg fun h => hip h.1,Int.add_zero]

end Turn

/-- A turn settles its redemption as the evidence decides. -/
lemma recover_solo {db : Store} {pending : Redemption} (hb : db.tables.rewards.Books)
    (hr : db.tables.rewards.Redeemed)
    (found : db.tables.rewards.redemption pending.id=some pending)
    (reserved : pending.status=.reserved) (actor now : String) (evidence : AccessEvidence) :
    ∃ outcome db', (recoverRewardRedemption actor now evidence pending).solo db=
        (.ok outcome,db') ∧
      outcome.row.id=pending.id ∧ outcome.recovery=recoveryOf evidence pending.id ∧
      pending.Decided (recoveryOf evidence pending.id) db.tables.rewards db'.tables.rewards := by
  unfold recoverRewardRedemption recoveryOf
  cases evidence with
  | error reason => exact ⟨_,_,rfl,rfl,rfl,.deferred hb hr found reserved reason⟩
  | ok state =>
    dsimp only
    by_cases hproves : temporaryStateProvesReward state pending.id=true
    · rw [if_pos hproves,if_pos hproves]
      obtain ⟨body,hbody,hplain,hrun⟩ := complete_block pending.id state.restoreTime
        "Recovered confirmed RouterOS reward access after application interruption" now
      rw [hbody,Prog.solo_bind (Prog.closed_withDb hplain),Prog.solo_withDb hplain,
        hrun found reserved]
      exact ⟨_,_,rfl,rfl,rfl,.applied hb hr found reserved _ _ _⟩
    rw [if_neg hproves,if_neg hproves]
    by_cases hactive : state.active=true
    · rw [if_pos hactive,if_pos hactive]
      exact ⟨_,_,rfl,rfl,rfl,.deferred hb hr found reserved _⟩
    · rw [if_neg hactive,if_neg hactive]
      obtain ⟨body,hbody,hplain,hrun⟩ := refund_block pending.id
        "Recovered unconfirmed reward redemption; RouterOS grant was not present" now
      rw [hbody,Prog.solo_bind (Prog.closed_immediately hplain),Prog.solo_immediately hplain,
        hrun found reserved]
      exact ⟨_,_,rfl,rfl,rfl,.refunded hb hr found reserved _ _⟩

lemma closed_settledRow (reply : RewardReply) : (settledRow reply).Closed := by
  cases reply with
  | redemption row => exact Prog.closed_ret row
  | _ => exact Prog.closed_raise _

lemma closed_recover (actor now : String) (evidence : AccessEvidence) (pending : Redemption) :
    (recoverRewardRedemption actor now evidence pending).Closed := by
  unfold recoverRewardRedemption
  cases evidence with
  | error reason => exact Prog.closed_ret _
  | ok state =>
    dsimp only
    refine Prog.closed_ite ?_ (Prog.closed_ite (Prog.closed_ret _) ?_)
    · obtain ⟨body,hbody,hplain,-⟩ := complete_block pending.id state.restoreTime
        "Recovered confirmed RouterOS reward access after application interruption" now
      rw [hbody]
      exact Prog.closed_bind (Prog.closed_withDb hplain) fun reply =>
        Prog.closed_bind (closed_settledRow reply) fun _ => Prog.closed_ret _
    · obtain ⟨body,hbody,hplain,-⟩ := refund_block pending.id
        "Recovered unconfirmed reward redemption; RouterOS grant was not present" now
      rw [hbody]
      exact Prog.closed_bind (Prog.closed_immediately hplain) fun reply =>
        Prog.closed_bind (closed_settledRow reply) fun _ => Prog.closed_ret _

lemma closed_recoverEach (actor : String) (now : ℤ → String) (evidence : ℤ → AccessEvidence)
    (rows : List Redemption) : (recoverEach actor now evidence rows).Closed := by
  induction rows with
  | nil => exact Prog.closed_ret _
  | cons row rows ih =>
    exact Prog.closed_bind (closed_recover _ _ _ _) fun _ =>
      Prog.closed_bind ih fun _ => Prog.closed_ret _

/-- The minutes that the recovery of some redemptions returns to an address. -/
def refunds (evidence : ℤ → AccessEvidence) (ip : String) : List Redemption → ℤ
  | [] => 0
  | r::rest =>
    (if r.ip=ip ∧ recoveryOf (evidence r.id) r.id=.refunded then r.minutes else 0)+
      refunds evidence ip rest

/-- What the recovery of some pending redemptions does to the bank. -/
structure Recovered (evidence : ℤ → AccessEvidence) (rows : List Redemption)
    (t t' : RewardTables) : Prop where
  books : t'.Books
  redeemed : t'.Redeemed
  settled : ∀ r ∈ rows, t'.status r.id=some (recoveryOf (evidence r.id) r.id).status
  others : ∀ id, (∀ r ∈ rows, r.id≠id) → t'.redemption id=t.redemption id
  balance : ∀ ip, t'.balance ip=t.balance ip+refunds evidence ip rows

/-- What a recovery tells its caller. -/
def reported (outcomes : List RecoveryOutcome) : List (ℤ × Recovery) :=
  outcomes.map fun o => (o.row.id,o.recovery)

/-- What the evidence says about some redemptions. -/
def decisions (evidence : ℤ → AccessEvidence) (rows : List Redemption) : List (ℤ × Recovery) :=
  rows.map fun r => (r.id,recoveryOf (evidence r.id) r.id)

section Recoveries
variable {evidence : ℤ → AccessEvidence} {row : Redemption} {rows : List Redemption}
  {t t' t'' : RewardTables}

lemma Redemption.Decided.recovered (hfirst : row.Decided (recoveryOf (evidence row.id) row.id) t t')
    (hrest : Recovered evidence rows t' t'') (hne : ∀ r ∈ rows, row.id≠r.id) :
    Recovered evidence (row::rows) t t'' where
  books := hrest.books
  redeemed := hrest.redeemed
  settled r hr := by
    obtain rfl | hr := List.mem_cons.mp hr
    · have hsame := hrest.others r.id fun r' hr' => (hne r' hr').symm
      rw [RewardTables.status,hsame]
      exact hfirst.status
    · exact hrest.settled r hr
  others id hid := by
    obtain ⟨hrow,hrows⟩ := List.forall_mem_cons.mp hid
    rw [hrest.others id hrows,hfirst.others id hrow.symm]
  balance ip := by
    rw [hrest.balance,hfirst.balance,refunds,Int.add_assoc]

/-- The induction is on the redemptions that are left; those are still as they were listed. -/
lemma recoverEach_solo {db : Store} (hb : db.tables.rewards.Books)
    (hr : db.tables.rewards.Redeemed) (hdistinct : rows.Pairwise fun r r' => r.id≠r'.id)
    (hrows : ∀ r ∈ rows, db.tables.rewards.redemption r.id=some r ∧ r.status=.reserved)
    (actor : String) (now : ℤ → String) (evidence : ℤ → AccessEvidence) :
    ∃ outcomes db', (recoverEach actor now evidence rows).solo db=(.ok outcomes,db') ∧
      reported outcomes=decisions evidence rows ∧
      Recovered evidence rows db.tables.rewards db'.tables.rewards := by
  induction rows generalizing db with
  | nil => exact ⟨[],db,rfl,rfl,hb,hr,nofun,fun _ _ => rfl,fun _ => (Int.add_zero _).symm⟩
  | cons row rows ih =>
    obtain ⟨⟨found,reserved⟩,hrows⟩ := List.forall_mem_cons.mp hrows
    obtain ⟨hne,hdistinct⟩ := List.pairwise_cons.mp hdistinct
    obtain ⟨outcome,db',hturn,hid,hrecovery,hsettled⟩ :=
      recover_solo hb hr found reserved actor (now row.id) (evidence row.id)
    obtain ⟨outcomes,db'',hrest,hreported,hrecovered⟩ :=
      ih hsettled.books hsettled.redeemed hdistinct fun r hmem =>
        ⟨(hsettled.others r.id (hne r hmem).symm).trans (hrows r hmem).1,(hrows r hmem).2⟩
    refine ⟨outcome::outcomes,db'',?_,?_,hsettled.recovered hrecovered hne⟩
    · rw [recoverEach,Prog.solo_bind (closed_recover _ _ _ _),hturn]
      dsimp only
      rw [Prog.solo_bind (closed_recoverEach _ _ _ _),hrest]
      rfl
    · exact List.cons_eq_cons.mpr ⟨Prod.ext hid hrecovery,hreported⟩

lemma RewardTables.mem_pending {ip : String} {r : Redemption} :
    r ∈ t.pending ip ↔ r ∈ t.redemptions ∧ r.status=.reserved ∧ (ip="" ∨ r.ip=ip) := by
  unfold pending
  rw [List.mem_insertionSort,List.mem_filter,decide_eq_true_eq]

lemma RewardTables.pending_distinct (h : t.Redeemed) (ip : String) :
    (t.pending ip).Pairwise fun r r' => r.id≠r'.id := by
  have hfilter := (h.distinct.filter fun r => r.status=.reserved ∧ (ip="" ∨ r.ip=ip)).imp
    fun hlt => hlt.ne
  exact ((List.perm_insertionSort _ _).pairwise_iff fun hne => hne.symm).mpr hfilter

lemma RewardTables.pending_found (h : t.Redeemed) (ip : String) :
    ∀ r ∈ t.pending ip, t.redemption r.id=some r ∧ r.status=.reserved := by
  intro r hr
  have hmem := mem_pending.mp hr
  exact ⟨h.redemption_of_mem hmem.1,hmem.2.1⟩

lemma recoverPending_solo (actor : String) (ip : Option String) (now : ℤ → String)
    (evidence : ℤ → AccessEvidence) (db : Store) :
    (recoverPendingRewardRedemptions actor ip now evidence).solo db=
      (recoverEach actor now evidence
        (db.tables.rewards.pending (strip (ip.getD "")))).solo db := by
  unfold recoverPendingRewardRedemptions listPendingRewardRedemptions
  rw [Prog.solo_bind (closed_query _),query_solo]

/-- What is still pending after a recovery was deferred. -/
lemma Recovered.deferred {ip : String} (h : Recovered evidence (t.pending ip) t t')
    {r : Redemption} (hr : r ∈ t'.pending ip) :
    ∃ reason, recoveryOf (evidence r.id) r.id=.deferred reason := by
  obtain ⟨hmem,hreserved,hscope⟩ := RewardTables.mem_pending.mp hr
  have found := h.redeemed.redemption_of_mem hmem
  have hlisted : ∃ r' ∈ t.pending ip, r'.id=r.id := by
    by_contra hnone
    push Not at hnone
    rw [h.others r.id hnone] at found
    have hpending : r ∈ t.pending ip :=
      RewardTables.mem_pending.mpr ⟨RewardTables.mem_of_redemption found,hreserved,hscope⟩
    exact hnone r hpending rfl
  obtain ⟨r',hr',hid⟩ := hlisted
  have hstatus := h.settled r' hr'
  rw [hid,RewardTables.status_of_redemption found,hreserved,Option.some_inj] at hstatus
  cases hrecovery : recoveryOf (evidence r.id) r.id with
  | deferred reason => exact ⟨reason,rfl⟩
  | applied => rw [hrecovery] at hstatus; cases hstatus
  | refunded => rw [hrecovery] at hstatus; cases hstatus

lemma recover_deferred {evidence : AccessEvidence} {reason : String}
    (h : recoveryOf evidence row.id=.deferred reason) (actor now : String) (db : Store) :
    ∃ outcome, (recoverRewardRedemption actor now evidence row).solo db=(.ok outcome,db) := by
  unfold recoveryOf at h
  unfold recoverRewardRedemption
  cases evidence with
  | error reason => exact ⟨_,rfl⟩
  | ok state =>
    dsimp only at h ⊢
    by_cases hproves : temporaryStateProvesReward state row.id=true
    · rw [if_pos hproves] at h
      cases h
    rw [if_neg hproves] at h ⊢
    by_cases hactive : state.active=true
    · rw [if_pos hactive]
      exact ⟨_,rfl⟩
    · rw [if_neg hactive] at h
      cases h

lemma recoverEach_deferred
    (h : ∀ r ∈ rows, ∃ reason, recoveryOf (evidence r.id) r.id=.deferred reason)
    (actor : String) (now : ℤ → String) (db : Store) :
    ∃ outcomes, (recoverEach actor now evidence rows).solo db=(.ok outcomes,db) := by
  induction rows with
  | nil => exact ⟨[],rfl⟩
  | cons row rows ih =>
    obtain ⟨⟨reason,hreason⟩,hrows⟩ := List.forall_mem_cons.mp h
    obtain ⟨outcome,hturn⟩ := recover_deferred hreason actor (now row.id) db
    obtain ⟨outcomes,hrest⟩ := ih hrows
    refine ⟨outcome::outcomes,?_⟩
    rw [recoverEach,Prog.solo_bind (closed_recover _ _ _ _),hturn]
    dsimp only
    rw [Prog.solo_bind (closed_recoverEach _ _ _ _),hrest]
    rfl

end Recoveries

/-- A recovery settles every pending redemption as RouterOS says, and only those are credited
that it refunds. -/
theorem recovery_settles (store : SoundStore) (actor : String) (ip : Option String)
    (now : ℤ → String) (evidence : ℤ → AccessEvidence) :
    ∃ outcomes db', (recoverPendingRewardRedemptions actor ip now evidence).solo store.db=
        (.ok outcomes,db') ∧
      reported outcomes=decisions evidence (store.rewards.pending (strip (ip.getD ""))) ∧
      Recovered evidence (store.rewards.pending (strip (ip.getD ""))) store.rewards
        db'.tables.rewards := by
  rw [recoverPending_solo]
  exact recoverEach_solo store.books store.redeemed
    (RewardTables.pending_distinct store.redeemed _)
    (RewardTables.pending_found store.redeemed _) actor now evidence

/-- While RouterOS says the same, a second recovery changes nothing. -/
theorem recovery_repeats (store : SoundStore) (actor : String) (ip : Option String)
    (now now' : ℤ → String) (evidence : ℤ → AccessEvidence) :
    ∃ outcomes outcomes' db',
      (recoverPendingRewardRedemptions actor ip now evidence).solo store.db=(.ok outcomes,db') ∧
      (recoverPendingRewardRedemptions actor ip now' evidence).solo db'=(.ok outcomes',db') := by
  obtain ⟨outcomes,db',hfirst,-,hrecovered⟩ := recoverEach_solo store.books store.redeemed
    (RewardTables.pending_distinct store.redeemed (strip (ip.getD "")))
    (RewardTables.pending_found store.redeemed _) actor now evidence
  obtain ⟨outcomes',hsecond⟩ := recoverEach_deferred
    (fun r hr => hrecovered.deferred hr) actor now' db'
  refine ⟨outcomes,outcomes',db',?_,?_⟩
  · rw [recoverPending_solo]
    exact hfirst
  · rw [recoverPending_solo]
    exact hsecond

section Example

/-- Three addresses are granted minutes, and each of them reserves some. -/
def threeReserve : Fin 6 → RewardOp
  | 0 => .adjust { ip := "10.0.0.7", deltaMinutes := some 30, kind := "grant" }
  | 1 => .adjust { ip := "10.0.0.8", deltaMinutes := some 30, kind := "grant" }
  | 2 => .adjust { ip := "10.0.0.9", deltaMinutes := some 60, kind := "grant" }
  | 3 => .reserve "10.0.0.7" (some 15) "parent" "" "t1"
  | 4 => .reserve "10.0.0.8" (some 30) "parent" "" "t2"
  | 5 => .reserve "10.0.0.9" (some 15) "parent" "" "t3"

/-- All grants, then all reservations. -/
def grantsFirst : List (Fin 6) :=
  ([0,1,2] : List (Fin 6)).flatMap (List.replicate 7) ++
    ([3,4,5] : List (Fin 6)).flatMap (List.replicate 9)

lemma threeReserve_guarded (i : Fin 6) (views : Views (Fin 6) Store) (c : Bank (Fin 6)) :
    (bankGuard threeReserve).step i (c,views) := by
  have hkind : ∀ kind ∈ ["redeem","refund"], clip (strip (orElse "grant" "adjustment")) 40≠kind := by
    decide
  have huntagged (ip : String) (minutes : ℤ) : (RewardOp.adjust
      { ip := ip, deltaMinutes := some minutes, kind := "grant" }).Untagged :=
    fun kind hk id h => hkind kind hk h.1
  intro _ _
  match i with
  | 0 => exact ⟨trivial,huntagged _ _⟩
  | 1 => exact ⟨trivial,huntagged _ _⟩
  | 2 => exact ⟨trivial,huntagged _ _⟩
  | 3 => exact ⟨trivial,trivial⟩
  | 4 => exact ⟨trivial,trivial⟩
  | 5 => exact ⟨trivial,trivial⟩

lemma grantsFirst_watched : (watch (fun _ _ _ => true) grantsFirst
    (Bank.start threeReserve ⟨{},{}⟩,fun _ => [])).isSome := rfl

/-- The bank with the three reservations. -/
def reservedBank : SoundStore :=
  SoundStore.reached rfl (watch_run (fun i views c _ => threeReserve_guarded i views c)
    (Option.some_get grantsFirst_watched).symm)

/-- RouterOS confirms the first redemption, cannot be read for the second and knows nothing of the
third. -/
def mixedEvidence (id : ℤ) : AccessEvidence :=
  if id=1 then .ok
    { active := true, address := ⟨"10.0.0.7",by decide⟩, restoreTime := "t9"
      reference := some (redemptionReference 1) }
  else if id=2 then .error "timeout"
  else .ok { active := false, address := ⟨"10.0.0.9",by decide⟩ }

/-- One redemption is applied, one stays reserved, and the minutes of the last come back. -/
theorem recovery_settles_mixed :
    ∃ outcomes db', (recoverPendingRewardRedemptions "operator" none (fun _ => "t7")
        mixedEvidence).solo reservedBank.db=(.ok outcomes,db') ∧
      reported outcomes=[(1,.applied),(2,.deferred "timeout"),(3,.refunded)] ∧
      db'.tables.rewards.balance "10.0.0.7"=15 ∧ db'.tables.rewards.balance "10.0.0.8"=0 ∧
      db'.tables.rewards.balance "10.0.0.9"=60 := by
  obtain ⟨outcomes,db',hrun,hreported,hrecovered⟩ :=
    recovery_settles reservedBank "operator" none (fun _ => "t7") mixedEvidence
  exact ⟨outcomes,db',hrun,hreported.trans (by decide +kernel),
    (hrecovered.balance "10.0.0.7").trans (by decide +kernel),
    (hrecovered.balance "10.0.0.8").trans (by decide +kernel),
    (hrecovered.balance "10.0.0.9").trans (by decide +kernel)⟩

theorem recovery_repeats_mixed :
    ∃ outcomes outcomes' db',
      (recoverPendingRewardRedemptions "operator" none (fun _ => "t7") mixedEvidence).solo
        reservedBank.db=(.ok outcomes,db') ∧
      (recoverPendingRewardRedemptions "operator" none (fun _ => "t8") mixedEvidence).solo
        db'=(.ok outcomes',db') :=
  recovery_repeats reservedBank "operator" none (fun _ => "t7") (fun _ => "t8") mixedEvidence

end Example
end ZenControl
