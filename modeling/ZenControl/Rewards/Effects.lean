import ZenControl.Rewards.Operations

/-! What one transaction of each reward operation does to the reward tables. Everything that
is proved about runs of the reward bank is derived from these effects. -/
namespace ZenControl
open Calls

/-- The tables after a redemption was refunded. -/
def RewardTables.refundOf (row : Redemption) (note now : String) (t : RewardTables) :
    RewardTables :=
  let after := t.balance row.ip+row.minutes
  ((t.upsertAccount row.ip after now).insertLedger row.ip row.minutes after "refund"
    (refundReason note) (clip row.actor 80) (redemptionReference row.id) now).updateRedemption
      row.id (Redemption.refund note now)

/-- The tables after minutes were reserved. -/
def RewardTables.reserveOf (ip : String) (minutes : ℤ) (actor reason now : String)
    (t : RewardTables) : RewardTables :=
  let after := t.balance ip-minutes
  ((t.insertRedemption ip minutes actor now reason).upsertAccount ip after now).insertLedger
    ip (-minutes) after "redeem" reason actor (redemptionReference (t.redemptionSeq+1)) now

/-- The tables after an adjustment. -/
def RewardTables.adjustOf (ip : String) (delta : ℤ) (kind reason actor reference now : String)
    (t : RewardTables) : RewardTables :=
  let after := t.balance ip+delta
  (t.upsertAccount ip after now).insertLedger ip delta after kind reason actor reference now

/-- The tables after everything of an address was deleted. -/
def RewardTables.deleteOf (ip : String) (t : RewardTables) : RewardTables :=
  ((t.deleteRedemptions ip).deleteLedger ip).deleteAccounts ip

/-- One transaction of an operation. -/
inductive RewardOp.Effect : RewardOp → RewardTables → RewardTables → Prop
  | same (op : RewardOp) (t : RewardTables) : Effect op t t
  | adjust {t : RewardTables} {args : Adjustment} {delta : ℤ} (reason actor : String)
      (enough : 0 ≤ t.balance (strip args.ip)+delta) :
      Effect (.adjust args) t (t.adjustOf (strip args.ip) delta args.ledgerKind reason actor
        args.ledgerReference args.now)
  | reserve {t : RewardTables} {ip actor reason now : String} {minutes : ℤ} {asked}
      (actor' reason' : String) (offered : minutes=15 ∨ minutes=30 ∨ minutes=60)
      (enough : minutes ≤ t.balance (strip ip))
      (none_reserved : ∀ r ∈ t.redemptions, ¬ (r.ip=strip ip ∧ r.status=.reserved)) :
      Effect (.reserve ip asked actor reason now) t
        (t.reserveOf (strip ip) minutes actor' reason' now)
  | complete {t : RewardTables} {id : ℤ} {restoreAt note now : String} (row : Redemption) :
      Effect (.complete id restoreAt note now) t
        (t.updateRedemption id (Redemption.complete restoreAt note now row))
  | refund {t : RewardTables} {id : ℤ} {note now : String} {row : Redemption}
      (found : t.redemption id=some row) (reserved : row.status=.reserved) :
      Effect (.refund id note now) t (t.refundOf row note now)
  | recover {t : RewardTables} {id : ℤ} {age ago clock} {row : Redemption} (note now : String)
      (found : t.redemption id=some row) (reserved : row.status=.reserved) :
      Effect (.recoverStale age ago clock) t (t.refundOf row note now)
  | deleteAccount {t : RewardTables} {ip : String} :
      Effect (.deleteAccount ip) t (t.deleteOf (strip ip))
  | retire {t : RewardTables} {ip : String} : Effect (.retire ip) t (t.deleteOf (strip ip))

/-- The committed status of a redemption. -/
def RewardTables.status (t : RewardTables) (id : ℤ) : Option RedemptionStatus :=
  (t.redemption id).map Redemption.status

/-- A completion has read its redemption as a reserved one. -/
def RewardOp.HasRead (views : List Store) : RewardOp → Prop
  | .complete id _ _ _ => ∃ v ∈ views, v.tables.rewards.status id=some .reserved
  | _ => True

/-- The effect on the whole database, given what the operation has read. -/
def RewardOp.Transaction (op : RewardOp) (views : List Store) (db db' : Store) : Prop :=
  db'.tables.rewards=db.tables.rewards ∨
    op.HasRead views ∧ op.Effect db.tables.rewards db'.tables.rewards

lemma RewardTables.redemption_id {t : RewardTables} {id : ℤ} {row : Redemption}
    (h : t.redemption id=some row) : row.id=id := by
  simpa using List.find?_some h

section Programs
variable {R : List Store → Store → Store → Prop} {views : List Store}

lemma getSettings_maintains : getSettings.Maintains R views :=
  Prog.Maintains.withDb_select fun _ => Prog.Maintains.withDb_ret _

lemma rewardLimits_maintains : rewardLimits.Maintains R views :=
  getSettings_maintains.bind fun _ _ => Prog.Maintains.ret _

lemma replyRow_plain (row : Option Redemption) : (replyRow row).Plain := by
  cases row <;> trivial

lemma deleteCounting_plain {α : Type} {count : Tables → ℕ} {f : Tables → Tables}
    {k : ℕ → StoreProg α} (h : ∀ n, (k n).Plain) : (deleteCounting count f k).Plain :=
  Prog.Plain.select fun _ => Prog.Plain.update fun _ => h _

@[simp] lemma deleteCounting_run {α : Type} (count : Tables → ℕ) (f : Tables → Tables)
    (k : ℕ → StoreProg α) (db : Store) :
    (deleteCounting count f k).run Prog.inTransaction db=
      (k (count db.tables)).run Prog.inTransaction { db with tables := f db.tables } := rfl

end Programs

namespace RewardOp
variable {views : List Store}

lemma transaction_refl (op : RewardOp) (db : Store) : op.Transaction views db db := .inl rfl

lemma adjust_maintains (args : Adjustment) :
    (adjustRewardMinutes args).Maintains (Transaction (.adjust args)) views := by
  unfold adjustRewardMinutes
  cases hd : args.deltaMinutes with
  | none => exact .raise _
  | some delta =>
    dsimp only
    split_ifs
    · exact .raise _
    · exact .raise _
    refine rewardLimits_maintains.bind fun limits _ => ?_
    split_ifs
    · exact .raise _
    refine .immediately (Prog.Plain.select fun db => ?_) (transaction_refl _) ?_
    · refine Prog.Plain.ite trivial (Prog.Plain.ite trivial ?_)
      exact Prog.Plain.update fun _ => Prog.Plain.update fun _ => trivial
    · intro db reply db' hrun
      rw [Prog.select_run] at hrun
      split_ifs at hrun with hneg hcap
      · cases hrun
      · cases hrun
      · cases hrun
        exact .inr ⟨trivial,.adjust _ _ (by omega)⟩

lemma reserve_maintains (ip : String) (asked : Option ℤ) (actor reason now : String) :
    (reserveRewardRedemption ip asked actor reason now).Maintains
      (Transaction (.reserve ip asked actor reason now)) views := by
  unfold reserveRewardRedemption
  cases asked with
  | none => exact .raise _
  | some minutes =>
    refine rewardLimits_maintains.bind fun limits _ => ?_
    dsimp only
    split_ifs with _ hoffered
    · exact .raise _
    · exact .raise _
    · exact .raise _
    refine .immediately (Prog.Plain.select fun db => ?_) (transaction_refl _) ?_
    · cases db.tables.rewards.redemptions.find? _ with
      | some pending => trivial
      | none =>
        refine Prog.Plain.select fun db => Prog.Plain.ite trivial ?_
        exact Prog.Plain.update fun _ => Prog.Plain.update fun _ =>
          Prog.Plain.update fun _ => trivial
    · intro db reply db' hrun
      rw [Prog.select_run] at hrun
      cases hfind : db.tables.rewards.redemptions.find?
          (fun r => r.ip=strip ip ∧ r.status=.reserved) with
      | some pending => rw [hfind] at hrun; cases hrun
      | none =>
        rw [hfind] at hrun
        dsimp only at hrun
        rw [Prog.select_run] at hrun
        split_ifs at hrun with henough
        · cases hrun
        · cases hrun
          refine .inr ⟨trivial,.reserve _ _ (by omega) (by omega) fun r hr => ?_⟩
          simpa using List.find?_eq_none.mp hfind r hr

/-- The completion holds no lock between its query and its update: it has read a reserved row, and
nothing is known about the row that the update finds. -/
lemma complete_maintains (id : ℤ) (restoreAt note now : String) :
    (completeRewardRedemption id restoreAt note now).Maintains
      (Transaction (.complete id restoreAt note now)) views := by
  refine .withDb_select fun seen => ?_
  cases hrow : seen.tables.rewards.redemption id with
  | none => exact .withDb_raise _
  | some row =>
    dsimp only
    cases hstatus : row.status with
    | applied => exact .withDb_ret _
    | refunded => exact .withDb_raise _
    | reserved =>
      refine .withDb_opening ?_ trivial (transaction_refl _) ?_
      · exact Prog.Plain.update fun _ => Prog.Plain.select fun _ => replyRow_plain _
      · intro db reply db' hrun
        rw [Prog.update_run,Prog.select_run] at hrun
        unfold replyRow at hrun
        split at hrun
        · cases hrun
          have hread : seen.tables.rewards.status id=some .reserved := by
            rw [RewardTables.status,hrow,Option.map_some,hstatus]
          exact .inr ⟨⟨seen,List.mem_cons_self,hread⟩,.complete row⟩
        · cases hrun

/-- A refund reads and writes under one lock. -/
lemma refund_body (id : ℤ) (note now : String) {R : List Store → Store → Store → Prop}
    (refl : ∀ db, R views db db)
    (effect : ∀ (db : Store) (row : Redemption), db.tables.rewards.redemption id=some row →
      row.status=.reserved → R views db (onRewards (.refundOf row note now) db)) :
    (refundRewardRedemption id note now).Maintains R views := by
  refine .immediately (Prog.Plain.select fun db => ?_) refl ?_
  · cases db.tables.rewards.redemption id with
    | none => trivial
    | some row =>
      dsimp only
      cases row.status with
      | refunded => trivial
      | applied => trivial
      | reserved =>
        exact Prog.Plain.select fun _ => Prog.Plain.update fun _ => Prog.Plain.update fun _ =>
          Prog.Plain.update fun _ => Prog.Plain.select fun _ => replyRow_plain _
  · intro db reply db' hrun
    rw [Prog.select_run] at hrun
    cases hrow : db.tables.rewards.redemption id with
    | none => rw [hrow] at hrun; cases hrun
    | some row =>
      rw [hrow] at hrun
      dsimp only at hrun
      cases hstatus : row.status with
      | refunded => rw [hstatus] at hrun; cases hrun; exact refl db
      | applied => rw [hstatus] at hrun; cases hrun
      | reserved =>
        rw [hstatus] at hrun
        dsimp only at hrun
        rw [Prog.select_run,Prog.update_run,Prog.update_run,Prog.update_run,
          Prog.select_run] at hrun
        have hid := RewardTables.redemption_id hrow
        subst hid
        unfold replyRow at hrun
        split at hrun
        · cases hrun; exact effect db row hrow hstatus
        · cases hrun

lemma refund_maintains (id : ℤ) (note now : String) :
    (refundRewardRedemption id note now).Maintains (Transaction (.refund id note now)) views :=
  refund_body id note now (transaction_refl _) fun _ _ hrow hstatus =>
    .inr ⟨trivial,.refund hrow hstatus⟩

lemma refundEach_maintains (age : Option ℤ) (ago now : ℤ → String) (ids : List ℤ)
    (done : List Redemption) :
    (refundEach now ids done).Maintains (Transaction (.recoverStale age ago now)) views := by
  induction ids generalizing done views with
  | nil => exact .ret _
  | cons id ids ih =>
    refine (refund_body id _ (now id) (R:=Transaction (.recoverStale age ago now))
      (transaction_refl _) fun _ _ hrow hstatus => .inr ⟨trivial,.recover _ _ hrow hstatus⟩).bind fun reply _ => ?_
    cases reply <;> exact ih _

lemma recoverStale_maintains (age : Option ℤ) (ago now : ℤ → String) :
    (recoverStaleRewardRedemptions age ago now).Maintains
      (Transaction (.recoverStale age ago now)) views :=
  (Prog.Maintains.withDb_select fun _ => Prog.Maintains.withDb_ret _).bind fun ids _ =>
    refundEach_maintains age ago now ids []

lemma deleteAccount_maintains (ip : String) :
    (deleteRewardAccount ip).Maintains (Transaction (.deleteAccount ip)) views := by
  refine .immediately ?_ (transaction_refl _) ?_
  · exact Prog.Plain.update fun _ => Prog.Plain.update fun _ => Prog.Plain.update fun _ =>
      trivial
  · intro db reply db' hrun
    cases hrun
    exact .inr ⟨trivial,.deleteAccount⟩

lemma retire_maintains (ip : String) :
    (retireDeviceState ip).Maintains (Transaction (.retire ip)) views := by
  unfold retireDeviceState
  dsimp only
  split_ifs
  · exact .raise _
  refine .immediately ?_ (transaction_refl _) ?_
  · exact deleteCounting_plain fun _ => deleteCounting_plain fun _ =>
      deleteCounting_plain fun _ => deleteCounting_plain fun _ => deleteCounting_plain fun _ =>
      deleteCounting_plain fun _ => deleteCounting_plain fun _ => trivial
  · intro db reply db' hrun
    simp only [deleteCounting_run] at hrun
    cases hrun
    exact .inr ⟨trivial,.retire⟩

/-- Every transaction of a reward operation has its effect. -/
theorem program_maintains (op : RewardOp) : op.program.Maintains op.Transaction views := by
  cases op with
  | adjust args => exact adjust_maintains args
  | reserve ip minutes actor reason now => exact reserve_maintains ip minutes actor reason now
  | complete id restoreAt note now => exact complete_maintains id restoreAt note now
  | refund id note now => exact refund_maintains id note now
  | recoverStale age ago now => exact recoverStale_maintains age ago now
  | deleteAccount ip => exact deleteAccount_maintains ip
  | retire ip => exact retire_maintains ip

end RewardOp
end ZenControl
