import ZenControl.Store.Tables
import ZenControl.Library.Effects

/-! The operations of the reward bank as programs of SQL statements. Adjustments,
reservations, refunds and deletions take the write lock before they read; a completion
reads first and takes the lock only with its update. -/
namespace ZenControl
open Calls

/-- `get_settings`. -/
def getSettings : StoreProg (List (String × String)) :=
  Prog.withDb <| Prog.select fun db => .ret db.tables.appSettings

structure RewardLimits where
  enabled : Bool
  maxMinutes : ℤ
  maxRedeemMinutes : ℤ

/-- `_reward_limits`. -/
def rewardLimits : StoreProg RewardLimits :=
  getSettings.bind fun settings => .ret
    { enabled := settingOr settings "reward_bank_enabled" "1"="1",
      maxMinutes := (pyInt (settingOr settings "reward_bank_max_minutes" "240")).getD 240,
      maxRedeemMinutes := (pyInt (settingOr settings "reward_max_redeem_minutes" "60")).getD 60 }

namespace RewardTables

/-- The account of an address. -/
def account (t : RewardTables) (ip : String) : Option RewardAccount :=
  t.accounts.find? fun a => a.ip=ip

/-- `int(row["balance_minutes"]) if row else 0`. -/
def balance (t : RewardTables) (ip : String) : ℤ :=
  ((t.account ip).map RewardAccount.balanceMinutes).getD 0

/-- The row of a redemption. -/
def redemption (t : RewardTables) (id : ℤ) : Option Redemption :=
  t.redemptions.find? fun r => r.id=id

/-- `INSERT INTO reward_accounts ... ON CONFLICT(ip) DO UPDATE`. -/
def upsertAccount (ip : String) (balance : ℤ) (now : String) (t : RewardTables) :
    RewardTables :=
  { t with accounts :=
    if t.accounts.any (fun a => a.ip=ip) then
      t.accounts.map fun a =>
        if a.ip=ip then { a with balanceMinutes := balance, updatedAt := now } else a
    else t.accounts ++ [{ ip := ip, balanceMinutes := balance, updatedAt := now }] }

/-- `INSERT INTO reward_ledger`. -/
def insertLedger (ip : String) (delta balanceAfter : ℤ)
    (kind reason actor reference createdAt : String) (t : RewardTables) : RewardTables :=
  { t with
    ledgerSeq := t.ledgerSeq+1
    ledger := t.ledger ++
      [{ id := t.ledgerSeq+1, ip := ip, deltaMinutes := delta, balanceAfter := balanceAfter,
         kind := kind, reason := reason, actor := actor, reference := reference,
         createdAt := createdAt }] }

/-- `INSERT INTO reward_redemptions` of a reserved row. -/
def insertRedemption (ip : String) (minutes : ℤ) (actor now reason : String)
    (t : RewardTables) : RewardTables :=
  { t with
    redemptionSeq := t.redemptionSeq+1
    redemptions := t.redemptions ++
      [{ id := t.redemptionSeq+1, ip := ip, minutes := minutes, actor := actor,
         status := .reserved, createdAt := now, updatedAt := now, restoreAt := "",
         note := reason }] }

/-- `UPDATE reward_redemptions ... WHERE id=?`. -/
def updateRedemption (id : ℤ) (f : Redemption → Redemption) (t : RewardTables) :
    RewardTables :=
  { t with redemptions := t.redemptions.map fun r => if r.id=id then f r else r }

/-- `DELETE FROM reward_redemptions WHERE ip=?`. -/
def deleteRedemptions (ip : String) (t : RewardTables) : RewardTables :=
  { t with redemptions := t.redemptions.filter fun r => r.ip≠ip }

/-- `DELETE FROM reward_ledger WHERE ip=?`. -/
def deleteLedger (ip : String) (t : RewardTables) : RewardTables :=
  { t with ledger := t.ledger.filter fun r => r.ip≠ip }

/-- `DELETE FROM reward_accounts WHERE ip=?`. -/
def deleteAccounts (ip : String) (t : RewardTables) : RewardTables :=
  { t with accounts := t.accounts.filter fun a => a.ip≠ip }

end RewardTables

/-- A statement on the reward tables. -/
def onRewards (f : RewardTables → RewardTables) (db : Store) : Store :=
  { db with tables := { db.tables with rewards := f db.tables.rewards } }

@[simp] lemma onRewards_rewards (f : RewardTables → RewardTables) (db : Store) :
    (onRewards f db).tables.rewards=f db.tables.rewards := rfl

/-- `redemption:{id}`, the reference of a redemption's ledger rows. -/
def redemptionReference (id : ℤ) : String := "redemption:" ++ toString id

/-- The arguments of `adjust_reward_minutes` and the clock it reads; the minutes are what
`int(...)` makes of the argument. -/
structure Adjustment where
  ip : String
  deltaMinutes : Option ℤ
  reason : String := ""
  actor : String := ""
  kind : String := "adjustment"
  reference : String := ""
  allowAboveCap : Bool := false
  now : String := ""

/-- The kind and the reference under which an adjustment is written to the ledger. -/
def Adjustment.ledgerKind (args : Adjustment) : String :=
  clip (strip (orElse args.kind "adjustment")) 40
def Adjustment.ledgerReference (args : Adjustment) : String := clip (strip args.reference) 120

/-- What the reward operations return. -/
inductive RewardReply
  | adjusted (before : ℤ) (row : LedgerRow)
  | reserved (redemption : Redemption) (balance : ℤ)
  | redemption (row : Redemption)
  | recovered (rows : List Redemption)
  | deleted
  | retired (devicePolicy schedulePlans dateExceptions rewardRedemptions rewardLedger
      rewardAccounts managementIdentity : ℕ)
  deriving DecidableEq, Repr

/-- `adjust_reward_minutes`. -/
def adjustRewardMinutes (args : Adjustment) : StoreProg RewardReply :=
  let ip := strip args.ip
  match args.deltaMinutes with
  | none => .raise (.valueError "Reward adjustment must be whole minutes")
  | some delta =>
    if ip="" then .raise (.valueError "Reward account requires a device IP")
    else if delta=0 ∨ 1440 < delta.natAbs then
      .raise (.valueError
        "Reward adjustment must be between -1440 and 1440 minutes and not zero")
    else rewardLimits.bind fun limits =>
      if limits.enabled=false then .raise (.valueError "Reward bank is disabled")
      else
        let reason := clip (strip args.reason) 200
        let actor := clip (strip args.actor) 80
        Prog.immediately <| Prog.select fun db =>
          let before := db.tables.rewards.balance ip
          let after := before+delta
          let cap := limits.maxMinutes
          if after<0 then
            .raise (.valueError s!"Insufficient reward balance: {before} minutes available")
          else if cap < after ∧ args.allowAboveCap=false then
            .raise (.valueError (s!"Reward bank maximum is {cap} minutes; " ++
              s!"this adjustment would produce {after} minutes"))
          else
            Prog.update (onRewards (.upsertAccount ip after args.now)) fun _ =>
            Prog.update (onRewards (.insertLedger ip delta after args.ledgerKind reason actor
              args.ledgerReference args.now)) fun db =>
            .ret (.adjusted before
              { id := db.tables.rewards.ledgerSeq, ip := ip, deltaMinutes := delta,
                balanceAfter := after, kind := args.ledgerKind, reason := reason,
                actor := actor, reference := args.ledgerReference, createdAt := args.now })

/-- `reserve_reward_redemption`. -/
def reserveRewardRedemption (ip : String) (minutes : Option ℤ) (actor reason now : String) :
    StoreProg RewardReply :=
  let ip := strip ip
  match minutes with
  | none => .raise (.valueError "Reward redemption must be whole minutes")
  | some minutes => rewardLimits.bind fun limits =>
    let most := limits.maxRedeemMinutes
    if limits.enabled=false then .raise (.valueError "Reward bank is disabled")
    else if minutes≠15 ∧ minutes≠30 ∧ minutes≠60 then
      .raise (.valueError "Reward access supports 15, 30 or 60 minutes")
    else if most < minutes then
      .raise (.valueError s!"Reward redemption is limited to {most} minutes")
    else
      let actor := clip (strip actor) 80
      let reason := clip (strip (orElse reason "reward access")) 200
      Prog.immediately <| Prog.select fun db =>
        match db.tables.rewards.redemptions.find? (fun r => r.ip=ip ∧ r.status=.reserved) with
        | some pending =>
          let pendingId := pending.id
          .raise (.valueError (s!"Reward redemption {pendingId} is still pending recovery " ++
            s!"for {ip}; resolve it before spending more reward minutes"))
        | none => Prog.select fun db =>
          let before := db.tables.rewards.balance ip
          if before < minutes then
            .raise (.valueError (s!"Insufficient reward balance: {before} minutes " ++
              s!"available, {minutes} required"))
          else
            let after := before-minutes
            Prog.update (onRewards (.insertRedemption ip minutes actor now reason)) fun db =>
            let id := db.tables.rewards.redemptionSeq
            Prog.update (onRewards (.upsertAccount ip after now)) fun _ =>
            Prog.update (onRewards (.insertLedger ip (-minutes) after "redeem" reason actor
              (redemptionReference id) now)) fun _ =>
            .ret (.reserved
              { id := id, ip := ip, minutes := minutes, actor := actor, status := .reserved,
                createdAt := now, updatedAt := now, restoreAt := "", note := reason } after)

/-- `dict(row)` of a row that was fetched again. -/
def replyRow (row : Option Redemption) : StoreProg RewardReply :=
  match row with
  | some r => .ret (.redemption r)
  | none => .raise .typeError

/-- The update of `complete_reward_redemption`. -/
def Redemption.complete (restoreAt note now : String) (row r : Redemption) : Redemption :=
  { r with
    status := .applied
    updatedAt := now
    restoreAt := clip (strip restoreAt) 80
    note := clip (strip (orElse note row.note)) 200 }

/-- `complete_reward_redemption`: the row is read before the write transaction is open, and
the update does not look at the status again. -/
def completeRewardRedemption (id : ℤ) (restoreAt note now : String) : StoreProg RewardReply :=
  Prog.withDb <| Prog.select fun db =>
    match db.tables.rewards.redemption id with
    | none => .raise (.valueError "Reward redemption not found")
    | some row =>
      match row.status with
      | .applied => .ret (.redemption row)
      | .refunded => .raise (.valueError "Reward redemption is already refunded")
      | .reserved =>
        Prog.update (onRewards
          (.updateRedemption id (Redemption.complete restoreAt note now row))) fun _ =>
        Prog.select fun db => replyRow (db.tables.rewards.redemption id)

/-- The text that a refund leaves behind. -/
def refundReason (note : String) : String :=
  clip (strip (orElse note "Reward redemption failed; minutes returned")) 200

/-- The update of `refund_reward_redemption`. -/
def Redemption.refund (note now : String) (r : Redemption) : Redemption :=
  { r with status := .refunded, updatedAt := now, note := refundReason note }

/-- `refund_reward_redemption`. -/
def refundRewardRedemption (id : ℤ) (note now : String) : StoreProg RewardReply :=
  Prog.immediately <| Prog.select fun db =>
    match db.tables.rewards.redemption id with
    | none => .raise (.valueError "Reward redemption not found")
    | some row =>
      match row.status with
      | .refunded => .ret (.redemption row)
      | .applied => .raise (.valueError
          "Only reserved reward redemptions can be refunded (current: applied)")
      | .reserved => Prog.select fun db =>
        let before := db.tables.rewards.balance row.ip
        let after := before+row.minutes
        Prog.update (onRewards (.upsertAccount row.ip after now)) fun _ =>
        Prog.update (onRewards (.insertLedger row.ip row.minutes after "refund"
          (refundReason note) (clip row.actor 80) (redemptionReference id) now)) fun _ =>
        Prog.update (onRewards (.updateRedemption id (Redemption.refund note now))) fun _ =>
        Prog.select fun db => replyRow (db.tables.rewards.redemption id)

/-- The refunds of `recover_stale_reward_redemptions`, one after the other. -/
def refundEach (now : ℤ → String) : List ℤ → List Redemption → StoreProg RewardReply
  | [], done => .ret (.recovered done)
  | id::ids, done =>
    (refundRewardRedemption id
      "Recovered stale unconfirmed reward redemption after application restart"
      (now id)).bind fun reply =>
      match reply with
      | .redemption row => refundEach now ids (done ++ [row])
      | _ => refundEach now ids done

/-- `recover_stale_reward_redemptions`; `ago` is the clock, read some seconds back. -/
def recoverStaleRewardRedemptions (maxAgeSeconds : Option ℤ) (ago : ℤ → String)
    (now : ℤ → String) : StoreProg RewardReply :=
  let age := (maxAgeSeconds.map fun s => max 60 (min s 3600)).getD 300
  let cutoff := ago age
  (Prog.withDb <| Prog.select fun db => .ret
    ((db.tables.rewards.redemptions.filter fun r =>
      r.status=.reserved ∧ ¬ cutoff < r.createdAt).map Redemption.id)).bind fun ids =>
  refundEach now ids []

/-- `delete_reward_account`. -/
def deleteRewardAccount (ip : String) : StoreProg RewardReply :=
  let ip := strip ip
  Prog.immediately <|
    Prog.update (onRewards (.deleteRedemptions ip)) fun _ =>
    Prog.update (onRewards (.deleteLedger ip)) fun _ =>
    Prog.update (onRewards (.deleteAccounts ip)) fun _ => .ret .deleted

/-- `DELETE ... ` with its `rowcount`: the rows are counted in the same transaction. -/
def deleteCounting {α : Type} (count : Tables → ℕ) (f : Tables → Tables)
    (k : ℕ → StoreProg α) : StoreProg α :=
  Prog.select fun db =>
    Prog.update (fun db => { db with tables := f db.tables }) fun _ => k (count db.tables)

/-- `retire_device_state`. -/
def retireDeviceState (ip : String) : StoreProg RewardReply :=
  let ip := strip ip
  if ip="" then .raise (.valueError "Device IP is required")
  else Prog.immediately <|
    deleteCounting (fun t => t.devicePolicy.countP fun d => d.ip=some ip)
      (fun t => { t with devicePolicy := t.devicePolicy.filter fun d => d.ip≠some ip })
      fun devicePolicy =>
    deleteCounting (fun t => t.schedulePlans.countP fun p => p.target=.device ip)
      (fun t => { t with schedulePlans := t.schedulePlans.filter fun p => p.target≠.device ip })
      fun schedulePlans =>
    deleteCounting (fun t => t.dateExceptions.countP fun e => e.target=.device ip)
      (fun t => { t with
        dateExceptions := t.dateExceptions.filter fun e => e.target≠.device ip })
      fun dateExceptions =>
    deleteCounting (fun t => t.rewards.redemptions.countP fun r => r.ip=ip)
      (fun t => { t with rewards := t.rewards.deleteRedemptions ip }) fun rewardRedemptions =>
    deleteCounting (fun t => t.rewards.ledger.countP fun r => r.ip=ip)
      (fun t => { t with rewards := t.rewards.deleteLedger ip }) fun rewardLedger =>
    deleteCounting (fun t => t.rewards.accounts.countP fun a => a.ip=ip)
      (fun t => { t with rewards := t.rewards.deleteAccounts ip }) fun rewardAccounts =>
    deleteCounting (fun t => t.identities.countP fun i => i.ip=ip)
      (fun t => { t with identities := t.identities.filter fun i => i.ip≠ip })
      fun managementIdentity =>
    .ret (.retired devicePolicy schedulePlans dateExceptions rewardRedemptions rewardLedger
      rewardAccounts managementIdentity)

/-- A call of one of the reward operations. -/
inductive RewardOp
  | adjust (args : Adjustment)
  | reserve (ip : String) (minutes : Option ℤ) (actor reason now : String)
  | complete (id : ℤ) (restoreAt note now : String)
  | refund (id : ℤ) (note now : String)
  | recoverStale (maxAgeSeconds : Option ℤ) (ago now : ℤ → String)
  | deleteAccount (ip : String)
  | retire (ip : String)

/-- The program of a call. -/
def RewardOp.program : RewardOp → StoreProg RewardReply
  | adjust args => adjustRewardMinutes args
  | reserve ip minutes actor reason now => reserveRewardRedemption ip minutes actor reason now
  | complete id restoreAt note now => completeRewardRedemption id restoreAt note now
  | refund id note now => refundRewardRedemption id note now
  | recoverStale age ago now => recoverStaleRewardRedemptions age ago now
  | deleteAccount ip => deleteRewardAccount ip
  | retire ip => retireDeviceState ip

end ZenControl
