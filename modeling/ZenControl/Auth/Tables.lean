import ZenControl.Library.NumberedRows
import ZenControl.Library.Rely
import ZenControl.Library.Rows
import ZenControl.Value

/-! The tables of parent authentication and the statements that change them. Beside the tables
stand, in the order of the statements, the codes that the calls have accepted. -/
namespace ZenControl.Auth
open Calls Rows

inductive LoginMode
  | password
  | passwordOrTotp
  | totpOnly
  deriving DecidableEq, Repr

/-- A row of `auth_accounts`. -/
structure Account where
  username : String
  loginMode : LoginMode := .password
  sharedDisplayMode : Bool := false
  unlockMinutes : ℤ := 5
  sessionGeneration : ℤ := 0
  updatedAt : ℤ
  deriving DecidableEq, Repr

/-- A row of `auth_totp_devices`. -/
structure TotpDevice where
  username : String
  name : String
  secretEnc : String
  createdAt : ℤ
  lastUsedAt : Option ℤ := none
  lastUsedCounter : ℤ := -1
  revokedAt : Option ℤ := none
  deriving DecidableEq, Repr

/-- The row after a counter was accepted. -/
def TotpDevice.used (d : TotpDevice) (counter now : ℤ) : TotpDevice :=
  { d with lastUsedAt := some now, lastUsedCounter := counter }

/-- A row of `auth_recovery_codes`. -/
structure RecoveryCode where
  username : String
  codeHash : String
  createdAt : ℤ
  usedAt : Option ℤ := none
  deriving DecidableEq, Repr

/-- A row of `auth_totp_enrollments`. -/
structure Enrollment where
  tokenHash : String
  username : String
  name : String
  secretEnc : String
  createdAt : ℤ
  expiresAt : ℤ
  deriving DecidableEq, Repr

structure AuthDb where
  accounts : List Account := []
  totpDevices : Table TotpDevice := .empty
  recoveryCodes : Table RecoveryCode := .empty
  enrollments : List Enrollment := []

/-- `AuthError`, and what else a call raises. -/
inductive Fault
  | authError (message : String)
  | raised (e : StoreError)
  deriving DecidableEq, Repr

namespace AuthDb

/-- The account of a user. -/
def account (db : AuthDb) (username : String) : Option Account :=
  Rows.row Account.username username db.accounts

/-- The authenticators of a user that are not revoked, in the order of their ids. -/
def activeTotpDevices (db : AuthDb) (username : String) : List (ℕ × TotpDevice) :=
  db.totpDevices.select fun _ d => d.username=username && d.revokedAt.isNone

def totpDevice (db : AuthDb) (username : String) (id : ℤ) : Option (ℕ × TotpDevice) :=
  db.totpDevices.rows.find? fun r => r.2.username=username && (r.1 : ℤ)=id

/-- The recovery codes of a user that are not used. -/
def unusedCodes (db : AuthDb) (username : String) : List (ℕ × RecoveryCode) :=
  db.recoveryCodes.select fun _ c => c.username=username && c.usedAt.isNone

def unusedCode (db : AuthDb) (username digest : String) : Option (ℕ × RecoveryCode) :=
  db.recoveryCodes.first fun c => c.username=username && c.codeHash=digest && c.usedAt.isNone

def enrollment (db : AuthDb) (tokenHash : String) : Option Enrollment :=
  Rows.row Enrollment.tokenHash tokenHash db.enrollments

/-- `executemany` of the recovery codes; a hash that the user already has is refused. -/
def insertCodes (username : String) (now : ℤ) : List String → AuthDb → Except Fault AuthDb
  | [], db => .ok db
  | digest::digests, db =>
    if (db.recoveryCodes.first fun c => c.username=username && c.codeHash=digest).isSome then
      .error (.raised .integrityError)
    else insertCodes username now digests
      { db with
        recoveryCodes := db.recoveryCodes.insert
          { username := username, codeHash := digest, createdAt := now } }

end AuthDb

/-- What a call accepts: a counter of a secret, a recovery code or an enrolment. -/
inductive Use
  | counter (secret : String) (counter : ℤ)
  | recoveryCode (id : ℕ)
  | enrollment (tokenHash : String)
  deriving DecidableEq, Repr

/-- The statements that write. Those that accept a code carry it. -/
inductive Statement
  | insertAccount (username : String) (now : ℤ)
  | saveSettings (username : String) (loginMode : LoginMode) (sharedDisplayMode : Bool)
      (unlockMinutes now : ℤ)
  | clearEnrollments (username : String) (now : ℤ)
  | insertEnrollment (row : Enrollment)
  | cancelEnrollment (tokenHash username : String)
  | insertTotpDevice (tokenHash secret : String) (row : TotpDevice)
  | deleteEnrollment (tokenHash : String)
  | useCounter (id : ℕ) (secret : String) (counter now : ℤ)
  | revokeTotpDevice (username : String) (id now : ℤ)
  | clearCodes (username : String)
  | insertCodes (username : String) (digests : List String) (now : ℤ)
  | useCode (id : ℕ) (now : ℤ)

namespace Statement

/-- The effect of a statement on the tables. -/
def run : Statement → AuthDb → Except Fault AuthDb
  | insertAccount username now, db =>
    .ok (if (db.account username).isSome then db
      else { db with accounts := db.accounts ++ [{ username := username, updatedAt := now }] })
  | saveSettings username loginMode sharedDisplayMode unlockMinutes now, db =>
    .ok { db with accounts := Rows.amend Account.username username (fun a =>
      { a with loginMode := loginMode, sharedDisplayMode := sharedDisplayMode,
               unlockMinutes := unlockMinutes, updatedAt := now }) db.accounts }
  | clearEnrollments username now, db =>
    .ok { db with enrollments := db.enrollments.filter fun e =>
      !(e.username=username || e.expiresAt < now) }
  | insertEnrollment row, db =>
    if (db.enrollment row.tokenHash).isSome then .error (.raised .integrityError)
    else .ok { db with enrollments := db.enrollments ++ [row] }
  | cancelEnrollment tokenHash username, db =>
    .ok { db with enrollments := db.enrollments.filter fun e =>
      !(e.tokenHash=tokenHash && e.username=username) }
  | insertTotpDevice _ _ row, db => .ok { db with totpDevices := db.totpDevices.insert row }
  | deleteEnrollment tokenHash, db =>
    .ok { db with enrollments := Rows.drop Enrollment.tokenHash tokenHash db.enrollments }
  | useCounter id _ counter now, db =>
    .ok { db with totpDevices := db.totpDevices.modify id fun d => d.used counter now }
  | revokeTotpDevice username id now, db =>
    .ok { db with
      totpDevices := db.totpDevices.update (fun i d => d.username=username && (i : ℤ)=id)
        fun d => { d with revokedAt := some now } }
  | clearCodes username, db =>
    .ok { db with recoveryCodes := db.recoveryCodes.delete fun _ c => c.username=username }
  | insertCodes username digests now, db => db.insertCodes username now digests
  | useCode id now, db =>
    .ok { db with recoveryCodes := db.recoveryCodes.modify id fun c =>
      { c with usedAt := some now } }

/-- What the call has accepted when it makes the statement. -/
def uses : Statement → List Use
  | insertTotpDevice tokenHash secret row =>
    [.counter secret row.lastUsedCounter,.enrollment tokenHash]
  | useCounter _ secret counter _ => [.counter secret counter]
  | useCode id _ => [.recoveryCode id]
  | _ => []

end Statement

/-- The tables and what each call has accepted so far. -/
structure AuthState (ι : Type) where
  db : AuthDb := {}
  uses : List (ι × Use) := []

abbrev AuthProg (ι α : Type) := SqlProg (AuthState ι) Fault α

variable {ι α : Type}

/-- Call `i` makes a statement. -/
def AuthState.perform (i : ι) (statement : Statement) (s : AuthState ι) :
    Except Fault (AuthState ι) :=
  (statement.run s.db).map fun db =>
    { db := db, uses := s.uses ++ statement.uses.map fun u => (i,u) }

/-- A statement, with the rest of the block. -/
def perform (i : ι) (statement : Statement) (k : AuthState ι → AuthProg ι α) : AuthProg ι α :=
  Prog.write (AuthState.perform i statement) k

end ZenControl.Auth
