import ZenControl.Auth.Tables
import ZenControl.Policy.Clock
import Mathlib.Algebra.Ring.Nat

/-! The calls of `AuthManager` as programs of SQL statements. Each reads its clock anew wherever
the source does; `clock n` is the reading in its place `n`. -/
namespace ZenControl.Auth
open Calls

/-- What the calls take from other code: Fernet, HMAC-SHA1 on a decoded secret, SHA-256 of a
text, and the tables of Unicode. -/
structure AuthEnv extends PyRuntime where
  encrypt : ℕ → String → String
  decrypt : String → Option String
  decrypt_encrypt : ∀ nonce secret, decrypt (encrypt nonce secret)=some secret
  hmac : String → ℤ → Except StoreError (Fin 20 → Fin 256)
  sha256 : String → String
  upper : String → String
  isDigit : Char → Bool
  isAlnum : Char → Bool

def totpPeriod : ℤ := 30
def totpDigits : ℕ := 6
def recoveryCodeCount : ℕ := 10

/-- `"".join(code.split())`. -/
def compact (code : String) : String := String.ofList (code.toList.filter fun c => !isSpace c)

def isAscii (text : String) : Bool := text.toList.all fun c => c.toNat < 128

section Codes
variable (env : AuthEnv)

/-- `hotp`. -/
def hotp (secret : String) (counter : ℤ) : Except Fault String :=
  match env.hmac secret counter with
  | .error e => .error (.raised e)
  | .ok digest =>
    let offset := (digest 19).val%16
    let byte := fun n => (digest (Fin.ofNat 20 (offset+n))).val
    let binary := (byte 0%128)*2^24+byte 1*2^16+byte 2*2^8+byte 3
    .ok (padded totpDigits (binary%10^totpDigits : ℕ))

/-- `hmac.compare_digest` of a code with an ASCII text. -/
def compareDigest (expected code : String) : Except Fault Bool :=
  if isAscii code then .ok (expected=code) else .error (.raised .typeError)

/-- The loop of `verify_secret_code` over the counters of the window. -/
def verifyWindow (secret code : String) (lastUsedCounter : ℤ) : List ℤ → Except Fault (Option ℤ)
  | [] => .ok none
  | counter::counters =>
    if counter ≤ lastUsedCounter then verifyWindow secret code lastUsedCounter counters
    else do
      let expected ← hotp env secret counter
      if ← compareDigest expected code then return some counter
      verifyWindow secret code lastUsedCounter counters

/-- `str.isdigit`. -/
def isDigits (code : String) : Bool := code≠"" && code.toList.all env.isDigit

/-- `verify_secret_code`. -/
def verifySecretCode (secret code : String) (now : ℤ) (lastUsedCounter : ℤ) :
    Except Fault (Option ℤ) :=
  let code := compact code
  if code.length≠totpDigits || !isDigits env code then .ok none
  else
    let baseCounter := now/totpPeriod
    verifyWindow env secret code lastUsedCounter [baseCounter-1,baseCounter,baseCounter+1]

/-- `_decrypt_secret`. -/
def decryptSecret (value : String) : Except Fault String :=
  match env.decrypt value with
  | some secret => .ok secret
  | none => .error (.authError
      "Authenticator secret cannot be decrypted. Check OTP_ENCRYPTION_KEY/SESSION_SECRET.")

/-- `_normalize_recovery_code`. -/
def normalizeRecoveryCode (code : String) : String :=
  String.ofList ((env.upper code).toList.filter env.isAlnum)

/-- `_recovery_hash`. -/
def recoveryHash (code : String) : Except Fault String :=
  let normalized := normalizeRecoveryCode env code
  if isAscii normalized then .ok (env.sha256 normalized)
  else .error (.raised (.valueError "ordinal not in range(128)"))

lemma decryptSecret_ok {env : AuthEnv} {value secret : String}
    (h : decryptSecret env value=.ok secret) : env.decrypt value=some secret := by
  unfold decryptSecret at h
  cases hdecrypt : env.decrypt value with
  | none => rw [hdecrypt] at h; cases h
  | some secret' => rw [hdecrypt] at h; cases h; rfl

/-- An accepted counter is above the last one used. -/
lemma verifyWindow_above {secret code : String} {last counter : ℤ} {counters : List ℤ}
    (h : verifyWindow env secret code last counters=.ok (some counter)) : last < counter := by
  induction counters with
  | nil => cases h
  | cons first counters ih =>
    unfold verifyWindow at h
    split_ifs at h with hle
    · exact ih h
    · obtain ⟨expected,-,h⟩ := bind_ok h
      obtain ⟨equal,-,h⟩ := bind_ok h
      cases equal with
      | true =>
        cases h
        omega
      | false => exact ih h

lemma verifySecretCode_above {secret code : String} {now last counter : ℤ}
    (h : verifySecretCode env secret code now last=.ok (some counter)) : last < counter := by
  unfold verifySecretCode at h
  dsimp only at h
  split_ifs at h
  · cases h
  · exact verifyWindow_above env h

end Codes

/-- What `verify_otp_or_recovery` returns when it accepts a code. -/
inductive Accepted
  | totp (deviceId : ℕ) (deviceName : String) (counter : ℤ)
  | recovery
  deriving DecidableEq, Repr

/-- What the calls return. -/
inductive Reply
  | verified (accepted : Option Accepted)
  | confirmed (device : Option (ℕ × TotpDevice)) (recoveryCodes : List String)
  | started (token name : String) (expiresAt : ℤ)
  | settings (account : Account)
  | revoked (device : ℕ × TotpDevice)
  | codes (codes : List String)
  deriving DecidableEq

section Programs
variable {ι : Type} (env : AuthEnv) (i : ι)

def authError {α : Type} (message : String) : AuthProg ι α := .raise (.authError message)

/-- A result that may be an exception. -/
def lift {α : Type} : Except Fault α → AuthProg ι α
  | .ok a => .ret a
  | .error e => .raise e

/-- `ensure_account`, which is also what `account` reads. -/
def ensureAccount (username : String) (now : ℤ) : AuthProg ι Account :=
  let username := strip username
  if username="" then authError "Username is required"
  else Prog.withDb <| perform i (.insertAccount username now) fun s =>
    lift (match s.db.account username with
      | some row => .ok row
      | none => .error (.raised .typeError))

/-- `active_totp_count`. -/
def activeTotpCount (username : String) : AuthProg ι ℕ :=
  Prog.withDb <| Prog.select fun s => .ret (s.db.activeTotpDevices username).length

/-- `remaining_recovery_codes`. -/
def remainingRecoveryCodes (username : String) : AuthProg ι ℕ :=
  Prog.withDb <| Prog.select fun s => .ret (s.db.unusedCodes username).length

/-- `get_totp_device`. -/
def getTotpDevice (username : String) (id : ℤ) : AuthProg ι (Option (ℕ × TotpDevice)) :=
  Prog.withDb <| Prog.select fun s => .ret (s.db.totpDevice username id)

/-- The loop of `verify_totp` over the rows that it has selected. -/
def verifyRows (code : String) (clock : ℕ → ℤ) :
    ℕ → List (ℕ × TotpDevice) → AuthProg ι (Option Accepted)
  | _, [] => .ret none
  | n, (id,row)::rows =>
    match decryptSecret env row.secretEnc with
    | .error e => .raise e
    | .ok secret =>
      match verifySecretCode env secret code (clock n) row.lastUsedCounter with
      | .error e => .raise e
      | .ok none => verifyRows code clock (n+1) rows
      | .ok (some counter) => perform i (.useCounter id secret counter (clock (n+1))) fun _ =>
        .ret (some (.totp id row.name counter))

/-- `verify_totp`. -/
def verifyTotp (username code : String) (clock : ℕ → ℤ) : AuthProg ι (Option Accepted) :=
  Prog.withDb <| Prog.select fun s =>
    verifyRows env i code clock 0 (s.db.activeTotpDevices username)

/-- `verify_recovery_code`. -/
def verifyRecoveryCode (username code : String) (now : ℤ) : AuthProg ι Bool :=
  if (normalizeRecoveryCode env code).length < 10 then .ret false
  else (lift (recoveryHash env code)).bind fun digest =>
    Prog.withDb <| Prog.select fun s =>
      match s.db.unusedCode username digest with
      | none => .ret false
      | some row => perform i (.useCode row.1 now) fun _ => .ret true

/-- `verify_otp_or_recovery`. -/
def verifyOtpOrRecovery (username code : String) (clock : ℕ → ℤ) :
    AuthProg ι (Option Accepted) :=
  let compacted := compact code
  if compacted.length=totpDigits && isDigits env compacted then
    verifyTotp env i username compacted clock
  else (verifyRecoveryCode env i username code (clock 0)).bind fun accepted =>
    .ret (if accepted then some .recovery else none)

/-- `regenerate_recovery_codes`; the codes drawn are an argument. -/
def regenerateRecoveryCodes (username : String) (draw : ℕ → String) (clock : ℕ → ℤ) :
    AuthProg ι (List String) :=
  (ensureAccount i username (clock 0)).bind fun _ =>
    let codes := (List.range recoveryCodeCount).map draw
    Prog.withDb <| perform i (.clearCodes username) fun _ =>
      (lift (codes.mapM (recoveryHash env))).bind fun digests =>
        perform i (.insertCodes username digests (clock 1)) fun _ => .ret codes

/-- What `enrollment` returns, as far as `confirm_enrollment` reads it. -/
structure Pending where
  name : String
  secret : String

/-- `enrollment`. -/
def enrollment (username token : String) (now : ℤ) : AuthProg ι (Option Pending) :=
  let tokenHash := env.sha256 token
  (Prog.withDb <| Prog.select fun s =>
    .ret ((s.db.enrollment tokenHash).filter fun e => e.username=username)).bind fun row =>
  match row with
  | none => .ret none
  | some row =>
    if row.expiresAt ≤ now then
      (Prog.withDb <| perform i (.cancelEnrollment tokenHash username) fun _ => .ret ()).bind
        fun _ => .ret none
    else (lift (decryptSecret env row.secretEnc)).bind fun secret =>
      .ret (some { name := row.name, secret := secret })

/-- The arguments of `confirm_enrollment`, the nonce of its encryption, the codes that it may
draw and the clock. -/
structure Confirmation where
  username : String
  token : String
  code : String
  nonce : ℕ
  draw : ℕ → String
  clock : ℕ → ℤ

/-- The authenticator that a confirmed enrolment becomes. -/
def Confirmation.device (args : Confirmation) (pending : Pending) (counter : ℤ) : TotpDevice :=
  { username := args.username, name := pending.name,
    secretEnc := env.encrypt args.nonce pending.secret, createdAt := args.clock 2,
    lastUsedAt := some (args.clock 2), lastUsedCounter := counter }

/-- The block of `confirm_enrollment` that writes the authenticator. -/
def enrol (args : Confirmation) (pending : Pending) (counter : ℤ) : AuthProg ι ℕ :=
  let tokenHash := env.sha256 args.token
  Prog.withDb <|
    perform i (.insertTotpDevice tokenHash pending.secret (args.device env pending counter))
      fun s => perform i (.deleteEnrollment tokenHash) fun _ => .ret s.db.totpDevices.last

/-- `confirm_enrollment`. -/
def confirmEnrollment (args : Confirmation) :
    AuthProg ι (Option (ℕ × TotpDevice) × List String) :=
  (enrollment env i args.username args.token (args.clock 0)).bind fun pending =>
  match pending with
  | none => authError "Authenticator enrollment expired or no longer exists"
  | some pending =>
    (lift (verifySecretCode env pending.secret args.code (args.clock 1) (-1))).bind fun counter =>
    match counter with
    | none => authError "The authenticator code is invalid"
    | some counter =>
      (enrol env i args pending counter).bind fun deviceId =>
      (remainingRecoveryCodes args.username).bind fun remaining =>
      (if remaining=0 then regenerateRecoveryCodes env i args.username args.draw
          (fun n => args.clock (n+3))
        else .ret []).bind fun codes =>
      (getTotpDevice args.username deviceId).bind fun device => .ret (device,codes)

/-- The arguments of `begin_enrollment`, and the token, the secret and the nonce drawn. -/
structure Beginning where
  username : String
  name : String
  token : String
  secret : String
  nonce : ℕ
  clock : ℕ → ℤ

/-- The row that an enrolment begins with. -/
def Beginning.row (args : Beginning) (name : String) : Enrollment :=
  { tokenHash := env.sha256 args.token, username := args.username, name := name,
    secretEnc := env.encrypt args.nonce args.secret, createdAt := args.clock 1,
    expiresAt := args.clock 1+600 }

/-- `begin_enrollment`. -/
def beginEnrollment (args : Beginning) : AuthProg ι Reply :=
  (ensureAccount i args.username (args.clock 0)).bind fun _ =>
  let name := clip (strip args.name) 80
  if name="" then authError "Authenticator name is required"
  else
    let row := args.row env name
    (Prog.withDb <| perform i (.clearEnrollments args.username (args.clock 1)) fun _ =>
      perform i (.insertEnrollment row) fun _ => .ret ()).bind fun _ =>
    .ret (.started args.token name row.expiresAt)

def loginModes : List (String × LoginMode) :=
  [("password",.password),("password_or_totp",.passwordOrTotp),("totp_only",.totpOnly)]

def unlockMinutes : List ℤ := [2,5,10,15]

/-- The arguments of `save_account_settings`. -/
structure Settings where
  username : String
  loginMode : String
  sharedDisplayMode : Bool
  unlockMinutes : PyVal
  clock : ℕ → ℤ

/-- The checks of `save_account_settings` on its arguments alone. -/
def Settings.parse (args : Settings) : Except Fault (LoginMode × ℤ) :=
  match loginModes.lookup (env.lower (strip (orElse args.loginMode "password"))) with
  | none => .error (.authError "Invalid login mode")
  | some loginMode =>
    match args.unlockMinutes.toInt with
    | .error .typeError => .error (.authError "Unlock duration is invalid")
    | .error (.valueError _) => .error (.authError "Unlock duration is invalid")
    | .error e => .error (.raised e)
    | .ok minutes =>
      if Auth.unlockMinutes.contains minutes then .ok (loginMode,minutes)
      else .error (.authError "Unlock duration must be 2, 5, 10 or 15 minutes")

/-- `save_account_settings`. -/
def saveAccountSettings (args : Settings) : AuthProg ι Reply :=
  (lift (args.parse env)).bind fun (loginMode,minutes) =>
  (activeTotpCount args.username).bind fun active =>
  if loginMode≠.password && active < 1 then
    authError "Enroll at least one authenticator before enabling OTP login"
  else if args.sharedDisplayMode && active < 1 then
    authError "Shared display mode requires at least one active authenticator"
  else
    (if loginMode=.totpOnly then (remainingRecoveryCodes args.username).bind fun remaining =>
        if remaining < 1 then authError "Generate recovery codes before enabling OTP-only login"
        else .ret ()
      else .ret ()).bind fun _ =>
    -- the account is ensured in a connection of its own, before the block has written
    (ensureAccount i args.username (args.clock 1)).bind fun _ =>
    (Prog.withDb <| perform i (.saveSettings args.username loginMode args.sharedDisplayMode
      minutes (args.clock 0)) fun _ => .ret ()).bind fun _ =>
    (ensureAccount i args.username (args.clock 2)).bind fun row => .ret (.settings row)

/-- `revoke_totp_device`. -/
def revokeTotpDevice (username : String) (id : ℤ) (clock : ℕ → ℤ) : AuthProg ι Reply :=
  (ensureAccount i username (clock 0)).bind fun account =>
  (getTotpDevice username id).bind fun device =>
  match device.filter fun d => d.2.revokedAt.isNone with
  | none => authError "Authenticator does not exist or is already revoked"
  | some device =>
    (activeTotpCount username).bind fun active =>
    if active ≤ 1 && (account.loginMode≠.password || account.sharedDisplayMode) then
      authError <| "Cannot revoke the final authenticator while OTP login or shared display mode " ++
        "is enabled"
    else
      (Prog.withDb <| perform i (.revokeTotpDevice username id (clock 1)) fun _ => .ret ()).bind
        fun _ =>
      (getTotpDevice username id).bind fun after => .ret (.revoked (after.getD device))

end Programs

/-- The calls, with their arguments. -/
inductive Call
  | verifyOtpOrRecovery (username code : String) (clock : ℕ → ℤ)
  | confirmEnrollment (args : Confirmation)
  | beginEnrollment (args : Beginning)
  | saveAccountSettings (args : Settings)
  | revokeTotpDevice (username : String) (id : ℤ) (clock : ℕ → ℤ)
  | regenerateRecoveryCodes (username : String) (draw : ℕ → String) (clock : ℕ → ℤ)

def Call.program {ι : Type} (env : AuthEnv) (i : ι) : Call → AuthProg ι Reply
  | .verifyOtpOrRecovery username code clock =>
    (Auth.verifyOtpOrRecovery env i username code clock).bind fun a => .ret (.verified a)
  | .confirmEnrollment args => (Auth.confirmEnrollment env i args).bind fun (device,codes) =>
    .ret (.confirmed device codes)
  | .beginEnrollment args => Auth.beginEnrollment env i args
  | .saveAccountSettings args => Auth.saveAccountSettings env i args
  | .revokeTotpDevice username id clock => Auth.revokeTotpDevice i username id clock
  | .regenerateRecoveryCodes username draw clock =>
    (Auth.regenerateRecoveryCodes env i username draw clock).bind fun codes => .ret (.codes codes)

end ZenControl.Auth
