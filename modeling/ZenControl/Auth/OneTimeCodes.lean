import ZenControl.Auth.Uses

/-! Codes that are used once. While nobody else writes to the row of a code between the query on
which a call accepts it and the write that says so, the checks of the calls are enough: each
counter of a secret, each recovery code and each enrolment is accepted at most once. -/
namespace ZenControl.Auth
open Calls Rows

/-- The rows of a code are still as they were in the tables `seen`: the authenticators of its
secret, the recovery code, the enrolment. -/
def Use.Untouched (env : AuthEnv) (seen db : AuthDb) : Use → Prop
  | .counter secret _ => ∀ r ∈ seen.totpDevices.rows, env.decrypt r.2.secretEnc=some secret →
      db.totpDevices.find r.1=some r.2
  | .recoveryCode id => ∀ r ∈ seen.recoveryCodes.rows, r.1=id → db.recoveryCodes.find id=some r.2
  | .enrollment tokenHash => ∀ e ∈ seen.enrollments, e.tokenHash=tokenHash → e ∈ db.enrollments

instance (env : AuthEnv) (seen db : AuthDb) : (u : Use) → Decidable (u.Untouched env seen db)
  | .counter secret _ => inferInstanceAs (Decidable (∀ r ∈ seen.totpDevices.rows,
      env.decrypt r.2.secretEnc=some secret → db.totpDevices.find r.1=some r.2))
  | .recoveryCode id => inferInstanceAs (Decidable (∀ r ∈ seen.recoveryCodes.rows,
      r.1=id → db.recoveryCodes.find id=some r.2))
  | .enrollment tokenHash => inferInstanceAs (Decidable (∀ e ∈ seen.enrollments,
      e.tokenHash=tokenHash → e ∈ db.enrollments))

section Programs
variable {ι α : Type}

lemma unusedCode_some {db : AuthDb} {username digest : String} {id : ℕ} {c : RecoveryCode}
    (h : db.unusedCode username digest=some (id,c)) :
    db.recoveryCodes.find id=some c ∧ c.usedAt=none := by
  obtain ⟨hfind,hrow⟩ := Table.first_some h
  simp only [Bool.and_eq_true,Option.isNone_iff_eq_none] at hrow
  exact ⟨hfind,hrow.2⟩

/-- The condition on the write that opens a block: nobody has touched the rows of a code that it
accepts since the call has read them. -/
def codesUntouched (env : AuthEnv) (views : List (AuthState ι)) :
    Prog.Allows (AuthState ι) Fault := fun f s =>
  ∀ s', f s=.ok s' → ∀ u ∈ s'.uses.drop s.uses.length, ∀ v ∈ views, u.2.Untouched env v.db s.db

/-- What a program does beside other calls that keep out of its way. -/
abbrev Safe (env : AuthEnv) (Q : α → List (AuthState ι) → AuthState ι → Prop)
    (views : List (AuthState ι)) (seen : AuthState ι) (p : AuthProg ι α) : Prop :=
  Prog.Meets (Sound env) Later (codesUntouched env) Q views seen p

lemma perform_uses {i : ι} {statement : Statement} {s s' : AuthState ι}
    (h : s.perform i statement=.ok s') :
    s'.uses=s.uses ++ statement.uses.map fun u => (i,u) := by
  unfold AuthState.perform at h
  cases hrun : statement.run s.db with
  | error e => rw [hrun] at h; cases h
  | ok db => rw [hrun] at h; cases h; rfl

lemma perform_run_ok {i : ι} {statement : Statement} {k : AuthState ι → AuthProg ι α}
    {s s' : AuthState ι} {a : α}
    (h : (perform i statement k).run Prog.inTransaction s=(.ok a,s')) :
    ∃ t, s.perform i statement=.ok t ∧ (k t).run Prog.inTransaction t=(.ok a,s') := by
  cases hs : s.perform i statement with
  | ok t =>
    refine ⟨t,rfl,?_⟩
    rwa [perform,Prog.write_run t hs] at h
  | error e =>
    rw [perform,Prog.write_run_error hs] at h
    cases h

variable {env : AuthEnv} {i : ι} {views : List (AuthState ι)} {seen : AuthState ι}
  {Q : α → List (AuthState ι) → AuthState ι → Prop}

lemma lift_safe {x : Except Fault α}
    (h : ∀ a, x=.ok a → ∀ s, Sound env s → Later seen s → Q a views s) :
    Safe env Q views seen (lift x) := by
  cases x with
  | ok a => exact .ret (h a rfl)
  | error e => exact .raise e

/-- A block that only reads. -/
lemma read_safe {f : AuthState ι → α}
    (h : ∀ s, Sound env s → Later seen s → ∀ t, Sound env t → Later s t → Q (f s) (s :: views) t) :
    Safe env Q views seen (Prog.withDb <| Prog.select fun s => .ret (f s)) :=
  .withDb_select fun s hs hseen => .withDb_ret (h s hs hseen)

/-- A block that opens with a statement. -/
lemma perform_safe {statement : Statement} {k : AuthState ι → AuthProg ι α}
    (hk : ∀ s, (k s).Plain)
    (h : ∀ s, Sound env s → Later seen s →
      (∀ u ∈ statement.uses, ∀ v ∈ views, u.Untouched env v.db s.db) →
      ∀ t, s.perform i statement=.ok t → ∀ a s', (k t).run Prog.inTransaction t=(.ok a,s') →
        Sound env s' ∧ Later s s' ∧ ∀ t, Sound env t → Later s' t → Q a (s' :: views) t) :
    Safe env Q views seen (Prog.withDb (perform i statement k)) :=
  .withDb_write hk .refl fun s hs hseen huntouched a s' hrun => by
    obtain ⟨t,ht,hrest⟩ := perform_run_ok hrun
    refine h s hs hseen (fun u hu => ?_) t ht a s' hrest
    have hdrop := huntouched t ht
    rw [perform_uses ht,List.drop_left] at hdrop
    exact hdrop (i,u) (List.mem_map_of_mem hu)

lemma lift_run_ok {x : Except Fault α} {s s' : AuthState ι} {a : α}
    (h : (lift x : AuthProg ι α).run Prog.inTransaction s=(.ok a,s')) : x=.ok a ∧ s'=s := by
  cases x with
  | ok b => cases h; exact ⟨rfl,rfl⟩
  | error e => cases h

lemma lift_plain (x : Except Fault α) : (lift x : AuthProg ι α).Plain := by
  cases x <;> trivial

/-- A block of one statement that accepts nothing. -/
lemma quiet_safe {statement : Statement} (hquiet : statement.Quiet)
    {k : AuthState ι → Except Fault α} :
    Safe env (fun _ _ _ => True) views seen
      (Prog.withDb (perform i statement fun s => lift (k s))) :=
  perform_safe (fun s => lift_plain (k s)) fun s hs _ _ t ht a s' hret => by
    obtain ⟨-,rfl⟩ := lift_run_ok hret
    obtain ⟨hsound,hlater⟩ := hs.perform_quiet ht hquiet
    exact ⟨hsound,hlater,fun _ _ _ => trivial⟩

lemma ensureAccount_safe (username : String) (now : ℤ) :
    Safe env (fun _ _ _ => True) views seen (ensureAccount i username now) := by
  unfold ensureAccount
  dsimp only
  split_ifs
  · exact .raise _
  · exact quiet_safe (show (Statement.insertAccount _ _).Quiet from trivial)

/-- New recovery codes are no codes that were accepted. -/
lemma regenerateRecoveryCodes_safe (hseen : Sound env seen) (username : String) (draw : ℕ → String)
    (clock : ℕ → ℤ) :
    Safe env (fun _ _ _ => True) views seen (regenerateRecoveryCodes env i username draw clock) := by
  refine .andThen .refl .trans hseen (ensureAccount_safe _ _) fun _ _ s _ _ _ _ => ?_
  refine perform_safe (fun s => ?_) fun s hs _ _ t ht a s' hrest => ?_
  · exact (lift_plain _).bind fun digests => .write fun _ => trivial
  · obtain ⟨hsound,hlater⟩ := hs.perform_quiet ht trivial
    cases hdigests : ((List.range recoveryCodeCount).map draw).mapM (recoveryHash env) with
    | error e =>
      rw [hdigests] at hrest
      cases hrest
    | ok digests =>
      rw [hdigests] at hrest
      obtain ⟨u,hu,hret⟩ := perform_run_ok hrest
      cases hret
      obtain ⟨hsound',hlater'⟩ := hsound.perform_quiet hu trivial
      exact ⟨hsound',hlater.trans _ _ _ hlater',fun _ _ _ => trivial⟩

section Verification

/-- An accepted counter stands among the uses of the call. -/
def Verified (env : AuthEnv) (i : ι) (s : AuthState ι) : Accepted → Prop
  | .totp id _ counter => ∃ d secret, s.db.totpDevices.find id=some d ∧
      env.decrypt d.secretEnc=some secret ∧ (i,Use.counter secret counter) ∈ s.uses
  | .recovery => ∃ id, (i,Use.recoveryCode id) ∈ s.uses

lemma Verified.later {s t : AuthState ι} (hst : Later s t) {a : Accepted}
    (h : Verified env i s a) : Verified env i t a := by
  cases a with
  | totp id name counter =>
    obtain ⟨d,secret,hd,hsecret,hused⟩ := h
    obtain ⟨d',hd',heq⟩ := hst.totpDevices id d hd
    exact ⟨d',secret,hd',heq ▸ hsecret,hst.uses hused⟩
  | recovery =>
    obtain ⟨id,hused⟩ := h
    exact ⟨id,hst.uses hused⟩

/-- The loop over the rows that were read: an accepted counter is above the one of its row, and
the row is as it was read. -/
lemma verifyRows_safe (code : String) (clock : ℕ → ℤ) {s : AuthState ι} (hs : s ∈ views) (n : ℕ)
    {rows : List (ℕ × TotpDevice)} (hrows : ∀ r ∈ rows, s.db.totpDevices.find r.1=some r.2) :
    Safe env (fun a _ t => ∀ accepted, a=some accepted → Verified env i t accepted) views s
      (Prog.withDb (verifyRows env i code clock n rows)) := by
  induction rows generalizing n with
  | nil => exact .withDb_ret fun t _ _ accepted h => by cases h
  | cons r rows ih =>
    obtain ⟨id,row⟩ := r
    have hrow : s.db.totpDevices.find id=some row := hrows (id,row) List.mem_cons_self
    unfold verifyRows
    cases hsecret : decryptSecret env row.secretEnc with
    | error e => exact .withDb_raise e
    | ok secret =>
      have hsecret : env.decrypt row.secretEnc=some secret := decryptSecret_ok hsecret
      dsimp only
      cases hcode : verifySecretCode env secret code (clock n) row.lastUsedCounter with
      | error e => exact .withDb_raise e
      | ok counter =>
        cases counter with
        | none => exact ih (n+1) fun r hr => hrows r (List.mem_cons_of_mem _ hr)
        | some counter =>
          refine perform_safe (fun _ => trivial) fun t ht hst huntouched u hu a s' hret => ?_
          cases hret
          have hsame : t.db.totpDevices.find id=some row :=
            huntouched (.counter secret counter) List.mem_cons_self s hs (id,row)
              (Table.mem_iff.mpr hrow) hsecret
          have habove : row.lastUsedCounter < counter := verifySecretCode_above env hcode
          obtain ⟨hsound,hlater,hused⟩ := ht.useCounter hsame hsecret habove hu
          refine ⟨hsound,hlater,fun v _ huv accepted haccepted => ?_⟩
          cases haccepted
          obtain ⟨d,hd,heq⟩ := hlater.totpDevices id row hsame
          exact Verified.later huv ⟨d,secret,hd,heq ▸ hsecret,hused⟩

lemma verifyTotp_safe (username code : String) (clock : ℕ → ℤ) :
    Safe env (fun a _ t => ∀ accepted, a=some accepted → Verified env i t accepted) views seen
      (verifyTotp env i username code clock) :=
  .withDb_select fun _ _ _ => verifyRows_safe code clock List.mem_cons_self 0
    fun _ hr => (Table.mem_select.mp hr).1

lemma verifyRecoveryCode_safe (hseen : Sound env seen) (username code : String) (now : ℤ) :
    Safe env (fun a _ t => a=true → Verified env i t .recovery) views seen
      (verifyRecoveryCode env i username code now) := by
  unfold verifyRecoveryCode
  split_ifs
  · exact .ret fun _ _ _ h => by cases h
  · refine .andThen (R := fun _ _ _ => True) .refl .trans hseen
      (lift_safe fun _ _ _ _ _ => trivial) fun digest _ s _ _ _ _ => ?_
    refine .withDb_select fun t _ _ => ?_
    cases hrow : t.db.unusedCode username digest with
    | none => exact .withDb_ret fun _ _ _ h => by cases h
    | some row =>
      obtain ⟨id,c⟩ := row
      obtain ⟨hfind,hunused⟩ := unusedCode_some hrow
      refine perform_safe (fun _ => trivial) fun u hu _ huntouched v hv a s' hret => ?_
      cases hret
      have hsame : u.db.recoveryCodes.find id=some c :=
        huntouched (.recoveryCode id) List.mem_cons_self t List.mem_cons_self (id,c)
          (Table.mem_iff.mpr hfind) rfl
      obtain ⟨hsound,hlater,hused⟩ := hu.useCode hsame hunused hv
      exact ⟨hsound,hlater,fun w _ hvw _ => Verified.later hvw ⟨id,hused⟩⟩

lemma verifyOtpOrRecovery_safe (hseen : Sound env seen) (username code : String)
    (clock : ℕ → ℤ) :
    Safe env (fun a _ t => ∀ accepted, a=some accepted → Verified env i t accepted) views seen
      (verifyOtpOrRecovery env i username code clock) := by
  unfold verifyOtpOrRecovery
  dsimp only
  split_ifs
  · exact verifyTotp_safe ..
  · refine .andThen .refl .trans hseen (verifyRecoveryCode_safe hseen ..)
      fun a _ s _ hs _ hq => ?_
    refine .ret fun t _ hst accepted haccepted => ?_
    cases a with
    | true => cases haccepted; exact (hq rfl).later hst
    | false => cases haccepted

end Verification

section Confirmation

/-- The enrolment of a token, if it is still there, has the secret that was read. -/
def Secret (env : AuthEnv) (tokenHash secret : String) (s : AuthState ι) : Prop :=
  ∀ e ∈ s.db.enrollments, e.tokenHash=tokenHash → env.decrypt e.secretEnc=some secret

lemma Secret.later {s t : AuthState ι} (hst : Later s t) {tokenHash secret : String}
    (h : Secret env tokenHash secret s) : Secret env tokenHash secret t :=
  fun e he => h e (hst.enrollments he)

/-- The enrolment of a token was seen. -/
def Shown (tokenHash : String) (views : List (AuthState ι)) : Prop :=
  ∃ v ∈ views, ∃ e ∈ v.db.enrollments, e.tokenHash=tokenHash

lemma Shown.mono {tokenHash : String} {views' : List (AuthState ι)} (h : Shown tokenHash views)
    (hviews : views <:+ views') : Shown tokenHash views' := by
  obtain ⟨v,hv,he⟩ := h
  exact ⟨v,hviews.mem hv,he⟩

lemma enrollment_safe (hseen : Sound env seen) (username token : String) (now : ℤ) :
    Safe env (fun a views t => ∀ pending, a=some pending →
        Shown (env.sha256 token) views ∧ Secret env (env.sha256 token) pending.secret t)
      views seen (enrollment env i username token now) := by
  unfold enrollment
  -- the row that was read is the only one of its token
  refine .andThen (R := fun a views t => ∀ row ∈ a, Shown (env.sha256 token) views ∧
    ∀ e ∈ t.db.enrollments, e.tokenHash=env.sha256 token → e=row) .refl .trans hseen
    (read_safe fun s hs _ t _ hst row hrow => ?_) fun row _ s _ hs _ hrow => ?_
  · obtain ⟨hrow,-⟩ := Option.filter_eq_some_iff.mp (Option.mem_def.mp hrow)
    obtain ⟨hmem,hkey⟩ := Rows.row_some hrow
    refine ⟨⟨s,List.mem_cons_self,row,hmem,hkey⟩,fun e he htoken => ?_⟩
    exact hs.distinct.tokens e (hst.enrollments he) row hmem (htoken.trans hkey.symm)
  · cases row with
    | none => exact .ret fun _ _ _ _ h => by cases h
    | some row =>
      obtain ⟨hshown,honly⟩ := hrow row rfl
      dsimp only
      split_ifs
      · refine .andThen .refl .trans hs
          (quiet_safe (show (Statement.cancelEnrollment _ _).Quiet from trivial)
            (k := fun _ => .ok ())) fun _ _ _ _ _ _ _ => ?_
        exact .ret fun _ _ _ _ h => by cases h
      · refine .andThen (R := fun secret _ _ => env.decrypt row.secretEnc=some secret) .refl .trans
          hs (lift_safe fun secret hsecret _ _ _ => decryptSecret_ok hsecret)
          fun secret _ t hviews _ hst hsecret => ?_
        refine .ret fun u _ htu pending hpending => ⟨hshown.mono hviews,fun e he htoken => ?_⟩
        cases hpending
        rw [honly e (hst.enrollments (htu.enrollments he)) htoken]
        exact hsecret

/-- The block that writes the authenticator: the enrolment that was read is still there. -/
lemma enrol_safe {args : Confirmation} {pending : Pending} {counter : ℤ}
    (hshown : Shown (env.sha256 args.token) views)
    (hsecret : Secret env (env.sha256 args.token) pending.secret seen) :
    Safe env (fun _ _ t => (i,Use.enrollment (env.sha256 args.token)) ∈ t.uses ∧
      ∃ secret counter, (i,Use.counter secret counter) ∈ t.uses) views seen
      (enrol env i args pending counter) := by
  refine perform_safe (fun _ => .write fun _ => trivial)
    fun s hs hseen huntouched t ht a s' hrest => ?_
  obtain ⟨v,hv,e,hshown,htoken⟩ := hshown
  have he : e ∈ s.db.enrollments :=
    huntouched (.enrollment (env.sha256 args.token)) (by simp [Statement.uses]) v hv e hshown htoken
  obtain ⟨u,hu,hret⟩ := perform_run_ok hrest
  cases hret
  rw [← htoken] at ht hu ⊢
  obtain ⟨hsound,hlater,hcounter,henrollment⟩ := hs.enrol he
    (hsecret.later hseen e he htoken) (env.decrypt_encrypt _ _) ht hu
  exact ⟨hsound,hlater,fun v _ huv =>
    ⟨huv.uses henrollment,pending.secret,_,huv.uses hcounter⟩⟩

lemma confirmEnrollment_safe (hseen : Sound env seen) (args : Confirmation) :
    Safe env (fun _ _ t => (i,Use.enrollment (env.sha256 args.token)) ∈ t.uses ∧
      ∃ secret counter, (i,Use.counter secret counter) ∈ t.uses) views seen
      (confirmEnrollment env i args) := by
  unfold confirmEnrollment
  refine .andThen .refl .trans hseen (enrollment_safe hseen ..)
    fun pending _ s _ hs _ hpending => ?_
  cases pending with
  | none => exact .raise _
  | some pending =>
    obtain ⟨hshown,hsecret⟩ := hpending pending rfl
    refine .andThen (R := fun _ _ _ => True) .refl .trans hs (lift_safe fun _ _ _ _ _ => trivial)
      fun counter _ t hviews ht hst _ => ?_
    cases counter with
    | none => exact .raise _
    | some counter =>
      refine .andThen .refl .trans ht (enrol_safe (hshown.mono hviews) (hsecret.later hst))
        fun deviceId _ u _ hu _ hused => ?_
      refine .andThen (R := fun _ _ _ => True) .refl .trans hu
        (read_safe fun _ _ _ _ _ _ => trivial) fun remaining _ v _ hv huv _ => ?_
      refine .andThen (R := fun _ _ _ => True) .refl .trans hv ?_ fun codes _ w _ hw hvw _ => ?_
      · split_ifs
        · exact regenerateRecoveryCodes_safe hv ..
        · exact .ret fun _ _ _ => trivial
      · refine .andThen (R := fun _ _ _ => True) .refl .trans hw
          (read_safe fun _ _ _ _ _ _ => trivial) fun device _ x _ _ hwx _ => ?_
        refine .ret fun y _ hxy => ?_
        have huses : u.uses ⊆ y.uses := List.Subset.trans huv.uses
          (List.Subset.trans hvw.uses (List.Subset.trans hwx.uses hxy.uses))
        obtain ⟨henrollment,secret,counter,hcounter⟩ := hused
        exact ⟨huses henrollment,secret,counter,huses hcounter⟩

end Confirmation
end Programs

section Runs
variable {ι : Type} [DecidableEq ι] (env : AuthEnv) (calls : ι → Call)

/-- The calls that present a code. -/
def Call.Presents : Call → Prop
  | .verifyOtpOrRecovery .. | .confirmEnrollment _ => True
  | _ => False

/-- What a call that has ended stands for among the codes accepted. -/
def Recorded (i : ι) (s : AuthState ι) : Call → Reply → Prop
  | .verifyOtpOrRecovery .., .verified (some accepted) => Verified env i s accepted
  | .confirmEnrollment args, .confirmed _ _ =>
    (i,Use.enrollment (env.sha256 args.token)) ∈ s.uses ∧
      ∃ secret counter, (i,Use.counter secret counter) ∈ s.uses
  | _, _ => True

abbrev Point (ι : Type) :=
  Config ι (Sql (AuthState ι) Fault) Sql.Answer Fault Reply (Database ι (AuthState ι))

/-- The calls in front of the tables. -/
def begun (db : AuthDb) : Point ι := ⟨⟨{ db := db },none⟩,fun i => (calls i).program env i⟩

/-- Every code is used once, and every call that has succeeded has used one. -/
structure OnceOnly (c : Point ι) : Prop where
  once : UsedOnce c.shared.committed.uses
  recorded : ∀ i reply, c.code i=.ret reply → Recorded env i c.shared.committed (calls i) reply

variable {env calls}

omit [DecidableEq ι] in
lemma program_safe {i : ι} {call : Call} (hcall : call.Presents) {views : List (AuthState ι)}
    {seen : AuthState ι} (hseen : Sound env seen) :
    Safe env (fun reply _ t => Recorded env i t call reply) views seen (call.program env i) := by
  cases call with
  | verifyOtpOrRecovery username code clock =>
    refine .andThen .refl .trans hseen (verifyOtpOrRecovery_safe hseen ..)
      fun a _ s _ _ _ hq => ?_
    refine .ret fun t _ hst => ?_
    cases a with
    | none => trivial
    | some accepted => exact (hq accepted rfl).later hst
  | confirmEnrollment args =>
    refine .andThen .refl .trans hseen (confirmEnrollment_safe hseen args)
      fun a _ s _ _ _ hq => ?_
    obtain ⟨henrollment,secret,counter,hcounter⟩ := hq
    exact .ret fun t _ hst => ⟨hst.uses henrollment,secret,counter,hst.uses hcounter⟩
  | beginEnrollment args => exact hcall.elim
  | saveAccountSettings args => exact hcall.elim
  | revokeTotpDevice username id clock => exact hcall.elim
  | regenerateRecoveryCodes username draw clock => exact hcall.elim

/-- In every interleaving of calls that present a code, every code is used once when nobody
touches the rows of a code between the query and the write of a call that accepts it. -/
theorem codes_used_once (hcalls : ∀ i, (calls i).Presents) {db : AuthDb}
    (hdistinct : Distinct env db) {c : Point ι × Views ι (AuthState ι)}
    (run : Watched (allowedBy fun _ => codesUntouched env) (begun env calls db,fun _ => []) c) :
    OnceOnly env calls c.1 := by
  have hstart : Sound env ({ db := db } : AuthState ι) :=
    ⟨hdistinct,.nil,fun _ _ _ h => (by cases h),fun _ _ h => (by cases h),
      fun _ _ h => (by cases h)⟩
  obtain ⟨hsound,-,hrecorded⟩ := Prog.Meets.run .refl .trans hstart
    (fun i => program_safe (hcalls i) hstart) run
  exact ⟨hsound.once,hrecorded⟩

end Runs

section Double

def sampleSecret : String := "GEZDGNBVGY3TQOJQGEZDGNBVGY3TQOJQ"

/-- The first digests of the secret. -/
def sampleDigest : ℤ → Except StoreError (List (Fin 256))
  | 0 => .ok [0xcc,0x93,0xcf,0x18,0x50,0x8d,0x94,0x93,0x4c,0x64,0xb6,0x5d,0x8b,0xa7,0x66,0x7f,
      0xb7,0xcd,0xe4,0xb0]
  | 1 => .ok [0x75,0xa4,0x8a,0x19,0xd4,0xcb,0xe1,0x00,0x64,0x4e,0x8a,0xc1,0x39,0x7e,0xea,0x74,
      0x7a,0x2d,0x33,0xab]
  | 2 => .ok [0x0b,0xac,0xb7,0xfa,0x08,0x2f,0xef,0x30,0x78,0x22,0x11,0x93,0x8b,0xc1,0xc5,0xe7,
      0x04,0x16,0xff,0x44]
  | _ => .error (.valueError "")

/-- A process with one secret, which it keeps in clear, and texts of ASCII. -/
def sampleEnv : AuthEnv :=
  { lower := nocase, lower_ascii := nocase_ascii, casefold := nocase, containerText := fun _ => "",
    encrypt := fun _ secret => secret, decrypt := some, decrypt_encrypt := fun _ _ => rfl,
    hmac := fun secret counter =>
      if secret=sampleSecret then (sampleDigest counter).map fun bytes n => bytes.getD n.val 0
      else .error (.valueError ""),
    sha256 := id, upper := ZenControl.upper, isDigit := Char.isDigit,
    isAlnum := Char.isAlphanum }

example : hotp sampleEnv sampleSecret 0=.ok "755224" ∧ hotp sampleEnv sampleSecret 1=.ok "287082" := by
  decide

/-- A parent with one authenticator. -/
def samplePhone : AuthDb :=
  { totpDevices := Table.empty.insert
      { username := "parent", name := "Phone", secretEnc := sampleSecret, createdAt := 0 } }

lemma samplePhone_distinct : Distinct sampleEnv samplePhone := by
  refine ⟨fun e he => (by cases he),fun id d id' d' secret hd hd' _ _ => ?_,
    fun e he => (by cases he),fun id d _ e he => (by cases he)⟩
  rcases Table.find_insert_cases hd with h | ⟨rfl,-⟩
  · cases h
  · rcases Table.find_insert_cases hd' with h | ⟨rfl,-⟩
    · cases h
    · rfl

/-- A login with the code of the present half minute. -/
def sampleLogin : Call := .verifyOtpOrRecovery "parent" "287082" fun _ => 45

/-- Whether the rows of every code that the next write accepts are untouched. -/
def untouchedNow (i : ι) (views : List (AuthState ι)) (c : Point ι) : Bool :=
  match c.code i with
  | .call (.write f) _ =>
    match f c.shared.committed with
    | .ok s' => (s'.uses.drop c.shared.committed.uses.length).all fun u =>
        views.all fun v => decide (u.2.Untouched sampleEnv v.db c.shared.committed.db)
    | .error _ => true
  | _ => true

lemma untouchedNow_guard [DecidableEq ι] (i : ι) (views : Views ι (AuthState ι)) (c : Point ι)
    (h : untouchedNow i (views i) c) :
    (allowedBy fun _ => codesUntouched sampleEnv).step i (c,views) := by
  intro _
  unfold untouchedNow at h
  unfold ViewGuard.given allowedBy Prog.Allowed
  split at h
  · next f k hcode =>
    rw [hcode]
    intro s' hs' u hu v hv
    rw [hs'] at h
    exact of_decide_eq_true (List.all_eq_true.mp (List.all_eq_true.mp h u hu) v hv)
  · next hcode =>
    split
    · next f k hcode' => exact absurd hcode' (hcode f k)
    · trivial

/-- The second login begins when the first has ended. -/
def oneLoginAfterTheOther : List Bool := [false,false,false,true,true]

lemma logins_end : (watch untouchedNow oneLoginAfterTheOther
    (begun sampleEnv (fun _ => sampleLogin) samplePhone,fun _ => [])).isSome := by decide +kernel

/-- What a call that has ended has returned. -/
def replied : AuthProg ι Reply → Option Reply
  | .ret reply => some reply
  | _ => none

lemma logins_reply (i : Bool) : replied (((watch untouchedNow oneLoginAfterTheOther
    (begun sampleEnv (fun _ => sampleLogin) samplePhone,fun _ => [])).get logins_end).1.code i)=
      some (.verified (if i then none else some (.totp 1 "Phone" 1))) := by
  revert i
  decide +kernel

/-- The second login with a code is rejected. -/
theorem codes_used_once_login : ∃ c : Point Bool,
    (∀ i, replied (c.code i)=
      some (.verified (if i then none else some (.totp 1 "Phone" 1)))) ∧
      OnceOnly sampleEnv (fun _ => sampleLogin) c := by
  have hrun := watch_run untouchedNow_guard (Option.some_get logins_end).symm
  have hcalls : ∀ _ : Bool, sampleLogin.Presents := fun _ => trivial
  exact ⟨_,logins_reply,codes_used_once hcalls samplePhone_distinct hrun⟩

/-- Both logins read the authenticator before either writes. -/
def bothRead : List Bool := [false,true,false,false,true,true]

lemma both_end : (Config.exec Database.serve (fun _ _ => true) bothRead
    (begun sampleEnv (fun _ => sampleLogin) samplePhone)).isSome := by decide +kernel

/-- Two logins that read the authenticator before either has written accept one code twice. -/
theorem codes_not_used_once :
    ¬∀ (calls : Bool → Call) (db : AuthDb), (∀ i, (calls i).Presents) → Distinct sampleEnv db →
      ∀ c, Run (Config.Step Database.serve) anyStep (begun sampleEnv calls db) c →
        OnceOnly sampleEnv calls c := by
  intro h
  have hrun := (Config.exec_run (Option.some_get both_end).symm).mono fun _ _ _ => trivial
  have honce := h (fun _ => sampleLogin) samplePhone (fun _ => trivial) samplePhone_distinct _ hrun
  have hcounters : ¬(countersOf sampleSecret ((Config.exec Database.serve (fun _ _ => true) bothRead
      (begun sampleEnv (fun _ => sampleLogin) samplePhone)).get
        both_end).shared.committed.uses).Pairwise fun c c' => c < c' := by decide +kernel
  exact hcounters (honce.once.counters sampleSecret)

end Double
end ZenControl.Auth
