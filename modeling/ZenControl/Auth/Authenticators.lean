import ZenControl.Auth.OneTimeCodes

/-! Accounts that need an authenticator. The two operations that move towards each other, a
change of the settings and a revocation, each check the other's table before they write; while
no other change of the same user comes between, an account that needs an authenticator has
one. -/
namespace ZenControl.Auth
open Calls Rows

/-- OTP login or shared display mode is on. -/
def Account.needsTotp (a : Account) : Bool := a.loginMode≠.password || a.sharedDisplayMode

/-- The ids of the authenticators of a user that are not revoked. -/
def AuthDb.activeIds (db : AuthDb) (username : String) : List ℕ :=
  (db.activeTotpDevices username).map Prod.fst

/-- `active_totp_count`. -/
def AuthDb.activeCount (db : AuthDb) (username : String) : ℕ :=
  (db.activeTotpDevices username).length

/-- Every account that needs an authenticator has one. -/
def Equipped (db : AuthDb) : Prop :=
  ∀ username a, db.account username=some a → a.needsTotp → 1 ≤ db.activeCount username

/-- The names of the accounts are those that `ensure_account` gives. -/
def Named (db : AuthDb) : Prop := ∀ username a, db.account username=some a → strip username=username

/-- A write changes the account of a user or takes an authenticator from it. -/
def AuthDb.Touches (db db' : AuthDb) (username : String) : Prop :=
  ((db.account username).isSome ∧ db'.account username≠db.account username) ∨
    db'.activeCount username < db.activeCount username

/-- Since a user was seen nobody has changed the account or revoked an authenticator. -/
def Unmoved (username : String) (seen db : AuthDb) : Prop :=
  (∀ a, seen.account username=some a → db.account username=some a) ∧
    seen.activeIds username ⊆ db.activeIds username

/-- The condition on a write of the settings or of a revocation: between the queries of its call
and the write nobody else has changed the account of the user or revoked an authenticator. -/
def equipmentUnmoved {ι : Type} (views : List (AuthState ι)) : Prog.Allows (AuthState ι) Fault :=
  fun f s => ∀ s', f s=.ok s' → ∀ username, s.db.Touches s'.db username →
    ∀ v ∈ views, Unmoved username v.db s.db

section Active
variable {db db' : AuthDb} {username : String}

lemma one_le_activeCount : 1 ≤ db.activeCount username ↔ ∃ id d, db.totpDevices.find id=some d ∧
    d.username=username ∧ d.revokedAt=none := by
  unfold AuthDb.activeCount AuthDb.activeTotpDevices
  rw [Nat.one_le_iff_ne_zero,← Nat.pos_iff_ne_zero,List.length_pos_iff_exists_mem]
  constructor
  · rintro ⟨⟨id,d⟩,hr⟩
    obtain ⟨hd,hactive⟩ := Table.mem_select.mp hr
    simp only [Bool.and_eq_true,decide_eq_true_eq,Option.isNone_iff_eq_none] at hactive
    exact ⟨id,d,hd,hactive⟩
  · rintro ⟨id,d,hd,hactive⟩
    exact ⟨(id,d),Table.mem_select.mpr ⟨hd,by simpa using hactive⟩⟩

/-- Of two authenticators one is not the given one. -/
lemma two_le_activeCount (h : 2 ≤ db.activeCount username) (id : ℤ) : ∃ k d,
    db.totpDevices.find k=some d ∧ d.username=username ∧ d.revokedAt=none ∧ (k : ℤ)≠id := by
  have hsorted : (db.activeTotpDevices username).Pairwise fun r r' => r.1 < r'.1 :=
    db.totpDevices.increasing.filter _
  have hactive : ∀ r ∈ db.activeTotpDevices username, db.totpDevices.find r.1=some r.2 ∧
      r.2.username=username ∧ r.2.revokedAt=none := fun r hr => by
    obtain ⟨hd,hactive⟩ := Table.mem_select.mp hr
    simp only [Bool.and_eq_true,decide_eq_true_eq,Option.isNone_iff_eq_none] at hactive
    exact ⟨hd,hactive⟩
  unfold AuthDb.activeCount at h
  rcases hrows : db.activeTotpDevices username with _ | ⟨r,_ | ⟨r',rows⟩⟩
  · rw [hrows] at h; simp at h
  · rw [hrows] at h; simp at h
  · rw [hrows] at hsorted hactive
    have hlt : r.1 < r'.1 := (List.pairwise_cons.mp hsorted).1 r' List.mem_cons_self
    by_cases hr : (r.1 : ℤ)=id
    · obtain ⟨hd,huser,hactive⟩ := hactive r' (by simp)
      exact ⟨r'.1,r'.2,hd,huser,hactive,by omega⟩
    · obtain ⟨hd,huser,hactive⟩ := hactive r (by simp)
      exact ⟨r.1,r.2,hd,huser,hactive,hr⟩

/-- Where nobody has revoked an authenticator there are no fewer. -/
lemma Unmoved.activeCount_le (h : Unmoved username db db') :
    db.activeCount username ≤ db'.activeCount username := by
  have hnodup : (db.activeIds username).Nodup :=
    List.pairwise_map.mpr ((db.totpDevices.increasing.filter _).imp fun hlt => Nat.ne_of_lt hlt)
  have hle := (List.subperm_of_subset hnodup h.2).length_le
  rwa [AuthDb.activeIds,AuthDb.activeIds,List.length_map,List.length_map] at hle

/-- What leaves the accounts and every active authenticator. -/
lemma Equipped.of_active (h : Equipped db) (haccounts : ∀ username a,
    db'.account username=some a → a.needsTotp → db.account username=some a) (hactive : ∀ id d, db.totpDevices.find id=some d → d.revokedAt=none →
      ∃ d', db'.totpDevices.find id=some d' ∧ d'.username=d.username ∧ d'.revokedAt=none) :
    Equipped db' := by
  intro username a ha hneeds
  obtain ⟨id,d,hd,huser,hnone⟩ :=
    one_le_activeCount.mp (h username a (haccounts username a ha hneeds) hneeds)
  obtain ⟨d',hd',huser',hnone'⟩ := hactive id d hd hnone
  exact one_le_activeCount.mpr ⟨id,d',hd',huser'.trans huser,hnone'⟩

end Active

/-- What every call keeps of the accounts and the authenticators. -/
structure Provided (db : AuthDb) : Prop where
  equipped : Equipped db
  named : Named db

section Statements
variable {ι : Type} {i : ι} {s s' : AuthState ι}

/-- The statements other than those of the settings and of the revocation. -/
def Statement.Harmless : Statement → Prop
  | .saveSettings .. | .revokeTotpDevice .. => False
  | .insertAccount username _ => strip username=username
  | _ => True

lemma insertCodes_accounts {username : String} {now : ℤ} {digests : List String} {db db' : AuthDb}
    (h : db.insertCodes username now digests=.ok db') : db'.accounts=db.accounts := by
  induction digests generalizing db with
  | nil => cases h; rfl
  | cons digest digests ih =>
    unfold AuthDb.insertCodes at h
    split_ifs at h
    exact (ih h).trans rfl

lemma perform_run {statement : Statement} (h : s.perform i statement=.ok s') :
    statement.run s.db=.ok s'.db := by
  unfold AuthState.perform at h
  cases hrun : statement.run s.db with
  | error e => rw [hrun] at h; cases h
  | ok db => rw [hrun] at h; cases h; rfl

/-- What leaves the accounts and every active authenticator. -/
lemma Provided.of_active {db db' : AuthDb} (h : Provided db) (haccounts : db'.accounts=db.accounts)
    (hactive : ∀ id d, db.totpDevices.find id=some d → d.revokedAt=none →
      ∃ d', db'.totpDevices.find id=some d' ∧ d'.username=d.username ∧ d'.revokedAt=none) :
    Provided db' := by
  have haccount : ∀ username, db'.account username=db.account username := fun username => by
    rw [AuthDb.account,haccounts,AuthDb.account]
  exact ⟨h.equipped.of_active (fun username a ha _ => haccount username ▸ ha) hactive,
    fun username a ha => h.named username a (haccount username ▸ ha)⟩

/-- The account that is inserted needs no authenticator. -/
lemma Provided.insertAccount {db db' : AuthDb} (h : Provided db) {username : String} {now : ℤ}
    (hrun : (Statement.insertAccount username now).run db=.ok db')
    (hname : strip username=username) : Provided db' := by
  cases hrun
  split_ifs with hold
  · exact h
  · have hnew : ∀ u a, Rows.row Account.username u
        (db.accounts ++ [{ username := username, updatedAt := now }])=some a →
        db.account u=some a ∨ u=username ∧ ¬a.needsTotp := fun u a ha => by
      rw [Rows.row,List.find?_append] at ha
      rcases Option.or_eq_some_iff.mp ha with ha | ⟨-,ha⟩
      · exact .inl ha
      · obtain ⟨hmem,hkey⟩ := Rows.row_some ha
        obtain rfl := List.mem_singleton.mp hmem
        exact .inr ⟨hkey.symm,by simp [Account.needsTotp]⟩
    refine ⟨h.equipped.of_active (fun u a ha hneeds => ?_) fun id d hd hnone => ⟨d,hd,rfl,hnone⟩,
      fun u a ha => ?_⟩
    · rcases hnew u a ha with ha | ⟨-,hneeds'⟩
      · exact ha
      · exact (hneeds' hneeds).elim
    · rcases hnew u a ha with ha | ⟨rfl,-⟩
      · exact h.named u a ha
      · exact hname

/-- A statement of neither the settings nor the revocation. -/
lemma Provided.harmless {db db' : AuthDb} (h : Provided db) {statement : Statement}
    (hrun : statement.run db=.ok db') (hharmless : statement.Harmless) : Provided db' := by
  have same : ∀ id d, db.totpDevices.find id=some d → d.revokedAt=none →
      ∃ d', db.totpDevices.find id=some d' ∧ d'.username=d.username ∧ d'.revokedAt=none :=
    fun id d hd hnone => ⟨d,hd,rfl,hnone⟩
  cases statement with
  | insertAccount username now => exact h.insertAccount hrun hharmless
  | saveSettings username loginMode sharedDisplayMode unlockMinutes now => exact hharmless.elim
  | clearEnrollments username now => cases hrun; exact h.of_active rfl same
  | insertEnrollment row =>
    unfold Statement.run at hrun
    dsimp only at hrun
    split_ifs at hrun
    cases hrun
    exact h.of_active rfl same
  | cancelEnrollment tokenHash username =>
    cases hrun
    exact h.of_active rfl same
  | insertTotpDevice tokenHash secret row =>
    cases hrun
    exact h.of_active rfl fun id d hd hnone => ⟨d,Table.find_insert_of_find hd,rfl,hnone⟩
  | deleteEnrollment tokenHash => cases hrun; exact h.of_active rfl same
  | useCounter id secret counter now =>
    cases hrun
    refine h.of_active rfl fun k d hd hnone => ?_
    dsimp only
    rw [Table.find_modify,hd]
    split_ifs
    · exact ⟨d.used counter now,rfl,rfl,hnone⟩
    · exact ⟨d,rfl,rfl,hnone⟩
  | revokeTotpDevice username id now => exact hharmless.elim
  | clearCodes username => cases hrun; exact h.of_active rfl same
  | insertCodes username digests now =>
    refine h.of_active (insertCodes_accounts hrun) ?_
    rw [(insertCodes_quiet hrun).1]
    exact same
  | useCode id now => cases hrun; exact h.of_active rfl same

/-- The account of a user after a change of settings. -/
lemma saveSettings_account {db db' : AuthDb} {username : String} {loginMode : LoginMode}
    {sharedDisplayMode : Bool} {minutes now : ℤ}
    (hrun : (Statement.saveSettings username loginMode sharedDisplayMode minutes now).run db=
      .ok db') {u : String} {a : Account} (ha : db'.account u=some a) :
    (∃ b, db.account u=some b) ∧ (db.account u=some a ∨
      u=username ∧ (a.needsTotp → loginMode≠.password ∨ sharedDisplayMode)) := by
  cases hrun
  rw [AuthDb.account,Rows.row_amend (fun _ => by rfl)] at ha
  split_ifs at ha with hu
  · obtain ⟨b,hb,rfl⟩ := Option.map_eq_some_iff.mp ha
    exact ⟨⟨b,hb⟩,.inr ⟨hu,fun hneeds => by simpa [Account.needsTotp] using hneeds⟩⟩
  · exact ⟨⟨a,ha⟩,.inl ha⟩

/-- A change of the settings: where it changes the account, the authenticators that were counted
are still there. -/
lemma Provided.saveSettings (h : Provided s.db) {username : String} {loginMode : LoginMode}
    {sharedDisplayMode : Bool} {minutes now : ℤ}
    (hs : s.perform i (.saveSettings username loginMode sharedDisplayMode minutes now)=.ok s')
    (hcount : s.db.Touches s'.db username → (loginMode≠.password ∨ sharedDisplayMode) →
      1 ≤ s.db.activeCount username) : Provided s'.db := by
  have hrun := perform_run hs
  have hsame : ∀ u, s'.db.activeCount u=s.db.activeCount u := fun u => by cases hs; rfl
  refine ⟨fun u a ha hneeds => ?_,fun u a ha => ?_⟩
  · obtain ⟨⟨b,hb⟩,hcases⟩ := saveSettings_account hrun ha
    rw [hsame]
    by_cases hold : s.db.account u=some a
    · exact h.equipped u a hold hneeds
    · obtain ⟨rfl,hmode⟩ := hcases.resolve_left hold
      exact hcount (.inl ⟨by simp [hb],by rw [ha]; exact Ne.symm hold⟩) (hmode hneeds)
  · obtain ⟨⟨b,hb⟩,-⟩ := saveSettings_account hrun ha
    exact h.named u b hb

/-- A revocation: where it takes the authenticator of an account that needs one, there is
another. -/
lemma Provided.revokeTotpDevice (h : Provided s.db) {username : String} {id now : ℤ}
    (hs : s.perform i (.revokeTotpDevice username id now)=.ok s')
    (hcount : s.db.Touches s'.db username → ∀ a, s.db.account username=some a → a.needsTotp →
      2 ≤ s.db.activeCount username) : Provided s'.db := by
  have haccounts : s'.db.accounts=s.db.accounts := by cases hs; rfl
  have haccount : ∀ u, s'.db.account u=s.db.account u := fun u => by
    rw [AuthDb.account,haccounts,AuthDb.account]
  -- an authenticator other than the revoked one is as it was
  have hkept : ∀ k d, s.db.totpDevices.find k=some d → ¬(d.username=username ∧ (k : ℤ)=id) →
      s'.db.totpDevices.find k=some d := fun k d hd hother => by
    cases hs
    dsimp only
    rw [Table.find_update,hd]
    simp [hother]
  refine ⟨fun u a ha hneeds => ?_,fun u a ha => h.named u a (haccount u ▸ ha)⟩
  rw [haccount] at ha
  by_cases hu : u=username
  · subst hu
    by_cases hlt : s'.db.activeCount u < s.db.activeCount u
    · obtain ⟨k,d,hd,huser,hnone,hne⟩ := two_le_activeCount (hcount (.inr hlt) a ha hneeds) id
      exact one_le_activeCount.mpr ⟨k,d,hkept k d hd fun hd => hne hd.2,huser,hnone⟩
    · exact (h.equipped u a ha hneeds).trans (Nat.le_of_not_lt hlt)
  · obtain ⟨k,d,hd,huser,hnone⟩ := one_le_activeCount.mp (h.equipped u a ha hneeds)
    exact one_le_activeCount.mpr
      ⟨k,d,hkept k d hd fun hd => hu (huser.symm.trans hd.1),huser,hnone⟩

end Statements

section Programs
variable {ι α β : Type} {i : ι} {views : List (AuthState ι)} {seen : AuthState ι}
  {Q : α → List (AuthState ι) → Prop}

/-- What a program keeps beside other calls that keep out of its way, and what it has seen when
it ends. -/
abbrev Kept (Q : α → List (AuthState ι) → Prop) (views : List (AuthState ι)) (seen : AuthState ι)
    (p : AuthProg ι α) : Prop :=
  Prog.Meets (fun s => Provided s.db) (fun _ _ => True) equipmentUnmoved (fun a v _ => Q a v)
    views seen p

/-- Programs in sequence, with what the first has seen. -/
lemma Kept.andThen {R : α → List (AuthState ι) → Prop} {Q : β → List (AuthState ι) → Prop}
    {p : AuthProg ι α} {f : α → AuthProg ι β} (hseen : Provided seen.db) (hp : Kept R views seen p)
    (hf : ∀ a views' s, views <:+ views' → Provided s.db → R a views' → Kept Q views' s (f a)) :
    Kept Q views seen (p.bind f) :=
  Prog.Meets.andThen (fun _ => trivial) (fun _ _ _ _ _ => trivial) hseen hp
    fun a views' s hviews hs _ hR => hf a views' s hviews hs hR

/-- A program behind a check that raises. -/
lemma Kept.unless {c : Prop} [Decidable c] {p : AuthProg ι α} {e : Fault}
    (h : ¬c → Kept Q views seen p) : Kept Q views seen (if c then .raise e else p) := by
  split_ifs with hc
  · exact .raise e
  · exact h hc

/-- A program that needs to have seen nothing. -/
structure Keeps (p : AuthProg ι α) : Prop where
  meets : ∀ views seen, Provided seen.db → Kept (fun _ _ => True) views seen p

lemma Keeps.ret (a : α) : Keeps (.ret a : AuthProg ι α) := ⟨fun _ _ _ => .ret fun _ _ _ => trivial⟩

lemma Keeps.raise (e : Fault) : Keeps (.raise e : AuthProg ι α) := ⟨fun _ _ _ => .raise e⟩

/-- A block that has only read. -/
lemma Keeps.withDb_ret (a : α) : Keeps (Prog.withDb (.ret a) : AuthProg ι α) :=
  ⟨fun _ _ _ => .withDb_ret fun _ _ _ => trivial⟩

lemma Keeps.withDb_raise (e : Fault) : Keeps (Prog.withDb (.raise e) : AuthProg ι α) :=
  ⟨fun _ _ _ => .withDb_raise e⟩

lemma Keeps.lift (x : Except Fault α) : Keeps (lift x : AuthProg ι α) := by
  cases x with
  | ok a => exact .ret a
  | error e => exact .raise e

lemma Keeps.bind {p : AuthProg ι α} {f : α → AuthProg ι β} (hp : Keeps p)
    (hf : ∀ a, Keeps (f a)) : Keeps (p.bind f) :=
  ⟨fun views seen hseen => .andThen hseen (hp.meets views seen hseen)
    fun a views' s _ hs _ => (hf a).meets views' s hs⟩

lemma Keeps.ite {c : Prop} [Decidable c] {p q : AuthProg ι α} (hp : Keeps p) (hq : Keeps q) :
    Keeps (if c then p else q) := by
  split_ifs
  · exact hp
  · exact hq

/-- A block that reads on. -/
lemma Keeps.select {k : AuthState ι → AuthProg ι α} (h : ∀ s, Keeps (Prog.withDb (k s))) :
    Keeps (Prog.withDb (Prog.select k)) :=
  ⟨fun views _ _ => .withDb_select fun s hs _ => (h s).meets (s :: views) s hs⟩

lemma Keeps.read (f : AuthState ι → α) :
    Keeps (Prog.withDb (Prog.select fun s => .ret (f s)) : AuthProg ι α) :=
  .select fun _ => .withDb_ret _

/-- A block that opens with a statement. -/
lemma Kept.perform {statement : Statement} {k : AuthState ι → AuthProg ι α}
    (hk : ∀ s, (k s).Plain)
    (h : ∀ s, Provided s.db → equipmentUnmoved views (AuthState.perform i statement) s →
      ∀ t, s.perform i statement=.ok t → ∀ a s', (k t).run Prog.inTransaction t=(.ok a,s') →
        Provided s'.db ∧ Q a (s' :: views)) :
    Kept Q views seen (Prog.withDb (perform i statement k)) := by
  refine .withDb_write hk (fun _ => trivial) fun s hs _ hunmoved a s' hrun => ?_
  obtain ⟨t,ht,hrest⟩ := perform_run_ok hrun
  obtain ⟨hkept,hQ⟩ := h s hs hunmoved t ht a s' hrest
  exact ⟨hkept,trivial,fun _ _ _ => hQ⟩

lemma Keeps.perform {statement : Statement} {k : AuthState ι → AuthProg ι α}
    (hk : ∀ s, (k s).Plain)
    (h : ∀ s : AuthState ι, Provided s.db → ∀ t, s.perform i statement=.ok t → ∀ a s',
      (k t).run Prog.inTransaction t=(.ok a,s') → Provided s'.db) :
    Keeps (Prog.withDb (Auth.perform i statement k)) :=
  ⟨fun _ _ _ => .perform hk fun s hs _ t ht a s' hrun => ⟨h s hs t ht a s' hrun,trivial⟩⟩

/-- A block of one harmless statement. -/
lemma Keeps.harmless {statement : Statement} (hharmless : statement.Harmless)
    (k : AuthState ι → Except Fault α) :
    Keeps (Prog.withDb (Auth.perform i statement fun s => Auth.lift (k s))) :=
  .perform (fun s => lift_plain (k s)) fun s hs t ht a s' hret => by
    obtain ⟨-,rfl⟩ := lift_run_ok hret
    exact hs.harmless (perform_run ht) hharmless

/-- `ensure_account` has seen the account that it returns. -/
lemma ensureAccount_kept (username : String) (now : ℤ) :
    Kept (fun a v => ∃ s ∈ v, s.db.account (strip username)=some a) views seen
      (ensureAccount i username now) := by
  unfold ensureAccount
  dsimp only
  split_ifs
  · exact .raise _
  · refine .perform (fun s => lift_plain _) fun s hs _ t ht a s' hret => ?_
    obtain ⟨hrow,rfl⟩ := lift_run_ok hret
    refine ⟨hs.harmless (perform_run ht) (strip_strip username),s',List.mem_cons_self,?_⟩
    cases hfound : s'.db.account (strip username) with
    | none => rw [hfound] at hrow; cases hrow
    | some row => rw [hfound] at hrow; cases hrow; rfl

lemma ensureAccount_keeps (username : String) (now : ℤ) :
    Keeps (ensureAccount i username now) := by
  unfold ensureAccount
  exact .ite (.raise _) (.harmless
    (show (Statement.insertAccount _ _).Harmless from strip_strip username) _)

/-- `active_totp_count` has seen the authenticators that it counts. -/
lemma activeTotpCount_kept (username : String) :
    Kept (fun n v => ∃ s ∈ v, s.db.activeCount username=n) views seen
      (activeTotpCount username : AuthProg ι ℕ) :=
  .withDb_select fun s _ _ => .withDb_ret fun _ _ _ => ⟨s,List.mem_cons_self,rfl⟩

variable {env : AuthEnv}

lemma verifyRows_keeps (code : String) (clock : ℕ → ℤ) (n : ℕ) (rows : List (ℕ × TotpDevice)) :
    Keeps (Prog.withDb (verifyRows env i code clock n rows)) := by
  induction rows generalizing n with
  | nil => exact .withDb_ret _
  | cons r rows ih =>
    unfold verifyRows
    cases decryptSecret env r.2.secretEnc with
    | error e => exact .withDb_raise e
    | ok secret =>
      dsimp only
      cases verifySecretCode env secret code (clock n) r.2.lastUsedCounter with
      | error e => exact .withDb_raise e
      | ok counter =>
        cases counter with
        | none => exact ih (n+1)
        | some counter =>
          exact .harmless (show (Statement.useCounter ..).Harmless from trivial) fun _ => .ok _

lemma verifyRecoveryCode_keeps (username code : String) (now : ℤ) :
    Keeps (verifyRecoveryCode env i username code now) := by
  refine .ite (.ret _) (.bind (.lift _) fun digest => .select fun s => ?_)
  cases s.db.unusedCode username digest with
  | none => exact .withDb_ret _
  | some row => exact .harmless (show (Statement.useCode ..).Harmless from trivial) fun _ => .ok _

lemma verifyOtpOrRecovery_keeps (username code : String) (clock : ℕ → ℤ) :
    Keeps (verifyOtpOrRecovery env i username code clock) :=
  .ite (.select fun _ => verifyRows_keeps ..)
    (.bind (verifyRecoveryCode_keeps ..) fun _ => .ret _)

lemma regenerateRecoveryCodes_keeps (username : String) (draw : ℕ → String) (clock : ℕ → ℤ) :
    Keeps (regenerateRecoveryCodes env i username draw clock) := by
  refine .bind (ensureAccount_keeps ..) fun _ => .perform (fun s => ?_)
    fun s hs t ht a s' hrest => ?_
  · exact (lift_plain _).bind fun _ => .write fun _ => trivial
  · have hcleared := hs.harmless (perform_run ht) trivial
    cases hdigests : ((List.range recoveryCodeCount).map draw).mapM (recoveryHash env) with
    | error e =>
      rw [hdigests] at hrest
      cases hrest
    | ok digests =>
      rw [hdigests] at hrest
      obtain ⟨u,hu,hret⟩ := perform_run_ok hrest
      cases hret
      exact hcleared.harmless (perform_run hu) trivial

lemma enrollment_keeps (username token : String) (now : ℤ) :
    Keeps (enrollment env i username token now) := by
  refine .bind (.read _) fun row => ?_
  cases row with
  | none => exact .ret _
  | some row =>
    exact .ite (.bind (.harmless (show (Statement.cancelEnrollment ..).Harmless from trivial)
      fun _ => .ok ()) fun _ => .ret _) (.bind (.lift _) fun _ => .ret _)

lemma enrol_keeps (args : Confirmation) (pending : Pending) (counter : ℤ) :
    Keeps (enrol env i args pending counter) := by
  refine .perform (fun _ => .write fun _ => trivial) fun s hs t ht a s' hrest => ?_
  obtain ⟨u,hu,hret⟩ := perform_run_ok hrest
  cases hret
  exact (hs.harmless (perform_run ht) trivial).harmless (perform_run hu) trivial

lemma confirmEnrollment_keeps (args : Confirmation) : Keeps (confirmEnrollment env i args) := by
  refine .bind (enrollment_keeps ..) fun pending => ?_
  cases pending with
  | none => exact .raise _
  | some pending =>
    refine .bind (.lift _) fun counter => ?_
    cases counter with
    | none => exact .raise _
    | some counter =>
      exact .bind (enrol_keeps ..) fun _ => .bind (.read _) fun _ =>
        .bind (.ite (regenerateRecoveryCodes_keeps ..) (.ret _)) fun _ =>
        .bind (.read _) fun _ => .ret _

lemma beginEnrollment_keeps (args : Beginning) : Keeps (beginEnrollment env i args) := by
  refine .bind (ensureAccount_keeps ..) fun _ => .ite (.raise _) (.bind (.perform
    (fun _ => .write fun _ => trivial) fun s hs t ht a s' hrest => ?_) fun _ => .ret _)
  obtain ⟨u,hu,hret⟩ := perform_run_ok hrest
  cases hret
  exact (hs.harmless (perform_run ht) trivial).harmless (perform_run hu) trivial

/-- The write of the settings finds the authenticators that the call has counted. -/
lemma saveAccountSettings_keeps (args : Settings) : Keeps (saveAccountSettings env i args) := by
  refine .bind (.lift _) fun (loginMode,minutes) => ⟨fun views seen hseen => ?_⟩
  refine .andThen hseen (activeTotpCount_kept _) fun active views s _ hs hactive => ?_
  refine .unless fun hmode => .unless fun hshared => ?_
  refine .andThen hs ((Keeps.ite (.bind (.read _) fun _ => .ite (.raise _) (.ret _))
    (.ret _)).meets _ _ hs) fun _ views₁ s₁ hviews₁ hs₁ _ => ?_
  refine .andThen hs₁ ((ensureAccount_keeps _ _).meets _ _ hs₁) fun _ views₂ s₂ hviews₂ hs₂ _ => ?_
  refine .andThen hs₂ (.perform (Q := fun _ _ => True) (fun _ => trivial)
    fun t ht hunmoved t' ht' a s' hret => ?_) fun _ _ s₃ _ hs₃ _ => ?_
  · cases hret
    refine ⟨ht.saveSettings ht' fun htouches hneeds => ?_,trivial⟩
    obtain ⟨v,hv,rfl⟩ := hactive
    have hle := (hunmoved t' ht' _ htouches v (hviews₂.mem (hviews₁.mem hv))).activeCount_le
    rcases hneeds with hneeds | hneeds
    · simp only [hneeds,ne_eq,not_false_eq_true,decide_true,Bool.true_and,decide_eq_true_eq,
        not_lt] at hmode
      exact hmode.trans hle
    · simp only [hneeds,Bool.true_and,decide_eq_true_eq,not_lt] at hshared
      exact hshared.trans hle
  · exact (Keeps.bind (ensureAccount_keeps _ _) fun _ => .ret _).meets _ _ hs₃

/-- The write of a revocation finds the account and the authenticators that the call has seen. -/
lemma revokeTotpDevice_keeps (username : String) (id : ℤ) (clock : ℕ → ℤ) :
    Keeps (revokeTotpDevice i username id clock) := by
  refine ⟨fun views seen hseen => ?_⟩
  refine .andThen hseen (ensureAccount_kept _ _) fun account views s _ hs haccount => ?_
  refine .andThen hs ((Keeps.read _).meets _ _ hs) fun device views₁ s₁ hviews₁ hs₁ _ => ?_
  cases device.filter fun d => d.2.revokedAt.isNone with
  | none => exact .raise _
  | some device =>
    refine .andThen hs₁ (activeTotpCount_kept _) fun active views₂ s₂ hviews₂ hs₂ hactive => ?_
    refine .unless fun hlast => ?_
    refine .andThen hs₂ (.perform (Q := fun _ _ => True) (fun _ => trivial)
      fun t ht hunmoved t' ht' a s' hret => ?_) fun _ _ s₃ _ hs₃ _ => ?_
    · cases hret
      refine ⟨ht.revokeTotpDevice ht' fun htouches b hb hneeds => ?_,trivial⟩
      obtain ⟨v,hv,haccount⟩ := haccount
      obtain ⟨w,hw,rfl⟩ := hactive
      have hstill := hunmoved t' ht' _ htouches
      rw [ht.named _ _ hb] at haccount
      obtain rfl : account=b := Option.some.inj
        (((hstill v (hviews₂.mem (hviews₁.mem hv))).1 _ haccount).symm.trans hb)
      have hcount : ¬w.db.activeCount username ≤ 1 := fun hle => hlast (by
        simpa [hle,Account.needsTotp] using hneeds)
      have hle := (hstill w hw).activeCount_le
      omega
    · exact (Keeps.bind (.read _) fun _ => .ret _).meets _ _ hs₃

lemma program_keeps (call : Call) : Keeps (call.program env i) := by
  cases call with
  | verifyOtpOrRecovery username code clock =>
    exact .bind (verifyOtpOrRecovery_keeps ..) fun _ => .ret _
  | confirmEnrollment args => exact .bind (confirmEnrollment_keeps args) fun _ => .ret _
  | beginEnrollment args => exact beginEnrollment_keeps args
  | saveAccountSettings args => exact saveAccountSettings_keeps args
  | revokeTotpDevice username id clock => exact revokeTotpDevice_keeps username id clock
  | regenerateRecoveryCodes username draw clock =>
    exact .bind (regenerateRecoveryCodes_keeps ..) fun _ => .ret _

end Programs

section Runs
variable {ι : Type} [DecidableEq ι]

/-- In every interleaving of calls, an account that needs an authenticator has one when nobody
else changes the account of a user or revokes an authenticator between the queries of a call and
its write of the settings or of a revocation. -/
theorem authenticator_remains (env : AuthEnv) (calls : ι → Call) {db : AuthDb}
    (hdb : Equipped db) (hnamed : Named db) {c : Point ι × Views ι (AuthState ι)}
    (run : Watched (allowedBy fun _ => equipmentUnmoved) (begun env calls db,fun _ => []) c) :
    Equipped c.1.shared.committed.db :=
  (Prog.Meets.run (I := fun s => Provided s.db) (fun _ => trivial) (fun _ _ _ _ _ => trivial)
    ⟨hdb,hnamed⟩ (fun i => (program_keeps (calls i)).meets [] { db := db } ⟨hdb,hnamed⟩)
    run).1.equipped

end Runs

section Crossing
variable {ι : Type}

/-- A parent with one authenticator. -/
def sampleParent : AuthDb :=
  { samplePhone with accounts := [{ username := "parent", updatedAt := 0 }] }

lemma sampleParent_account {username : String} {a : Account}
    (h : sampleParent.account username=some a) :
    a={ username := "parent", updatedAt := 0 } ∧ username="parent" := by
  obtain ⟨hmem,hkey⟩ := Rows.row_some h
  obtain rfl := List.mem_singleton.mp hmem
  exact ⟨rfl,hkey.symm⟩

lemma sampleParent_equipped : Equipped sampleParent := by
  intro username a ha hneeds
  obtain ⟨rfl,-⟩ := sampleParent_account ha
  cases hneeds

lemma sampleParent_named : Named sampleParent := by
  intro username a ha
  obtain ⟨-,rfl⟩ := sampleParent_account ha
  decide

/-- OTP login is turned on. -/
def sampleSettings : Call := .saveAccountSettings
  { username := "parent", loginMode := "password_or_totp", sharedDisplayMode := false,
    unlockMinutes := .int 5, clock := fun _ => 45 }

/-- The authenticator is revoked. -/
def sampleRevocation : Call := .revokeTotpDevice "parent" 1 fun _ => 45

def crossedCalls (i : Bool) : Call := if i then sampleRevocation else sampleSettings

/-- The accounts and the authenticators are the same. -/
def AuthDb.sameEquipment (db db' : AuthDb) : Bool :=
  db.accounts=db'.accounts && db.totpDevices.rows=db'.totpDevices.rows

lemma unmoved_of_same {db db' : AuthDb} (h : db.sameEquipment db') (username : String) :
    Unmoved username db db' := by
  simp only [AuthDb.sameEquipment,Bool.and_eq_true,decide_eq_true_eq] at h
  refine ⟨fun a ha => ?_,?_⟩
  · rwa [AuthDb.account,← h.1]
  · rw [AuthDb.activeIds,AuthDb.activeIds,AuthDb.activeTotpDevices,AuthDb.activeTotpDevices,
      Table.select,Table.select,h.2]
    exact List.Subset.refl _

lemma not_touches_of_same {db db' : AuthDb} (h : db.sameEquipment db') (username : String) :
    ¬db.Touches db' username := by
  have hle := (unmoved_of_same h username).activeCount_le
  simp only [AuthDb.sameEquipment,Bool.and_eq_true,decide_eq_true_eq] at h
  rintro (⟨-,hne⟩ | hlt)
  · exact hne (by rw [AuthDb.account,AuthDb.account,h.1])
  · omega

/-- Whether the next write finds the accounts and the authenticators as they were seen, or leaves
them as they are. -/
def unmovedNow (i : ι) (views : List (AuthState ι)) (c : Point ι) : Bool :=
  match c.code i with
  | .call (.write f) _ =>
    match f c.shared.committed with
    | .ok s' => c.shared.committed.db.sameEquipment s'.db ||
        views.all fun v => v.db.sameEquipment c.shared.committed.db
    | .error _ => true
  | _ => true

lemma unmovedNow_guard [DecidableEq ι] (i : ι) (views : Views ι (AuthState ι)) (c : Point ι)
    (h : unmovedNow i (views i) c) :
    (allowedBy fun _ => equipmentUnmoved).step i (c,views) := by
  intro _
  unfold unmovedNow at h
  unfold ViewGuard.given allowedBy Prog.Allowed
  split at h
  · next f k hcode =>
    rw [hcode]
    intro s' hs' username htouches v hv
    rw [hs'] at h
    rcases Bool.or_eq_true_iff.mp h with hsame | hall
    · exact (not_touches_of_same hsame username htouches).elim
    · exact unmoved_of_same (List.all_eq_true.mp hall v hv) username
  · next hcode =>
    split
    · next f k hcode' => exact absurd hcode' (hcode f k)
    · trivial

/-- The settings are saved, and then the revocation is tried. -/
def oneAfterTheOther : List Bool := List.replicate 8 false ++ List.replicate 6 true

lemma calls_end : (watch unmovedNow oneAfterTheOther
    (begun sampleEnv crossedCalls sampleParent,fun _ => [])).isSome := by decide +kernel

/-- Whether a call was refused. -/
def refused : AuthProg ι Reply → Bool
  | .raise (.authError _) => true
  | _ => false

/-- The point that they come to. -/
def bothCalled : Point Bool × Views Bool (AuthState Bool) :=
  (watch unmovedNow oneAfterTheOther
    (begun sampleEnv crossedCalls sampleParent,fun _ => [])).get calls_end

lemma bothCalled_refused : bothCalled.1.shared.committed.db.accounts.map Account.needsTotp=[true] ∧
    refused (bothCalled.1.code true) := by decide +kernel

/-- OTP login is turned on beside an authenticator, whose revocation is then refused. -/
theorem authenticator_remains_saved : ∃ c : Point Bool,
    c.shared.committed.db.accounts.map Account.needsTotp=[true] ∧ refused (c.code true) ∧
      Equipped c.shared.committed.db :=
  have hrun := watch_run unmovedNow_guard (Option.some_get calls_end).symm
  ⟨bothCalled.1,bothCalled_refused.1,bothCalled_refused.2,
    authenticator_remains sampleEnv crossedCalls sampleParent_equipped sampleParent_named hrun⟩

/-- The settings count the authenticators before the revocation, and are written after it. -/
def crossed : List Bool :=
  List.replicate 2 false ++ List.replicate 10 true ++ List.replicate 6 false

lemma crossed_ends : (Config.exec Database.serve (fun _ _ => true) crossed
    (begun sampleEnv crossedCalls sampleParent)).isSome := by decide

/-- The last authenticator is revoked while OTP login is turned on. -/
theorem authenticator_lost :
    ¬∀ (calls : Bool → Call) (db : AuthDb), Equipped db → Named db → ∀ c,
      Run (Config.Step Database.serve) anyStep (begun sampleEnv calls db) c →
        Equipped c.shared.committed.db := by
  intro h
  have hrun := (Config.exec_run (Option.some_get crossed_ends).symm).mono fun _ _ _ => trivial
  have hequipped := h crossedCalls sampleParent sampleParent_equipped sampleParent_named _ hrun
  have hlost : (((Config.exec Database.serve (fun _ _ => true) crossed
      (begun sampleEnv crossedCalls sampleParent)).get crossed_ends).shared.committed.db.account
        "parent").map Account.needsTotp=some true ∧ ((Config.exec Database.serve
      (fun _ _ => true) crossed (begun sampleEnv crossedCalls sampleParent)).get
        crossed_ends).shared.committed.db.activeCount "parent"=0 := by decide
  obtain ⟨a,ha,hneeds⟩ := Option.map_eq_some_iff.mp hlost.1
  have hone := hequipped "parent" a ha hneeds
  rw [hlost.2] at hone
  exact Nat.not_succ_le_zero 0 hone

end Crossing
end ZenControl.Auth
