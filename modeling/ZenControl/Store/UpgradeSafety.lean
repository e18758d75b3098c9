import ZenControl.Library.Histories
import ZenControl.Text
import Mathlib.Algebra.Order.Ring.Int

/-! Schema upgrades of the policy database. Before the first migration statement runs, the file is
inspected and a copy of it is kept under a sibling name, which a later start finds again. -/
namespace ZenControl
namespace UpgradeSafety

def schemaVersion : ℤ := 570

/-- What a database says: its `user_version` and the rest. -/
structure Content (β : Type) where
  userVersion : ℤ
  rows : β
  deriving DecidableEq, Repr

/-- A path, with the lines of `PRAGMA quick_check` where a database lies under it. -/
inductive DbFile (β : Type)
  | absent
  | empty
  | unreadable (reason : String)
  | database (quickCheck : List String) (content : Content β)
  deriving DecidableEq, Repr

namespace DbFile
variable {β : Type}

/-- `Path.exists`. -/
def isThere : DbFile β → Bool
  | absent => false
  | _ => true

def content : DbFile β → Option (Content β)
  | database _ c => some c
  | _ => none

end DbFile

abbrev Files (β : Type) := String → DbFile β

/-- What SQLite and the file system say of files. -/
structure SqliteEnv (β : Type) where
  foreignKeyCheck : Content β → ℕ
  tableCounts : Content β → List (String × ℕ)
  sha256 : DbFile β → String
  sizeBytes : DbFile β → ℕ

/-- The `UpgradeSafetyError` with its text. -/
structure UpgradeSafetyError where
  message : String
  deriving DecidableEq, Repr

inductive InspectionState
  | absent | ready | invalid
  deriving DecidableEq, Repr

structure Inspection where
  ok : Bool
  state : InspectionState
  version : ℤ
  quickCheck : List String
  foreignKeyViolations : ℕ
  tables : List String
  tableCounts : List (String × ℕ)
  sizeBytes : ℕ
  deriving DecidableEq, Repr

inductive BackupState
  | reused | created
  deriving DecidableEq, Repr

structure BackupReport where
  ok : Bool := true
  state : BackupState
  path : String
  sha256 : String
  sizeBytes : ℕ
  sourceVersion : ℤ
  backupVersion : ℤ
  quickCheck : List String
  foreignKeyViolations : ℕ
  deriving DecidableEq, Repr

inductive PreflightState
  | fresh | current | upgradePending
  deriving DecidableEq, Repr

structure Preflight where
  ok : Bool := true
  state : PreflightState
  fromVersion : ℤ
  targetVersion : ℤ
  backup : Option BackupReport
  deriving DecidableEq, Repr

inductive UpgradeState
  | created | unchanged | upgraded
  deriving DecidableEq, Repr

structure UpgradeReport where
  preflight : Preflight
  ok : Bool := true
  state : UpgradeState
  currentVersion : ℤ
  quickCheck : List String
  foreignKeyViolations : ℕ
  tableCount : ℕ
  deriving DecidableEq, Repr

/-- `repr` of a text that SQLite reports. -/
def reprText (text : String) : String :=
  let apostrophe := Char.ofNat 39
  let quote := if apostrophe ∈ text.toList ∧ '"' ∉ text.toList then '"' else apostrophe
  let escape (c : Char) : List Char :=
    if c= '\n' then ['\\', 'n'] else if c= '\r' then ['\\', 'r'] else if c= '\t' then ['\\', 't']
    else if c=quote ∨ c= '\\' then ['\\',c] else [c]
  String.ofList (quote::(text.toList.flatMap escape ++ [quote]))

def reprTexts (texts : List String) : String :=
  "[" ++ ", ".intercalate (texts.map reprText) ++ "]"

section Functions
variable {β : Type} (env : SqliteEnv β)

/-- `inspect_database`. -/
def inspectDatabase (file : DbFile β) : Except UpgradeSafetyError Inspection :=
  match file with
  | .absent | .empty => .ok {
      ok := true
      state := .absent
      version := 0
      quickCheck := []
      foreignKeyViolations := 0
      tables := []
      tableCounts := []
      sizeBytes := 0 }
  | .unreadable reason => .error ⟨"SQLite inspection failed: " ++ reason⟩
  | .database quick c =>
    let foreign := env.foreignKeyCheck c
    let ok := quick=["ok"] && foreign=0
    .ok {
      ok := ok
      state := if ok then .ready else .invalid
      version := c.userVersion
      quickCheck := quick
      foreignKeyViolations := foreign
      tables := (env.tableCounts c).map Prod.fst
      tableCounts := env.tableCounts c
      sizeBytes := env.sizeBytes file }

/-- What a database holds that passes the integrity checks. -/
def healthy (file : DbFile β) : Option (Content β) :=
  match file with
  | .database quick c => if quick=["ok"] ∧ env.foreignKeyCheck c=0 then some c else none
  | _ => none

/-- `validate_database`. -/
def validateDatabase (file : DbFile β) : Except UpgradeSafetyError Inspection := do
  let report ← inspectDatabase env file
  if report.state=.absent then .error ⟨"Policy database does not exist"⟩
  else if !report.ok then
    .error ⟨"Policy database integrity failed before upgrade " ++
      "(quick_check=" ++ reprTexts report.quickCheck ++
      ", foreign_key_violations=" ++ toString report.foreignKeyViolations ++ ")"⟩
  else .ok report

/-- `backup_path_for`. -/
def backupPathFor (path : String) (targetVersion : ℤ) : String :=
  path ++ ".pre-schema-" ++ toString targetVersion ++ ".bak"

/-- The online backup of a database into another file. -/
def backedUp : DbFile β → DbFile β
  | .database quick c => .database quick c
  | file => file

/-- `create_verified_backup`, with the files that it leaves. -/
def createVerifiedBackup (source destination : String) (overwrite : Bool) (files : Files β) :
    Except UpgradeSafetyError BackupReport × Files β :=
  match validateDatabase env (files source) with
  | .error e => (.error e,files)
  | .ok before =>
    if (files destination).isThere && !overwrite then
      match validateDatabase env (files destination) with
      | .error e => (.error e,files)
      | .ok found => (.ok {
          state := .reused
          path := destination
          sha256 := env.sha256 (files destination)
          sizeBytes := env.sizeBytes (files destination)
          sourceVersion := before.version
          backupVersion := found.version
          quickCheck := found.quickCheck
          foreignKeyViolations := found.foreignKeyViolations },files)
    else
      let temporary := destination ++ ".tmp"
      let copied := Function.update files temporary (backedUp (files source))
      match validateDatabase env (copied temporary) with
      | .error e => (.error e,Function.update copied temporary .absent)
      | .ok found =>
        let replaced := Function.update (Function.update copied destination (copied temporary))
          temporary .absent
        (.ok {
          state := .created
          path := destination
          sha256 := env.sha256 (replaced destination)
          sizeBytes := env.sizeBytes (replaced destination)
          sourceVersion := before.version
          backupVersion := found.version
          quickCheck := found.quickCheck
          foreignKeyViolations := found.foreignKeyViolations },replaced)

/-- `prepare_policy_database_upgrade`, with the files that it leaves. -/
def preparePolicyDatabaseUpgrade (path : String) (target : ℤ) (files : Files β) :
    Except UpgradeSafetyError Preflight × Files β :=
  match inspectDatabase env (files path) with
  | .error e => (.error e,files)
  | .ok inspection =>
    if inspection.state=.absent then (.ok {
      state := .fresh
      fromVersion := 0
      targetVersion := target
      backup := none },files)
    else if !inspection.ok then
      (.error ⟨"Refusing schema migration because the existing policy database " ++
        "failed integrity checks"⟩,files)
    else
      let current := inspection.version
      if target<current then
        (.error ⟨"Policy database schema " ++ toString current ++
          " is newer than this application supports (" ++ toString target ++ ")"⟩,files)
      else if current=target then (.ok {
        state := .current
        fromVersion := current
        targetVersion := target
        backup := none },files)
      else match createVerifiedBackup env path (backupPathFor path target) false files with
      | (.error e,left) => (.error e,left)
      | (.ok backup,left) => (.ok {
          state := .upgradePending
          fromVersion := current
          targetVersion := target
          backup := some backup },left)

/-- `finalize_upgrade_report`. -/
def finalizeUpgradeReport (preflight : Preflight) (file : DbFile β) :
    Except UpgradeSafetyError UpgradeReport := do
  let inspection ← validateDatabase env file
  let current := inspection.version
  let target := if preflight.targetVersion=0 then schemaVersion else preflight.targetVersion
  if current ≠ target then
    .error ⟨"Policy database migration did not reach target schema " ++ toString target ++
      "; found " ++ toString current⟩
  else .ok {
    preflight := preflight
    state := match preflight.state with
      | .fresh => .created
      | .current => .unchanged
      | .upgradePending => .upgraded
    currentVersion := current
    quickCheck := inspection.quickCheck
    foreignKeyViolations := inspection.foreignKeyViolations
    tableCount := inspection.tables.length }

end Functions

section Starts
variable {β : Type} (env : SqliteEnv β) (path : String) (target : ℤ)

/-- How far a start gets: it may end before the backup has its name, or after some of the
migration's writes, or it sets `user_version` with the last of them. -/
inductive Progress (β : Type)
  | inBackup
  | stopped (rows : β)
  | finished (rows : β)
  deriving DecidableEq, Repr

def Progress.isFinished : Progress β → Bool
  | .finished _ => true
  | _ => false

/-- The policy database after the writes of `_init_db`. -/
def Progress.migrate (target : ℤ) : Progress β → DbFile β → DbFile β
  | .stopped rows, .database quick c => .database quick ⟨c.userVersion,rows⟩
  | .stopped rows, _ => .database ["ok"] ⟨0,rows⟩
  | .finished rows, .database quick _ => .database quick ⟨target,rows⟩
  | .finished rows, _ => .database ["ok"] ⟨target,rows⟩
  | .inBackup, file => file

/-- `PolicyStore.__init__`: its preflight, where it gets that far, the report of a finished start
and the files that it leaves. -/
def policyStoreInit (progress : Progress β) (files : Files β) :
    Option Preflight × Option (Except UpgradeSafetyError UpgradeReport) × Files β :=
  if progress matches .inBackup then (none,none,files)
  else match preparePolicyDatabaseUpgrade env path target files with
  | (.error e,left) => (none,some (.error e),left)
  | (.ok preflight,left) =>
    let migrated := Function.update left path (progress.migrate target (left path))
    (some preflight,
      if progress.isFinished then
        some (finalizeUpgradeReport env preflight (migrated path))
      else none,
      migrated)

/-- The files of an installation, and what the policy database held when the upgrade that is now
in progress began. -/
structure Installation (β : Type) where
  files : Files β
  began : Option (Content β)

/-- What happens to the policy database: the application starts, the database is used, or the
operator puts another file in its place. -/
inductive Event (β : Type)
  | start (progress : Progress β)
  | use (rows : β)
  | replace (file : DbFile β)
  deriving DecidableEq, Repr

namespace Installation

/-- An installation with no upgrade in progress. -/
def idle (files : Files β) : Installation β := ⟨files,none⟩

/-- What the database held when the upgrade began, seen by a start that has to upgrade: it is the
first of its upgrade, or it goes on with one. -/
def upgradeBegan (path : String) (s : Installation β) : Option (Content β) :=
  s.began <|> (s.files path).content

/-- An upgrade is in progress from its first start to the one that sets `user_version`, unless the
operator replaces the database. -/
def next : Event β → Installation β → Installation β
  | .start progress, s =>
    let init := policyStoreInit env path target progress s.files
    ⟨init.2.2,match init.1 with
      | none => s.began
      | some preflight =>
        if preflight.state=.upgradePending ∧ !progress.isFinished then s.upgradeBegan path
        else none⟩
  | .use rows, s =>
    match s.files path with
    | .database quick c =>
      ⟨Function.update s.files path (.database quick ⟨c.userVersion,rows⟩),s.began⟩
    | _ => s
  | .replace file, s => ⟨Function.update s.files path file,none⟩

/-- Where a start finds that it has to upgrade, the file that it names has the content that the
database had when the upgrade began. -/
def NamesOrigin (o : Event β) (s : Installation β) : Prop :=
  match o with
  | .start progress =>
    ∀ preflight, (policyStoreInit env path target progress s.files).1=some preflight →
      preflight.state=.upgradePending → ∃ backup c, preflight.backup=some backup ∧
        ((preparePolicyDatabaseUpgrade env path target s.files).2 backup.path).content=some c ∧
        s.upgradeBegan path=some c
  | _ => True

/-- A start that begins an upgrade finds no healthy backup under the sibling name, or one with
what the database holds. -/
def FindsNoOther (o : Event β) (s : Installation β) : Prop :=
  match o with
  | .start progress => progress ≠ .inBackup → s.began=none →
      ∀ c, healthy env (s.files path)=some c → c.userVersion<target →
        ∀ c', healthy env (s.files (backupPathFor path target))=some c' → c'=c
  | _ => True

end Installation
end Starts

section Preflight
variable {β : Type} {env : SqliteEnv β} {path : String} {target : ℤ} {files : Files β}

/-- The sibling names are not the name of the database. -/
lemma backupPathFor_ne (path : String) (target : ℤ) : backupPathFor path target ≠ path := by
  intro h
  have := congrArg String.length h
  simp only [backupPathFor,String.length_append] at this
  have hlength : ".pre-schema-".length=12 := rfl
  omega

lemma append_tmp_ne (name : String) : name ++ ".tmp" ≠ name := by
  intro h
  have := congrArg String.length h
  simp only [String.length_append] at this
  have hlength : ".tmp".length=4 := rfl
  omega

lemma backup_tmp_ne (path : String) (target : ℤ) :
    backupPathFor path target ++ ".tmp" ≠ path := by
  intro h
  have := congrArg String.length h
  simp only [backupPathFor,String.length_append] at this
  have hlength : ".pre-schema-".length=12 := rfl
  omega

lemma healthy_some {file : DbFile β} {c : Content β} (h : healthy env file=some c) :
    file=.database ["ok"] c ∧ env.foreignKeyCheck c=0 := by
  cases file with
  | database quick c' =>
    simp only [healthy] at h
    split at h
    · rename_i hc
      obtain rfl : c'=c := by simpa using h
      exact ⟨by rw [hc.1],hc.2⟩
    · cases h
  | _ => cases h

/-- A file is valid exactly when it is a healthy database. -/
lemma validateDatabase_cases (file : DbFile β) :
    (∃ c report, healthy env file=some c ∧ validateDatabase env file=.ok report) ∨
      (healthy env file=none ∧ ∃ e, validateDatabase env file=.error e) := by
  cases file with
  | absent => exact .inr ⟨rfl,_,rfl⟩
  | empty => exact .inr ⟨rfl,_,rfl⟩
  | unreadable reason => exact .inr ⟨rfl,_,rfl⟩
  | database quick c =>
    by_cases hok : quick=["ok"] ∧ env.foreignKeyCheck c=0
    · refine .inl ⟨c,?_⟩
      simp only [validateDatabase,inspectDatabase,bind,Except.bind,hok,decide_true,Bool.and_self,
        reduceIte,reduceCtorEq,Bool.not_true,Bool.false_eq_true]
      exact ⟨_,if_pos ⟨rfl,hok.2⟩,rfl⟩
    · refine .inr ⟨if_neg hok,?_⟩
      have hbool : (decide (quick=["ok"]) && decide (env.foreignKeyCheck c=0))=false := by
        simpa using hok
      simp only [validateDatabase,inspectDatabase,bind,Except.bind,hbool,reduceCtorEq,reduceIte,
        Bool.not_false,Bool.false_eq_true]
      exact ⟨_,rfl⟩

/-- What the backup of a healthy database does: it finds a healthy file and leaves it, or it puts
a copy where nothing lies, or it fails and leaves both files alone. -/
lemma createVerifiedBackup_cases {source destination : String} {c : Content β}
    (hsource : healthy env (files source)=some c) (hne : destination ≠ source)
    (htmp : destination ++ ".tmp" ≠ source) :
    (∃ backup c', healthy env (files destination)=some c' ∧ backup.path=destination ∧
      createVerifiedBackup env source destination false files=(.ok backup,files)) ∨
    (∃ backup left, (files destination).isThere=false ∧ backup.path=destination ∧
      left source=files source ∧ left destination=files source ∧
      createVerifiedBackup env source destination false files=(.ok backup,left)) ∨
    ∃ e, healthy env (files destination)=none ∧
      createVerifiedBackup env source destination false files=(.error e,files) := by
  obtain ⟨hfile,-⟩ := healthy_some hsource
  obtain ⟨c₀,before,-,hbefore⟩ | ⟨hnone,-⟩ :=
      @validateDatabase_cases β env (files source)
  · cases hthere : (files destination).isThere with
    | true =>
      obtain ⟨c',found,hc',hfound⟩ | ⟨hunhealthy,e,he⟩ :=
        @validateDatabase_cases β env (files destination)
      · refine .inl ?_
        simp only [createVerifiedBackup,hbefore,hthere,Bool.not_false,Bool.and_self,reduceIte,
          hfound]
        exact ⟨_,c',hc',rfl,rfl⟩
      · refine .inr (.inr ⟨e,hunhealthy,?_⟩)
        simp only [createVerifiedBackup,hbefore,hthere,Bool.not_false,Bool.and_self,reduceIte,he]
    | false =>
      refine .inr (.inl ?_)
      simp only [createVerifiedBackup,hthere,Bool.false_and,Bool.false_eq_true,reduceIte,
        Function.update_self,hfile,backedUp]
      rw [hfile] at hbefore
      rw [hbefore]
      refine ⟨_,_,trivial,rfl,?_,?_,rfl⟩
      · rw [Function.update_of_ne htmp.symm,Function.update_of_ne hne.symm,
          Function.update_of_ne htmp.symm,hfile]
      · rw [Function.update_of_ne (append_tmp_ne destination).symm,Function.update_self]
  · rw [hsource] at hnone
    cases hnone

/-- A database that has to be upgraded, with no healthy backup. -/
def NoBackup (env : SqliteEnv β) (path : String) (target : ℤ) (files : Files β) : Prop :=
  ∀ c, healthy env (files path)=some c → c.userVersion<target →
    healthy env (files (backupPathFor path target))=none

/-- What the preflight of a start finds. -/
lemma prepare_cases (env : SqliteEnv β) (path : String) (target : ℤ) (files : Files β) :
    (∃ preflight, preflight.state ≠ .upgradePending ∧ NoBackup env path target files ∧
      preparePolicyDatabaseUpgrade env path target files=(.ok preflight,files)) ∨
    (∃ e, NoBackup env path target files ∧
      preparePolicyDatabaseUpgrade env path target files=(.error e,files)) ∨
    ∃ c preflight backup left, healthy env (files path)=some c ∧ c.userVersion<target ∧
      preflight.state=.upgradePending ∧ preflight.backup=some backup ∧
      backup.path=backupPathFor path target ∧
      preparePolicyDatabaseUpgrade env path target files=(.ok preflight,left) ∧
      left path=files path ∧
      (((∃ c', healthy env (files (backupPathFor path target))=some c') ∧ left=files) ∨
        ((files (backupPathFor path target)).isThere=false ∧
          left (backupPathFor path target)=files path)) := by
  cases hfile : files path with
  | absent =>
    have hnone : NoBackup env path target files := fun c hc => by rw [hfile] at hc; cases hc
    refine .inl ?_
    simp only [preparePolicyDatabaseUpgrade,hfile,inspectDatabase,reduceIte]
    exact ⟨_,by simp,hnone,rfl⟩
  | empty =>
    have hnone : NoBackup env path target files := fun c hc => by rw [hfile] at hc; cases hc
    refine .inl ?_
    simp only [preparePolicyDatabaseUpgrade,hfile,inspectDatabase,reduceIte]
    exact ⟨_,by simp,hnone,rfl⟩
  | unreadable reason =>
    have hnone : NoBackup env path target files := fun c hc => by rw [hfile] at hc; cases hc
    refine .inr (.inl ?_)
    simp only [preparePolicyDatabaseUpgrade,hfile,inspectDatabase]
    exact ⟨_,hnone,rfl⟩
  | database quick c =>
    by_cases hok : quick=["ok"] ∧ env.foreignKeyCheck c=0
    · have hbool : (decide (quick=["ok"]) && decide (env.foreignKeyCheck c=0))=true := by
        simpa using hok
      have hhealthy : healthy env (files path)=some c := by rw [hfile]; exact if_pos hok
      rcases lt_trichotomy c.userVersion target with hlt | heq | hgt
      · obtain ⟨backup,c',hc',hpath,hcreate⟩ | ⟨backup,left,hnot,hpath,hsame,hcopy,hcreate⟩ |
            ⟨e,hunhealthy,hcreate⟩ := @createVerifiedBackup_cases β env files _ _ _ hhealthy
          (backupPathFor_ne path target) (backup_tmp_ne path target)
        · refine .inr (.inr ?_)
          simp only [preparePolicyDatabaseUpgrade,hfile,inspectDatabase,hbool,reduceIte,
            reduceCtorEq,Bool.not_true,Bool.false_eq_true,if_neg (lt_asymm hlt),
            if_neg (ne_of_lt hlt),hcreate]
          exact ⟨c,_,backup,files,hfile ▸ hhealthy,hlt,rfl,rfl,hpath,rfl,hfile,
            .inl ⟨⟨c',hc'⟩,rfl⟩⟩
        · refine .inr (.inr ?_)
          simp only [preparePolicyDatabaseUpgrade,hfile,inspectDatabase,hbool,reduceIte,
            reduceCtorEq,Bool.not_true,Bool.false_eq_true,if_neg (lt_asymm hlt),
            if_neg (ne_of_lt hlt),hcreate]
          exact ⟨c,_,backup,left,hfile ▸ hhealthy,hlt,rfl,rfl,hpath,rfl,hsame.trans hfile,
            .inr ⟨hnot,hcopy.trans hfile⟩⟩
        · refine .inr (.inl ⟨e,fun _ _ _ => hunhealthy,?_⟩)
          simp only [preparePolicyDatabaseUpgrade,hfile,inspectDatabase,hbool,reduceIte,
            reduceCtorEq,Bool.not_true,Bool.false_eq_true,if_neg (lt_asymm hlt),
            if_neg (ne_of_lt hlt),hcreate]
      · have hnone : NoBackup env path target files := fun c' hc' hlt => by
          obtain rfl : c=c' := by simpa [hhealthy] using hc'
          exact absurd heq (ne_of_lt hlt)
        refine .inl ?_
        simp only [preparePolicyDatabaseUpgrade,hfile,inspectDatabase,hbool,reduceIte,
          reduceCtorEq,Bool.not_true,Bool.false_eq_true,heq,lt_irrefl]
        exact ⟨_,by simp,hnone,rfl⟩
      · have hnone : NoBackup env path target files := fun c' hc' hlt => by
          obtain rfl : c=c' := by simpa [hhealthy] using hc'
          exact absurd hgt (lt_asymm hlt)
        refine .inr (.inl ?_)
        simp only [preparePolicyDatabaseUpgrade,hfile,inspectDatabase,hbool,reduceIte,
          reduceCtorEq,Bool.not_true,Bool.false_eq_true,if_pos hgt]
        exact ⟨_,hnone,rfl⟩
    · have hbool : (decide (quick=["ok"]) && decide (env.foreignKeyCheck c=0))=false := by
        simpa using hok
      have hnone : NoBackup env path target files := fun c' hc' => by
        rw [hfile,healthy,if_neg hok] at hc'
        cases hc'
      refine .inr (.inl ?_)
      simp only [preparePolicyDatabaseUpgrade,hfile,inspectDatabase,hbool,reduceIte,reduceCtorEq,
        Bool.false_eq_true,Bool.not_false]
      exact ⟨_,hnone,rfl⟩

end Preflight

section Runs
variable {β : Type} {env : SqliteEnv β} {path : String} {target : ℤ}

/-- While an upgrade is in progress, the sibling file has what the database held when it began. -/
def KeepsOrigin (env : SqliteEnv β) (path : String) (target : ℤ) (s : Installation β) : Prop :=
  ∀ c, s.began=some c → healthy env (s.files (backupPathFor path target))=some c

lemma healthy_content {file : DbFile β} {c : Content β} (h : healthy env file=some c) :
    file.content=some c := by
  rw [(healthy_some h).1]
  rfl

lemma policyStoreInit_error {progress : Progress β} {files left : Files β} {e : UpgradeSafetyError}
    (hprogress : progress ≠ .inBackup)
    (h : preparePolicyDatabaseUpgrade env path target files=(.error e,left)) :
    policyStoreInit env path target progress files=(none,some (.error e),left) := by
  cases progress with
  | inBackup => contradiction
  | _ => simp only [policyStoreInit,h]; rfl

lemma policyStoreInit_ok {progress : Progress β} {files left : Files β} {preflight : Preflight}
    (hprogress : progress ≠ .inBackup)
    (h : preparePolicyDatabaseUpgrade env path target files=(.ok preflight,left)) :
    ∃ report, policyStoreInit env path target progress files=(some preflight,report,
      Function.update left path (progress.migrate target (left path))) := by
  cases progress with
  | inBackup => contradiction
  | _ => simp only [policyStoreInit,h]; exact ⟨_,rfl⟩

namespace Installation

/-- A start that ends before its preflight has answered, or that does not have to upgrade. -/
structure Passes (env : SqliteEnv β) (path : String) (target : ℤ) (progress : Progress β)
    (s : Installation β) : Prop where
  result : ((policyStoreInit env path target progress s.files).1=none ∧
      (policyStoreInit env path target progress s.files).2.2=s.files) ∨
    ∃ preflight, (policyStoreInit env path target progress s.files).1=some preflight ∧
      preflight.state ≠ .upgradePending
  found : progress=.inBackup ∨ NoBackup env path target s.files

/-- A start that has to upgrade: it names a healthy file under the sibling name, which is the one
that it found there or a copy of the database. -/
structure Upgrades (env : SqliteEnv β) (path : String) (target : ℤ) (progress : Progress β)
    (s : Installation β) (c : Content β) (preflight : Preflight) (backup : BackupReport)
    (left : Files β) : Prop where
  reached : progress ≠ .inBackup
  database : healthy env (s.files path)=some c
  older : c.userVersion<target
  prepared : preparePolicyDatabaseUpgrade env path target s.files=(.ok preflight,left)
  state : preflight.state=.upgradePending
  named : preflight.backup=some backup
  name : backup.path=backupPathFor path target
  same : left path=s.files path
  found : ((∃ c', healthy env (s.files (backupPathFor path target))=some c') ∧ left=s.files) ∨
    ((s.files (backupPathFor path target)).isThere=false ∧
      left (backupPathFor path target)=s.files path)

lemma start_cases (progress : Progress β) (s : Installation β) :
    Passes env path target progress s ∨ ∃ c preflight backup left,
      Upgrades env path target progress s c preflight backup left := by
  by_cases hprogress : progress=.inBackup
  · subst hprogress
    exact .inl ⟨.inl ⟨rfl,rfl⟩,.inl rfl⟩
  · obtain ⟨preflight,hstate,hnone,h⟩ | ⟨e,hnone,h⟩ |
        ⟨c,preflight,backup,left,hc,holder,hstate,hnamed,hname,h,hsame,hfound⟩ :=
      prepare_cases env path target s.files
    · obtain ⟨report,hinit⟩ := policyStoreInit_ok hprogress h
      exact .inl ⟨.inr ⟨preflight,by rw [hinit],hstate⟩,.inr hnone⟩
    · have hinit := policyStoreInit_error hprogress h
      exact .inl ⟨.inl ⟨by rw [hinit],by rw [hinit]⟩,.inr hnone⟩
    · exact .inr ⟨c,preflight,backup,left,hprogress,hc,holder,h,hstate,hnamed,hname,hsame,hfound⟩

namespace Upgrades
variable {progress : Progress β} {s : Installation β} {c : Content β} {preflight : Preflight}
  {backup : BackupReport} {left : Files β}

/-- The healthy file that the start leaves under the sibling name. -/
lemma leaves (h : Upgrades env path target progress s c preflight backup left) :
    ∃ c', healthy env (left (backupPathFor path target))=some c' ∧
      (healthy env (s.files (backupPathFor path target))=some c' ∨
        (s.files (backupPathFor path target)).isThere=false ∧ c'=c) := by
  rcases h.found with ⟨⟨c',hc'⟩,hleft⟩ | ⟨hnot,hcopy⟩
  · exact ⟨c',hleft ▸ hc',.inl hc'⟩
  · exact ⟨c,hcopy ▸ h.database,.inr ⟨hnot,rfl⟩⟩

/-- What the start names is the origin when the file that it leaves holds it. -/
lemma namesOrigin_iff (h : Upgrades env path target progress s c preflight backup left)
    {c' : Content β} (hc' : healthy env (left (backupPathFor path target))=some c') :
    NamesOrigin env path target (.start progress) s ↔ s.upgradeBegan path=some c' := by
  obtain ⟨report,hinit⟩ := policyStoreInit_ok h.reached h.prepared
  simp only [NamesOrigin,hinit,h.prepared]
  constructor
  · intro hall
    obtain ⟨b,c'',hb,hcontent,hbegan⟩ := hall preflight rfl h.state
    obtain rfl : backup=b := by simpa [h.named] using hb
    rw [h.name,healthy_content hc'] at hcontent
    obtain rfl : c'=c'' := by simpa using hcontent
    exact hbegan
  · intro hbegan preflight' hsome _
    obtain rfl : preflight=preflight' := by simpa using hsome
    exact ⟨backup,c',h.named,by rw [h.name,healthy_content hc'],hbegan⟩

end Upgrades

/-- The step lemma: while the sibling file keeps the origin of the upgrade in progress, a start
names the origin exactly when, if it is the first of its upgrade, it finds no other backup. -/
lemma namesOrigin_iff {o : Event β} {s : Installation β} (keeps : KeepsOrigin env path target s) :
    NamesOrigin env path target o s ↔ FindsNoOther env path target o s := by
  cases o with
  | use rows => exact Iff.rfl
  | replace file => exact Iff.rfl
  | start progress =>
    obtain h | ⟨c,preflight,backup,left,h⟩ := @start_cases β env path target progress s
    · have hnames : NamesOrigin env path target (.start progress) s := by
        intro preflight hsome hpending
        rcases h.result with ⟨hnone,-⟩ | ⟨preflight',hsome',hstate⟩
        · rw [hnone] at hsome
          cases hsome
        · obtain rfl : preflight'=preflight := by simpa [hsome'] using hsome
          contradiction
      refine iff_of_true hnames fun hreached _ c hc holder c' hc' => ?_
      rcases h.found with rfl | hnone
      · contradiction
      · rw [hnone c hc holder] at hc'
        cases hc'
    · obtain ⟨c',hc',horigin⟩ := h.leaves
      rw [h.namesOrigin_iff hc']
      cases hbegan : s.began with
      | some c₀ =>
        -- the upgrade goes on, so the start finds the file that the invariant speaks of
        have hfound := keeps c₀ hbegan
        have hsame : c₀=c' := by
          rcases horigin with horigin | ⟨hnot,-⟩
          · simpa [hfound] using horigin
          · rw [(healthy_some hfound).1] at hnot
            cases hnot
        refine iff_of_true (by simp [upgradeBegan,hbegan,hsame]) fun _ hnone => ?_
        rw [hbegan] at hnone
        cases hnone
      | none =>
        have hsees : s.upgradeBegan path=some c := by
          simp [upgradeBegan,hbegan,healthy_content h.database]
        rw [hsees]
        constructor
        · intro heq _ _ c₁ hc₁ _ c₂ hc₂
          obtain rfl : c=c₁ := by simpa [h.database] using hc₁
          obtain rfl : c=c' := by simpa using heq
          rcases horigin with horigin | ⟨hnot,-⟩
          · simpa [hc₂] using horigin
          · rw [(healthy_some hc₂).1] at hnot
            cases hnot
        · intro hfinds
          rcases horigin with horigin | ⟨-,rfl⟩
          · rw [hfinds h.reached hbegan c h.database h.older c' horigin]
          · rfl

/-- The invariant is kept by every step that names no other origin. -/
lemma keepsOrigin_next {o : Event β} {s : Installation β} (keeps : KeepsOrigin env path target s)
    (h : NamesOrigin env path target o s) : KeepsOrigin env path target (next env path target o s) := by
  have hne := backupPathFor_ne path target
  cases o with
  | use rows =>
    intro c hc
    simp only [next] at hc ⊢
    split at hc
    · simp only [Function.update_of_ne hne]
      exact keeps c hc
    · exact keeps c hc
  | replace file => exact fun c hc => by cases hc
  | start progress =>
    intro c hc
    obtain hpasses | ⟨c₀,preflight,backup,left,hup⟩ := @start_cases β env path target progress s
    · rcases hpasses.result with ⟨hnone,hfiles⟩ | ⟨preflight,hsome,hstate⟩
      · simp only [next,hnone] at hc
        simp only [next,hfiles]
        exact keeps c hc
      · simp only [next,hsome,hstate,false_and,if_false] at hc
        cases hc
    · obtain ⟨c',hc',-⟩ := hup.leaves
      have hbegan := (hup.namesOrigin_iff hc').mp h
      obtain ⟨report,hinit⟩ := policyStoreInit_ok hup.reached hup.prepared
      simp only [next,hinit,hup.state,hbegan,true_and] at hc ⊢
      rw [Function.update_of_ne hne]
      obtain rfl : c'=c := by
        cases hfinished : progress.isFinished with
        | false => simpa [hfinished] using hc
        | true => simp [hfinished] at hc
      exact hc'

/-- Every start that has to upgrade names a file with what the database held when the upgrade
began, exactly when each start that begins an upgrade finds no other healthy file under the sibling
name. -/
theorem upgrade_names_origin_iff (env : SqliteEnv β) (path : String) (target : ℤ) (files : Files β)
    (events : List (Event β)) :
    Histories.Each (next env path target) (NamesOrigin env path target) events (idle files) ↔
      Histories.Each (next env path target) (FindsNoOther env path target) events (idle files) := by
  have hidle : KeepsOrigin env path target (idle files) := fun c hc => by cases hc
  constructor
  · intro h
    exact h.imp hidle (fun o s keeps => keepsOrigin_next keeps) fun o s keeps =>
      (namesOrigin_iff keeps).mp
  · intro h
    exact h.imp hidle
      (fun o s keeps hfinds => keepsOrigin_next keeps ((namesOrigin_iff keeps).mpr hfinds))
      fun o s keeps => (namesOrigin_iff keeps).mpr

/-- The history of a failure: the database is used and upgraded, the operator puts the first copy
back, and the start that upgrades it names the backup of the other upgrade. -/
def staleEvents : List (Event (List String)) :=
  [.use ["Ann","Bob"],.start (.finished ["Ann","Bob"]),.replace (.database ["ok"] ⟨0,["Ann"]⟩),
    .start (.stopped ["Ann"])]

def staleEnv : SqliteEnv (List String) where
  foreignKeyCheck _ := 0
  tableCounts c := [("profiles",c.rows.length)]
  sha256 file := match file with
    | .database _ c => toString c.rows.length
    | _ => ""
  sizeBytes file := match file with
    | .database _ c => 4096*(c.rows.length+1)
    | _ => 0

def staleFiles : Files (List String) := fun name =>
  if name="policy.db" then .database ["ok"] ⟨0,["Ann"]⟩ else .absent

/-- After an older copy of the database has been put back, its upgrade names the backup that a
finished upgrade has left. -/
theorem stale_backup_reused :
    ¬Histories.Each (next staleEnv "policy.db" schemaVersion)
      (NamesOrigin staleEnv "policy.db" schemaVersion) staleEvents (idle staleFiles) := by
  intro h
  have hfinds := (namesOrigin_iff fun c hc => by cases hc).mp h.2.2.2.1
  have hsame := hfinds (by decide) rfl ⟨0,["Ann"]⟩ (by decide) (by decide)
    ⟨0,["Ann","Bob"]⟩ (by decide)
  exact absurd hsame (by decide)

end Installation
end Runs
end UpgradeSafety
end ZenControl
