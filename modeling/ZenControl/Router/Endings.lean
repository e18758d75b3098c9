import ZenControl.Router.Frames

/-! Ending an override: a cancellation that restores the captured mode, and explicit enforcement of
another one. While one call fails, either the fail-safe must stay or the device must be restricted
enough. -/
namespace ZenControl.Router
open Calls Requests Rows

/-- What an operator does to a device with an override. -/
inductive Ending
  | cancel
  | enforce (action : Mode)
  deriving DecidableEq, Repr

def Ending.run (env : Environment) (address : Ipv4) : Ending → RouterProg Unit
  | .cancel => (cancelDeviceTemporaryAccess env address true).bind fun _ => .ret ()
  | .enforce action => (setDeviceEnforcement env address action).bind fun _ => .ret ()

/-- The weaker one of the captured mode and the requested one. -/
def Ending.level (restore : Mode) : Ending → ℕ
  | .cancel => restrictionOf restore
  | .enforce action => min (restrictionOf restore) (restrictionOf action)

/-- The device has an active override with a captured mode. -/
def RouterOS.Overridden (r : RouterOS) (address : Ipv4) (restore : Mode) : Prop :=
  ∃ reply, r.temporary address=.active reply ∧ reply.restoreMode.bind modeOfText=some restore

/-- An enabled scheduler that has not run stands there, with a script. -/
def RouterOS.FailSafe (r : RouterOS) (address : Ipv4) : Prop :=
  (∃ s ∈ r.schedulers address, s.2.disabled=false ∧ s.2.runCount=0) ∧ r.scripts address≠[]

/-- The fail-safe stands, or the device is restricted at least so much. -/
def RouterOS.Safe (r : RouterOS) (address : Ipv4) (level : ℕ) : Prop :=
  r.FailSafe address ∨ Restricted level r.tables address

section Active
variable {address : Ipv4} {reply : TemporaryAccess}

/-- An active override has one scheduler, which is enabled and has not run, and one script. -/
lemma temporaryReading_active {schedulers : List (ℕ × Scheduler)} {scripts : List (ℕ × Script)}
    (h : temporaryReading address schedulers scripts=.active reply) :
    reply.active ∧ ∃ id entry, schedulers=[(id,entry)] ∧ entry.runCount=0 ∧
      entry.disabled=false ∧ scripts.length=1 := by
  unfold temporaryReading at h
  dsimp only at h
  by_cases hone : 1 < schedulers.length
  · rw [if_pos hone] at h
    cases h
  rw [if_neg hone] at h
  by_cases hscript : 1 < scripts.length
  · rw [if_pos hscript] at h
    cases h
  rw [if_neg hscript] at h
  match schedulers with
  | [] => cases h
  | (id,entry)::rest =>
    obtain rfl : rest=[] := by
      rw [← List.length_eq_zero_iff]
      simp only [List.length_cons] at hone
      omega
    dsimp only at h
    split_ifs at h with howner hrun hdisabled hmode hlength
    cases h
    exact ⟨rfl,id,entry,rfl,by omega,by simpa using hdisabled,by omega⟩

variable {r : RouterOS} {s : System} {n : ℕ}

/-- The fail-safe of an override that is read as active stands. -/
lemma failSafe_of_active (h : r.temporary address=.active reply) : r.FailSafe address := by
  obtain ⟨_,id,entry,hschedulers,hrun,henabled,hscripts⟩ := temporaryReading_active h
  refine ⟨⟨(id,entry),by rw [hschedulers]; exact List.mem_cons_self,henabled,hrun⟩,fun hnone => ?_⟩
  rw [hnone] at hscripts
  cases hscripts

/-- What an override consists of. -/
lemma RouterOS.Overridden.parts {restore : Mode} (h : r.Overridden address restore) :
    ∃ reply id entry, r.temporary address=.active reply ∧ reply.active ∧
      reply.restoreMode.bind modeOfText=some restore ∧ r.schedulers address=[(id,entry)] ∧
      entry.runCount=0 ∧ r.scripts address≠[] := by
  obtain ⟨reply,hactive,hmode⟩ := h
  obtain ⟨hreply,id,entry,hscheduler,hrun,-,-⟩ := temporaryReading_active hactive
  exact ⟨reply,id,entry,hactive,hreply,hmode,hscheduler,hrun,(failSafe_of_active hactive).2⟩

/-- Reading an active override changes nothing. -/
lemma withstands_activeReading {I : System → Prop} {Q : Except Failure TemporaryAccess → ℕ →
    System → Prop} (h : s.router.temporary address=.active reply) (start : I s)
    (served : s.router.Managed address → Q (.ok reply) n s)
    (failed : ∀ e m, m ≤ n → Q (.error e) m s) :
    (getDeviceTemporaryAccess address).Withstands router I n s Q := by
  refine Prog.withstands_bind (reads_connect.withstands start ?_ fun e m hm => failed e m (by omega))
  rw [show exec connect _=_ from exec_connect _]
  refine withstands_explained (Prog.withstands_bind
    ((reads_validateRestrictedDevice address).withstands start ?_ fun e m hm => by
      cases e <;> exact failed _ m (by omega)))
  by_cases hmanaged : s.router.Managed address
  · rw [exec_validateRestrictedDevice hmanaged]
    refine Prog.withstands_bind (withstands_entries start ?_ fun e m hm => by
      cases e <;> exact failed _ m (by omega))
    refine Prog.withstands_bind (withstands_entries start ?_ fun e m hm => by
      cases e <;> exact failed _ m (by omega))
    have hreading : temporaryReading address (s.router.tables.rows .scheduler fun s =>
        s.name=address.deviceTempSchedulerName) (s.router.tables.rows .script fun s =>
        s.name=address.deviceTempScriptName)=.active reply := h
    dsimp only
    rw [hreading]
    exact ⟨start,served hmanaged⟩
  · obtain ⟨m,hm⟩ := exec_validateRestrictedDevice_of_not hmanaged
    rw [hm]
    exact failed _ n (Nat.le_refl n)

/-- RouterOS with the scheduler of a number switched off or on. -/
def RouterOS.switched (r : RouterOS) (id : ℕ) (disabled : Bool) : RouterOS :=
  r.withTables (r.tables.changing .scheduler id fun s => { s with disabled := disabled })

lemma schedulers_switched {id : ℕ} {entry : Scheduler} (h : r.schedulers address=[(id,entry)])
    (disabled : Bool) : (r.switched id disabled).schedulers address=
      [(id,{ entry with disabled := disabled })] := by
  have hrows := @TableFamily.rows_changing _ _ _ r.tables .scheduler id
    (fun s => { s with disabled := disabled })
    (fun s => s.name=address.deviceTempSchedulerName) fun _ => rfl
  refine Eq.trans hrows ?_
  rw [show r.tables.rows .scheduler (fun s => s.name=address.deviceTempSchedulerName)=_ from h]
  simp

lemma scripts_switched (id : ℕ) (disabled : Bool) :
    (r.switched id disabled).scripts address=r.scripts address :=
  TableFamily.rows_congr (TableFamily.changing_of_ne
    (show Resource.script≠.scheduler by decide) _ _) _

lemma restricted_switched {w id : ℕ} {disabled : Bool} :
    Restricted w (r.switched id disabled).tables address ↔ Restricted w r.tables address := by
  unfold RouterOS.switched
  rw [RouterOS.withTables_tables]
  exact restricted_congr (TableFamily.changing_of_ne (by decide) _ _)
    (TableFamily.changing_of_ne (by decide) _ _)

lemma cleanedUp_tables (r : RouterOS) (address : Ipv4) :
    (r.cleanedUp address).tables=(r.tables.without .scheduler
      fun s => s.name=address.deviceTempSchedulerName).without .script
      fun s => s.name=address.deviceTempScriptName := rfl

lemma restricted_cleanedUp {w : ℕ} :
    Restricted w (r.cleanedUp address).tables address ↔ Restricted w r.tables address := by
  rw [cleanedUp_tables]
  refine restricted_congr ?_ ?_ <;>
  · rw [TableFamily.without_of_ne (by decide),TableFamily.without_of_ne (by decide)]

/-- A scheduler that is off is no fail-safe. -/
lemma not_failSafe_switched {id : ℕ} {entry : Scheduler} (h : r.schedulers address=[(id,entry)]) :
    ¬(r.switched id true).FailSafe address := by
  rintro ⟨⟨s,hs,henabled,_⟩,_⟩
  rw [schedulers_switched h,List.mem_singleton] at hs
  subst hs
  cases henabled

/-- Where the resources are gone there is no fail-safe. -/
lemma not_failSafe_of_nil (h : r.schedulers address=[]) : ¬r.FailSafe address := by
  rintro ⟨⟨s,hs,_⟩,_⟩
  rw [h] at hs
  exact List.not_mem_nil hs

lemma schedulers_cleanedUp : (r.cleanedUp address).schedulers address=[] := by
  unfold RouterOS.schedulers
  rw [cleanedUp_tables,TableFamily.rows_congr (TableFamily.without_of_ne (by decide) _)]
  exact TableFamily.rows_without_self _

lemma mem_schedulers {id : ℕ} {entry : Scheduler} (h : r.schedulers address=[(id,entry)]) :
    (r.tables .scheduler).find id=some entry ∧ entry.name=address.deviceTempSchedulerName := by
  have hmem : (id,entry) ∈ (r.tables .scheduler).select
      fun _ s => s.name=address.deviceTempSchedulerName := by
    change _ ∈ r.schedulers address
    rw [h]
    exact List.mem_cons_self
  obtain ⟨hfind,hname⟩ := Table.mem_select.mp hmem
  exact ⟨hfind,by simpa using hname⟩

/-- The cleanup removes a scheduler that was switched off before. -/
lemma cleanedUp_switched {id : ℕ} {entry : Scheduler} (h : r.schedulers address=[(id,entry)])
    (disabled : Bool) : (r.switched id disabled).cleanedUp address=r.cleanedUp address := by
  have hname (row : Scheduler) (hrow : (r.tables .scheduler).find id=some row) :
      row.name=address.deviceTempSchedulerName := by
    rw [Option.some.inj (hrow.symm.trans (mem_schedulers h).1)]
    exact (mem_schedulers h).2
  have htables : (r.switched id disabled).tables.without .scheduler
      (fun s => s.name=address.deviceTempSchedulerName)=r.tables.without .scheduler
      fun s => s.name=address.deviceTempSchedulerName :=
    TableFamily.without_changing (k:=Resource.scheduler) (fun _ => rfl) fun row hrow => by
      simpa using hname row hrow
  exact congrArg (fun t : TableFamily Row => r.withTables (t.without .script
    fun s => s.name=address.deviceTempScriptName)) htables

variable {id : ℕ} {entry : Scheduler}

/-- The state of a thread with the scheduler switched. -/
def System.switched (s : System) (id : ℕ) (disabled : Bool) : System :=
  { s with router := s.router.switched id disabled }

lemma exec_disableScheduler (h : s.router.schedulers address=[(id,entry)]) :
    exec (disableScheduler address) s=(.ok (),s.switched id true) := by
  unfold disableScheduler schedulersOf
  rw [exec_bind_ok (exec_connect s)]
  refine exec_explained _ ?_
  rw [exec_bind_ok (exec_entries _ _ s),show s.router.tables.rows .scheduler
    (fun s => s.name=address.deviceTempSchedulerName)=_ from h]
  exact exec_changing (by rw [(mem_schedulers h).1]; rfl) _

lemma withstands_disableScheduler {I : System → Prop} {Q : Except Failure Unit → ℕ → System → Prop}
    (h : s.router.schedulers address=[(id,entry)]) (start : I s)
    (served : I (s.switched id true) ∧ Q (.ok ()) n (s.switched id true))
    (failed : ∀ e m, m ≤ n → Q (.error e) m s ∧ Q (.error e) m (s.switched id true)) :
    (disableScheduler address).Withstands router I n s Q := by
  refine Prog.withstands_bind (reads_connect.withstands start ?_ fun e m hm =>
    (failed e m (by omega)).1)
  rw [show exec connect _=_ from exec_connect _]
  refine withstands_explained (Prog.withstands_bind (withstands_entries start ?_ fun e m hm => by
    cases e <;> exact (failed _ m (by omega)).1))
  rw [show s.router.tables.rows .scheduler
    (fun s => s.name=address.deviceTempSchedulerName)=_ from h]
  refine withstands_set (by rw [(mem_schedulers h).1]; rfl) start served fun e m hm => ?_
  cases e <;> exact failed _ m (by omega)

/-- Enabling the scheduler again makes it a fail-safe. -/
lemma exec_enableScheduler (h : s.router.schedulers address=[(id,entry)]) :
    exec (enableScheduler address) s=(.ok (),s.switched id false) := by
  unfold enableScheduler schedulersOf
  rw [exec_bind_ok (exec_connect s),exec_bind_ok (exec_entries _ _ s),
    show s.router.tables.rows .scheduler
      (fun s => s.name=address.deviceTempSchedulerName)=_ from h]
  refine (exec_bind_ok (exec_changing (by rw [(mem_schedulers h).1]; rfl) _)).trans ?_
  rfl

lemma failSafe_switched (h : r.schedulers address=[(id,entry)]) (hrun : entry.runCount=0)
    (hscripts : r.scripts address≠[]) : (r.switched id false).FailSafe address := by
  refine ⟨⟨_,(schedulers_switched h false).symm ▸ List.mem_cons_self,rfl,hrun⟩,?_⟩
  rw [scripts_switched]
  exact hscripts

end Active

section Cancel
variable {env : Environment} {address : Ipv4} {restore : Mode} {s : System} {id : ℕ}
  {entry : Scheduler}

/-- The restore of a cancellation: it restricts the device, or something is left to do so. -/
lemma withstands_restoreNow {mode : Option String} (hmode : mode.bind modeOfText=some restore)
    (hscheduler : s.router.schedulers address=[(id,entry)]) (hrun : entry.runCount=0)
    (hscript : s.router.scripts address≠[])
    (start : Restricted (restrictionOf restore) s.router.tables address) :
    (restoreNow env address mode).Withstands router (fun _ => True) 1 s fun o _ t =>
      match o with
      | .ok _ => Restricted (restrictionOf restore) t.router.tables address
      | .error _ => t.router.Safe address (restrictionOf restore) := by
  unfold restoreNow
  rw [hmode]
  let switch := setDeviceMode env address "temporary access cancelled" restore
  have hframe := (((spares_setDeviceMode (by decide) (by decide) env address
    "temporary access cancelled" restore : Spares .scheduler switch).withstands s 1).and
    ((spares_setDeviceMode (by decide) (by decide) env address
      "temporary access cancelled" restore : Spares .script switch).withstands s 1)).weaken
    (J:=fun _ => True) fun _ _ => trivial
  have hswitch := ((Prog.withstands_unspent (S:=router) switch 1 s).and
    (withstands_setDeviceMode_shown (n:=1) (s:=s))).and hframe
  refine Prog.withstands_rescue (Prog.withstands_bind ((hswitch.weaken fun _ _ => trivial).mono
    fun o m t hm _ ho => ?_))
  obtain ⟨⟨⟨_,hunspent⟩,hshown⟩,hschedulers,hscripts⟩ := ho
  cases o with
  | ok result => exact ⟨trivial,restricted_of_mode (hshown rfl)⟩
  | error e =>
    have hscheduler' : t.router.schedulers address=[(id,entry)] :=
      (TableFamily.rows_congr hschedulers _).trans hscheduler
    have hscript' : t.router.scripts address≠[] :=
      (TableFamily.rows_congr hscripts _).trans_ne hscript
    have hspares (k : Resource) (h : Resource.scheduler≠k) :
        Spares k (quietly (enableScheduler address)) :=
      Prog.only_rescue (spares_enableScheduler h address) fun _ => trivial
    obtain rfl | rfl : m=1 ∨ m=0 := by omega
    · -- no call failed: nothing was written
      have hsame : t.router=s.router := by
        by_cases hcan : s.CanSwitch env address
        · obtain ⟨result,hexec⟩ := @exec_setDeviceMode env address "temporary access cancelled"
            restore s hcan
          cases (hunspent rfl).symm.trans hexec
        · obtain ⟨m,session,hexec⟩ := @exec_setDeviceMode_of_not env address
            "temporary access cancelled" restore s hcan
          cases (hunspent rfl).symm.trans hexec
          rfl
      have hkeep : Keeps (restrictionOf restore) address t := by
        rw [Keeps,hsame]
        exact start
      refine Prog.withstands_bind (((keeps_of_spares (hspares .addressList (by decide))
        (hspares .queue (by decide)) hkeep).mono fun o m t _ ht _ => ?_).weaken fun _ _ => trivial)
      cases o with
      | ok _ => exact ⟨trivial,.inr ht⟩
      | error _ => exact .inr ht
    · -- the failure is spent: the scheduler is enabled again
      refine Prog.withstands_zero ?_
      have henable : exec (quietly (enableScheduler address)) t=(.ok (),t.switched id false) := by
        refine (Prog.run_rescue _ _ _ _).trans ?_
        rw [show (enableScheduler address).run RouterCall.serve t=_ from
          exec_enableScheduler hscheduler']
      rw [show Prog.run _ (Prog.bind _ _) t=_ from exec_bind_ok henable]
      exact .inl (failSafe_switched hscheduler' hrun hscript')

/-- A device that is restricted enough stays safe while its override is cancelled. -/
lemma withstands_cancel (h : s.router.Overridden address restore)
    (start : s.router.Managed address → Restricted (restrictionOf restore) s.router.tables address) :
    (Ending.cancel.run env address).Withstands router (fun _ => True) 1 s
      fun _ _ t => t.router.Safe address (restrictionOf restore) := by
  obtain ⟨reply,id,entry,hactive,hreply,hmode,hscheduler,hrun,hscript⟩ := h.parts
  have hfailSafe := failSafe_of_active hactive
  refine Prog.withstands_bind (Prog.Withstands.mono (Q:=fun _ _ t =>
    t.router.Safe address (restrictionOf restore)) ?_ fun o m t _ _ ht => ?_)
  · refine @withstands_serialized _ _ _ _ (fun _ => True)
      (fun _ _ r => r.Safe address (restrictionOf restore)) (Prog.withstands_bind ?_)
    refine withstands_activeReading (s:={ s with lane := s.lane+1 }) hactive trivial
      (fun hmanaged => ?_) fun _ _ _ => .inl hfailSafe
    have hstart := start hmanaged
    have hswitched : Restricted (restrictionOf restore) (s.router.switched id true).tables address :=
      restricted_switched.mpr hstart
    dsimp only
    rw [if_neg (by simp [hreply])]
    refine Prog.withstands_bind (withstands_disableScheduler hscheduler trivial ⟨trivial,?_⟩
      fun _ _ _ => ⟨.inl hfailSafe,.inr hswitched⟩)
    rw [if_pos rfl]
    refine Prog.withstands_bind ((withstands_restoreNow
      (s:=System.switched { s with lane := s.lane+1 } id true) hmode
      (schedulers_switched hscheduler true) hrun ((scripts_switched id true).trans_ne hscript)
      hswitched).mono fun o m t _ _ ho => ?_)
    cases o with
    | error e => exact ho
    | ok _ =>
      refine Prog.withstands_bind (((keeps_of_spares (spares_removeFailSafe (by decide) (by decide)
        address) (spares_removeFailSafe (by decide) (by decide) address) ho).mono
          fun o m t _ ht _ => ?_).weaken fun _ _ => trivial)
      cases o with
      | ok _ => exact ⟨trivial,.inr ht⟩
      | error _ => exact .inr ht
  · cases o with
    | ok _ => exact ⟨trivial,ht⟩
    | error _ => exact ht

/-- The reading of an active override, when no call fails. -/
lemma exec_activeReading {reply : TemporaryAccess} (h : s.router.temporary address=.active reply)
    (hmanaged : s.router.Managed address) :
    exec (getDeviceTemporaryAccess address) s=(.ok reply,s) := by
  rw [exec_getDeviceTemporaryAccess hmanaged,h]

/-- A device that stays safe however the answer to the disabling of its scheduler is lost is
restricted enough. -/
lemma restricted_of_disable {I : System → Prop} {w : ℕ} {Q : Except Failure Unit → ℕ → System → Prop}
    (hscheduler : s.router.schedulers address=[(id,entry)])
    (h : (disableScheduler address).Withstands router I 1 s Q)
    (hQ : ∀ e m t, Q (.error e) m t → t.router.Safe address w) :
    Restricted w s.router.tables address := by
  have hinner := Prog.withstands_rescue_iff.mp (h.follow (exec_connect s))
  have hset := hinner.follow (exec_entries _ _ s)
  rw [show s.router.tables.rows .scheduler
    (fun s => s.name=address.deviceTempSchedulerName)=_ from hscheduler] at hset
  -- the scheduler is disabled, and the answer is lost
  have hlost := (hset.2.2 (.api "connection lost") 0 rfl rfl).2
  have hserve : (router.serve (.request (.set .scheduler id fun s =>
      { s with disabled := true })) s).2=s.switched id true := by
    have hexec := @exec_changing s .scheduler id (by rw [(mem_schedulers hscheduler).1]; rfl)
      fun s => { s with disabled := true }
    exact congrArg Prod.snd ((exec_call _ s).symm.trans hexec)
  rw [hserve] at hlost
  rcases hQ _ _ _ hlost.2.2 with hfail | hrestricted
  · exact absurd hfail (not_failSafe_switched hscheduler)
  · exact restricted_switched.mp hrestricted

lemma restricted_of_cancel (h : s.router.Overridden address restore)
    (hsafe : (Ending.cancel.run env address).Withstands router (fun _ => True) 1 s
      fun _ _ t => t.router.Safe address (restrictionOf restore))
    (hmanaged : s.router.Managed address) :
    Restricted (restrictionOf restore) s.router.tables address := by
  obtain ⟨reply,id,entry,hactive,hreply,-,hscheduler,-,-⟩ := h.parts
  have hcancel : (cancelDeviceTemporaryAccess env address true).Withstands router (fun _ => True) 1 s
      fun _ _ t => t.router.Safe address (restrictionOf restore) := by
    refine (Prog.withstands_bind_iff.mp hsafe).mono fun o m t _ _ ho => ?_
    cases o with
    | ok _ => exact ho.2
    | error _ => exact ho
  have hbody := @withstands_of_serialized _ _ _ _ (fun _ _ r =>
    r.Safe address (restrictionOf restore)) _ hcancel
  have hread := hbody.follow (exec_activeReading (s:={ s with lane := s.lane+1 }) hactive hmanaged)
  rw [if_neg (by simp [hreply])] at hread
  exact restricted_of_disable (s:={ s with lane := s.lane+1 }) hscheduler
    (Prog.withstands_bind_iff.mp hread) fun _ _ _ ht => ht

end Cancel

section Enforce
variable {env : Environment} {address : Ipv4} {restore action : Mode} {s : System} {n w : ℕ}

/-- Rows of other tables do not restrict a device. -/
lemma restricted_dropping {k : Resource} (haddress : Resource.addressList≠k)
    (hqueue : Resource.queue≠k) (p : ℕ → Row k → Bool) :
    Restricted w (s.dropping k p).router.tables address ↔ Restricted w s.router.tables address :=
  restricted_congr (Function.update_of_ne haddress ..) (Function.update_of_ne hqueue ..)

/-- Removing the fail-safe of a device that is restricted enough. -/
lemma withstands_removeFailSafe (start : Restricted w s.router.tables address) :
    (removeFailSafe address).Withstands router (fun _ => True) n s fun o _ t => match o with
      | .ok _ => t.router=s.router.cleanedUp address
      | .error _ => Restricted w t.router.tables address := by
  refine Prog.withstands_bind (reads_connect.withstands trivial ?_ fun _ _ _ => start)
  rw [show exec connect _=_ from exec_connect _]
  have hgone : Restricted w (s.withTables (s.router.tables.without .scheduler
      fun s => s.name=address.deviceTempSchedulerName)).router.tables address :=
    (restricted_dropping (by decide) (by decide) _).mpr start
  refine Prog.withstands_rescue (Prog.withstands_bind (withstands_removeFound (fun _ _ => trivial)
    (withstands_removeFound (fun _ _ => trivial) rfl fun e m p _ _ => ⟨trivial,?_⟩)
    fun e m p _ _ => ⟨trivial,?_⟩))
  · exact (restricted_dropping (by decide) (by decide) p).mpr hgone
  · exact (restricted_dropping (by decide) (by decide) p).mpr start

/-- Cancelling without a restore. -/
lemma withstands_cancelWithout (h : s.router.Overridden address restore)
    (start : Restricted w s.router.tables address) :
    (cancelDeviceTemporaryAccess env address false).Withstands router (fun _ => True) n s
      fun o _ t => match o with
        | .ok _ => t.router=s.router.cleanedUp address
        | .error _ => t.router.Safe address w := by
  obtain ⟨reply,id,entry,hactive,hreply,-,hscheduler,-,-⟩ := h.parts
  have hfailSafe := failSafe_of_active hactive
  have hswitched : Restricted w (s.router.switched id true).tables address :=
    restricted_switched.mpr start
  refine @withstands_serialized _ _ _ _ (fun _ => True) (fun (o : Except Failure CancelReply) _ r =>
    match o with
    | .ok _ => r=s.router.cleanedUp address
    | .error _ => r.Safe address w) (Prog.withstands_bind ?_)
  refine withstands_activeReading (s:={ s with lane := s.lane+1 }) hactive trivial
    (fun hmanaged => ?_) fun _ _ _ => .inl hfailSafe
  dsimp only
  rw [if_neg (by simp [hreply])]
  refine Prog.withstands_bind (withstands_disableScheduler hscheduler trivial ⟨trivial,?_⟩
    fun _ _ _ => ⟨.inl hfailSafe,.inr hswitched⟩)
  rw [if_neg (by decide),Prog.ret_bind]
  refine Prog.withstands_bind ((withstands_removeFailSafe
    (s:=System.switched { s with lane := s.lane+1 } id true) hswitched).mono fun o m t _ _ ho => ?_)
  cases o with
  | ok _ => exact ⟨trivial,ho.trans (cleanedUp_switched hscheduler true)⟩
  | error _ => exact .inr ho

lemma exec_cancelWithout (h : s.router.Overridden address restore)
    (hmanaged : s.router.Managed address) : ∃ reply,
      exec (cancelDeviceTemporaryAccess env address false) s=
        (.ok reply,{ s with router := s.router.cleanedUp address }) := by
  obtain ⟨reply,id,entry,hactive,hreply,-,hscheduler,-,-⟩ := h.parts
  refine ⟨⟨true,false,reply.restoreMode⟩,?_⟩
  unfold cancelDeviceTemporaryAccess
  refine exec_serialized (t:={ s with router := s.router.cleanedUp address }) ?_
  rw [exec_bind_ok (exec_activeReading (s:={ s with lane := s.lane+1 }) hactive hmanaged),
    if_neg (by simp [hreply]),
    exec_bind_ok (exec_disableScheduler (s:={ s with lane := s.lane+1 }) hscheduler),
    if_neg (by decide),exec_bind_ok (exec_ret _ _)]
  have hclean : exec (removeFailSafe address) (System.switched { s with lane := s.lane+1 } id true)=
      (.ok (),{ s with router := s.router.cleanedUp address, lane := s.lane+1 }) := by
    unfold removeFailSafe
    rw [exec_bind_ok (exec_connect _)]
    refine (Prog.run_rescue _ _ _ _).trans ?_
    rw [show (cleanupDeviceTempResources address).run RouterCall.serve _=_ from
      exec_cleanupDeviceTempResources address _]
    exact congrArg (fun r => (Except.ok (),{ s with router := r, lane := s.lane+1 }))
      (cleanedUp_switched hscheduler true)
  rw [exec_bind_ok hclean]
  rfl

lemma managed_cleanedUp {r : RouterOS} :
    (r.cleanedUp address).Managed address ↔ r.Managed address := by
  have hrows : (r.cleanedUp address).listed restrictedList address=
      r.listed restrictedList address := by
    unfold RouterOS.listed
    rw [cleanedUp_tables,TableFamily.rows_congr (TableFamily.without_of_ne (by decide) _),
      TableFamily.rows_congr (TableFamily.without_of_ne (by decide) _)]
  unfold RouterOS.Managed
  rw [hrows]

lemma covered_congr {t t' : TableFamily Row} (haddress : t' .addressList=t .addressList)
    (hqueue : t' .queue=t .queue) : Covered w t' address action ↔ Covered w t address action := by
  have hlisted : listedIn t' deviceBlockList address=listedIn t deviceBlockList address :=
    TableFamily.rows_congr haddress _
  have hqueues : queuesIn t' address.deviceSlowQueueName=queuesIn t address.deviceSlowQueueName :=
    TableFamily.rows_congr hqueue _
  unfold Covered SlowedIn BlockedIn
  rw [hlisted,hqueues]

lemma covered_cleanedUp {r : RouterOS} :
    Covered w (r.cleanedUp address).tables address action ↔ Covered w r.tables address action := by
  rw [cleanedUp_tables]
  refine covered_congr ?_ ?_ <;>
  · rw [TableFamily.without_of_ne (by decide),TableFamily.without_of_ne (by decide)]

/-- The calls that leave the session of the thread alone. -/
def RouterCall.sparesSession : RouterCall → Bool
  | .setSession _ => false
  | _ => true

lemma withstands_session {α : Type} {p : RouterProg α} (h : p.Only fun c => c.sparesSession)
    (s : System) (n : ℕ) : p.Withstands router (fun t => t.session=s.session) n s
      fun _ _ t => t.session=s.session := by
  refine Prog.Withstands.mono (Prog.Only.withstands (S:=router) (I:=fun t => t.session=s.session) h
    (fun c t hc ht => ?_) rfl n) fun _ _ _ _ ht _ => ht
  cases c with
  | setSession _ => cases hc
  | _ => exact ht

lemma sparesSession_of_remote {α : Type} {p : RouterProg α} (h : p.Only fun c => c.remote) :
    p.Only fun c => c.sparesSession := by
  refine h.mono fun c hc => ?_
  cases c with
  | setSession _ => cases hc
  | _ => rfl

lemma sparesSession_cancelWithout :
    (cancelDeviceTemporaryAccess env address false).Only fun c => c.sparesSession := by
  have reads {α : Type} {p : RouterProg α} (h : ReadOnly p) : p.Only fun c => c.sparesSession :=
    sparesSession_of_remote (h.mono fun _ => RouterCall.remote_of_reads)
  have one {c : RouterCall} (h : c.sparesSession) : (call c).Only fun c => c.sparesSession :=
    ⟨h,fun r => by cases r <;> trivial⟩
  have hremove : (removeFailSafe address).Only fun c => c.sparesSession :=
    Prog.only_bind (reads readOnly_connect) fun _ => Prog.only_rescue
      (sparesSession_of_remote (Prog.only_bind only_removeFound fun _ => only_removeFound))
      fun _ => trivial
  have hdisable : (disableScheduler address).Only fun c => c.sparesSession := by
    refine Prog.only_bind (reads readOnly_connect) fun _ => Prog.only_rescue
      (Prog.only_bind (reads (readOnly_entries _ _)) fun found => ?_) fun e => by
        cases e <;> trivial
    match found with
    | [] => trivial
    | [(id,_)] => exact one rfl
    | _::_::_ => trivial
  refine Prog.only_bind (one rfl) fun acquired => ?_
  cases acquired with
  | false => trivial
  | true =>
  refine Prog.only_bind (Prog.only_rescue (Prog.only_bind (sparesSession_of_remote
    (only_getDeviceTemporaryAccess address)) fun state => ?_) fun _ =>
      Prog.only_bind (one rfl) fun _ => trivial) fun _ => Prog.only_bind (one rfl) fun _ => trivial
  cases state.active with
  | false => trivial
  | true =>
    refine Prog.only_bind hdisable fun _ => ?_
    rw [if_neg (by decide),Prog.ret_bind]
    exact Prog.only_bind hremove fun _ => trivial

/-- A coherent mutation without a failing call sees this state of the thread. -/
def System.coherent (s : System) : System :=
  { s with lane := s.lane+1, session := some (s.session.getD {}) }

/-- What the route needs of RouterOS to be safe. -/
def System.EnforceSafely (env : Environment) (address : Ipv4) (restore action : Mode)
    (s : System) : Prop :=
  let level := (Ending.enforce action).level restore
  s.router.Managed address → s.router.DeviceBlockValid →
    Restricted level s.router.tables address ∧
      (System.PassesGate env { s.coherent with router := s.router.cleanedUp address } →
        Covered level s.router.tables address action)

/-- A device that is restricted enough, and covered while entries are replaced, stays safe while
another mode is enforced. -/
lemma withstands_enforce (h : s.router.Overridden address restore)
    (safely : s.EnforceSafely env address restore action) :
    ((Ending.enforce action).run env address).Withstands router (fun _ => True) 1 s
      fun _ _ t => t.router.Safe address ((Ending.enforce action).level restore) := by
  generalize hw : (Ending.enforce action).level restore=w
  obtain ⟨reply,id,entry,hactive,hreply,-,-,-,-⟩ := h.parts
  have hfailSafe := failSafe_of_active hactive
  refine Prog.withstands_bind (Prog.Withstands.mono (Q:=fun _ _ t => t.router.Safe address w) ?_
    fun o m t _ _ ht => ?_)
  · refine @withstands_serialized _ _ _ _ (fun _ => True) (fun _ _ r => r.Safe address w)
      (@withstands_coherently _ _ _ _ (fun _ => True) (fun _ _ r => r.Safe address w) trivial ?_
        fun _ _ _ => .inl hfailSafe)
    change Prog.Withstands _ _ _ 1 s.coherent _
    refine Prog.withstands_bind ((reads_getDeviceEnforcement address).withstands trivial ?_
      fun _ _ _ => .inl hfailSafe)
    by_cases hvalid : s.router.DeviceBlockValid ∧ s.router.Managed address
    · obtain ⟨hblock,hmanaged⟩ := hvalid
      obtain ⟨hrestricted,hcovered⟩ := safely hmanaged hblock
      rw [hw] at hrestricted hcovered
      rw [exec_getDeviceEnforcement (s:=s.coherent) hblock hmanaged]
      refine Prog.withstands_bind (withstands_activeReading (s:=s.coherent) hactive trivial
        (fun _ => ?_) fun _ _ _ => .inl hfailSafe)
      dsimp only
      rw [if_pos hreply]
      have hcancel := ((@withstands_cancelWithout env address restore s.coherent 1 w h
        hrestricted).and (withstands_session sparesSession_cancelWithout s.coherent 1)).weaken
          (J:=fun _ => True) fun _ _ => trivial
      refine Prog.withstands_bind (Prog.withstands_bind (hcancel.mono fun o m t _ _ ho => ?_))
      obtain ⟨ho,hsession⟩ := ho
      cases o with
      | error _ => exact ho
      | ok _ =>
        refine ⟨trivial,?_⟩
        have hrouter : t.router=s.router.cleanedUp address := ho
        have hkeep : Restricted w t.router.tables address := by
          rw [hrouter]
          exact restricted_cleanedUp.mpr hrestricted
        refine ((withstands_setDeviceMode (hw ▸ Nat.min_le_right _ _) hkeep fun hcan =>
          ?_).mono fun _ _ t _ ht _ => .inr ht).weaken fun _ _ => trivial
        rw [hrouter]
        refine covered_cleanedUp.mpr (hcovered ?_)
        obtain ⟨hgate,-,-⟩ := hcan
        unfold System.PassesGate at hgate ⊢
        rw [hsession,hrouter] at hgate
        exact hgate
    · obtain ⟨m,hm⟩ := exec_getDeviceEnforcement_of_not (s:=s.coherent) hvalid
      rw [hm]
      exact .inl hfailSafe
  · cases o with
    | ok _ => exact ⟨trivial,ht⟩
    | error _ => exact ht

/-- The writes of a switch, as part of what the switch guarantees. -/
lemma withstands_writeMode_of {description : String} {K : RouterOS → Prop}
    (hcan : s.CanSwitch env address)
    (h : (setDeviceMode env address description action).Withstands router (fun _ => True) n s
      fun _ _ t => K t.router) :
    ∃ Q : Except Failure Unit → ℕ → System → Prop, (∀ e m t, Q (.error e) m t → K t.router) ∧
      (writeMode env address (clip (strip description) 60) action).Withstands router
        (fun _ => True) n (System.passed { s with lane := s.lane+1 }) Q := by
  obtain ⟨hgate,hblock,hmanaged⟩ := hcan
  let inside := System.passed { s with lane := s.lane+1 }
  have hgate' : System.PassesGate env { s with lane := s.lane+1 } := hgate
  have hblock' : inside.router.DeviceBlockValid := hblock
  have hmanaged' : inside.router.Managed address := hmanaged
  have hbody := (@withstands_of_serialized _ _ _ _ (fun _ _ r => K r) _ h).follow
    (exec_requirePolicyWriteGate hgate')
  have hwrites := Prog.withstands_rescue_iff.mp (Prog.withstands_bind_iff.mp
    (hbody.follow (exec_connect inside)))
  have hvalid := (hwrites.follow (exec_validateDeviceBlockPrimitive hblock')).follow
    (exec_validateRestrictedDevice hmanaged')
  refine ⟨_,fun e m t ht => ?_,hvalid⟩
  cases e <;> exact ht.2

/-- The route is safe only where the device is restricted enough and covered. -/
lemma safely_of_enforce (h : s.router.Overridden address restore)
    (hsafe : ((Ending.enforce action).run env address).Withstands router (fun _ => True) 1 s
      fun _ _ t => t.router.Safe address ((Ending.enforce action).level restore)) :
    s.EnforceSafely env address restore action := by
  intro hmanaged hblock
  let level := (Ending.enforce action).level restore
  obtain ⟨reply,id,entry,hactive,hreply,-,hscheduler,-,-⟩ := h.parts
  have hroute : (setDeviceEnforcement env address action).Withstands router (fun _ => True) 1 s
      fun _ _ t => t.router.Safe address level := by
    refine (Prog.withstands_bind_iff.mp hsafe).mono fun o m t _ _ ho => ?_
    cases o with
    | ok _ => exact ho.2
    | error _ => exact ho
  have hinside : Prog.Withstands _ _ _ 1 s.coherent _ :=
    @withstands_of_coherently _ _ _ _ (fun _ _ r => r.Safe address level) _
      (@withstands_of_serialized _ _ _ _ (fun _ _ r => r.Safe address level) _ hroute)
  have hread := (hinside.follow (exec_getDeviceEnforcement (s:=s.coherent) hblock
    hmanaged)).follow (exec_activeReading (s:=s.coherent) hactive hmanaged)
  rw [if_pos hreply] at hread
  constructor
  · -- the answer to the disabling of the scheduler is lost
    have hcancel := Prog.withstands_bind_iff.mp (Prog.withstands_bind_iff.mp hread)
    have hcancel' : (cancelDeviceTemporaryAccess env address false).Withstands router
        (fun _ => True) 1 s.coherent fun o _ t => match o with
          | .ok _ => True
          | .error _ => t.router.Safe address level := by
      refine hcancel.mono fun o m t _ _ ho => ?_
      cases o with
      | ok _ => trivial
      | error _ => exact ho
    have hbody := (@withstands_of_serialized _ _ _ _ (fun (o : Except Failure CancelReply) _ r =>
      match o with
        | .ok _ => True
        | .error _ => r.Safe address level) _ hcancel').follow
      (exec_activeReading (s:={ s.coherent with lane := s.coherent.lane+1 }) hactive hmanaged)
    rw [if_neg (by simp [hreply])] at hbody
    exact restricted_of_disable (s:={ s.coherent with lane := s.coherent.lane+1 }) hscheduler
      (Prog.withstands_bind_iff.mp hbody) fun _ _ _ ht => ht
  · -- a call of the switch fails behind the removal of the fail-safe
    intro hgate
    obtain ⟨reply',hexec⟩ := @exec_cancelWithout env address restore s.coherent h hmanaged
    have hcancelled : exec ((cancelDeviceTemporaryAccess env address false).bind
        fun _ => .ret ()) s.coherent=(.ok (),{ s.coherent with
          router := s.router.cleanedUp address }) := exec_bind_ok hexec
    have hswitch := hread.follow hcancelled
    obtain ⟨Q,hQ,hwrite⟩ := withstands_writeMode_of (K:=fun r => r.Safe address level)
      ⟨hgate,hblock,managed_cleanedUp.mpr hmanaged⟩ hswitch
    have hframe := (spares_writeMode (k:=.scheduler) (by decide) (by decide) env address
      (clip (strip "UI enforcement") 60) action).withstands
        (System.passed { s.coherent with
          router := s.router.cleanedUp address, lane := s.coherent.lane+1 }) 1
    have hcovered := covered_of_withstands (w:=level) (hwrite.and hframe) fun e m t ht => ?_
    · exact covered_cleanedUp.mp hcovered
    · rcases hQ e m t ht.1 with hfail | hrestricted
      · have hnone : t.router.schedulers address=[] :=
          (TableFamily.rows_congr ht.2 _).trans schedulers_cleanedUp
        exact absurd hfail (not_failSafe_of_nil hnone)
      · exact hrestricted

end Enforce

section Endings
variable {env : Environment} {address : Ipv4} {restore : Mode} {s : System}

/-- What an ending needs of RouterOS to be safe. -/
def Ending.Safely (env : Environment) (address : Ipv4) (restore : Mode) (s : System) :
    Ending → Prop
  | .cancel => s.router.Managed address → Restricted (restrictionOf restore) s.router.tables address
  | .enforce action => s.EnforceSafely env address restore action

/-- Ending an override is safe, whichever single call fails, exactly where the device is restricted
enough before, and covered while another mode is written. -/
theorem ending_fails_restrictive (ending : Ending) (h : s.router.Overridden address restore) :
    (∀ faults, failures faults ≤ 1 →
      ((ending.run env address).run router.faulty (s,faults)).2.1.router.Safe address
        (ending.level restore)) ↔ ending.Safely env address restore s := by
  have hruns : (∀ faults, failures faults ≤ 1 →
      ((ending.run env address).run router.faulty (s,faults)).2.1.router.Safe address
        (ending.level restore)) ↔ (ending.run env address).Withstands router (fun _ => True) 1 s
        fun _ _ t => t.router.Safe address (ending.level restore) := by
    rw [Prog.withstands_iff_runs]
    exact forall₂_congr fun faults hn => (and_iff_right fun _ _ => trivial).symm
  rw [hruns]
  cases ending with
  | cancel => exact ⟨fun hsafe hmanaged => restricted_of_cancel h hsafe hmanaged,withstands_cancel h⟩
  | enforce action => exact ⟨safely_of_enforce h,withstands_enforce h⟩

/-- A managed device whose override restores BLOCKED, in the block list or not. -/
def overrideRouter (blocked : Bool) : RouterOS where
  filter := readyRouter.filter
  tables
    | .addressList =>
      let managed := Table.empty.insert { list := restrictedList, address := "192.168.88.20" }
      if blocked then managed.insert { list := deviceBlockList, address := "192.168.88.20" }
      else managed
    | .scheduler => Table.empty.insert
      { name := "MC-TEMP-DEV-192-168-88-20"
        comment := "MC|TEMP_DEVICE|192.168.88.20|restore=blocked|minutes=30|started=now" }
    | .script => Table.empty.insert { name := "MC-TEMP-RESTORE-DEV-192-168-88-20" }
    | k => readyRouter.tables k

def overrideAddress : Ipv4 := ⟨"192.168.88.20",by decide⟩

lemma overrideRouter_overridden (blocked : Bool) :
    (overrideRouter blocked).Overridden overrideAddress .blocked := by
  cases blocked <;> exact ⟨_,rfl,by decide⟩

/-- The first reading of the gate behind the removal of the fail-safe. -/
def lateFailure : List Fault := List.replicate 18 .fine ++ [.lost]

/-- A device that is blocked already stays so while BLOCKED is enforced. -/
theorem ending_fails_restrictive_blocked :
    (((Ending.enforce .blocked).run {} overrideAddress).run router.faulty
      ({ router := overrideRouter true },lateFailure)).2.1.router.Safe overrideAddress 2 := by
  refine (ending_fails_restrictive (s:={ router := overrideRouter true }) (.enforce .blocked)
    (overrideRouter_overridden true)).mpr (fun _ _ => ⟨?_,fun _ => .inr (.inl ?_)⟩)
    lateFailure (by decide)
  · exact restricted_of_blocked (by decide) (by unfold BlockedIn; decide)
  · decide

/-- Enforcing BLOCKED leaves a device NORMAL without a fail-safe. -/
theorem ending_loses_failSafe : (overrideRouter false).Overridden overrideAddress .blocked ∧
    failures lateFailure=1 ∧ ¬(((Ending.enforce .blocked).run {} overrideAddress).run router.faulty
      ({ router := overrideRouter false },lateFailure)).2.1.router.Safe overrideAddress
        ((Ending.enforce .blocked).level .blocked) := by
  refine ⟨overrideRouter_overridden false,rfl,?_⟩
  rintro (hfail | hzero | ⟨hle,-⟩ | ⟨-,hblocked⟩)
  · exact not_failSafe_of_nil (by decide) hfail
  · exact absurd hzero (by decide)
  · exact absurd hle (by decide)
  · exact hblocked (by decide +kernel)

end Endings
end ZenControl.Router
