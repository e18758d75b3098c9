import ZenControl.Router.Execution

/-! What the readers of a device return when no call fails. -/
namespace ZenControl.Router
open Calls Requests Rows

/-- There is one block rule of devices, and it is enabled. -/
def RouterOS.DeviceBlockValid (r : RouterOS) : Prop :=
  ∃ rule, r.rules (fun rule => rule.comment=deviceBlockRuleComment)=[rule] ∧ rule.2.disabled=false

/-- The entries of a device in a list. -/
def RouterOS.listed (r : RouterOS) (list : String) (address : Ipv4) : List (ℕ × AddressEntry) :=
  r.tables.rows .addressList (inList list address)

/-- The queues of a name. -/
def RouterOS.queues (r : RouterOS) (name : String) : List (ℕ × SimpleQueue) :=
  r.tables.rows .queue (isQueue name)

/-- The device is exactly one static member of `Restricted_Devices`. -/
def RouterOS.Managed (r : RouterOS) (address : Ipv4) : Prop :=
  ((r.listed restrictedList address).filter fun e => !e.2.dynamic).length=1

/-- The schedulers of the temporary access of a device. -/
def RouterOS.schedulers (r : RouterOS) (address : Ipv4) : List (ℕ × Scheduler) :=
  r.tables.rows .scheduler fun s => s.name=address.deviceTempSchedulerName

/-- The restore scripts of a device. -/
def RouterOS.scripts (r : RouterOS) (address : Ipv4) : List (ℕ × Script) :=
  r.tables.rows .script fun s => s.name=address.deviceTempScriptName

section Readers
variable {s : System} {address : Ipv4}

lemma exec_validateDeviceBlockPrimitive (h : s.router.DeviceBlockValid) :
    exec validateDeviceBlockPrimitive s=(.ok (),s) := by
  obtain ⟨⟨id,rule⟩,hrules,henabled⟩ := h
  unfold validateDeviceBlockPrimitive
  rw [exec_bind_ok (exec_rules _ s),hrules]
  dsimp only at henabled ⊢
  rw [if_neg (by simp [henabled])]
  rfl

lemma exec_validateDeviceBlockPrimitive_of_not (h : ¬s.router.DeviceBlockValid) :
    ∃ m, exec validateDeviceBlockPrimitive s=(.error (.router m),s) := by
  unfold validateDeviceBlockPrimitive
  rw [exec_bind_ok (exec_rules _ s)]
  match hrules : s.router.rules fun r => r.comment=deviceBlockRuleComment with
  | [] => exact ⟨_,rfl⟩
  | [(id,rule)] =>
    dsimp only
    split_ifs with hdisabled
    · exact ⟨_,rfl⟩
    · exact absurd ⟨(id,rule),hrules,by simpa using hdisabled⟩ h
  | _::_::_ => exact ⟨_,rfl⟩

lemma exec_validateRestrictedDevice (h : s.router.Managed address) :
    exec (validateRestrictedDevice address) s=(.ok (),s) := by
  unfold validateRestrictedDevice
  rw [exec_bind_ok (exec_entries _ _ s)]
  exact congrArg (fun p => exec p s) (if_pos h)

lemma exec_validateRestrictedDevice_of_not (h : ¬s.router.Managed address) :
    ∃ m, exec (validateRestrictedDevice address) s=(.error (.router m),s) := by
  unfold validateRestrictedDevice
  rw [exec_bind_ok (exec_entries _ _ s)]
  exact ⟨_,congrArg (fun p => exec p s) (if_neg h)⟩

/-- The enforcement that is read from RouterOS. -/
def RouterOS.enforcement (r : RouterOS) (address : Ipv4) : Enforcement :=
  let queues := r.queues address.deviceSlowQueueName
  { address := address
    mode := liveMode (r.listed deviceBlockList address).length
      (r.listed deviceSlowList address).length (queues.map Prod.snd)
    blockedEntries := (r.listed deviceBlockList address).length
    slowEntries := (r.listed deviceSlowList address).length
    slowQueues := queues.length
    slowLimit := match queues with
      | [(_,queue)] => some queue.maxLimit
      | _ => none }

lemma exec_getDeviceEnforcement (hblock : s.router.DeviceBlockValid)
    (hmanaged : s.router.Managed address) :
    exec (getDeviceEnforcement address) s=(.ok (s.router.enforcement address),s) := by
  unfold getDeviceEnforcement
  rw [exec_bind_ok (exec_connect s)]
  refine exec_explained _ ?_
  rw [exec_bind_ok (exec_validateDeviceBlockPrimitive hblock),
    exec_bind_ok (exec_validateRestrictedDevice hmanaged)]
  unfold listEntries queuesNamed
  rw [exec_bind_ok (exec_entries _ _ s),exec_bind_ok (exec_entries _ _ s),
    exec_bind_ok (exec_entries _ _ s)]
  rfl

lemma exec_getDeviceEnforcement_of_not
    (h : ¬(s.router.DeviceBlockValid ∧ s.router.Managed address)) :
    ∃ m, exec (getDeviceEnforcement address) s=(.error (.router m),s) := by
  unfold getDeviceEnforcement
  rw [exec_bind_ok (exec_connect s)]
  by_cases hblock : s.router.DeviceBlockValid
  · obtain ⟨m,hm⟩ := exec_validateRestrictedDevice_of_not fun hmanaged => h ⟨hblock,hmanaged⟩
    refine ⟨m,exec_explained_router _ ?_⟩
    rw [exec_bind_ok (exec_validateDeviceBlockPrimitive hblock)]
    exact exec_bind_error hm
  · obtain ⟨m,hm⟩ := exec_validateDeviceBlockPrimitive_of_not hblock
    exact ⟨m,exec_explained_router _ (exec_bind_error hm)⟩

/-- What the reader of temporary access concludes. -/
def RouterOS.temporary (r : RouterOS) (address : Ipv4) : TemporaryReading :=
  temporaryReading address (r.schedulers address) (r.scripts address)

/-- RouterOS without the temporary access of a device. -/
def RouterOS.cleanedUp (r : RouterOS) (address : Ipv4) : RouterOS :=
  let tables := Function.update r.tables .scheduler ((r.tables .scheduler).delete
    fun _ s => s.name=address.deviceTempSchedulerName)
  { r with tables := Function.update tables .script ((tables .script).delete
    fun _ s => s.name=address.deviceTempScriptName) }

lemma exec_cleanupDeviceTempResources (address : Ipv4) (s : System) :
    exec (cleanupDeviceTempResources address) s=
      (.ok (),{ s with router := s.router.cleanedUp address }) := by
  unfold cleanupDeviceTempResources
  rw [exec_bind_ok (exec_removeFound ..)]
  exact exec_removeFound ..

/-- Scripts count as orphans where there is no scheduler. -/
lemma temporaryReading_orphans {schedulers : List (ℕ × Scheduler)} {scripts found}
    {reply : TemporaryAccess}
    (h : temporaryReading address schedulers scripts=.orphans found reply) :
    schedulers=[] ∧ found=scripts := by
  unfold temporaryReading at h
  dsimp only at h
  by_cases hone : 1 < schedulers.length
  · rw [if_pos hone] at h
    cases h
  rw [if_neg hone] at h
  by_cases hscript : 1 < scripts.length
  · rw [if_pos hscript] at h
    cases h
  rw [if_neg hscript] at h
  match schedulers with
  | [] =>
    cases h
    exact ⟨rfl,rfl⟩
  | (id,entry)::rest =>
    dsimp only at h
    split_ifs at h

lemma cleanedUp_of_orphans {r : RouterOS} (h : r.schedulers address=[]) :
    r.cleanedUp address={ r with
      tables := Function.update r.tables .script ((r.tables .script).delete
        fun _ s => s.name=address.deviceTempScriptName) } := by
  have hnone : (r.tables .scheduler).delete (fun _ s => s.name=address.deviceTempSchedulerName)=
      r.tables .scheduler := by
    refine (delete_congr fun row hrow => ?_).trans (delete_none _)
    refine Bool.eq_false_iff.mpr fun hname => ?_
    have hmem : row ∈ r.schedulers address := List.mem_filter.mpr ⟨hrow,hname⟩
    exact List.not_mem_nil (h ▸ hmem)
  unfold RouterOS.cleanedUp
  rw [hnone,Function.update_eq_self]

/-- What `get_device_temporary_access` returns for a managed device, and what it removes. -/
lemma exec_getDeviceTemporaryAccess (hmanaged : s.router.Managed address) :
    exec (getDeviceTemporaryAccess address) s=match s.router.temporary address with
      | .failed m => (.error (.router m),s)
      | .orphans _ reply | .stale reply =>
        (.ok reply,{ s with router := s.router.cleanedUp address })
      | .active reply => (.ok reply,s) := by
  unfold getDeviceTemporaryAccess schedulersOf scriptsOf
  rw [exec_bind_ok (exec_connect s)]
  have hread {p : RouterProg TemporaryAccess}
      (hp : exec (match s.router.temporary address with
        | .failed message => .raise (.router message)
        | .orphans scripts reply =>
          (Prog.forEach scripts fun s => remove .script s.1).bind fun _ => .ret reply
        | .stale reply => (cleanupDeviceTempResources address).bind fun _ => .ret reply
        | .active reply => .ret reply) s=exec p s) :
      exec ((validateRestrictedDevice address).bind fun _ =>
        (entries .scheduler fun s => s.name=address.deviceTempSchedulerName).bind
          fun schedulers =>
        (entries .script fun s => s.name=address.deviceTempScriptName).bind fun scripts =>
          match temporaryReading address schedulers scripts with
          | .failed message => .raise (.router message)
          | .orphans scripts reply =>
            (Prog.forEach scripts fun s => remove .script s.1).bind fun _ => .ret reply
          | .stale reply => (cleanupDeviceTempResources address).bind fun _ => .ret reply
          | .active reply => .ret reply) s=exec p s := by
    rw [exec_bind_ok (exec_validateRestrictedDevice hmanaged),exec_bind_ok (exec_entries _ _ s),
      exec_bind_ok (exec_entries _ _ s)]
    exact hp
  cases htemporary : s.router.temporary address with
  | failed m =>
    refine exec_explained_router _ ((hread (p:=.raise (.router m)) ?_).trans rfl)
    rw [htemporary]
  | orphans found reply =>
    obtain ⟨hnone,rfl⟩ := temporaryReading_orphans htemporary
    refine exec_explained _ ((hread (p:=(removeFound .script
      fun s => s.name=address.deviceTempScriptName).bind fun _ => .ret reply) ?_).trans ?_)
    · rw [htemporary]
      unfold removeFound
      dsimp only
      rw [Prog.bind_assoc,exec_bind_ok (exec_entries _ _ s)]
      rfl
    · rw [exec_bind_ok (exec_removeFound ..),cleanedUp_of_orphans hnone]
      exact exec_ret _ _
  | stale reply =>
    refine exec_explained _ ((hread (p:=(cleanupDeviceTempResources address).bind
      fun _ => .ret reply) ?_).trans ?_)
    · rw [htemporary]
    · rw [exec_bind_ok (exec_cleanupDeviceTempResources address s)]
      exact exec_ret _ _
  | active reply =>
    refine exec_explained _ ((hread (p:=.ret reply) ?_).trans rfl)
    rw [htemporary]

end Readers
end ZenControl.Router
