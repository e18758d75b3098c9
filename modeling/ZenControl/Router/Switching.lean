import ZenControl.Router.Modes
import ZenControl.Router.Gate

/-! `set_device_mode` as a whole: its gate, its validations, its writes and the reading behind
them. -/
namespace ZenControl.Router
open Calls Requests Rows

section Serialized
variable {α : Type} {p : RouterProg α} {s t : System}

lemma exec_serialized {o : Except Failure α}
    (h : exec p { s with lane := s.lane+1 }=(o,{ t with lane := s.lane+1 })) :
    exec (serialized p) s=(o,{ t with lane := s.lane }) := by
  unfold serialized
  rw [exec_bind_ok (exec_enterLane s)]
  rw [if_neg (by decide)]
  unfold andFinally
  cases o with
  | ok a =>
    have hbody : exec (p.rescue fun e => (call .leaveLane).bind fun _ => .raise e)
        { s with lane := s.lane+1 }=(.ok a,{ t with lane := s.lane+1 }) := by
      refine (Prog.run_rescue _ _ _ _).trans ?_
      rw [show p.run RouterCall.serve { s with lane := s.lane+1 }=_ from h]
    rw [exec_bind_ok hbody,exec_bind_ok (exec_leaveLane _)]
    rfl
  | error e =>
    refine exec_bind_error ((Prog.run_rescue _ _ _ _).trans ?_)
    rw [show p.run RouterCall.serve { s with lane := s.lane+1 }=_ from h]
    change exec ((call .leaveLane).bind fun _ => .raise e) _=_
    rw [exec_bind_ok (exec_leaveLane _)]
    rfl

end Serialized

section Mode
variable {env : Environment} {address : Ipv4} {description : String} {mode : Mode} {s : System}

/-- RouterOS with other tables. -/
def RouterOS.withTables (r : RouterOS) (t : TableFamily Row) : RouterOS := { r with tables := t }

@[simp] lemma RouterOS.withTables_tables (r : RouterOS) (t : TableFamily Row) :
    (r.withTables t).tables=t := rfl

/-- RouterOS after a mode was written. -/
def RouterOS.withMode (r : RouterOS) (env : Environment) (address : Ipv4) (description : String)
    (mode : Mode) : RouterOS :=
  r.withTables (modeWritten env address description r.tables mode)

/-- Lists of other names are no list of modes. -/
lemma listedIn_modeWritten {list : String} (hblock : list≠deviceBlockList)
    (hslow : list≠deviceSlowList) (t : TableFamily Row) :
    listedIn (modeWritten env address description t mode) list address=listedIn t list address :=
  rows_modeWritten_of_disjoint mode (inList_disjoint hblock) (inList_disjoint hslow)

lemma managed_withMode {r : RouterOS} :
    (r.withMode env address description mode).Managed address ↔ r.Managed address := by
  have hrows := @listedIn_modeWritten env address description mode restrictedList (by decide)
    (by decide) r.tables
  unfold RouterOS.Managed
  rw [show (r.withMode env address description mode).listed restrictedList address=_ from hrows]
  rfl

/-- The mode that RouterOS shows for a device. -/
lemma enforcement_mode (r : RouterOS) (address : Ipv4) :
    (r.enforcement address).mode=modeIn r.tables address := rfl

/-- What `set_device_mode` needs besides answers to its calls. -/
def System.CanSwitch (env : Environment) (address : Ipv4) (s : System) : Prop :=
  s.PassesGate env ∧ s.router.DeviceBlockValid ∧ s.router.Managed address

lemma exec_setDeviceMode (h : s.CanSwitch env address) :
    ∃ result, exec (setDeviceMode env address description mode) s=(.ok result,{ s.passed with
      router := s.router.withMode env address (clip (strip description) 60) mode }) := by
  obtain ⟨hgate,hblock,hmanaged⟩ := h
  let written := s.router.withMode env address (clip (strip description) 60) mode
  let entered := System.passed { s with lane := s.lane+1 }
  let after : System := { s.passed with router := written, lane := s.lane+1 }
  refine ⟨written.enforcement address,?_⟩
  unfold setDeviceMode
  refine exec_serialized (t:={ s.passed with router := written }) ?_
  have hgate' : System.PassesGate env { s with lane := s.lane+1 } := hgate
  have hwrite : exec (writeMode env address (clip (strip description) 60) mode) entered=
      (.ok (),after) := exec_writeMode mode
  rw [exec_bind_ok (exec_requirePolicyWriteGate hgate'),exec_bind_ok (exec_connect _)]
  have hbody : exec (explained s!"Unable to set device {address.text} to {modeText mode}" <|
      validateDeviceBlockPrimitive.bind fun _ => (validateRestrictedDevice address).bind fun _ =>
        writeMode env address (clip (strip description) 60) mode) entered=(.ok (),after) := by
    have hvalid : entered.router.DeviceBlockValid := hblock
    have hmember : entered.router.Managed address := hmanaged
    refine exec_explained _ ?_
    rw [exec_bind_ok (exec_validateDeviceBlockPrimitive hvalid),
      exec_bind_ok (exec_validateRestrictedDevice hmember)]
    exact hwrite
  rw [exec_bind_ok hbody]
  have hblock' : after.router.DeviceBlockValid := hblock
  have hmanaged' : after.router.Managed address := managed_withMode.mpr hmanaged
  rw [exec_bind_ok (exec_getDeviceEnforcement hblock' hmanaged')]
  have hmode : modeIn after.router.tables address=some mode := modeIn_modeWritten mode
  dsimp only
  rw [enforcement_mode,if_pos hmode]
  rfl

/-- Otherwise it changes nothing. -/
lemma exec_setDeviceMode_of_not (h : ¬s.CanSwitch env address) :
    ∃ m session, exec (setDeviceMode env address description mode) s=
      (.error (.router m),{ s with session := session }) := by
  have entered {m : String} {session : Option Session} (hbody : exec
      ((requirePolicyWriteGate env).bind fun _ => connect.bind fun _ =>
        (explained s!"Unable to set device {address.text} to {modeText mode}" <|
          validateDeviceBlockPrimitive.bind fun _ =>
          (validateRestrictedDevice address).bind fun _ =>
          writeMode env address (clip (strip description) 60) mode).bind fun _ =>
        (getDeviceEnforcement address).bind fun result =>
          if result.mode=some mode then .ret result
          else .raise (.router (s!"Requested device mode '{modeText mode}' " ++
            s!"but router reports '{modeText result.mode}' for {address.text}"))) { s with lane := s.lane+1 }=
        (.error (.router m),{ s with session := session, lane := s.lane+1 })) :
      ∃ m session, exec (setDeviceMode env address description mode) s=
        (.error (.router m),{ s with session := session }) :=
    ⟨m,session,exec_serialized (t:={ s with session := session }) hbody⟩
  by_cases hgate : s.PassesGate env
  · have hgate' : System.PassesGate env { s with lane := s.lane+1 } := hgate
    have hpassed := exec_requirePolicyWriteGate hgate'
    by_cases hblock : s.router.DeviceBlockValid
    · have hmanaged : ¬s.router.Managed address := fun hm => h ⟨hgate,hblock,hm⟩
      let inside := System.passed { s with lane := s.lane+1 }
      have hmanaged' : ¬inside.router.Managed address := hmanaged
      have hblock' : inside.router.DeviceBlockValid := hblock
      obtain ⟨m,hm⟩ := exec_validateRestrictedDevice_of_not hmanaged'
      refine @entered m inside.session ((exec_bind_ok hpassed).trans ?_)
      rw [exec_bind_ok (exec_connect _)]
      refine exec_bind_error (exec_explained_router _ ?_)
      exact (exec_bind_ok (exec_validateDeviceBlockPrimitive hblock')).trans (exec_bind_error hm)
    · let inside := System.passed { s with lane := s.lane+1 }
      have hblock' : ¬inside.router.DeviceBlockValid := hblock
      obtain ⟨m,hm⟩ := exec_validateDeviceBlockPrimitive_of_not hblock'
      refine @entered m inside.session ((exec_bind_ok hpassed).trans ?_)
      rw [exec_bind_ok (exec_connect _)]
      exact exec_bind_error (exec_explained_router _ (exec_bind_error hm))
  · have hgate' : ¬System.PassesGate env { s with lane := s.lane+1 } := hgate
    obtain ⟨m,hm⟩ := exec_requirePolicyWriteGate_of_not hgate'
    exact entered (exec_bind_error hm)

variable {J : RouterOS → Prop} {n w : ℕ}

/-- The gate passes as it does without failures, or it raises; it leaves RouterOS alone. -/
lemma withstands_requirePolicyWriteGate {Q : Except Failure Unit → ℕ → System → Prop}
    (start : J s.router) (passed : s.PassesGate env → Q (.ok ()) n s.passed)
    (closed : ∀ e m session, m ≤ n → Q (.error e) m { s with session := session }) :
    (requirePolicyWriteGate env).Withstands router (fun t => J t.router) n s Q := by
  have hrecord (proven : Bool) {Q : Except Failure Unit → ℕ → System → Prop}
      (h : Q (.ok ()) n { s with session := s.session.map fun _ => ⟨proven⟩ }) :
      (recordAuthority proven).Withstands router (fun t => J t.router) n s Q := by
    refine Prog.withstands_bind (Prog.withstands_issue start ⟨start,?_⟩ nofun)
    obtain ⟨r,session,lane⟩ := s
    cases session with
    | none => exact ⟨start,h⟩
    | some shared => exact Prog.withstands_issue start ⟨start,h⟩ nofun
  refine Prog.withstands_bind (Prog.withstands_issue start ⟨start,?_⟩ nofun)
  change Prog.Withstands router (fun t => J t.router) (if s.session.any Session.proven then .ret ()
    else assertPolicyEnforcementReady env) n s Q
  split_ifs with hproven
  · have hpassed : s.passed=s := by
      obtain ⟨r,session,lane⟩ := s
      cases session with
      | none => cases hproven
      | some shared =>
        obtain ⟨proven⟩ := shared
        cases hproven
        rfl
    exact ⟨start,hpassed ▸ passed (.inl hproven)⟩
  · refine Prog.withstands_bind ((reads_getSecurityPosture env).withstands start ?_ fun e m hm =>
      closed e m s.session (by omega))
    rw [exec_getSecurityPosture]
    dsimp only
    cases hchecks : s.router.failedChecks env with
    | nil => exact hrecord true (passed (.inr hchecks))
    | cons name names =>
      refine Prog.withstands_bind (hrecord false ?_)
      exact ⟨start,closed _ n _ (Nat.le_refl n)⟩

/-- Both validations of `set_device_mode` pass, or it raises. -/
lemma withstands_validations {I : System → Prop} {f : RouterProg Unit}
    {Q : Except Failure Unit → ℕ → System → Prop} (start : I s)
    (valid : s.router.DeviceBlockValid → s.router.Managed address → f.Withstands router I n s Q)
    (failed : ∀ e m, m ≤ n → Q (.error e) m s) :
    (validateDeviceBlockPrimitive.bind fun _ => (validateRestrictedDevice address).bind fun _ =>
      f).Withstands router I n s Q := by
  refine Prog.withstands_bind (reads_validateDeviceBlockPrimitive.withstands start ?_
    fun e m hm => failed e m (by omega))
  by_cases hblock : s.router.DeviceBlockValid
  · rw [exec_validateDeviceBlockPrimitive hblock]
    refine Prog.withstands_bind ((reads_validateRestrictedDevice address).withstands start ?_
      fun e m hm => failed e m (by omega))
    by_cases hmanaged : s.router.Managed address
    · rw [exec_validateRestrictedDevice hmanaged]
      exact valid hblock hmanaged
    · obtain ⟨m,hm⟩ := exec_validateRestrictedDevice_of_not hmanaged
      rw [hm]
      exact failed _ n (Nat.le_refl n)
  · obtain ⟨m,hm⟩ := exec_validateDeviceBlockPrimitive_of_not hblock
    rw [hm]
    exact failed _ n (Nat.le_refl n)

/-- A device keeps its restriction while its mode is switched under cover. -/
theorem withstands_setDeviceMode (hw : w ≤ restrictionOf mode)
    (start : Restricted w s.router.tables address)
    (covered : s.CanSwitch env address → Covered w s.router.tables address mode) :
    (setDeviceMode env address description mode).Withstands router (Keeps w address) n s
      fun _ _ _ => True := by
  let J : RouterOS → Prop := fun r => Restricted w r.tables address
  refine @withstands_serialized _ _ _ _ J (fun _ _ _ => True) (Prog.withstands_bind ?_)
  refine @withstands_requirePolicyWriteGate _ _ J _ _ start (fun hgate => ?_) fun _ _ _ _ => trivial
  refine Prog.withstands_bind (reads_connect.withstands start ?_ fun _ _ _ => trivial)
  rw [show exec connect _=_ from exec_connect _]
  refine Prog.withstands_bind (withstands_explained (withstands_validations start
    (fun hblock hmanaged => ?_) fun e m _ => by cases e <;> trivial))
  refine Prog.Withstands.mono (withstands_writeMode hw start (covered ⟨hgate,hblock,hmanaged⟩))
    fun o m t _ ht _ => ?_
  cases o with
  | error e => cases e <;> trivial
  | ok _ =>
    refine Prog.withstands_bind ((reads_getDeviceEnforcement address).withstands ht ?_
      fun _ _ _ => trivial)
    cases (exec (getDeviceEnforcement address) t).1 with
    | error e => trivial
    | ok result =>
      dsimp only
      split_ifs <;> exact ⟨ht,trivial⟩

/-- A device whose mode was switched shows that mode, whatever failed. -/
theorem withstands_setDeviceMode_shown :
    (setDeviceMode env address description mode).Withstands router (fun _ => True) n s
      fun o _ t => o.toOption.isSome → modeIn t.router.tables address=some mode := by
  refine @withstands_serialized _ _ _ _ (fun _ => True)
    (fun o _ r => o.toOption.isSome → modeIn r.tables address=some mode)
    (Prog.withstands_bind ((Prog.withstands_any _ _ _).mono fun o m t _ _ _ => ?_))
  cases o with
  | error e => exact nofun
  | ok _ =>
  refine Prog.withstands_bind ((Prog.withstands_any _ _ _).mono fun o m t _ _ _ => ?_)
  cases o with
  | error e => exact nofun
  | ok _ =>
  refine Prog.withstands_bind ((Prog.withstands_any _ _ _).mono fun o m t _ _ _ => ?_)
  cases o with
  | error e => exact nofun
  | ok _ =>
  refine Prog.withstands_bind ((reads_getDeviceEnforcement address).withstands trivial ?_
    fun _ _ _ => nofun)
  by_cases h : t.router.DeviceBlockValid ∧ t.router.Managed address
  · rw [exec_getDeviceEnforcement h.1 h.2]
    dsimp only
    split_ifs with hmode
    · exact ⟨trivial,fun _ => hmode⟩
    · exact ⟨trivial,nofun⟩
  · obtain ⟨m',hm'⟩ := exec_getDeviceEnforcement_of_not h
    rw [hm']
    exact nofun

end Mode
end ZenControl.Router
