import ZenControl.Router.Endings

/-! How restricted a device is in every state that `set_device_mode` passes through, whatever the
number of its entries and queues and whichever API call fails. -/
namespace ZenControl.Router
open Calls Requests Rows

section Effective
variable {t : TableFamily Row} {address : Ipv4} {w : ℕ}

/-- What restricts a device: BLOCKED while it is in the block list, else SLOW while a slow queue is
enabled. -/
def effectiveMode (t : TableFamily Row) (address : Ipv4) : Mode :=
  if (listedIn t deviceBlockList address).isEmpty then
    if (queuesIn t address.deviceSlowQueueName).any fun q => !q.2.disabled then .slow else .normal
  else .blocked

lemma effectiveMode_of_blocked (h : BlockedIn t address) : effectiveMode t address=.blocked := by
  rw [effectiveMode,if_neg (by simpa [BlockedIn] using h)]

lemma effectiveMode_of_slowed (h : ¬BlockedIn t address) (hslowed : SlowedIn t address) :
    effectiveMode t address=.slow := by
  obtain ⟨q,hq,henabled⟩ := hslowed
  rw [effectiveMode,if_pos (by simpa [BlockedIn] using h),
    if_pos (List.any_eq_true.mpr ⟨q,hq,by simp [henabled]⟩)]

lemma effectiveMode_of_neither (h : ¬BlockedIn t address) (hslowed : ¬SlowedIn t address) :
    effectiveMode t address=.normal := by
  rw [effectiveMode,if_pos (by simpa [BlockedIn] using h),if_neg]
  simpa [SlowedIn] using hslowed

lemma restricted_iff : Restricted w t address ↔ w ≤ restrictionOf (effectiveMode t address) := by
  unfold Restricted
  by_cases hblocked : BlockedIn t address
  · rw [effectiveMode_of_blocked hblocked]
    simp only [hblocked,and_true,restrictionOf]
    omega
  · by_cases hslowed : SlowedIn t address
    · rw [effectiveMode_of_slowed hblocked hslowed]
      simp only [hblocked,hslowed,and_true,and_false,or_false,restrictionOf]
      omega
    · rw [effectiveMode_of_neither hblocked hslowed]
      simp only [hblocked,hslowed,and_false,or_false,restrictionOf]
      omega

/-- The entries that stand in the way of a mode are all that restricts the device: several block
entries before BLOCKED, several slow queues of a device that is not blocked before SLOW. -/
def Exposed (t : TableFamily Row) (address : Ipv4) : Mode → Prop
  | .normal => False
  | .blocked => 2 ≤ (listedIn t deviceBlockList address).length
  | .slow => ¬BlockedIn t address ∧ 2 ≤ (queuesIn t address.deviceSlowQueueName).length ∧
      SlowedIn t address

/-- The weaker of what restricts a device and of a mode. -/
def weaker (t : TableFamily Row) (address : Ipv4) (mode : Mode) : ℕ :=
  min (restrictionOf (effectiveMode t address)) (restrictionOf mode)

lemma covered_of_not_exposed {mode : Mode} (h : ¬Exposed t address mode) :
    Covered (weaker t address mode) t address mode := by
  cases mode with
  | normal => trivial
  | blocked => exact .inr (.inl (Nat.lt_succ_iff.mp (Nat.not_le.mp h)))
  | slow =>
    by_cases hblocked : BlockedIn t address
    · exact .inr (.inl hblocked)
    by_cases hslowed : SlowedIn t address
    · have hfew : ¬2 ≤ (queuesIn t address.deviceSlowQueueName).length :=
        fun hmany => h ⟨hblocked,hmany,hslowed⟩
      obtain ⟨q,hq,-⟩ := hslowed
      have hpos := List.length_pos_of_mem hq
      exact .inr (.inr (by omega))
    · refine .inl ?_
      rw [weaker,effectiveMode_of_neither hblocked hslowed]
      exact Nat.zero_min _

end Effective

section Writes
variable {env : Environment} {address : Ipv4} {description : String} {mode : Mode} {s : System}
  {n w : ℕ}

/-- Exposed entries are removed before others take their place. -/
lemma not_exposed_of_writeMode {Q : Except Failure Unit → ℕ → System → Prop}
    (h : (writeMode env address description mode).Withstands router
      (Keeps (weaker s.router.tables address mode) address) n s Q) :
    ¬Exposed s.router.tables address mode := by
  cases mode with
  | normal => exact id
  | blocked =>
    intro hmany
    have hblocked : BlockedIn s.router.tables address := by
      intro hnone
      rw [Exposed,hnone] at hmany
      cases hmany
    have hestablish := (Prog.withstands_bind_iff.mp h).follow (exec_entries _ _ s)
    have hlength : ¬_=1 := fun hone => absurd (Nat.le_trans hmany (Nat.le_of_eq hone)) (by decide)
    rw [if_neg hlength] at hestablish
    have hgone := (hestablish.follow (exec_removing ..)).start
    rw [Keeps,weaker,effectiveMode_of_blocked hblocked] at hgone
    rcases hgone with hzero | ⟨hle,-⟩ | ⟨-,hleft⟩
    · cases hzero
    · exact absurd hle (by decide)
    · exact hleft (listedIn_without_self _)
  | slow =>
    rintro ⟨hblocked,hmany,hslowed⟩
    have hset := Prog.withstands_bind_iff.mp (h.follow (exec_entries _ _ s))
    have hgone : Keeps (weaker s.router.tables address .slow) address (s.withTables
        (s.router.tables.without .queue (isQueue address.deviceSlowQueueName))) := by
      unfold setQueue at hset
      unfold queuesIn at hmany
      cases hrows : s.router.tables.rows .queue (isQueue address.deviceSlowQueueName) with
      | nil =>
        rw [hrows] at hmany
        cases hmany
      | cons q rest =>
        rw [hrows] at hset hmany
        cases rest with
        | nil => exact absurd hmany (by simp)
        | cons q' rest => exact (hset.follow (exec_removing ..)).start
    rw [Keeps,weaker,effectiveMode_of_slowed hblocked hslowed] at hgone
    rcases hgone with hzero | ⟨-,q,hq,-⟩ | ⟨-,hleft⟩
    · cases hzero
    · have hnone := queuesIn_without_self (t:=s.router.tables) address.deviceSlowQueueName
      exact List.not_mem_nil (hnone ▸ hq)
    · exact hblocked (hleft.of_rows (listedIn_without_queue ..).symm)

/-- The writes of a switch that is carried out. -/
lemma withstands_writeMode_within {I : System → Prop} (hcan : s.CanSwitch env address)
    (h : (setDeviceMode env address description mode).Withstands router I n s
      fun _ _ _ => True) :
    ∃ Q : Except Failure Unit → ℕ → System → Prop,
      (writeMode env address (clip (strip description) 60) mode).Withstands router I n
        (System.passed { s with lane := s.lane+1 }) Q := by
  obtain ⟨hgate,hblock,hmanaged⟩ := hcan
  let inside := System.passed { s with lane := s.lane+1 }
  have hgate' : System.PassesGate env { s with lane := s.lane+1 } := hgate
  have hblock' : inside.router.DeviceBlockValid := hblock
  have hmanaged' : inside.router.Managed address := hmanaged
  have hbody := (@withstands_of_serialized _ _ _ _ (fun _ _ _ => True) I h).follow
    (exec_requirePolicyWriteGate hgate')
  have hwrites := Prog.withstands_rescue_iff.mp (Prog.withstands_bind_iff.mp
    (hbody.follow (exec_connect inside)))
  exact ⟨_,(hwrites.follow (exec_validateDeviceBlockPrimitive hblock')).follow
    (exec_validateRestrictedDevice hmanaged')⟩

theorem withstands_setDeviceMode_iff : (setDeviceMode env address description mode).Withstands
    router (Keeps (weaker s.router.tables address mode) address) n s (fun _ _ _ => True) ↔
      (s.CanSwitch env address → ¬Exposed s.router.tables address mode) := by
  constructor
  · intro h hcan
    obtain ⟨Q,hwrite⟩ := withstands_writeMode_within hcan h
    exact not_exposed_of_writeMode (s:=System.passed { s with lane := s.lane+1 }) hwrite
  · intro h
    refine withstands_setDeviceMode (Nat.min_le_right _ _) ?_ fun hcan => ?_
    · exact restricted_iff.mpr (Nat.min_le_left _ _)
    · exact covered_of_not_exposed (h hcan)

/-- A device is restricted by the weaker of its restriction and of the mode it is switched to, in
every state on the way and whatever calls fail, if and only if it is not exposed by the switch. -/
theorem setDeviceMode_fails_restrictive (env : Environment) (address : Ipv4) (description : String)
    (mode : Mode) (s : System) (n : ℕ) :
    (∀ faults,failures faults ≤ n →
      ∀ t ∈ (setDeviceMode env address description mode).visited router.faulty (s,faults),
        min (restrictionOf (effectiveMode s.router.tables address)) (restrictionOf mode) ≤
          restrictionOf (effectiveMode t.1.router.tables address)) ↔
      (s.CanSwitch env address → ¬Exposed s.router.tables address mode) := by
  rw [← @withstands_setDeviceMode_iff env address description mode s n]
  rw [Prog.withstands_iff_runs (Q:=fun _ _ => True)]
  refine forall₂_congr fun faults hn => ?_
  rw [and_true]
  exact forall₂_congr fun t ht => restricted_iff.symm

end Writes

section Examples

/-- A managed device with two entries in the block list. -/
def doublyBlockedRouter : RouterOS where
  filter := readyRouter.filter
  tables
    | .addressList =>
      let managed := Table.empty.insert { list := restrictedList, address := "192.168.88.20" }
      let blocked := managed.insert
        { list := deviceBlockList, address := "192.168.88.20", dynamic := true }
      blocked.insert { list := deviceBlockList, address := "192.168.88.20" }
    | k => readyRouter.tables k

/-- Switching it to BLOCKED while the authority was proven in its session, without any failure. -/
theorem setDeviceMode_unblocks : ¬∀ (env : Environment) (address : Ipv4) (description : String)
    (mode : Mode) (s : System) (faults : List Fault),failures faults ≤ 1 →
      ∀ t ∈ (setDeviceMode env address description mode).visited router.faulty (s,faults),
        min (restrictionOf (effectiveMode s.router.tables address)) (restrictionOf mode) ≤
          restrictionOf (effectiveMode t.1.router.tables address) := by
  intro h
  have hall := h {} overrideAddress "" .blocked
    { router := doublyBlockedRouter, session := some ⟨true⟩ } [] (Nat.zero_le 1)
  revert hall
  decide

end Examples

end ZenControl.Router
