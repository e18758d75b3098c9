import ZenControl.Router.Gate
import ZenControl.Library.Rows
import Mathlib.Data.List.Induction

/-! The bulk observation of all managed devices: a few reads of whole lists, grouped by address
and by name, in place of three readers for each device. -/
namespace ZenControl.Router
open Calls Requests Rows

section Grouping
variable {α : Type}

/-- A dictionary from keys to the rows that have them; rows with a blank key are left out. -/
def grouped (key : α → String) (rows : List α) : List (String × List α) :=
  rows.foldl (fun groups row => if key row="" then groups
    else dictSet groups (key row) ((groups.lookup (key row)).getD [] ++ [row])) []

/-- `groups.get(key, [])`. -/
def groupOf (key : String) (groups : List (String × List α)) : List α :=
  (groups.lookup key).getD []

/-- A group holds the rows of its key, in their order. -/
lemma groupOf_grouped (key : α → String) {k : String} (hk : k≠"") (rows : List α) :
    groupOf k (grouped key rows)=rows.filter fun row => key row=k := by
  unfold groupOf grouped
  induction rows using List.reverseRecOn with
  | nil => rfl
  | append_singleton rows row ih =>
    rw [List.foldl_append,List.foldl_cons,List.foldl_nil,List.filter_append]
    by_cases hblank : key row=""
    · have hne : key row≠k := fun h => hk (h.symm.trans hblank)
      rw [if_pos hblank,ih,List.filter_cons_of_neg (by simpa using hne),List.filter_nil,
        List.append_nil]
    · rw [if_neg hblank,lookup_dictSet]
      by_cases hsame : k=key row
      · subst hsame
        rw [if_pos rfl,Option.getD_some,ih,List.filter_cons_of_pos (by simp),List.filter_nil]
      · rw [if_neg hsame,ih,List.filter_cons_of_neg (by simpa using fun h => hsame h.symm),
          List.filter_nil,List.append_nil]

end Grouping

section Snapshot

/-- What a cached health map says about the contract of a service. -/
structure ServiceHealth where
  healthy : Bool
  error : String := ""

/-- What the snapshot keeps of the contract of a service. -/
structure ContractState where
  available : Bool
  error : Option String

/-- The state of a contract: from the health map, or else validated. -/
def contractState (catalog : Catalog) (healthMap : List (String × ServiceHealth)) (key : String) :
    RouterProg ContractState :=
  match healthMap.lookup key with
  | some known => .ret
    { available := known.healthy
      error := if known.healthy then none
        else some (orElse known.error "Service contract is not healthy") }
  | none =>
    Prog.rescue ((validateServicePrimitive catalog key).bind fun _ => .ret ⟨true,none⟩) fun
      | .router m => .ret ⟨false,some m⟩
      | e => .raise e

/-- A failure of the block rule of devices is kept as evidence. -/
def deviceAuthorityError : RouterProg (Option String) :=
  Prog.rescue (validateDeviceBlockPrimitive.bind fun _ => .ret none) fun
    | .router m => .ret (some m)
    | e => .raise e

/-- A service of the catalogue with the entries of its source list by address, and the state of
its contract. -/
structure ObservedService where
  key : String
  service : Service
  rows : List (String × List AddressEntry)
  contract : ContractState

/-- What the snapshot has read. -/
structure Observed where
  restricted : List (ℕ × AddressEntry)
  blocked : List AddressEntry
  slow : List AddressEntry
  queues : List SimpleQueue
  authorityError : Option String
  services : List ObservedService

/-- `by_address`. -/
def byAddress (rows : List AddressEntry) : List (String × List AddressEntry) :=
  grouped (fun row => strip row.address) rows

def queueByName (rows : List SimpleQueue) : List (String × List SimpleQueue) :=
  grouped SimpleQueue.name rows

/-- A device of the snapshot. -/
structure ObservedDevice where
  id : ℕ
  name : String
  address : String
  dynamic : Bool
  deriving DecidableEq, Repr

/-- What the snapshot says about a device. -/
inductive DeviceState
  | error (message : String)
  | live (enforcement : Enforcement) (services : ServiceEnforcement) (bandwidth : Bandwidth)
  deriving DecidableEq

structure Snapshot where
  devices : List ObservedDevice
  states : List (Ipv4 × DeviceState)

variable (address : Ipv4)

def snapshotMode (blocked slow : List AddressEntry) (slowQueues : List SimpleQueue) :
    Option Mode :=
  if blocked.isEmpty && slow.isEmpty && slowQueues.isEmpty then some .normal
  else if blocked.length=1 && slow.isEmpty && slowQueues.isEmpty then some .blocked
  else if blocked.isEmpty && slow.length=1 && slowQueues.length=1 &&
      !(slowQueues.head?.any SimpleQueue.disabled) then some .slow
  else none

def snapshotEnforcement (blocked slow : List AddressEntry) (slowQueues : List SimpleQueue) :
    Enforcement where
  address := address
  mode := snapshotMode blocked slow slowQueues
  blockedEntries := blocked.length
  slowEntries := slow.length
  slowQueues := slowQueues.length
  slowLimit := if slowQueues.length=1 then slowQueues.head?.map SimpleQueue.maxLimit else none

/-- The `problems` of the one bandwidth queue of a device. -/
def snapshotProblems (row : SimpleQueue) : List String :=
  let expected := address.text ++ "/32"
  let target := if row.target≠expected then [s!"target='{row.target}', expected '{expected}'"]
    else []
  let disabled := if row.disabled then ["queue is disabled"] else []
  let queueType := if row.queue≠"" && row.queue≠"default-small/default-small" then
    [s!"queue='{row.queue}', expected 'default-small/default-small'"] else []
  let limit := match parseMaxLimit row.maxLimit with
    | .ok _ => []
    | .error message => [message]
  target ++ disabled ++ queueType ++ limit

def snapshotBandwidth (rows : List SimpleQueue) : Bandwidth :=
  let name := address.deviceBandwidthQueueName
  match rows.head? with
  | none => { address := address, queueName := name }
  | some row =>
    if rows.length≠1 then
      { address := address, queueName := name, active := true, isValid := false
        error := some s!"Expected at most one {name} queue, found {rows.length}" }
    else
      let problems := snapshotProblems address row
      let limits := (parseMaxLimit row.maxLimit).toOption
      { address := address
        queueName := name
        active := true
        isValid := problems.isEmpty
        maxLimit := row.maxLimit
        uploadBps := limits.map Prod.fst
        downloadBps := limits.map Prod.snd
        comment := row.comment
        error := if problems.isEmpty then none else some ("; ".intercalate problems) }

/-- The state of one service of a device. -/
def ObservedService.reading (s : ObservedService) : ServiceReading :=
  let entries := groupOf address.text s.rows
  let many := 1 < entries.length
  { name := s.service.name
    available := if many then false else s.contract.available
    error := if many then
      some s!"Multiple {s.service.sourceList} entries found for {address.text}"
      else s.contract.error
    blocked := entries.length=1
    entries := entries.length }

def snapshotServices (services : List ObservedService) : ServiceEnforcement :=
  let readings := services.map fun s => (s.key,s.reading address)
  { blockedServices := sortedKeys ((readings.filter fun s => s.2.blocked).map Prod.fst)
    unavailableServices := sortedKeys ((readings.filter fun s => !s.2.available).map Prod.fst)
    services := readings }

/-- The state of one device. -/
def Observed.state (o : Observed) : DeviceState :=
  let restricted := groupOf address.text (byAddress (o.restricted.map Prod.snd))
  if (restricted.filter fun row => !row.dynamic).length≠1 then
    .error s!"{address.text} is not exactly one static {restrictedList} member"
  else match o.authorityError with
  | some message => .error message
  | none =>
    let queues := queueByName o.queues
    .live
      (snapshotEnforcement address (groupOf address.text (byAddress o.blocked))
        (groupOf address.text (byAddress o.slow)) (groupOf address.deviceSlowQueueName queues))
      (snapshotServices address o.services)
      (snapshotBandwidth address (groupOf address.deviceBandwidthQueueName queues))

/-- The devices of the snapshot, by name; `lower` is `str.lower`. -/
def Observed.devices (lower : String → String) (o : Observed) : List ObservedDevice :=
  let devices := (o.restricted.filter fun row => row.2.address≠"").map fun row =>
    { id := row.1, name := orElse row.2.comment "Unnamed device", address := row.2.address
      dynamic := row.2.dynamic : ObservedDevice }
  devices.insertionSort fun a b => ¬ lower b.name < lower a.name

/-- The loop over the devices. -/
def Observed.states (env : Environment) (o : Observed) :
    List ObservedDevice → List (Ipv4 × DeviceState) → Except Failure (List (Ipv4 × DeviceState))
  | [], states => .ok states
  | device::devices, states =>
    match validateIpv4 env device.address with
    | .error e => .error e
    | .ok address => o.states env devices (Rows.put Prod.fst (address,o.state address) states)

end Snapshot

section Reading
variable (env : Environment) (lower : String → String) (catalog : Catalog)
  (healthMap : List (String × ServiceHealth))

def observeService (s : String × Service) : RouterProg ((String × Service) ×
    List (ℕ × AddressEntry)) :=
  (entries .addressList fun e => e.list=s.2.sourceList).bind fun rows => .ret (s,rows)

def observeContract (s : (String × Service) × List (ℕ × AddressEntry)) :
    RouterProg ObservedService :=
  (contractState catalog healthMap s.1.1).bind fun contract =>
  .ret ⟨s.1.1,s.1.2,byAddress (s.2.map Prod.snd),contract⟩

/-- What `get_managed_device_observation_snapshot` reads. -/
def observe : RouterProg Observed :=
  (entries .addressList fun e => e.list=restrictedList).bind fun restricted =>
  (entries .addressList fun e => e.list=deviceBlockList).bind fun blocked =>
  (entries .addressList fun e => e.list=deviceSlowList).bind fun slow =>
  (Prog.collect catalog observeService).bind fun serviceRows =>
  (entries .queue fun _ => true).bind fun queues =>
  deviceAuthorityError.bind fun authorityError =>
  (Prog.collect serviceRows (observeContract catalog healthMap)).bind fun services =>
  .ret ⟨restricted,blocked.map Prod.snd,slow.map Prod.snd,queues.map Prod.snd,authorityError,
    services⟩

/-- `get_managed_device_observation_snapshot`. -/
def getManagedDeviceObservationSnapshot : RouterProg Snapshot :=
  connect.bind fun _ => explained "Unable to read managed-device observation snapshot" <|
    (observe catalog healthMap).bind fun o =>
    match o.states env (o.devices lower) [] with
    | .error e => .raise e
    | .ok states => .ret ⟨o.devices lower,states⟩

end Reading

section Groups
variable {r : RouterOS} {address : Ipv4}

/-- RouterOS prints the addresses of its lists without blanks around them. -/
def RouterOS.Trimmed (r : RouterOS) : Prop :=
  ∀ e ∈ r.tables.rows .addressList fun _ => true, strip e.2.address=e.2.address

lemma Ipv4.text_ne_empty (address : Ipv4) : address.text≠"" := by
  intro hempty
  have hvalid := address.valid
  rw [hempty] at hvalid
  exact absurd hvalid (by decide)

lemma filter_rows (k : Resource) (query query' : Row k → Bool) :
    ((r.tables.rows k query).map Prod.snd).filter query'=
      (r.tables.rows k fun row => query row && query' row).map Prod.snd := by
  unfold TableFamily.rows Table.select
  rw [List.filter_map,List.filter_filter]
  congr 2
  funext row
  exact Bool.and_comm _ _

/-- The rows of a list that are grouped under the address of a device are its entries. -/
lemma groupOf_byAddress (h : r.Trimmed) (list : String) (address : Ipv4) :
    groupOf address.text
        (byAddress ((r.tables.rows .addressList fun e => e.list=list).map Prod.snd))=
      (r.listed list address).map Prod.snd := by
  rw [byAddress,groupOf_grouped _ address.text_ne_empty]
  refine (filter_rows (r:=r) .addressList _ _).trans ?_
  unfold RouterOS.listed TableFamily.rows Table.select
  refine congrArg (List.map Prod.snd) (List.filter_congr fun row hrow => ?_)
  have htrim : strip row.2.address=row.2.address :=
    h row (List.mem_filter.mpr ⟨hrow,rfl⟩)
  change (decide (row.2.list=list) && decide (strip row.2.address=address.text))=_
  rw [htrim]
  rfl

lemma groupOf_queueByName {name : String} (hname : name≠"") :
    groupOf name (queueByName ((r.tables.rows .queue fun _ => true).map Prod.snd))=
      (r.queues name).map Prod.snd := by
  rw [queueByName,groupOf_grouped _ hname]
  exact filter_rows (r:=r) .queue _ _

end Groups

section Modes
variable (address : Ipv4)

/-- The snapshot classifies every number of entries and queues as the reader does. -/
lemma snapshotMode_eq (blocked slow : List AddressEntry) (queues : List SimpleQueue) :
    snapshotMode blocked slow queues=liveMode blocked.length slow.length queues := by
  unfold snapshotMode liveMode
  match blocked,slow,queues with
  | [],[],[] => rfl
  | [_],[],[] => rfl
  | _::_::_,[],[] => rfl
  | [],[_],[] => rfl
  | [],[_],[queue] => cases hdisabled : queue.disabled <;> simp [hdisabled]
  | [],[_],_::_::_ => simp
  | [],[],_::_ => simp
  | [],_::_::_,_ => simp
  | _::_,_::_,_ => simp
  | _::_,[],_::_ => simp

lemma snapshotEnforcement_eq (r : RouterOS) :
    snapshotEnforcement address ((r.listed deviceBlockList address).map Prod.snd)
      ((r.listed deviceSlowList address).map Prod.snd)
      ((r.queues address.deviceSlowQueueName).map Prod.snd)=r.enforcement address := by
  unfold snapshotEnforcement RouterOS.enforcement
  simp only [snapshotMode_eq,List.length_map]
  congr 1
  match r.queues address.deviceSlowQueueName with
  | [] => rfl
  | [(_,_)] => rfl
  | _::_::_ => simp

lemma snapshotBandwidth_eq (rows : List SimpleQueue) :
    snapshotBandwidth address rows=bandwidthOf address rows := by
  have hproblems (row : SimpleQueue) : snapshotProblems address row=queueProblems address row := by
    unfold snapshotProblems queueProblems
    cases parseMaxLimit row.maxLimit <;> simp
  match rows with
  | [] => rfl
  | [row] =>
    unfold snapshotBandwidth bandwidthOf
    simp [hproblems]
  | _::_::_ => simp [snapshotBandwidth,bandwidthOf]

end Modes

section Agreement
variable {s : System} {env : Environment} {lower : String → String} {catalog : Catalog}
  {address : Ipv4}

lemma exec_contractState (key : String) : exec (contractState catalog [] key) s=
    (.ok ⟨(s.router.contractFailure catalog key).isNone,s.router.contractFailure catalog key⟩,
      s) := by
  have hvalidate := exec_validateServicePrimitive catalog key s
  unfold contractState
  rw [List.lookup_nil]
  refine (Prog.run_rescue _ _ _ _).trans ?_
  cases hfailure : s.router.contractFailure catalog key with
  | none =>
    rw [hfailure] at hvalidate
    rw [show Prog.run _ (Prog.bind _ _) s=_ from exec_bind_ok hvalidate]
    rfl
  | some m =>
    rw [hfailure] at hvalidate
    rw [show Prog.run _ (Prog.bind _ _) s=_ from exec_bind_error hvalidate]
    rfl

lemma exec_contractError (key : String) : exec (contractError catalog key) s=
    (.ok (s.router.contractFailure catalog key),s) := by
  have hvalidate := exec_validateServicePrimitive catalog key s
  refine (Prog.run_rescue _ _ _ _).trans ?_
  cases hfailure : s.router.contractFailure catalog key with
  | none =>
    rw [hfailure] at hvalidate
    rw [show Prog.run _ (Prog.bind _ _) s=_ from exec_bind_ok hvalidate]
    rfl
  | some m =>
    rw [hfailure] at hvalidate
    rw [show Prog.run _ (Prog.bind _ _) s=_ from exec_bind_error hvalidate]
    rfl

lemma exec_deviceAuthorityError : ∃ e, exec deviceAuthorityError s=(.ok e,s) ∧
    (e=none ↔ s.router.DeviceBlockValid) := by
  by_cases hvalid : s.router.DeviceBlockValid
  · refine ⟨none,(Prog.run_rescue _ _ _ _).trans ?_,iff_of_true rfl hvalid⟩
    rw [show Prog.run _ (Prog.bind _ _) s=_ from
      exec_bind_ok (exec_validateDeviceBlockPrimitive hvalid)]
    rfl
  · obtain ⟨m,hm⟩ := exec_validateDeviceBlockPrimitive_of_not hvalid
    refine ⟨some m,(Prog.run_rescue _ _ _ _).trans ?_,iff_of_false (by simp) hvalid⟩
    rw [show Prog.run _ (Prog.bind _ _) s=_ from exec_bind_error hm]
    rfl

/-- What the snapshot reads from RouterOS. -/
def RouterOS.observation (r : RouterOS) (catalog : Catalog) (authorityError : Option String) :
    Observed where
  restricted := r.tables.rows .addressList fun e => e.list=restrictedList
  blocked := (r.tables.rows .addressList fun e => e.list=deviceBlockList).map Prod.snd
  slow := (r.tables.rows .addressList fun e => e.list=deviceSlowList).map Prod.snd
  queues := (r.tables.rows .queue fun _ => true).map Prod.snd
  authorityError := authorityError
  services := catalog.map fun s =>
    ⟨s.1,s.2,byAddress ((r.tables.rows .addressList fun e => e.list=s.2.sourceList).map Prod.snd),
      ⟨(r.contractFailure catalog s.1).isNone,r.contractFailure catalog s.1⟩⟩

lemma exec_observe : ∃ e, (e=none ↔ s.router.DeviceBlockValid) ∧
    exec (observe catalog []) s=(.ok (s.router.observation catalog e),s) := by
  obtain ⟨e,he,hvalid⟩ := @exec_deviceAuthorityError s
  refine ⟨e,hvalid,?_⟩
  unfold observe
  have hservice (x : String × Service) : exec (observeService x) s=
      (.ok (x,s.router.tables.rows .addressList fun e => e.list=x.2.sourceList),s) := by
    unfold observeService
    rw [exec_bind_ok (exec_entries _ _ s)]
    rfl
  have hcontract (x : (String × Service) × List (ℕ × AddressEntry)) :
      exec (observeContract catalog [] x) s=(.ok ⟨x.1.1,x.1.2,byAddress (x.2.map Prod.snd),
        ⟨(s.router.contractFailure catalog x.1.1).isNone,
          s.router.contractFailure catalog x.1.1⟩⟩,s) := by
    unfold observeContract
    rw [exec_bind_ok (exec_contractState x.1.1)]
    rfl
  rw [exec_bind_ok (exec_entries _ _ s),exec_bind_ok (exec_entries _ _ s),
    exec_bind_ok (exec_entries _ _ s),exec_bind_ok (exec_collect hservice),
    exec_bind_ok (exec_entries _ _ s),exec_bind_ok he,exec_bind_ok (exec_collect hcontract)]
  rw [List.map_map]
  rfl

/-- The loop over the devices gives each address its state. -/
lemma state_of_mem (o : Observed) (devices : List ObservedDevice)
    (states states' : List (Ipv4 × DeviceState)) (h : o.states env devices states=.ok states')
    (hstates : ∀ x ∈ states, x.2=o.state x.1) : ∀ x ∈ states', x.2=o.state x.1 := by
  induction devices generalizing states with
  | nil =>
    obtain rfl := Except.ok.inj h
    exact hstates
  | cons device devices ih =>
    unfold Observed.states at h
    cases hvalid : validateIpv4 env device.address with
    | error e => rw [hvalid] at h; cases h
    | ok address =>
      rw [hvalid] at h
      refine ih _ h fun x hx => ?_
      clear h
      induction states with
      | nil =>
        rw [List.mem_singleton.mp hx]
      | cons y states ih' =>
        unfold put at hx
        split_ifs at hx with hsame
        · rcases List.mem_cons.mp hx with rfl | hx
          · rfl
          · exact hstates x (List.mem_cons_of_mem y hx)
        · rcases List.mem_cons.mp hx with rfl | hx
          · exact hstates x List.mem_cons_self
          · exact ih' (fun z hz => hstates z (List.mem_cons_of_mem y hz)) hx

lemma exec_getDeviceBandwidth (hmanaged : s.router.Managed address) :
    exec (getDeviceBandwidth address) s=(.ok (bandwidthOf address
      ((s.router.queues address.deviceBandwidthQueueName).map Prod.snd)),s) := by
  unfold getDeviceBandwidth
  rw [exec_bind_ok (exec_connect s)]
  refine exec_explained _ ?_
  unfold queuesNamed
  rw [exec_bind_ok (exec_validateRestrictedDevice hmanaged),exec_bind_ok (exec_entries _ _ s)]
  rfl

/-- The state of a service that its reader returns. -/
def RouterOS.serviceReading (r : RouterOS) (catalog : Catalog) (address : Ipv4)
    (x : String × Service) : String × ServiceReading :=
  (x.1,Router.serviceReading address x.2 (r.contractFailure catalog x.1)
    (r.listed x.2.sourceList address).length)

lemma exec_getDeviceServiceEnforcement (hmanaged : s.router.Managed address) :
    exec (getDeviceServiceEnforcement catalog address) s=
      (.ok (serviceReply (catalog.map (s.router.serviceReading catalog address))),s) := by
  unfold getDeviceServiceEnforcement
  have hread (x : String × Service) : exec (readService catalog address x) s=
      (.ok (s.router.serviceReading catalog address x),s) := by
    unfold readService listEntries
    rw [exec_bind_ok (exec_contractError x.1),exec_bind_ok (exec_entries _ _ s)]
    rfl
  rw [exec_bind_ok (exec_connect s)]
  refine exec_explained _ ?_
  rw [exec_bind_ok (exec_validateRestrictedDevice hmanaged),exec_bind_ok (exec_collect hread)]
  rfl

/-- The snapshot classifies the entries and the contract of a service as the reader does. -/
lemma reading_eq (r : RouterOS) (htrimmed : r.Trimmed) (x : String × Service) :
    let rows := (r.tables.rows .addressList fun e => e.list=x.2.sourceList).map Prod.snd
    let failure := r.contractFailure catalog x.1
    (ObservedService.mk x.1 x.2 (byAddress rows) ⟨failure.isNone,failure⟩).reading address=
      serviceReading address x.2 failure (r.listed x.2.sourceList address).length := by
  dsimp only
  unfold ObservedService.reading serviceReading
  dsimp only
  rw [groupOf_byAddress htrimmed,List.length_map]
  by_cases hmany : 1<(r.listed x.2.sourceList address).length
  · simp [hmany,Nat.not_le.mpr hmany]
  · simp [hmany,Nat.not_lt.mp hmany]

/-- A state of the snapshot against the readers of the device: it holds what they return, and it
is an error where one of them raises. -/
def AgreesWithReaders (catalog : Catalog) (s : System) (address : Ipv4) : DeviceState → Prop
  | .live enforcement services bandwidth =>
    exec (getDeviceEnforcement address) s=(.ok enforcement,s) ∧
    exec (getDeviceServiceEnforcement catalog address) s=(.ok services,s) ∧
    exec (getDeviceBandwidth address) s=(.ok bandwidth,s)
  | .error _ =>
    (∃ e, (exec (getDeviceEnforcement address) s).1=.error e) ∨
    (∃ e, (exec (getDeviceServiceEnforcement catalog address) s).1=.error e) ∨
    ∃ e, (exec (getDeviceBandwidth address) s).1=.error e

lemma agrees_observation (htrimmed : s.router.Trimmed) {e : Option String}
    (he : e=none ↔ s.router.DeviceBlockValid) (address : Ipv4) :
    AgreesWithReaders catalog s address ((s.router.observation catalog e).state address) := by
  have hmanaged : ((groupOf address.text (byAddress
      ((s.router.observation catalog e).restricted.map Prod.snd))).filter
        fun row => !row.dynamic).length=1 ↔ s.router.Managed address := by
    unfold RouterOS.observation RouterOS.Managed
    dsimp only
    rw [groupOf_byAddress htrimmed,List.filter_map,List.length_map]
    rfl
  unfold Observed.state
  dsimp only
  split_ifs with hone
  · have hnot : ¬(s.router.DeviceBlockValid ∧ s.router.Managed address) :=
      fun h => hone (hmanaged.mpr h.2)
    obtain ⟨m,hm⟩ := exec_getDeviceEnforcement_of_not hnot
    exact .inl ⟨_,congrArg Prod.fst hm⟩
  · have hdevice := hmanaged.mp (not_not.mp hone)
    cases e with
    | some message =>
      have hnot : ¬(s.router.DeviceBlockValid ∧ s.router.Managed address) :=
        fun h => by simpa using he.mpr h.1
      obtain ⟨m,hm⟩ := exec_getDeviceEnforcement_of_not hnot
      exact .inl ⟨_,congrArg Prod.fst hm⟩
    | none =>
      have hslow : address.deviceSlowQueueName≠"" := by simp [Ipv4.deviceSlowQueueName]
      have hband : address.deviceBandwidthQueueName≠"" := by
        simp [Ipv4.deviceBandwidthQueueName]
      refine ⟨?_,?_,?_⟩
      · rw [exec_getDeviceEnforcement (he.mp rfl) hdevice,← snapshotEnforcement_eq]
        unfold RouterOS.observation
        dsimp only
        rw [groupOf_byAddress htrimmed,groupOf_byAddress htrimmed,groupOf_queueByName hslow]
      · have hreadings : ((s.router.observation catalog none).services.map
            fun x => (x.key,x.reading address))=
              catalog.map (s.router.serviceReading catalog address) := by
          unfold RouterOS.observation
          rw [List.map_map]
          refine List.map_congr_left fun x _ => Prod.ext rfl ?_
          exact reading_eq s.router htrimmed x
        rw [exec_getDeviceServiceEnforcement hdevice,snapshotServices,hreadings]
        rfl
      · rw [exec_getDeviceBandwidth hdevice,snapshotBandwidth_eq]
        unfold RouterOS.observation
        dsimp only
        rw [groupOf_queueByName hband]

/-- The bulk observation agrees with the readers of each device that it reports. -/
theorem snapshot_agrees (htrimmed : s.router.Trimmed) {snapshot : Snapshot} {s' : System}
    (h : exec (getManagedDeviceObservationSnapshot env lower catalog []) s=(.ok snapshot,s')) :
    s'=s ∧ ∀ address state, (address,state) ∈ snapshot.states →
      AgreesWithReaders catalog s address state := by
  obtain ⟨e,he,hobserve⟩ := @exec_observe s catalog
  unfold getManagedDeviceObservationSnapshot at h
  rw [exec_bind_ok (exec_connect s),show exec (explained _ _) s=_ from Prog.run_rescue _ _ _ _,
    show Prog.run _ (Prog.bind _ _) s=_ from exec_bind_ok hobserve] at h
  have hagrees (address : Ipv4) : AgreesWithReaders catalog s address
      ((s.router.observation catalog e).state address) := agrees_observation htrimmed he address
  generalize s.router.observation catalog e=o at h hagrees
  cases hstates : o.states env (o.devices lower) [] with
  | error failure =>
    rw [hstates] at h
    cases failure <;> cases h
  | ok states =>
    rw [hstates] at h
    obtain ⟨hsnapshot,hsame⟩ := Prod.mk.inj h
    obtain rfl := Except.ok.inj hsnapshot
    refine ⟨hsame.symm,fun address state hmem => ?_⟩
    have hstate : state=o.state address := state_of_mem o _ _ _ hstates (by simp) _ hmem
    exact hstate ▸ hagrees address

/-- A blocked device behind the rules of the catalogue. -/
def blockedRouter : RouterOS where
  filter := readyRouter.filter
  tables
    | .addressList => (Table.empty.insert
        { list := restrictedList, address := "192.168.88.20" }).insert
        { list := deviceBlockList, address := "192.168.88.20" }
    | k => readyRouter.tables k

/-- The snapshot of that device holds what its readers return. -/
theorem snapshot_agrees_blocked : ∃ states : List (Ipv4 × DeviceState), states.length=1 ∧
    ∀ address state, (address,state) ∈ states → AgreesWithReaders (serviceEnforcement.take 1)
      { router := blockedRouter } address state := by
  have hread : ((exec (getManagedDeviceObservationSnapshot {} id (serviceEnforcement.take 1) [])
      { router := blockedRouter }).1.toOption.any fun x => x.states.length=1)=true := by decide
  match hrun : exec (getManagedDeviceObservationSnapshot {} id (serviceEnforcement.take 1) [])
      { router := blockedRouter } with
  | (.error e,s') => rw [hrun] at hread; cases hread
  | (.ok snapshot,s') =>
    rw [hrun] at hread
    exact ⟨snapshot.states,of_decide_eq_true hread,
      (snapshot_agrees (s:={ router := blockedRouter }) (by unfold RouterOS.Trimmed; decide)
        hrun).2⟩

end Agreement
end ZenControl.Router
