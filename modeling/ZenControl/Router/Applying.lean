import ZenControl.Router.Integrity
import ZenControl.Router.Snapshot
import ZenControl.Router.Transitions

/-! `set_device_bandwidth` and `set_device_services` when no call fails: what they need, and what
they leave on RouterOS. -/
namespace ZenControl.Router
open Calls Requests Rows

section Bandwidth
variable {env : Environment} {address : Ipv4} {description preset upload download : String}
  {limit : Option String} {s : System}

/-- The tables after `writeBandwidth`. -/
def bandwidthWritten (address : Ipv4) (preset : String) (limit : Option String)
    (description : String) (t : TableFamily Row) : TableFamily Row :=
  match limit with
  | none => t.without .queue (isQueue address.deviceBandwidthQueueName)
  | some limit => queueEstablished address address.deviceBandwidthQueueName limit
      (described description ("MC - Policy Bandwidth - preset:" ++ preset)) t

lemma exec_writeBandwidth : exec (writeBandwidth address preset limit description) s=
    (.ok (),s.withTables (bandwidthWritten address preset limit description s.router.tables)) := by
  unfold writeBandwidth queuesNamed bandwidthWritten
  rw [exec_bind_ok (exec_entries _ _ s)]
  cases limit with
  | none => exact exec_removing ..
  | some limit => exact exec_setQueue

/-- The writer of bandwidth leaves the other tables alone. -/
lemma bandwidthWritten_of_ne {k : Resource} (h : k≠.queue) (t : TableFamily Row) :
    bandwidthWritten address preset limit description t k=t k := by
  unfold bandwidthWritten
  cases limit with
  | none => exact TableFamily.without_of_ne h _
  | some limit => exact queueEstablished_of_ne h

lemma queuesIn_bandwidthWritten_ne {name : String} (h : name≠address.deviceBandwidthQueueName)
    (t : TableFamily Row) :
    queuesIn (bandwidthWritten address preset limit description t) name=queuesIn t name := by
  unfold bandwidthWritten
  cases limit with
  | none => exact queuesIn_without_ne h
  | some limit => exact rows_queueEstablished_of_ne h

lemma kept_bandwidthWritten (t : TableFamily Row) :
    Kept env t (bandwidthWritten address preset limit description t) := by
  unfold bandwidthWritten
  cases limit with
  | none => exact kept_without_queue (slowQueueName_ne_bandwidth address)
  | some limit =>
    exact kept_queueEstablished (slowQueueName_ne_bandwidth address) address.queueIpv4_bandwidth

/-- What is read back behind the writer. -/
lemma bandwidthOf_written (t : TableFamily Row) :
    bandwidthOf address ((queuesIn (bandwidthWritten address preset limit description t)
      address.deviceBandwidthQueueName).map Prod.snd)=bandwidthOf address
        (limit.toList.map fun limit => deviceQueue address address.deviceBandwidthQueueName limit
          (described description ("MC - Policy Bandwidth - preset:" ++ preset))) := by
  unfold bandwidthWritten
  cases limit with
  | none =>
    dsimp only
    rw [queuesIn_without_self]
    rfl
  | some limit =>
    dsimp only
    rw [show List.map Prod.snd _=_ from rows_queueEstablished]
    rfl

/-- A limit that RouterOS can be given: none, or one that is read. -/
def Readable (limit : Option String) : Prop := ∀ l ∈ limit, (parseMaxLimit l).isOk

lemma limitsEqual_self {l : String} (h : (parseMaxLimit l).isOk) : limitsEqual l l=true := by
  have hne : l≠"" := by
    rintro rfl
    cases h
  unfold limitsEqual
  rw [if_neg (by simp [hne])]
  cases hparsed : parseMaxLimit l with
  | error e =>
    rw [hparsed] at h
    cases h
  | ok _ => exact decide_eq_true rfl

/-- A queue of the writer has problems only with its limit. -/
lemma queueProblems_deviceQueue (name l comment : String) :
    queueProblems address (deviceQueue address name l comment)=
      match parseMaxLimit l with
      | .error e => [e]
      | .ok _ => [] := by
  unfold queueProblems deviceQueue
  cases parseMaxLimit l <;> simp

/-- The queue that is read back is accepted exactly where its limit is readable. -/
lemma bandwidthReply_iff (address : Ipv4) (limit : Option String) (comment : String) :
    (∃ result, bandwidthReply address limit (bandwidthOf address (limit.toList.map fun l =>
      deviceQueue address address.deviceBandwidthQueueName l comment))=.ok result) ↔
    Readable limit := by
  cases limit with
  | none => exact iff_of_true ⟨_,rfl⟩ nofun
  | some l =>
    have hproblems := @queueProblems_deviceQueue address address.deviceBandwidthQueueName l comment
    have hreadable : Readable (some l) ↔ (parseMaxLimit l).isOk=true :=
      ⟨fun h => h l rfl,fun h l' hl' => Option.some.inj hl' ▸ h⟩
    rw [hreadable]
    unfold bandwidthReply bandwidthOf
    simp only [Option.toList_some,List.map_cons,List.map_nil,hproblems]
    cases hparsed : parseMaxLimit l with
    | error e => exact iff_of_false (by simp) nofun
    | ok rates =>
      have hequal : limitsEqual l l=true := limitsEqual_self (by rw [hparsed]; rfl)
      refine iff_of_true ?_ rfl
      simp [deviceQueue,hequal]

lemma managed_congr {r r' : RouterOS} (h : r'.tables .addressList=r.tables .addressList) :
    r'.Managed address ↔ r.Managed address := by
  unfold RouterOS.Managed RouterOS.listed
  rw [TableFamily.rows_congr h]

/-- The state after the bandwidth was set. -/
def System.limited (s : System) (address : Ipv4) (preset : String) (limit : Option String)
    (description : String) : System :=
  { s.passed with
    router := s.router.withTables (bandwidthWritten address preset limit description
      s.router.tables) }

lemma listedIn_limited (list : String) (device : Ipv4) :
    listedIn (s.limited address preset limit description).router.tables list device=
      listedIn s.router.tables list device :=
  TableFamily.rows_congr (bandwidthWritten_of_ne (by decide) _) _

lemma modeIn_limited : modeIn (s.limited address preset limit description).router.tables address=
    modeIn s.router.tables address := by
  have hslow : queuesIn (s.limited address preset limit description).router.tables
      address.deviceSlowQueueName=queuesIn s.router.tables address.deviceSlowQueueName :=
    queuesIn_bandwidthWritten_ne (bandwidthQueueName_ne address).symm _
  unfold modeIn
  rw [listedIn_limited,listedIn_limited,hslow]

/-- `set_device_bandwidth` behind its checks of the arguments. -/
lemma exec_limiting (hgate : s.PassesGate env) (hmanaged : s.router.Managed address) :
    exec (serialized <| (requirePolicyWriteGate env).bind fun _ => connect.bind fun _ =>
      (explained s!"Unable to set device bandwidth for {address.text}" <|
        (validateRestrictedDevice address).bind fun _ =>
        writeBandwidth address preset limit description).bind fun _ =>
      (getDeviceBandwidth address).bind fun result =>
        match bandwidthReply address limit result with
        | .ok result => .ret result
        | .error e => .raise e) s=
    (bandwidthReply address limit (bandwidthOf address (limit.toList.map fun l =>
      deviceQueue address address.deviceBandwidthQueueName l
        (described description ("MC - Policy Bandwidth - preset:" ++ preset)))),
      s.limited address preset limit description) := by
  let entered := System.passed { s with lane := s.lane+1 }
  let after := entered.withTables (bandwidthWritten address preset limit description
    entered.router.tables)
  have hgate' : System.PassesGate env { s with lane := s.lane+1 } := hgate
  have hmember : entered.router.Managed address := hmanaged
  have hmember' : after.router.Managed address :=
    (managed_congr (bandwidthWritten_of_ne (by decide) _)).mpr hmember
  have hbody : exec (explained s!"Unable to set device bandwidth for {address.text}" <|
      (validateRestrictedDevice address).bind fun _ =>
      writeBandwidth address preset limit description) entered=(.ok (),after) := by
    refine exec_explained _ ?_
    rw [exec_bind_ok (exec_validateRestrictedDevice hmember)]
    exact exec_writeBandwidth
  have hread : bandwidthOf address
      ((after.router.queues address.deviceBandwidthQueueName).map Prod.snd)=_ :=
    bandwidthOf_written s.router.tables
  refine exec_serialized (t:=s.limited address preset limit description) ?_
  rw [exec_bind_ok (exec_requirePolicyWriteGate hgate'),exec_bind_ok (exec_connect _),
    exec_bind_ok hbody,exec_bind_ok (exec_getDeviceBandwidth hmember'),hread]
  cases bandwidthReply address limit _ <;> rfl

variable (hgate : s.PassesGate env) (hmanaged : s.router.Managed address)
  (hlimit : presetLimit (nocase (strip preset)) upload download=.ok limit)
include hgate hmanaged hlimit

lemma exec_setDeviceBandwidth (hkey : isPresetKey (nocase (strip preset)))
    (hreadable : Readable limit) :
    ∃ result, exec (setDeviceBandwidth env address preset upload download description) s=
      (.ok result,s.limited address (nocase (strip preset)) limit
        (clip (strip description) 50)) := by
  obtain ⟨result,hresult⟩ := (bandwidthReply_iff address limit (described
    (clip (strip description) 50) ("MC - Policy Bandwidth - preset:" ++
      nocase (strip preset)))).mpr hreadable
  have hexec := @exec_limiting env address (clip (strip description) 50) (nocase (strip preset))
    limit s hgate hmanaged
  rw [hresult] at hexec
  refine ⟨result,Eq.trans ?_ hexec⟩
  unfold setDeviceBandwidth
  dsimp only
  rw [hkey,hlimit]
  rfl

/-- Otherwise it raises. -/
lemma exec_setDeviceBandwidth_of_not
    (h : ¬(isPresetKey (nocase (strip preset)) ∧ Readable limit)) :
    ∃ e s', exec (setDeviceBandwidth env address preset upload download description) s=
      (.error e,s') := by
  unfold setDeviceBandwidth
  dsimp only
  by_cases hkey : isPresetKey (nocase (strip preset))=true
  · have hnot := mt (bandwidthReply_iff address limit (described (clip (strip description) 50)
      ("MC - Policy Bandwidth - preset:" ++ nocase (strip preset)))).mp fun hr => h ⟨hkey,hr⟩
    have hexec := @exec_limiting env address (clip (strip description) 50) (nocase (strip preset))
      limit s hgate hmanaged
    cases hreply : bandwidthReply address limit (bandwidthOf address (limit.toList.map fun l =>
        deviceQueue address address.deviceBandwidthQueueName l (described
          (clip (strip description) 50) ("MC - Policy Bandwidth - preset:" ++
            nocase (strip preset))))) with
    | ok result => exact absurd ⟨result,hreply⟩ hnot
    | error e =>
      rw [hreply] at hexec
      refine ⟨e,_,Eq.trans ?_ hexec⟩
      rw [hkey,hlimit]
      rfl
  · rw [Bool.eq_false_iff.mpr hkey]
    exact ⟨_,_,exec_serialized (o:=.error _) (t:=s) rfl⟩

end Bandwidth

section Services
variable {env : Environment} {catalog : Catalog} {address : Ipv4} {description : String}
  {desired : List String} {s : System} {t : TableFamily Row}

/-- The tables after `blockService`. -/
def serviceBlocked (address : Ipv4) (description : String) (t : TableFamily Row)
    (x : String × Service) : TableFamily Row :=
  (t.without .addressList (inList x.2.sourceList address)).adding .addressList
    (blockEntry address description x)

/-- The tables without the entries of a service. -/
def serviceReleased (address : Ipv4) (t : TableFamily Row) (x : String × Service) :
    TableFamily Row :=
  t.without .addressList (inList x.2.sourceList address)

/-- The tables after the entries for services were written. -/
def servicesWritten (catalog : Catalog) (address : Ipv4) (desired : List String)
    (description : String) (t : TableFamily Row) : TableFamily Row :=
  (releasing catalog address desired t).foldl (serviceReleased address)
    ((blocking catalog address desired t).foldl (serviceBlocked address description) t)

/-- What a write for a service leaves alone. -/
structure ServiceWrite (step : TableFamily Row → String × Service → TableFamily Row) : Prop where
  tables : ∀ {k}, k≠Resource.addressList → ∀ t x, step t x k=t k
  lists : ∀ {list : String} {x : String × Service}, list≠x.2.sourceList → ∀ t device,
    listedIn (step t x) list device=listedIn t list device
  kept : ∀ env t x, Kept env t (step t x)

lemma listed_disjoint {list list' : String} (h : list≠list') (device : Ipv4) (e : AddressEntry)
    (he : inList list device e) : inList list' address e=false := by
  have hlist : e.list=list := by
    simp only [inList,Bool.and_eq_true,decide_eq_true_eq] at he
    exact he.1
  simp [inList,hlist,h]

lemma write_blocked (address : Ipv4) (description : String) :
    ServiceWrite (serviceBlocked address description) where
  tables h t x := by
    unfold serviceBlocked
    rw [TableFamily.adding_of_ne h,TableFamily.without_of_ne h]
  lists h t device := by
    unfold listedIn serviceBlocked
    rw [TableFamily.rows_adding_of_not (by simp [inList,blockEntry,h.symm]),
      TableFamily.rows_without_disjoint (listed_disjoint h device)]
  kept _ _ _ := (kept_without_addressList _).trans
    (kept_adding_addressList rfl (listedIn_without_self _))

lemma write_released (address : Ipv4) : ServiceWrite (serviceReleased address) where
  tables h _ _ := TableFamily.without_of_ne h _
  lists h _ device := TableFamily.rows_without_disjoint (listed_disjoint h device)
  kept _ _ _ := kept_without_addressList _

lemma listedIn_serviceBlocked (x : String × Service) (t : TableFamily Row) :
    (listedIn (serviceBlocked address description t x) x.2.sourceList address).length=1 := by
  have hquery : inList x.2.sourceList address (blockEntry address description x)=true := by
    simp [inList,blockEntry]
  unfold listedIn serviceBlocked
  rw [TableFamily.rows_adding,if_pos hquery,TableFamily.rows_without_self]
  rfl

lemma listedIn_serviceReleased (x : String × Service) (t : TableFamily Row) :
    (listedIn (serviceReleased address t x) x.2.sourceList address).length=0 :=
  congrArg List.length (listedIn_without_self _)

namespace ServiceWrite
variable {step : TableFamily Row → String × Service → TableFamily Row} (h : ServiceWrite step)
include h

lemma fold_tables {k : Resource} (hk : k≠.addressList) (xs : Catalog) (t : TableFamily Row) :
    xs.foldl step t k=t k := by
  induction xs generalizing t with
  | nil => rfl
  | cons x xs ih => exact (ih _).trans (h.tables hk t x)

lemma fold_lists {xs : Catalog} {list : String} (hlist : list ∉ xs.map fun x => x.2.sourceList)
    (t : TableFamily Row) (device : Ipv4) :
    listedIn (xs.foldl step t) list device=listedIn t list device := by
  induction xs generalizing t with
  | nil => rfl
  | cons x xs ih =>
    rw [List.map_cons,List.mem_cons,not_or] at hlist
    exact (ih hlist.2 _).trans (h.lists hlist.1 t device)

lemma fold_kept (env : Environment) (xs : Catalog) (t : TableFamily Row) :
    Kept env t (xs.foldl step t) := by
  induction xs generalizing t with
  | nil => exact Kept.refl env t
  | cons x xs ih => exact (h.kept env t x).trans (ih _)

/-- The entries of a service are those that its own write left. -/
lemma fold_mem {xs : Catalog} (hlists : (xs.map fun x => x.2.sourceList).Nodup)
    {x : String × Service} (hx : x ∈ xs) {n : ℕ}
    (hwrite : ∀ t, (listedIn (step t x) x.2.sourceList address).length=n) (t : TableFamily Row) :
    (listedIn (xs.foldl step t) x.2.sourceList address).length=n := by
  induction xs generalizing t with
  | nil => cases hx
  | cons y xs ih =>
    obtain ⟨hnew,hlists⟩ := List.nodup_cons.mp hlists
    rcases List.mem_cons.mp hx with rfl | hx
    · rw [List.foldl_cons,h.fold_lists hnew]
      exact hwrite t
    · exact ih hlists hx _

end ServiceWrite

lemma servicesWritten_of_ne {k : Resource} (h : k≠.addressList) :
    servicesWritten catalog address desired description t k=t k :=
  ((write_released address).fold_tables h _ _).trans
    ((write_blocked address description).fold_tables h _ _)

lemma kept_servicesWritten :
    Kept env t (servicesWritten catalog address desired description t) :=
  ((write_blocked address description).fold_kept env _ _).trans
    ((write_released address).fold_kept env _ _)

/-- Lists of no service stay as they are. -/
lemma listedIn_servicesWritten_other {list : String}
    (h : list ∉ catalog.map fun x => x.2.sourceList) (device : Ipv4) :
    listedIn (servicesWritten catalog address desired description t) list device=
      listedIn t list device := by
  have hout (p : String × Service → Bool) :
      list ∉ (catalog.filter p).map fun x => x.2.sourceList := fun hmem =>
    h ((List.filter_sublist.map _).subset hmem)
  exact ((write_released address).fold_lists (hout _) _ device).trans
    ((write_blocked address description).fold_lists (hout _) _ device)

/-- Each service has one entry if it shall be blocked, and none otherwise. -/
lemma listedIn_servicesWritten (hlists : (catalog.map fun x => x.2.sourceList).Nodup)
    {x : String × Service} (hx : x ∈ catalog) :
    (listedIn (servicesWritten catalog address desired description t)
      x.2.sourceList address).length=if desired.contains x.1 then 1 else 0 := by
  have hpart (p : String × Service → Bool) :
      ((catalog.filter p).map fun x => x.2.sourceList).Nodup :=
    hlists.sublist (List.filter_sublist.map _)
  have hout (p : String × Service → Bool) (hp : p x=false) :
      x.2.sourceList ∉ (catalog.filter p).map fun x => x.2.sourceList := by
    intro hmem
    obtain ⟨y,hy,hlist⟩ := List.mem_map.mp hmem
    obtain ⟨hy,hpy⟩ := List.mem_filter.mp hy
    rw [List.inj_on_of_nodup_map hlists hy hx hlist,hp] at hpy
    cases hpy
  have hblocked := write_blocked address description
  have hreleased := write_released address
  unfold servicesWritten
  cases hneeds : needsChange address desired t x with
  | false =>
    have hnone (b : Bool) : (b && needsChange address desired t x)=false := by
      rw [hneeds,Bool.and_false]
    rw [releasing,hreleased.fold_lists (hout _ (hnone _)),blocking,
      hblocked.fold_lists (hout _ (hnone _))]
    exact not_not.mp (of_decide_eq_false hneeds)
  | true =>
    by_cases hdesired : desired.contains x.1=true
    · rw [if_pos hdesired,releasing,hreleased.fold_lists (hout _ (by rw [hdesired]; rfl))]
      exact hblocked.fold_mem (hpart _) (List.mem_filter.mpr ⟨hx,by rw [hdesired,hneeds]; rfl⟩)
        (listedIn_serviceBlocked x) t
    · rw [if_neg hdesired]
      exact hreleased.fold_mem (hpart _) (List.mem_filter.mpr
        ⟨hx,by rw [Bool.eq_false_iff.mpr hdesired,hneeds]; rfl⟩) (listedIn_serviceReleased x) _

/-- Removing the entries that were found for a list. -/
lemma exec_removeEntries (list : String) :
    exec (removeEntries (listedIn s.router.tables list address)) s=
      (.ok (),s.withTables (s.router.tables.without .addressList (inList list address))) :=
  (exec_bind_ok (exec_entries _ _ s)).symm.trans (exec_removing ..)

/-- One service after the other is blocked. -/
lemma exec_blockServices {xs : Catalog} (hlists : (xs.map fun x => x.2.sourceList).Nodup)
    (hsame : ∀ x ∈ xs, listedIn s.router.tables x.2.sourceList address=
      listedIn t x.2.sourceList address) :
    exec (Prog.forEach (xs.map (plannedService address desired t))
      (blockService address description)) s=(.ok (),s.withTables
        (xs.foldl (serviceBlocked address description) s.router.tables)) := by
  induction xs generalizing s with
  | nil => rfl
  | cons x xs ih =>
    obtain ⟨hnew,hlists⟩ := List.nodup_cons.mp hlists
    let after := s.withTables (serviceBlocked address description s.router.tables x)
    have hone : exec (blockService address description (plannedService address desired t x)) s=
        (.ok (),after) := by
      unfold blockService plannedService
      rw [← hsame x List.mem_cons_self,exec_bind_ok (exec_removeEntries x.2.sourceList)]
      exact exec_adding ..
    have hrest := @ih after hlists fun y hy => by
      have hother : y.2.sourceList≠x.2.sourceList := fun heq =>
        hnew (List.mem_map.mpr ⟨y,hy,heq⟩)
      exact ((write_blocked address description).lists hother _ address).trans
        (hsame y (List.mem_cons_of_mem x hy))
    rw [List.map_cons,Prog.forEach,exec_bind_ok hone]
    exact hrest

/-- One service after the other is released. -/
lemma exec_releaseServices {xs : Catalog} (hlists : (xs.map fun x => x.2.sourceList).Nodup)
    (hsame : ∀ x ∈ xs, listedIn s.router.tables x.2.sourceList address=
      listedIn t x.2.sourceList address) :
    exec (Prog.forEach (xs.map (plannedService address desired t))
      fun p => removeEntries p.entries) s=(.ok (),s.withTables
        (xs.foldl (serviceReleased address) s.router.tables)) := by
  induction xs generalizing s with
  | nil => rfl
  | cons x xs ih =>
    obtain ⟨hnew,hlists⟩ := List.nodup_cons.mp hlists
    let after := s.withTables (serviceReleased address s.router.tables x)
    have hone : exec (removeEntries (plannedService address desired t x).entries) s=
        (.ok (),after) := by
      unfold plannedService
      rw [← hsame x List.mem_cons_self]
      exact exec_removeEntries x.2.sourceList
    have hrest := @ih after hlists fun y hy => by
      have hother : y.2.sourceList≠x.2.sourceList := fun heq =>
        hnew (List.mem_map.mpr ⟨y,hy,heq⟩)
      exact ((write_released address).lists hother _ address).trans
        (hsame y (List.mem_cons_of_mem x hy))
    rw [List.map_cons,Prog.forEach,exec_bind_ok hone]
    exact hrest

/-- Tables that differ in the connections only. -/
def SameButConnections (t t' : TableFamily Row) : Prop := ∀ k, k≠Resource.connection → t' k=t k

lemma exec_removeConnection (id : ℕ) : ∃ o t', exec (remove .connection id) s=
    (o,s.withTables t') ∧ SameButConnections s.router.tables t' := by
  refine ⟨_,_,exec_call _ s,fun k hk => Request.perform_spares ?_ _⟩
  exact decide_eq_false fun h => hk h.symm

lemma exec_resetConnections (connections : List (ℕ × Connection)) (removed : ℕ) :
    ∃ n t', exec (resetConnections connections removed) s=(.ok n,s.withTables t') ∧
      SameButConnections s.router.tables t' := by
  induction connections generalizing s removed with
  | nil => exact ⟨removed,s.router.tables,rfl,fun _ _ => rfl⟩
  | cons c connections ih =>
    obtain ⟨o,t,hremove,hsame⟩ := @exec_removeConnection s c.1
    cases o with
    | ok u =>
      have hone : exec (Prog.rescue ((remove .connection c.1).bind fun _ => .ret true)
          fun _ => .ret false) s=(.ok true,s.withTables t) := by
        refine (Prog.run_rescue _ _ _ _).trans ?_
        rw [show Prog.run _ (Prog.bind _ _) s=_ from exec_bind_ok hremove]
        rfl
      obtain ⟨n,t',hrest,hsame'⟩ := @ih (s.withTables t) (removed+1)
      refine ⟨n,t',?_,fun k hk => (hsame' k hk).trans (hsame k hk)⟩
      rw [resetConnections,exec_bind_ok hone]
      exact hrest
    | error e =>
      have hone : exec (Prog.rescue ((remove .connection c.1).bind fun _ => .ret true)
          fun _ => .ret false) s=(.ok false,s.withTables t) := by
        refine (Prog.run_rescue _ _ _ _).trans ?_
        rw [show Prog.run _ (Prog.bind _ _) s=_ from exec_bind_error hremove]
        rfl
      refine ⟨removed,t,?_,hsame⟩
      rw [resetConnections,exec_bind_ok hone]
      rfl

/-- Resetting connections never fails. -/
lemma exec_terminateServiceConnections (services : List Service) :
    ∃ n t', exec (terminateServiceConnections address services) s=(.ok n,s.withTables t') ∧
      SameButConnections s.router.tables t' := by
  unfold terminateServiceConnections
  split_ifs
  · exact ⟨0,s.router.tables,rfl,fun _ _ => rfl⟩
  · have hdetect : exec (detectorAddresses services) s=(.ok _,s) :=
      exec_bind_ok (exec_collect fun rule => exec_entries _ _ s)
    rw [exec_bind_ok hdetect]
    split_ifs
    · exact ⟨0,s.router.tables,rfl,fun _ _ => rfl⟩
    · have hfound : exec (Prog.rescue (entries .connection fun _ => true) fun _ => .ret []) s=
          (.ok (s.router.tables.rows .connection fun _ => true),s) := by
        refine (Prog.run_rescue _ _ _ _).trans ?_
        rw [show Prog.run _ (entries .connection fun _ => true) s=_ from exec_entries _ _ s]
      rw [exec_bind_ok hfound]
      exact exec_resetConnections _ 0

/-- The part of `set_device_services` that writes, where the contracts are valid. -/
lemma exec_writeServices (hvalid : s.router.PlanValid catalog address desired)
    (hlists : (catalog.map fun x => x.2.sourceList).Nodup) :
    ∃ n t', exec (writeServices catalog address desired description) s=(.ok n,s.withTables t') ∧
      SameButConnections (servicesWritten catalog address desired description s.router.tables)
        t' := by
  let found := s.router.tables
  let blocked := s.withTables
    ((blocking catalog address desired found).foldl (serviceBlocked address description) found)
  have hpart (p : String × Service → Bool) :
      ((catalog.filter p).map fun x => x.2.sourceList).Nodup :=
    hlists.sublist (List.filter_sublist.map _)
  -- the services that are released keep the entries that the plan has found
  have hfound : ∀ x ∈ releasing catalog address desired found,
      listedIn blocked.router.tables x.2.sourceList address=
        listedIn found x.2.sourceList address := by
    intro x hx
    obtain ⟨hin,hundesired,-⟩ := mem_releasing.mp hx
    refine (write_blocked address description).fold_lists (fun hmem => ?_) found address
    obtain ⟨y,hy,hlist⟩ := List.mem_map.mp hmem
    obtain ⟨hin',hdesired,-⟩ := mem_blocking.mp hy
    exact hundesired (List.inj_on_of_nodup_map hlists hin' hin hlist ▸ hdesired)
  have hblock := @exec_blockServices address description desired s found
    (blocking catalog address desired found) (hpart _) fun _ _ => rfl
  have hrelease := @exec_releaseServices address desired blocked found
    (releasing catalog address desired found) (hpart _) hfound
  obtain ⟨n,t',hterminate,hsame⟩ := @exec_terminateServiceConnections address
    (blocked.withTables (servicesWritten catalog address desired description found))
    (((blocking catalog address desired found).map (plannedService address desired found)).map
      PlannedService.service)
  refine ⟨n,t',?_,hsame⟩
  unfold writeServices
  rw [exec_bind_ok ((exec_planning catalog).1 hvalid)]
  dsimp only
  rw [plan_services,(plan_parts catalog _).1,(plan_parts catalog _).2,exec_bind_ok hblock,
    exec_bind_ok hrelease]
  exact hterminate

/-- `sorted` has one result for a set of keys. -/
lemma sortedKeys_perm {keys keys' : List String} (h : keys.Perm keys') :
    sortedKeys keys=sortedKeys keys' := by
  have hle (a b : String) : (!decide (b < a))=true ↔ a ≤ b := by
    rw [Bool.not_eq_true',decide_eq_false_iff_not,String.not_lt]
  have hsorted (keys : List String) : (sortedKeys keys).Pairwise fun a b => a ≤ b := by
    refine (List.pairwise_mergeSort (fun a b c hab hbc => ?_) (fun a b => ?_) keys).imp
      fun {a b} => (hle a b).mp
    · exact (hle a c).mpr (String.le_trans ((hle a b).mp hab) ((hle b c).mp hbc))
    · rw [Bool.or_eq_true,hle,hle]
      exact String.le_total a b
  have hperm : (sortedKeys keys).Perm (sortedKeys keys') :=
    (List.mergeSort_perm _ _).trans (h.trans (List.mergeSort_perm _ _).symm)
  exact hperm.eq_of_pairwise (fun a b _ _ => String.le_antisymm) (hsorted keys) (hsorted keys')

/-- The services that are read as blocked have one entry each. -/
lemma mem_blockedServices (r : RouterOS) (key : String) :
    key ∈ ((catalog.map (r.serviceReading catalog address)).filter fun x => x.2.blocked).map
      Prod.fst ↔ ∃ x ∈ catalog, x.1=key ∧
        (listedIn r.tables x.2.sourceList address).length=1 := by
  simp only [List.mem_map,List.mem_filter]
  constructor
  · rintro ⟨_,⟨⟨x,hx,rfl⟩,hblocked⟩,rfl⟩
    exact ⟨x,hx,rfl,of_decide_eq_true hblocked⟩
  · rintro ⟨x,hx,rfl,hone⟩
    exact ⟨_,⟨⟨x,hx,rfl⟩,decide_eq_true hone⟩,rfl⟩

/-- The services that were asked for are read back. -/
lemma blockedServices_written {r : RouterOS} (hkeys : catalog.keys.Nodup)
    (hdesired : ∀ key ∈ desired, key ∈ catalog.keys) (hnodup : desired.Nodup)
    (hlength : ∀ x ∈ catalog, (listedIn r.tables x.2.sourceList address).length=
      if desired.contains x.1 then 1 else 0) :
    sortedKeys desired=(serviceReply (catalog.map (r.serviceReading catalog
      address))).blockedServices := by
  have hreadings : ((catalog.map (r.serviceReading catalog address)).map Prod.fst).Nodup := by
    rw [List.map_map]
    exact hkeys
  refine sortedKeys_perm ((List.perm_ext_iff_of_nodup hnodup
    (hreadings.sublist (List.filter_sublist.map _))).mpr fun key => ?_)
  rw [mem_blockedServices]
  constructor
  · intro hkey
    obtain ⟨x,hx,rfl⟩ := List.mem_map.mp (hdesired key hkey)
    exact ⟨x,hx,rfl,(hlength x hx).trans (if_pos (List.contains_iff_mem.mpr hkey))⟩
  · rintro ⟨x,hx,rfl,hone⟩
    rw [hlength x hx] at hone
    by_contra hnot
    rw [if_neg (mt List.contains_iff_mem.mp hnot)] at hone
    cases hone

lemma unsupported_nil (h : ∀ key ∈ desired, key ∈ catalog.keys) :
    (desired.filter fun key => !catalog.keys.contains key)=[] :=
  List.filter_eq_nil_iff.mpr fun key hkey => by simpa using h key hkey

variable {blockedServices : List String}

lemma exec_setDeviceServices
    (hcan : s.CanSetServices env catalog address (desiredKeys blockedServices))
    (hkeys : catalog.keys.Nodup) (hlists : (catalog.map fun x => x.2.sourceList).Nodup)
    (hrestricted : restrictedList ∉ catalog.map fun x => x.2.sourceList) :
    ∃ result t', exec (setDeviceServices env catalog address blockedServices description) s=
        (.ok result,{ s.passed with router := s.router.withTables t' }) ∧
      SameButConnections (servicesWritten catalog address (desiredKeys blockedServices)
        (clip (strip description) 60) s.router.tables) t' := by
  obtain ⟨hsupported,hgate,hmanaged,hvalid⟩ := hcan
  let inside := System.passed { s with lane := s.lane+1 }
  have hgate' : System.PassesGate env { s with lane := s.lane+1 } := hgate
  have hmanaged' : inside.router.Managed address := hmanaged
  have hvalid' : inside.router.PlanValid catalog address (desiredKeys blockedServices) := hvalid
  obtain ⟨n,t',hwrites,hsame⟩ := @exec_writeServices catalog address (clip (strip description) 60)
    (desiredKeys blockedServices) inside hvalid' hlists
  let after := inside.withTables t'
  have hbody : exec (explained s!"Unable to set service policy for {address.text}" <|
      (validateRestrictedDevice address).bind fun _ => writeServices catalog address
        (desiredKeys blockedServices) (clip (strip description) 60)) inside=(.ok n,after) :=
    exec_explained _ ((exec_bind_ok (exec_validateRestrictedDevice hmanaged')).trans hwrites)
  have hlisted (list : String) : listedIn after.router.tables list address=
      listedIn (servicesWritten catalog address (desiredKeys blockedServices)
        (clip (strip description) 60) s.router.tables) list address :=
    TableFamily.rows_congr (hsame .addressList (by decide)) _
  have hmember : after.router.Managed address := by
    unfold RouterOS.Managed RouterOS.listed
    rw [show after.router.tables.rows .addressList (inList restrictedList address)=_ from
      hlisted restrictedList,listedIn_servicesWritten_other hrestricted]
    exact hmanaged
  have hread : sortedKeys (desiredKeys blockedServices)=_ :=
    @blockedServices_written catalog address _ after.router hkeys hsupported (List.nodup_dedup _)
      fun x hx => (congrArg List.length (hlisted x.2.sourceList)).trans
        (listedIn_servicesWritten hlists hx)
  refine ⟨⟨serviceReply (catalog.map (after.router.serviceReading catalog address)),n⟩,t',?_,hsame⟩
  unfold setDeviceServices
  refine exec_serialized (t:={ s.passed with router := s.router.withTables t' }) ?_
  rw [if_neg (by rw [show List.filter _ (List.dedup _)=[] from unsupported_nil hsupported]; decide),
    exec_bind_ok (exec_requirePolicyWriteGate hgate'),exec_bind_ok (exec_connect _)]
  refine (exec_bind_ok hbody).trans ?_
  rw [exec_bind_ok (exec_getDeviceServiceEnforcement hmember)]
  exact congrArg (fun p => exec p after) (if_pos hread)

lemma setDeviceServices_unsupported
    (h : ¬∀ key ∈ desiredKeys blockedServices, key ∈ catalog.keys) :
    ∃ m, setDeviceServices env catalog address blockedServices description=
      serialized (.raise (.router m)) := by
  push Not at h
  obtain ⟨key,hkey,hunknown⟩ := h
  have hmem : key ∈ (desiredKeys blockedServices).filter fun key => !catalog.keys.contains key :=
    List.mem_filter.mpr ⟨hkey,by simpa using hunknown⟩
  have hsome : (!((desiredKeys blockedServices).filter
      fun key => !catalog.keys.contains key).isEmpty)=true := by
    rw [Bool.not_eq_true',List.isEmpty_eq_false_iff]
    exact List.ne_nil_of_mem hmem
  exact ⟨_,congrArg serialized (if_pos hsome)⟩

/-- Without a key of its catalogue, or without a valid contract, it raises. -/
lemma exec_setDeviceServices_of_not (hgate : s.PassesGate env)
    (hmanaged : s.router.Managed address)
    (h : ¬((∀ key ∈ desiredKeys blockedServices, key ∈ catalog.keys) ∧
      s.router.PlanValid catalog address (desiredKeys blockedServices))) :
    ∃ e s', exec (setDeviceServices env catalog address blockedServices description) s=
      (.error e,s') := by
  by_cases hsupported : ∀ key ∈ desiredKeys blockedServices, key ∈ catalog.keys
  · have hvalid : ¬s.router.PlanValid catalog address (desiredKeys blockedServices) :=
      fun hvalid => h ⟨hsupported,hvalid⟩
    let inside := System.passed { s with lane := s.lane+1 }
    have hgate' : System.PassesGate env { s with lane := s.lane+1 } := hgate
    have hmanaged' : inside.router.Managed address := hmanaged
    obtain ⟨m,hm⟩ := (@exec_planning catalog address (desiredKeys blockedServices) inside
      catalog).2 hvalid
    refine ⟨_,_,exec_serialized (o:=.error (.router m)) (t:=s.passed) ?_⟩
    dsimp only
    rw [if_neg (by rw [show List.filter _ (List.dedup _)=[] from unsupported_nil hsupported]
                   decide),
      exec_bind_ok (exec_requirePolicyWriteGate hgate'),exec_bind_ok (exec_connect _)]
    refine exec_bind_error (exec_explained_router _ ?_)
    exact (exec_bind_ok (exec_validateRestrictedDevice hmanaged')).trans (exec_bind_error hm)
  · obtain ⟨m,hm⟩ := @setDeviceServices_unsupported env catalog address description _ hsupported
    rw [hm]
    exact ⟨_,s,exec_serialized (o:=.error (.router m)) (t:=s) rfl⟩

end Services
end ZenControl.Router
