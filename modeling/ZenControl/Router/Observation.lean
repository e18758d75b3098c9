import ZenControl.Router.Readings
import ZenControl.Library.Threads
import ZenControl.Store.Access

/-! A cycle of the reconciler in OBSERVE mode: the managed devices are loaded, their plans are
computed by parallel threads, and an inventory is published. It changes RouterOS exactly when the
reader of temporary access meets a stale artefact of one of the devices. -/
namespace ZenControl.Router
open Calls Requests Rows

/-- `get_restricted_devices`; the order, by name, is left to the cycle. -/
def getRestrictedDevices : RouterProg (List (ℕ × AddressEntry)) :=
  connect.bind fun _ => (entries .addressList fun e => e.list=restrictedList).rescue fun e =>
    .raise (.router ("Unable to read Restricted_Devices: " ++ e.message))

/-- The addresses of the devices that have one. -/
def observedAddresses (found : List (ℕ × AddressEntry)) : List String :=
  (found.map fun e => e.2.address).filter fun address => strip address≠""

/-- `get_managed_state_inventory`, as far as it reads the modelled resources. -/
def getManagedStateInventory : RouterProg Unit :=
  connect.bind fun _ => explained "Unable to inventory managed RouterOS state" <|
    (entries .addressList fun _ => true).bind fun _ => (entries .queue fun _ => true).bind fun _ =>
    (entries .scheduler fun _ => true).bind fun _ => (entries .script fun _ => true).bind fun _ =>
    (rules fun _ => true).bind fun _ => .ret ()

/-- What a cycle is run with: the runtime catalogue of services, the effective policies, and the
coherent session around it, if there is one. -/
structure Planner where
  env : Environment
  catalog : Catalog
  policy : String → Except Failure EffectivePolicy
  session : Option Session := none

section Cycle
variable (planner : Planner)

def Planner.plan (address : String) : RouterProg LivePlan :=
  getLivePolicyPlan planner.env planner.catalog planner.policy address

/-- RouterOS as a thread of the cycle meets it. -/
def Planner.system (r : RouterOS) : System := { router := r, session := planner.session }

/-- One call of a thread of the observer. -/
def Planner.serve (c : RouterCall) (g : RouterOS × List Fault) :
    Except Failure c.Answer × (RouterOS × List Fault) :=
  let r := router.faulty c (planner.system g.1,g.2)
  (r.1,(r.2.1.router,r.2.2))

def Planner.observers (n : ℕ) : Machine (Fin n) RouterCall RouterCall.Answer Failure
    (RouterOS × List Fault) := fun _ c g => some (planner.serve c g)

/-- The states of RouterOS that a cycle in OBSERVE mode passes through, while any of its calls may
fail and the threads of the observer are interleaved in any way. -/
inductive ObserveCycle (r : RouterOS) : RouterOS → Prop
  | loading {faults left : List Fault} {t : System}
      (visited : (t,left) ∈ getRestrictedDevices.visited router.faulty
        (planner.system r,faults)) : ObserveCycle r t.router
  | observing {faults left : List Fault} {t : System} {found : List (ℕ × AddressEntry)}
      {order : List String} {c}
      (load : getRestrictedDevices.run router.faulty (planner.system r,faults)=
        (.ok found,(t,left)))
      (keys : ((observedAddresses found).map strip).Nodup)
      (permuted : order.Perm (observedAddresses found))
      (run : Run (Config.Step (planner.observers order.length)) anyStep
        ⟨(t.router,left),fun i => planner.plan (order.get i)⟩ c) :
      ObserveCycle r c.shared.1
  | publishing {r' : RouterOS} {faults left : List Fault} {t : System}
      (observed : ObserveCycle r r')
      (visited : (t,left) ∈ getManagedStateInventory.visited router.faulty
        (planner.system r',faults)) : ObserveCycle r t.router

/-- The scheduler of a device belongs to it by its comment. -/
def Scheduler.Owned (address : Ipv4) (s : Scheduler) : Prop :=
  let owner := (metadataGet (parseDeviceTempComment s.comment) "address").getD ""
  owner="" ∨ owner=address.text

/-- A device has a restore script without a scheduler, or a scheduler that has run or is
disabled. -/
def RouterOS.Stale (r : RouterOS) (address : Ipv4) : Prop :=
  (r.schedulers address).length ≤ 1 ∧ (r.scripts address).length ≤ 1 ∧
    ((r.schedulers address=[] ∧ r.scripts address≠[]) ∨
      ∃ s ∈ r.schedulers address, s.2.Owned address ∧ (0 < s.2.runCount ∨ s.2.disabled))

/-- A cycle gets as far as the temporary access of an address, and finds a stale artefact. -/
def Planner.MeetsStale (r : RouterOS) (address : String) : Prop :=
  ∃ policy a, planner.policy address=.ok policy ∧ validateIpv4 planner.env address=.ok a ∧
    r.DeviceBlockValid ∧ r.Managed a ∧ r.Stale a

/-- The addresses of the members of `Restricted_Devices`, whose plans a cycle computes unless one
stands there twice. -/
def RouterOS.observed (r : RouterOS) : List String :=
  observedAddresses (r.tables.rows .addressList fun e => e.list=restrictedList)

end Cycle

section Reading
variable {r : RouterOS} {address : Ipv4}

/-- The reader of temporary access removes something. -/
def TemporaryReading.Removes : TemporaryReading → Prop
  | .orphans scripts _ => scripts≠[]
  | .stale _ => True
  | _ => False

/-- The reader removes something exactly when an artefact is stale. -/
lemma temporaryReading_removes :
    (temporaryReading address (r.schedulers address) (r.scripts address)).Removes ↔
      r.Stale address := by
  unfold temporaryReading RouterOS.Stale
  generalize r.schedulers address=schedulers
  generalize r.scripts address=scripts
  dsimp only
  by_cases hone : 1 < schedulers.length
  · rw [if_pos hone]
    exact ⟨False.elim,fun h => absurd h.1 (by omega)⟩
  rw [if_neg hone]
  by_cases hscript : 1 < scripts.length
  · rw [if_pos hscript]
    exact ⟨False.elim,fun h => absurd h.2.1 (by omega)⟩
  rw [if_neg hscript]
  have hlengths : schedulers.length ≤ 1 ∧ scripts.length ≤ 1 := by omega
  rw [← and_assoc,and_iff_right hlengths]
  match schedulers with
  | [] => simp [TemporaryReading.Removes]
  | (k,entry)::rest =>
    obtain rfl : rest=[] := by
      rw [← List.length_eq_zero_iff]
      simp only [List.length_cons] at hone
      omega
    have hright : ((k,entry)::[]=[] ∧ scripts≠[] ∨ ∃ s ∈ [(k,entry)], s.2.Owned address ∧
        (0 < s.2.runCount ∨ s.2.disabled)) ↔
        entry.Owned address ∧ (0 < entry.runCount ∨ entry.disabled) := by simp
    rw [hright]
    dsimp only
    by_cases howner : entry.Owned address
    · rw [if_neg (by rw [← not_or,not_not]; exact howner),and_iff_right howner]
      by_cases hrun : 0 < entry.runCount
      · rw [if_pos hrun]
        exact iff_of_true trivial (.inl hrun)
      rw [if_neg hrun,or_iff_right hrun]
      by_cases hdisabled : entry.disabled
      · rw [if_pos hdisabled]
        exact iff_of_true trivial hdisabled
      rw [if_neg hdisabled]
      refine iff_of_false ?_ hdisabled
      split_ifs <;> exact id
    · rw [if_pos (by rw [← not_or]; exact howner)]
      exact iff_of_false id fun h => howner h.1

variable {s : System} {n : ℕ}

/-- The validation of a managed device lets pass only a managed device. -/
lemma withstands_validateRestrictedDevice {Q : Except Failure Unit → ℕ → System → Prop}
    (hs : s.router=r) (managed : r.Managed address → Q (.ok ()) n s)
    (failed : ∀ e m, Q (.error e) m s) :
    (validateRestrictedDevice address).Withstands router (fun t => t.router=r) n s Q := by
  subst hs
  refine Prog.withstands_bind (withstands_entries rfl ?_ fun e m _ => failed e m)
  dsimp only
  split_ifs with h
  · exact ⟨rfl,managed h⟩
  · exact ⟨rfl,failed _ _⟩

/-- Reading the temporary access of a device without stale artefacts changes nothing. -/
lemma withstands_getDeviceTemporaryAccess (hs : s.router=r) (h : r.Managed address → ¬r.Stale address) :
    (getDeviceTemporaryAccess address).Withstands router (fun t => t.router=r) n s
      fun _ _ t => t.router=r := by
  refine Prog.withstands_bind ((readOnly_connect.withstands hs n).mono fun o m t _ _ ht => ?_)
  cases o with
  | error e => exact ht
  | ok _ =>
  refine withstands_explained_state (Prog.withstands_bind ?_)
  refine withstands_validateRestrictedDevice ht (fun hmanaged => ?_) fun e m => ht
  refine Prog.withstands_bind (withstands_entries ht ?_ fun e m _ => ht)
  refine Prog.withstands_bind (withstands_entries ht ?_ fun e m _ => ht)
  have hstale := temporaryReading_removes.not.mpr (h hmanaged)
  subst ht
  unfold RouterOS.schedulers RouterOS.scripts at hstale
  dsimp only
  generalize temporaryReading address _ _=reading at hstale ⊢
  cases reading with
  | failed message => exact ⟨rfl,rfl⟩
  | orphans scripts reply =>
    rw [show scripts=[] from not_not.mp hstale]
    exact ⟨rfl,rfl⟩
  | stale reply => exact absurd trivial hstale
  | active reply => exact ⟨rfl,rfl⟩

/-- The validation of the block rule of devices lets pass only a valid rule. -/
lemma withstands_validateDeviceBlockPrimitive {Q : Except Failure Unit → ℕ → System → Prop}
    (hs : s.router=r) (valid : r.DeviceBlockValid → Q (.ok ()) n s)
    (failed : ∀ e m, Q (.error e) m s) :
    validateDeviceBlockPrimitive.Withstands router (fun t => t.router=r) n s Q := by
  subst hs
  refine Prog.withstands_bind (withstands_rules rfl ?_ fun e m _ => failed e m)
  dsimp only
  match hrules : s.router.rules fun rule => rule.comment=deviceBlockRuleComment with
  | [] => exact ⟨rfl,failed _ _⟩
  | [(id,rule)] =>
    dsimp only
    split_ifs with h
    · exact ⟨rfl,failed _ _⟩
    · exact ⟨rfl,valid ⟨(id,rule),hrules,by simpa using h⟩⟩
  | _::_::_ => exact ⟨rfl,failed _ _⟩

/-- The mode of a device is read only from a valid configuration. -/
lemma withstands_getDeviceEnforcement (hs : s.router=r) :
    (getDeviceEnforcement address).Withstands router (fun t => t.router=r) n s fun o _ t =>
      t.router=r ∧ (o.toOption.isSome → r.DeviceBlockValid ∧ r.Managed address) := by
  refine Prog.withstands_bind ((readOnly_connect.withstands hs n).mono fun o m t _ _ ht => ?_)
  cases o with
  | error e => exact ⟨ht,nofun⟩
  | ok _ =>
  refine withstands_explained (Prog.withstands_bind ?_)
  refine withstands_validateDeviceBlockPrimitive ht (fun hvalid => ?_) fun e m => ?_
  · refine Prog.withstands_bind (withstands_validateRestrictedDevice ht (fun hmanaged => ?_)
      fun e m => ?_)
    · refine Prog.Withstands.mono (ReadOnly.withstands ?_ ht m) fun o m t _ _ ht => ?_
      · exact Prog.only_bind (readOnly_entries _ _) fun _ => Prog.only_bind (readOnly_entries _ _)
          fun _ => Prog.only_bind (readOnly_entries _ _) fun _ => trivial
      · have hboth := And.intro hvalid hmanaged
        cases o with
        | ok a => exact ⟨ht,fun _ => hboth⟩
        | error e => cases e <;> exact ⟨ht,fun _ => hboth⟩
    · cases e <;> exact ⟨ht,nofun⟩
  · cases e <;> exact ⟨ht,nofun⟩

/-- The plan of a device without stale artefacts changes nothing. -/
lemma withstands_deviceLivePlan {catalog : Catalog} {policy : EffectivePolicy} (hs : s.router=r)
    (h : r.DeviceBlockValid → r.Managed address → ¬r.Stale address) :
    (deviceLivePlan catalog policy address).Withstands router (fun t => t.router=r) n s
      fun _ _ t => t.router=r := by
  rw [deviceLivePlan_eq]
  refine Prog.withstands_bind ((withstands_getDeviceEnforcement hs).mono fun o m t _ _ ht => ?_)
  cases o with
  | error e => exact ht.1
  | ok enforcement =>
  refine Prog.withstands_bind ((withstands_getDeviceTemporaryAccess ht.1
    (h (ht.2 rfl).1)).mono fun o m t _ _ ht => ?_)
  cases o with
  | error e => exact ht
  | ok temporary => exact (readOnly_planRest ..).withstands ht m

/-- The plan of an address changes nothing where it meets no stale artefact. -/
lemma Planner.withstands_plan {planner : Planner} {address : String} (hs : s.router=r)
    (h : ¬planner.MeetsStale r address) :
    (planner.plan address).Withstands router (fun t => t.router=r) n s
      fun _ _ t => t.router=r := by
  unfold Planner.plan getLivePolicyPlan
  cases hpolicy : planner.policy address with
  | error e => exact ⟨hs,hs⟩
  | ok policy =>
  dsimp only
  cases haddress : validateIpv4 planner.env address with
  | error e => exact ⟨hs,hs⟩
  | ok a =>
    refine withstands_deviceLivePlan hs fun hvalid hmanaged hstale => h ?_
    exact ⟨policy,a,hpolicy,haddress,hvalid,hmanaged,hstale⟩

end Reading

section Threads
variable {planner : Planner}

/-- The threads of the observer leave their session and the lane alone. -/
lemma Planner.only_plan (planner : Planner) (address : String) :
    (planner.plan address).Only fun c => c.remote := by
  unfold Planner.plan getLivePolicyPlan
  cases planner.policy address with
  | error e => trivial
  | ok policy =>
  dsimp only
  cases validateIpv4 planner.env address with
  | error e => trivial
  | ok a =>
  dsimp only
  rw [deviceLivePlan_eq]
  refine Prog.only_bind ((readOnly_getDeviceEnforcement a).mono fun _ =>
    RouterCall.remote_of_reads) fun enforcement => ?_
  refine Prog.only_bind (only_getDeviceTemporaryAccess a) fun temporary => ?_
  exact (readOnly_planRest ..).mono fun _ => RouterCall.remote_of_reads

lemma faulty_remote {c : RouterCall} (h : c.remote) (s : System) (faults : List Fault) :
    (router.faulty c (s,faults)).2.1=
      { s with router := (router.faulty c (s,faults)).2.1.router } := by
  unfold Server.faulty
  cases router.failure c with
  | none => exact RouterCall.serve_remote h s
  | some e =>
    match faults with
    | [] => exact RouterCall.serve_remote h s
    | .fine::_ => exact RouterCall.serve_remote h s
    | .lost::_ => rfl
    | .unanswered::_ => exact RouterCall.serve_remote h s

/-- A thread of the observer that leaves RouterOS as it is. -/
structure Planner.Harmless (planner : Planner) (r : RouterOS)
    (p : Prog RouterCall RouterCall.Answer Failure LivePlan) : Prop where
  only : p.Only fun c => c.remote
  withstands : ∀ n, p.Withstands router (fun t => t.router=r) n (planner.system r)
    fun _ _ t => t.router=r

/-- One call of such a thread. -/
lemma Planner.Harmless.call {r : RouterOS} {c : RouterCall}
    {k : Except Failure c.Answer → Prog RouterCall RouterCall.Answer Failure LivePlan}
    (h : planner.Harmless r (.call c k)) (faults : List Fault) :
    (planner.serve c (r,faults)).2.1=r ∧
      planner.Harmless r (k (planner.serve c (r,faults)).1) := by
  have hafter := Prog.Withstands.call (Q:=fun _ (t : System) => t.router=r) h.withstands faults
  have hrouter : (planner.serve c (r,faults)).2.1=r := (hafter 0).start
  have hsystem : (router.faulty c (planner.system r,faults)).2.1=planner.system r := by
    rw [faulty_remote h.only.1,show (router.faulty c (planner.system r,faults)).2.1.router=r
      from hrouter]
    rfl
  refine ⟨hrouter,h.only.2 _,fun n => ?_⟩
  have hn := hafter n
  rw [hsystem] at hn
  exact hn

/-- Any interleaving of such threads leaves RouterOS as it is. -/
lemma Planner.Harmless.run {r : RouterOS} {n : ℕ} {faults : List Fault}
    {code : Fin n → Prog RouterCall RouterCall.Answer Failure LivePlan}
    {c : Config (Fin n) RouterCall RouterCall.Answer Failure LivePlan (RouterOS × List Fault)}
    (h : ∀ i, planner.Harmless r (code i))
    (run : Run (Config.Step (planner.observers n)) anyStep ⟨(r,faults),code⟩ c) :
    c.shared.1=r := by
  have hinv : c.shared.1=r ∧ ∀ i, planner.Harmless r (c.code i) := by
    refine run.invariant (I:=fun c => c.shared.1=r ∧ ∀ i, planner.Harmless r (c.code i))
      ⟨rfl,h⟩ fun {i a b} hI _ hstep => ?_
    obtain ⟨c,k,o,g,hcode,hserve,rfl⟩ := hstep.inv
    obtain ⟨⟨router,faults⟩,code⟩ := a
    obtain ⟨rfl,hcodes⟩ := hI
    obtain ⟨hrouter,hrest⟩ := (hcode ▸ hcodes i).call faults
    obtain ⟨rfl,rfl⟩ := Prod.mk.inj (Option.some.inj hserve).symm
    refine ⟨hrouter,fun j => ?_⟩
    change planner.Harmless _ (Function.update code i _ j)
    by_cases hj : j=i
    · subst hj
      rw [Function.update_self]
      exact hrest
    · rw [Function.update_of_ne hj]
      exact hcodes j
  exact hinv.1

lemma readOnly_getRestrictedDevices : ReadOnly getRestrictedDevices :=
  Prog.only_bind readOnly_connect fun _ =>
    Prog.only_rescue (readOnly_entries _ _) fun _ => trivial

lemma readOnly_getManagedStateInventory : ReadOnly getManagedStateInventory :=
  Prog.only_bind readOnly_connect fun _ => readOnly_explained <|
    Prog.only_bind (readOnly_entries _ _) fun _ => Prog.only_bind (readOnly_entries _ _) fun _ =>
    Prog.only_bind (readOnly_entries _ _) fun _ => Prog.only_bind (readOnly_entries _ _) fun _ =>
    Prog.only_bind (readOnly_rules _) fun _ => trivial

/-- A program that only reads leaves RouterOS as it is in every state it passes through. -/
lemma ReadOnly.visited {α : Type} {p : RouterProg α} (h : ReadOnly p) {s t : System}
    {faults left : List Fault} (ht : (t,left) ∈ p.visited router.faulty (s,faults)) :
    t.router=s.router :=
  ((h.withstands rfl (failures faults)).run (Nat.le_refl _)).1 (t,left) ht

/-- The devices are loaded as they stand in RouterOS, or not at all. -/
lemma withstands_getRestrictedDevices {s : System} {r : RouterOS} (hs : s.router=r) (n : ℕ) :
    getRestrictedDevices.Withstands router (fun t => t.router=r) n s fun o _ t =>
      t.router=r ∧ ∀ found, o=.ok found → observedAddresses found=r.observed := by
  refine Prog.withstands_bind ((readOnly_connect.withstands hs n).mono fun o m t _ _ ht => ?_)
  cases o with
  | error e => exact ⟨ht,nofun⟩
  | ok _ =>
  refine Prog.withstands_rescue (withstands_entries ht ⟨ht,fun found hfound => ?_⟩ fun e m _ => ?_)
  · rw [← Except.ok.inj hfound,ht]
    rfl
  · exact ⟨ht,ht,nofun⟩

lemma exec_getRestrictedDevices (s : System) : exec getRestrictedDevices s=
    (.ok (s.router.tables.rows .addressList fun e => e.list=restrictedList),s) := by
  unfold getRestrictedDevices
  rw [exec_bind_ok (exec_connect s)]
  exact (Prog.run_rescue _ _ _ _).trans (by rw [show (entries .addressList _).run _ s=_ from
    exec_entries _ _ s])

/-- A cycle that meets no stale artefact leaves RouterOS as it is. -/
theorem ObserveCycle.keeps {r r' : RouterOS} (h : ObserveCycle planner r r')
    (clean : (r.observed.map strip).Nodup → ∀ address ∈ r.observed,
      ¬planner.MeetsStale r address) : r'=r := by
  induction h with
  | loading visited => exact readOnly_getRestrictedDevices.visited visited
  | @observing faults left t found order c load keys permuted run =>
    obtain ⟨_,_,ht,hfound⟩ := ((withstands_getRestrictedDevices (s:=planner.system r) rfl
      (failures faults)).run (Nat.le_refl _)).2
    rw [load] at ht hfound
    have hobserved := hfound found rfl
    rw [hobserved] at keys permuted
    have hrouter : t.router=r := ht
    rw [hrouter] at run
    refine Planner.Harmless.run (fun i => ⟨planner.only_plan _,fun n => ?_⟩) run
    exact Planner.withstands_plan rfl (clean keys _ (permuted.mem_iff.mp (order.get_mem i)))
  | publishing observed visited ih =>
    exact (readOnly_getManagedStateInventory.visited visited).trans ih

/-- A thread that runs alone while no call fails. -/
lemma Planner.run_serve {p : RouterProg LivePlan} (hp : p.Only fun c => c.remote) (r : RouterOS) :
    (p.run planner.serve (r,[])).2.1=(exec p (planner.system r)).2.router := by
  induction p generalizing r with
  | ret a => rfl
  | raise e => rfl
  | call c k ih =>
    have hserve : router.faulty c (planner.system r,[])=((c.serve (planner.system r)).1,
        ((c.serve (planner.system r)).2,[])) := by
      unfold Server.faulty
      cases router.failure c <;> rfl
    have hsystem := RouterCall.serve_remote hp.1 (planner.system r)
    have hnext : planner.system (c.serve (planner.system r)).2.router=
        (c.serve (planner.system r)).2 := hsystem.symm
    rw [Prog.run_call,exec,Prog.run_call,show planner.serve c (r,[])=
      ((c.serve (planner.system r)).1,((c.serve (planner.system r)).2.router,[])) by
        unfold Planner.serve
        rw [hserve]]
    rw [ih _ (hp.2 _),hnext]

/-- The cleanup takes something away from a stale device. -/
lemma RouterOS.Stale.cleanedUp_ne {r : RouterOS} {address : Ipv4} (h : r.Stale address) :
    r.cleanedUp address≠r := by
  intro heq
  have gone {α : Type} (t : Table α) (p : α → Bool) :
      (t.delete fun _ a => p a).select (fun _ a => p a)=[] := by
    refine List.filter_eq_nil_iff.mpr fun row hrow => ?_
    simpa using (List.mem_filter.mp hrow).2
  have hscheduler : r.schedulers address=[] := by
    rw [← heq]
    exact gone (r.tables .scheduler) fun s => s.name=address.deviceTempSchedulerName
  have hscript : r.scripts address=[] := by
    rw [← heq]
    exact gone (r.tables .script) fun s => s.name=address.deviceTempScriptName
  obtain ⟨_,_,⟨_,hscripts⟩ | ⟨s,hs,_⟩⟩ := h
  · exact hscripts hscript
  · rw [hscheduler] at hs
    exact List.not_mem_nil hs

/-- The plan of a device with a stale artefact changes RouterOS. -/
lemma Planner.MeetsStale.changes {r : RouterOS} {address : String}
    (h : planner.MeetsStale r address) :
    (exec (planner.plan address) (planner.system r)).2.router≠r := by
  obtain ⟨policy,a,hpolicy,haddress,hvalid,hmanaged,hstale⟩ := h
  have hplan : planner.plan address=deviceLivePlan planner.catalog policy a := by
    unfold Planner.plan getLivePolicyPlan
    rw [hpolicy]
    dsimp only
    rw [haddress]
  have hremoves := temporaryReading_removes.mpr hstale
  have htemporary : ∃ reply, exec (getDeviceTemporaryAccess a) (planner.system r)=
      (.ok reply,planner.system (r.cleanedUp a)) := by
    rw [exec_getDeviceTemporaryAccess hmanaged]
    have hreading : ((planner.system r).router.temporary a).Removes := hremoves
    cases hcase : (planner.system r).router.temporary a with
    | failed m =>
      rw [hcase] at hreading
      exact hreading.elim
    | orphans scripts reply => exact ⟨reply,rfl⟩
    | stale reply => exact ⟨reply,rfl⟩
    | active reply =>
      rw [hcase] at hreading
      exact hreading.elim
  obtain ⟨reply,htemporary⟩ := htemporary
  rw [hplan,deviceLivePlan_eq,exec_bind_ok (exec_getDeviceEnforcement hvalid hmanaged),
    exec_bind_ok htemporary,(readOnly_planRest ..).exec_router]
  exact hstale.cleanedUp_ne

/-- A cycle that meets a stale artefact can change RouterOS. -/
lemma ObserveCycle.changes {r : RouterOS} {address : String}
    (hnodup : (r.observed.map strip).Nodup) (haddress : address ∈ r.observed)
    (hstale : planner.MeetsStale r address) : ∃ r', ObserveCycle planner r r' ∧ r'≠r := by
  obtain ⟨i,hi⟩ := List.mem_iff_get.mp haddress
  have hload : getRestrictedDevices.run router.faulty (planner.system r,[])=
      (.ok (r.tables.rows .addressList fun e => e.list=restrictedList),(planner.system r,[])) := by
    rw [Prog.run_faultless,show getRestrictedDevices.run RouterCall.serve (planner.system r)=_
      from exec_getRestrictedDevices _]
    rfl
  have hserved (c g) : planner.observers r.observed.length i c g=some (planner.serve c g) := rfl
  obtain ⟨p,hrun⟩ := Config.run_alone i hserved (r,[]) fun i => planner.plan (r.observed.get i)
  refine ⟨_,.observing hload hnodup (.refl _) hrun,fun hkept => hstale.changes ?_⟩
  rw [← hi]
  exact (Planner.run_serve (planner.only_plan _) r).symm.trans hkept

/-- OBSERVE does not write RouterOS exactly when no plan that it computes meets a stale
artefact. -/
theorem observe_frame (r : RouterOS) : (∀ r', ObserveCycle planner r r' → r'=r) ↔
    ((r.observed.map strip).Nodup → ∀ address ∈ r.observed, ¬planner.MeetsStale r address) := by
  refine ⟨fun h hnodup address haddress hstale => ?_,fun h r' hcycle => hcycle.keeps h⟩
  obtain ⟨r',hcycle,hne⟩ := ObserveCycle.changes hnodup haddress hstale
  exact hne (h r' hcycle)

/-- A store that has only the preset Normal. -/
def plainTables : Tables :=
  { bandwidthPresets := [{ key := "normal", name := "Normal", upload := "Unlimited",
                           download := "Unlimited", builtin := true }] }

/-- The policies of that store, with the built-in services. -/
def plainPlanner : Planner where
  env := {}
  catalog := serviceEnforcement
  policy ip := (computeEffectivePolicy asciiEnv.toRuntime plainTables ip
    (.naive (combine 738885 12 0)) none none).mapError fun _ => .planning "no policy"

/-- One managed device whose restore script has lost its scheduler. -/
def orphanRouter : RouterOS where
  filter := [(1,{ comment := deviceBlockRuleComment, chain := "forward", action := "drop" })]
  tables
    | .addressList => Table.empty.insert { list := restrictedList, address := "192.168.88.20" }
    | .script => Table.empty.insert { name := "MC-TEMP-RESTORE-DEV-192-168-88-20" }
    | _ => Table.empty

lemma isIpv4_orphan : isIpv4 "192.168.88.20" := by decide

def orphanAddress : Ipv4 := ⟨"192.168.88.20",isIpv4_orphan⟩

/-- A cycle in OBSERVE mode removes the script. -/
theorem observe_removes : ∃ r', ObserveCycle plainPlanner orphanRouter r' ∧ r'≠orphanRouter := by
  obtain ⟨policy,hpolicy⟩ : ∃ policy, plainPlanner.policy "192.168.88.20"=.ok policy := ⟨_,rfl⟩
  have hstale : plainPlanner.MeetsStale orphanRouter "192.168.88.20" := by
    refine ⟨policy,orphanAddress,hpolicy,rfl,⟨_,rfl,rfl⟩,rfl,?_,?_,.inl ⟨rfl,?_⟩⟩
    all_goals decide
  exact ObserveCycle.changes (by decide) (by decide) hstale

end Threads
end ZenControl.Router
