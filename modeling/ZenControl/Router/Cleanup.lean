import ZenControl.Router.Integrity

/-! What the application still owns on RouterOS for devices that are no longer managed: how the
security posture counts it, and how the cleanup removes it. -/
namespace ZenControl.Router
open Calls Requests Rows

section Stale
variable (ipv6 : String → Option String) (managed : List String)

/-- `str(ipaddress.ip_address(text))`; `ipv6` reads and writes the addresses of that family. -/
def addressText (text : String) : Option String := if isIpv4 text then some text else ipv6 text

/-- The addresses of the static members of `Restricted_Devices`. -/
def restrictedAddresses (rows : List AddressEntry) : List String :=
  (rows.filter fun e => e.list=restrictedList && !e.dynamic).map AddressEntry.address

/-- An address that is read, and that belongs to no managed device. -/
def unmanaged (address : Option String) : Bool := address.any fun a => !managed.contains a

/-- The rows that the application owns for a device that is not managed. -/
def stale : (k : Resource) → Row k → Bool
  | .addressList => fun e => isManagedList e.list && unmanaged managed (addressText ipv6 e.address)
  | .queue => fun q => isManagedQueue q.name && unmanaged managed (queueIpv4 q.name)
  | .scheduler => fun s => unmanaged managed (encodedIpv4 "MC-TEMP-DEV-" s.name)
  | .script => fun s => unmanaged managed (encodedIpv4 "MC-TEMP-RESTORE-DEV-" s.name)
  | .connection => fun _ => false

/-- The `stale` part of `get_security_posture`; of the queues only those count that carry the
address of their target in their name. -/
structure StaleResources where
  addressLists : List (String × String)
  queues : List String
  schedulers : List String
  scripts : List String
  deriving DecidableEq, Repr

def StaleResources.total (r : StaleResources) : ℕ :=
  r.addressLists.length + r.queues.length + r.schedulers.length + r.scripts.length

/-- The count of `cleanup_stale_managed_resources`. -/
structure Removed where
  addressLists : ℕ
  queues : ℕ
  schedulers : ℕ
  scripts : ℕ
  total : ℕ
  deriving DecidableEq, Repr

/-- Remove the stale rows of what was found. -/
def removeStale (k : Resource) (found : List (ℕ × Row k)) : RouterProg ℕ :=
  let rows := found.filter fun r => stale ipv6 managed k r.2
  (Prog.forEach rows fun r => remove k r.1).bind fun _ => .ret rows.length

end Stale

/-- `cleanup_stale_managed_resources`. -/
def cleanupStaleManagedResources (ipv6 : String → Option String) : RouterProg Removed :=
  serialized <| connect.bind fun _ =>
    explained "Unable to clean stale managed RouterOS resources" <|
    (entries .addressList fun _ => true).bind fun found =>
    let managed := restrictedAddresses (found.map Prod.snd)
    (removeStale ipv6 managed .addressList found).bind fun addressLists =>
    (entries .queue fun _ => true).bind fun found =>
    (removeStale ipv6 managed .queue found).bind fun queues =>
    (entries .scheduler fun _ => true).bind fun found =>
    (removeStale ipv6 managed .scheduler found).bind fun schedulers =>
    (entries .script fun _ => true).bind fun found =>
    (removeStale ipv6 managed .script found).bind fun scripts =>
    .ret { addressLists := addressLists, queues := queues, schedulers := schedulers,
           scripts := scripts, total := addressLists+queues+schedulers+scripts }

namespace RouterOS
variable (r : RouterOS)

/-- The addresses of the managed devices. -/
def managedAddresses : List String := restrictedAddresses (allRows r.tables .addressList)

/-- What the security posture reports as stale. -/
def staleResources (ipv6 : String → Option String) : StaleResources where
  addressLists := ((allRows r.tables .addressList).filter fun e =>
    isManagedList e.list && unmanaged r.managedAddresses (addressText ipv6 e.address)).map
      fun e => (e.list,e.address)
  queues := ((allRows r.tables .queue).filter fun q => isManagedQueue q.name &&
    queueIpv4 q.name=queueTargetIpv4 q.target && unmanaged r.managedAddresses (queueIpv4 q.name)).map
      SimpleQueue.name
  schedulers := ((allRows r.tables .scheduler).map Scheduler.name).filter fun name =>
    unmanaged r.managedAddresses (encodedIpv4 "MC-TEMP-DEV-" name)
  scripts := ((allRows r.tables .script).map Script.name).filter fun name =>
    unmanaged r.managedAddresses (encodedIpv4 "MC-TEMP-RESTORE-DEV-" name)

/-- The owned queues of devices that are not managed, with a target that their name does not
carry. -/
def misdirectedQueues : List SimpleQueue :=
  (allRows r.tables .queue).filter fun q => isManagedQueue q.name &&
    queueIpv4 q.name≠queueTargetIpv4 q.target && unmanaged r.managedAddresses (queueIpv4 q.name)

end RouterOS

section Sparing
variable {ipv6 : String → Option String} {env : Environment} {r r' : RouterOS} {s : System}

/-- Only stale rows are gone. -/
structure Spared (ipv6 : String → Option String) (r r' : RouterOS) : Prop where
  filter : r'.filter=r.filter
  rows : ∀ k, (r'.tables k).rows.Sublist (r.tables k).rows
  kept : ∀ k, ∀ row ∈ (r.tables k).rows, stale ipv6 r.managedAddresses k row.2=false →
    row ∈ (r'.tables k).rows

lemma Spared.refl (r : RouterOS) : Spared ipv6 r r :=
  ⟨rfl,fun _ => .refl _,fun _ _ hrow _ => hrow⟩

lemma dropping_self (s : System) (k : Resource) (p : ℕ → Row k → Bool) :
    (s.dropping k p).router.tables k=(s.router.tables k).delete p := Function.update_self ..

lemma dropping_of_ne {k k' : Resource} (h : k'≠k) (p : ℕ → Row k → Bool) :
    (s.dropping k p).router.tables k'=s.router.tables k' := Function.update_of_ne h ..

/-- Removing one more stale row by its number. -/
lemma Spared.remove {k : Resource} {row : ℕ × Row k} (h : Spared ipv6 r s.router)
    (hrow : row ∈ (r.tables k).rows) (hstale : stale ipv6 r.managedAddresses k row.2=true) :
    Spared ipv6 r (s.dropping k fun i _ => i=row.1).router where
  filter := h.filter
  rows k' := by
    by_cases hk : k'=k
    · subst hk
      rw [dropping_self]
      exact List.filter_sublist.trans (h.rows k')
    · rw [dropping_of_ne hk]
      exact h.rows k'
  kept k' row' hrow' hnot := by
    have hmem := h.kept k' row' hrow' hnot
    by_cases hk : k'=k
    · subst hk
      rw [dropping_self]
      refine List.mem_filter.mpr ⟨hmem,?_⟩
      have hne : row'.1≠row.1 := by
        intro heq
        have hfound := Table.mem_iff.mp hrow
        have hfound' := Table.mem_iff.mp hrow'
        rw [heq,hfound] at hfound'
        rw [← Option.some.inj hfound',hstale] at hnot
        cases hnot
      simpa using hne
    · rw [dropping_of_ne hk]
      exact hmem

lemma numbers_nodup {α : Type} (t : Table α) : t.rows.Nodup :=
  t.increasing.imp fun h heq => Nat.ne_of_lt h (congrArg Prod.fst heq)

/-- What is never stale is found as before. -/
lemma Spared.select {k : Resource} {p : Row k → Bool} (h : Spared ipv6 r r')
    (hp : ∀ row, p row=true → stale ipv6 r.managedAddresses k row=false) :
    (r'.tables k).select (fun _ row => p row)=(r.tables k).select fun _ row => p row := by
  refine ((h.rows k).filter fun row => p row.2).eq_of_length_le (List.Subperm.length_le ?_)
  refine List.subperm_of_subset (List.Nodup.filter _ (numbers_nodup (r.tables k))) fun row hrow => ?_
  obtain ⟨hmem,hrow⟩ := List.mem_filter.mp hrow
  exact List.mem_filter.mpr ⟨h.kept k row hmem (hp row.2 hrow),hrow⟩

lemma allRows_eq (t : TableFamily Row) (k : Resource) : allRows t k=(t k).rows.map Prod.snd :=
  congrArg (List.map Prod.snd) (List.filter_eq_self.mpr fun _ _ => rfl)

/-- The members of `Restricted_Devices` are never stale. -/
lemma Spared.managedAddresses (h : Spared ipv6 r r') : r'.managedAddresses=r.managedAddresses := by
  have hselect := h.select (k:=.addressList)
    (p:=fun e => e.list=restrictedList && !e.dynamic) fun e he => ?_
  · have hrows (r : RouterOS) : r.managedAddresses=((r.tables .addressList).select fun _ e =>
        e.list=restrictedList && !e.dynamic).map fun row => row.2.address := by
      unfold RouterOS.managedAddresses restrictedAddresses Table.select
      rw [allRows_eq,List.filter_map,List.map_map]
      rfl
    rw [hrows,hrows,hselect]
  · rw [Bool.and_eq_true_iff,decide_eq_true_iff] at he
    have hforeign : isManagedList restrictedList=false := by decide +kernel
    change (isManagedList e.list && _)=false
    rw [he.1,hforeign]
    rfl

lemma encodedIpv4_valid {lead name text : String} (h : encodedIpv4 lead name=some text) :
    isIpv4 text=true := by
  unfold encodedIpv4 at h
  by_cases hstart : name.startsWith lead=true
  swap
  · rw [if_neg hstart] at h
    cases h
  rw [if_pos hstart] at h
  dsimp only at h
  split_ifs at h with hparts hvalid
  exact Option.some.inj h ▸ hvalid

/-- The script of a scheduler carries the same address. -/
lemma encodedIpv4_scriptOf {name text : String} (h : encodedIpv4 "MC-TEMP-DEV-" name=some text) :
    encodedIpv4 "MC-TEMP-RESTORE-DEV-" (scriptOf text)=some text :=
  Ipv4.encodedIpv4_dashed ⟨text,encodedIpv4_valid h⟩ "MC-TEMP-RESTORE-DEV-"

/-- What the cleanup leaves on its way: scripts only go once no stale scheduler is left. -/
structure Cleaning (ipv6 : String → Option String) (r r' : RouterOS) : Prop
    extends Spared ipv6 r r' where
  paired : r'.tables .script=r.tables .script ∨
    ∀ row ∈ (r'.tables .scheduler).rows, stale ipv6 r.managedAddresses .scheduler row.2=false

/-- No scheduler loses its script. -/
lemma Cleaning.temporaryIntegrity (h : Cleaning ipv6 r r')
    (hr : temporaryIntegrity ((allRows r.tables .scheduler).map Scheduler.name)
      ((allRows r.tables .script).map Script.name)=true) :
    temporaryIntegrity ((allRows r'.tables .scheduler).map Scheduler.name)
      ((allRows r'.tables .script).map Script.name)=true := by
  rw [temporaryIntegrity_iff] at hr ⊢
  simp only [allRows_eq,List.mem_map,exists_exists_and_eq_and,forall_exists_index,and_imp,
    forall_apply_eq_imp_iff₂] at hr ⊢
  refine ⟨fun row hrow hstart => ?_,fun row hrow hstart =>
    hr.2 row ((h.rows .script).subset hrow) hstart⟩
  obtain ⟨text,hencoded,script,hscript,hname⟩ :=
    hr.1 row ((h.rows .scheduler).subset hrow) hstart
  refine ⟨text,hencoded,script,?_,hname⟩
  rcases h.paired with hsame | hfresh
  · rw [hsame]
    exact hscript
  · refine h.kept .script script hscript ?_
    have hscheduler := hfresh row hrow
    change unmanaged r.managedAddresses (encodedIpv4 _ row.2.name)=false at hscheduler
    change unmanaged r.managedAddresses (encodedIpv4 _ script.2.name)=false
    rw [hname,encodedIpv4_scriptOf hencoded,← hencoded]
    exact hscheduler

/-- The cleanup leaves the gate open. -/
lemma Cleaning.kept_tables (h : Cleaning ipv6 r r') : Kept env r.tables r'.tables where
  slow := by
    refine congrArg (List.map Prod.snd) (h.select fun q hq => ?_)
    have hname : q.name=slowQueueName := of_decide_eq_true hq
    have hforeign : isManagedQueue slowQueueName=false := by decide +kernel
    change (isManagedQueue q.name && _)=false
    rw [hname,hforeign]
    rfl
  integral := by
    rw [integral_iff,integral_iff]
    have hsub (k : Resource) : (allRows r'.tables k).Sublist (allRows r.tables k) := by
      rw [allRows_eq,allRows_eq]
      exact (h.rows k).map _
    exact fun hr => ⟨addressListIntegrity_sublist (hsub .addressList) hr.1,
      queueIntegrity_sublist (hsub .queue) hr.2.1,h.temporaryIntegrity hr.2.2⟩

lemma Cleaning.failedChecks (h : Cleaning ipv6 r r') (hr : r.failedChecks env=[]) :
    r'.failedChecks env=[] := by
  have hkept : Kept env r.tables r'.tables := h.kept_tables
  rw [failedChecks_iff] at hr ⊢
  refine ⟨?_,fun key hkey => ?_,hkept.integral hr.2.2⟩
  · rw [hkept.slow,RouterOS.rules,h.filter]
    exact hr.1
  · rw [contractFailure_congr h.filter]
    exact hr.2.1 key hkey

end Sparing

section Sweeping
variable {ipv6 : String → Option String} {r : RouterOS} {s : System} {n : ℕ} {k : Resource}
  {done : List Resource}

/-- RouterOS without the stale rows of some tables. -/
def RouterOS.swept (ipv6 : String → Option String) (r : RouterOS) (done : List Resource) :
    RouterOS :=
  { r with tables := fun k =>
      if k ∈ done then (r.tables k).delete fun _ row => stale ipv6 r.managedAddresses k row
      else r.tables k }

lemma swept_nil (r : RouterOS) : r.swept ipv6 []=r := by
  unfold RouterOS.swept
  simp

/-- Some stale rows of one more table are gone. The scripts go last. -/
lemma cleaning_dropping (hs : s.router=r.swept ipv6 done) (hk : k ∉ done)
    (hlast : .script ∉ done) (hscript : k=.script → .scheduler ∈ done) {p : ℕ → Row k → Bool}
    (hp : ∀ i row, p i row → stale ipv6 r.managedAddresses k row=true) :
    Cleaning ipv6 r (s.dropping k p).router := by
  have hself : (s.dropping k p).router.tables k=(r.tables k).delete p := by
    rw [dropping_self,hs]
    exact congrArg (fun t => Table.delete t p) (if_neg hk)
  have hothers {k' : Resource} (h : k'≠k) : (s.dropping k p).router.tables k'=
      if k' ∈ done then (r.tables k').delete fun _ row => stale ipv6 r.managedAddresses k' row
      else r.tables k' := by
    rw [dropping_of_ne h,hs]
    rfl
  have hfilter : s.router.filter=r.filter := by
    rw [hs]
    rfl
  refine ⟨⟨hfilter,fun k' => ?_,fun k' row hrow hnot => ?_⟩,?_⟩
  · by_cases h : k'=k
    · subst h
      rw [hself]
      exact List.filter_sublist
    · rw [hothers h]
      split_ifs
      · exact List.filter_sublist
      · exact .refl _
  · by_cases h : k'=k
    · subst h
      rw [hself]
      refine List.mem_filter.mpr ⟨hrow,?_⟩
      rw [Bool.not_eq_true',← Bool.not_eq_true]
      exact fun hgone => absurd ((hp row.1 row.2 hgone).symm.trans hnot) (by decide)
    · rw [hothers h]
      split_ifs
      · exact List.mem_filter.mpr ⟨hrow,by simpa using hnot⟩
      · exact hrow
  · by_cases h : k=.script
    · refine .inr fun row hrow => ?_
      have hscheduler : Resource.scheduler≠k := fun heq => by cases heq.trans h
      rw [hothers hscheduler,if_pos (hscript h)] at hrow
      simpa using (List.mem_filter.mp hrow).2
    · exact .inl ((hothers (Ne.symm h)).trans (if_neg hlast))

/-- Sweeping one more table. -/
lemma withstands_sweep {α : Type} {f : ℕ → RouterProg α} {Q : Except Failure α → ℕ → System → Prop}
    (hs : s.router=r.swept ipv6 done) (hk : k ∉ done) (hlast : .script ∉ done)
    (hscript : k=.script → .scheduler ∈ done)
    (next : ∀ t : System, Cleaning ipv6 r t.router → t.router=r.swept ipv6 (k::done) →
      (f ((allRows r.tables k).filter (stale ipv6 r.managedAddresses k)).length).Withstands
        router (fun t => Cleaning ipv6 r t.router) n t Q)
    (failed : ∀ e m t, m<n → Q (.error e) m t) :
    ((entries k fun _ => true).bind fun found =>
      (removeStale ipv6 r.managedAddresses k found).bind f).Withstands router
        (fun t => Cleaning ipv6 r t.router) n s Q := by
  let query : Row k → Bool := stale ipv6 r.managedAddresses k
  have keep (p : ℕ → Row k → Bool) (hp : ∀ i row, p i row → query row) :
      Cleaning ipv6 r (s.dropping k p).router := cleaning_dropping hs hk hlast hscript hp
  have hstart : Cleaning ipv6 r s.router := by
    have hnone := keep (fun _ _ => false) nofun
    rwa [System.dropping,delete_none,Function.update_eq_self] at hnone
  have hrows : (s.router.tables.rows k fun _ => true).filter (fun row => query row.2)=
      s.router.tables.rows k query := by
    unfold TableFamily.rows Table.select
    rw [List.filter_filter]
    simp
  have htable : s.router.tables k=r.tables k := by
    rw [hs]
    exact if_neg hk
  have hswept : (s.withTables (s.router.tables.without k query)).router=
      r.swept ipv6 (k::done) := by
    unfold System.withTables TableFamily.without RouterOS.swept
    rw [hs]
    refine congrArg (fun tables => { r with tables := tables }) (funext fun k' => ?_)
    by_cases h : k'=k
    · subst h
      rw [Function.update_self,if_pos List.mem_cons_self]
      exact congrArg (fun t => Table.delete t _) (if_neg hk)
    · rw [Function.update_of_ne h]
      simp only [RouterOS.swept,List.mem_cons,h,false_or]
  refine Prog.withstands_bind (withstands_entries hstart ?_ fun e m hm => failed e m s (by omega))
  refine Prog.withstands_bind ?_
  unfold removeStale
  rw [hrows]
  refine Prog.withstands_bind (withstands_removeEach keep ?_
    fun e m p hm _ => failed e m _ (by omega))
  have hcount : (s.router.tables.rows k query).length=
      ((allRows r.tables k).filter query).length := by
    rw [allRows_eq,← htable,List.filter_map,List.length_map]
    rfl
  rw [hcount]
  have hcleaning := keep (fun _ row => query row) fun _ _ h => h
  exact ⟨hcleaning,next _ hcleaning hswept⟩

/-- The count of a cleanup of all tables. -/
def RouterOS.removed (r : RouterOS) (ipv6 : String → Option String) : Removed :=
  let count (k : Resource) : ℕ :=
    ((allRows r.tables k).filter (stale ipv6 r.managedAddresses k)).length
  { addressLists := count .addressList, queues := count .queue, schedulers := count .scheduler,
    scripts := count .script,
    total := count .addressList+count .queue+count .scheduler+count .script }

/-- RouterOS after a cleanup of all tables. -/
abbrev RouterOS.cleaned (r : RouterOS) (ipv6 : String → Option String) : RouterOS :=
  r.swept ipv6 [.script,.scheduler,.queue,.addressList]

/-- A cleanup sweeps all tables unless a call fails. -/
theorem withstands_cleanup (ipv6 : String → Option String) (s : System) (n : ℕ) :
    (cleanupStaleManagedResources ipv6).Withstands router
      (fun t => Cleaning ipv6 s.router t.router) n s fun o m t => match o with
        | .ok removed => removed=s.router.removed ipv6 ∧ t.router=s.router.cleaned ipv6 ∧
          Cleaning ipv6 s.router t.router
        | .error _ => m<n := by
  let K : Except Failure Removed → ℕ → RouterOS → Prop := fun o m r => match o with
    | .ok removed => removed=s.router.removed ipv6 ∧ r=s.router.cleaned ipv6 ∧
      Cleaning ipv6 s.router r
    | .error _ => m<n
  have hstart : Cleaning ipv6 s.router s.router := ⟨.refl _,.inl rfl⟩
  refine @withstands_serialized _ _ _ _ (Cleaning ipv6 s.router) K ?_
  refine Prog.withstands_bind (reads_connect.withstands hstart ?_
    fun e m hm => show m<n by omega)
  rw [exec_connect]
  refine withstands_explained (Prog.Withstands.mono (Q:=fun o m t => K o m t.router) ?_
    fun o m t _ _ ho => ?_)
  swap
  · cases o with
    | ok removed => exact ho
    | error e => cases e <;> exact ho
  have failed (e : Failure) (m : ℕ) (t : System) (hm : m<n) : K (.error e) m t.router := hm
  refine withstands_sweep (swept_nil s.router).symm List.not_mem_nil List.not_mem_nil nofun
    (fun t _ ht => ?_) failed
  refine withstands_sweep ht (by decide) (by decide) nofun (fun t _ ht => ?_) failed
  refine withstands_sweep ht (by decide) (by decide) nofun (fun t _ ht => ?_) failed
  refine withstands_sweep ht (by decide) (by decide) (fun _ => by decide)
    (fun t hcleaning ht => ?_) failed
  exact ⟨hcleaning,rfl,ht,hcleaning⟩

/-- Whatever fails during a cleanup, in every state on the way only stale rows are gone, and an
open gate stays open. -/
theorem cleanup_spares (ipv6 : String → Option String) (env : Environment) (s : System)
    (faults : List Fault) :
    ∀ t ∈ (cleanupStaleManagedResources ipv6).visited router.faulty (s,faults),
      Spared ipv6 s.router t.1.router ∧
        (s.router.failedChecks env=[] → t.1.router.failedChecks env=[]) := by
  intro t ht
  have hcleaning := ((withstands_cleanup ipv6 s (failures faults)).run le_rfl).1 t ht
  exact ⟨hcleaning.toSpared,hcleaning.failedChecks⟩

/-- A device that is still blocked by its own list, although it is no longer managed. -/
def abandonedRouter : RouterOS where
  filter := []
  tables
    | .addressList =>
      (Table.empty.insert { list := restrictedList, address := "192.168.88.20" }).insert
        { list := deviceBlockList, address := "192.168.88.30" }
    | _ => Table.empty

lemma visited_ne_nil {α : Type} (p : RouterProg α) (s : System × List Fault) :
    p.visited router.faulty s≠[] := by
  cases p <;> exact List.cons_ne_nil _ _

theorem cleanup_spares_abandoned :
    ∃ t ∈ (cleanupStaleManagedResources fun _ => none).visited router.faulty
        ({ router := abandonedRouter },[]),
      (t.1.router.tables .addressList).rows.length=1 ∧
        Spared (fun _ => none) abandonedRouter t.1.router :=
  ⟨_,List.getLast_mem (visited_ne_nil _ _),by decide +kernel,
    (cleanup_spares (fun _ => none) {} { router := abandonedRouter } [] _
      (List.getLast_mem (visited_ne_nil _ _))).1⟩

/-- After a cleanup the posture has nothing stale to report, and the count says what is gone. -/
structure Cleared (ipv6 : String → Option String) (r : RouterOS) (removed : Removed)
    (r' : RouterOS) : Prop where
  rows : ∀ k row, row ∈ (r'.tables k).rows ↔
    row ∈ (r.tables k).rows ∧ stale ipv6 r.managedAddresses k row.2=false
  nothing : (r'.staleResources ipv6).total=0
  queues : r'.misdirectedQueues=[]
  total : removed.total=(r.staleResources ipv6).total+r.misdirectedQueues.length

/-- What a cleanup removes is what the posture reports as stale, and the owned queues of unmanaged
devices that it reports as malformed. -/
lemma removed_total (ipv6 : String → Option String) (r : RouterOS) :
    (r.removed ipv6).total=(r.staleResources ipv6).total+r.misdirectedQueues.length := by
  have hlists : (r.staleResources ipv6).addressLists.length=
      ((allRows r.tables .addressList).filter (stale ipv6 r.managedAddresses .addressList)).length :=
    List.length_map _
  have hqueues : ((allRows r.tables .queue).filter (stale ipv6 r.managedAddresses .queue)).length=
      (r.staleResources ipv6).queues.length+r.misdirectedQueues.length := by
    rw [List.length_eq_length_filter_add fun q : SimpleQueue =>
      decide (queueIpv4 q.name=queueTargetIpv4 q.target),List.filter_filter,List.filter_filter]
    refine congrArg₂ (·+·) (.trans ?_ (List.length_map _).symm) ?_
    · exact congrArg List.length (List.filter_congr fun q _ => by
        simp only [stale,Bool.and_left_comm,Bool.and_assoc])
    · exact congrArg List.length (List.filter_congr fun q _ => by
        simp only [stale,decide_not,Bool.and_left_comm,Bool.and_assoc])
  have hnames {α : Type} (rows : List α) (name : α → String) (p : String → Bool) :
      ((rows.map name).filter p).length=(rows.filter fun row => p (name row)).length := by
    rw [List.filter_map,List.length_map]
    rfl
  have hschedulers : (r.staleResources ipv6).schedulers.length=
      ((allRows r.tables .scheduler).filter (stale ipv6 r.managedAddresses .scheduler)).length := hnames ..
  have hscripts : (r.staleResources ipv6).scripts.length=
      ((allRows r.tables .script).filter (stale ipv6 r.managedAddresses .script)).length := hnames ..
  unfold RouterOS.removed StaleResources.total
  dsimp only
  omega

lemma mem_cleaned {ipv6 : String → Option String} {r : RouterOS} {k : Resource} {row : ℕ × Row k} :
    row ∈ ((r.cleaned ipv6).tables k).rows ↔
      row ∈ (r.tables k).rows ∧ stale ipv6 r.managedAddresses k row.2=false := by
  cases k with
  | connection => exact (and_iff_left rfl).symm
  | _ => exact List.mem_filter.trans (and_congr_right fun _ => by simp)

lemma cleared_of_cleaning {ipv6 : String → Option String} {r : RouterOS}
    (h : Cleaning ipv6 r (r.cleaned ipv6)) :
    Cleared ipv6 r (r.removed ipv6) (r.cleaned ipv6) := by
  have hfresh {k : Resource} {row : Row k} (hrow : row ∈ allRows (r.cleaned ipv6).tables k) :
      stale ipv6 r.managedAddresses k row=false := by
    rw [allRows_eq] at hrow
    obtain ⟨row',hmem,rfl⟩ := List.mem_map.mp hrow
    exact (mem_cleaned.mp hmem).2
  have hmanaged := h.managedAddresses
  have hnone (q : SimpleQueue) (p : Bool) (hq : q ∈ allRows (r.cleaned ipv6).tables .queue) :
      (isManagedQueue q.name && p && unmanaged r.managedAddresses (queueIpv4 q.name))=false := by
    have hq : (isManagedQueue q.name && unmanaged r.managedAddresses (queueIpv4 q.name))=false :=
      hfresh hq
    rw [Bool.and_right_comm,hq,Bool.false_and]
  have hempty {α : Type} {rows : List α} {p : α → Bool} (hp : ∀ row ∈ rows, p row=false) :
      rows.filter p=[] := List.filter_eq_nil_iff.mpr fun row hrow => by simp [hp row hrow]
  have hnames {k : Resource} (name : Row k → String) (p : String → Bool)
      (hp : ∀ row ∈ allRows (r.cleaned ipv6).tables k, p (name row)=false) :
      ((allRows (r.cleaned ipv6).tables k).map name).filter p=[] := by
    refine hempty fun text htext => ?_
    obtain ⟨row,hrow,rfl⟩ := List.mem_map.mp htext
    exact hp row hrow
  refine ⟨fun k row => mem_cleaned,?_,?_,removed_total ipv6 r⟩
  · simp only [StaleResources.total,RouterOS.staleResources,hmanaged,List.length_map,
      Nat.add_eq_zero_iff,List.length_eq_zero_iff]
    exact ⟨⟨⟨hempty fun e he => hfresh he,hempty fun q hq => hnone q _ hq⟩,
      @hnames .scheduler Scheduler.name _ fun scheduler hs => hfresh hs⟩,
      @hnames .script Script.name _ fun script hs => hfresh hs⟩
  · unfold RouterOS.misdirectedQueues
    rw [hmanaged]
    exact hempty fun q hq => hnone q _ hq

theorem cleanup_clears (ipv6 : String → Option String) (s : System) (faults : List Fault) :
    match (cleanupStaleManagedResources ipv6).run router.faulty (s,faults) with
    | (.ok removed,t) => Cleared ipv6 s.router removed t.1.router
    | (.error _,_) => 0<failures faults := by
  obtain ⟨-,m,hm,hend⟩ := (withstands_cleanup ipv6 s (failures faults)).run le_rfl
  cases hrun : (cleanupStaleManagedResources ipv6).run router.faulty (s,faults) with
  | mk o t =>
    rw [hrun] at hend
    cases o with
    | ok removed =>
      obtain ⟨rfl,hrouter,hcleaning⟩ := hend
      dsimp only at hrouter hcleaning ⊢
      rw [hrouter] at hcleaning ⊢
      exact cleared_of_cleaning hcleaning
    | error e => exact Nat.zero_lt_of_lt hend

end Sweeping
end ZenControl.Router
