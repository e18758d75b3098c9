import ZenControl.Router.Writes

/-! Switching the mode of a device: what the writer leaves behind when no call fails, and how
restricted the device stays while a call may fail. -/
namespace ZenControl.Router
open Calls Requests Rows

section Entries
variable (address : Ipv4) (list comment : String) (t : TableFamily Row)

/-- The tables after `establishEntry`. -/
def entryEstablished : TableFamily Row :=
  if (t.rows .addressList (inList list address)).length=1 then t
  else (t.without .addressList (inList list address)).adding .addressList
    { list := list, address := address.text, comment := comment }

variable {address list comment t}

lemma exec_establishEntry {s : System} : exec (establishEntry address list comment) s=
    (.ok (),s.withTables (entryEstablished address list comment s.router.tables)) := by
  unfold establishEntry listEntries entryEstablished
  rw [exec_bind_ok (exec_entries _ _ s)]
  split_ifs with h
  · rfl
  · unfold removeListEntries
    rw [exec_bind_ok (exec_removing ..),exec_adding]
    rfl

lemma rows_entryEstablished :
    ((entryEstablished address list comment t).rows .addressList (inList list address)).length=1 := by
  unfold entryEstablished
  split_ifs with h
  · exact h
  · rw [TableFamily.rows_adding,TableFamily.rows_without_self,
      if_pos (show inList list address _ by simp [inList])]
    rfl

/-- Other entries stay. -/
lemma rows_entryEstablished_of_disjoint {query : AddressEntry → Bool}
    (h : ∀ e, query e → inList list address e=false) :
    (entryEstablished address list comment t).rows .addressList query=
      t.rows .addressList query := by
  unfold entryEstablished
  split_ifs
  · rfl
  · rw [TableFamily.rows_adding_of_not,TableFamily.rows_without_disjoint h]
    by_contra hquery
    have hin := h _ (by simpa using hquery)
    simp [inList] at hin

lemma entryEstablished_of_ne {k : Resource} (h : k≠.addressList) :
    entryEstablished address list comment t k=t k := by
  unfold entryEstablished
  split_ifs
  · rfl
  · rw [TableFamily.adding_of_ne h,TableFamily.without_of_ne h]

end Entries

section Queues
variable (address : Ipv4) (name maxLimit comment : String) (t : TableFamily Row)

/-- The tables after `setQueue`, for the queues of that name. -/
def queueEstablished : TableFamily Row :=
  match t.rows .queue (isQueue name) with
  | [(id,_)] => t.changing .queue id fun queue =>
      { deviceQueue address name maxLimit comment with name := queue.name }
  | _ => (t.without .queue (isQueue name)).adding .queue
      (deviceQueue address name maxLimit comment)

variable {address name maxLimit comment t}

/-- The fields of a queue that is there are set. -/
lemma rows_queueSet (id : ℕ) (name' : String) :
    (t.changing .queue id fun queue => { deviceQueue address name maxLimit comment with
      name := queue.name }).rows .queue (isQueue name')=(t.rows .queue (isQueue name')).map
        fun r => (r.1,if r.1=id then { deviceQueue address name maxLimit comment with
          name := r.2.name } else r.2) :=
  TableFamily.rows_changing (k:=Resource.queue) fun _ => rfl

lemma exec_setQueue {s : System} : exec (setQueue address
    (s.router.tables.rows .queue (isQueue name)) name maxLimit comment) s=
    (.ok (),s.withTables (queueEstablished address name maxLimit comment s.router.tables)) := by
  unfold setQueue queueEstablished
  cases hrows : s.router.tables.rows .queue (isQueue name) with
  | nil =>
    dsimp only
    unfold removeQueues
    rw [exec_bind_ok (exec_removing ..),exec_adding]
    rfl
  | cons q rest =>
    cases rest with
    | nil =>
      have hfind : ((s.router.tables .queue).find q.1).isSome := by
        have hmem : q ∈ s.router.tables.rows .queue (isQueue name) := by
          rw [hrows]
          exact List.mem_cons_self
        rw [(Table.mem_select.mp hmem).1]
        rfl
      exact exec_changing hfind _
    | cons q' rest =>
      dsimp only
      unfold removeQueues
      rw [exec_bind_ok (exec_removing ..),exec_adding]
      rfl

/-- There is one queue of the name, with the fields of the writer. -/
lemma rows_queueEstablished :
    ((queueEstablished address name maxLimit comment t).rows .queue (isQueue name)).map Prod.snd=
      [deviceQueue address name maxLimit comment] := by
  have hadded : (((t.without .queue (isQueue name)).adding .queue
      (deviceQueue address name maxLimit comment)).rows .queue (isQueue name)).map Prod.snd=
      [deviceQueue address name maxLimit comment] := by
    rw [TableFamily.rows_adding,TableFamily.rows_without_self,
      if_pos (show isQueue name _ by simp [isQueue,deviceQueue])]
    rfl
  unfold queueEstablished
  cases hrows : t.rows .queue (isQueue name) with
  | nil => exact hadded
  | cons q rest =>
    cases rest with
    | nil =>
      have hname : q.2.name=name := by
        have hmem : q ∈ t.rows .queue (isQueue name) := by
          rw [hrows]
          exact List.mem_cons_self
        simpa [isQueue] using (Table.mem_select.mp hmem).2
      refine (congrArg (List.map Prod.snd) (rows_queueSet q.1 name)).trans ?_
      rw [hrows]
      simp only [List.map_cons,List.map_nil,if_true,hname]
      rfl
    | cons q' rest => exact hadded

/-- The queues of another name stay. -/
lemma rows_queueEstablished_of_ne {name' : String} (h : name'≠name) :
    (queueEstablished address name maxLimit comment t).rows .queue (isQueue name')=
      t.rows .queue (isQueue name') := by
  have hdisjoint (q : SimpleQueue) (hq : isQueue name' q) : isQueue name q=false := by
    have hname : q.name=name' := by simpa [isQueue] using hq
    simpa [isQueue,hname] using h
  have hadded : ((t.without .queue (isQueue name)).adding .queue
      (deviceQueue address name maxLimit comment)).rows .queue (isQueue name')=
      t.rows .queue (isQueue name') := by
    rw [TableFamily.rows_adding_of_not,TableFamily.rows_without_disjoint hdisjoint]
    exact decide_eq_false h.symm
  unfold queueEstablished
  cases hrows : t.rows .queue (isQueue name) with
  | nil => exact hadded
  | cons q rest =>
    cases rest with
    | cons q' rest => exact hadded
    | nil =>
      refine (rows_queueSet q.1 name').trans ?_
      have hother (r : ℕ × SimpleQueue) (hr : r ∈ t.rows .queue (isQueue name')) : r.1≠q.1 := by
        intro hid
        have hmem : q ∈ t.rows .queue (isQueue name) := by
          rw [hrows]
          exact List.mem_cons_self
        have hq := Table.mem_select.mp hmem
        have hr := Table.mem_select.mp hr
        have hsame : r.2=q.2 := Option.some.inj (hr.1.symm.trans (hid ▸ hq.1))
        have hnot := hdisjoint r.2 hr.2
        rw [hsame] at hnot
        exact absurd hq.2 (by simp [hnot])
      refine (List.map_congr_left fun r hr => ?_).trans (List.map_id _)
      rw [if_neg (hother r hr)]
      rfl

lemma queueEstablished_of_ne {k : Resource} (h : k≠.queue) :
    queueEstablished address name maxLimit comment t k=t k := by
  have hadded : (t.without .queue (isQueue name)).adding .queue
      (deviceQueue address name maxLimit comment) k=t k := by
    rw [TableFamily.adding_of_ne h,TableFamily.without_of_ne h]
  unfold queueEstablished
  cases t.rows .queue (isQueue name) with
  | nil => exact hadded
  | cons q rest =>
    cases rest with
    | nil => exact TableFamily.changing_of_ne h _ _
    | cons q' rest => exact hadded

end Queues
section Written
variable (env : Environment) (address : Ipv4) (description : String) (t : TableFamily Row)

/-- The tables after `writeMode`. -/
def modeWritten : Mode → TableFamily Row
  | .normal => ((t.without .addressList (inList deviceBlockList address)).without .addressList
      (inList deviceSlowList address)).without .queue (isQueue address.deviceSlowQueueName)
  | .blocked => (((entryEstablished address deviceBlockList
      (described description "MC - Device Block") t).without .addressList
      (inList deviceSlowList address)).without .queue (isQueue address.deviceSlowQueueName)).without
      .queue (isQueue address.deviceBandwidthQueueName)
  | .slow => ((entryEstablished address deviceSlowList (described description "MC - Device Slow")
      (queueEstablished address address.deviceSlowQueueName env.deviceSlowLimit
        (described description "MC - Per Device Slow") t)).without .queue
      (isQueue address.deviceBandwidthQueueName)).without .addressList
      (inList deviceBlockList address)

variable {env address description t}

lemma exec_writeMode {s : System} (mode : Mode) : exec (writeMode env address description mode) s=
    (.ok (),s.withTables (modeWritten env address description s.router.tables mode)) := by
  cases mode with
  | normal =>
    unfold writeMode removeListEntries removeQueues
    rw [exec_bind_ok (exec_removing ..),exec_bind_ok (exec_removing ..),exec_removing]
    rfl
  | blocked =>
    unfold writeMode removeListEntries removeQueues
    rw [exec_bind_ok exec_establishEntry,exec_bind_ok (exec_removing ..),
      exec_bind_ok (exec_removing ..),exec_removing]
    rfl
  | slow =>
    unfold writeMode removeListEntries removeQueues queuesNamed
    rw [exec_bind_ok (exec_entries _ _ s),exec_bind_ok exec_setQueue,
      exec_bind_ok exec_establishEntry,exec_bind_ok (exec_removing ..),exec_removing]
    rfl

lemma inList_disjoint {list list' : String} (h : list'≠list) (e : AddressEntry)
    (he : inList list' address e) : inList list address e=false := by
  have hlist : e.list=list' := by simp only [inList,Bool.and_eq_true,decide_eq_true_eq] at he; exact he.1
  simp [inList,hlist,h]

lemma isQueue_disjoint {name name' : String} (h : name'≠name) (q : SimpleQueue)
    (hq : isQueue name' q) : isQueue name q=false := by
  have hname : q.name=name' := by simpa [isQueue] using hq
  simpa [isQueue,hname] using h

lemma deviceSlowList_ne : deviceSlowList≠deviceBlockList := by decide

lemma bandwidthQueueName_ne (address : Ipv4) :
    address.deviceBandwidthQueueName≠address.deviceSlowQueueName := by
  intro h
  have hchars := congrArg String.toList h
  simp [Ipv4.deviceBandwidthQueueName,Ipv4.deviceSlowQueueName,String.toList_append] at hchars

/-- The entries of the device in a list, and the queues of a name, as tables show them. -/
abbrev listedIn (t : TableFamily Row) (list : String) (address : Ipv4) : List (ℕ × AddressEntry) :=
  t.rows .addressList (inList list address)

abbrev queuesIn (t : TableFamily Row) (name : String) : List (ℕ × SimpleQueue) :=
  t.rows .queue (isQueue name)

@[simp] lemma listedIn_without_queue (query : SimpleQueue → Bool) (list : String)
    (address : Ipv4) : listedIn (t.without .queue query) list address=listedIn t list address :=
  TableFamily.rows_congr (TableFamily.without_of_ne (show Resource.addressList≠.queue by decide) query) _

@[simp] lemma queuesIn_without_addressList (query : AddressEntry → Bool) (name : String) :
    queuesIn (t.without .addressList query) name=queuesIn t name :=
  TableFamily.rows_congr (TableFamily.without_of_ne (show Resource.queue≠.addressList by decide) query) _

lemma listedIn_without_self (list : String) :
    listedIn (t.without .addressList (inList list address)) list address=[] :=
  TableFamily.rows_without_self _

lemma listedIn_without_ne {list list' : String} (h : list'≠list) :
    listedIn (t.without .addressList (inList list address)) list' address=
      listedIn t list' address :=
  TableFamily.rows_without_disjoint (inList_disjoint h)

lemma queuesIn_without_self (name : String) :
    queuesIn (t.without .queue (isQueue name)) name=[] := TableFamily.rows_without_self _

lemma queuesIn_without_ne {name name' : String} (h : name'≠name) :
    queuesIn (t.without .queue (isQueue name)) name'=queuesIn t name' :=
  TableFamily.rows_without_disjoint (isQueue_disjoint h)

lemma queuesIn_entryEstablished (list comment name : String) :
    queuesIn (entryEstablished address list comment t) name=queuesIn t name :=
  TableFamily.rows_congr (entryEstablished_of_ne (by decide)) _

/-- The mode that tables show for a device. -/
def modeIn (t : TableFamily Row) (address : Ipv4) : Option Mode :=
  liveMode (listedIn t deviceBlockList address).length (listedIn t deviceSlowList address).length
    ((queuesIn t address.deviceSlowQueueName).map Prod.snd)

/-- The writer reaches its mode from any tables. -/
theorem modeIn_modeWritten (mode : Mode) :
    modeIn (modeWritten env address description t mode) address=some mode := by
  unfold modeIn modeWritten
  cases mode with
  | normal =>
    dsimp only
    rw [listedIn_without_queue,listedIn_without_queue,listedIn_without_ne deviceSlowList_ne.symm,
      listedIn_without_self,listedIn_without_self,queuesIn_without_self]
    rfl
  | blocked =>
    dsimp only
    rw [listedIn_without_queue,listedIn_without_queue,listedIn_without_queue,
      listedIn_without_queue,listedIn_without_ne deviceSlowList_ne.symm,listedIn_without_self,
      queuesIn_without_ne (bandwidthQueueName_ne address).symm,queuesIn_without_self,
      rows_entryEstablished]
    rfl
  | slow =>
    dsimp only
    rw [listedIn_without_self,listedIn_without_ne deviceSlowList_ne,listedIn_without_queue,
      queuesIn_without_addressList,queuesIn_without_ne (bandwidthQueueName_ne address).symm,
      queuesIn_entryEstablished,rows_entryEstablished,rows_queueEstablished]
    rfl

/-- Outside NORMAL the writer leaves no bandwidth queue. -/
lemma queuesIn_modeWritten_bandwidth {mode : Mode} (h : mode≠.normal) :
    queuesIn (modeWritten env address description t mode) address.deviceBandwidthQueueName=[] := by
  unfold modeWritten
  cases mode with
  | normal => exact absurd rfl h
  | blocked => exact queuesIn_without_self _
  | slow =>
    dsimp only
    rw [queuesIn_without_addressList,queuesIn_without_self]

/-- NORMAL leaves the bandwidth queues alone. -/
lemma queuesIn_modeWritten_normal :
    queuesIn (modeWritten env address description t .normal) address.deviceBandwidthQueueName=
      queuesIn t address.deviceBandwidthQueueName := by
  unfold modeWritten
  dsimp only
  rw [queuesIn_without_ne (bandwidthQueueName_ne address),queuesIn_without_addressList,
    queuesIn_without_addressList]

/-- The writer leaves every other list alone. -/
lemma rows_modeWritten_of_disjoint {query : AddressEntry → Bool} (mode : Mode)
    (hblock : ∀ e, query e → inList deviceBlockList address e=false)
    (hslow : ∀ e, query e → inList deviceSlowList address e=false) :
    (modeWritten env address description t mode).rows .addressList query=
      t.rows .addressList query := by
  unfold modeWritten
  cases mode with
  | normal =>
    dsimp only
    rw [TableFamily.rows_congr (TableFamily.without_of_ne (by decide) _),
      TableFamily.rows_without_disjoint hslow,TableFamily.rows_without_disjoint hblock]
  | blocked =>
    dsimp only
    rw [TableFamily.rows_congr (TableFamily.without_of_ne (by decide) _),
      TableFamily.rows_congr (TableFamily.without_of_ne (by decide) _),
      TableFamily.rows_without_disjoint hslow,rows_entryEstablished_of_disjoint hblock]
  | slow =>
    dsimp only
    rw [TableFamily.rows_without_disjoint hblock,
      TableFamily.rows_congr (TableFamily.without_of_ne (by decide) _),
      rows_entryEstablished_of_disjoint hslow,
      TableFamily.rows_congr (queueEstablished_of_ne (by decide))]

/-- The writer leaves the tables of other kinds alone. -/
lemma modeWritten_of_ne {k : Resource} (haddress : k≠.addressList) (hqueue : k≠.queue)
    (mode : Mode) : modeWritten env address description t mode k=t k := by
  unfold modeWritten
  cases mode with
  | normal =>
    dsimp only
    rw [TableFamily.without_of_ne hqueue,TableFamily.without_of_ne haddress,
      TableFamily.without_of_ne haddress]
  | blocked =>
    dsimp only
    rw [TableFamily.without_of_ne hqueue,TableFamily.without_of_ne hqueue,
      TableFamily.without_of_ne haddress,entryEstablished_of_ne haddress]
  | slow =>
    dsimp only
    rw [TableFamily.without_of_ne haddress,TableFamily.without_of_ne hqueue,
      entryEstablished_of_ne haddress,queueEstablished_of_ne hqueue]

end Written
section Restriction

/-- How much a mode restricts. -/
def restrictionOf : Mode → ℕ
  | .normal => 0
  | .slow => 1
  | .blocked => 2

/-- The device is in the block list. -/
def BlockedIn (t : TableFamily Row) (address : Ipv4) : Prop := listedIn t deviceBlockList address≠[]

/-- The device has a slow queue that is enabled. -/
def SlowedIn (t : TableFamily Row) (address : Ipv4) : Prop :=
  ∃ q ∈ queuesIn t address.deviceSlowQueueName, q.2.disabled=false

/-- The device is restricted at least so much: its packets are dropped while it is in the block
list, and its rate is limited by an enabled slow queue. -/
def Restricted (level : ℕ) (t : TableFamily Row) (address : Ipv4) : Prop :=
  level=0 ∨ (level ≤ 1 ∧ SlowedIn t address) ∨ (level ≤ 2 ∧ BlockedIn t address)

/-- What keeps a device restricted while entries that stand in the way of a mode are replaced. -/
def Covered (level : ℕ) (t : TableFamily Row) (address : Ipv4) : Mode → Prop
  | .normal => True
  | .blocked => level=0 ∨ (listedIn t deviceBlockList address).length ≤ 1 ∨
      (level ≤ 1 ∧ SlowedIn t address)
  | .slow => level=0 ∨ BlockedIn t address ∨ (queuesIn t address.deviceSlowQueueName).length=1

variable {I : System → Prop} {n : ℕ} {s : System}

/-- Restriction is a matter of entries and queues. -/
lemma restricted_congr {address : Ipv4} {w : ℕ} {t t' : TableFamily Row} (haddress : t' .addressList=t .addressList)
    (hqueue : t' .queue=t .queue) : Restricted w t' address ↔ Restricted w t address := by
  have hlisted : listedIn t' deviceBlockList address=listedIn t deviceBlockList address :=
    TableFamily.rows_congr haddress _
  have hqueues : queuesIn t' address.deviceSlowQueueName=queuesIn t address.deviceSlowQueueName :=
    TableFamily.rows_congr hqueue _
  unfold Restricted SlowedIn BlockedIn
  rw [hlisted,hqueues]

lemma liveMode_blocked {blocked slow : ℕ} {queues : List SimpleQueue}
    (h : liveMode blocked slow queues=some .blocked) : blocked=1 := by
  unfold liveMode at h
  split at h
  · cases h
  · rfl
  · split_ifs at h
    cases h
  · cases h

lemma liveMode_slow {blocked slow : ℕ} {queues : List SimpleQueue}
    (h : liveMode blocked slow queues=some .slow) :
    ∃ q, queues=[q] ∧ q.disabled=false := by
  unfold liveMode at h
  split at h
  · cases h
  · cases h
  · split_ifs at h with hdisabled
    exact ⟨_,rfl,by simpa using hdisabled⟩
  · cases h

/-- A device that shows a mode is restricted by it. -/
lemma restricted_of_mode {t : TableFamily Row} {address : Ipv4} {mode : Mode}
    (h : modeIn t address=some mode) : Restricted (restrictionOf mode) t address := by
  cases mode with
  | normal => exact .inl rfl
  | slow =>
    obtain ⟨q,hqueues,henabled⟩ := liveMode_slow h
    obtain ⟨r,hr,rfl⟩ := List.mem_map.mp (hqueues ▸ List.mem_singleton_self q)
    exact .inr (.inl ⟨Nat.le_refl 1,r,hr,henabled⟩)
  | blocked =>
    have hone := liveMode_blocked h
    refine .inr (.inr ⟨Nat.le_refl 2,fun hnone => ?_⟩)
    rw [hnone] at hone
    cases hone

variable {Q : Except Failure Unit → ℕ → System → Prop}

/-- Replace the entries of the device unless exactly one is there. -/
lemma withstands_establishEntry {address : Ipv4} {list comment : String} (start : I s)
    (keep : (listedIn s.router.tables list address).length≠1 →
      ∀ p, (∀ i row, p i row → inList list address row) → I (s.dropping .addressList p))
    (done : I (s.withTables (entryEstablished address list comment s.router.tables)) ∧
      Q (.ok ()) n (s.withTables (entryEstablished address list comment s.router.tables)))
    (failed : ∀ e m t, Q (.error e) m t) :
    (establishEntry address list comment).Withstands router I n s Q := by
  refine Prog.withstands_bind (withstands_entries start ?_ fun e m _ => failed e m s)
  unfold entryEstablished at done
  dsimp only
  split_ifs at done ⊢ with h
  · exact ⟨start,done.2⟩
  · refine Prog.withstands_bind (withstands_removeFound (keep h) ?_ fun e m p _ _ => failed e m _)
    have hgone : I (s.withTables (s.router.tables.without .addressList (inList list address))) :=
      keep h (fun _ row => inList list address row) fun _ _ h => h
    exact withstands_add hgone done fun e m _ => ⟨failed e m _,failed e m _⟩

/-- Set the one queue of a name, or replace what is there. -/
lemma withstands_setQueue {address : Ipv4} {name maxLimit comment : String} (start : I s)
    (keep : (queuesIn s.router.tables name).length≠1 →
      ∀ p, (∀ i row, p i row → isQueue name row) → I (s.dropping .queue p))
    (done : I (s.withTables (queueEstablished address name maxLimit comment s.router.tables)) ∧
      Q (.ok ()) n (s.withTables (queueEstablished address name maxLimit comment s.router.tables)))
    (failed : ∀ e m t, Q (.error e) m t) :
    (setQueue address (s.router.tables.rows .queue (isQueue name)) name maxLimit
      comment).Withstands router I n s Q := by
  let added := s.withTables ((s.router.tables.without .queue (isQueue name)).adding .queue
    (deviceQueue address name maxLimit comment))
  have replaced (h : (queuesIn s.router.tables name).length≠1)
      (done : I added ∧ Q (.ok ()) n added) : Prog.Withstands router I
        ((removeQueues name).bind fun _ => add .queue (deviceQueue address name maxLimit comment))
        n s Q := by
    refine Prog.withstands_bind (withstands_removeFound (keep h) ?_ fun e m p _ _ => failed e m _)
    have hgone : I (s.withTables (s.router.tables.without .queue (isQueue name))) :=
      keep h (fun _ row => isQueue name row) fun _ _ h => h
    exact withstands_add hgone done fun e m _ => ⟨failed e m _,failed e m _⟩
  unfold setQueue
  unfold queueEstablished at done
  unfold queuesIn at replaced
  cases hrows : s.router.tables.rows .queue (isQueue name) with
  | nil =>
    rw [hrows] at done replaced
    exact replaced (by decide) done
  | cons q tail =>
    rw [hrows] at done replaced
    cases tail with
    | nil =>
      have hfind : ((s.router.tables .queue).find q.1).isSome := by
        have hmem : q ∈ s.router.tables.rows .queue (isQueue name) := by
          rw [hrows]
          exact List.mem_cons_self
        rw [(Table.mem_select.mp hmem).1]
        rfl
      exact withstands_set hfind start done fun e m _ => ⟨failed e m _,failed e m _⟩
    | cons q' tail => exact replaced (by simp) done

variable {address : Ipv4} {w : ℕ}

/-- The tables of another kind stay. -/
lemma rows_dropping_of_ne {k k' : Resource} (h : k'≠k) (p : ℕ → Row k → Bool)
    (query : Row k' → Bool) :
    (s.dropping k p).router.tables.rows k' query=s.router.tables.rows k' query :=
  TableFamily.rows_congr (Function.update_of_ne h ..) query

/-- The rows that another query finds stay. -/
lemma rows_dropping_of_disjoint {k : Resource} {p : ℕ → Row k → Bool} {query query' : Row k → Bool}
    (hp : ∀ i row, p i row → query row) (h : ∀ row, query' row → query row=false) :
    (s.dropping k p).router.tables.rows k query'=s.router.tables.rows k query' := by
  unfold TableFamily.rows System.dropping
  rw [System.withTables_tables,Function.update_self]
  refine (List.filter_filter ..).trans (List.filter_congr fun r _ => ?_)
  dsimp only
  cases hquery : query' r.2 with
  | false => rfl
  | true =>
    have hnot : p r.1 r.2=false := by
      by_contra hp'
      have hin := hp r.1 r.2 (by simpa using hp')
      rw [h r.2 hquery] at hin
      cases hin
    rw [hnot]
    rfl

lemma restricted_of_blocked {t : TableFamily Row} (hw : w ≤ 2) (h : BlockedIn t address) :
    Restricted w t address := .inr (.inr ⟨hw,h⟩)

lemma restricted_of_slowed {t : TableFamily Row} (hw : w ≤ 1) (h : SlowedIn t address) :
    Restricted w t address := .inr (.inl ⟨hw,h⟩)

lemma BlockedIn.of_rows {t t' : TableFamily Row} (h : BlockedIn t address)
    (heq : listedIn t' deviceBlockList address=listedIn t deviceBlockList address) :
    BlockedIn t' address := by
  unfold BlockedIn
  rw [heq]
  exact h

lemma SlowedIn.of_rows {t t' : TableFamily Row} (h : SlowedIn t address)
    (heq : queuesIn t' address.deviceSlowQueueName=queuesIn t address.deviceSlowQueueName) :
    SlowedIn t' address := by
  unfold SlowedIn
  rw [heq]
  exact h

lemma blockedIn_entryEstablished (address : Ipv4) (comment : String) (t : TableFamily Row) :
    BlockedIn (entryEstablished address deviceBlockList comment t) address := by
  intro h
  have hlength := @rows_entryEstablished address deviceBlockList comment t
  rw [show (entryEstablished address deviceBlockList comment t).rows .addressList _=[] from h]
    at hlength
  cases hlength

lemma slowedIn_queueEstablished (address : Ipv4) (maxLimit comment : String) (t : TableFamily Row) :
    SlowedIn (queueEstablished address address.deviceSlowQueueName maxLimit comment t)
      address := by
  have hrows := @rows_queueEstablished address address.deviceSlowQueueName maxLimit comment t
  obtain ⟨q,hq,hqueue⟩ := List.mem_map.mp (hrows ▸ List.mem_singleton_self _)
  exact ⟨q,hq,by rw [hqueue]; rfl⟩

/-- The state of a thread in which the device is restricted. -/
abbrev Keeps (w : ℕ) (address : Ipv4) (t : System) : Prop := Restricted w t.router.tables address

/-- What is left of the writer when only rows outside the block list go. -/
lemma withstands_removing_blocked {k : Resource} {query : Row k → Bool} {f : Unit → RouterProg Unit}
    (hw : w ≤ 2) (h : BlockedIn s.router.tables address)
    (keep : ∀ p, (∀ i row, p i row → query row) →
      listedIn (s.dropping k p).router.tables deviceBlockList address=
        listedIn s.router.tables deviceBlockList address)
    (rest : ∀ t : System, BlockedIn t.router.tables address →
      (f ()).Withstands router (Keeps w address) n t fun _ _ _ => True) :
    ((removeFound k query).bind f).Withstands router (Keeps w address) n s fun _ _ _ => True := by
  refine Prog.withstands_bind (withstands_removeFound (fun p hp => ?_) ?_ fun _ _ _ _ _ => trivial)
  · exact restricted_of_blocked hw (h.of_rows (keep p hp))
  · exact rest _ (h.of_rows (keep (fun _ row => query row) fun _ _ h => h))

lemma withstands_removing_slowed {k : Resource} {query : Row k → Bool} {f : Unit → RouterProg Unit}
    (hw : w ≤ 1) (h : SlowedIn s.router.tables address)
    (keep : ∀ p, (∀ i row, p i row → query row) →
      queuesIn (s.dropping k p).router.tables address.deviceSlowQueueName=
        queuesIn s.router.tables address.deviceSlowQueueName)
    (rest : ∀ t : System, SlowedIn t.router.tables address →
      (f ()).Withstands router (Keeps w address) n t fun _ _ _ => True) :
    ((removeFound k query).bind f).Withstands router (Keeps w address) n s fun _ _ _ => True := by
  refine Prog.withstands_bind (withstands_removeFound (fun p hp => ?_) ?_ fun _ _ _ _ _ => trivial)
  · exact restricted_of_slowed hw (h.of_rows (keep p hp))
  · exact rest _ (h.of_rows (keep (fun _ row => query row) fun _ _ h => h))

lemma prog_bind_ret {α : Type} (p : RouterProg α) : p.bind .ret=p := by
  induction p with
  | ret a => rfl
  | raise e => rfl
  | call c k ih => exact congrArg (Prog.call c) (funext ih)

/-- While a mode is written the device stays restricted, if what stands in the way is covered. -/
theorem withstands_writeMode {env : Environment} {description : String} {mode : Mode}
    (hw : w ≤ restrictionOf mode) (start : Keeps w address s)
    (covered : Covered w s.router.tables address mode) :
    (writeMode env address description mode).Withstands router (Keeps w address) n s
      fun _ _ _ => True := by
  cases mode with
  | normal =>
    have hzero : w=0 := Nat.le_zero.mp hw
    have hall (t : System) : Keeps w address t := .inl hzero
    refine Prog.withstands_bind (withstands_removeFound (fun _ _ => hall _) ?_ fun _ _ _ _ _ => trivial)
    refine Prog.withstands_bind (withstands_removeFound (fun _ _ => hall _) ?_ fun _ _ _ _ _ => trivial)
    exact withstands_removeFound (fun _ _ => hall _) trivial fun _ _ _ _ _ => trivial
  | blocked =>
    have hw : w ≤ 2 := hw
    have hblocked := blockedIn_entryEstablished address
      (described description "MC - Device Block") s.router.tables
    refine Prog.withstands_bind (withstands_establishEntry start (fun hlength p hp => ?_)
      ⟨restricted_of_blocked hw hblocked,?_⟩ fun _ _ _ => trivial)
    · -- the entries of the block list are replaced
      have hslow (h : SlowedIn s.router.tables address) :
          SlowedIn (s.dropping .addressList p).router.tables address :=
        h.of_rows (rows_dropping_of_ne (by decide) p _)
      rcases covered with hzero | hle | ⟨hle,hslowed⟩
      · exact .inl hzero
      · have hnone : listedIn s.router.tables deviceBlockList address=[] :=
          List.length_eq_zero_iff.mp (by omega)
        rcases start with hzero | ⟨hle,hslowed⟩ | ⟨_,hblock⟩
        · exact .inl hzero
        · exact restricted_of_slowed hle (hslow hslowed)
        · exact absurd hnone hblock
      · exact restricted_of_slowed hle (hslow hslowed)
    · refine withstands_removing_blocked hw hblocked (fun p hp => rows_dropping_of_disjoint hp
        (inList_disjoint deviceSlowList_ne.symm)) fun t ht => ?_
      refine withstands_removing_blocked hw ht (fun p _ => rows_dropping_of_ne (by decide) p _)
        fun t ht => ?_
      rw [← prog_bind_ret (removeQueues _)]
      exact withstands_removing_blocked hw ht (fun p _ => rows_dropping_of_ne (by decide) p _)
        fun t ht => ⟨restricted_of_blocked hw ht,trivial⟩
  | slow =>
    have hw : w ≤ 1 := hw
    refine Prog.withstands_bind (withstands_entries start ?_ fun _ _ _ => trivial)
    have hslowed := slowedIn_queueEstablished address env.deviceSlowLimit
      (described description "MC - Per Device Slow") s.router.tables
    refine Prog.withstands_bind (withstands_setQueue start (fun hlength p hp => ?_)
      ⟨restricted_of_slowed hw hslowed,?_⟩ fun _ _ _ => trivial)
    · -- the slow queues are replaced
      have hblocked (h : BlockedIn s.router.tables address) :
          BlockedIn (s.dropping .queue p).router.tables address :=
        h.of_rows (rows_dropping_of_ne (by decide) p _)
      rcases covered with hzero | hblock | hone
      · exact .inl hzero
      · exact restricted_of_blocked (by omega) (hblocked hblock)
      · exact absurd hone hlength
    · refine Prog.withstands_bind (withstands_establishEntry (restricted_of_slowed hw hslowed)
        (fun _ p hp => ?_) ⟨?_,?_⟩ fun _ _ _ => trivial)
      · exact restricted_of_slowed hw (hslowed.of_rows (rows_dropping_of_ne (by decide) p _))
      · exact restricted_of_slowed hw (hslowed.of_rows (queuesIn_entryEstablished ..))
      · refine withstands_removing_slowed hw (hslowed.of_rows (queuesIn_entryEstablished ..))
          (fun p hp => rows_dropping_of_disjoint hp (isQueue_disjoint
            (bandwidthQueueName_ne address).symm)) fun t ht => ?_
        rw [← prog_bind_ret (removeListEntries _ _)]
        exact withstands_removing_slowed hw ht (fun p _ => rows_dropping_of_ne (by decide) p _)
          fun t ht => ⟨restricted_of_slowed hw ht,trivial⟩

/-- A row that is not added. -/
lemma lost_add {k : Resource} {row : Row k} (h : (add k row).Withstands router I
    (n+1) s Q) : ∃ e, Q (.error e) n s :=
  ⟨_,(h.2.2 (.api "connection lost") n rfl rfl).1.2⟩

/-- Without cover there is a failure that leaves the device less restricted. -/
theorem covered_of_withstands {env : Environment} {description : String} {mode : Mode}
    (h : (writeMode env address description mode).Withstands router I (n+1) s Q)
    (hQ : ∀ e m t, Q (.error e) m t → Restricted w t.router.tables address) :
    Covered w s.router.tables address mode := by
  cases mode with
  | normal => trivial
  | blocked =>
    by_contra hcovered
    obtain ⟨hzero,hlength,hslowed⟩ : w≠0 ∧ ¬(listedIn s.router.tables deviceBlockList address).length ≤ 1
        ∧ ¬(w ≤ 1 ∧ SlowedIn s.router.tables address) := by
      unfold Covered at hcovered
      tauto
    have hestablish := Prog.withstands_bind_iff.mp h
    unfold establishEntry at hestablish
    have hreplace := hestablish.follow (exec_entries _ _ s)
    rw [if_neg fun h => hlength (Nat.le_of_eq h)] at hreplace
    obtain ⟨e,hend⟩ := lost_add (hreplace.follow (exec_removing ..))
    rcases hQ _ _ _ hend with h | ⟨hle,h⟩ | ⟨_,h⟩
    · exact hzero h
    · exact hslowed ⟨hle,h.of_rows (queuesIn_without_addressList ..).symm⟩
    · exact h (listedIn_without_self _)
  | slow =>
    by_contra hcovered
    obtain ⟨hzero,hblocked,hlength⟩ : w≠0 ∧ ¬BlockedIn s.router.tables address ∧
        ¬(queuesIn s.router.tables address.deviceSlowQueueName).length=1 := by
      unfold Covered at hcovered
      tauto
    have hset := Prog.withstands_bind_iff.mp (h.follow (exec_entries _ _ s))
    have hreplace : ∃ e, Q (.error e) n (s.withTables (s.router.tables.without .queue
        (isQueue address.deviceSlowQueueName))) := by
      unfold setQueue at hset
      unfold queuesIn at hlength
      cases hrows : s.router.tables.rows .queue (isQueue address.deviceSlowQueueName) with
      | nil =>
        rw [hrows] at hset
        obtain ⟨e,hend⟩ := lost_add (hset.follow (exec_removing ..))
        exact ⟨e,hend⟩
      | cons q rest =>
        rw [hrows] at hset hlength
        cases rest with
        | nil => exact absurd rfl hlength
        | cons q' rest =>
          obtain ⟨e,hend⟩ := lost_add (hset.follow (exec_removing ..))
          exact ⟨e,hend⟩
    obtain ⟨e,hend⟩ := hreplace
    rcases hQ _ _ _ hend with h | ⟨_,q,hq,_⟩ | ⟨_,h⟩
    · exact hzero h
    · have hnone := queuesIn_without_self (t:=s.router.tables) address.deviceSlowQueueName
      exact List.not_mem_nil (hnone ▸ hq)
    · exact hblocked (h.of_rows (listedIn_without_queue ..).symm)

end Restriction
end ZenControl.Router
