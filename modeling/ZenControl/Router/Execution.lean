import ZenControl.Router.Planning

/-! What the programs of the adapter do when no call fails, and the programs that only read. -/
namespace ZenControl.Router
open Calls Requests Rows

section Exec
variable {α β : Type} {s s' : System}

lemma exec_bind_ok {p : RouterProg α} {f : α → RouterProg β} {a : α}
    (h : exec p s=(.ok a,s')) : exec (p.bind f) s=exec (f a) s' := Prog.run_bind_ok _ h

lemma exec_bind_error {p : RouterProg α} {f : α → RouterProg β} {e : Failure}
    (h : exec p s=(.error e,s')) : exec (p.bind f) s=(.error e,s') := Prog.run_bind_error _ h

@[simp] lemma exec_ret (a : α) (s : System) : exec (.ret a) s=(.ok a,s) := rfl

@[simp] lemma exec_raise (e : Failure) (s : System) :
    exec (.raise e : RouterProg α) s=(.error e,s) := rfl

lemma exec_call (c : RouterCall) (s : System) : exec (call c) s=c.serve s := by
  rw [exec,call,Prog.issue,Prog.run_call]
  rcases c.serve s with ⟨_ | _,_⟩ <;> rfl

@[simp] lemma exec_session (s : System) : exec session s=(.ok s.session,s) := exec_call _ s

@[simp] lemma exec_setSession (shared : Option Session) (s : System) :
    exec (call (.setSession shared)) s=(.ok (),{ s with session := shared }) := exec_call _ s

@[simp] lemma exec_enterLane (s : System) :
    exec (call .enterLane) s=(.ok true,{ s with lane := s.lane+1 }) := exec_call _ s

@[simp] lemma exec_leaveLane (s : System) :
    exec (call .leaveLane) s=(.ok (),{ s with lane := s.lane-1 }) := exec_call _ s

@[simp] lemma exec_connect (s : System) : exec connect s=(.ok (),s) := by
  unfold connect
  rw [exec_bind_ok (exec_session s)]
  split_ifs
  · rfl
  · exact (Prog.run_rescue _ _ _ _).trans (by rw [show (call .connect).run RouterCall.serve s=
      (.ok (),s) from exec_call _ s])

/-- The rules that a query finds. -/
def RouterOS.rules (r : RouterOS) (query : FilterRule → Bool) : List (ℕ × FilterRule) :=
  r.filter.filter fun rule => query rule.2

@[simp] lemma exec_rules (query : FilterRule → Bool) (s : System) :
    exec (rules query) s=(.ok (s.router.rules query),s) := exec_call _ s

@[simp] lemma exec_entries (k : Resource) (query : Row k → Bool) (s : System) :
    exec (entries k query) s=(.ok (s.router.tables.rows k query),s) := exec_call _ s

/-- The state with other tables. -/
def System.withTables (s : System) (t : TableFamily Row) : System :=
  { s with router := { s.router with tables := t } }

@[simp] lemma System.withTables_tables (s : System) (t : TableFamily Row) :
    (s.withTables t).router.tables=t := rfl

@[simp] lemma System.withTables_filter (s : System) (t : TableFamily Row) :
    (s.withTables t).router.filter=s.router.filter := rfl

@[simp] lemma System.withTables_session (s : System) (t : TableFamily Row) :
    (s.withTables t).session=s.session := rfl

@[simp] lemma System.withTables_lane (s : System) (t : TableFamily Row) :
    (s.withTables t).lane=s.lane := rfl

@[simp] lemma System.withTables_withTables (s : System) (t t' : TableFamily Row) :
    (s.withTables t).withTables t'=s.withTables t' := rfl

@[simp] lemma System.withTables_self (s : System) : s.withTables s.router.tables=s := rfl

@[simp] lemma exec_add (k : Resource) (row : Row k) (s : System) :
    exec (add k row) s=(.ok (),s.withTables
      (Function.update s.router.tables k ((s.router.tables k).insert row))) := exec_call _ s

lemma exec_set {k : Resource} {id : ℕ} {s : System}
    (h : ((s.router.tables k).find id).isSome) (change : Row k → Row k) :
    exec (set k id change) s=(.ok (),s.withTables
      (Function.update s.router.tables k ((s.router.tables k).modify id change))) := by
  refine (exec_call _ s).trans ?_
  simp only [RouterCall.serve,Request.perform,if_pos h]
  rfl

lemma exec_remove {k : Resource} {id : ℕ} {s : System}
    (h : ((s.router.tables k).find id).isSome) :
    exec (remove k id) s=(.ok (),s.withTables
      (Function.update s.router.tables k ((s.router.tables k).delete fun i _ => i=id))) := by
  refine (exec_call _ s).trans ?_
  simp only [RouterCall.serve,Request.perform,if_pos h]
  rfl

lemma exec_explained {p : RouterProg α} {a : α} (context : String)
    (h : exec p s=(.ok a,s')) : exec (explained context p) s=(.ok a,s') := by
  refine (Prog.run_rescue _ _ _ _).trans ?_
  rw [show p.run RouterCall.serve s=(.ok a,s') from h]

lemma exec_explained_router {p : RouterProg α} {m : String} (context : String)
    (h : exec p s=(.error (.router m),s')) :
    exec (explained context p) s=(.error (.router m),s') := by
  refine (Prog.run_rescue _ _ _ _).trans ?_
  rw [show p.run RouterCall.serve s=(.error (.router m),s') from h]
  rfl

/-- Remove rows that are there, by their numbers. -/
lemma exec_removeEach {k : Resource} {found : List (ℕ × Row k)}
    (hfound : ∀ r ∈ found, ((s.router.tables k).find r.1).isSome)
    (hnodup : (found.map Prod.fst).Nodup) :
    exec (Prog.forEach found fun r => remove k r.1) s=(.ok (),s.withTables
      (Function.update s.router.tables k
        ((s.router.tables k).delete fun i _ => (found.map Prod.fst).contains i))) := by
  induction found generalizing s with
  | nil =>
    have hnone : (s.router.tables k).delete (fun i _ => ([] : List ℕ).contains i)=
        s.router.tables k := delete_none _
    rw [List.map_nil,hnone,Function.update_eq_self]
    rfl
  | cons r found ih =>
    obtain ⟨hr,hnodup⟩ := List.nodup_cons.mp hnodup
    have hremove := exec_remove (hfound r List.mem_cons_self)
    have htables : (s.withTables (Function.update s.router.tables k
        ((s.router.tables k).delete fun i _ => i=r.1))).router.tables k=
        (s.router.tables k).delete fun i _ => i=r.1 := Function.update_self ..
    have hrest := ih (s := s.withTables (Function.update s.router.tables k
        ((s.router.tables k).delete fun i _ => i=r.1))) (fun r' hr' => ?_) hnodup
    · rw [Prog.forEach,exec_bind_ok hremove,hrest,htables,delete_delete]
      simp only [System.withTables_tables,System.withTables_withTables,Function.update_idem]
      refine congrArg (fun t => (Except.ok (),s.withTables (Function.update s.router.tables k t)))
        (delete_congr fun r' _ => ?_)
      rw [List.map_cons,List.contains_cons]
      rfl
    · rw [htables,Table.find_delete]
      have hne : r'.1≠r.1 := fun heq => hr (heq ▸ List.mem_map_of_mem hr')
      obtain ⟨row,hrow⟩ := Option.isSome_iff_exists.mp (hfound r' (List.mem_cons_of_mem r hr'))
      simp [hrow,hne]

/-- Remove what a query finds. -/
lemma exec_removeFound (k : Resource) (query : Row k → Bool) (s : System) :
    exec (removeFound k query) s=(.ok (),s.withTables
      (Function.update s.router.tables k ((s.router.tables k).delete fun _ row => query row))) := by
  refine (exec_bind_ok (exec_entries k query s)).trans
    ((exec_removeEach (fun r hr => ?_) (select_numbers_nodup _ _)).trans ?_)
  · rw [(Table.mem_select.mp hr).1]
    rfl
  · exact congrArg (fun t => (Except.ok (),s.withTables (Function.update s.router.tables k t)))
      (delete_numbers _ fun _ row => query row)

end Exec

section ReadOnly

/-- The calls that leave the session and the lane of the thread as they are. -/
def RouterCall.remote : RouterCall → Bool
  | .connect | .rules _ | .request _ | .session => true
  | _ => false

/-- The calls that leave RouterOS as it is as well. -/
def RouterCall.reads : RouterCall → Bool
  | .request q => q.reads
  | c => c.remote

/-- A program that cannot change RouterOS. -/
abbrev ReadOnly {α : Type} (p : RouterProg α) : Prop := p.Only fun c => c.reads

variable {α β : Type} {p : RouterProg α}

lemma RouterCall.serve_reads_eq {c : RouterCall} (h : c.reads) (s : System) :
    (c.serve s).2=s := by
  cases c with
  | request q =>
    change { s with router := { s.router with tables := (q.perform s.router.tables).2 } }=s
    rw [Request.perform_reads h]
  | connect => rfl
  | rules query => rfl
  | session => rfl
  | setSession shared => cases h
  | enterLane => cases h
  | leaveLane => cases h

lemma RouterCall.serve_reads {c : RouterCall} (h : c.reads) (s : System) :
    (c.serve s).2.router=s.router := by rw [RouterCall.serve_reads_eq h]

lemma RouterCall.remote_of_reads {c : RouterCall} (h : c.reads) : c.remote := by
  cases c with
  | request q => rfl
  | _ => exact h

/-- A remote call leaves the thread's own state as it is. -/
lemma RouterCall.serve_remote {c : RouterCall} (h : c.remote) (s : System) :
    (c.serve s).2={ s with router := (c.serve s).2.router } := by
  cases c with
  | request q => rfl
  | connect => rfl
  | rules query => rfl
  | session => rfl
  | setSession shared => cases h
  | enterLane => cases h
  | leaveLane => cases h

lemma ReadOnly.exec_state (h : ReadOnly p) (s : System) : (exec p s).2=s :=
  h.run (fun _ t hc ht => (RouterCall.serve_reads_eq hc t).trans ht) rfl

lemma ReadOnly.exec_router (h : ReadOnly p) (s : System) : (exec p s).2.router=s.router := by
  rw [h.exec_state]

lemma readOnly_call {c : RouterCall} (h : c.reads) : ReadOnly (call c) :=
  ⟨h,fun r => by cases r <;> trivial⟩

lemma readOnly_rules (query : FilterRule → Bool) : ReadOnly (rules query) := readOnly_call rfl

lemma readOnly_entries (k : Resource) (query : Row k → Bool) : ReadOnly (entries k query) :=
  readOnly_call rfl

lemma readOnly_explained {context : String} (h : ReadOnly p) : ReadOnly (explained context p) :=
  Prog.only_rescue h fun e => by cases e <;> trivial

lemma readOnly_connect : ReadOnly connect := by
  refine Prog.only_bind (readOnly_call rfl) fun shared => ?_
  split_ifs
  · trivial
  · exact Prog.only_rescue (readOnly_call rfl) fun e => trivial

lemma readOnly_validateRule (comment contract : String) (problems : FilterRule → List String) :
    ReadOnly (validateRule comment contract problems) := by
  refine Prog.only_bind (readOnly_rules _) fun found => ?_
  match found with
  | [] => trivial
  | [(id,rule)] =>
    dsimp only
    cases problems rule <;> trivial
  | _::_::_ => trivial

lemma readOnly_validateServiceContract (service : Service) :
    ReadOnly (validateServiceContract service) := by
  refine Prog.only_bind (Prog.only_collect fun r _ => readOnly_validateRule _ _ _) fun _ => ?_
  refine Prog.only_bind (Prog.only_collect fun r _ => readOnly_validateRule _ _ _) fun _ => ?_
  split_ifs
  · trivial
  · refine Prog.only_bind (readOnly_rules _) fun all => ?_
    dsimp only
    split
    · split <;> trivial
    · trivial

lemma readOnly_validateServicePrimitive (catalog : Catalog) (key : String) :
    ReadOnly (validateServicePrimitive catalog key) := by
  unfold validateServicePrimitive
  cases catalog.lookup key with
  | none => trivial
  | some service => exact readOnly_validateServiceContract service

lemma readOnly_validateDeviceBlockPrimitive : ReadOnly validateDeviceBlockPrimitive := by
  refine Prog.only_bind (readOnly_rules _) fun found => ?_
  match found with
  | [] => trivial
  | [(_,rule)] => dsimp only; split_ifs <;> trivial
  | _::_::_ => trivial

lemma readOnly_validateRestrictedDevice (address : Ipv4) :
    ReadOnly (validateRestrictedDevice address) := by
  refine Prog.only_bind (readOnly_entries _ _) fun found => ?_
  split_ifs <;> trivial

lemma readOnly_getDeviceEnforcement (address : Ipv4) : ReadOnly (getDeviceEnforcement address) :=
  Prog.only_bind readOnly_connect fun _ => readOnly_explained <|
    Prog.only_bind readOnly_validateDeviceBlockPrimitive fun _ =>
    Prog.only_bind (readOnly_validateRestrictedDevice address) fun _ =>
    Prog.only_bind (readOnly_entries _ _) fun _ => Prog.only_bind (readOnly_entries _ _) fun _ =>
    Prog.only_bind (readOnly_entries _ _) fun _ => trivial

lemma readOnly_contractError (catalog : Catalog) (key : String) :
    ReadOnly (contractError catalog key) :=
  Prog.only_rescue (Prog.only_bind (readOnly_validateServicePrimitive catalog key) fun _ => trivial)
    fun e => by cases e <;> trivial

lemma readOnly_getDeviceServiceEnforcement (catalog : Catalog) (address : Ipv4) :
    ReadOnly (getDeviceServiceEnforcement catalog address) :=
  Prog.only_bind readOnly_connect fun _ => readOnly_explained <|
    Prog.only_bind (readOnly_validateRestrictedDevice address) fun _ =>
    Prog.only_bind (Prog.only_collect fun s _ =>
      Prog.only_bind (readOnly_contractError catalog s.1) fun _ =>
      Prog.only_bind (readOnly_entries _ _) fun _ => trivial) fun _ => trivial

lemma readOnly_getDeviceBandwidth (address : Ipv4) : ReadOnly (getDeviceBandwidth address) :=
  Prog.only_bind readOnly_connect fun _ => readOnly_explained <|
    Prog.only_bind (readOnly_validateRestrictedDevice address) fun _ =>
    Prog.only_bind (readOnly_entries _ _) fun _ => trivial

lemma readOnly_getStatus : ReadOnly getStatus := by
  refine Prog.only_bind readOnly_connect fun _ => readOnly_explained ?_
  refine Prog.only_bind (readOnly_rules _) fun master => ?_
  refine Prog.only_bind (readOnly_entries _ _) fun slow => ?_
  split <;> trivial

lemma only_removeFound {k : Resource} {query : Row k → Bool} :
    (removeFound k query).Only fun c => c.remote :=
  Prog.only_bind ((readOnly_entries k query).mono fun _ => RouterCall.remote_of_reads) fun _ =>
    Prog.only_forEach fun _ _ => ⟨rfl,fun r => by cases r <;> trivial⟩

lemma only_getDeviceTemporaryAccess (address : Ipv4) :
    (getDeviceTemporaryAccess address).Only fun c => c.remote := by
  have remote {α : Type} {p : RouterProg α} (h : ReadOnly p) : p.Only fun c => c.remote :=
    h.mono fun _ => RouterCall.remote_of_reads
  refine Prog.only_bind (remote readOnly_connect) fun _ => Prog.only_rescue ?_ fun e => by
    cases e <;> trivial
  refine Prog.only_bind (remote (readOnly_validateRestrictedDevice address)) fun _ => ?_
  refine Prog.only_bind (remote (readOnly_entries _ _)) fun schedulers => ?_
  refine Prog.only_bind (remote (readOnly_entries _ _)) fun scripts => ?_
  cases temporaryReading address schedulers scripts with
  | failed message => trivial
  | orphans found reply =>
    refine Prog.only_bind (Prog.only_forEach fun _ _ => ⟨rfl,fun r => ?_⟩) fun _ => trivial
    cases r <;> trivial
  | stale reply =>
    exact Prog.only_bind (Prog.only_bind only_removeFound fun _ => only_removeFound) fun _ =>
      trivial
  | active reply => trivial

variable {s : System} {n : ℕ} {I : System → Prop}

/-- A reading is exact, or it fails and changes nothing. -/
lemma withstands_entries {k : Resource} {query : Row k → Bool}
    {Q : Except Failure (List (ℕ × Row k)) → ℕ → System → Prop} (start : I s)
    (served : Q (.ok (s.router.tables.rows k query)) n s)
    (failed : ∀ e m, n=m+1 → Q (.error e) m s) :
    (entries k query).Withstands router I n s Q :=
  Prog.withstands_issue start ⟨start,served⟩ fun e m _ hm => ⟨failed e m hm,failed e m hm⟩

lemma withstands_rules {query : FilterRule → Bool}
    {Q : Except Failure (List (ℕ × FilterRule)) → ℕ → System → Prop} (start : I s)
    (served : Q (.ok (s.router.rules query)) n s) (failed : ∀ e m, n=m+1 → Q (.error e) m s) :
    (rules query).Withstands router I n s Q :=
  Prog.withstands_issue start ⟨start,served⟩ fun e m _ hm => ⟨failed e m hm,failed e m hm⟩

lemma withstands_explained {context : String} {Q : Except Failure α → ℕ → System → Prop}
    (h : p.Withstands router I n s fun r m t => match r with
      | .ok a => Q (.ok a) m t
      | .error (.api e) => Q (.error (.router (context ++ ": " ++ e))) m t
      | .error e => Q (.error e) m t) : (explained context p).Withstands router I n s Q := by
  refine Prog.withstands_rescue (h.mono fun r m t _ ht hr => ?_)
  cases r with
  | ok a => exact hr
  | error e => cases e <;> exact ⟨ht,hr⟩

/-- What holds of the state in the end does not depend on the text of an error. -/
lemma withstands_explained_state {context : String} {J : System → Prop}
    (h : p.Withstands router I n s fun _ _ t => J t) :
    (explained context p).Withstands router I n s fun _ _ t => J t := by
  refine withstands_explained (h.mono fun r m t _ _ ht => ?_)
  cases r with
  | ok a => exact ht
  | error e => cases e <;> exact ht

/-- A program that only reads leaves RouterOS as it is, whatever fails. -/
lemma ReadOnly.withstands (h : ReadOnly p) {r : RouterOS} (hs : s.router=r) (n : ℕ) :
    p.Withstands router (fun t => t.router=r) n s fun _ _ t => t.router=r :=
  Prog.Withstands.mono (Prog.Only.withstands (S:=router) h
    (fun _ t hc ht => (RouterCall.serve_reads hc t).trans ht) hs n) fun _ _ _ _ ht _ => ht

/-- A program that only reads, and raises such an exception as soon as a call fails. -/
structure Reads {α : Type} (P : Failure → Prop) (p : RouterProg α) : Prop where
  only : ReadOnly p
  direct : p.Direct router P

def anyFailure : Failure → Prop := fun _ => True

/-- The exceptions of the API library. -/
def Failure.IsApi : Failure → Prop
  | .api _ => True
  | _ => False

variable {P : Failure → Prop}

/-- Such a program returns what it returns without failures, or it fails; it changes nothing. -/
theorem Reads.withstands (h : Reads P p) {Q : Except Failure α → ℕ → System → Prop}
    (start : I s) (served : Q (exec p s).1 n s) (failed : ∀ e m, n=m+1 → Q (.error e) m s) :
    p.Withstands router I n s Q :=
  Prog.Direct.withstands (S:=router) h.direct h.only (fun _ hc => RouterCall.serve_reads_eq hc s)
    start served fun e m _ => failed e m

lemma reads_ret (a : α) : Reads P (.ret a : RouterProg α) := ⟨trivial,trivial⟩

lemma reads_raise (e : Failure) : Reads P (.raise e : RouterProg α) := ⟨trivial,trivial⟩

lemma reads_call {c : RouterCall} (h : c.reads) (hraised : P (.api "connection lost")) :
    Reads P (call c) := by
  refine ⟨readOnly_call h,Prog.direct_issue fun e he => ?_⟩
  cases c <;> cases he <;> exact hraised

lemma reads_bind {f : α → RouterProg β} (h : Reads P p) (hf : ∀ a, Reads P (f a)) :
    Reads P (p.bind f) :=
  ⟨Prog.only_bind h.only fun a => (hf a).only,Prog.direct_bind h.direct fun a => (hf a).direct⟩

lemma reads_rescue {P' : Failure → Prop} {handler : Failure → RouterProg α}
    (h : Reads P p) (hh : ∀ e, Reads P' (handler e))
    (again : ∀ e, P e → ∃ e', P' e' ∧ handler e=.raise e') :
    Reads P' (p.rescue handler) :=
  ⟨Prog.only_rescue h.only fun e => (hh e).only,
    Prog.direct_rescue h.direct (fun e => (hh e).direct) again⟩

lemma reads_explained {context : String} (h : Reads P p) :
    Reads anyFailure (explained context p) := by
  refine reads_rescue h (fun e => ?_) fun e _ => ?_
  · cases e <;> exact reads_raise _
  · cases e <;> exact ⟨_,trivial,rfl⟩

lemma reads_collect {items : List β} {body : β → RouterProg α}
    (h : ∀ item, Reads P (body item)) : Reads P (Prog.collect items body) :=
  ⟨Prog.only_collect fun item _ => (h item).only,Prog.direct_collect fun item _ => (h item).direct⟩

lemma reads_connect : Reads anyFailure connect := by
  refine reads_bind (reads_call rfl trivial) fun shared => ?_
  split_ifs
  · exact reads_ret ()
  · exact reads_rescue (reads_call (P:=anyFailure) rfl trivial) (fun e => reads_raise _)
      fun e _ => ⟨_,trivial,rfl⟩

lemma reads_validateDeviceBlockPrimitive : Reads anyFailure validateDeviceBlockPrimitive := by
  refine reads_bind (reads_call rfl trivial) fun found => ?_
  match found with
  | [] => exact reads_raise _
  | [(_,rule)] =>
    dsimp only
    split_ifs
    · exact reads_raise _
    · exact reads_ret ()
  | _::_::_ => exact reads_raise _

lemma reads_validateRestrictedDevice (address : Ipv4) :
    Reads anyFailure (validateRestrictedDevice address) := by
  refine reads_bind (reads_call rfl trivial) fun found => ?_
  split_ifs
  · exact reads_ret ()
  · exact reads_raise _

lemma reads_getDeviceEnforcement (address : Ipv4) :
    Reads anyFailure (getDeviceEnforcement address) :=
  reads_bind reads_connect fun _ => reads_explained <|
    reads_bind reads_validateDeviceBlockPrimitive fun _ =>
    reads_bind (reads_validateRestrictedDevice address) fun _ =>
    reads_bind (reads_call rfl trivial) fun _ => reads_bind (reads_call rfl trivial) fun _ =>
    reads_bind (reads_call rfl trivial) fun _ => reads_ret _

lemma reads_validateRule (comment contract : String) (problems : FilterRule → List String) :
    Reads Failure.IsApi (validateRule comment contract problems) := by
  refine reads_bind (reads_call rfl trivial) fun found => ?_
  match found with
  | [] => exact reads_raise _
  | [(id,rule)] =>
    dsimp only
    cases problems rule with
    | nil => exact reads_ret _
    | cons _ _ => exact reads_raise _
  | _::_::_ => exact reads_raise _

lemma reads_validateServiceContract (service : Service) :
    Reads Failure.IsApi (validateServiceContract service) := by
  refine reads_bind (reads_collect fun r => reads_validateRule _ _ _) fun _ => ?_
  refine reads_bind (reads_collect fun r => reads_validateRule _ _ _) fun _ => ?_
  split_ifs
  · exact reads_ret ()
  · refine reads_bind (reads_call rfl trivial) fun all => ?_
    dsimp only
    split
    · split
      · exact reads_ret ()
      · exact reads_raise _
    · exact reads_raise _

lemma reads_validateServicePrimitive (catalog : Catalog) (key : String) :
    Reads Failure.IsApi (validateServicePrimitive catalog key) := by
  unfold validateServicePrimitive
  cases catalog.lookup key with
  | none => exact reads_raise _
  | some service => exact reads_validateServiceContract service

lemma reads_serviceContractOk (catalog : Catalog) (key : String) :
    Reads Failure.IsApi (serviceContractOk catalog key) := by
  refine reads_rescue (reads_bind (reads_validateServicePrimitive catalog key) fun _ =>
    reads_ret true) (fun e => ?_) fun e he => ?_
  · cases e with
    | router m => exact reads_ret false
    | _ => exact reads_raise _
  · cases e with
    | api m => exact ⟨.api m,trivial,rfl⟩
    | _ => cases he

lemma reads_getSecurityPosture (env : Environment) : Reads anyFailure (getSecurityPosture env) :=
  reads_bind reads_connect fun _ => reads_explained (P:=Failure.IsApi) <|
    reads_bind (reads_call rfl trivial) fun _ => reads_bind (reads_call rfl trivial) fun _ =>
    reads_bind (reads_call rfl trivial) fun _ => reads_bind (reads_call rfl trivial) fun _ =>
    reads_bind (reads_call rfl trivial) fun _ => reads_bind (reads_collect fun key =>
      reads_serviceContractOk serviceEnforcement key) fun _ => reads_ret _

section Lane
variable {J : RouterOS → Prop} {K : Except Failure α → ℕ → RouterOS → Prop}

/-- `finally`, where the last part does not touch RouterOS. -/
lemma withstands_andFinally {last : RouterProg Unit} (quiet : ∀ m t, J t.router →
      last.Withstands router (fun t => J t.router) m t fun o m' t' =>
        o=.ok () ∧ m'=m ∧ t'.router=t.router)
    (h : p.Withstands router (fun t => J t.router) n s fun r m t => K r m t.router) :
    (andFinally p last).Withstands router (fun t => J t.router) n s
      fun r m t => K r m t.router := by
  refine Prog.withstands_bind (Prog.withstands_rescue (h.mono fun r m t _ ht hr => ?_))
  cases r with
  | ok a =>
    refine Prog.withstands_bind ((quiet m t ht).mono fun o m' t' _ ht' ho => ?_)
    obtain ⟨rfl,rfl,hrouter⟩ := ho
    exact ⟨ht',show K (.ok a) _ t'.router from hrouter ▸ hr⟩
  | error e =>
    refine Prog.withstands_bind ((quiet m t ht).mono fun o m' t' _ ht' ho => ?_)
    obtain ⟨rfl,rfl,hrouter⟩ := ho
    exact ⟨ht',show K (.error e) _ t'.router from hrouter ▸ hr⟩

/-- A method inside the mutation lane. -/
theorem withstands_serialized (h : p.Withstands router (fun t => J t.router) n
    { s with lane := s.lane+1 } fun r m t => K r m t.router) :
    (serialized p).Withstands router (fun t => J t.router) n s fun r m t => K r m t.router := by
  have hstart : J s.router := h.start
  refine Prog.withstands_bind (Prog.withstands_issue hstart ⟨hstart,?_⟩ nofun)
  refine withstands_andFinally (fun m t ht => ?_) h
  exact Prog.withstands_issue ht ⟨ht,rfl,rfl,rfl⟩ nofun

/-- A body inside a coherent session. -/
theorem withstands_coherently (start : J s.router) (h : p.Withstands router (fun t => J t.router) n
      { s with session := some (s.session.getD {}) } fun r m t => K r m t.router)
    (failed : ∀ e m, n=m+1 → K (.error e) m s.router) :
    (coherently p).Withstands router (fun t => J t.router) n s fun r m t => K r m t.router := by
  refine Prog.withstands_bind (Prog.withstands_issue start ⟨start,?_⟩ nofun)
  obtain ⟨r,session,lane⟩ := s
  cases session with
  | some shared => exact h
  | none =>
    refine Prog.withstands_bind (reads_connect.withstands start ?_ failed)
    rw [show exec connect _=_ from exec_connect _]
    refine Prog.withstands_bind (Prog.withstands_issue start ⟨start,?_⟩ nofun)
    refine withstands_andFinally (fun m t ht => ?_) h
    exact Prog.withstands_issue ht ⟨ht,rfl,rfl,rfl⟩ nofun

/-- What such a method guarantees its body guarantees. -/
lemma withstands_of_andFinally {last : RouterProg Unit} {I : System → Prop}
    (hlast : ∀ t, ∃ t', exec last t=(.ok (),t') ∧ t'.router=t.router)
    (h : (andFinally p last).Withstands router I n s fun r m t => K r m t.router) :
    p.Withstands router I n s fun r m t => K r m t.router := by
  refine (Prog.withstands_rescue_iff.mp (Prog.withstands_bind_iff.mp h)).mono fun r m t _ _ hr => ?_
  obtain ⟨t',hexec,hrouter⟩ := hlast t
  cases r with
  | ok a =>
    have hend := (Prog.Withstands.follow hr hexec).served.2
    exact hrouter ▸ hend
  | error e =>
    have hend := (Prog.Withstands.follow hr hexec).served.2
    exact hrouter ▸ hend

lemma withstands_of_serialized {I : System → Prop}
    (h : (serialized p).Withstands router I n s fun r m t => K r m t.router) :
    p.Withstands router I n { s with lane := s.lane+1 } fun r m t => K r m t.router := by
  have hbody := h.follow (exec_enterLane s)
  rw [if_neg (by decide)] at hbody
  exact withstands_of_andFinally (fun t => ⟨_,exec_leaveLane t,rfl⟩) hbody

lemma withstands_of_coherently {I : System → Prop}
    (h : (coherently p).Withstands router I n s fun r m t => K r m t.router) :
    p.Withstands router I n { s with session := some (s.session.getD {}) }
      fun r m t => K r m t.router := by
  have hbody := h.follow (exec_session s)
  obtain ⟨r,session,lane⟩ := s
  cases session with
  | some shared => exact hbody
  | none =>
    have hopened := (hbody.follow (exec_connect _)).follow (exec_setSession (some {}) _)
    exact withstands_of_andFinally (fun t => ⟨_,exec_setSession none t,rfl⟩) hopened

end Lane

/-- What the plan of a device still reads after its temporary access. -/
def planRest (catalog : Catalog) (policy : EffectivePolicy) (address : Ipv4)
    (enforcement : Enforcement) (temporary : TemporaryAccess) : RouterProg LivePlan :=
  (getDeviceServiceEnforcement catalog address).bind fun services =>
  (getDeviceBandwidth address).bind fun bandwidth =>
  getStatus.bind fun globalMode =>
    match buildDevicePolicyPlan catalog policy address enforcement temporary services bandwidth
      globalMode with
    | .ok plan => .ret plan
    | .error e => .raise e

lemma deviceLivePlan_eq (catalog : Catalog) (policy : EffectivePolicy) (address : Ipv4) :
    deviceLivePlan catalog policy address=(getDeviceEnforcement address).bind fun enforcement =>
      (getDeviceTemporaryAccess address).bind fun temporary =>
        planRest catalog policy address enforcement temporary := rfl

lemma readOnly_planRest (catalog : Catalog) (policy : EffectivePolicy) (address : Ipv4)
    (enforcement : Enforcement) (temporary : TemporaryAccess) :
    ReadOnly (planRest catalog policy address enforcement temporary) := by
  refine Prog.only_bind (readOnly_getDeviceServiceEnforcement catalog address) fun services => ?_
  refine Prog.only_bind (readOnly_getDeviceBandwidth address) fun bandwidth => ?_
  refine Prog.only_bind readOnly_getStatus fun globalMode => ?_
  split <;> trivial

end ReadOnly
end ZenControl.Router
