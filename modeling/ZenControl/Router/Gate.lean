import ZenControl.Router.Readings

/-! The write gate as a function of RouterOS: which critical checks fail, and what the gate does
with the proof of authority of a coherent session. -/
namespace ZenControl.Router
open Calls Requests Rows

section Judging

/-- The calls that read filter rules. -/
def RouterCall.isRules : RouterCall → Bool
  | .rules _ => true
  | _ => false

def Failure.IsRouter : Failure → Prop
  | .router _ => True
  | _ => False

variable {α : Type} {p : RouterProg α} {s : System}

/-- What is judged by the filter rules alone. -/
lemma exec_judging (hp : p.Raises Failure.IsRouter) (only : p.Only fun c => c.isRules)
    (filter : List (ℕ × FilterRule)) : ∃ o : Except Failure α,
      (∀ e, o=.error e → e.IsRouter) ∧
      ∀ s : System, s.router.filter=filter → exec p s=(o,s) := by
  refine hp.run only (fun s : System => s.router.filter) (fun c filter => match c with
    | .connect => ()
    | .rules query => filter.filter fun rule => query rule.2
    | .request (.get _ _) => []
    | .request (.add _ _) => ()
    | .request (.set _ _ _) => ()
    | .request (.remove _ _) => ()
    | .session => none
    | .setSession _ => ()
    | .enterLane => true
    | .leaveLane => ()) (fun c s hc => ?_) filter
  cases c with
  | rules query => rfl
  | _ => cases hc

lemma raises_validateRule (comment contract : String) (problems : FilterRule → List String) :
    (validateRule comment contract problems).Raises Failure.IsRouter := by
  refine Prog.raises_bind (Prog.raises_issue _) fun found => ?_
  match found with
  | [] => trivial
  | [(id,rule)] =>
    dsimp only
    cases problems rule <;> trivial
  | _::_::_ => trivial

lemma only_validateRule (comment contract : String) (problems : FilterRule → List String) :
    (validateRule comment contract problems).Only fun c => c.isRules := by
  refine Prog.only_bind ⟨rfl,fun r => by cases r <;> trivial⟩ fun found => ?_
  match found with
  | [] => trivial
  | [(id,rule)] =>
    dsimp only
    cases problems rule <;> trivial
  | _::_::_ => trivial

lemma raises_validateServicePrimitive (catalog : Catalog) (key : String) :
    (validateServicePrimitive catalog key).Raises Failure.IsRouter := by
  unfold validateServicePrimitive validateServiceContract
  cases catalog.lookup key with
  | none => trivial
  | some service =>
    refine Prog.raises_bind (Prog.raises_collect fun r _ => raises_validateRule _ _ _) fun _ => ?_
    refine Prog.raises_bind (Prog.raises_collect fun r _ => raises_validateRule _ _ _) fun _ => ?_
    split_ifs
    · trivial
    · refine Prog.raises_bind (Prog.raises_issue _) fun all => ?_
      dsimp only
      split
      · split <;> trivial
      · trivial

lemma only_validateServicePrimitive (catalog : Catalog) (key : String) :
    (validateServicePrimitive catalog key).Only fun c => c.isRules := by
  unfold validateServicePrimitive validateServiceContract
  cases catalog.lookup key with
  | none => trivial
  | some service =>
    refine Prog.only_bind (Prog.only_collect fun r _ => only_validateRule _ _ _) fun _ => ?_
    refine Prog.only_bind (Prog.only_collect fun r _ => only_validateRule _ _ _) fun _ => ?_
    split_ifs
    · trivial
    · refine Prog.only_bind ⟨rfl,fun r => by cases r <;> trivial⟩ fun all => ?_
      dsimp only
      split
      · split <;> trivial
      · trivial

end Judging

/-- The exception with which the contract of a service is rejected, if it is. -/
def RouterOS.contractFailure (r : RouterOS) (catalog : Catalog) (key : String) : Option String :=
  match (exec (validateServicePrimitive catalog key) { router := r }).1 with
  | .ok _ => none
  | .error e => some e.message

/-- The rules decide whether a contract is valid. -/
lemma contractFailure_congr {r r' : RouterOS} (h : r'.filter=r.filter) (catalog : Catalog)
    (key : String) : r'.contractFailure catalog key=r.contractFailure catalog key := by
  obtain ⟨o,-,hrun⟩ := exec_judging (raises_validateServicePrimitive catalog key)
    (only_validateServicePrimitive catalog key) r.filter
  unfold RouterOS.contractFailure
  rw [hrun { router := r } rfl,hrun { router := r' } h]

/-- The critical checks that fail. -/
def RouterOS.failedChecks (env : Environment) (r : RouterOS) : FailedChecks :=
  let queues := (r.tables.rows .queue fun _ => true).map Prod.snd
  failedRuleChecks ((r.rules fun _ => true).map Prod.snd)
      (queues.filter fun q => q.name=slowQueueName) ++
    failsUnless "TLS/SNI service contracts" (serviceEnforcement.keys.all fun key =>
      (r.contractFailure serviceEnforcement key).isNone) ++
    failsUnless "App-owned RouterOS state integrity" (managedIntegrity env
      ((r.tables.rows .addressList fun _ => true).map Prod.snd) queues
      ((r.tables.rows .scheduler fun _ => true).map Prod.snd)
      ((r.tables.rows .script fun _ => true).map Prod.snd))

section Gate
variable {s : System} {env : Environment}

lemma exec_validateServicePrimitive (catalog : Catalog) (key : String) (s : System) :
    exec (validateServicePrimitive catalog key) s=
      (match s.router.contractFailure catalog key with
        | none => .ok ()
        | some m => .error (.router m),s) := by
  obtain ⟨o,hraised,hrun⟩ := exec_judging (raises_validateServicePrimitive catalog key)
    (only_validateServicePrimitive catalog key) s.router.filter
  rw [hrun s rfl,RouterOS.contractFailure,hrun { router := s.router } rfl]
  cases o with
  | ok a => rfl
  | error e =>
    have he := hraised e rfl
    cases e with
    | router m => rfl
    | _ => cases he

lemma exec_serviceContractOk (catalog : Catalog) (key : String) (s : System) :
    exec (serviceContractOk catalog key) s=
      (.ok (s.router.contractFailure catalog key).isNone,s) := by
  have hvalidate := exec_validateServicePrimitive catalog key s
  refine (Prog.run_rescue _ _ _ _).trans ?_
  cases hfailure : s.router.contractFailure catalog key with
  | none =>
    rw [hfailure] at hvalidate
    rw [show Prog.run _ (Prog.bind _ _) s=_ from exec_bind_ok hvalidate]
    rfl
  | some m =>
    rw [hfailure] at hvalidate
    rw [show Prog.run _ (Prog.bind _ _) s=_ from exec_bind_error hvalidate]
    rfl

/-- Collecting readings that leave the state alone. -/
lemma exec_collect {α β : Type} {items : List β} {body : β → RouterProg α} {value : β → α}
    (h : ∀ item, exec (body item) s=(.ok (value item),s)) :
    exec (Prog.collect items body) s=(.ok (items.map value),s) := by
  induction items with
  | nil => rfl
  | cons item items ih =>
    rw [Prog.collect,exec_bind_ok (h item),exec_bind_ok ih]
    rfl

lemma exec_getSecurityPosture (s : System) :
    exec (getSecurityPosture env) s=(.ok (s.router.failedChecks env),s) := by
  unfold getSecurityPosture
  rw [exec_bind_ok (exec_connect s)]
  refine exec_explained _ ?_
  rw [exec_bind_ok (exec_rules _ s),exec_bind_ok (exec_entries _ _ s),
    exec_bind_ok (exec_entries _ _ s),exec_bind_ok (exec_entries _ _ s),
    exec_bind_ok (exec_entries _ _ s),
    exec_bind_ok (exec_collect fun key => exec_serviceContractOk serviceEnforcement key s)]
  refine (exec_ret _ _).trans ?_
  rw [List.all_map]
  rfl

/-- The authority to write was proven in the session, or the posture proves it now. -/
def System.PassesGate (env : Environment) (s : System) : Prop :=
  s.session.any Session.proven ∨ s.router.failedChecks env=[]

/-- What the gate remembers when it passes. -/
def System.passed (s : System) : System := { s with session := s.session.map fun _ => ⟨true⟩ }

@[simp] lemma System.passed_router (s : System) : s.passed.router=s.router := rfl

@[simp] lemma System.passed_lane (s : System) : s.passed.lane=s.lane := rfl

lemma exec_recordAuthority (proven : Bool) (s : System) : exec (recordAuthority proven) s=
    (.ok (),{ s with session := s.session.map fun _ => ⟨proven⟩ }) := by
  unfold recordAuthority
  rw [exec_bind_ok (exec_session s)]
  obtain ⟨r,session,lane⟩ := s
  cases session with
  | none => rfl
  | some shared => exact exec_setSession _ _

lemma exec_requirePolicyWriteGate (h : s.PassesGate env) :
    exec (requirePolicyWriteGate env) s=(.ok (),s.passed) := by
  unfold requirePolicyWriteGate
  rw [exec_bind_ok (exec_session s)]
  split_ifs with hproven
  · obtain ⟨r,session,lane⟩ := s
    cases session with
    | none => cases hproven
    | some shared =>
      obtain ⟨proven⟩ := shared
      cases hproven
      rfl
  · unfold assertPolicyEnforcementReady
    rw [exec_bind_ok (exec_getSecurityPosture s),h.resolve_left hproven]
    exact exec_recordAuthority true s

lemma exec_requirePolicyWriteGate_of_not (h : ¬s.PassesGate env) :
    ∃ m, exec (requirePolicyWriteGate env) s=
      (.error (.router m),{ s with session := s.session.map fun _ => ⟨false⟩ }) := by
  obtain ⟨hproven,hfailed⟩ := not_or.mp h
  unfold requirePolicyWriteGate
  rw [exec_bind_ok (exec_session s),if_neg hproven]
  unfold assertPolicyEnforcementReady
  rw [exec_bind_ok (exec_getSecurityPosture s)]
  cases hchecks : s.router.failedChecks env with
  | nil => exact absurd hchecks hfailed
  | cons name names =>
    dsimp only
    rw [exec_bind_ok (exec_recordAuthority false s)]
    exact ⟨_,rfl⟩

end Gate

section Ready

/-- The rules of the contracts of a service. -/
def contractRules (service : Service) : List FilterRule :=
  (service.rules.map fun rule =>
    { comment := rule.comment, chain := "restricted-web", action := "drop",
      srcAddressList := service.sourceList, dstAddressList := rule.detectorList }) ++
  service.learners.map fun learner =>
    { comment := learner.comment, chain := "restricted-web", action := "add-dst-to-address-list",
      protocol := "tcp", dstPort := "443", addressList := learner.addressList,
      tlsHost := learner.tlsHost }

/-- Filter rules that meet every contract. -/
def readyRules : List FilterRule :=
  [{ comment := masterRuleComment, chain := "forward", action := "drop", disabled := true,
     srcAddressList := restrictedList, outInterfaceList := "WAN" },
   { comment := deviceBlockRuleComment, chain := "forward", action := "drop",
     srcAddressList := deviceBlockList, outInterfaceList := "WAN" },
   { comment := webPolicyComment, chain := "forward", action := "jump",
     jumpTarget := "restricted-web", srcAddressList := restrictedList },
   { comment := establishedRuleComment, chain := "forward", action := "accept",
     connectionState := "established,related,untracked" },
   { comment := quicRuleComment, chain := "restricted-web", action := "drop", protocol := "udp",
     dstPort := "443" },
   { comment := dotRuleComment, chain := "restricted-web", action := "drop", protocol := "tcp",
     dstPort := "853", srcAddressList := restrictedList },
   { comment := doqRuleComment, chain := "restricted-web", action := "drop", protocol := "udp",
     dstPort := "853", srcAddressList := restrictedList }] ++
  serviceEnforcement.flatMap (fun s => contractRules s.2) ++
  [{ comment := "RW99 - Return", chain := "restricted-web", action := "return" }]

/-- RouterOS with those rules and without managed devices. -/
def readyRouter : RouterOS where
  filter := readyRules.zipIdx.map fun r => (r.2,r.1)
  tables
    | .queue => Table.empty.insert
        { name := slowQueueName, target := "", maxLimit := "128k/256k", disabled := true }
    | _ => Table.empty

end Ready
end ZenControl.Router
