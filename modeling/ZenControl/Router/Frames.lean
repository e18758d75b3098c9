import ZenControl.Router.Switching
import ZenControl.Router.Overrides

/-! The tables that a program leaves alone, whatever fails. -/
namespace ZenControl.Router
open Calls Requests Rows

/-- Whether a call may change a table. -/
def RouterCall.writes (k : Resource) : RouterCall → Bool
  | .request q => q.writes k
  | _ => false

/-- A program that does not change a table. -/
abbrev Spares {α : Type} (k : Resource) (p : RouterProg α) : Prop := p.Only fun c => !c.writes k

section Spares
variable {α β : Type} {k : Resource} {p : RouterProg α}

lemma RouterCall.serve_spares {c : RouterCall} (h : c.writes k=false) (s : System) :
    (c.serve s).2.router.tables k=s.router.tables k := by
  cases c with
  | request q => exact Request.perform_spares h s.router.tables
  | _ => rfl

/-- A table that a program does not change stays, whatever fails. -/
theorem Spares.withstands (h : Spares k p) (s : System) (n : ℕ) :
    p.Withstands router (fun t => t.router.tables k=s.router.tables k) n s
      fun _ _ t => t.router.tables k=s.router.tables k :=
  Prog.Withstands.mono (Prog.Only.withstands (S:=router) h (fun c t hc ht =>
    (RouterCall.serve_spares (by simpa using hc) t).trans ht) rfl n) fun _ _ _ _ ht _ => ht

lemma ReadOnly.spares (h : ReadOnly p) (k : Resource) : Spares k p := by
  refine h.mono fun c hc => ?_
  cases c with
  | request q =>
    cases q with
    | get _ _ => rfl
    | add _ _ => cases hc
    | set _ _ _ => cases hc
    | remove _ _ => cases hc
  | _ => rfl

lemma spares_call {c : RouterCall} (h : c.writes k=false) : Spares k (call c) :=
  ⟨by simp [h],fun r => by cases r <;> trivial⟩

lemma spares_explained {context : String} (h : Spares k p) : Spares k (explained context p) :=
  Prog.only_rescue h fun e => by cases e <;> trivial

lemma spares_andFinally {last : RouterProg Unit} (h : Spares k p) (hlast : Spares k last) :
    Spares k (andFinally p last) :=
  Prog.only_bind (Prog.only_rescue h fun _ => Prog.only_bind hlast fun _ => trivial) fun _ =>
    Prog.only_bind hlast fun _ => trivial

lemma spares_serialized (h : Spares k p) : Spares k (serialized p) := by
  refine Prog.only_bind (spares_call rfl) fun acquired => ?_
  split_ifs
  · trivial
  · exact spares_andFinally h (spares_call rfl)

lemma spares_removeFound {k' : Resource} (h : k'≠k) (query : Row k' → Bool) :
    Spares k (removeFound k' query) :=
  Prog.only_bind ((readOnly_entries k' query).spares k) fun _ => Prog.only_forEach fun _ _ =>
    spares_call (decide_eq_false h)

lemma spares_add {k' : Resource} (h : k'≠k) (row : Row k') : Spares k (add k' row) :=
  spares_call (decide_eq_false h)

lemma spares_set {k' : Resource} (h : k'≠k) (id : ℕ) (change : Row k' → Row k') :
    Spares k (set k' id change) :=
  spares_call (decide_eq_false h)

lemma spares_requirePolicyWriteGate (env : Environment) : Spares k (requirePolicyWriteGate env) := by
  have record (proven : Bool) : Spares k (recordAuthority proven) := by
    refine Prog.only_bind (spares_call rfl) fun shared => ?_
    cases shared with
    | none => trivial
    | some _ => exact spares_call rfl
  refine Prog.only_bind (spares_call rfl) fun shared => ?_
  split_ifs
  · trivial
  · refine Prog.only_bind ((reads_getSecurityPosture env).only.spares k) fun failed => ?_
    cases failed with
    | nil => exact record true
    | cons _ _ => exact Prog.only_bind (record false) fun _ => trivial

lemma spares_establishEntry (h : Resource.addressList≠k) (address : Ipv4) (list comment : String) :
    Spares k (establishEntry address list comment) := by
  refine Prog.only_bind ((readOnly_entries _ _).spares k) fun found => ?_
  split_ifs
  · trivial
  · exact Prog.only_bind (spares_removeFound h _) fun _ => spares_add h _

lemma spares_setQueue (h : Resource.queue≠k) (address : Ipv4) (found : List (ℕ × SimpleQueue))
    (name maxLimit comment : String) : Spares k (setQueue address found name maxLimit comment) := by
  have replaced : Spares k ((removeQueues name).bind fun _ =>
      add .queue (deviceQueue address name maxLimit comment)) :=
    Prog.only_bind (spares_removeFound h _) fun _ => spares_add h _
  match found with
  | [] => exact replaced
  | [(id,_)] => exact spares_set h _ _
  | _::_::_ => exact replaced

lemma spares_writeMode (haddress : Resource.addressList≠k) (hqueue : Resource.queue≠k)
    (env : Environment) (address : Ipv4) (description : String) (mode : Mode) :
    Spares k (writeMode env address description mode) := by
  cases mode with
  | normal =>
    exact Prog.only_bind (spares_removeFound haddress _) fun _ =>
      Prog.only_bind (spares_removeFound haddress _) fun _ => spares_removeFound hqueue _
  | blocked =>
    exact Prog.only_bind (spares_establishEntry haddress _ _ _) fun _ =>
      Prog.only_bind (spares_removeFound haddress _) fun _ =>
      Prog.only_bind (spares_removeFound hqueue _) fun _ => spares_removeFound hqueue _
  | slow =>
    exact Prog.only_bind ((readOnly_entries _ _).spares k) fun _ =>
      Prog.only_bind (spares_setQueue hqueue _ _ _ _ _) fun _ =>
      Prog.only_bind (spares_establishEntry haddress _ _ _) fun _ =>
      Prog.only_bind (spares_removeFound hqueue _) fun _ => spares_removeFound haddress _

/-- Switching a mode leaves everything but entries and queues alone. -/
lemma spares_setDeviceMode (haddress : Resource.addressList≠k) (hqueue : Resource.queue≠k)
    (env : Environment) (address : Ipv4) (description : String) (mode : Mode) :
    Spares k (setDeviceMode env address description mode) := by
  refine spares_serialized (Prog.only_bind (spares_requirePolicyWriteGate env) fun _ => ?_)
  refine Prog.only_bind (readOnly_connect.spares k) fun _ => ?_
  refine Prog.only_bind (spares_explained ?_) fun _ => ?_
  · exact Prog.only_bind (readOnly_validateDeviceBlockPrimitive.spares k) fun _ =>
      Prog.only_bind ((readOnly_validateRestrictedDevice address).spares k) fun _ =>
      spares_writeMode haddress hqueue env address _ mode
  · refine Prog.only_bind ((readOnly_getDeviceEnforcement address).spares k) fun result => ?_
    split_ifs <;> trivial

lemma spares_cleanupDeviceTempResources (hscheduler : Resource.scheduler≠k)
    (hscript : Resource.script≠k) (address : Ipv4) :
    Spares k (cleanupDeviceTempResources address) :=
  Prog.only_bind (spares_removeFound hscheduler _) fun _ => spares_removeFound hscript _

lemma spares_enableScheduler (h : Resource.scheduler≠k) (address : Ipv4) :
    Spares k (enableScheduler address) :=
  Prog.only_bind (readOnly_connect.spares k) fun _ =>
    Prog.only_bind ((readOnly_entries _ _).spares k) fun _ =>
    Prog.only_forEach fun _ _ => spares_set h _ _

lemma spares_removeFailSafe (hscheduler : Resource.scheduler≠k) (hscript : Resource.script≠k)
    (address : Ipv4) : Spares k (removeFailSafe address) :=
  Prog.only_bind (readOnly_connect.spares k) fun _ =>
    Prog.only_rescue (spares_cleanupDeviceTempResources hscheduler hscript address) fun _ => trivial

/-- What touches neither entries nor queues keeps a device restricted. -/
lemma keeps_of_spares {s : System} {n w : ℕ} {address : Ipv4} (haddress : Spares .addressList p)
    (hqueue : Spares .queue p) (start : Keeps w address s) :
    p.Withstands router (Keeps w address) n s fun _ _ _ => True := by
  refine Prog.Withstands.mono (((haddress.withstands s n).and (hqueue.withstands s n)).weaken
    fun t ht => ?_) fun _ _ _ _ _ _ => trivial
  exact (restricted_congr ht.1 ht.2).mpr start

end Spares
end ZenControl.Router
