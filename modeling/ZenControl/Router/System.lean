import ZenControl.Library.Requests
import ZenControl.Text

/-! RouterOS as the adapter meets it: an ordered list of filter rules and numbered tables of the
other resources, behind an interface of single API calls. Beside it stand the connection that a
coherent session of the calling thread keeps open, with the proof of authority made in it, and the
mutation lane. -/
namespace ZenControl.Router
open Rows Requests Calls

/-- A rule of `/ip/firewall/filter`; a field that is not set is blank. -/
structure FilterRule where
  comment : String
  chain : String := ""
  action : String := ""
  disabled : Bool := false
  srcAddressList : String := ""
  dstAddressList : String := ""
  outInterfaceList : String := ""
  jumpTarget : String := ""
  protocol : String := ""
  dstPort : String := ""
  addressList : String := ""
  tlsHost : String := ""
  connectionState : String := ""
  deriving DecidableEq, Repr

/-- An entry of `/ip/firewall/address-list`. -/
structure AddressEntry where
  list : String
  address : String
  comment : String := ""
  dynamic : Bool := false
  deriving DecidableEq, Repr

/-- A queue of `/queue/simple`. -/
structure SimpleQueue where
  name : String
  target : String
  maxLimit : String
  queue : String := "default-small/default-small"
  comment : String := ""
  disabled : Bool := false
  deriving DecidableEq, Repr

/-- An entry of `/system/scheduler`. -/
structure Scheduler where
  name : String
  comment : String
  startDate : String := ""
  startTime : String := ""
  interval : String := "0s"
  onEvent : String := ""
  policy : String := "read,write,test"
  disabled : Bool := false
  runCount : ℕ := 0
  deriving DecidableEq, Repr

/-- An entry of `/system/script`. -/
structure Script where
  name : String
  comment : String := ""
  source : String := ""
  policy : String := "read,write,test"
  deriving DecidableEq, Repr

/-- An entry of `/ip/firewall/connection`. -/
structure Connection where
  srcAddress : String
  dstAddress : String
  deriving DecidableEq, Repr

inductive Resource
  | addressList | queue | scheduler | script | connection
  deriving DecidableEq, Repr

abbrev Row : Resource → Type
  | .addressList => AddressEntry
  | .queue => SimpleQueue
  | .scheduler => Scheduler
  | .script => Script
  | .connection => Connection

/-- The state that API calls read and change. -/
structure RouterOS where
  filter : List (ℕ × FilterRule)
  tables : TableFamily Row

/-- A coherent session, and whether the authority to write was proven in it. -/
structure Session where
  proven : Bool := false
  deriving DecidableEq, Repr

/-- What a thread of the program sees. -/
structure System where
  router : RouterOS
  session : Option Session := none
  lane : ℕ := 0

inductive RouterCall
  | connect
  | rules (query : FilterRule → Bool)
  | request (q : Request Row)
  | session
  | setSession (s : Option Session)
  | enterLane
  | leaveLane

abbrev RouterCall.Answer : RouterCall → Type
  | .rules _ => List (ℕ × FilterRule)
  | .request q => q.Answer
  | .session => Option Session
  | .enterLane => Bool
  | _ => Unit

/-- `RouterError`, an exception of the API library, and those of the planner and the
reconciler. -/
inductive Failure
  | router (message : String)
  | api (message : String)
  | planning (message : String)
  | reconciliation (message : String)
  deriving DecidableEq, Repr

def Failure.message : Failure → String
  | .router m | .api m | .planning m | .reconciliation m => m

abbrev RouterProg := Prog RouterCall RouterCall.Answer Failure

/-- One call, when no failure of the connection interferes. -/
def RouterCall.serve : (c : RouterCall) → System → Except Failure c.Answer × System
  | .connect, s => (.ok (),s)
  | .rules query, s => (.ok (s.router.filter.filter fun r => query r.2),s)
  | .request q, s =>
    ((match (q.perform s.router.tables).1 with
      | some answer => .ok answer
      | none => .error (.api "no such item")),
      { s with router := { s.router with tables := (q.perform s.router.tables).2 } })
  | .session, s => (.ok s.session,s)
  | .setSession shared, s => (.ok (),{ s with session := shared })
  | .enterLane, s => (.ok true,{ s with lane := s.lane+1 })
  | .leaveLane, s => (.ok (),{ s with lane := s.lane-1 })

/-- The calls that go over the network can fail. -/
def RouterCall.failure : RouterCall → Option Failure
  | .connect | .rules _ | .request _ => some (.api "connection lost")
  | _ => none

/-- RouterOS behind its API. -/
abbrev router : Server RouterCall RouterCall.Answer System Failure where
  serve := RouterCall.serve
  failure := RouterCall.failure

/-- Run a program when no call fails. -/
abbrev exec {α : Type} (p : RouterProg α) (s : System) : Except Failure α × System :=
  p.run RouterCall.serve s

section Calls
variable {α : Type}

/-- Make one call. -/
def call (c : RouterCall) : RouterProg c.Answer := Prog.issue c

def rules (query : FilterRule → Bool) : RouterProg (List (ℕ × FilterRule)) :=
  call (.rules query)

def session : RouterProg (Option Session) := call .session

def entries (k : Resource) (query : Row k → Bool) : RouterProg (List (ℕ × Row k)) :=
  call (.request (.get k query))

def add (k : Resource) (row : Row k) : RouterProg Unit := call (.request (.add k row))

def set (k : Resource) (id : ℕ) (change : Row k → Row k) : RouterProg Unit :=
  call (.request (.set k id change))

def remove (k : Resource) (id : ℕ) : RouterProg Unit := call (.request (.remove k id))

/-- Remove what a query finds, one row after the other. -/
def removeFound (k : Resource) (query : Row k → Bool) : RouterProg Unit :=
  (entries k query).bind fun found => Prog.forEach found fun r => remove k r.1

/-- `finally`: the last part is run whether or not the body raises. -/
def andFinally (body : RouterProg α) (last : RouterProg Unit) : RouterProg α :=
  (body.rescue fun e => last.bind fun _ => .raise e).bind fun a => last.bind fun _ => .ret a

/-- `except RouterError: raise` and `except Exception`, which becomes a `RouterError`. -/
def explained (context : String) (body : RouterProg α) : RouterProg α :=
  body.rescue fun
    | .api m => .raise (.router (context ++ ": " ++ m))
    | e => .raise e

/-- `_connect`: inside a coherent session the open connection is shared. -/
def connect : RouterProg Unit :=
  session.bind fun shared =>
    if shared.isSome then .ret ()
    else (call .connect).rescue fun e =>
      .raise (.router ("Unable to connect to MikroTik: " ++ e.message))

/-- `coherent_session`. -/
def coherently (body : RouterProg α) : RouterProg α :=
  session.bind fun shared =>
    if shared.isSome then body
    else connect.bind fun _ => (call (.setSession (some {}))).bind fun _ =>
      andFinally body (call (.setSession none))

/-- `mutation_session`, which `serialized_router_mutation` puts around a method; it waits for the
lane for 30 seconds. -/
def serialized (body : RouterProg α) : RouterProg α :=
  (call .enterLane).bind fun acquired =>
    if !acquired then .raise (.router "RouterOS mutation lane is busy; timed out after 30.0s")
    else andFinally body (call .leaveLane)

end Calls
end ZenControl.Router
