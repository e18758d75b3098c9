import ZenControl.Library.Interleaving
import ZenControl.Library.Tallies
import ZenControl.Telemetry.Flows

/-! The flow writer: its batch, the tables that one transaction fills, and what they hold after
any number of committed and failed transactions. -/
namespace ZenControl.Telemetry
open Calls Tallies

section Tables

/-- The `bytes`, `packets` and `flows` columns of a summary row. -/
@[ext] structure Totals where
  bytes : ℤ
  packets : ℤ
  flows : ℤ
  deriving DecidableEq, Repr

namespace Totals

instance : Zero Totals := ⟨⟨0,0,0⟩⟩
instance : Add Totals := ⟨fun a b => ⟨a.bytes+b.bytes,a.packets+b.packets,a.flows+b.flows⟩⟩

@[simp] lemma zero_bytes : (0 : Totals).bytes=0 := rfl
@[simp] lemma zero_packets : (0 : Totals).packets=0 := rfl
@[simp] lemma zero_flows : (0 : Totals).flows=0 := rfl
@[simp] lemma add_bytes (a b : Totals) : (a+b).bytes=a.bytes+b.bytes := rfl
@[simp] lemma add_packets (a b : Totals) : (a+b).packets=a.packets+b.packets := rfl
@[simp] lemma add_flows (a b : Totals) : (a+b).flows=a.flows+b.flows := rfl

instance : AddCommMonoid Totals where
  add_assoc a b c := by ext <;> simp [add_assoc]
  zero_add a := by ext <;> simp
  add_zero a := by ext <;> simp
  add_comm a b := by ext <;> simp [add_comm]
  nsmul := nsmulRec

@[simp] lemma sum_bytes (ts : List Totals) : ts.sum.bytes=(ts.map bytes).sum := by
  induction ts <;> simp [*]

@[simp] lemma sum_packets (ts : List Totals) : ts.sum.packets=(ts.map packets).sum := by
  induction ts <;> simp [*]

@[simp] lemma sum_flows (ts : List Totals) : ts.sum.flows=(ts.map flows).sum := by
  induction ts <;> simp [*]

end Totals

/-- Five minutes, a day and two seconds in microseconds. -/
def bucketWidth : ℤ := 300000000
def dayWidth : ℤ := 86400000000
def flushDelay : ℤ := 2000000

/-- `bucket5` of a UTC time. -/
def bucket5 (t : ℤ) : ℤ := t-t%bucketWidth

/-- `dt.date()` of a UTC time. -/
def utcDay (t : ℤ) : ℤ := t/dayWidth

/-- The key of `flow_5m`: bucket, client, direction, service, remote address and domain. -/
abbrev BucketKey := ℤ × String × Direction × String × String × String

/-- The key of `device_daily`. -/
abbrev DeviceKey := ℤ × String × Direction

/-- The key of `service_daily`. -/
abbrev ServiceKey := ℤ × String × String

namespace FlowRow
variable (row : FlowRow)

def bucketKey : BucketKey :=
  (bucket5 row.eventTime,row.clientIp,row.direction,row.service,row.remoteIp,row.domain)

def deviceKey : DeviceKey := (utcDay row.eventTime,row.clientIp,row.direction)

def serviceKey : ServiceKey := (utcDay row.eventTime,row.clientIp,row.service)

/-- What one row adds to its summaries. -/
def amounts : Totals := ⟨row.bytes,row.packets,1⟩

end FlowRow

/-- The amounts of some rows under a key. -/
def amountsBy {κ : Type} (key : FlowRow → κ) (rows : List FlowRow) : List (κ × Totals) :=
  rows.map fun row => (key row,row.amounts)

/-- The four tables that flows are written to, `flows_raw` in the order of its serial numbers. -/
structure FlowDb where
  flowsRaw : List FlowRow := []
  flow5m : List (BucketKey × Totals) := []
  deviceDaily : List (DeviceKey × Totals) := []
  serviceDaily : List (ServiceKey × Totals) := []

/-- The summary of one batch, in the order in which its keys come up. -/
def aggregate {κ : Type} [DecidableEq κ] (key : FlowRow → κ) (batch : List FlowRow) :
    List (κ × Totals) := postAll (amountsBy key batch) []

/-- The transaction of `flow_writer`: the rows as they are, and the summaries of the batch
added to what the summary tables hold. -/
def writeBatch (db : FlowDb) (batch : List FlowRow) : FlowDb :=
  { flowsRaw := db.flowsRaw ++ batch
    flow5m := postAll (aggregate FlowRow.bucketKey batch) db.flow5m
    deviceDaily := postAll (aggregate FlowRow.deviceKey batch) db.deviceDaily
    serviceDaily := postAll (aggregate FlowRow.serviceKey batch) db.serviceDaily }

@[simp] lemma writeBatch_raw (db : FlowDb) (batch : List FlowRow) :
    (writeBatch db batch).flowsRaw=db.flowsRaw ++ batch := rfl

end Tables

section Writer

/-- The variables of `flow_writer` and the database that it writes. -/
structure Writer where
  batch : List FlowRow := []
  last : ℤ := 0
  db : FlowDb := {}

/-- What one iteration meets: what the queue gives, and the clock before and after the
transaction. -/
structure Turn where
  got : Option FlowRow
  now : ℤ
  later : ℤ

/-- Whether a batch is to be written. -/
def flushDue (flowBatch : ℤ) (batch : List FlowRow) (last now : ℤ) : Bool :=
  !batch.isEmpty && (flowBatch ≤ batch.length || flushDelay ≤ now-last)

/-- One iteration of `flow_writer`. The database commits the transaction or fails it. -/
def Writer.turn (flowBatch : ℤ) (commit : FlowDb → List FlowRow → Option FlowDb) (w : Writer)
    (turn : Turn) : Writer :=
  let batch := w.batch ++ turn.got.toList
  if flushDue flowBatch batch w.last turn.now then
    match commit w.db batch with
    | some db => { batch := [], last := turn.later, db := db }
    | none => { w with batch := batch }
  else { w with batch := batch }

end Writer

section Runs

/-- A writer with the rows that it has taken from the queue and the batches that it has
committed, both of which the program does not keep. -/
structure Account extends Writer where
  taken : List FlowRow := []
  committed : List (List FlowRow) := []

/-- One iteration whose transaction, if there is one, commits or fails. -/
def Account.turn (flowBatch : ℤ) (a : Account) (turn : Turn) (commits : Bool) : Account :=
  let batch := a.batch ++ turn.got.toList
  { toWriter := a.toWriter.turn flowBatch
      (fun db batch => if commits then some (writeBatch db batch) else none) turn
    taken := a.taken ++ turn.got.toList
    committed := if commits && flushDue flowBatch batch a.last turn.now then
      a.committed ++ [batch] else a.committed }

def AccountStep (flowBatch : ℤ) (step : Turn × Bool) (a b : Account) : Prop :=
  b=a.turn flowBatch step.1 step.2

/-- A summary table that holds exactly the sums over some rows, key by key. -/
structure SumsOf {κ : Type} [DecidableEq κ] (key : FlowRow → κ) (rows : List FlowRow)
    (table : List (κ × Totals)) : Prop where
  nodup : (keys table).Nodup
  present : ∀ k, k ∈ keys table ↔ ∃ row ∈ rows, key row=k
  bytes : ∀ e ∈ table, e.2.bytes=((rows.filter fun row => key row=e.1).map FlowRow.bytes).sum
  packets : ∀ e ∈ table,
    e.2.packets=((rows.filter fun row => key row=e.1).map FlowRow.packets).sum
  flows : ∀ e ∈ table, e.2.flows=(rows.filter fun row => key row=e.1).length

lemma total_amountsBy {κ : Type} (p : κ → Bool) (key : FlowRow → κ) (rows : List FlowRow) :
    total p (amountsBy key rows)=((rows.filter fun row => p (key row)).map FlowRow.amounts).sum := by
  unfold total amountsBy
  rw [List.filter_map,List.map_map]
  rfl

lemma SumsOf.of_balances {κ : Type} [DecidableEq κ] {key : FlowRow → κ}
    {rows : List FlowRow} {table : List (κ × Totals)}
    (h : Balances table (amountsBy key rows)) : SumsOf key rows table := by
  have hamount : ∀ e ∈ table,
      e.2=((rows.filter fun row => key row=e.1).map FlowRow.amounts).sum := fun e he => by
    rw [h.amount he,total_amountsBy]
  refine ⟨h.nodup,fun k => ?_,fun e he => ?_,fun e he => ?_,fun e he => ?_⟩
  · rw [h.keys]
    simp [keys,amountsBy]
  · rw [hamount e he,Totals.sum_bytes,List.map_map]
    rfl
  · rw [hamount e he,Totals.sum_packets,List.map_map]
    rfl
  · rw [hamount e he,Totals.sum_flows,List.map_map]
    have hones (rows : List FlowRow) : (rows.map fun _ => (1 : ℤ)).sum=rows.length := by simp
    exact hones _

/-- Every row that was taken is in the batch or in one committed batch, `flows_raw` holds the
committed batches and the summary tables hold the sums over `flows_raw`. -/
structure Accounted (a : Account) : Prop where
  taken : a.taken=a.committed.flatten ++ a.batch
  raw : a.db.flowsRaw=a.committed.flatten
  flow5m : Balances a.db.flow5m (amountsBy FlowRow.bucketKey a.db.flowsRaw)
  deviceDaily : Balances a.db.deviceDaily (amountsBy FlowRow.deviceKey a.db.flowsRaw)
  serviceDaily : Balances a.db.serviceDaily (amountsBy FlowRow.serviceKey a.db.flowsRaw)

variable {flowBatch : ℤ} {a : Account}

lemma Accounted.empty (last : ℤ) : Accounted { last := last } :=
  ⟨rfl,rfl,Balances.nil,Balances.nil,Balances.nil⟩

lemma balances_write {κ : Type} [DecidableEq κ] {key : FlowRow → κ} {table : List (κ × Totals)}
    {rows : List FlowRow} (h : Balances table (amountsBy key rows)) (batch : List FlowRow) :
    Balances (postAll (aggregate key batch) table) (amountsBy key (rows ++ batch)) := by
  have hposted := h.post_summed (amountsBy key batch)
  rwa [amountsBy,amountsBy,← List.map_append] at hposted

/-- One iteration keeps the account. -/
lemma Accounted.turn (h : Accounted a) (turn : Turn) (commits : Bool) :
    Accounted (a.turn flowBatch turn commits) := by
  obtain ⟨⟨batch,last,db⟩,taken,committed⟩ := a
  obtain ⟨htaken,hraw,h5,hdevice,hservice⟩ := h
  dsimp only at htaken hraw h5 hdevice hservice
  unfold Account.turn Writer.turn
  dsimp only
  by_cases hdue : flushDue flowBatch (batch ++ turn.got.toList) last turn.now
  · cases commits with
    | true =>
      simp only [hdue,if_true,Bool.true_and]
      refine ⟨?_,?_,balances_write h5 _,balances_write hdevice _,balances_write hservice _⟩
      · simp [htaken]
      · simp [hraw]
    | false =>
      simp only [hdue,if_true]
      exact ⟨by simp [htaken],hraw,h5,hdevice,hservice⟩
  · simp only [hdue,Bool.and_false]
    exact ⟨by simp [htaken],hraw,h5,hdevice,hservice⟩

/-- What the tables and the batch hold in every reachable state. -/
structure Exact (a : Account) : Prop where
  taken : a.taken=a.committed.flatten ++ a.batch
  raw : a.db.flowsRaw=a.committed.flatten
  flow5m : SumsOf FlowRow.bucketKey a.db.flowsRaw a.db.flow5m
  deviceDaily : SumsOf FlowRow.deviceKey a.db.flowsRaw a.db.deviceDaily
  serviceDaily : SumsOf FlowRow.serviceKey a.db.flowsRaw a.db.serviceDaily

/-- Whatever rows arrive and whichever transactions fail, each row taken is pending or in one
committed transaction, and every summary is the sum over the committed rows. -/
theorem flows_accounted {last : ℤ}
    (run : Run (AccountStep flowBatch) anyStep { last := last } a) : Exact a := by
  have h : Accounted a :=
    run.invariant (I := Accounted) (Accounted.empty last) fun ha _ hstep => hstep ▸ ha.turn _ _
  exact ⟨h.taken,h.raw,.of_balances h.flow5m,.of_balances h.deviceDaily,
    .of_balances h.serviceDaily⟩

/-- A download of some bytes in the first minute of a day. -/
def sampleFlow (bytes : ℤ) : FlowRow :=
  { eventTime := 60000000, flowStart := 0, flowEnd := 60000000, samplerAddress := "",
    clientIp := "192.168.1.20", remoteIp := "198.51.100.10", direction := .download,
    srcIp := "198.51.100.10", dstIp := "192.168.1.20", srcPort := 443, dstPort := 50000,
    protocol := "TCP", bytes := bytes, packets := 1, srcMac := "", dstMac := "", inIf := 1,
    outIf := 2, domain := "", category := "unknown", service := "Unknown", confidence := "none",
    classifierEvidence := { source := .fallback, matchedValue := .none },
    classifierVersion := classifierVersion }

/-- A transaction that fails and is tried again with the next row. -/
theorem flows_accounted_retried : Exact
    (((({} : Account).turn 1 { got := some (sampleFlow 100), now := 0, later := 0 } false).turn 1
      { got := some (sampleFlow 50), now := 0, later := 0 } true)) :=
  @flows_accounted 1 _ 0
    ((Run.refl.step trivial (i := (_,false)) rfl).step trivial (i := (_,true)) rfl)

end Runs
end ZenControl.Telemetry
