import ZenControl.Telemetry.Accounting

/-! The flow writer against a server that rejects a transaction when some value of it does not
fit its column. One such row holds up all the others. -/
namespace ZenControl.Telemetry
open Calls Tallies

section Columns

/-- The range of `integer`. -/
def fitsInteger (n : ℤ) : Bool := -2^31 ≤ n && n < 2^31

/-- The range of `bigint`. -/
def fitsBigint (n : ℤ) : Bool := -2^63 ≤ n && n < 2^63

/-- What `text` can hold. -/
def fitsText (s : String) : Bool := !s.toList.contains '\x00'

/-- What `jsonb` can hold: the evidence of a flow matches texts or nothing. -/
def Evidence.fits (e : Evidence) : Bool :=
  match e.matchedValue with
  | .str s => fitsText s
  | _ => true

/-- Whether the columns of `flows_raw` hold a row. Every `datetime` fits. -/
def FlowRow.fits (row : FlowRow) : Bool :=
  [row.samplerAddress,row.clientIp,row.remoteIp,row.srcIp,row.dstIp,row.protocol,row.srcMac,
    row.dstMac,row.domain,row.category,row.service,row.confidence,
    row.classifierVersion].all fitsText &&
  [row.srcPort,row.dstPort,row.inIf,row.outIf].all fitsInteger &&
  [row.bytes,row.packets].all fitsBigint && row.classifierEvidence.fits

def Totals.fits (t : Totals) : Bool := fitsBigint t.bytes && fitsBigint t.packets && fitsBigint t.flows

/-- Whether a summary table can take in the summary of a batch. -/
def tableFits {κ : Type} [DecidableEq κ] (key : FlowRow → κ) (batch : List FlowRow)
    (table : List (κ × Totals)) : Bool :=
  (aggregate key batch).all (fun e => e.2.fits) &&
    (postAll (aggregate key batch) table).all fun e => e.2.fits

/-- Whether all values of the transaction fit their columns. -/
def accepts (db : FlowDb) (batch : List FlowRow) : Bool :=
  batch.all FlowRow.fits && tableFits FlowRow.bucketKey batch db.flow5m &&
    tableFits FlowRow.deviceKey batch db.deviceDaily &&
    tableFits FlowRow.serviceKey batch db.serviceDaily

/-- A server that is up: it fails exactly the transactions with a value that does not fit. -/
def strictCommit (db : FlowDb) (batch : List FlowRow) : Option FlowDb :=
  if accepts db batch then some (writeBatch db batch) else none

end Columns

section Turns
variable (flowBatch : ℤ)

/-- The batch that an iteration may write. -/
def Writer.pending (w : Writer) (turn : Turn) : List FlowRow := w.batch ++ turn.got.toList

def Writer.due (w : Writer) (turn : Turn) : Bool :=
  flushDue flowBatch (w.pending turn) w.last turn.now

/-- No storable row is left in the batch, and each one has been committed. -/
def Unblocked (w : Writer) (turn : Turn) : Prop :=
  let after := w.turn flowBatch strictCommit turn
  (∀ row ∈ after.batch, accepts after.db [row]=false) ∧
    ∀ row ∈ w.pending turn, accepts w.db [row] → row ∈ after.db.flowsRaw

variable {flowBatch} {w w' : Writer} {turn : Turn}

lemma turn_rejected (h : accepts w.db (w.pending turn)=false) :
    w.turn flowBatch strictCommit turn={ w with batch := w.pending turn } := by
  unfold Writer.turn
  dsimp only
  split_ifs
  · rw [strictCommit,if_neg (by simpa [Writer.pending] using h)]
    rfl
  · rfl

lemma turn_accepted (hdue : w.due flowBatch turn) (h : accepts w.db (w.pending turn)) :
    w.turn flowBatch strictCommit turn=
      { batch := [], last := turn.later, db := writeBatch w.db (w.pending turn) } := by
  unfold Writer.turn
  dsimp only
  rw [if_pos (by exact hdue),strictCommit,if_pos (by exact h)]
  rfl

/-- An iteration that writes leaves no storable row behind exactly when the whole batch fits or
no row of it is storable. -/
theorem unblocked_iff (flowBatch : ℤ) (w : Writer) (turn : Turn) :
    w.due flowBatch turn → (Unblocked flowBatch w turn ↔
      accepts w.db (w.pending turn) ∨ ∀ row ∈ w.pending turn, accepts w.db [row]=false) := by
  intro hdue
  unfold Unblocked
  dsimp only
  cases haccepts : accepts w.db (w.pending turn) with
  | true =>
    rw [turn_accepted hdue haccepts]
    dsimp only
    refine iff_of_true ⟨fun row hrow => absurd hrow List.not_mem_nil,fun row hrow _ => ?_⟩
      (.inl rfl)
    rw [writeBatch_raw]
    exact List.mem_append_right _ hrow
  | false =>
    rw [turn_rejected haccepts]
    dsimp only
    constructor
    · rintro ⟨hleft,-⟩
      exact .inr hleft
    · rintro (habsurd | hleft)
      · cases habsurd
      · exact ⟨hleft,fun row hrow hstorable => absurd hstorable (by simp [hleft row hrow])⟩

/-- The rows that have waited are written with the one that fills the batch. -/
theorem unblocked_batch : Unblocked 3 { batch := [sampleFlow 100,sampleFlow 250] }
    { got := some (sampleFlow 50), now := 0, later := 0 } :=
  (unblocked_iff 3 { batch := [sampleFlow 100,sampleFlow 250] }
    { got := some (sampleFlow 50), now := 0, later := 0 } (by decide)).mpr (.inl (by decide))

lemma accepts_unfit {db : FlowDb} {batch : List FlowRow} {row : FlowRow} (hrow : row ∈ batch)
    (hfits : row.fits=false) : accepts db batch=false := by
  have hall : batch.all FlowRow.fits=false := by
    rw [List.all_eq_false]
    exact ⟨row,hrow,by simp [hfits]⟩
  simp [accepts,hall]

def TurnStep (flowBatch : ℤ) (turn : Turn) (w w' : Writer) : Prop :=
  w'=w.turn flowBatch strictCommit turn

/-- From the moment at which a row that does not fit is in the batch nothing is written any
more, whatever else arrives. -/
theorem blocked_for_ever {row : FlowRow} (hfits : row.fits=false) (hrow : row ∈ w.batch)
    (run : Run (TurnStep flowBatch) anyStep w w') :
    row ∈ w'.batch ∧ w'.db=w.db ∧ w.batch <+: w'.batch := by
  refine run.invariant (I := fun v => row ∈ v.batch ∧ v.db=w.db ∧ w.batch <+: v.batch)
    ⟨hrow,rfl,List.prefix_rfl⟩ fun {turn v _} hv _ hstep => ?_
  obtain ⟨hmem,hdb,hgrown⟩ := hv
  have hpending : row ∈ v.pending turn := List.mem_append_left _ hmem
  rw [hstep,turn_rejected (accepts_unfit hpending hfits)]
  exact ⟨hpending,hdb,hgrown.trans (List.prefix_append _ _)⟩

end Turns

section Poisoned

/-- A process in which texts are ASCII and one address is at home. -/
def homeEnv : IngestEnv :=
  { lower := nocase, lower_ascii := nocase_ascii, casefold := nocase,
    containerText := fun _ => "", ipAddress := some, ipOfBytes := fun _ => "",
    inLan := fun address => address="192.168.1.20",
    fromNanoseconds := fun ns => some (ns/1000), fromSeconds := fun n => .ok (n*1000000),
    toFloat := fun value => value.toInt.map fun n => { text := "", finite := some (n,1) } }

/-- A record of a flow into the home network, with its protocol and destination port. -/
def sampleRecord (proto : String) (port : ℤ) : PyVal :=
  .dict [("src_addr",.str "198.51.100.10"),("dst_addr",.str "192.168.1.20"),
    ("time_received_ns",.int 60000000000),("proto",.str proto),("src_port",.int 443),
    ("dst_port",.int port),("bytes",.int 100),("packets",.int 1)]

/-- The row that a TCP record becomes. -/
def recordRow (port : ℤ) : FlowRow :=
  { eventTime := 60000000, flowStart := 0, flowEnd := 0, samplerAddress := "",
    clientIp := "192.168.1.20", remoteIp := "198.51.100.10", direction := .download,
    srcIp := "198.51.100.10", dstIp := "192.168.1.20", srcPort := 443, dstPort := port,
    protocol := "TCP", bytes := 100, packets := 1, srcMac := "", dstMac := "", inIf := 0,
    outIf := 0, domain := "", category := "unknown", service := "Unknown", confidence := "none",
    classifierEvidence := { source := .fallback, matchedValue := .none },
    classifierVersion := classifierVersion }

lemma read_recordRow {port : ℤ} (h : port=50000 ∨ port=4294967296) : Read (recordRow port) := by
  refine ⟨homeEnv,{ compiled := [], definitions := [], domainIpMap := [] },sampleRecord "TCP" port,?_⟩
  rcases h with rfl | rfl <;> rfl

/-- The batch in which a port number that no `integer` holds stands before a good row. -/
def poisoned : Writer := { batch := [recordRow 4294967296] }

def goodTurn : Turn := { got := some (recordRow 50000), now := 2000000, later := 2000000 }

/-- A storable row behind one that does not fit is not committed. -/
theorem record_blocks_batch :
    ¬∀ (flowBatch : ℤ) (w : Writer) (turn : Turn),
      Run (TurnStep flowBatch) (fun turn _ => ∀ row ∈ turn.got, Read row) {} w →
      (∀ row ∈ turn.got, Read row) → w.due flowBatch turn → Unblocked flowBatch w turn := by
  intro h
  have hread : ∀ row ∈ some (recordRow 4294967296), Read row := fun row hrow => by
    obtain rfl := Option.some.inj hrow
    exact read_recordRow (.inr rfl)
  have hrun : Run (TurnStep 250) (fun turn _ => ∀ row ∈ turn.got, Read row) {} poisoned :=
    Run.refl.step (i := { got := some (recordRow 4294967296), now := 0, later := 0 }) hread
      (by unfold TurnStep; rfl)
  have hgood : ∀ row ∈ goodTurn.got, Read row := fun row hrow => by
    obtain rfl := Option.some.inj hrow
    exact read_recordRow (.inl rfl)
  have hunblocked := (unblocked_iff 250 poisoned goodTurn (by decide)).mp
    (h 250 poisoned goodTurn hrun hgood (by decide))
  rcases hunblocked with haccepts | hnone
  · have : accepts poisoned.db (poisoned.pending goodTurn)=false :=
      accepts_unfit (by simp [poisoned,Writer.pending]) (show (recordRow 4294967296).fits=false by
        decide)
    rw [this] at haccepts
    cases haccepts
  · have hstorable : accepts poisoned.db [recordRow 50000] := by decide
    rw [hnone _ (by simp [poisoned,Writer.pending,goodTurn])] at hstorable
    cases hstorable

end Poisoned
end ZenControl.Telemetry
