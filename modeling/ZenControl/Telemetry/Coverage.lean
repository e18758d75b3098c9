import ZenControl.Telemetry.Blocking

/-! The classification coverage that the control process reads back from the summaries of the
ingest process, and the flows for which the classifier found a service. -/
namespace ZenControl.Telemetry
open Calls Tallies

section Summaries

/-- The counts of one source: bytes of traffic or DNS queries. -/
structure SourceCounts where
  total : ℤ
  classified : ℤ
  unclassified : ℤ
  /-- `service_labels` of traffic, `unknown_domains` of DNS. -/
  distinct : ℤ
  deriving DecidableEq, Repr

inductive EvidenceStatus
  | unavailable
  | inconsistent
  | noEvidence
  | partlyAvailable
  | measured
  deriving DecidableEq, Repr

/-- One half of `_classification_coverage_result`. The percentage is in tenths. -/
structure SourceCoverage where
  total : ℤ
  classified : ℤ
  unclassified : ℤ
  available : Bool
  observed : Bool
  status : EvidenceStatus
  accounted : ℤ
  accountingValid : Bool
  percent : Option ℤ
  distinct : ℤ
  deriving DecidableEq, Repr

variable (percentTenths : ℤ → ℤ → ℤ)

/-- What `_classification_coverage_result` does with each of its two sources. -/
def sourceCoverage (counts : Option SourceCounts) : SourceCoverage :=
  let available := counts.isSome
  let raw := counts.getD ⟨0,0,0,0⟩
  let total := max 0 raw.total
  let classified := max 0 raw.classified
  let unclassified := max 0 raw.unclassified
  let accounted := classified+unclassified
  let observed := available && 0 < total
  let valid := available && (0 ≤ raw.total && 0 ≤ raw.classified && 0 ≤ raw.unclassified) &&
    accounted=total
  { total := total, classified := classified, unclassified := unclassified,
    available := available, observed := observed,
    status :=
      if !available then .unavailable
      else if !valid then .inconsistent
      else if !observed then .noEvidence
      else .measured,
    accounted := accounted, accountingValid := valid,
    percent := if observed && valid then some (percentTenths classified total) else none,
    distinct := max 0 raw.distinct }

/-- What `_classification_coverage_result` returns. -/
structure CoverageResult where
  traffic : SourceCoverage
  dns : SourceCoverage
  evidenceStatus : EvidenceStatus
  evidenceErrors : List (String × String)
  deriving Repr

/-- `_classification_coverage_result`. -/
def classificationCoverageResult (flow dns : Option SourceCounts)
    (errors : List (String × String)) : CoverageResult :=
  let traffic := sourceCoverage percentTenths flow
  let queries := sourceCoverage percentTenths dns
  let statuses := [traffic.status,queries.status]
  { traffic := traffic, dns := queries,
    evidenceStatus :=
      if statuses.all (fun s => s=.unavailable) then .unavailable
      else if statuses.contains .inconsistent then .inconsistent
      else if statuses.contains .unavailable then .partlyAvailable
      else if statuses.all (fun s => s=.noEvidence) then .noEvidence
      else .measured,
    evidenceErrors := errors }

/-- `max(1, min(int(hours), 24 * 31))`. -/
def clampHours (hours : ℤ) : ℤ := max 1 (min hours 744)

/-- An hour in microseconds. -/
def hourWidth : ℤ := 3600000000

/-- `bucket >= now() - (hours * interval '1 hour')`. -/
def inWindow (now hours : ℤ) (key : BucketKey) : Bool := now-clampHours hours*hourWidth ≤ key.1

/-- `NULLIF(service, '') IS NOT NULL`. -/
def labelled (key : BucketKey) : Bool := key.2.2.2.1≠""

/-- `COALESCE(sum(bytes) FILTER (WHERE ...), 0)` over `flow_5m`. -/
def bytesWhere (db : FlowDb) (p : BucketKey → Bool) : ℤ :=
  ((db.flow5m.filter fun e => p e.1).map fun e => e.2.bytes).sum

/-- The distinct labels of the window. -/
def serviceLabels (db : FlowDb) (now hours : ℤ) : List String :=
  ((db.flow5m.filter fun e => inWindow now hours e.1 && labelled e.1).map
    fun e => e.1.2.2.2.1).dedup

/-- The traffic query of `classification_coverage`. -/
def flowCounts (db : FlowDb) (now hours : ℤ) : SourceCounts :=
  { total := bytesWhere db (inWindow now hours)
    classified := bytesWhere db fun key => inWindow now hours key && labelled key
    unclassified := bytesWhere db fun key => inWindow now hours key && !labelled key
    distinct := (serviceLabels db now hours).length }

/-- `classification_coverage`, beside the counts of its DNS query. The errors are those of the
sources that could not be read. -/
def classificationCoverage (traffic : Except String FlowDb) (dns : Except String SourceCounts)
    (now hours : ℤ) : CoverageResult :=
  let errors {α : Type} (source : String) : Except String α → List (String × String)
    | .ok _ => []
    | .error e => [(source,e)]
  classificationCoverageResult percentTenths
    (traffic.toOption.map fun db => flowCounts db now hours) dns.toOption
    (errors "traffic" traffic ++ errors "dns" dns)

/-- What the first query of `overview` yields. -/
structure Overview where
  downloadBytes : ℤ
  uploadBytes : ℤ
  totalBytes : ℤ
  attributedBytes : ℤ
  flows : ℤ
  activeDevices : ℕ
  observedServices : ℕ
  latestFlow : Option ℤ
  attributedPercent : ℤ
  deriving DecidableEq, Repr

/-- The traffic part of `overview`. -/
def overview (db : FlowDb) (now hours : ℤ) : Overview :=
  let rows := db.flow5m.filter fun e => inWindow now hours e.1
  let towards (d : Direction) := bytesWhere db fun key => inWindow now hours key && key.2.2.1=d
  let total := bytesWhere db (inWindow now hours)
  let attributed := bytesWhere db fun key => inWindow now hours key && labelled key
  { downloadBytes := towards .download, uploadBytes := towards .upload, totalBytes := total,
    attributedBytes := attributed, flows := (rows.map fun e => e.2.flows).sum,
    activeDevices := (rows.map fun e => e.1.2.1).dedup.length,
    observedServices := (serviceLabels db now hours).length,
    latestFlow := (rows.map fun e => e.1.1).max?,
    attributedPercent := percentTenths attributed (max total 1) }

end Summaries

section Honesty

/-- The flows of the window. -/
def windowFlows (db : FlowDb) (now hours : ℤ) : List FlowRow :=
  db.flowsRaw.filter fun row => inWindow now hours row.bucketKey

/-- Whether `classify_record` found a service for the flow by some evidence. -/
def FlowRow.found (row : FlowRow) : Bool := row.classifierEvidence.source≠.fallback

def foundBytes (db : FlowDb) (now hours : ℤ) : ℤ :=
  (((windowFlows db now hours).filter FlowRow.found).map FlowRow.bytes).sum

def unfoundBytes (db : FlowDb) (now hours : ℤ) : ℤ :=
  (((windowFlows db now hours).filter fun row => !row.found).map FlowRow.bytes).sum

/-- The reports count exactly the flows with a found service as classified. -/
def ReportsFound (percentTenths : ℤ → ℤ → ℤ) (db : FlowDb) (dns : Except String SourceCounts)
    (now hours : ℤ) : Prop :=
  let coverage := (classificationCoverage percentTenths (.ok db) dns now hours).traffic
  coverage.classified=foundBytes db now hours ∧
    coverage.unclassified=unfoundBytes db now hours ∧
    (overview percentTenths db now hours).attributedBytes=foundBytes db now hours

/-- Only rows of the reader come off the queue. -/
def FromReader (step : Turn × Bool) (_ : Account) : Prop := ∀ row ∈ step.1.got, Read row

variable {flowBatch last : ℤ} {a : Account}

lemma bytesWhere_raw (h : Accounted a) (p : BucketKey → Bool) :
    bytesWhere a.db p=
      ((a.db.flowsRaw.filter fun row => p row.bucketKey).map FlowRow.bytes).sum := by
  have hsum := congrArg Totals.bytes (h.flow5m.totals p)
  rw [total_amountsBy,Totals.sum_bytes,List.map_map,total,Totals.sum_bytes,List.map_map] at hsum
  exact hsum

lemma taken_read (run : Run (AccountStep flowBatch) FromReader { last := last } a) :
    Accounted a ∧ ∀ row ∈ a.taken, Read row := by
  refine run.invariant (I := fun a => Accounted a ∧ ∀ row ∈ a.taken, Read row)
    ⟨Accounted.empty last,fun row hrow => absurd hrow List.not_mem_nil⟩ ?_
  rintro ⟨turn,commits⟩ b c ⟨hb,hread⟩ hok rfl
  refine ⟨hb.turn _ _,fun row hrow => ?_⟩
  rcases List.mem_append.mp hrow with hold | hnew
  · exact hread row hold
  · exact hok row (by simpa using hnew)

lemma sum_partition (rows : List FlowRow) (p : FlowRow → Bool) :
    (rows.map FlowRow.bytes).sum=((rows.filter p).map FlowRow.bytes).sum+
      ((rows.filter fun row => !p row).map FlowRow.bytes).sum := by
  induction rows with
  | nil => rfl
  | cons row rows ih => cases hp : p row <;> simp [hp,ih] <;> omega

/-- All flows of the window carry a label, so the reports are right exactly when those without
a found service carry no bytes. -/
theorem reports_found_iff (percentTenths : ℤ → ℤ → ℤ) (dns : Except String SourceCounts)
    (now hours : ℤ) (run : Run (AccountStep flowBatch) FromReader { last := last } a) :
    ReportsFound percentTenths a.db dns now hours ↔
      unfoundBytes a.db now hours=0 ∧ 0 ≤ foundBytes a.db now hours := by
  obtain ⟨h,hread⟩ := taken_read run
  have hlabelled : ∀ row ∈ a.db.flowsRaw, labelled row.bucketKey := fun row hrow => by
    have htaken : row ∈ a.taken := by
      rw [h.taken,← h.raw]
      exact List.mem_append_left _ hrow
    exact decide_eq_true (hread row htaken).service_ne_empty
  have hall : bytesWhere a.db (fun key => inWindow now hours key && labelled key)=
      foundBytes a.db now hours+unfoundBytes a.db now hours := by
    rw [bytesWhere_raw h,foundBytes,unfoundBytes,← sum_partition,windowFlows]
    congr 2
    refine List.filter_congr fun row hrow => ?_
    rw [hlabelled row hrow,Bool.and_true]
  have hnone : bytesWhere a.db (fun key => inWindow now hours key && !labelled key)=0 := by
    rw [bytesWhere_raw h,List.filter_eq_nil_iff.mpr]
    · rfl
    · intro row hrow
      simp [hlabelled row hrow]
  unfold ReportsFound
  simp only [classificationCoverage,classificationCoverageResult,sourceCoverage,flowCounts,
    overview,Except.toOption,Option.map_some,Option.getD_some,hall,hnone]
  omega

/-- A flow without a found service that is written alone. -/
def unknownTurn : Turn × Bool :=
  ({ got := some (recordRow 50000), now := 0, later := 0 },true)

def unknownWritten : Account := ({} : Account).turn 1 unknownTurn.1 unknownTurn.2

lemma unknownWritten_run :
    Run (AccountStep 1) FromReader ({ last := 0 } : Account) unknownWritten :=
  Run.refl.step (i := unknownTurn)
    (fun row hrow => by
      obtain rfl := Option.some.inj hrow
      exact read_recordRow (.inl rfl))
    (by unfold AccountStep; rfl)

/-- A record of a flow a hundred hours after the first one. -/
def laterRecord (proto : String) (port : ℤ) : PyVal :=
  .dict [("src_addr",.str "198.51.100.10"),("dst_addr",.str "192.168.1.20"),
    ("time_received_ns",.int 360060000000000),("proto",.str proto),("src_port",.int 443),
    ("dst_port",.int port),("bytes",.int 100),("packets",.int 1)]

/-- The row of a flow that its port gives away. -/
def xboxRow : FlowRow :=
  { recordRow 3074 with
    eventTime := 360060000000, protocol := "UDP", category := "gaming", service := "Xbox"
    confidence := "low"
    classifierEvidence := { source := .port, matchedValue := .str "UDP/3074" } }

/-- The row of a flow whose remote address was looked up as a domain of a service. -/
def lookedUpRow : FlowRow :=
  { recordRow 50000 with
    eventTime := 360060000000, domain := "films.test", category := "other", service := "Movies"
    confidence := "high"
    classifierEvidence := { source := .dns, matchedValue := .str "films.test" } }

lemma read_xboxRow : Read xboxRow :=
  ⟨homeEnv,{ compiled := [], definitions := [], domainIpMap := [] },laterRecord "UDP" 3074,rfl⟩

def films : Definition := { key := "films", service := "Movies", category := "other" }

lemma read_lookedUpRow : Read lookedUpRow := by
  have hrow : transformFlow homeEnv ⟨[("films.test",films)],[films],
      [("198.51.100.10",{ domain := "films.test", service := "", expires := 0 })]⟩
      (laterRecord "TCP" 50000)=.ok (some lookedUpRow) := rfl
  exact ⟨_,_,_,hrow⟩

/-- A row is read and written. -/
def Account.took (a : Account) (row : FlowRow) : Account :=
  a.turn 1 { got := some row, now := 0, later := 0 } true

lemma took_run : ∀ {rows : List FlowRow} (a : Account), (∀ row ∈ rows, Read row) →
    Run (AccountStep 1) FromReader a (rows.foldl Account.took a)
  | [],_,_ => Run.refl
  | row::rows,a,hread => by
    obtain ⟨hrow,hrows⟩ := List.forall_mem_cons.mp hread
    have hfirst : Run (AccountStep 1) FromReader a (a.took row) :=
      Run.refl.step (i := ({ got := some row, now := 0, later := 0 },true))
        (fun row' hrow' => by
          obtain rfl := Option.some.inj hrow'
          exact hrow)
        (by unfold AccountStep; rfl)
    exact hfirst.trans (took_run (a.took row) hrows)

/-- An unknown flow is followed by three known ones in the window of the report. -/
def knownRows : List FlowRow := [recordRow 50000,xboxRow,lookedUpRow,xboxRow]

lemma read_knownRows : ∀ row ∈ knownRows, Read row := by
  intro row hrow
  simp only [knownRows,List.mem_cons,List.not_mem_nil,or_false] at hrow
  rcases hrow with rfl | rfl | rfl | rfl
  · exact read_recordRow (.inl rfl)
  · exact read_xboxRow
  · exact read_lookedUpRow
  · exact read_xboxRow

/-- Flows with a found service are reported as they are. -/
theorem reports_found_window : ReportsFound (fun _ _ => 0)
    (knownRows.foldl Account.took { last := 0 }).db (.ok ⟨0,0,0,0⟩) 360120000000 24 :=
  (reports_found_iff (fun _ _ => 0) (.ok ⟨0,0,0,0⟩) 360120000000 24
    (took_run { last := 0 } read_knownRows)).mpr (by decide)

/-- An unclassified flow is reported as classified. -/
theorem unknown_reported_classified :
    ¬∀ (a : Account), Run (AccountStep 1) FromReader ({ last := 0 } : Account) a →
      ReportsFound (fun _ _ => 0) a.db (.ok ⟨0,0,0,0⟩) 0 24 := by
  intro h
  have hreports := h unknownWritten unknownWritten_run
  have hunfound := (reports_found_iff _ _ _ _ unknownWritten_run).mp hreports
  have hbytes : unfoundBytes unknownWritten.db 0 24=100 := by decide
  omega

end Honesty
end ZenControl.Telemetry
