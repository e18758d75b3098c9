import ZenControl.Library.Retention
import ZenControl.Lines
import Mathlib.Data.List.Induction

/-! The audit journal with the lifecycle of the processes that write it, and the evidence of a
controlled restart that a release reads back from it. -/
namespace ZenControl.Restarts
open Rows

section Journal

structure AuditRow where
  createdAt : String
  event : String
  actor : String
  detail : String
  severity : String
  deriving DecidableEq, Repr

/-- The event as `append_audit` stores it. -/
def storedEvent (event : String) : String :=
  orElse (clip (strip (orElse event "UNKNOWN")) 80) "UNKNOWN"

def storedActor (actor : String) : String :=
  orElse (clip (strip (orElse actor "system")) 100) "system"

def storedDetail (detail : String) : String := clip detail 2000

def storedSeverity (severity : String) : String :=
  let severity := nocase (strip (orElse severity "info"))
  if severity ∈ ["info","warning","error","critical"] then severity else "info"

/-- How many rows `append_audit` keeps under a value of `audit_retention_events`. -/
def retention (setting : Option String) : ℕ :=
  (max 500 (min ((pyInt (setting.getD "5000")).getD 5000) 50000)).toNat

/-- `append_audit`. -/
def appendAudit (setting : Option String) (row : AuditRow) (log : Table AuditRow) :
    Table AuditRow :=
  (log.insert row).retain (retention setting)

/-- `list_audit`. -/
def listAudit (limit : ℕ) (log : Table AuditRow) : List (ℕ × AuditRow) :=
  log.newest (max 1 (min limit 1000))

end Journal

section Startup

/-- What the probes of `startup_check` answer, or the text of what they raise. -/
structure Probes where
  databaseOk : Bool := true
  routerConnected : Except String Bool := .ok true
  enforcementReady : Except String Bool := .ok true
  inventory : Except String Unit := .ok ()
  /-- The `id` of the checkpoint, if it has one. -/
  snapshot : Except String (Option String) := .ok none

/-- The `issues` of `startup_check`. -/
def Probes.issues (p : Probes) : List String :=
  (if p.databaseOk then [] else ["Policy database integrity check failed"]) ++
  (match p.routerConnected with
    | .ok true => []
    | .ok false => ["RouterOS unavailable: health probe reported disconnected"]
    | .error e => ["RouterOS unavailable: " ++ e]) ++
  (match p.enforcementReady with
    | .ok true => []
    | .ok false => ["RouterOS enforcement security posture is not ready"]
    | .error e => ["Security posture unavailable: " ++ e]) ++
  (match p.inventory with
    | .ok () => []
    | .error e => ["Managed-state inventory unavailable: " ++ e]) ++
  (match p.snapshot with
    | .ok _ => []
    | .error e => ["Startup configuration checkpoint failed: " ++ e])

def okText (ok : Bool) : String := if ok then "ok" else "fail"

def Probes.status (p : Probes) : String := if p.issues=[] then "ready" else "degraded"

/-- The version that the `OperationsManager` of a process takes from its configuration. -/
def appVersion (configured : String) : String := orElse configured "unknown"

/-- The detail that `startup_check` writes. -/
def startupDetail (version : String) (p : Probes) : String :=
  "version=" ++ version ++ " status=" ++ p.status ++ " db=" ++ okText p.databaseOk ++
  " router=" ++ okText (p.routerConnected.toOption.getD false) ++
  " security=" ++ okText (p.enforcementReady.toOption.getD false) ++
  " inventory=" ++ okText p.inventory.toOption.isSome ++
  " snapshot=" ++ (p.snapshot.toOption.join.getD "none") ++
  " issues=" ++ toString p.issues.length

def stopEvent : String := "APPLICATION_STOP"
def startedEvent : String := "STARTUP_INTEGRITY_OK"
def degradedEvent : String := "STARTUP_INTEGRITY_DEGRADED"
def lifecycleEvents : List String := [stopEvent,startedEvent,degradedEvent]

/-- What is written to the journal. -/
inductive Write
  | stop
  | startup (configured : String) (probes : Probes)
  | other (event actor detail severity : String) (h : storedEvent event ∉ lifecycleEvents)

/-- The event, the actor, the detail and the severity that are handed to `append_audit`. -/
def Write.arguments : Write → String × String × String × String
  | stop => (stopEvent,"system:shutdown","FastAPI shutdown completed","info")
  | startup configured probes =>
    (if probes.status="ready" then startedEvent else degradedEvent,"system:startup",
      startupDetail (appVersion configured) probes,"info")
  | other event actor detail severity _ => (event,actor,detail,severity)

/-- An entry of the history: what is written, when, and under which retention setting. -/
structure Entry where
  write : Write
  createdAt : String := ""
  setting : Option String := none

def Entry.row (e : Entry) : AuditRow where
  createdAt := e.createdAt
  event := storedEvent e.write.arguments.1
  actor := storedActor e.write.arguments.2.1
  detail := storedDetail e.write.arguments.2.2.1
  severity := storedSeverity e.write.arguments.2.2.2

/-- The journal after a history. -/
def journal (history : List Entry) : Table AuditRow :=
  history.foldl (fun log e => appendAudit e.setting e.row log) .empty

end Startup

section Reading

inductive EvidenceState
  | pass | pending
  deriving DecidableEq, Repr

structure RestartEvidence where
  state : EvidenceState
  controlledStopSeen : Bool
  currentReleaseStartSeen : Bool
  startupEventId : Option ℕ
  summary : String
  deriving DecidableEq, Repr

/-- A completed startup whose detail contains a text. -/
def AuditRow.carries (marker : String) (row : AuditRow) : Bool :=
  row.event=startedEvent && occursIn marker row.detail

/-- The last row of the loop over the ordered rows that carries the marker, with its index. -/
def currentStart (marker : String) (ordered : List (ℕ × AuditRow)) :
    Option ((ℕ × AuditRow) × ℕ) :=
  ordered.zipIdx.foldl (fun found r => if r.1.2.carries marker then some r else found) none

def AuditRow.isLifecycle (row : AuditRow) : Bool := row.event ∈ lifecycleEvents

/-- Whether the last lifecycle event of some rows is a stop. -/
def endsWithStop (rows : List AuditRow) : Bool :=
  (rows.reverse.find? AuditRow.isLifecycle).any fun row => row.event=stopEvent

/-- `restart_evidence` on what `list_audit` returns. -/
def restartEvidence (rows : Except String (List (ℕ × AuditRow))) (version : String) :
    RestartEvidence :=
  match rows with
  | .error _ =>
    { state := .pending, controlledStopSeen := false, currentReleaseStartSeen := false
      startupEventId := none, summary := "Durable restart evidence is unavailable" }
  | .ok rows =>
    let ordered := rows.insertionSort fun a b => a.1 ≤ b.1
    let start := currentStart ("version=" ++ version) ordered
    let controlledStopSeen := start.any fun s => endsWithStop ((ordered.take s.2).map Prod.snd)
    let passed := start.isSome && controlledStopSeen
    { state := if passed then .pass else .pending
      controlledStopSeen
      currentReleaseStartSeen := start.isSome
      startupEventId := (start.map fun s => s.1.1).filter fun id => id≠0
      summary :=
        if passed then "Controlled stop followed by v" ++ version ++ " startup integrity PASS"
        else "Run one controlled restart on v" ++ version ++
          " to capture durable restart evidence" }

end Reading

section Soundness

/-- A completed startup of a process of a version. -/
def Entry.StartedBy (version : String) (e : Entry) : Prop :=
  ∃ configured probes, e.write=.startup configured probes ∧ probes.issues=[] ∧
    appVersion configured=version

def Entry.isLifecycle (e : Entry) : Bool :=
  match e.write with
  | .stop => true
  | .startup _ _ => true
  | .other .. => false

/-- The nearest lifecycle event at the end of a history is a stop. -/
def Stopped (history : List Entry) : Prop :=
  ∃ e, history.reverse.find? Entry.isLifecycle=some e ∧ e.write=.stop

/-- A process of the version started right after a controlled stop. -/
def Restarted (version : String) (history : List Entry) : Prop :=
  ∃ before e after, history=before ++ e::after ∧ e.StartedBy version ∧ Stopped before

/-- The newest entries, which `restart_evidence` reads. -/
def recent (history : List Entry) : List Entry := history.drop (history.length-300)

/-- The evidence is sound for a version: it passes only after a restart of that version, whether
or not the journal can be read. -/
def SoundEvidence (history : List Entry) (version : String) : Prop :=
  ∀ failure : Option String,
    (restartEvidence (failure.elim (.ok (listAudit 300 (journal history))) .error)
      version).state=.pass → Restarted version history

/-- The entry is no completed startup of another version with a stored detail that contains
`version=` and the version. -/
def Entry.TellsApart (version : String) (e : Entry) : Prop :=
  ∀ configured probes, e.write=.startup configured probes → probes.issues=[] →
    occursIn ("version=" ++ version)
      (storedDetail (startupDetail (appVersion configured) probes)) →
    appVersion configured=version

lemma retention_ge (setting : Option String) : 500 ≤ retention setting := by
  unfold retention
  omega

/-- The journal if no row was ever dropped. -/
def fullJournal (history : List Entry) : Table AuditRow :=
  history.foldl (fun log e => log.insert e.row) .empty

/-- Retention never drops one of the newest rows. -/
lemma journal_keeps (history : List Entry) :
    Table.Keeps 500 (journal history) (fullJournal history) := by
  induction history using List.reverseRecOn with
  | nil => exact Table.Keeps.refl 500 _
  | append_singleton history e ih =>
    unfold journal fullJournal at ih ⊢
    rw [List.foldl_append,List.foldl_append]
    exact (ih.insert e.row).retain (retention_ge e.setting)

lemma rows_fullJournal (history : List Entry) :
    (fullJournal history).rows.map Prod.snd=history.map Entry.row := by
  induction history using List.reverseRecOn with
  | nil => rfl
  | append_singleton history e ih =>
    unfold fullJournal at ih ⊢
    rw [List.foldl_append,List.map_append,← ih]
    exact List.map_append

/-- The rows that are read, in the order of their numbers, are those of the newest entries. -/
lemma ordered_listAudit (history : List Entry) :
    ((listAudit 300 (journal history)).insertionSort fun a b => a.1 ≤ b.1).map Prod.snd=
      (recent history).map Entry.row := by
  have hnewest : listAudit 300 (journal history)=(fullJournal history).newest 300 :=
    ((journal_keeps history).mono (by decide)).newest
  have hrows := rows_fullJournal history
  have hlength : (fullJournal history).rows.length=history.length := by
    simpa using congrArg List.length hrows
  rw [hnewest,Table.insertionSort_newest,Table.newest_eq_reverse_drop,List.reverse_reverse,
    List.map_drop,hrows,hlength,recent,List.map_drop]

/-- The loop finds the last row that carries the marker. -/
lemma currentStart_eq_some {marker : String} {ordered : List (ℕ × AuditRow)}
    {start : (ℕ × AuditRow) × ℕ} :
    currentStart marker ordered=some start ↔
      ∃ before after, ordered=before ++ start.1::after ∧ before.length=start.2 ∧
        start.1.2.carries marker ∧ ∀ r ∈ after, ¬r.2.carries marker := by
  unfold currentStart
  induction ordered using List.reverseRecOn with
  | nil => simp
  | append_singleton ordered r ih =>
    rw [List.zipIdx_append,List.foldl_append]
    simp only [List.zipIdx_singleton,List.foldl_cons,List.foldl_nil,Nat.zero_add]
    by_cases hr : r.2.carries marker
    · rw [if_pos hr]
      constructor
      · rintro h
        obtain rfl := Option.some.inj h
        exact ⟨ordered,[],rfl,rfl,hr,by simp⟩
      · rintro ⟨before,after,hsplit,hlength,_,hlater⟩
        rcases List.eq_nil_or_concat after with rfl | ⟨after,last,rfl⟩
        · obtain ⟨rfl,hlast⟩ := List.append_inj' hsplit rfl
          exact congrArg some (Prod.ext (List.singleton_inj.mp hlast) hlength)
        · rw [List.concat_eq_append,← List.cons_append,← List.append_assoc] at hsplit
          have hlast := List.singleton_inj.mp (List.append_inj' hsplit rfl).2
          exact absurd (hlast ▸ hr) (hlater last (by simp))
    · rw [if_neg hr,ih]
      constructor
      · rintro ⟨before,after,rfl,hlength,hstart,hlater⟩
        refine ⟨before,after ++ [r],by simp,hlength,hstart,fun x hx => ?_⟩
        rcases List.mem_append.mp hx with hx | hx
        · exact hlater x hx
        · rwa [List.mem_singleton.mp hx]
      · rintro ⟨before,after,hsplit,hlength,hstart,hlater⟩
        rcases List.eq_nil_or_concat after with rfl | ⟨after,last,rfl⟩
        · have hlast := List.singleton_inj.mp (List.append_inj' hsplit rfl).2
          exact absurd (hlast ▸ hstart) hr
        · rw [List.concat_eq_append,← List.cons_append,← List.append_assoc] at hsplit
          refine ⟨before,after,(List.append_inj' hsplit rfl).1,hlength,hstart,fun x hx => ?_⟩
          exact hlater x (by simp [hx])

lemma status_ready_iff {p : Probes} : p.status="ready" ↔ p.issues=[] := by
  unfold Probes.status
  split_ifs with h <;> simp [h]

lemma storedEvent_lifecycle {event : String} (h : event ∈ lifecycleEvents) :
    storedEvent event=event := by
  revert event
  decide +kernel

/-- The event under which an entry is stored. -/
lemma event_row (e : Entry) :
    e.row.event=match e.write with
      | .stop => stopEvent
      | .startup _ probes => if probes.issues=[] then startedEvent else degradedEvent
      | .other event _ _ _ _ => storedEvent event := by
  unfold Entry.row
  simp only
  cases e.write with
  | stop => exact storedEvent_lifecycle (by decide)
  | startup configured probes =>
    simp only [Write.arguments,status_ready_iff]
    split_ifs <;> exact storedEvent_lifecycle (by decide)
  | other => rfl

/-- A row is one of a lifecycle event exactly where the entry is. -/
lemma isLifecycle_row (e : Entry) : e.row.isLifecycle=e.isLifecycle := by
  unfold AuditRow.isLifecycle Entry.isLifecycle
  rw [event_row]
  cases e.write with
  | stop => decide
  | startup configured probes => simp only; split_ifs <;> decide
  | other event actor detail severity hother => exact decide_eq_false hother

lemma stop_row {e : Entry} : e.row.event=stopEvent ↔ e.write=.stop := by
  rw [event_row]
  cases e.write with
  | stop => exact iff_of_true rfl rfl
  | startup configured probes =>
    refine iff_of_false ?_ (by simp)
    simp only
    split_ifs <;> decide
  | other event actor detail severity hother =>
    refine iff_of_false (fun heq => hother ?_) (by simp)
    rw [show storedEvent event=stopEvent from heq]
    decide

/-- Only a completed startup is stored as one. -/
lemma started_of_carries {e : Entry} {marker : String} (h : e.row.carries marker) :
    ∃ configured probes, e.write=.startup configured probes ∧ probes.issues=[] := by
  have hevent : e.row.event=startedEvent := of_decide_eq_true (Bool.and_eq_true_iff.mp h).1
  rw [event_row] at hevent
  cases hw : e.write with
  | stop =>
    rw [hw] at hevent
    exact absurd hevent (by decide)
  | startup configured probes =>
    simp only [hw] at hevent
    split_ifs at hevent with hready
    · exact ⟨configured,probes,rfl,hready⟩
    · exact absurd hevent (by decide)
  | other event actor detail severity hother =>
    rw [hw] at hevent
    rw [show storedEvent event=startedEvent from hevent] at hother
    exact absurd hother (by decide)

/-- The rows of a history end with a stop exactly where the history does. -/
lemma endsWithStop_rows (history : List Entry) :
    endsWithStop (history.map Entry.row)=true ↔ Stopped history := by
  have hlifecycle : AuditRow.isLifecycle ∘ Entry.row=Entry.isLifecycle := by
    funext e
    rw [Function.comp_apply,isLifecycle_row]
  unfold endsWithStop Stopped
  rw [← List.map_reverse,List.find?_map,hlifecycle]
  cases history.reverse.find? Entry.isLifecycle with
  | none => simp
  | some e => simp [stop_row]

/-- What is read passes exactly where the last startup among the newest entries that carries the
marker follows a stop. -/
lemma passes_iff (history : List Entry) (version : String) :
    (restartEvidence (.ok (listAudit 300 (journal history))) version).state=.pass ↔
      ∃ before e after, recent history=before ++ e::after ∧
        e.row.carries ("version=" ++ version) ∧
        (∀ later ∈ after, ¬later.row.carries ("version=" ++ version)) ∧ Stopped before := by
  have hordered := ordered_listAudit history
  unfold restartEvidence
  simp only
  generalize (listAudit 300 (journal history)).insertionSort (fun a b => a.1 ≤ b.1)=ordered
    at hordered ⊢
  have hpass : ∀ passed : Bool,
      (if passed then EvidenceState.pass else .pending)=.pass ↔ passed=true := by decide
  rw [hpass,Bool.and_eq_true_iff,Option.any_eq_true]
  constructor
  · rintro ⟨_,start,hstart,hstop⟩
    obtain ⟨before,after,rfl,hlength,hcarries,hlater⟩ := currentStart_eq_some.mp hstart
    rw [← hlength,List.take_left] at hstop
    rw [List.map_append,List.map_cons] at hordered
    obtain ⟨older,rest,hrecent,hbefore,hrest⟩ := List.map_eq_append_iff.mp hordered.symm
    obtain ⟨e,newer,rfl,hrow,hafter⟩ := List.map_eq_cons_iff.mp hrest
    refine ⟨older,e,newer,hrecent,hrow ▸ hcarries,fun later hmem => ?_,?_⟩
    · have hmem : later.row ∈ after.map Prod.snd := hafter ▸ List.mem_map_of_mem hmem
      obtain ⟨r,hr,heq⟩ := List.mem_map.mp hmem
      exact heq ▸ hlater r hr
    · exact (endsWithStop_rows older).mp (hbefore ▸ hstop)
  · rintro ⟨older,e,newer,hrecent,hcarries,hlater,hstop⟩
    rw [hrecent,List.map_append,List.map_cons] at hordered
    obtain ⟨before,rest,rfl,hbefore,hrest⟩ := List.map_eq_append_iff.mp hordered
    obtain ⟨r,after,rfl,hrow,hafter⟩ := List.map_eq_cons_iff.mp hrest
    have hstart : currentStart ("version=" ++ version) (before ++ r::after)=
        some (r,before.length) := by
      refine currentStart_eq_some.mpr ⟨before,after,rfl,rfl,hrow ▸ hcarries,fun x hx => ?_⟩
      have hmem : x.2 ∈ newer.map Entry.row := hafter ▸ List.mem_map_of_mem hx
      obtain ⟨later,hmem,heq⟩ := List.mem_map.mp hmem
      exact heq ▸ hlater later hmem
    refine ⟨by rw [hstart]; rfl,_,hstart,?_⟩
    rw [List.take_left,hbefore]
    exact (endsWithStop_rows older).mpr hstop

/-- What stands right before an entry of the newest ones stands right before it in the whole
history. -/
lemma stopped_of_recent {history before : List Entry} {rest : List Entry}
    (hrecent : recent history=before ++ rest) (h : Stopped before) :
    ∃ older, history=older ++ rest ∧ Stopped older := by
  obtain ⟨e,hfind,hstop⟩ := h
  refine ⟨history.take (history.length-300) ++ before,?_,e,?_,hstop⟩
  · rw [List.append_assoc,← hrecent,recent,List.take_append_drop]
  · rw [List.reverse_append,List.find?_append,hfind]
    rfl

/-- An entry that tells the version apart carries its marker only when a process of the version
has started. -/
lemma startedBy_of_carries {e : Entry} {version : String} (happart : e.TellsApart version)
    (h : e.row.carries ("version=" ++ version)) : e.StartedBy version := by
  obtain ⟨configured,probes,hwrite,hissues⟩ := started_of_carries h
  refine ⟨configured,probes,hwrite,hissues,happart configured probes hwrite hissues ?_⟩
  have hdetail := (Bool.and_eq_true_iff.mp h).2
  simpa only [Entry.row,hwrite,Write.arguments] using hdetail

/-- A completed startup carries every text that its stored detail contains. -/
lemma carries_of_startup {e : Entry} {marker configured : String} {probes : Probes}
    (hwrite : e.write=.startup configured probes) (hissues : probes.issues=[])
    (h : occursIn marker (storedDetail (startupDetail (appVersion configured) probes))) :
    e.row.carries marker := by
  refine Bool.and_eq_true_iff.mpr ⟨decide_eq_true ?_,?_⟩
  · rw [event_row,hwrite]
    exact if_pos hissues
  · simpa only [Entry.row,hwrite,Write.arguments] using h

lemma recent_pair (e e' : Entry) : recent [e,e']=[e,e'] := by simp [recent]

/-- A history of a stop and one startup is sound only if that startup is one of the version. -/
lemma startedBy_of_sound {stop e : Entry} {version : String} (hstop : stop.write=.stop)
    (hcarries : e.row.carries ("version=" ++ version))
    (hsound : SoundEvidence [stop,e] version) : e.StartedBy version := by
  have hlifecycle : stop.isLifecycle=true := by rw [Entry.isLifecycle,hstop]
  have hstopped : Stopped [stop] := ⟨stop,by simp [hlifecycle],hstop⟩
  have hpass := (passes_iff [stop,e] version).mpr
    ⟨[stop],e,[],recent_pair stop e,hcarries,by simp,hstopped⟩
  obtain ⟨before,start,after,hsplit,hstarted,_⟩ := hsound none hpass
  have hmem : start ∈ [stop,e] := by simp [hsplit]
  rcases List.mem_cons.mp hmem with rfl | hmem
  · obtain ⟨configured,probes,hwrite,-⟩ := hstarted
    rw [hstop] at hwrite
    cases hwrite
  · rwa [← List.mem_singleton.mp hmem]

/-- Whatever may be written to the journal beside the stops, the evidence is sound in every
history whose newest entries are such writes exactly when each of them tells the version apart. -/
theorem soundEvidence_iff (possible : Entry → Prop) (version : String) :
    (∀ history, (∀ e ∈ recent history, possible e ∨ e.write=.stop) →
      SoundEvidence history version) ↔ ∀ e, possible e → e.TellsApart version := by
  constructor
  · intro hsound e he configured probes hwrite hissues hcontains
    have hstop : ({ write := .stop } : Entry).write=.stop := rfl
    obtain ⟨configured',probes',hwrite',-,hversion⟩ := startedBy_of_sound
      hstop (carries_of_startup hwrite hissues hcontains) (hsound _ (by
        intro e' he'
        rw [recent_pair] at he'
        rcases List.mem_cons.mp he' with rfl | he'
        · exact .inr rfl
        · exact .inl (List.mem_singleton.mp he' ▸ he)))
    rw [hwrite] at hwrite'
    cases hwrite'
    exact hversion
  · intro happart history hpossible failure hpass
    cases failure with
    | some e => cases hpass
    | none =>
      obtain ⟨before,e,after,hrecent,hcarries,_,hstop⟩ := (passes_iff history version).mp hpass
      obtain ⟨older,hhistory,holder⟩ := stopped_of_recent hrecent hstop
      refine ⟨older,e,after,hhistory,startedBy_of_carries ?_ hcarries,holder⟩
      rcases hpossible e (by simp [hrecent]) with he | he
      · exact happart e he
      · -- a stop is no startup
        intro configured probes hwrite
        rw [he] at hwrite
        cases hwrite

/-- Release 0.50.0 was started after a controlled stop. -/
def upgradedHistory : List Entry := [{ write := .stop },{ write := .startup "0.50.0" {} }]

/-- That start passes as one of release 0.5. -/
theorem upgrade_mistaken : ¬∀ history version, SoundEvidence history version := by
  intro h
  have hcarries : (Entry.mk (.startup "0.50.0" {}) "" none).row.carries "version=0.5" := by decide
  have hpass := (passes_iff upgradedHistory "0.5").mpr
    ⟨[{ write := .stop }],_,[],rfl,hcarries,by simp,_,rfl,rfl⟩
  obtain ⟨before,e,after,hsplit,⟨configured,probes,hwrite,_,hversion⟩,_⟩ :=
    h upgradedHistory "0.5" none hpass
  have hmem : e ∈ upgradedHistory := by simp [hsplit]
  rcases List.mem_cons.mp hmem with rfl | hmem
  · cases hwrite
  · rw [List.mem_singleton.mp hmem] at hwrite
    cases hwrite
    exact absurd hversion (by decide)

end Soundness
end ZenControl.Restarts
