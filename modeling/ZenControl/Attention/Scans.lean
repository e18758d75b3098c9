import ZenControl.Attention.Sightings

/-! What a cycle of the monitor does with its sources. Each block is described by what it read
and how its upserts end; the incidents are changed by the signals that were recorded, and they
are cleared by the fingerprints that were reached. -/
namespace ZenControl.Attention
open Rows Histories

section Blocks

/-- The text of the first upsert that raises. -/
def failure : List Signal → (ℕ → Except String Host) → Option String
  | [],_ => none
  | _::rest,upserts =>
    match upserts 0 with
    | .error e => some e
    | .ok _ => failure rest fun k => upserts (k+1)

/-- The signals up to the first whose upsert raises, that one included. -/
def reached : List Signal → (ℕ → Except String Host) → List Signal
  | [],_ => []
  | signal::rest,upserts => signal ::
    match upserts 0 with
    | .error _ => []
    | .ok _ => reached rest fun k => upserts (k+1)

/-- The signals before the first whose upsert raises. -/
def recorded : List Signal → (ℕ → Except String Host) → List Sighting
  | [],_ => []
  | signal::rest,upserts =>
    match upserts 0 with
    | .error _ => []
    | .ok host => (signal,host) :: recorded rest fun k => upserts (k+1)

/-- A block whose read returned: the signals that hold in it, in the order in which they are
recorded, and how their upserts end. The source may count as scanned although its evidence is
missing (`complete` is false). -/
structure Block where
  source : String
  scanned : Bool := true
  complete : Bool := true
  signals : List Signal
  upserts : ℕ → Except String Host

namespace Block

def reached (b : Block) : List Signal := Attention.reached b.signals b.upserts

def recorded (b : Block) : List Sighting := Attention.recorded b.signals b.upserts

end Block

/-- The block of a source, when its read returns. -/
def Reading.blocks {α : Type} (source : String) (signals : α → List Signal)
    (reading : Reading α) (complete : α → Bool := fun _ => true) : List Block :=
  match reading.read with
  | .error _ => []
  | .ok evidence =>
    [{ source := source, complete := complete evidence, signals := signals evidence,
       upserts := reading.upserts }]

/-- What ends a block, its read or an upsert. -/
def Reading.failure {α : Type} (signals : α → List Signal) (reading : Reading α) :
    Option String :=
  match reading.read with
  | .error e => some e
  | .ok evidence => Attention.failure (signals evidence) reading.upserts

namespace CycleInputs

/-- `bypass_min_status` of the cycle. -/
def minStatus (env : MonitorEnv) (inputs : CycleInputs) : String :=
  match inputs.settings with
  | .error _ => "elevated"
  | .ok raw => (monitorSettings env.toPlatform raw).bypassMinStatus

/-- `managed_ips`. -/
def managed (inputs : CycleInputs) : List String := inputs.ips.filter fun ip => ip≠""

/-- What ends the evaluation of the bypass evidence. -/
def bypassFailure (env : MonitorEnv) (inputs : CycleInputs) : Option String :=
  inputs.bypass.failure (bypassSignals env (inputs.minStatus env))

/-- The source that tells whether the bypass evidence could be evaluated: it is scanned when
the evaluation ended, and its only signal is what ended it otherwise. -/
def telemetryBlock (env : MonitorEnv) (inputs : CycleInputs) : Block :=
  { source := "telemetry"
    scanned := (inputs.bypassFailure env).isNone
    signals := ((inputs.bypassFailure env).map bypassUnavailable).toList
    upserts := fun _ => inputs.telemetry }

def bypassBlocks (env : MonitorEnv) (inputs : CycleInputs) : List Block :=
  if inputs.managed.isEmpty then []
  else inputs.bypass.blocks "bypass" (bypassSignals env (inputs.minStatus env)) ++
    [inputs.telemetryBlock env]

end CycleInputs

/-- The usage of an enabled quota is missing when its telemetry is not available. -/
def QuotaState.complete (quota : QuotaState) : Bool := !(quota.enabled && !quota.available)

def quotaBlocks (env : MonitorEnv) : List String → (ℕ → Reading QuotaState) → List Block
  | [],_ => []
  | ip::ips,readings =>
    (if ip="" then [] else (readings 0).blocks ("quota:" ++ ip) (quotaSignals env ip)
        QuotaState.complete) ++
      quotaBlocks env ips fun k => readings (k+1)

/-- Everything a cycle reads. -/
def CycleInputs.blocks (env : MonitorEnv) (inputs : CycleInputs) : List Block :=
  inputs.security.blocks "security" securitySignals ++
    inputs.reconciler.blocks "reconciler" reconcilerSignals ++
    inputs.operations.blocks "operations" operationsSignals ++
    inputs.bypassBlocks env ++ quotaBlocks env inputs.ips inputs.quotas

end Blocks

section Names

/-- A signal that stands under the source of its block, with names that are not blank. -/
structure Signal.Well (source : String) (signal : Signal) : Prop where
  source_eq : signal.source=source
  named : signal.Named

/-- A block with a source that is not blank, and signals of this source. -/
structure Block.Well (b : Block) : Prop where
  source : clip (strip b.source) 120≠""
  signals : ∀ s ∈ b.signals, s.Well b.source

lemma Signal.named_of_char {signal : Signal} (c : Char) (hc : isSpace c=false)
    (h : c ∈ signal.fingerprint.toList) : signal.Named :=
  clip_ne_empty (strip_ne_empty h hc) (by decide)

lemma source_of_char {source : String} (c : Char) (hc : isSpace c=false)
    (h : c ∈ source.toList) : clip (strip source) 120≠"" :=
  clip_ne_empty (strip_ne_empty h hc) (by decide)

lemma securitySignals_well (checks : List PostureCheck) :
    ∀ s ∈ securitySignals checks, s.Well "security" := by
  intro s hs
  rcases List.mem_append.mp hs with hs | hs
  all_goals
    split_ifs at hs
    · cases hs
    · rw [List.mem_singleton] at hs
      subst hs
      exact ⟨rfl,Signal.named_of_char 's' (by decide) (by simp)⟩

lemma reconcilerSignals_well (rec : ReconcilerSnapshot) :
    ∀ s ∈ reconcilerSignals rec, s.Well "reconciler" := by
  intro s hs
  rcases List.mem_append.mp hs with hs | hs
  all_goals
    split_ifs at hs
    all_goals first
      | cases hs; done
      | (rw [List.mem_singleton] at hs
         subst hs
         exact ⟨rfl,Signal.named_of_char 'r' (by decide) (by simp)⟩)

lemma operationsSignals_well (ready : Readiness) :
    ∀ s ∈ operationsSignals ready, s.Well "operations" := by
  intro s hs
  unfold operationsSignals at hs
  dsimp only at hs
  split_ifs at hs
  · cases hs
  · cases hs
  · rw [List.mem_singleton] at hs
    subst hs
    exact ⟨rfl,Signal.named_of_char 'o' (by decide) (by simp)⟩

lemma bypassSignals_well (env : MonitorEnv) (minStatus : String) (devices : List BypassDevice) :
    ∀ s ∈ bypassSignals env minStatus devices, s.Well "bypass" := by
  intro s hs
  obtain ⟨item,-,rfl⟩ := List.mem_map.mp hs
  exact ⟨rfl,Signal.named_of_char 'b' (by decide) (by simp)⟩

lemma quotaSignals_well (env : MonitorEnv) (ip : String) (quota : QuotaState) :
    ∀ s ∈ quotaSignals env ip quota, s.Well ("quota:" ++ ip) := by
  intro s hs
  unfold quotaSignals at hs
  split_ifs at hs
  · cases hs
  · rw [List.mem_singleton] at hs
    subst hs
    exact ⟨rfl,Signal.named_of_char 'q' (by decide) (by simp)⟩
  rcases List.mem_append.mp hs with hs | hs
  · unfold dailySignals at hs
    dsimp only at hs
    split_ifs at hs
    · rw [List.mem_singleton] at hs
      subst hs
      exact ⟨rfl,Signal.named_of_char 'q' (by decide) (by simp)⟩
    · rw [List.mem_singleton] at hs
      subst hs
      exact ⟨rfl,Signal.named_of_char 'q' (by decide) (by simp)⟩
    · cases hs
  · obtain ⟨service,-,rfl⟩ := List.mem_map.mp hs
    exact ⟨rfl,Signal.named_of_char 'q' (by decide) (by simp [serviceSignal])⟩

lemma Reading.blocks_well {α : Type} {source : String} {signals : α → List Signal}
    (hsource : clip (strip source) 120≠"")
    (hsignals : ∀ evidence, ∀ s ∈ signals evidence, s.Well source) (reading : Reading α)
    (complete : α → Bool) : ∀ b ∈ reading.blocks source signals complete, b.Well := by
  intro b hb
  unfold blocks at hb
  split at hb
  · cases hb
  · rw [List.mem_singleton] at hb
    subst hb
    exact ⟨hsource,hsignals _⟩

lemma quotaBlocks_well (env : MonitorEnv) (ips : List String) (readings : ℕ → Reading QuotaState) :
    ∀ b ∈ quotaBlocks env ips readings, b.Well := by
  induction ips generalizing readings with
  | nil => intro b hb; cases hb
  | cons ip ips ih =>
    intro b hb
    rcases List.mem_append.mp hb with hb | hb
    · split_ifs at hb
      · cases hb
      · exact Reading.blocks_well (source_of_char 'q' (by decide) (by simp))
          (quotaSignals_well env ip) _ _ b hb
    · exact ih _ b hb

theorem CycleInputs.blocks_well (env : MonitorEnv) (inputs : CycleInputs) :
    ∀ b ∈ inputs.blocks env, b.Well := by
  intro b hb
  simp only [blocks,List.mem_append] at hb
  rcases hb with (((hb | hb) | hb) | hb) | hb
  · exact Reading.blocks_well (source_of_char 's' (by decide) (by decide))
      securitySignals_well _ _ b hb
  · exact Reading.blocks_well (source_of_char 'r' (by decide) (by decide))
      reconcilerSignals_well _ _ b hb
  · exact Reading.blocks_well (source_of_char 'o' (by decide) (by decide))
      operationsSignals_well _ _ b hb
  · unfold bypassBlocks at hb
    split_ifs at hb
    · cases hb
    rcases List.mem_append.mp hb with hb | hb
    · exact Reading.blocks_well (source_of_char 'b' (by decide) (by decide))
        (bypassSignals_well env _) _ _ b hb
    · rw [List.mem_singleton] at hb
      subst hb
      refine ⟨source_of_char 't' (by decide) (by simp [telemetryBlock]),fun s hs => ?_⟩
      simp only [telemetryBlock,Option.mem_toList,Option.map_eq_some_iff] at hs
      obtain ⟨e,-,rfl⟩ := hs
      exact ⟨rfl,Signal.named_of_char 't' (by decide) (by simp [bypassUnavailable])⟩
  · exact quotaBlocks_well env _ _ b hb

end Names

section Scanning
variable {env : MonitorEnv}

/-- What a signal is in the set of active fingerprints. -/
def Signal.mark (signal : Signal) : String × String := (signal.source,signal.fingerprint)

/-- What recording some signals does to the state of a cycle. -/
structure Recorded (env : MonitorEnv) (signals : List Signal) (sightings : List Sighting)
    (scan scan' : Scan) : Prop where
  active : scan'.active=scan.active ++ signals.map Signal.mark
  desk : scan'.desk=scan.desk.seen env.toPlatform sightings
  scanned : scan'.scanned=scan.scanned
  cleared : scan'.cleared=scan.cleared

/-- What scanning some blocks does to the state of a cycle. -/
structure Covered (env : MonitorEnv) (blocks : List Block) (scan scan' : Scan) : Prop where
  active : scan'.active=scan.active ++ (blocks.flatMap Block.reached).map Signal.mark
  desk : scan'.desk=scan.desk.seen env.toPlatform (blocks.flatMap Block.recorded)
  scanned : scan'.scanned=scan.scanned ++ (blocks.filter Block.scanned).map Block.source
  cleared : scan'.cleared=scan.cleared

lemma Recorded.trans {signals signals' : List Signal} {sightings sightings' : List Sighting}
    {scan scan' scan'' : Scan} (h : Recorded env signals sightings scan scan')
    (h' : Recorded env signals' sightings' scan' scan'') :
    Recorded env (signals ++ signals') (sightings ++ sightings') scan scan'' where
  active := by rw [h'.active,h.active,List.map_append,List.append_assoc]
  desk := by rw [h'.desk,h.desk,Desk.seen_append]
  scanned := h'.scanned.trans h.scanned
  cleared := h'.cleared.trans h.cleared

lemma Covered.refl (scan : Scan) : Covered env [] scan scan :=
  ⟨by simp,rfl,by simp,rfl⟩

lemma Covered.trans {blocks blocks' : List Block} {scan scan' scan'' : Scan}
    (h : Covered env blocks scan scan') (h' : Covered env blocks' scan' scan'') :
    Covered env (blocks ++ blocks') scan scan'' where
  active := by rw [h'.active,h.active,List.flatMap_append,List.map_append,List.append_assoc]
  desk := by rw [h'.desk,h.desk,List.flatMap_append,Desk.seen_append]
  scanned := by rw [h'.scanned,h.scanned,List.filter_append,List.map_append,List.append_assoc]
  cleared := h'.cleared.trans h.cleared

lemma Covered.failed {blocks : List Block} {scan scan' : Scan}
    (h : Covered env blocks scan scan') (label error : String) :
    Covered env blocks scan (scan'.failed label error) := ⟨h.active,h.desk,h.scanned,h.cleared⟩

/-- The signals of one block, with the source that counts as scanned. -/
lemma Recorded.covered {b : Block} {scan scan' : Scan}
    (h : Recorded env b.reached b.recorded { scan with
      scanned := scan.scanned ++ if b.scanned then [b.source] else [] } scan') :
    Covered env [b] scan scan' where
  active := by simpa using h.active
  desk := by simpa using h.desk
  scanned := by
    rw [h.scanned]
    cases hb : b.scanned <;> simp [hb]
  cleared := h.cleared

lemma Scan.audited_recorded (scan : Scan) (signal : Signal) (action : IncidentAction) :
    Recorded env [] [] scan (scan.audited signal action) := by
  cases hloud : action.loud with
  | true =>
    rw [audited,if_pos hloud]
    exact ⟨(List.append_nil _).symm,rfl,rfl,rfl⟩
  | false =>
    rw [audited,if_neg (by simp [hloud])]
    exact ⟨(List.append_nil _).symm,rfl,rfl,rfl⟩

variable (env) in
/-- A signal is reached before its upsert is made, and recorded when that returns. -/
lemma recordSignal_spec {signal : Signal} (hnamed : signal.Named) (scan : Scan) :
    (∀ e, recordSignal env (.error e) signal scan=
      (.error e,{ scan with active := scan.active ++ [signal.mark] })) ∧
    ∀ host, ∃ action scan', recordSignal env (.ok host) signal scan=(.ok action,scan') ∧
      Recorded env [signal] [(signal,host)] scan scan' := by
  refine ⟨fun e => rfl,fun host => ?_⟩
  obtain ⟨⟨reply,desk⟩,hok⟩ := upsertIncident_succeeds env.toPlatform host hnamed scan.desk
  have hnext : scan.desk.seen env.toPlatform [(signal,host)]=desk := by
    simp only [Desk.seen,List.map_cons,List.map_nil,after,Sighting.request,Request.next,
      DeskCall.commit,hok,Call.commit]
  refine ⟨reply.action,({ scan with
    desk := desk, active := scan.active ++ [signal.mark] } : Scan).audited signal reply.action,?_,?_⟩
  · simp only [recordSignal,hok,Signal.mark]
  · have hmark : Recorded env [signal] [(signal,host)] scan
        { scan with desk := desk, active := scan.active ++ [signal.mark] } :=
      ⟨rfl,hnext.symm,rfl,rfl⟩
    exact hmark.trans (Scan.audited_recorded _ signal reply.action)

variable (env) in
/-- The signals of a block are recorded up to the first whose upsert raises. -/
lemma recordSignals_spec {signals : List Signal} (hnamed : ∀ s ∈ signals, s.Named)
    (upserts : ℕ → Except String Host) (scan : Scan) :
    (recordSignals env signals upserts scan).1=failure signals upserts ∧
      Recorded env (reached signals upserts) (recorded signals upserts) scan
        (recordSignals env signals upserts scan).2 := by
  induction signals generalizing upserts scan with
  | nil => exact ⟨rfl,(List.append_nil _).symm,rfl,rfl,rfl⟩
  | cons signal rest ih =>
    obtain ⟨herror,hok⟩ := recordSignal_spec env (hnamed signal List.mem_cons_self) scan
    unfold recordSignals failure reached recorded
    cases hu : upserts 0 with
    | error e =>
      rw [herror]
      exact ⟨rfl,rfl,rfl,rfl,rfl⟩
    | ok host =>
      obtain ⟨action,scan',hcall,hrecorded⟩ := hok host
      rw [hcall]
      obtain ⟨hfailure,hrest⟩ := ih (fun s hs => hnamed s (List.mem_cons_of_mem _ hs))
        (fun k => upserts (k+1)) { scan' with stats := scan'.stats.count action }
      refine ⟨hfailure,?_⟩
      have hcounted : Recorded env [signal] [(signal,host)] scan
          { scan' with stats := scan'.stats.count action } :=
        ⟨hrecorded.active,hrecorded.desk,hrecorded.scanned,hrecorded.cleared⟩
      exact hcounted.trans hrest

/-- A block that reads one source. -/
lemma scanSource_covered {α : Type} {label source : String} {signals : α → List Signal}
    (hwell : ∀ evidence, ∀ s ∈ signals evidence, s.Well source) (reading : Reading α)
    (complete : α → Bool) (scan : Scan) : Covered env (reading.blocks source signals complete) scan
      (scanSource env label source signals reading scan) := by
  unfold scanSource Reading.blocks
  cases reading.read with
  | error e => exact (Covered.refl scan).failed label e
  | ok evidence =>
    have hspec := (recordSignals_spec env (fun s hs => (hwell evidence s hs).named)
      reading.upserts { scan with scanned := scan.scanned ++ [source] }).2
    have hcovered := Recorded.covered
      (b:=⟨source,true,complete evidence,signals evidence,reading.upserts⟩) hspec
    dsimp only
    split
    · rename_i heq
      rw [heq] at hcovered
      exact hcovered
    · rename_i heq
      rw [heq] at hcovered
      exact hcovered.failed label _

lemma scanQuotas_covered (ips : List String) (readings : ℕ → Reading QuotaState) (scan : Scan) :
    Covered env (quotaBlocks env ips readings) scan (scanQuotas env ips readings scan) := by
  induction ips generalizing readings scan with
  | nil => exact .refl scan
  | cons ip ips ih =>
    refine Covered.trans ?_ (ih _ _)
    split_ifs
    · exact .refl scan
    · exact scanSource_covered (quotaSignals_well env ip) _ _ scan

variable (env) in
/-- The evaluation of the bypass evidence, with the source that it scans in the end. -/
lemma scanBypassEvidence_spec (minStatus : String) (reading : Reading (List BypassDevice))
    (scan : Scan) :
    (scanBypassEvidence env minStatus reading scan).1=
      reading.failure (bypassSignals env minStatus) ∧
    ∃ scan', Covered env (reading.blocks "bypass" (bypassSignals env minStatus)) scan scan' ∧
      (scanBypassEvidence env minStatus reading scan).2={ scan' with
        scanned := scan'.scanned ++
          if (reading.failure (bypassSignals env minStatus)).isNone then ["telemetry"] else [] } := by
  cases hread : reading.read with
  | error e =>
    simp only [scanBypassEvidence,Reading.failure,Reading.blocks,hread]
    exact ⟨trivial,scan,.refl scan,by simp⟩
  | ok devices =>
    obtain ⟨hfailure,hspec⟩ := recordSignals_spec env
      (fun s hs => (bypassSignals_well env minStatus devices s hs).named) reading.upserts
      { scan with scanned := scan.scanned ++ ["bypass"] }
    have hcovered := Recorded.covered
      (b:=⟨"bypass",true,true,bypassSignals env minStatus devices,reading.upserts⟩) hspec
    simp only [scanBypassEvidence,Reading.failure,Reading.blocks,hread,← hfailure]
    cases hrun : recordSignals env (bypassSignals env minStatus devices) reading.upserts
        { scan with scanned := scan.scanned ++ ["bypass"] } with
    | mk raised scan' =>
      rw [hrun] at hcovered
      cases raised with
      | none => exact ⟨rfl,scan',hcovered,by simp⟩
      | some e => exact ⟨rfl,scan',hcovered,by simp⟩

/-- The handler of the bypass block returns. -/
def CycleInputs.Handled (env : MonitorEnv) (inputs : CycleInputs) : Prop :=
  inputs.managed.isEmpty ∨ inputs.bypassFailure env=none ∨ ∃ host, inputs.telemetry=.ok host

variable (env) in
/-- The bypass block with its handler. -/
lemma scanBypass_spec (inputs : CycleInputs) (scan : Scan) :
    ((scanBypass env (inputs.minStatus env) inputs.managed inputs scan).1=none ↔
      inputs.Handled env) ∧
    ((scanBypass env (inputs.minStatus env) inputs.managed inputs scan).1=none →
      Covered env (inputs.bypassBlocks env) scan
        (scanBypass env (inputs.minStatus env) inputs.managed inputs scan).2) := by
  unfold scanBypass CycleInputs.Handled CycleInputs.bypassBlocks
  cases hmanaged : inputs.managed.isEmpty with
  | true => exact ⟨by simp,fun _ => .refl scan⟩
  | false =>
    obtain ⟨hfailure,scan',hcovered,hstate⟩ := scanBypassEvidence_spec env
      (inputs.minStatus env) inputs.bypass scan
    have hblock : Signal.Named (bypassUnavailable "") :=
      Signal.named_of_char 't' (by decide) (by simp [bypassUnavailable])
    simp only [Bool.false_eq_true,if_false,false_or]
    cases hrun : scanBypassEvidence env (inputs.minStatus env) inputs.bypass scan with
    | mk raised after =>
    rw [hrun] at hfailure hstate
    change raised=inputs.bypassFailure env at hfailure
    change after={ scan' with scanned := scan'.scanned ++
      if (inputs.bypassFailure env).isNone then ["telemetry"] else [] } at hstate
    subst hstate
    cases raised with
    | none =>
      refine ⟨by simp [← hfailure],fun _ => hcovered.trans (Recorded.covered ?_)⟩
      simp only [CycleInputs.telemetryBlock,Block.reached,Block.recorded,← hfailure,
        Option.map_none,Option.toList_none,reached,recorded,Option.isNone_none,if_true]
      exact ⟨(List.append_nil _).symm,rfl,rfl,rfl⟩
    | some e =>
      have hblock : ∀ s ∈ [bypassUnavailable e],s.Named :=
        fun s hs => by rw [List.mem_singleton.mp hs]; exact hblock
      obtain ⟨hraised,hspec⟩ := recordSignals_spec env hblock (fun _ => inputs.telemetry)
        (Scan.failed { scan' with scanned := scan'.scanned ++
          if (inputs.bypassFailure env).isNone then ["telemetry"] else [] } "telemetry" e)
      dsimp only
      refine ⟨?_,fun _ => hcovered.trans (Recorded.covered ?_)⟩
      · rw [hraised,← hfailure]
        simp only [failure,reduceCtorEq,false_or]
        cases inputs.telemetry with
        | error e => simp
        | ok host => simp
      · simp only [CycleInputs.telemetryBlock,Block.reached,Block.recorded,← hfailure,
          Option.map_some,Option.toList_some,Option.isNone_some] at hspec ⊢
        exact ⟨hspec.active,hspec.desk,hspec.scanned,hspec.cleared⟩

variable (env) in
/-- The scans of a cycle that reaches its resolutions. -/
theorem scanSources_spec {settings : MonitorSettings} {inputs : CycleInputs}
    (hstatus : inputs.minStatus env=settings.bypassMinStatus) (scan : Scan) :
    ((scanSources env settings inputs scan).1=none ↔ inputs.Handled env) ∧
    ((scanSources env settings inputs scan).1=none →
      Covered env (inputs.blocks env) scan (scanSources env settings inputs scan).2) := by
  unfold scanSources
  rw [← hstatus]
  have hfirst : Covered env (inputs.security.blocks "security" securitySignals ++
      inputs.reconciler.blocks "reconciler" reconcilerSignals ++
      inputs.operations.blocks "operations" operationsSignals) scan
        (scanOperations env inputs (scanReconciler env inputs (scanSecurity env inputs scan))) :=
    ((scanSource_covered securitySignals_well _ _ _).trans
      (scanSource_covered reconcilerSignals_well _ _ _)).trans
        (scanSource_covered operationsSignals_well _ _ _)
  generalize scanOperations env inputs (scanReconciler env inputs
    (scanSecurity env inputs scan))=scan₁ at hfirst
  have hdevices : Covered env (inputs.security.blocks "security" securitySignals ++
      inputs.reconciler.blocks "reconciler" reconcilerSignals ++
      inputs.operations.blocks "operations" operationsSignals) scan
        (scanDevices inputs scan₁) := by
    unfold scanDevices
    cases inputs.devices with
    | ok devices => exact hfirst
    | error e => exact hfirst.failed _ _
  dsimp only
  generalize scanDevices inputs scan₁=scan₂ at hdevices
  obtain ⟨hraised,hcovered⟩ := scanBypass_spec env inputs scan₂
  unfold CycleInputs.managed at hraised hcovered
  cases hrun : scanBypass env (inputs.minStatus env) (inputs.ips.filter fun ip => ip≠"") inputs
      scan₂ with
  | mk raised scan₃ =>
    rw [hrun] at hraised hcovered
    cases raised with
    | some e => exact ⟨hraised,fun h => absurd h (by simp)⟩
    | none =>
      exact ⟨hraised,fun _ => (hdevices.trans (hcovered rfl)).trans (scanQuotas_covered _ _ _)⟩

variable (env) in
/-- Nothing is cleared before the resolutions. -/
lemma scanSources_cleared (settings : MonitorSettings) (inputs : CycleInputs) (scan : Scan) :
    (scanSources env settings inputs scan).2.cleared=scan.cleared := by
  have hbypass (scan : Scan) : (scanBypass env settings.bypassMinStatus
      (inputs.ips.filter fun ip => ip≠"") inputs scan).2.cleared=scan.cleared := by
    unfold scanBypass
    split_ifs
    · rfl
    obtain ⟨-,scan',hcovered,hstate⟩ := scanBypassEvidence_spec env
      settings.bypassMinStatus inputs.bypass scan
    have hevidence : (scanBypassEvidence env settings.bypassMinStatus inputs.bypass
        scan).2.cleared=scan.cleared := by
      rw [hstate]
      exact hcovered.cleared
    split
    · rename_i hrun
      rw [hrun] at hevidence
      exact hevidence
    · rename_i e after hrun
      rw [hrun] at hevidence
      refine Eq.trans ?_ hevidence
      refine (recordSignals_spec env (fun s hs => ?_) _ (after.failed "telemetry" e)).2.cleared
      rw [List.mem_singleton.mp hs]
      exact Signal.named_of_char 't' (by decide) (by simp [bypassUnavailable])
  have hdevices (scan : Scan) : (scanDevices inputs scan).cleared=scan.cleared := by
    unfold scanDevices
    split <;> rfl
  have hfirst : (scanOperations env inputs (scanReconciler env inputs
      (scanSecurity env inputs scan))).cleared=scan.cleared :=
    (((scanSource_covered securitySignals_well _ (fun _ => true) _).trans
      (scanSource_covered reconcilerSignals_well _ (fun _ => true) _)).trans
        (scanSource_covered operationsSignals_well _ (fun _ => true) _)).cleared
  unfold scanSources
  dsimp only
  have hrun := hbypass (scanDevices inputs (scanOperations env inputs (scanReconciler env inputs
    (scanSecurity env inputs scan))))
  rw [hdevices,hfirst] at hrun
  split
  · rename_i heq
    rw [heq] at hrun
    exact hrun
  · rename_i heq
    rw [heq] at hrun
    exact (scanQuotas_covered _ _ _).cleared.trans hrun

end Scanning
end ZenControl.Attention
