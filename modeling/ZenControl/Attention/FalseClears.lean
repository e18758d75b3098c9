import ZenControl.Attention.Scans

/-! False clears. A cycle clears an incident when its source was scanned and its fingerprint was
not reached. A signal that holds is not reached when an earlier upsert of its block raises, and
it is reached under another text when the stored fingerprint is not the one it was given. The
quotas of a device count as scanned although their telemetry is not available. -/
namespace ZenControl.Attention
open Rows Histories

section Definitions
variable (env : MonitorEnv) (inputs : CycleInputs)

/-- A source counts as scanned in this cycle. -/
def CycleInputs.Scans (source : String) : Prop :=
  ∃ b ∈ inputs.blocks env, b.scanned ∧ b.source=source

/-- The evidence of a source was read in this cycle. -/
def CycleInputs.Reads (source : String) : Prop :=
  ∃ b ∈ inputs.blocks env, b.scanned ∧ b.complete ∧ b.source=source

/-- The evidence of a stored source was read. -/
def CycleInputs.Knows (stored : String) : Prop :=
  ∃ source, inputs.Reads env source ∧ clip (strip source) 120=stored

/-- The condition behind a signal holds in the evidence of this cycle. -/
def CycleInputs.Holds (signal : Signal) : Prop := ∃ b ∈ inputs.blocks env, signal ∈ b.signals

/-- The incident that a signal maps to. -/
structure Signal.IsOf (signal : Signal) (row : Incident) : Prop where
  source : signal.args.normalized.source=row.source
  fingerprint : signal.args.normalized.fingerprint=row.fingerprint

/-- No false clear: an incident is cleared only when the evidence of its source was read and no
condition that maps to it holds. -/
def NoFalseClear (desk : Desk) : Prop :=
  ∀ row ∈ (runCycle env inputs desk).2.cleared,
    inputs.Knows env row.source ∧ ∀ signal, inputs.Holds env signal → ¬signal.IsOf row

/-- Nothing ends the cycle before its resolutions: the lock is free, the settings are read, the
cycle is not a scheduled one of a disabled monitor, and the handler of the bypass block does not
raise. -/
structure CycleInputs.Resolves : Prop where
  free : inputs.busy=false
  settings : ∃ raw, inputs.settings=.ok raw ∧
    ¬((monitorSettings env.toPlatform raw).enabled=false ∧ inputs.trigger="scheduled")
  handled : inputs.Handled env

/-- The signals that are reached before an upsert of their block raises. -/
def CycleInputs.reached : List Signal := (inputs.blocks env).flatMap Block.reached

/-- The signals whose upserts return. -/
def CycleInputs.recorded : List Sighting := (inputs.blocks env).flatMap Block.recorded

/-- A source reaches a fingerprint. -/
def CycleInputs.Reaches (source fingerprint : String) : Prop :=
  ∃ signal ∈ inputs.reached env, signal.source=source ∧ signal.fingerprint=fingerprint

/-- Every signal that holds is reached under its stored fingerprint by each source that counts as
scanned and is stored as its source, unless no incident of it is left open there. -/
def SignalsReached (desk : Desk) : Prop :=
  inputs.Resolves env → ∀ signal, inputs.Holds env signal → ∀ source, inputs.Scans env source →
    clip (strip source) 120=signal.args.normalized.source →
    desk.LeftOpen (inputs.recorded env) signal.args.normalized.fingerprint
      signal.args.normalized.source →
    inputs.Reaches env source signal.args.normalized.fingerprint

/-- Where the evidence of a scanned source is missing, nothing is left open but what the source
reaches. -/
def OutagesQuiet (desk : Desk) : Prop :=
  inputs.Resolves env → ∀ source, inputs.Scans env source →
    ¬inputs.Knows env (clip (strip source) 120) → ∀ fingerprint,
    desk.LeftOpen (inputs.recorded env) fingerprint (clip (strip source) 120) →
    inputs.Reaches env source fingerprint

end Definitions

section Prefixes
variable {signals : List Signal} {upserts : ℕ → Except String Host}

lemma mem_of_recorded {c : Sighting} (h : c ∈ recorded signals upserts) : c.1 ∈ signals := by
  induction signals generalizing upserts with
  | nil => cases h
  | cons signal rest ih =>
    unfold recorded at h
    split at h
    · cases h
    · rcases List.mem_cons.mp h with rfl | h
      · exact List.mem_cons_self
      · exact List.mem_cons_of_mem _ (ih h)

lemma reached_of_returns (h : failure signals upserts=none) :
    reached signals upserts=signals := by
  induction signals generalizing upserts with
  | nil => rfl
  | cons signal rest ih =>
    unfold failure at h
    unfold reached
    split at h
    · cases h
    · exact congrArg _ (ih h)

end Prefixes

section Resolutions

lemma Incident.cleared_status (now : ℤ) (actor : String) (r : Incident) :
    (r.cleared now actor).status=.resolved := by
  unfold cleared
  split_ifs with hopen
  · rfl
  · exact not_not.mp hopen
  · exact not_not.mp hopen

/-- One resolution: it reports the open incidents of its source that are not active, and clears
every incident of its source that is not active. -/
lemma resolveInactiveIncidents_spec (host : Host) (source : String) (active : List String)
    (actor : String) (desk : Desk) : ∃ ids desk',
    resolveInactiveIncidents host source active actor desk=.ok (ids,desk') ∧
    (∀ r, r ∈ ids.filterMap desk.incidents.find ↔ ∃ k, desk.incidents.find k=some r ∧
      r.status≠.resolved ∧ r.ClearedBy source active) ∧
    ∀ k, desk'.incidents.find k=(desk.incidents.find k).map fun r =>
      if r.ClearedBy source active then r.cleared host.now actor else r := by
  unfold resolveInactiveIncidents
  dsimp only
  by_cases hsource : clip (strip source) 120=""
  · rw [if_pos hsource]
    refine ⟨[],desk,rfl,fun r => ?_,fun k => ?_⟩
    · constructor
      · intro hr
        cases hr
      · rintro ⟨k,-,-,hcleared⟩
        exact absurd hsource hcleared.1
    · have hnone (r : Incident) : ¬r.ClearedBy source active := fun h => h.1 hsource
      simp [hnone]
  rw [if_neg hsource]
  have hmem (r : ℕ × Incident) : r ∈ (desk.incidents.select fun _ r =>
      r.source=clip (strip source) 120 && decide (r.fingerprint ∉ active)) ↔
      desk.incidents.find r.1=some r.2 ∧ r.2.ClearedBy source active := by
    rw [Table.mem_select]
    simp only [Bool.and_eq_true,decide_eq_true_eq,Incident.ClearedBy]
    exact and_congr_right fun _ => ⟨fun h => ⟨hsource,h⟩,fun h => h.2⟩
  have hrows : (desk.incidents.select fun _ r => r.source=clip (strip source) 120 &&
      decide (r.fingerprint ∉ active)).Pairwise fun r r' => r.1 < r'.1 :=
    desk.incidents.increasing.filter _
  generalize (desk.incidents.select fun _ r => r.source=clip (strip source) 120 &&
    decide (r.fingerprint ∉ active))=rows at hmem hrows
  refine ⟨(rows.filter fun r => r.2.status≠.resolved).map Prod.fst,
    rows.foldl (fun desk r => clearIncident host actor r desk) desk,rfl,fun r => ?_,fun k => ?_⟩
  · simp only [List.mem_filterMap,List.mem_map,List.mem_filter]
    constructor
    · rintro ⟨k,⟨r',⟨hr',hopen⟩,rfl⟩,hfind⟩
      obtain ⟨hrow,hcleared⟩ := (hmem r').mp hr'
      obtain rfl : r'.2=r := Option.some.inj (hrow.symm.trans hfind)
      exact ⟨r'.1,hrow,by simpa using hopen,hcleared⟩
    · rintro ⟨k,hrow,hopen,hcleared⟩
      exact ⟨k,⟨(k,r),⟨(hmem (k,r)).mpr ⟨hrow,hcleared⟩,by simpa using hopen⟩,rfl⟩,hrow⟩
  · rw [clearEach_incidents host actor hrows (fun r hr => ((hmem r).mp hr).1)]
    cases hrow : desk.incidents.find k with
    | none => simp only [Option.map_none]
    | some r =>
      have hiff : k ∈ rows.map Prod.fst ↔ r.ClearedBy source active := by
        rw [List.mem_map]
        constructor
        · rintro ⟨r',hr',rfl⟩
          obtain ⟨hfind,hcleared⟩ := (hmem r').mp hr'
          obtain rfl : r'.2=r := Option.some.inj (hfind.symm.trans hrow)
          exact hcleared
        · exact fun hcleared => ⟨(k,r),(hmem (k,r)).mpr ⟨hrow,hcleared⟩,rfl⟩
      simp only [Option.map_some,hiff]

/-- The resolutions of a cycle clear what stands open under one of its sources and is not
active there. -/
lemma resolveSources_spec (env : MonitorEnv) (clocks : String → Host) (sources : List String)
    (scan : Scan) (row : Incident) :
    row ∈ (resolveSources env clocks sources scan).2.cleared ↔ row ∈ scan.cleared ∨
      ∃ k, scan.desk.incidents.find k=some row ∧ row.status≠.resolved ∧
        ∃ source ∈ sources, row.ClearedBy source (scan.activeOf source) := by
  induction sources generalizing scan with
  | nil => simp [resolveSources]
  | cons source sources ih =>
    obtain ⟨ids,desk',hcall,hids,hfind⟩ := resolveInactiveIncidents_spec (clocks source) source
      (scan.activeOf source) "system:incident-monitor" scan.desk
    have hstep : resolveSources env clocks (source :: sources) scan=
        resolveSources env clocks sources (scan.resolved ids desk') := by
      simp only [resolveSources,hcall]
    have hdesk : (scan.resolved ids desk').desk=desk' := rfl
    have hactive (s : String) : (scan.resolved ids desk').activeOf s=scan.activeOf s := rfl
    have hcleared : row ∈ (scan.resolved ids desk').cleared ↔
        row ∈ scan.cleared ∨ row ∈ ids.filterMap scan.desk.incidents.find := List.mem_append
    rw [hstep,ih,hcleared,hids]
    simp only [hdesk,hactive,List.mem_cons]
    constructor
    · rintro ((hold | ⟨k,hrow,hopen,hnow⟩) | ⟨k,hrow,hopen,s,hs,hlater⟩)
      · exact .inl hold
      · exact .inr ⟨k,hrow,hopen,source,.inl rfl,hnow⟩
      · rw [hfind,Option.map_eq_some_iff] at hrow
        obtain ⟨r,hr,heq⟩ := hrow
        split_ifs at heq with hc
        · rw [← heq] at hopen
          exact absurd (Incident.cleared_status _ _ _) hopen
        · subst heq
          exact .inr ⟨k,hr,hopen,s,.inr hs,hlater⟩
    · rintro (hold | ⟨k,hrow,hopen,s,hs,hclears⟩)
      · exact .inl (.inl hold)
      by_cases hnow : row.ClearedBy source (scan.activeOf source)
      · exact .inl (.inr ⟨k,hrow,hopen,hnow⟩)
      · rcases hs with rfl | hs
        · exact absurd hclears hnow
        · refine .inr ⟨k,?_,hopen,s,hs,hclears⟩
          rw [hfind,hrow,Option.map_some,if_neg hnow]

end Resolutions

section Cycles
variable {env : MonitorEnv} {inputs : CycleInputs} {desk : Desk}

variable (env) in
/-- The resolutions never raise. -/
lemma resolveSources_returns (clocks : String → Host) (sources : List String) (scan : Scan) :
    (resolveSources env clocks sources scan).1=none := by
  induction sources generalizing scan with
  | nil => rfl
  | cons source sources ih =>
    obtain ⟨ids,desk',hcall,-⟩ := resolveInactiveIncidents_spec (clocks source) source
      (scan.activeOf source) "system:incident-monitor" scan.desk
    simp only [resolveSources,hcall]
    exact ih _

/-- What a cycle clears: the incidents that stand open after its recordings under a source that
counts as scanned, and whose fingerprint was not reached there. -/
theorem mem_cleared (row : Incident) : row ∈ (runCycle env inputs desk).2.cleared ↔
    inputs.Resolves env ∧ (∃ k, (desk.seen env.toPlatform
      (inputs.recorded env)).incidents.find k=some row) ∧ row.status≠.resolved ∧
    ∃ source, inputs.Scans env source ∧ clip (strip source) 120=row.source ∧
      ¬inputs.Reaches env source row.fingerprint := by
  unfold runCycle
  dsimp only
  by_cases hbusy : inputs.busy
  · rw [if_pos hbusy]
    refine ⟨fun h => (by cases h),fun h => ?_⟩
    rw [h.1.free] at hbusy
    cases hbusy
  rw [if_neg hbusy]
  cases hsettings : inputs.settings with
  | error e =>
    refine ⟨fun h => (by cases h),fun h => ?_⟩
    obtain ⟨raw,hraw,-⟩ := h.1.settings
    rw [hsettings] at hraw
    cases hraw
  | ok raw =>
  dsimp only
  by_cases hdisabled : (monitorSettings env.toPlatform raw).enabled=false ∧
      inputs.trigger="scheduled"
  · rw [if_pos hdisabled]
    refine ⟨fun h => (by cases h),fun h => ?_⟩
    obtain ⟨raw',hraw,henabled⟩ := h.1.settings
    rw [hsettings] at hraw
    cases hraw
    exact absurd hdisabled henabled
  rw [if_neg hdisabled]
  have hstatus : inputs.minStatus env=
      (monitorSettings env.toPlatform raw).bypassMinStatus := by
    simp only [CycleInputs.minStatus,hsettings]
  obtain ⟨hraised,hcovered⟩ := scanSources_spec env hstatus { desk := desk }
  have hkept := scanSources_cleared env (monitorSettings env.toPlatform raw) inputs
    { desk := desk }
  cases hrun : scanSources env (monitorSettings env.toPlatform raw) inputs { desk := desk } with
  | mk raised scan =>
  rw [hrun] at hraised hcovered hkept
  cases raised with
  | some e =>
    dsimp only
    rw [hkept]
    refine ⟨fun h => (by cases h),fun h => ?_⟩
    have := hraised.mpr h.1.handled
    cases this
  | none =>
    have hscan := hcovered rfl
    have hresolves : inputs.Resolves env := by
      refine ⟨?_,⟨raw,hsettings,hdisabled⟩,hraised.mp rfl⟩
      rwa [Bool.not_eq_true] at hbusy
    have hend := resolveSources_returns env inputs.resolutions scan.sources scan
    have hmem := resolveSources_spec env inputs.resolutions scan.sources scan row
    cases hloop : resolveSources env inputs.resolutions scan.sources scan with
    | mk raised scan' =>
    rw [hloop] at hend hmem
    subst hend
    dsimp only
    rw [hloop]
    dsimp only
    rw [hmem,hscan.cleared]
    have hdesk : scan.desk=desk.seen env.toPlatform (inputs.recorded env) := hscan.desk
    have hsource (source : String) : source ∈ scan.sources ↔ inputs.Scans env source := by
      rw [Scan.sources,List.mem_insertionSort,List.mem_dedup,hscan.scanned]
      simp only [List.nil_append,List.mem_map,List.mem_filter,CycleInputs.Scans,and_assoc]
    have hactive (source : String) (fingerprint : String) :
        fingerprint ∉ scan.activeOf source ↔ ¬inputs.Reaches env source fingerprint := by
      have hmarks : scan.active=(inputs.reached env).map Signal.mark :=
        hscan.active.trans (List.nil_append _)
      simp only [Scan.activeOf,hmarks,List.mem_map,List.mem_filter]
      refine not_congr ⟨?_,?_⟩
      · rintro ⟨e,⟨⟨signal,hsignal,rfl⟩,hs⟩,hf⟩
        exact ⟨signal,hsignal,of_decide_eq_true hs,hf⟩
      · rintro ⟨signal,hsignal,hs,hf⟩
        exact ⟨signal.mark,⟨⟨signal,hsignal,rfl⟩,decide_eq_true hs⟩,hf⟩
    constructor
    · rintro (hnone | ⟨k,hrow,hopen,source,hs,hclears⟩)
      · cases hnone
      · rw [hdesk] at hrow
        exact ⟨hresolves,⟨k,hrow⟩,hopen,source,(hsource source).mp hs,hclears.2.1.symm,
          (hactive source row.fingerprint).mp hclears.2.2⟩
    · rintro ⟨-,⟨k,hrow⟩,hopen,source,hs,hstored,hnone⟩
      rw [← hdesk] at hrow
      refine .inr ⟨k,hrow,hopen,source,(hsource source).mpr hs,?_,hstored.symm,
        (hactive source row.fingerprint).mpr hnone⟩
      obtain ⟨b,hb,-,rfl⟩ := hs
      exact (inputs.blocks_well env b hb).source

/-- After every history a cycle clears nothing falsely exactly when it reaches, under its stored
fingerprint, every signal that holds and whose incident is left open, and nothing else is left
open where the evidence of a scanned source is missing. -/
theorem clears_nothing_falsely (env : MonitorEnv) (inputs : CycleInputs)
    (requests : List Request) :
    NoFalseClear env inputs (deskAfter env.toPlatform requests) ↔
      SignalsReached env inputs (deskAfter env.toPlatform requests) ∧
        OutagesQuiet env inputs (deskAfter env.toPlatform requests) := by
  have hunique : (deskAfter env.toPlatform requests).incidents.Unique Incident.fingerprint :=
    after_invariant (P:=fun _ => True)
      (I:=fun desk : Desk => desk.incidents.Unique Incident.fingerprint) (fun _ _ => trivial)
      Table.Unique.empty fun q s _ hs => (q.incident_change env.toPlatform s).unique hs
  generalize deskAfter env.toPlatform requests=desk at hunique
  have hnamed : ∀ c ∈ inputs.recorded env, c.1.Named := by
    intro c hc
    obtain ⟨b,hb,hc⟩ := List.mem_flatMap.mp hc
    exact ((inputs.blocks_well env b hb).signals c.1 (mem_of_recorded hc)).named
  have hleft (fingerprint source : String) :
      (desk.seen env.toPlatform (inputs.recorded env)).StandsOpen fingerprint source ↔
        desk.LeftOpen (inputs.recorded env) fingerprint source :=
    Desk.seen_standsOpen hnamed hunique
  -- an open incident that its source does not reach is cleared
  have hclears {source fingerprint stored : String} (hresolves : inputs.Resolves env)
      (hscans : inputs.Scans env source) (hsource : clip (strip source) 120=stored)
      (hopen : desk.LeftOpen (inputs.recorded env) fingerprint stored)
      (hnone : ¬inputs.Reaches env source fingerprint) :
      ∃ row ∈ (runCycle env inputs desk).2.cleared,
        row.fingerprint=fingerprint ∧ row.source=stored := by
    obtain ⟨k,row,hrow,hprint,hrowsource,hstatus⟩ := (hleft _ _).mpr hopen
    refine ⟨row,(mem_cleared row).mpr ⟨hresolves,⟨k,hrow⟩,hstatus,source,hscans,
      hsource.trans hrowsource.symm,?_⟩,hprint,hrowsource⟩
    rwa [hprint]
  constructor
  · intro h
    constructor
    · intro hresolves signal hholds source hscans hsource hopen
      by_contra hnone
      obtain ⟨row,hcleared,hprint,hrowsource⟩ := hclears hresolves hscans hsource hopen hnone
      exact (h row hcleared).2 signal hholds ⟨hrowsource.symm,hprint.symm⟩
    · intro hresolves source hscans hunknown fingerprint hopen
      by_contra hnone
      obtain ⟨row,hcleared,-,hrowsource⟩ := hclears hresolves hscans rfl hopen hnone
      exact hunknown (hrowsource ▸ (h row hcleared).1)
  · rintro ⟨hreached,hquiet⟩ row hrow
    obtain ⟨hresolves,⟨k,hfind⟩,hstatus,source,hscans,hsource,hnone⟩ := (mem_cleared row).mp hrow
    have hopen : desk.LeftOpen (inputs.recorded env) row.fingerprint row.source :=
      (hleft _ _).mp ⟨k,row,hfind,rfl,rfl,hstatus⟩
    refine ⟨?_,fun signal hholds hof => hnone ?_⟩
    · by_contra hunknown
      rw [← hsource] at hunknown hopen
      exact hnone (hquiet hresolves source hscans hunknown _ hopen)
    · rw [← hof.fingerprint]
      refine hreached hresolves signal hholds source hscans (hsource.trans hof.source.symm) ?_
      rwa [hof.fingerprint,hof.source]

/-- A cycle in which no upsert raises, no evidence is missing and every name is stored as it is
given clears nothing falsely. -/
theorem clears_nothing_falsely_undisturbed (env : MonitorEnv) (inputs : CycleInputs)
    (requests : List Request)
    (hreturn : ∀ b ∈ inputs.blocks env, failure b.signals b.upserts=none)
    (hcomplete : ∀ b ∈ inputs.blocks env, b.complete)
    (hsource : ∀ source, inputs.Reads env source → clip (strip source) 120=source)
    (hprint : ∀ signal, inputs.Holds env signal →
      signal.args.normalized.source=signal.source ∧
        signal.args.normalized.fingerprint=signal.fingerprint) :
    NoFalseClear env inputs (deskAfter env.toPlatform requests) := by
  have hreads {source : String} (hscans : inputs.Scans env source) : inputs.Reads env source := by
    obtain ⟨b,hb,hscanned,hsource⟩ := hscans
    exact ⟨b,hb,hscanned,hcomplete b hb,hsource⟩
  refine (clears_nothing_falsely env inputs requests).mpr ⟨?_,?_⟩
  · intro _ signal hholds source hscans hstored _
    obtain ⟨hs,hf⟩ := hprint signal hholds
    refine ⟨signal,?_,?_,hf.symm⟩
    · obtain ⟨b,hb,hmem⟩ := hholds
      refine List.mem_flatMap.mpr ⟨b,hb,?_⟩
      rw [Block.reached,reached_of_returns (hreturn b hb)]
      exact hmem
    · rw [← hs,← hstored,hsource source (hreads hscans)]
  · intro _ source hscans hunknown
    exact absurd ⟨source,hreads hscans,rfl⟩ hunknown

end Cycles

section LockedDatabase

def lockedEnv : MonitorEnv :=
  { asciiPlatform with upper := id, describe := fun _ => "" }

def warned : PostureCheck := { key := some "ntp", severity := "warning", status := "warn" }

def closed : PostureCheck := { key := some "api", severity := "critical", status := "fail" }

/-- A cycle whose posture has a failed and a warning check; the first upsert finds the database
locked, and no other source answers. -/
def lockedCycle : CycleInputs :=
  { settings := .ok fun _ => none
    security := ⟨.ok [closed,warned],fun _ => .error "database is locked"⟩
    reconciler := ⟨.error "offline",fun _ => .ok {}⟩
    operations := ⟨.error "offline",fun _ => .ok {}⟩
    devices := .error "offline"
    bypass := ⟨.error "offline",fun _ => .ok {}⟩
    telemetry := .ok {}
    quotas := fun _ => ⟨.error "offline",fun _ => .ok {}⟩
    resolutions := fun _ => {} }

/-- The posture warnings were recorded by an earlier cycle. -/
def earlierWarnings : List Request :=
  (securitySignals [warned]).map fun signal => ⟨{},.upsertIncident signal.args⟩

/-- The warnings still hold, and their incident is cleared. -/
theorem warnings_cleared_falsely : ¬∀ (env : MonitorEnv) (inputs : CycleInputs)
    (requests : List Request), NoFalseClear env inputs (deskAfter env.toPlatform requests) := by
  intro h
  have hcleared : (runCycle lockedEnv lockedCycle (deskAfter lockedEnv.toPlatform
      earlierWarnings)).2.cleared.map (fun row => (row.source,row.fingerprint))=
        [("security","security:posture-warnings")] := by decide
  obtain ⟨row,hrow,hnames⟩ := List.mem_map.mp (hcleared ▸ List.mem_singleton_self _)
  obtain ⟨hsource,hprint⟩ := Prod.mk.injEq _ _ _ _ ▸ hnames
  have hblock : (⟨"security",true,true,securitySignals [closed,warned],
      fun _ => .error "database is locked"⟩ : Block) ∈ lockedCycle.blocks lockedEnv := by
    simp [CycleInputs.blocks,lockedCycle,Reading.blocks]
  refine (h lockedEnv lockedCycle earlierWarnings row hrow).2
    ((securitySignals [closed,warned]).getLast (by decide)) ⟨_,hblock,List.getLast_mem _⟩ ⟨?_,?_⟩
  · rw [hsource]
    decide
  · rw [hprint]
    decide

end LockedDatabase
end ZenControl.Attention
