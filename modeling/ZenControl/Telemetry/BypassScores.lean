import ZenControl.Library.Peaks
import ZenControl.Library.Rows
import ZenControl.Text
import Mathlib.Data.List.Sort
import Mathlib.Data.String.Basic

/-! The scores that `summarize_bypass_evidence` gives to the household and to each device. -/
namespace ZenControl.Telemetry
open Peaks

section Summary

/-- A row of evidence, as far as the summary reads it. -/
structure Signal where
  clientIp : Option String := none
  key : Option String := none
  weight : Option ℤ := none
  flows : Option ℤ := none
  category : Option String := none
  confidence : Option String := none
  lastSeen : Option String := none
  deriving DecidableEq, Repr

def Signal.ip (row : Signal) : String := orElse (row.clientIp.getD "") "unknown"
def Signal.name (row : Signal) : String := orElse (row.key.getD "") "unknown"
def Signal.points (row : Signal) : ℕ := (row.weight.getD 0).toNat

inductive ScoreStatus
  | clear | watch | elevated | high
  deriving DecidableEq, Repr

/-- How bad a status is. -/
def ScoreStatus.rank : ScoreStatus → ℕ
  | clear => 0
  | watch => 1
  | elevated => 2
  | high => 3

def scoreStatus (score : ℕ) : ScoreStatus :=
  if score ≤ 0 then .clear else if score<20 then .watch else if score<45 then .elevated else .high

/-- What the loop over the rows collects for a device. -/
structure DeviceBucket where
  clientIp : String
  signals : ℕ := 0
  flows : ℕ := 0
  lastSeen : Option String := none
  categories : List String := []
  unique : List (String × ℕ) := []
  deriving DecidableEq, Repr

/-- The later of two times of evidence, by their texts. -/
def laterSeen (known : Option String) (seen : Option String) : Option String :=
  match seen with
  | none => known
  | some seen =>
    if seen≠"" ∧ (known.getD ""="" ∨ known.getD ""<seen) then some seen else known

def DeviceBucket.add (bucket : DeviceBucket) (row : Signal) : DeviceBucket where
  clientIp := bucket.clientIp
  signals := bucket.signals+1
  flows := bucket.flows+(row.flows.getD 0).toNat
  lastSeen := laterSeen bucket.lastSeen row.lastSeen
  categories := bucket.categories.insert (orElse (row.category.getD "") "other")
  unique := record row.name row.points bucket.unique

/-- `by_device` and `global_unique`. -/
structure Collected where
  byDevice : List DeviceBucket := []
  globalUnique : List ((String × String) × ℕ) := []
  deriving DecidableEq, Repr

def Collected.add (c : Collected) (row : Signal) : Collected where
  byDevice :=
    let bucket := (Rows.row DeviceBucket.clientIp row.ip c.byDevice).getD { clientIp := row.ip }
    Rows.put DeviceBucket.clientIp (bucket.add row) c.byDevice
  globalUnique := record (row.ip,row.name) row.points c.globalUnique

/-- A device of the summary. -/
structure AffectedDevice where
  clientIp : String
  score : ℕ
  status : ScoreStatus
  signals : ℕ
  flows : ℕ
  lastSeen : Option String
  categories : List String
  deriving DecidableEq, Repr

def DeviceBucket.scored (bucket : DeviceBucket) : AffectedDevice :=
  let base := (bucket.unique.map Prod.snd).sum
  let recurrence := min 10 ((bucket.signals-1)*2)
  let score := min 100 (base+recurrence)
  { clientIp := bucket.clientIp, score, status := scoreStatus score, signals := bucket.signals
    flows := bucket.flows, lastSeen := bucket.lastSeen
    categories := bucket.categories.insertionSort fun a b => ¬ b < a }

structure BypassSummary where
  score : ℕ
  status : ScoreStatus
  signals : ℕ
  affectedDevices : ℕ
  highConfidence : ℕ
  mediumConfidence : ℕ
  lowConfidence : ℕ
  devices : List AffectedDevice
  deriving DecidableEq, Repr

def summarizeBypassEvidence (evidence : List Signal) : BypassSummary :=
  let c := evidence.foldl Collected.add {}
  let devices := c.byDevice.map DeviceBucket.scored
  let overallScore := min 100 ((c.globalUnique.map Prod.snd).sum+
    min 15 (evidence.length-c.globalUnique.length))
  { score := overallScore, status := scoreStatus overallScore, signals := evidence.length
    affectedDevices := c.byDevice.length
    highConfidence := evidence.countP fun row => row.confidence=some "high"
    mediumConfidence := evidence.countP fun row => row.confidence=some "medium"
    lowConfidence := evidence.countP fun row => row.confidence=some "low"
    devices := devices.insertionSort fun a b =>
      b.score<a.score ∨ a.score=b.score ∧ ¬ b.clientIp<a.clientIp }

end Summary

section Posture

/-- No device scores above the household, and none has a worse status. -/
def Dominates (summary : BypassSummary) : Prop :=
  ∀ d ∈ summary.devices, d.score ≤ summary.score ∧ d.status.rank ≤ summary.status.rank

def Bounded (summary : BypassSummary) : Prop :=
  summary.score ≤ 100 ∧ ∀ d ∈ summary.devices, d.score ≤ 100

/-- No score of a summary is above the score of the same subject in another one. -/
def Below (summary other : BypassSummary) : Prop :=
  summary.score ≤ other.score ∧
    ∀ d ∈ summary.devices, ∃ e ∈ other.devices, e.clientIp=d.clientIp ∧ d.score ≤ e.score

/-- The household's posture over some evidence is fair: it dominates its devices, its scores are
bounded, more evidence lowers none and the order of the evidence does not matter. -/
structure FairPosture (evidence : List Signal) : Prop where
  dominates : Dominates (summarizeBypassEvidence evidence)
  bounded : Bounded (summarizeBypassEvidence evidence)
  monotone : ∀ more : List Signal, evidence.Subperm more →
    Below (summarizeBypassEvidence evidence) (summarizeBypassEvidence more)
  unordered : ∀ other : List Signal, other.Perm evidence →
    (summarizeBypassEvidence other).score=(summarizeBypassEvidence evidence).score ∧
    ∀ ip score, (∃ d ∈ (summarizeBypassEvidence other).devices, d.clientIp=ip ∧ d.score=score) ↔
      ∃ d ∈ (summarizeBypassEvidence evidence).devices, d.clientIp=ip ∧ d.score=score

/-- The rows of a device. -/
def rowsOf (ip : String) (evidence : List Signal) : List Signal :=
  evidence.filter fun row => row.ip=ip

/-- The signals of the household, each under its device and its key. -/
def entries (evidence : List Signal) : List ((String × String) × ℕ) :=
  evidence.map fun row => ((row.ip,row.name),row.points)

/-- The weights of the signals seen at other devices. -/
def elsewhere (ip : String) (evidence : List Signal) : ℕ :=
  height (entries (evidence.filter fun row => row.ip≠ip))

/-- The weights of all signals and the bonus for the rows that repeat one. -/
def household (evidence : List Signal) : ℕ :=
  height (entries evidence)+min 15 (repeats (entries evidence))

end Posture

section Scores
variable (ip : String) (evidence : List Signal)

/-- The signals of a device, under their keys. -/
def ownEntries : List (String × ℕ) := (rowsOf ip evidence).map fun row => (row.name,row.points)

/-- The bonus of a device for its rows after the first. -/
def recurrence : ℕ := min 10 (((rowsOf ip evidence).length-1)*2)

def deviceScore : ℕ := min 100 (height (ownEntries ip evidence)+recurrence ip evidence)

lemma collected_unique :
    Records (evidence.foldl Collected.add {}).globalUnique (entries evidence) := by
  induction evidence using List.reverseRecOn with
  | nil => exact ⟨List.nodup_nil,rfl,fun _ => rfl⟩
  | append_singleton evidence row ih =>
    rw [List.foldl_append,entries,List.map_append]
    exact ih.append ((row.ip,row.name),row.points)

/-- The household's score counts each signal of a device once, and the rows that repeat one. -/
lemma score_summarize : (summarizeBypassEvidence evidence).score=min 100 (household evidence) := by
  have hunique := collected_unique evidence
  have hlength : (entries evidence).length=evidence.length := by simp [entries]
  unfold summarizeBypassEvidence household repeats
  simp only [hunique.sum,hunique.length,hlength]

lemma collected_nodup :
    ((evidence.foldl Collected.add {}).byDevice.map DeviceBucket.clientIp).Nodup := by
  induction evidence using List.reverseRecOn with
  | nil => exact List.nodup_nil
  | append_singleton evidence row ih =>
    rw [List.foldl_append]
    exact Rows.nodup_put ih

/-- What the loop has collected for a device. -/
def bucketOf : DeviceBucket := (rowsOf ip evidence).foldl DeviceBucket.add { clientIp := ip }

lemma bucketOf_append (row : Signal) :
    bucketOf ip (evidence ++ [row])=
      if row.ip=ip then (bucketOf ip evidence).add row else bucketOf ip evidence := by
  unfold bucketOf rowsOf
  split_ifs with hrow <;> simp [hrow]

lemma bucketOf_clientIp : (bucketOf ip evidence).clientIp=ip := by
  induction evidence using List.reverseRecOn with
  | nil => rfl
  | append_singleton evidence row ih =>
    rw [bucketOf_append]
    split_ifs
    · exact ih
    · exact ih

lemma row_collected (evidence : List Signal) : ∀ ip,
    Rows.row DeviceBucket.clientIp ip (evidence.foldl Collected.add {}).byDevice=
      if rowsOf ip evidence=[] then none else some (bucketOf ip evidence) := by
  induction evidence using List.reverseRecOn with
  | nil => exact fun _ => rfl
  | append_singleton evidence row ih =>
    intro ip
    have hbucket : (Rows.row DeviceBucket.clientIp row.ip
        (evidence.foldl Collected.add {}).byDevice).getD { clientIp := row.ip }=
          bucketOf row.ip evidence := by
      rw [ih row.ip]
      split_ifs with hnone
      · rw [bucketOf,hnone]
        rfl
      · rfl
    have hkey : ((bucketOf row.ip evidence).add row).clientIp=row.ip :=
      bucketOf_clientIp row.ip evidence
    rw [List.foldl_append,bucketOf_append]
    change Rows.row _ ip (Rows.put DeviceBucket.clientIp _ _)=_
    rw [hbucket,Rows.row_put,hkey]
    have hrows : rowsOf ip (evidence ++ [row])=
        if row.ip=ip then rowsOf ip evidence ++ [row] else rowsOf ip evidence := by
      unfold rowsOf
      split_ifs with hrow <;> simp [hrow]
    rw [hrows]
    by_cases hrow : row.ip=ip
    · subst hrow
      simp
    · simp only [if_neg hrow]
      exact ih ip

/-- The devices of the summary are the clients of the evidence, each with its own rows. -/
lemma mem_devices {d : AffectedDevice} :
    d ∈ (summarizeBypassEvidence evidence).devices ↔
      ∃ ip, rowsOf ip evidence≠[] ∧ d=(bucketOf ip evidence).scored := by
  unfold summarizeBypassEvidence
  rw [List.mem_insertionSort,List.mem_map]
  constructor
  · rintro ⟨bucket,hbucket,rfl⟩
    have hrow := Rows.row_of_mem (collected_nodup evidence) hbucket
    rw [row_collected] at hrow
    split_ifs at hrow with hnone
    refine ⟨bucket.clientIp,hnone,?_⟩
    rw [Option.some.inj hrow]
  · rintro ⟨ip,hsome,rfl⟩
    have hrow := row_collected evidence ip
    rw [if_neg hsome] at hrow
    exact ⟨_,(Rows.row_some hrow).1,rfl⟩

lemma bucketOf_unique : Records (bucketOf ip evidence).unique (ownEntries ip evidence) := by
  unfold bucketOf ownEntries
  induction rowsOf ip evidence using List.reverseRecOn with
  | nil => exact ⟨List.nodup_nil,rfl,fun _ => rfl⟩
  | append_singleton rows row ih =>
    rw [List.foldl_append,List.map_append]
    exact ih.append (row.name,row.points)

lemma bucketOf_signals : (bucketOf ip evidence).signals=(rowsOf ip evidence).length := by
  unfold bucketOf
  induction rowsOf ip evidence using List.reverseRecOn with
  | nil => rfl
  | append_singleton rows row ih =>
    rw [List.foldl_append,List.length_append]
    exact congrArg (·+1) ih

lemma scored_score : (bucketOf ip evidence).scored.score=deviceScore ip evidence := by
  unfold DeviceBucket.scored deviceScore recurrence
  rw [← bucketOf_signals,← (bucketOf_unique ip evidence).sum]

lemma scored_clientIp : (bucketOf ip evidence).scored.clientIp=ip := bucketOf_clientIp ip evidence

/-- A score of the summary is the score of a client of the evidence. -/
lemma exists_device {score : ℕ} :
    (∃ d ∈ (summarizeBypassEvidence evidence).devices, d.clientIp=ip ∧ d.score=score) ↔
      rowsOf ip evidence≠[] ∧ deviceScore ip evidence=score := by
  constructor
  · rintro ⟨d,hd,hip,hscore⟩
    obtain ⟨jp,hsome,rfl⟩ := (mem_devices evidence).mp hd
    rw [scored_clientIp] at hip
    subst hip
    exact ⟨hsome,(scored_score jp evidence).symm.trans hscore⟩
  · rintro ⟨hsome,hscore⟩
    exact ⟨_,(mem_devices evidence).mpr ⟨ip,hsome,rfl⟩,scored_clientIp ip evidence,
      (scored_score ip evidence).trans hscore⟩

end Scores

section Fairness
variable {evidence more : List Signal}

lemma scoreStatus_mono {a b : ℕ} (h : a ≤ b) : (scoreStatus a).rank ≤ (scoreStatus b).rank := by
  unfold scoreStatus
  split_ifs <;> first | omega | simp [ScoreStatus.rank]

lemma subperm_map {α : Type} (f : Signal → α) (h : evidence.Subperm more) :
    (evidence.map f).Subperm (more.map f) := by
  obtain ⟨same,hsame,hsub⟩ := h
  exact ⟨same.map f,hsame.map f,hsub.map f⟩

/-- More evidence does not lower the household's score. -/
lemma household_mono (h : evidence.Subperm more) : household evidence ≤ household more := by
  have hentries : (entries evidence).Subperm (entries more) := subperm_map _ h
  exact Nat.add_le_add (height_mono hentries.subset)
    (min_le_min_left 15 (repeats_mono hentries))

lemma rowsOf_subperm (h : evidence.Subperm more) (ip : String) :
    (rowsOf ip evidence).Subperm (rowsOf ip more) := h.filter _

/-- More evidence lowers the score of no device. -/
lemma deviceScore_mono (h : evidence.Subperm more) (ip : String) :
    deviceScore ip evidence ≤ deviceScore ip more := by
  have hrows := rowsOf_subperm h ip
  have hheight : height (ownEntries ip evidence) ≤ height (ownEntries ip more) :=
    height_mono (subperm_map _ hrows).subset
  have hlength := hrows.length_le
  have hrecurrence : recurrence ip evidence ≤ recurrence ip more := by
    unfold recurrence
    omega
  exact min_le_min_left 100 (Nat.add_le_add hheight hrecurrence)

lemma below_of_subperm (h : evidence.Subperm more) :
    Below (summarizeBypassEvidence evidence) (summarizeBypassEvidence more) := by
  constructor
  · rw [score_summarize,score_summarize]
    exact min_le_min_left 100 (household_mono h)
  · intro d hd
    obtain ⟨ip,hsome,rfl⟩ := (mem_devices evidence).mp hd
    have hmore : rowsOf ip more≠[] := by
      intro hnone
      have hsub := (rowsOf_subperm h ip).subset
      rw [hnone] at hsub
      exact hsome (List.eq_nil_iff_forall_not_mem.mpr fun row hrow => by simpa using hsub hrow)
    obtain ⟨e,he,hip,hscore⟩ := (exists_device ip more).mpr ⟨hmore,rfl⟩
    refine ⟨e,he,hip.trans (scored_clientIp ip evidence).symm,?_⟩
    rw [hscore,scored_score]
    exact deviceScore_mono h ip

lemma bounded_summarize : Bounded (summarizeBypassEvidence evidence) := by
  constructor
  · rw [score_summarize]
    exact min_le_left 100 _
  · intro d hd
    obtain ⟨ip,_,rfl⟩ := (mem_devices evidence).mp hd
    rw [scored_score]
    exact min_le_left 100 _

/-- A device's weights and those seen elsewhere are the household's. -/
lemma height_entries (ip : String) (evidence : List Signal) :
    height (entries evidence)=height (ownEntries ip evidence)+elsewhere ip evidence := by
  have hown : (entries evidence).filter (fun e => decide (e.1.1=ip))=
      entries (rowsOf ip evidence) := by
    rw [entries,List.filter_map]
    rfl
  have hothers : (entries evidence).filter (fun e => !decide (e.1.1=ip))=
      entries (evidence.filter fun row => row.ip≠ip) := by
    rw [entries,List.filter_map]
    simp [entries,Function.comp_def]
  rw [height_split (fun k : String × String => decide (k.1=ip)),hown,hothers,elsewhere]
  congr 1
  have hmap : ownEntries ip evidence=(entries (rowsOf ip evidence)).map fun e => (e.1.2,e.2) := by
    simp [ownEntries,entries]
  rw [hmap,height_map fun k : String × String => k.2]
  have hip : ∀ e ∈ entries (rowsOf ip evidence), e.1.1=ip := by
    intro e he
    obtain ⟨row,hrow,rfl⟩ := List.mem_map.mp he
    exact of_decide_eq_true (List.mem_filter.mp hrow).2
  exact fun d hd e he hkey => Prod.ext ((hip d hd).trans (hip e he).symm) hkey

/-- The bonus of every device for its rows after the first is covered by the weights of the
signals of other devices and the household's bonus for repeated rows, or the household's score is
at its limit. -/
def BonusCovered (evidence : List Signal) : Prop :=
  100 ≤ household evidence ∨ ∀ row ∈ evidence,
    recurrence row.ip evidence ≤ elsewhere row.ip evidence+min 15 (repeats (entries evidence))

lemma deviceScore_le_iff (ip : String) :
    deviceScore ip evidence ≤ min 100 (household evidence) ↔
      100 ≤ household evidence ∨
        recurrence ip evidence ≤ elsewhere ip evidence+min 15 (repeats (entries evidence)) := by
  have hsplit := height_entries ip evidence
  have hbonus : recurrence ip evidence ≤ 10 := min_le_left 10 _
  unfold deviceScore household
  rw [hsplit]
  omega

lemma dominates_iff : Dominates (summarizeBypassEvidence evidence) ↔ BonusCovered evidence := by
  have hdevices : Dominates (summarizeBypassEvidence evidence) ↔
      ∀ ip, rowsOf ip evidence≠[] → deviceScore ip evidence ≤ min 100 (household evidence) := by
    rw [← score_summarize]
    constructor
    · intro h ip hsome
      obtain ⟨d,hd,_,hscore⟩ := (exists_device ip evidence).mpr ⟨hsome,rfl⟩
      exact hscore ▸ (h d hd).1
    · intro h d hd
      obtain ⟨ip,hsome,rfl⟩ := (mem_devices evidence).mp hd
      have hscore := (scored_score ip evidence).trans_le (h ip hsome)
      exact ⟨hscore,scoreStatus_mono hscore⟩
  rw [hdevices]
  constructor
  · intro h
    by_cases hfull : 100 ≤ household evidence
    · exact Or.inl hfull
    · refine Or.inr fun row hrow => ?_
      have hsome : rowsOf row.ip evidence≠[] :=
        List.ne_nil_of_mem (List.mem_filter.mpr ⟨hrow,decide_eq_true rfl⟩)
      exact ((deviceScore_le_iff row.ip).mp (h row.ip hsome)).resolve_left hfull
  · rintro h ip hsome
    obtain ⟨row,hrow⟩ := List.exists_mem_of_ne_nil _ hsome
    obtain ⟨hrow,hip⟩ := List.mem_filter.mp hrow
    exact (deviceScore_le_iff ip).mpr (h.imp_right fun h => of_decide_eq_true hip ▸ h row hrow)

/-- The household's posture is fair exactly where the bonus that a device gets for its rows is
covered: bounds, growth and order always hold, the rest is what a device with several different
signals can break. -/
theorem fairPosture_iff (evidence : List Signal) :
    FairPosture evidence ↔ BonusCovered evidence := by
  refine ⟨fun h => dominates_iff.mp h.dominates,fun h => ?_⟩
  refine ⟨dominates_iff.mpr h,bounded_summarize,fun more => below_of_subperm,fun other hperm => ?_⟩
  have hsame : ∀ ip, deviceScore ip other=deviceScore ip evidence := fun ip =>
    le_antisymm (deviceScore_mono hperm.subperm ip) (deviceScore_mono hperm.symm.subperm ip)
  refine ⟨?_,fun ip score => ?_⟩
  · rw [score_summarize,score_summarize,
      le_antisymm (household_mono hperm.subperm) (household_mono hperm.symm.subperm)]
  · have hrows : (rowsOf ip other).Perm (rowsOf ip evidence) := hperm.filter _
    rw [exists_device,exists_device,hsame,Ne,Ne,← List.length_eq_zero_iff,hrows.length_eq,
      List.length_eq_zero_iff]

/-- One flow to an Internet resolver and one to a common proxy port, of the same tablet. -/
def tabletEvidence : List Signal :=
  [{ clientIp := some "192.168.88.20", key := some "external_dns", weight := some 16 },
    { clientIp := some "192.168.88.20", key := some "http_proxy", weight := some 2 }]

/-- The tablet is elevated, the household that consists of it is only to be watched. -/
theorem tablet_above_household : ¬∀ evidence, FairPosture evidence := by
  intro h
  have htablet : ∃ d ∈ (summarizeBypassEvidence tabletEvidence).devices,
      (summarizeBypassEvidence tabletEvidence).score<d.score := by decide
  obtain ⟨d,hd,habove⟩ := htablet
  exact absurd ((h tabletEvidence).dominates d hd).1 (Nat.not_le.mpr habove)

end Fairness
end ZenControl.Telemetry
