import ZenControl.PolicyHistory.Cuts

/-! The traffic of a correlation report. Its intervals are the pieces of the window, and each byte
of the window is counted in the one that its bucket lies in; the report is there unless the
pieces are too many or too long or a piece has lost bytes. -/
namespace ZenControl.PolicyHistory
open Cuttings Rows Telemetry

section Bytes
variable {db : FlowDb} {client : String} {start stop managedSince : ℤ} {changes : List ℤ}
  {cuts : Finset ℤ} {is : List PolicyInterval}

/-- The bytes of a client in the buckets of an interval. -/
def clientBytes (db : FlowDb) (client : String) (first last : ℤ) : ℤ :=
  bytesWhere db (inDay client first last)

/-- The buckets of a window that are counted for the current identity. -/
def identityBuckets (client : String) (start stop managedSince : ℤ) (key : BucketKey) : Bool :=
  inDay client start stop key && managedSince ≤ key.1

/-- A flow falls into a bucket that begins before it. -/
lemma identityBuckets_row {row : FlowRow}
    (h : identityBuckets client start stop managedSince row.bucketKey=true) :
    managedSince ≤ row.eventTime := by
  have hbucket : managedSince ≤ bucket5 row.eventTime :=
    of_decide_eq_true (Bool.and_eq_true_iff.mp h).2
  unfold bucket5 bucketWidth at hbucket
  omega

variable (db client) in
/-- The bytes of a window are those of its pieces. -/
lemma CutUp.sum_bytes (h : CutUp start stop managedSince cuts is) (p : BucketKey → Bool) :
    (is.map fun i => bytesWhere db fun key => inDay client i.start i.stop key && p key).sum=
      bytesWhere db fun key => inDay client start stop key && p key := by
  have hweight (first last : ℤ) :
      bytesWhere db (fun key => inDay client first last key && p key)=
        weightIn (fun e : BucketKey × Totals => e.1.1) (fun e => e.2.bytes)
          (db.flow5m.filter fun e => e.1.2.1=client && p e.1) first last := by
    unfold bytesWhere weightIn inDay
    rw [List.filter_filter]
    refine congrArg List.sum (congrArg (List.map _) (List.filter_congr fun e _ => ?_))
    rw [Bool.eq_iff_iff]
    simp only [Bool.and_eq_true]
    tauto
  have hsum := sum_pieces (fun e : BucketKey × Totals => e.1.1) (fun e => e.2.bytes)
    (db.flow5m.filter fun e => e.1.2.1=client && p e.1) h.increasing
  rw [← h.spans,List.map_map,h.head] at hsum
  simp only [hweight]
  exact hsum

variable (db client) in
lemma CutUp.sum_clientBytes (h : CutUp start stop managedSince cuts is) :
    (is.map fun i => clientBytes db client i.start i.stop).sum=clientBytes db client start stop := by
  have hsum := h.sum_bytes db client fun _ => true
  simp only [Bool.and_true] at hsum
  exact hsum

/-- No interval reaches over the start of the identity. -/
lemma CutUp.whole
    (h : CutUp start stop managedSince (reportCuts start stop managedSince changes) is)
    (hwindow : start < stop) : ∀ i ∈ is, i.start < managedSince → i.stop ≤ managedSince := by
  refine (h.forall_iff fun a b => a < managedSince → b ≤ managedSince).mp fun a b hpair ha => ?_
  have hstart : start ≤ a := by
    rcases mem_reportCuts.mp hpair.first with heq | ⟨-,-,hlt,-⟩
    · exact heq.ge
    · exact hlt.le
  have hstop : b ≤ stop := by
    rcases hpair.last with hb | heq
    · rcases mem_reportCuts.mp hb with heq | ⟨-,-,-,hlt⟩
      · exact heq.le.trans hwindow.le
      · exact hlt.le
    · exact heq.le
  rcases lt_or_ge managedSince stop with hlt | hle
  · have hcut : managedSince ∈ reportCuts start stop managedSince changes :=
      mem_reportCuts.mpr (.inr ⟨.inl rfl,le_refl _,hstart.trans_lt ha,hlt⟩)
    exact (hpair.apart managedSince hcut).resolve_left (not_le.mpr ha)
  · exact hstop.trans hle

variable (db client) in
/-- The intervals with a known identity hold its buckets. -/
lemma CutUp.sum_identity
    (h : CutUp start stop managedSince (reportCuts start stop managedSince changes) is)
    (hwindow : start < stop) :
    (is.map fun i => if i.identityKnown then clientBytes db client i.start i.stop else 0).sum=
      bytesWhere db (identityBuckets client start stop managedSince) := by
  rw [show identityBuckets client start stop managedSince=
    fun key => inDay client start stop key && decide (managedSince ≤ key.1) from rfl,
    ← h.sum_bytes db client fun key => managedSince ≤ key.1]
  refine congrArg List.sum (List.map_congr_left fun i hi => ?_)
  have hwhole := h.whole hwindow i hi
  unfold clientBytes bytesWhere inDay
  split_ifs with hknown
  · have hsince := (h.identity i hi).mp hknown
    refine congrArg List.sum (congrArg (List.map _) (List.filter_congr fun e _ => ?_))
    rw [Bool.eq_iff_iff]
    simp only [Bool.and_eq_true,decide_eq_true_eq]
    exact ⟨fun hin => ⟨hin,hsince.trans hin.2.1⟩,And.left⟩
  · have hbefore := hwhole (not_le.mp fun hle => hknown ((h.identity i hi).mpr hle))
    rw [List.filter_eq_nil_iff.mpr]
    · rfl
    · intro e _
      simp only [Bool.and_eq_true,decide_eq_true_eq]
      omega

/-- Sums with and without the terms below zero agree where there are none. -/
lemma sum_max_eq_iff (xs : List ℤ) :
    (xs.map (max 0)).sum=xs.sum ↔ ∀ x ∈ xs, 0 ≤ x := by
  have hle : ∀ xs : List ℤ, xs.sum ≤ (xs.map (max 0)).sum := by
    intro xs
    induction xs with
    | nil => exact le_refl _
    | cons x xs ih =>
      rw [List.map_cons,List.sum_cons,List.sum_cons]
      omega
  induction xs with
  | nil => simp
  | cons x xs ih =>
    have hrest := hle xs
    rw [List.map_cons,List.sum_cons,List.sum_cons,List.forall_mem_cons]
    constructor
    · intro hsum
      exact ⟨by omega,ih.mp (by omega)⟩
    · rintro ⟨hx,hxs⟩
      have hsum := ih.mpr hxs
      omega

end Bytes

section Usage
variable {rt : Runtime} {ipAddress : String → Option String} {db : FlowDb} {rows : List DnsRow}
  {client : String} {is : List PolicyInterval}

lemma validateRange_ok_iff {start stop : ℤ} (h : start < stop) :
    validateRange start stop=.ok () ↔ stop-start ≤ 32*dayUs := by
  unfold validateRange
  rw [if_neg (not_le.mpr h)]
  split_ifs with hlong
  · exact iff_of_false nofun (not_le.mpr hlong)
  · exact iff_of_true rfl (not_lt.mp hlong)

/-- A loop of checks passes when each of them does. -/
lemma forM_ok_iff {α : Type} {check : α → Py Unit} (xs : List α) :
    xs.forM check=.ok () ↔ ∀ x ∈ xs, check x=.ok () := by
  induction xs with
  | nil => exact iff_of_true rfl fun x hx => absurd hx List.not_mem_nil
  | cons x xs ih =>
    rw [List.forall_mem_cons,← ih]
    constructor
    · intro hall
      obtain ⟨_,hfirst,hrest⟩ := bind_ok (f:=fun _ => xs.forM check) hall
      exact ⟨hfirst,hrest⟩
    · rintro ⟨hfirst,hrest⟩
      change (check x >>= fun _ => xs.forM check)=_
      rw [hfirst]
      exact hrest

variable (rt db rows client is) in
/-- What the two queries yield for the intervals. -/
def usages : List IntervalUsage :=
  is.zipIdx.map fun e => intervalUsage rt e.2 (some (trafficRow db client e.1.start e.1.stop))
    (some (dnsRow rows client e.1.start e.1.stop))

/-- The usage of intervals that are neither too long nor too many. -/
lemma policyIntervalUsage_eq_ok (hip : (ipAddress client).isSome)
    (hlt : ∀ i ∈ is, i.start < i.stop) (hne : is≠[]) (usage : List IntervalUsage) :
    policyIntervalUsage rt ipAddress (.ok db) (.ok rows) client is=.ok usage ↔
      ((∀ i ∈ is, i.stop-i.start ≤ 32*dayUs) ∧ is.length ≤ 800) ∧
        usages rt db rows client is=usage := by
  have hempty : is.isEmpty=false := by
    cases is with
    | nil => exact absurd rfl hne
    | cons i is => rfl
  have hshort : (∀ i ∈ is, i.stop-i.start ≤ 32*dayUs) ↔
      (is.forM fun i => validateRange i.start i.stop)=.ok () := by
    rw [forM_ok_iff]
    exact forall₂_congr fun i hi => (validateRange_ok_iff (hlt i hi)).symm
  rw [hshort]
  unfold policyIntervalUsage usages
  simp only [Option.isNone_eq_false_iff.mpr hip,hempty]
  cases is.forM fun i => validateRange i.start i.stop with
  | error e => exact iff_of_false nofun fun hall => absurd hall.1.1 nofun
  | ok u =>
    change (if 800 < is.length then _ else _)=_ ↔ _
    split_ifs with hmany
    · exact iff_of_false nofun fun hall => absurd hall.1.2 (not_le.mpr hmany)
    · exact ⟨fun h => ⟨⟨rfl,not_lt.mp hmany⟩,Except.ok.inj h⟩,fun h => congrArg Except.ok h.2⟩

/-- The bytes that the report takes for an interval are those that the query found in it, and
none where they are below zero. -/
lemma bytesOf_usages {e : PolicyInterval × ℕ} (he : e ∈ is.zipIdx) :
    bytesOf (usageAt (usages rt db rows client is) e.2)=
      max 0 (clientBytes db client e.1.start e.1.stop) := by
  have hmem : intervalUsage rt e.2 (some (trafficRow db client e.1.start e.1.stop))
      (some (dnsRow rows client e.1.start e.1.stop)) ∈
        (usages rt db rows client is).filter fun u => u.index=e.2 :=
    List.mem_filter.mpr ⟨List.mem_map_of_mem he,decide_eq_true rfl⟩
  have hlast := List.getLast?_eq_some_getLast (List.ne_nil_of_mem hmem)
  unfold usageAt
  rw [hlast]
  obtain ⟨hlisted,hindex⟩ := List.mem_filter.mp (List.getLast_mem (List.ne_nil_of_mem hmem))
  obtain ⟨f,hf,heq⟩ := List.mem_map.mp hlisted
  rw [← heq] at hindex ⊢
  -- only one interval has the index
  have hsame : f=e := by
    have hat := List.mem_zipIdx_iff_getElem?.mp hf
    rw [show f.2=e.2 from of_decide_eq_true hindex,List.mem_zipIdx_iff_getElem?.mp he] at hat
    exact Prod.ext (Option.some.inj hat).symm (of_decide_eq_true hindex)
  rw [hsame]
  rfl

/-- Over all intervals the report takes the bytes of those with any. -/
lemma sum_usages (counted : PolicyInterval → Bool) :
    (is.zipIdx.map fun e => if counted e.1 then bytesOf (usageAt (usages rt db rows client is) e.2)
      else 0).sum=
      (is.map fun i => if counted i then max 0 (clientBytes db client i.start i.stop) else 0).sum := by
  have hfst : is.zipIdx.map Prod.fst=is := List.zipIdx_map_fst 0 is
  have hall : (is.zipIdx.map fun e =>
      if counted e.1 then bytesOf (usageAt (usages rt db rows client is) e.2) else 0)=
      (is.zipIdx.map Prod.fst).map fun i =>
        if counted i then max 0 (clientBytes db client i.start i.stop) else 0 := by
    rw [List.map_map]
    refine List.map_congr_left fun e he => ?_
    rw [bytesOf_usages he]
    rfl
  rw [hall,hfst]

end Usage

section Tallies
variable {rt : Runtime} {rounding : Rounding} {deviceIp deviceName timezoneName : String}
  {identity : ManagedIdentity} {usage : List IntervalUsage} {t : Tally}

lemma ModeBytes.sum_add (m : ModeBytes) (mode : String) (bytes : ℤ) :
    (m.add mode bytes).sum=m.sum+bytes := by
  unfold ModeBytes.add ModeBytes.sum
  split_ifs <;> dsimp only <;> omega

/-- All bytes so far are counted under a mode, and for an identity or for none. -/
structure Tally.Balanced (t : Tally) : Prop where
  modes : t.totalBytes=t.modeBytes.sum
  identities : t.totalBytes=t.currentIdentityBytes+t.identityUnprovenBytes

lemma Tally.Balanced.count (h : t.Balanced) (i : PolicyInterval) (evidence : Option IntervalUsage)
    (reported : ReportedInterval) : (t.count rt i evidence reported).Balanced where
  modes := by
    unfold Tally.count
    rw [ModeBytes.sum_add,← h.modes]
  identities := by
    have hidentities := h.identities
    unfold Tally.count
    dsimp only
    split_ifs <;> omega

lemma localText_ok (h : timezoneName≠"") (instant : ℤ) :
    ∃ text, localText rt timezoneName instant=.ok text := ⟨_,if_neg h⟩

lemma Tally.add_ok (h : timezoneName≠"") (t : Tally) (e : PolicyInterval × ℕ) :
    ∃ reported, t.add rt rounding deviceIp deviceName timezoneName identity usage e=
      .ok (t.count rt e.1 (usageAt usage e.2) reported) := by
  obtain ⟨start,hstart⟩ := @localText_ok rt _ h e.1.start
  obtain ⟨stop,hstop⟩ := @localText_ok rt _ h e.1.stop
  unfold Tally.add
  rw [hstart,hstop]
  exact ⟨_,rfl⟩

/-- The loop over the intervals counts the bytes of each. -/
lemma Tally.run (hzone : timezoneName≠"") (es : List (PolicyInterval × ℕ)) (h : t.Balanced) :
    ∃ t' : Tally, es.foldlM
        (Tally.add rt rounding deviceIp deviceName timezoneName identity usage) t=.ok t' ∧
      t'.Balanced ∧
      t'.totalBytes=t.totalBytes+(es.map fun e => bytesOf (usageAt usage e.2)).sum ∧
      t'.currentIdentityBytes=t.currentIdentityBytes+
        (es.map fun e => if e.1.identityKnown then bytesOf (usageAt usage e.2) else 0).sum := by
  induction es generalizing t with
  | nil => exact ⟨t,rfl,h,by simp,by simp⟩
  | cons e es ih =>
    obtain ⟨reported,hadd⟩ := @Tally.add_ok rt rounding deviceIp deviceName timezoneName identity
      usage hzone t e
    obtain ⟨t',hrun,hbalanced,htotal,hcurrent⟩ := ih
      (@Tally.Balanced.count rt t h e.1 (usageAt usage e.2) reported)
    refine ⟨t',?_,hbalanced,?_,?_⟩
    · rw [List.foldlM_cons,hadd]
      exact hrun
    · rw [htotal,List.map_cons,List.sum_cons,← add_assoc]
      rfl
    · rw [hcurrent,List.map_cons,List.sum_cons,← add_assoc]
      rfl

/-- Without the name of a timezone no interval is reported. -/
lemma Tally.run_unnamed (es : List (PolicyInterval × ℕ)) (hne : es≠[]) (t t' : Tally) :
    es.foldlM (Tally.add rt rounding deviceIp deviceName "" identity usage) t≠.ok t' := by
  cases es with
  | nil => exact absurd rfl hne
  | cons e es =>
    rw [List.foldlM_cons]
    exact nofun

end Tallies

section Reports
variable {rt : Runtime} {rounding : Rounding} {deviceIp deviceName timezoneName : String}
  {identity : ManagedIdentity} {usage : List IntervalUsage} {status : IngestStatus}
  {history : List (ℕ × Checkpoint)} {start stop : ℤ} {is : List PolicyInterval}

/-- The report filters a listing of the identity once more, which changes nothing. -/
lemma buildPolicyCorrelationReport_listed
    (hhistory : ∀ r ∈ history, r.2.identityId=identity.identityId) :
    (if identity.identityId="" then history
      else history.filter fun r => r.2.identityId=identity.identityId)=history := by
  split_ifs
  · rfl
  · exact List.filter_eq_self.mpr fun r hr => decide_eq_true (hhistory r hr)

/-- The sums of a report over the intervals of its history. -/
lemma buildPolicyCorrelationReport_ok (hzone : timezoneName≠"")
    (hhistory : ∀ r ∈ history, r.2.identityId=identity.identityId)
    (his : buildPolicyIntervals history start stop (some identity.managedSince)=.ok is) :
    ∃ report, buildPolicyCorrelationReport rt rounding deviceIp deviceName history usage start stop
        timezoneName identity status=.ok report ∧
      report.totalBytes=report.modeBytes.sum ∧
      report.totalBytes=report.currentIdentityBytes+report.identityUnprovenBytes ∧
      report.totalBytes=(is.zipIdx.map fun e => bytesOf (usageAt usage e.2)).sum ∧
      report.currentIdentityBytes=(is.zipIdx.map fun e =>
        if e.1.identityKnown then bytesOf (usageAt usage e.2) else 0).sum := by
  obtain ⟨tally,hrun,hbalanced,htotal,hcurrent⟩ := @Tally.run rt rounding deviceIp deviceName
    timezoneName identity usage {} hzone is.zipIdx ⟨rfl,rfl⟩
  unfold buildPolicyCorrelationReport
  dsimp only
  simp only [buildPolicyCorrelationReport_listed hhistory,his,bind,Except.bind,hrun]
  exact ⟨_,rfl,hbalanced.modes,hbalanced.identities,by simpa using htotal,by simpa using hcurrent⟩

lemma buildPolicyCorrelationReport_unnamed
    (hhistory : ∀ r ∈ history, r.2.identityId=identity.identityId)
    (his : buildPolicyIntervals history start stop (some identity.managedSince)=.ok is)
    (hne : is≠[]) (report : CorrelationReport) :
    buildPolicyCorrelationReport rt rounding deviceIp deviceName history usage start stop ""
      identity status≠.ok report := by
  intro hreport
  unfold buildPolicyCorrelationReport at hreport
  dsimp only at hreport
  rw [buildPolicyCorrelationReport_listed hhistory,his] at hreport
  obtain ⟨intervals,hintervals,hreport⟩ := bind_ok hreport
  obtain rfl := Except.ok.inj hintervals
  obtain ⟨tally,htally,-⟩ := bind_ok hreport
  exact Tally.run_unnamed is.zipIdx (by simpa using hne) {} tally htally

end Reports

section Availability
variable {rt : Runtime} {rounding : Rounding} {hasher : Hasher} {store : CorrelationStore}
  {db : FlowDb} {rows : List DnsRow} {status : IngestStatus} {now : ℤ}
  {client clientIp period start stop : String} {identity : ManagedIdentity}
  {window : ActivityWindow}

/-- A locally managed device with its identity; `ip_address` accepts no blanks around it. -/
structure CorrelationStore.Manages (store : CorrelationStore) (hasher : Hasher) (client : String)
    (identity : ManagedIdentity) : Prop where
  present : client≠""
  stripped : strip client=client
  address : (hasher.ipAddress client).isSome
  named : (store.names.lookup client).isSome
  identified : store.identities client=some identity

/-- The cuts of the report of a window. -/
def CorrelationStore.cuts (store : CorrelationStore) (client : String) (identity : ManagedIdentity)
    (window : ActivityWindow) : Finset ℤ :=
  reportCuts window.start window.stop identity.managedSince
    (listedChanges store.history client identity.identityId window.start window.stop)

/-- The traffic of the window is all in a report, once under a mode and once under an identity,
and what the identity is given happened after its start. -/
structure CorrelationReport.Conserves (report : CorrelationReport) (db : FlowDb) (client : String)
    (identity : ManagedIdentity) (window : ActivityWindow) : Prop where
  traffic : report.totalBytes=clientBytes db client window.start window.stop
  modes : report.totalBytes=report.modeBytes.sum
  identities : report.totalBytes=report.currentIdentityBytes+report.identityUnprovenBytes
  current : report.currentIdentityBytes=bytesWhere db
    (identityBuckets client window.start window.stop identity.managedSince)
  unmixed : ∀ row : FlowRow, identityBuckets client window.start window.stop
    identity.managedSince row.bucketKey=true → identity.managedSince ≤ row.eventTime

/-- The window is not empty, its timezone has a name, and the cuts make at most 800 pieces of it,
none of them longer than 32 days and none with fewer than no bytes. -/
structure CorrelationStore.Reportable (store : CorrelationStore) (db : FlowDb) (client : String)
    (identity : ManagedIdentity) (window : ActivityWindow) : Prop where
  zone : store.timezoneName≠""
  nonempty : window.start < window.stop
  few : (store.cuts client identity window).card ≤ 800
  short : ∀ a b, Neighbours (store.cuts client identity window : Set ℤ) window.stop a b →
    b-a ≤ 32*dayUs
  nonnegative : ∀ a b, Neighbours (store.cuts client identity window : Set ℤ) window.stop a b →
    0 ≤ clientBytes db client a b

/-- What the payload makes of a reportable window: the usage of the pieces between its cuts, summed
up. -/
structure Reported (rt : Runtime) (store : CorrelationStore) (db : FlowDb) (rows : List DnsRow)
    (client : String) (identity : ManagedIdentity) (window : ActivityWindow)
    (report : CorrelationReport) (is : List PolicyInterval) : Prop where
  zone : store.timezoneName≠""
  nonempty : window.start < window.stop
  cut : CutUp window.start window.stop identity.managedSince
    (store.cuts client identity window) is
  few : is.length ≤ 800
  short : ∀ i ∈ is, i.stop-i.start ≤ 32*dayUs
  modes : report.totalBytes=report.modeBytes.sum
  identities : report.totalBytes=report.currentIdentityBytes+report.identityUnprovenBytes
  total : report.totalBytes=(is.zipIdx.map fun e =>
    bytesOf (usageAt (usages rt db rows client is) e.2)).sum
  current : report.currentIdentityBytes=(is.zipIdx.map fun e => if e.1.identityKnown then
    bytesOf (usageAt (usages rt db rows client is) e.2) else 0).sum

/-- A report conserves traffic when no interval has fewer than no bytes. -/
lemma Reported.conserves_iff {report : CorrelationReport} {is : List PolicyInterval}
    (h : Reported rt store db rows client identity window report is) :
    report.Conserves db client identity window ↔
      ∀ i ∈ is, 0 ≤ clientBytes db client i.start i.stop := by
  have hbytes := sum_max_eq_iff (is.map fun i => clientBytes db client i.start i.stop)
  rw [List.forall_mem_map,List.map_map,h.cut.sum_clientBytes db client] at hbytes
  rw [← hbytes]
  have hsum : report.totalBytes=
      (is.map (max 0 ∘ fun i => clientBytes db client i.start i.stop)).sum := by
    have husages := @sum_usages rt db rows client is fun _ => true
    simp only [if_true] at husages
    rw [h.total,husages]
    rfl
  constructor
  · intro hconserves
    rw [← hsum,hconserves.traffic]
  · intro hequal
    refine ⟨hsum.trans hequal,h.modes,h.identities,?_,fun row hrow => identityBuckets_row hrow⟩
    rw [← h.cut.sum_identity db client h.nonempty,h.current,sum_usages]
    refine congrArg List.sum (List.map_congr_left fun i hi => ?_)
    rw [max_eq_right (hbytes.mp hequal i hi)]

/-- Past its checks the payload is the listing, its intervals, their usage and the report. -/
lemma policyCorrelationPayload_managed {traffic : Except String FlowDb}
    {dns : Except String (List DnsRow)} (hclient : selectedDevice rt store.names clientIp=client)
    (hmanaged : store.Manages hasher client identity)
    (hwindow : resolveActivityWindow rt rounding now period store.timezoneName start stop=
      .ok window) :
    policyCorrelationPayload rt rounding hasher store traffic dns status now clientIp period start
        stop=(do
      let history ← listPolicyStateHistory hasher client (some window.start) (some window.stop)
        800 (some identity.identityId) store.history
      let intervals ← buildPolicyIntervals history window.start window.stop
        (some identity.managedSince)
      let usage ← policyIntervalUsage rt hasher.ipAddress traffic dns client intervals
      let report ← buildPolicyCorrelationReport rt rounding client
        (orElse ((store.names.lookup client).getD "") client) history usage window.start
        window.stop store.timezoneName identity status
      pure (report,window)) := by
  unfold policyCorrelationPayload
  simp only [hclient,hmanaged.present,Option.isNone_eq_false_iff.mpr hmanaged.address,
    Option.isNone_eq_false_iff.mpr hmanaged.named,hwindow,hmanaged.identified]
  rfl

/-- The payload answers exactly for windows that are not empty, with a named timezone and neither
too many nor too long pieces. -/
lemma payload_reported (hclient : selectedDevice rt store.names clientIp=client)
    (hmanaged : store.Manages hasher client identity)
    (hwindow : resolveActivityWindow rt rounding now period store.timezoneName start stop=
      .ok window) :
    (∀ report, policyCorrelationPayload rt rounding hasher store (.ok db) (.ok rows) status now
        clientIp period start stop=.ok (report,window) →
      ∃ is, Reported rt store db rows client identity window report is) ∧
    (store.timezoneName≠"" → window.start < window.stop →
      (store.cuts client identity window).card ≤ 800 →
      (∀ a b, Neighbours (store.cuts client identity window : Set ℤ) window.stop a b →
        b-a ≤ 32*dayUs) →
      ∃ report, policyCorrelationPayload rt rounding hasher store (.ok db) (.ok rows) status now
        clientIp period start stop=.ok (report,window)) := by
  rw [policyCorrelationPayload_managed hclient hmanaged hwindow]
  by_cases hnonempty : window.start < window.stop
  swap
  · refine ⟨fun report hreport => ?_,fun _ h => absurd h hnonempty⟩
    obtain ⟨history,-,hreport⟩ := bind_ok hreport
    obtain ⟨is,his,-⟩ := bind_ok hreport
    unfold buildPolicyIntervals at his
    rw [if_pos (not_lt.mp hnonempty)] at his
    cases his
  obtain ⟨history,hlist,hbelongs,hchanges⟩ := @list_changes store.history hasher client
    identity.identityId window.start window.stop hmanaged.address hmanaged.stripped
  obtain ⟨is,his,hcut⟩ := build_cutUp history hnonempty identity.managedSince
  rw [reportCuts_congr hchanges] at hcut
  have hne : is≠[] := by
    rintro rfl
    exact hnonempty.ne hcut.head.symm
  have husage := @policyIntervalUsage_eq_ok rt hasher.ipAddress db rows client is
    hmanaged.address hcut.lt hne
  have hsums (hzone : store.timezoneName≠"") := @buildPolicyCorrelationReport_ok rt rounding client
    (orElse ((store.names.lookup client).getD "") client) store.timezoneName identity
    (usages rt db rows client is) status history window.start window.stop is hzone hbelongs his
  simp only [hlist,his,bind,Except.bind]
  refine ⟨fun report hreport => ?_,fun hzone _ hfew hshort => ?_⟩
  · obtain ⟨usage,hquery,hreport⟩ := bind_ok hreport
    obtain ⟨⟨hshort,hfew⟩,rfl⟩ := (husage usage).mp hquery
    obtain ⟨report',hbuilt,hreport⟩ := bind_ok hreport
    obtain ⟨rfl,-⟩ := Prod.mk.inj (Except.ok.inj hreport)
    have hzone : store.timezoneName≠"" := by
      intro hname
      rw [hname] at hbuilt
      exact buildPolicyCorrelationReport_unnamed hbelongs his hne _ hbuilt
    obtain ⟨report,hreport,hmodes,hidentities,htotal,hcurrent⟩ := hsums hzone
    obtain rfl := Except.ok.inj (hbuilt.symm.trans hreport)
    exact ⟨is,hzone,hnonempty,hcut,hfew,hshort,hmodes,hidentities,htotal,hcurrent⟩
  · rw [(husage _).mpr ⟨⟨(hcut.forall_iff fun a b => b-a ≤ 32*dayUs).mp hshort,
      hcut.length_eq.trans_le hfew⟩,rfl⟩]
    obtain ⟨report,hreport,-⟩ := hsums hzone
    refine ⟨report,?_⟩
    dsimp only
    rw [hreport]
    rfl

/-- The payload answers and conserves traffic exactly for the windows that are reportable. -/
theorem payload_conserves_iff (hclient : selectedDevice rt store.names clientIp=client)
    (hmanaged : store.Manages hasher client identity)
    (hwindow : resolveActivityWindow rt rounding now period store.timezoneName start stop=
      .ok window) :
    (∃ report, policyCorrelationPayload rt rounding hasher store (.ok db) (.ok rows) status now
        clientIp period start stop=.ok (report,window) ∧
      report.Conserves db client identity window) ↔
    store.Reportable db client identity window := by
  obtain ⟨hreported,hanswers⟩ := @payload_reported rt rounding hasher store db rows status now
    client clientIp period start stop identity window hclient hmanaged hwindow
  constructor
  · rintro ⟨report,hreport,hconserves⟩
    obtain ⟨is,h⟩ := hreported report hreport
    exact ⟨h.zone,h.nonempty,h.cut.length_eq.symm.trans_le h.few,
      (h.cut.forall_iff fun a b => b-a ≤ 32*dayUs).mpr h.short,
      (h.cut.forall_iff fun a b => 0 ≤ clientBytes db client a b).mpr
        (h.conserves_iff.mp hconserves)⟩
  · intro hreportable
    obtain ⟨report,hreport⟩ := hanswers hreportable.zone hreportable.nonempty hreportable.few
      hreportable.short
    obtain ⟨is,h⟩ := hreported report hreport
    exact ⟨report,hreport,h.conserves_iff.mpr
      ((h.cut.forall_iff fun a b => 0 ≤ clientBytes db client a b).mp hreportable.nonnegative)⟩

end Availability

section Crowded

/-- Every change after the start of a window and of the identity is a cut. -/
lemma length_lt_card_cuts {start stop managedSince : ℤ} {changes : List ℤ} (hnodup : changes.Nodup)
    (hinside : ∀ t ∈ changes, managedSince ≤ t ∧ start < t ∧ t < stop) :
    changes.length < (reportCuts start stop managedSince changes).card := by
  have hstart : start ∉ changes.toFinset := fun hin =>
    lt_irrefl _ (hinside start (List.mem_toFinset.mp hin)).2.1
  have hsub : insert start changes.toFinset ⊆ reportCuts start stop managedSince changes := by
    intro t ht
    rw [mem_reportCuts]
    refine (Finset.mem_insert.mp ht).imp_right fun hin => ?_
    have hin := List.mem_toFinset.mp hin
    exact ⟨.inr hin,hinside t hin⟩
  have hcard := Finset.card_le_card hsub
  rwa [Finset.card_insert_of_notMem hstart,List.toFinset_card_of_nodup hnodup] at hcard

/-- A checkpoint of the tablet in each of `n` seconds. -/
def everySecond (second : ℤ) (n : ℕ) : Table Checkpoint where
  rows := (List.range n).map fun k : ℕ => (k,
    { capturedAt := second+k, ip := "192.168.88.20", stateHash := "", source := "scheduler"
      state := policyHistoryState {}, identityId := "tablet-1", deviceName := "Tablet" })
  last := n
  increasing := List.pairwise_map.mpr List.pairwise_lt_range
  bounded r hr := by
    obtain ⟨k,hk,rfl⟩ := List.mem_map.mp hr
    exact (List.mem_range.mp hk).le

/-- Midnight of a day, and its noon, at which the window of the day ends. -/
def midnight : ℤ := 738885*dayUs

def noon : ℤ := midnight+12*hourUs

/-- A household with one tablet, managed before the day begins. -/
def tabletStore (history : Table Checkpoint) : CorrelationStore where
  names := [("192.168.88.20","Tablet")]
  timezoneName := "UTC"
  identities _ := some { identityId := "tablet-1", managedSince := 0, currentName := "Tablet" }
  history := history

def plainRounding : Rounding := { hours := id, minutes := id, percent := fun part _ => part }

def anyAddress : Hasher := { ipAddress := some, sha256 := fun _ => "" }

def freshStatus : IngestStatus where
  availability := "available"
  dnsSource := "available"
  ipfixSource := "available"
  ageSeconds := some 10
  observedAt := none

lemma tabletStore_manages (history : Table Checkpoint) : (tabletStore history).Manages anyAddress
    "192.168.88.20" { identityId := "tablet-1", managedSince := 0, currentName := "Tablet" } where
  present := by decide
  stripped := by decide
  address := rfl
  named := rfl
  identified := rfl

lemma todayWindow (history : Table Checkpoint) : ∃ window, resolveActivityWindow
    asciiEnv.toRuntime plainRounding noon "today" (tabletStore history).timezoneName "" ""=
      .ok window ∧ window.start=midnight ∧ window.stop=noon := ⟨_,rfl,rfl,rfl⟩

lemma listedChanges_everySecond {second start stop : ℤ} {n : ℕ} (hn : n ≤ 800)
    (hfirst : instantSecond start < second) (hlast : second+n ≤ instantSecond stop) :
    listedChanges (everySecond second n) "192.168.88.20" "tablet-1" start stop=
      (List.range n).map fun k : ℕ => (second+k)*microsecond := by
  unfold listedChanges
  have hall : ((everySecond second n).select fun _ r =>
      r.belongs "192.168.88.20" (some "tablet-1") && (instantSecond start < r.capturedAt &&
        r.capturedAt < instantSecond stop))=(everySecond second n).rows := by
    refine List.filter_eq_self.mpr fun r hr => ?_
    obtain ⟨k,hk,rfl⟩ := List.mem_map.mp hr
    have hk := List.mem_range.mp hk
    simp only [Checkpoint.belongs,Option.all_some,decide_true,Bool.true_and,Bool.and_eq_true,
      decide_eq_true_eq]
    omega
  have hsorted : (everySecond second n).rows.Pairwise fun r r' => byInstant r r' := by
    refine List.pairwise_map.mpr (List.pairwise_lt_range.imp fun {k k'} hlt => ?_)
    simp [byInstant,hlt]
  have hlength : (everySecond second n).rows.length ≤ 800 := by
    rw [everySecond,List.length_map,List.length_range]
    exact hn
  rw [hall,List.mergeSort_of_pairwise hsorted,List.take_of_length_le hlength,everySecond,
    List.map_map]
  rfl

/-- A change in each of 800 seconds is listed whole and makes one piece too many. -/
theorem crowded_window_refused :
    let store := tabletStore (everySecond (738885*86400+1) 800)
    ∃ window, store.Manages anyAddress "192.168.88.20"
        { identityId := "tablet-1", managedSince := 0, currentName := "Tablet" } ∧
      resolveActivityWindow asciiEnv.toRuntime plainRounding noon "today" store.timezoneName "" ""=
        .ok window ∧
      ¬∃ report, policyCorrelationPayload asciiEnv.toRuntime plainRounding anyAddress store
        (.ok {}) (.ok []) freshStatus noon "192.168.88.20" "today" "" ""=.ok (report,window) := by
  intro store
  obtain ⟨window,hwindow,hstart,hstop⟩ := todayWindow (everySecond (738885*86400+1) 800)
  refine ⟨window,tabletStore_manages _,hwindow,?_⟩
  rintro ⟨report,hreport⟩
  have hselected : selectedDevice asciiEnv.toRuntime store.names "192.168.88.20"="192.168.88.20" :=
    rfl
  obtain ⟨is,h⟩ := (payload_reported hselected (tabletStore_manages _) hwindow).1 report hreport
  have hchanges := @listedChanges_everySecond (738885*86400+1) midnight noon 800 (le_refl _)
    (by decide) (by decide)
  have hinside : ∀ t ∈ (List.range 800).map fun k : ℕ => (738885*86400+1+(k : ℤ))*microsecond,
      0 ≤ t ∧ midnight < t ∧ t < noon := by
    intro t ht
    obtain ⟨k,hk,rfl⟩ := List.mem_map.mp ht
    have hk := List.mem_range.mp hk
    unfold noon midnight microsecond dayUs hourUs
    omega
  have hnodup : ((List.range 800).map
      fun k : ℕ => (738885*86400+1+(k : ℤ))*microsecond).Nodup := by
    refine List.nodup_range.map fun k k' heq => ?_
    unfold microsecond at heq
    omega
  have hcard := length_lt_card_cuts hnodup hinside
  rw [List.length_map,List.length_range] at hcard
  have hlength := h.cut.length_eq
  unfold CorrelationStore.cuts at hlength
  rw [hstart,hstop,show store.history=everySecond (738885*86400+1) 800 from rfl,hchanges] at hlength
  exact absurd h.few (not_le.mpr (hlength ▸ hcard))

/-- A bucket of the tablet in the second hour of the day. -/
def hourTraffic : FlowDb where
  flow5m := [((midnight+hourUs,"192.168.88.20",.download,"Video","203.0.113.9",""),⟨500,5,1⟩)]

lemma clientBytes_hourTraffic (first last : ℤ) :
    0 ≤ clientBytes hourTraffic "192.168.88.20" first last := by
  unfold clientBytes bytesWhere hourTraffic
  rw [List.filter_singleton,cond_eq_ite]
  split_ifs <;> decide

/-- Three changes of the policy cut the day into four pieces. -/
theorem payload_conserves_changed :
    ∃ window, resolveActivityWindow asciiEnv.toRuntime plainRounding noon "today" "UTC" "" ""=
        .ok window ∧
      ∃ report, policyCorrelationPayload asciiEnv.toRuntime plainRounding anyAddress
          (tabletStore (everySecond (738885*86400+1) 3)) (.ok hourTraffic) (.ok []) freshStatus noon
          "192.168.88.20" "today" "" ""=.ok (report,window) ∧
        report.Conserves hourTraffic "192.168.88.20"
          { identityId := "tablet-1", managedSince := 0, currentName := "Tablet" } window := by
  obtain ⟨window,hwindow,hstart,hstop⟩ := todayWindow (everySecond (738885*86400+1) 3)
  have hchanges := @listedChanges_everySecond (738885*86400+1) midnight noon 3 (by decide)
    (by decide) (by decide)
  have hcuts : (tabletStore (everySecond (738885*86400+1) 3)).cuts "192.168.88.20"
      { identityId := "tablet-1", managedSince := 0, currentName := "Tablet" } window=
        reportCuts midnight noon 0
          ((List.range 3).map fun k : ℕ => (738885*86400+1+(k : ℤ))*microsecond) := by
    rw [CorrelationStore.cuts,hstart,hstop,← hchanges]
    rfl
  have hinside : ∀ t ∈ (tabletStore (everySecond (738885*86400+1) 3)).cuts "192.168.88.20"
      { identityId := "tablet-1", managedSince := 0, currentName := "Tablet" } window,
      midnight ≤ t ∧ t ≤ noon := by
    intro t ht
    rw [hcuts] at ht
    rcases mem_reportCuts.mp ht with rfl | ⟨-,-,hafter,hbefore⟩
    · decide
    · exact ⟨hafter.le,hbefore.le⟩
  refine ⟨window,hwindow,(payload_conserves_iff rfl (tabletStore_manages _) hwindow).mpr ?_⟩
  refine ⟨by decide,by rw [hstart,hstop]; decide,?_,fun a b h => ?_,
    fun a b _ => clientBytes_hourTraffic a b⟩
  · change ((tabletStore (everySecond (738885*86400+1) 3)).cuts "192.168.88.20" _ window).card ≤ 800
    rw [hcuts]
    decide
  · have ha := (hinside a h.first).1
    have hb : b ≤ noon := by
      rcases h.last with hb | rfl
      · exact (hinside b hb).2
      · exact hstop.le
    unfold noon at hb
    unfold dayUs
    unfold hourUs at hb
    omega

end Crowded
end ZenControl.PolicyHistory
