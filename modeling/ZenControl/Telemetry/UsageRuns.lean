import ZenControl.Telemetry.Attribution

/-! Quota usage over runs in which services are edited, the catalogue is published, and flows are
read and written. -/
namespace ZenControl.Telemetry
open Calls Tallies

section Edits
variable {env : Env} {rt : Runtime} {labels : List Label} {services services' : List Service}

/-- The services behind an accepted `save_service`. -/
def Saved (new : Service) (services services' : List Service) : Prop :=
  ∀ v ∈ services', (v ∈ services ∧ v.key≠new.key) ∨ (v.key=new.key ∧ v.name=new.name)

lemma upsertService_saved {service new : Service} {t t' : Tables} (hkey : service.key=new.key)
    (hname : service.name=new.name) (h : upsertService service t=.ok t') :
    Saved new t.services t'.services := by
  unfold upsertService at h
  split_ifs at h
  split at h
  · obtain rfl := Except.ok.inj h
    intro v hv
    obtain ⟨w,hw,rfl⟩ := List.mem_map.mp hv
    by_cases hsame : w.key=service.key
    · rw [if_pos hsame]
      exact .inr ⟨hsame.trans hkey,hname⟩
    · rw [if_neg hsame]
      exact .inl ⟨hw,fun heq => hsame (heq.trans hkey.symm)⟩
  · rename_i hrow
    obtain rfl := Except.ok.inj h
    intro v hv
    rcases List.mem_append.mp hv with hold | hnew
    · have hother := List.find?_eq_none.mp hrow v hold
      exact .inl ⟨hold,fun heq => hother (by simpa using heq.trans hkey.symm)⟩
    · obtain rfl := List.mem_singleton.mp hnew
      exact .inr ⟨hkey,hname⟩

/-- `save_service` writes its key and its name, or leaves the services as they are. -/
lemma saveService_ensures (env : Env) (a : ServiceArgs) (services : List Service) :
    (saveService env a).Ensures (Good fun t => t.services=services)
      (fun _ => Good fun t => ∃ new, checkedService env a=.ok new ∧ Saved new services t.services)
      (Good fun t => t.services=services) := by
  unfold saveService
  refine Prog.ensures_bind (ensures_ofPy (checkedService env a)) fun service => ?_
  refine Prog.ensures_bind (Q:=fun _ => Good fun t => ∃ new, checkedService env a=.ok new ∧
    Saved new services t.services) ?_ fun _ => ?_
  · refine (ensures_storeWrite (P:=fun t => t.services=services ∧
      checkedService env a=.ok service) fun t _ t' ht hrun => ?_).mono
      (fun s hs => ⟨hs.1.1,hs.1.2,hs.2⟩) (fun _ _ hs => hs) fun _ hs => ⟨hs.1,hs.2.1⟩
    obtain ⟨hservices,hchecked⟩ := ht
    obtain ⟨_,t1,hread,hrun⟩ := Body.runOn_bind_ok hrun
    obtain ⟨-,rfl⟩ := Body.runOn_read_ok hread
    obtain ⟨description,t2,hdescription,hrun⟩ := Body.runOn_bind_ok hrun
    obtain ⟨-,rfl⟩ := Body.runOn_ofPy_ok hdescription
    obtain ⟨hupsert,-⟩ := Body.runOn_execute_ok hrun
    have hsaved := @upsertService_saved { service with description := clip description 160 }
      service t t' rfl rfl hupsert
    exact ⟨service,hchecked,hservices ▸ hsaved⟩
  · refine ⟨closed_query _,fun s hs => ?_⟩
    rw [query_solo]
    exact hs

/-- `delete_service` adds no service. -/
lemma deleteService_ensures (env : Env) (key : PyVal) (services : List Service) :
    Keeps (fun t => ∀ v ∈ t.services, v ∈ services) (deleteService env key) := by
  unfold deleteService
  refine ensures_checked fun _ t _ t' ht _ hrun => ?_
  obtain ⟨_,t1,hdrop,hrun⟩ := Body.runOn_bind_ok hrun
  obtain ⟨hdrop,-⟩ := Body.runOn_execute_ok hdrop
  obtain ⟨-,rfl⟩ := Body.runOn_ret_ok hrun
  split at hdrop
  · cases hdrop
  · obtain rfl := Except.ok.inj hdrop
    exact fun v hv => ht v (List.mem_filter.mp hv).1

lemma checkedService_name {a : ServiceArgs} {new : Service} (h : checkedService env a=.ok new) :
    new.name≠"" := by
  obtain ⟨text,-,h⟩ := bind_ok h
  obtain ⟨_,-,h⟩ := bind_ok h
  obtain ⟨name,-,h⟩ := bind_ok h
  obtain ⟨_,hname,h⟩ := bind_ok h
  obtain ⟨category,-,h⟩ := bind_ok h
  obtain ⟨dns,-,h⟩ := bind_ok h
  obtain ⟨tls,-,h⟩ := bind_ok h
  obtain rfl := Except.ok.inj h
  exact clip_ne_empty (refuse_ok hname) (by decide)

/-- A service answers to its own label. -/
lemma leads_own {s : Service} (hkey : IsKey s.key) (hname : s.name≠"") :
    Leads rt (serviceLabel s) s := by
  refine iff_of_true ?_ rfl
  unfold answers serviceLabel
  dsimp only
  rw [hkey.strip,hkey.lower,orElse,if_neg hname,strip_strip]
  simp [hkey.1]

lemma leads_congr {l : Label} {s v : Service} (hkey : s.key=v.key) (hname : s.name=v.name) :
    Leads rt l s ↔ Leads rt l v := by
  unfold Leads answers
  rw [hkey,hname]

/-- An accepted save keeps the labels clear. -/
lemma Clear.saved {new : Service}
    (h : Clear rt (labels ++ services.map serviceLabel) services)
    (hnew : SaveClear rt labels services new) (hkey : IsKey new.key) (hname : new.name≠"")
    (hsaved : Saved new services services') :
    Clear rt (labels ++ services'.map serviceLabel) services' := by
  have hlabel {v : Service} (hk : v.key=new.key) (hn : v.name=new.name) :
      serviceLabel v=serviceLabel new := by
    unfold serviceLabel
    rw [hk,hn]
  intro l hl s hs
  rcases List.mem_append.mp hl with hl | hl
  · rcases hsaved s hs with ⟨hs,-⟩ | ⟨hk,hn⟩
    · exact h l (List.mem_append_left _ hl) s hs
    · exact (leads_congr hk hn).mpr (hnew.labels l hl)
  · obtain ⟨v,hv,rfl⟩ := List.mem_map.mp hl
    rcases hsaved v hv with ⟨hv,hvother⟩ | ⟨hvk,hvn⟩
    · rcases hsaved s hs with ⟨hs,-⟩ | ⟨hk,hn⟩
      · exact h _ (List.mem_append_right _ (List.mem_map_of_mem hv)) s hs
      · exact (leads_congr hk hn).mpr (hnew.others v hv hvother).1
    · rw [hlabel hvk hvn]
      rcases hsaved s hs with ⟨hs,hother⟩ | ⟨hk,hn⟩
      · exact (hnew.others s hs hother).2
      · exact (leads_congr hk hn).mpr (leads_own hkey hname)

end Edits

section World

/-- The store, the catalogue that the ingest process has loaded, the flows in the order in which
they were read, each with the key that it was attributed to, and the flow writer. The program
does not keep the keys. -/
structure UsageWorld where
  store : Store
  compiled : Compiled
  definitions : List Definition
  ingested : List (FlowRow × Option String) := []
  account : Account := {}

namespace UsageWorld
variable (w : UsageWorld)

abbrev services : List Service := w.store.tables.services

/-- The flows that the writer has not taken yet. -/
def queue : List FlowRow := (w.ingested.map Prod.fst).drop w.account.taken.length

/-- An iteration of the writer, which takes the next flow if there is one in time. -/
def nextTurn (now later : ℤ) (gets : Bool) : Turn :=
  { got := if gets then w.queue.head? else none, now := now, later := later }

/-- The flows that are stored. -/
def stored : List (FlowRow × Option String) := w.ingested.take w.account.db.flowsRaw.length

/-- The bytes of the stored flows of a client in some time that were attributed to a key. -/
def attributedBytes (client : String) (first last : ℤ) (key : String) : ℤ :=
  ((w.stored.filter fun e => e.1.clientIp=client &&
    (first ≤ e.1.eventTime && e.1.eventTime < last) && e.2=some key).map fun e => e.1.bytes).sum

/-- The labels that flows have or may get before the next publication. -/
def labelsInUse : List Label :=
  standingLabels ++ w.compiled.map (fun e => (e.2.label,some e.2.key)) ++
    w.ingested.map fun e => (e.1.service,e.2)

end UsageWorld

inductive UsageAction
  | save (env : Env) (args : ServiceArgs)
  | delete (env : Env) (key : PyVal)
  | elsewhere
  | publish
  | flow
  | write

/-- An edit of a service, any transaction that leaves the services as they are, a publication of
the catalogue, a flow that the reader puts on the queue, or an iteration of the writer. -/
inductive UsageStep (rt : Runtime) (flowBatch : ℤ) : UsageAction → UsageWorld → UsageWorld → Prop
  | save (env : Env) (args : ServiceArgs) (w : UsageWorld) :
      UsageStep rt flowBatch (.save env args) w
        { w with store := ((saveService env args).solo w.store).2 }
  | delete (env : Env) (key : PyVal) (w : UsageWorld) :
      UsageStep rt flowBatch (.delete env key) w
        { w with store := ((deleteService env key).solo w.store).2 }
  | elsewhere (w : UsageWorld) (store : Store)
      (hjournal : w.store.journal.Bounded → store.journal.Bounded)
      (hservices : store.tables.services=w.services) :
      UsageStep rt flowBatch .elsewhere w { w with store := store }
  | publish (w : UsageWorld) (generatedAt : String) (compiled : Compiled)
      (definitions : List Definition)
      (hloaded : loadLive rt.toPyRuntime (exportServiceCatalog generatedAt w.store.tables)=
        .ok (compiled,definitions)) :
      UsageStep rt flowBatch .publish w
        { w with compiled := compiled, definitions := definitions }
  | flow (w : UsageWorld) (env : IngestEnv) (henv : env.toPyRuntime=rt.toPyRuntime)
      (domainIpMap : List (String × DomainEntry)) (raw : PyVal) (row : FlowRow)
      (hrow : transformFlow env ⟨w.compiled,w.definitions,domainIpMap⟩ raw=.ok (some row)) :
      UsageStep rt flowBatch .flow w
        { w with ingested := w.ingested ++
            [(row,attributedKey rt.toPyRuntime w.compiled w.definitions row)] }
  | write (w : UsageWorld) (now later : ℤ) (gets commits : Bool) :
      UsageStep rt flowBatch .write w
        { w with account := w.account.turn flowBatch (w.nextTurn now later gets) commits }

/-- A store whose services are told apart by their names, with its catalogue published and no
flow read yet. -/
structure UsageStart (rt : Runtime) (w : UsageWorld) : Prop where
  journal : w.store.journal.Bounded
  keys : ∀ s ∈ w.services, IsKey s.key
  clear : Clear rt (standingLabels ++ w.services.map serviceLabel) w.services
  published : ∃ generatedAt, loadLive rt.toPyRuntime
    (exportServiceCatalog generatedAt w.store.tables)=.ok (w.compiled,w.definitions)
  empty : w.ingested=[]
  idle : ∃ last, w.account={ last := last }

/-- An accepted save keeps apart what the labels in use mean. -/
def UsageAllowed (rt : Runtime) : UsageAction → UsageWorld → Prop
  | .save env args,w => ((saveService env args).solo w.store).1.isOk=true →
      ∀ new, checkedService env args=.ok new → SaveClear rt w.labelsInUse w.services new
  | _,_ => True

/-- What holds in every state: the labels are clear, and the writer has taken the flows in
their order. -/
structure Led (rt : Runtime) (w : UsageWorld) : Prop where
  journal : w.store.journal.Bounded
  keys : ∀ s ∈ w.services, IsKey s.key
  clear : Clear rt (w.labelsInUse ++ w.services.map serviceLabel) w.services
  named : ∀ e ∈ w.ingested, e.1.service≠""
  accounted : Accounted w.account
  taken : w.account.taken=(w.ingested.map Prod.fst).take w.account.taken.length

variable {rt : Runtime} {flowBatch : ℤ} {w w' : UsageWorld}

lemma published_labels {t : Tables} {generatedAt : String} {compiled : Compiled}
    {definitions : List Definition} (hkeys : ∀ s ∈ t.services, IsKey s.key)
    (h : loadLive rt.toPyRuntime (exportServiceCatalog generatedAt t)=.ok (compiled,definitions)) :
    ∀ e ∈ compiled, (e.2.label,some e.2.key) ∈ t.services.map serviceLabel := by
  obtain ⟨compiled',definitions',hloaded,hfrom⟩ :=
    @loadLive_export rt.toPyRuntime t (fun s hs => (hkeys s hs).1) generatedAt
  obtain ⟨rfl,-⟩ := Prod.mk.inj (Except.ok.inj (h.symm.trans hloaded))
  intro e he
  obtain ⟨s,hs,hservice,hkey,hname⟩ := hfrom e he
  refine List.mem_map.mpr ⟨s,hs,?_⟩
  have hk := hkeys s hs
  have hlabel : e.2.label=e.2.service := if_neg hservice
  rw [serviceLabel,hlabel,hkey,hk.strip,hk.lower,hname]

lemma UsageStart.led (h : UsageStart rt w) : Led rt w := by
  obtain ⟨generatedAt,hpublished⟩ := h.published
  obtain ⟨last,hidle⟩ := h.idle
  refine ⟨h.journal,h.keys,h.clear.mono (fun l hl => ?_) fun _ hs => hs,?_,?_,?_⟩
  · simp only [UsageWorld.labelsInUse,h.empty,List.map_nil,List.append_nil,List.append_assoc,
      List.mem_append] at hl ⊢
    rcases hl with hl | hl | hl
    · exact .inl hl
    · obtain ⟨e,he,rfl⟩ := List.mem_map.mp hl
      exact .inr (published_labels h.keys hpublished e he)
    · exact .inr hl
  · rw [h.empty]
    exact fun e he => absurd he List.not_mem_nil
  · rw [hidle]
    exact Accounted.empty last
  · rw [hidle]
    rfl

/-- A flow gets a label that is in use. -/
lemma ingested_label {env : IngestEnv} (henv : env.toPyRuntime=rt.toPyRuntime)
    {domainIpMap : List (String × DomainEntry)} {raw : PyVal} {row : FlowRow}
    (hrow : transformFlow env ⟨w.compiled,w.definitions,domainIpMap⟩ raw=.ok (some row)) :
    (row.service,attributedKey rt.toPyRuntime w.compiled w.definitions row) ∈ w.labelsInUse := by
  have hservice := transformFlow_service hrow
  dsimp only at hservice
  rw [henv,classifyRecord_attributed] at hservice
  unfold attributedKey UsageWorld.labelsInUse
  rw [hservice]
  refine List.mem_append_left _ ?_
  cases hfound : attributed rt.toPyRuntime w.compiled w.definitions row.signals with
  | none => exact List.mem_append_left _ List.mem_cons_self
  | some d =>
    rcases attributed_row hfound with ⟨e,he,rfl⟩ | ⟨hkey,hlabel⟩
    · exact List.mem_append_right _ (List.mem_map.mpr ⟨e,he,rfl⟩)
    · refine List.mem_append_left _ ?_
      dsimp only [Option.map_some,Option.getD_some]
      rw [hkey,hlabel]
      decide

/-- The writer takes the flows in their order. -/
lemma taken_turn (htaken : w.account.taken=(w.ingested.map Prod.fst).take w.account.taken.length)
    (now later : ℤ) (gets commits : Bool) :
    let account := w.account.turn flowBatch (w.nextTurn now later gets) commits
    account.taken=(w.ingested.map Prod.fst).take account.taken.length := by
  have hnext : w.account.taken ++ w.queue.head?.toList=
      (w.ingested.map Prod.fst).take (w.account.taken ++ w.queue.head?.toList).length := by
    unfold UsageWorld.queue
    cases hqueue : (w.ingested.map Prod.fst).drop w.account.taken.length with
    | nil => simpa using htaken
    | cons row rows =>
      have hsplit := List.take_append_drop w.account.taken.length (w.ingested.map Prod.fst)
      rw [← htaken,hqueue] at hsplit
      rw [← hsplit]
      simp [List.take_append]
  cases gets with
  | false =>
    change w.account.taken ++ []=_
    simpa [Account.turn,UsageWorld.nextTurn] using htaken
  | true => exact hnext

lemma UsageStep.led {action : UsageAction} (h : UsageStep rt flowBatch action w w')
    (hw : Led rt w) (hallowed : UsageAllowed rt action w) : Led rt w' := by
  obtain ⟨hjournal,hkeys,hclear,hnamed,haccounted,htaken⟩ := hw
  cases h with
  | save env args =>
    have hrun := (saveService_ensures env args w.services).2 w.store ⟨hjournal,rfl⟩
    cases hresult : ((saveService env args).solo w.store).1 with
    | error e =>
      rw [hresult] at hrun
      refine ⟨hrun.1,?_,?_,hnamed,haccounted,htaken⟩ <;> (unfold UsageWorld.services; rw [hrun.2])
      · exact hkeys
      · exact hclear
    | ok r =>
      rw [hresult] at hrun
      obtain ⟨hbounded,new,hchecked,hsaved⟩ := hrun
      have hkey := (checkedService_ok hchecked).1
      refine ⟨hbounded,fun s hs => ?_,?_,hnamed,haccounted,htaken⟩
      · rcases hsaved s hs with ⟨hs,-⟩ | ⟨hk,-⟩
        · exact hkeys s hs
        · exact hk ▸ hkey
      · exact hclear.saved (hallowed (by rw [hresult]; rfl) new hchecked) hkey
          (checkedService_name hchecked) hsaved
  | delete env key =>
    have hrun := (deleteService_ensures env key w.services).solo ⟨hjournal,fun v hv => hv⟩
    refine ⟨hrun.1,fun s hs => hkeys s (hrun.2 s hs),?_,hnamed,haccounted,htaken⟩
    refine hclear.mono (fun l hl => ?_) hrun.2
    rcases List.mem_append.mp hl with hl | hl
    · exact List.mem_append_left _ hl
    · obtain ⟨s,hs,rfl⟩ := List.mem_map.mp hl
      exact List.mem_append_right _ (List.mem_map_of_mem (hrun.2 s hs))
  | elsewhere _ store hstore hservices =>
    refine ⟨hstore hjournal,?_,?_,hnamed,haccounted,htaken⟩ <;>
      (unfold UsageWorld.services; rw [hservices])
    · exact hkeys
    · exact hclear
  | publish _ generatedAt compiled definitions hloaded =>
    refine ⟨hjournal,hkeys,hclear.mono (fun l hl => ?_) fun _ hs => hs,hnamed,haccounted,htaken⟩
    simp only [UsageWorld.labelsInUse,List.mem_append] at hl ⊢
    rcases hl with ((hl | hl) | hl) | hl
    · exact .inl (.inl (.inl hl))
    · obtain ⟨e,he,rfl⟩ := List.mem_map.mp hl
      exact .inr (published_labels hkeys hloaded e he)
    · exact .inl (.inr hl)
    · exact .inr hl
  | flow _ env henv domainIpMap raw row hrow =>
    have hlabel := ingested_label henv hrow
    refine ⟨hjournal,hkeys,hclear.mono (fun l hl => ?_) fun _ hs => hs,fun e he => ?_,haccounted,?_⟩
    · rcases List.mem_append.mp hl with hl | hl
      · refine List.mem_append_left _ ?_
        simp only [UsageWorld.labelsInUse,List.map_append,List.mem_append] at hl ⊢
        rcases hl with hl | hl | hl
        · exact .inl hl
        · exact .inr hl
        · obtain rfl := List.mem_singleton.mp hl
          simpa only [UsageWorld.labelsInUse,List.mem_append] using hlabel
      · exact List.mem_append_right _ hl
    · rcases List.mem_append.mp he with he | he
      · exact hnamed e he
      · obtain rfl := List.mem_singleton.mp he
        exact Read.service_ne_empty ⟨env,_,raw,hrow⟩
    · have hlength : w.account.taken.length ≤ (w.ingested.map Prod.fst).length := by
        rw [htaken]
        exact List.length_take_le' _ _
      rw [List.map_append,List.take_append_of_le_length hlength]
      exact htaken
  | write _ now later gets commits =>
    exact ⟨hjournal,hkeys,hclear,hnamed,haccounted.turn _ _,taken_turn htaken now later gets commits⟩

end World

section Usage
variable {rt : Runtime} {flowBatch : ℤ} {w w' : UsageWorld}

/-- Loaded usage of a device holds for every service the bytes of its flows of the local day that
the classifier attributed to the service. -/
def UsageFollows (env : Env) (w : UsageWorld) (address : String) (at_ : PolicyAt) : Prop :=
  ∀ usage, getQuotaUsage env w.store.tables (.ok w.account.db) address at_=.ok usage →
    usage.configured=true → usage.available=true →
    ∀ first last, localDay env w.store.tables at_=.ok (first,last) → ∀ s ∈ w.services,
      (usage.serviceBytes.lookup s.key).getD 0=w.attributedBytes address first last s.key

/-- The local day begins and ends with a bucket of `flow_5m`. -/
def WholeBuckets (env : Env) (t : Tables) (at_ : PolicyAt) : Prop :=
  ∀ first last, localDay env t at_=.ok (first,last) → bucketWidth ∣ first ∧ bucketWidth ∣ last

lemma bucket5_day {t first last : ℤ} (hfirst : bucketWidth ∣ first) (hlast : bucketWidth ∣ last) :
    (first ≤ bucket5 t ∧ bucket5 t < last) ↔ first ≤ t ∧ t < last := by
  unfold bucket5 bucketWidth at *
  omega

lemma inDay_row (row : FlowRow) (client : String) (first last : ℤ) :
    inDay client first last row.bucketKey=(row.clientIp=client &&
      (first ≤ bucket5 row.eventTime && bucket5 row.eventTime < last)) := rfl

lemma Led.stored (h : Led rt w) : w.account.db.flowsRaw=w.stored.map Prod.fst := by
  have hstart : w.account.taken.take w.account.db.flowsRaw.length=w.account.db.flowsRaw := by
    rw [h.accounted.taken,← h.accounted.raw,List.take_left]
  have hle : w.account.db.flowsRaw.length ≤ w.account.taken.length := by
    rw [h.accounted.taken,← h.accounted.raw,List.length_append]
    exact Nat.le_add_right _ _
  rw [h.taken,List.take_take,min_eq_left hle] at hstart
  rw [UsageWorld.stored,List.map_take,hstart]

/-- Where the labels are clear, usage follows the services. -/
lemma Led.follows (h : Led rt w) {env : Env} (henv : env.toRuntime=rt) {address : String}
    {at_ : PolicyAt} (hwhole : WholeBuckets env w.store.tables at_) :
    UsageFollows env w address at_ := by
  intro usage husage hconfigured havailable first last hday s hs
  obtain ⟨db,first',last',hdb,hday',hbytes⟩ := getQuotaUsage_loaded husage hconfigured havailable
  obtain rfl := Except.ok.inj hdb
  obtain ⟨rfl,rfl⟩ := Prod.mk.inj (Except.ok.inj (hday.symm.trans hday'))
  obtain ⟨hfirst,hlast⟩ := hwhole first last hday
  have hlisted : ∀ v ∈ listServices w.store.tables, v ∈ w.services :=
    fun v hv => mem_listServices.mp hv
  have hstanding : Clear rt standingLabels (listServices w.store.tables) :=
    h.clear.mono (fun l hl => by simp [UsageWorld.labelsInUse,hl]) hlisted
  rw [hbytes s.key (h.keys s hs).1,bytesWhere_raw h.accounted,h.stored,
    UsageWorld.attributedBytes,List.filter_map,List.map_map]
  refine congrArg List.sum (congrArg (List.map _) (List.filter_congr fun e he => ?_))
  have hin : e ∈ w.ingested := List.mem_of_mem_take he
  have hname : serviceName e.1.bucketKey=e.1.service := if_neg (h.named e hin)
  have hcounted := counted_iff (l := (e.1.service,e.2)) hstanding
    (fun v hv => h.clear _ (List.mem_append_left _ (List.mem_append_right _
      (List.mem_map_of_mem hin))) v (hlisted v hv)) (fun v hv => h.keys v (hlisted v hv))
    (mem_listServices.mpr hs)
  have hbucket := @bucket5_day e.1.eventTime first last hfirst hlast
  rw [Function.comp_apply,inDay_row,hname,countsFor,henv,Bool.eq_iff_iff]
  simp only [Bool.and_eq_true,decide_eq_true_eq]
  rw [hbucket,hcounted]

/-- In every run whose accepted saves keep the labels apart, usage follows the services. -/
theorem usage_follows_throughout (hstart : UsageStart rt w)
    (run : Run (UsageStep rt flowBatch) (UsageAllowed rt) w w') {env : Env}
    (henv : env.toRuntime=rt) (address : String) (at_ : PolicyAt)
    (hwhole : WholeBuckets env w'.store.tables at_) : UsageFollows env w' address at_ := by
  have hled : Led rt w' := run.invariant (I := Led rt) hstart.led fun hc hallowed hstep =>
    hstep.led hc hallowed
  exact hled.follows henv hwhole

instance (rt : Runtime) (l : Label) (s : Service) : Decidable (Leads rt l s) :=
  inferInstanceAs (Decidable (_ ↔ _))

instance (rt : Runtime) (labels : List Label) (services : List Service) :
    Decidable (Clear rt labels services) :=
  inferInstanceAs (Decidable (∀ l ∈ labels, ∀ s ∈ services, Leads rt l s))

instance (rt : Runtime) (labels : List Label) (services : List Service) (new : Service) :
    Decidable (SaveClear rt labels services new) :=
  decidable_of_iff ((∀ l ∈ labels, Leads rt l new) ∧ ∀ s ∈ services, s.key≠new.key →
    Leads rt (serviceLabel s) new ∧ Leads rt (serviceLabel new) s)
    ⟨fun h => ⟨h.1,h.2⟩,fun h => ⟨h.1,h.2⟩⟩

/-- The built-in services, one custom service, and a device with a quota for it. -/
def quotaTables : Tables :=
  { profiles := [{ id := ⟨1,Int.zero_lt_one⟩, name := "Kids", serviceQuotas := [("films",100)] }]
    devicePolicy := [{ ip := some "192.168.1.20", profileId := some ⟨1,Int.zero_lt_one⟩ }]
    services := (defaultServices.map fun d => { key := d.1, name := d.2, builtin := true }) ++
      [{ key := "films", name := "Movies", dnsSuffixes := ["films.test"] }]
    appSettings := [("quota_engine_enabled","1"),("policy_timezone","UTC")] }

/-- What the ingest process has loaded of it. -/
def filmCatalogue : Compiled × List Definition :=
  let films : Definition := { key := "films", service := "Movies", category := "other" }
  ([("films.test",films)],[films])

def quotaWorld : UsageWorld :=
  { store := ⟨{},quotaTables⟩, compiled := filmCatalogue.1, definitions := filmCatalogue.2 }

lemma quotaWorld_start : UsageStart asciiEnv.toRuntime quotaWorld where
  journal := Journal.Reachable.initial.bounded
  keys := fun s hs => isKey_of_all
    ((by decide +kernel : ∀ s ∈ quotaWorld.services, s.key≠"" ∧ s.key.toList.all isKeyChar=true) s hs)
  clear := by decide +kernel
  published := ⟨"",by decide +kernel⟩
  empty := rfl
  idle := ⟨0,rfl⟩

/-- A flow of the device to the custom service, and its row. -/
def filmRow : FlowRow :=
  { recordRow 50000 with
    domain := "films.test", category := "other", service := "Movies", confidence := "high",
    classifierEvidence := { source := .dns, matchedValue := .str "films.test" } }

/-- The flow is read and written. -/
def countedWorld : UsageWorld :=
  { quotaWorld with
    ingested := [(filmRow,some "films")]
    account := ({} : Account).turn 1 { got := some filmRow, now := 0, later := 0 } true }

lemma countedWorld_run {ok : UsageAction → UsageWorld → Prop} (hflow : ok .flow quotaWorld)
    (hwrite : ∀ w, ok .write w) :
    Run (UsageStep asciiEnv.toRuntime 1) ok quotaWorld countedWorld := by
  have hrow : transformFlow homeEnv ⟨quotaWorld.compiled,quotaWorld.definitions,
      [("198.51.100.10",{ domain := "films.test", service := "", expires := 0 })]⟩
      (sampleRecord "TCP" 50000)=.ok (some filmRow) := rfl
  have hread := @UsageStep.flow asciiEnv.toRuntime 1 quotaWorld homeEnv rfl _ _ filmRow hrow
  exact (Run.refl.step hflow hread).step (hwrite _) (UsageStep.write _ 0 0 true true)

/-- The custom service saved under a name. -/
def savedAs (key name : String) : ServiceArgs :=
  { key := .str key, name := .str name, dnsSuffixes := .list [.str (key ++ ".test")] }

def UsageWorld.saving (w : UsageWorld) (args : ServiceArgs) : UsageWorld :=
  { w with store := ((saveService asciiEnv args).solo w.store).2 }

lemma wholeBuckets_utc {t : Tables} (at_ : PolicyAt)
    (h : localDay asciiEnv t at_=.ok (0,86400000000)) : WholeBuckets asciiEnv t at_ := by
  intro first last hday
  obtain ⟨rfl,rfl⟩ := Prod.mk.inj (Except.ok.inj (h.symm.trans hday))
  exact ⟨by decide,by decide⟩

/-- Another service that is created and then renamed leaves the usage as it is. -/
theorem usage_follows_renamed : UsageFollows asciiEnv
    ((countedWorld.saving (savedAs "bar" "Bar")).saving (savedAs "bar" "Bars")) "192.168.1.20"
    (.aware 60000000) := by
  have hchecked (name : String) (h : checkedService asciiEnv (savedAs "bar" name)=
      .ok { key := "bar", name := name, dnsSuffixes := ["bar.test"] }) (new : Service)
      (hnew : checkedService asciiEnv (savedAs "bar" name)=.ok new) :
      new={ key := "bar", name := name, dnsSuffixes := ["bar.test"] } :=
    Except.ok.inj (hnew.symm.trans h)
  have hcreated : Run (UsageStep asciiEnv.toRuntime 1) (UsageAllowed asciiEnv.toRuntime) quotaWorld
      (countedWorld.saving (savedAs "bar" "Bar")) :=
    (countedWorld_run trivial fun _ => trivial).step (i := .save asciiEnv (savedAs "bar" "Bar"))
      (fun _ new hnew => by
        obtain rfl := hchecked "Bar" (by decide +kernel) new hnew
        decide +kernel)
      (UsageStep.save asciiEnv (savedAs "bar" "Bar") countedWorld)
  have hrenamed : Run (UsageStep asciiEnv.toRuntime 1) (UsageAllowed asciiEnv.toRuntime) quotaWorld
      ((countedWorld.saving (savedAs "bar" "Bar")).saving (savedAs "bar" "Bars")) :=
    hcreated.step (i := .save asciiEnv (savedAs "bar" "Bars"))
      (fun _ new hnew => by
        obtain rfl := hchecked "Bars" (by decide +kernel) new hnew
        decide +kernel)
      (UsageStep.save asciiEnv (savedAs "bar" "Bars") _)
  exact @usage_follows_throughout _ 1 _ _ quotaWorld_start hrenamed asciiEnv rfl _
    (.aware 60000000) (wholeBuckets_utc _ (by decide +kernel))

/-- A service that is renamed loses the usage of the day. -/
theorem renamed_loses_usage :
    ¬∀ (rt : Runtime) (flowBatch : ℤ) (w w' : UsageWorld), UsageStart rt w →
      Run (UsageStep rt flowBatch) anyStep w w' → ∀ env : Env, env.toRuntime=rt →
      ∀ address at_, WholeBuckets env w'.store.tables at_ → UsageFollows env w' address at_ := by
  intro h
  have hrun := (@countedWorld_run anyStep trivial fun _ => trivial).step
    (i := .save asciiEnv (savedAs "films" "Cinema")) trivial
    (UsageStep.save asciiEnv (savedAs "films" "Cinema") countedWorld)
  have hfollows := h _ _ _ _ quotaWorld_start hrun asciiEnv rfl "192.168.1.20" (.aware 60000000)
    (wholeBuckets_utc _ (by decide))
  have husage : (getQuotaUsage asciiEnv (countedWorld.saving (savedAs "films" "Cinema")).store.tables
      (.ok (countedWorld.saving (savedAs "films" "Cinema")).account.db) "192.168.1.20"
      (.aware 60000000)).map (fun u => (u.configured,u.available,u.serviceBytes))=
        .ok (true,true,[]) := by decide +kernel
  have hattributed : (countedWorld.saving (savedAs "films" "Cinema")).attributedBytes "192.168.1.20" 0
      86400000000 "films"=100 := by decide
  cases hloaded : getQuotaUsage asciiEnv (countedWorld.saving (savedAs "films" "Cinema")).store.tables
      (.ok (countedWorld.saving (savedAs "films" "Cinema")).account.db) "192.168.1.20"
      (.aware 60000000) with
  | error e =>
    rw [hloaded] at husage
    cases husage
  | ok usage =>
    rw [hloaded] at husage
    obtain ⟨hconfigured,hrest⟩ := Prod.mk.inj (Except.ok.inj husage)
    obtain ⟨havailable,hbytes⟩ := Prod.mk.inj hrest
    have hfilms := hfollows usage hloaded hconfigured havailable 0 86400000000 (by decide)
      { key := "films", name := "Cinema", dnsSuffixes := ["films.test"] } (by decide +kernel)
    rw [hbytes] at hfilms
    exact absurd (hfilms.trans hattributed) (by decide)

end Usage
end ZenControl.Telemetry
