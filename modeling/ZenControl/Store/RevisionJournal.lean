import ZenControl.Store.Dispatch

/-! The revision journal under interleaved writers and dispatchers. A revision is refused by its
primary key when the journal has it already, and a job by its idempotency key, so that a query
made before the lock was taken does no harm. -/
namespace ZenControl
open Calls Rows Attention

section Lists
variable {α β : Type}

/-- A change of one element that is not seen through a partial function. -/
lemma filterMap_modify {f : α → α} {F : α → Option β} {k : ℕ} {l : List α}
    (h : ∀ a, l[k]?=some a → F (f a)=F a) : (l.modify k f).filterMap F=l.filterMap F := by
  induction l generalizing k with
  | nil => simp
  | cons a l ih =>
    cases k with
    | zero => simp [List.modify_zero_cons,List.filterMap_cons,h a rfl]
    | succ k => simp [List.modify_succ_cons,List.filterMap_cons,ih fun b hb => h b (by simpa using hb)]

/-- Two places with the same image, when images do not repeat. -/
lemma place_eq {F : α → Option β} {l : List α} (h : (l.filterMap F).Nodup) {j k : ℕ} {a b : α}
    {y : β} (ha : l[j]?=some a) (hb : l[k]?=some b) (hFa : F a=some y) (hFb : F b=some y) :
    j=k := by
  induction l generalizing j k with
  | nil => cases ha
  | cons c l ih =>
    have hmem : ∀ {i d}, l[i]?=some d → F d=some y → y ∈ l.filterMap F := fun hd hF =>
      List.mem_filterMap.mpr ⟨_,List.mem_of_getElem? hd,hF⟩
    have htail : (l.filterMap F).Nodup := by
      rw [List.filterMap_cons] at h
      cases hc : F c with
      | none => rwa [hc] at h
      | some z => rw [hc] at h; exact (List.nodup_cons.mp h).2
    have hhead : F c=some y → y ∉ l.filterMap F := fun hc => by
      rw [List.filterMap_cons,hc] at h
      exact (List.nodup_cons.mp h).1
    cases j with
    | zero =>
      obtain rfl : c=a := by simpa using ha
      cases k with
      | zero => rfl
      | succ k => exact absurd (hmem (by simpa using hb) hFb) (hhead hFa)
    | succ j =>
      cases k with
      | zero =>
        obtain rfl : c=b := by simpa using hb
        exact absurd (hmem (by simpa using ha) hFa) (hhead hFb)
      | succ k =>
        have hjk : j=k := ih htail (by simpa using ha) (by simpa using hb)
        rw [hjk]

lemma numbers_succ (n : ℕ) : numbers (n+1)=numbers n ++ [(n : ℤ)+1] := by
  simp [numbers,List.range_succ]

lemma mem_numbers {n : ℕ} {r : ℤ} : r ∈ numbers n ↔ 1 ≤ r ∧ r ≤ n := by
  unfold numbers
  rw [List.mem_map]
  constructor
  · rintro ⟨k,hk,rfl⟩
    have := List.mem_range.mp hk
    omega
  · rintro ⟨hlow,hhigh⟩
    exact ⟨(r-1).toNat,List.mem_range.mpr (by omega),by omega⟩

lemma numbers_nodup (n : ℕ) : (numbers n).Nodup :=
  List.nodup_range.map fun a b h => by omega

end Lists

section Jobs
variable {jobs : Table BackgroundJob} {host : Host} {r r' : ℤ}

/-- Under distinct keys one job is a job. -/
lemma oneJob_iff (hunique : jobs.Unique BackgroundJob.idempotencyKey) :
    OneJob jobs r ↔ ∃ id job, jobs.find id=some job ∧ job.idempotencyKey=analyticsKey r := by
  constructor
  · rintro ⟨id,⟨job,hjob⟩,-⟩
    exact ⟨id,job,hjob⟩
  · rintro ⟨id,job,hfind,hkey⟩
    refine ⟨id,⟨job,hfind,hkey⟩,fun id' ⟨job',hfind',hkey'⟩ => ?_⟩
    exact hunique id' id job' job hfind' hfind (hkey'.trans hkey.symm)

/-- The jobs after the job of a revision was asked for. -/
def withJob (host : Host) (r : ℤ) (jobs : Table BackgroundJob) : Table BackgroundJob :=
  insertJob host "analytics.config-summary" "analytics:config" (analyticsKey r) 3 host.now jobs

lemma withJob_unique (h : jobs.Unique BackgroundJob.idempotencyKey) :
    (withJob host r jobs).Unique BackgroundJob.idempotencyKey := by
  unfold withJob insertJob Table.insertUnless
  split_ifs with hclash
  · exact h
  · refine h.insert fun k b hb heq => ?_
    rw [Option.not_isSome_iff_eq_none] at hclash
    have := Table.first_none hclash hb
    simp [heq] at this

lemma withJob_find {id : ℕ} {job : BackgroundJob} (h : (withJob host r jobs).find id=some job) :
    jobs.find id=some job ∨ job.idempotencyKey=analyticsKey r := by
  unfold withJob insertJob Table.insertUnless at h
  split_ifs at h
  · exact .inl h
  · rcases Table.find_insert_cases h with h | ⟨-,rfl⟩
    · exact .inl h
    · exact .inr rfl

lemma find_withJob {id : ℕ} {job : BackgroundJob} (h : jobs.find id=some job) :
    (withJob host r jobs).find id=some job := by
  unfold withJob insertJob Table.insertUnless
  split_ifs
  · exact h
  · exact Table.find_insert_of_find h

lemma withJob_self : ∃ id job, (withJob host r jobs).find id=some job ∧
    job.idempotencyKey=analyticsKey r := by
  unfold withJob insertJob Table.insertUnless
  split_ifs with hclash
  · obtain ⟨⟨id,job⟩,hfirst⟩ := Option.isSome_iff_exists.mp hclash
    obtain ⟨hfind,hkey⟩ := Table.first_some hfirst
    exact ⟨id,job,hfind,by simpa using hkey⟩
  · exact ⟨jobs.next,_,by rw [Table.find_insert,if_pos rfl],rfl⟩

lemma withJob_other (hne : r'≠r) (hunique : jobs.Unique BackgroundJob.idempotencyKey) :
    OneJob (withJob host r jobs) r' ↔ OneJob jobs r' := by
  rw [oneJob_iff (withJob_unique hunique),oneJob_iff hunique]
  constructor
  · rintro ⟨id,job,hfind,hkey⟩
    rcases withJob_find hfind with hfind | hkey'
    · exact ⟨id,job,hfind,hkey⟩
    · exact absurd (analyticsKey_injective (hkey.symm.trans hkey')) hne
  · rintro ⟨id,job,hfind,hkey⟩
    exact ⟨id,job,find_withJob hfind,hkey⟩

end Jobs

section Changes

/-- The revision of a configuration event. -/
def OutboxEvent.changed (e : OutboxEvent) : Option ℤ :=
  if e.topic="config.changed" then some e.revision else none

lemma Journal.changes_revisions (j : Journal) :
    j.changes.map OutboxEvent.revision=j.outbox.filterMap OutboxEvent.changed := by
  unfold Journal.changes
  induction j.outbox with
  | nil => rfl
  | cons e es ih =>
    by_cases h : e.topic="config.changed"
    · simp [OutboxEvent.changed,h,ih]
    · simp [OutboxEvent.changed,h,ih]

lemma Journal.mem_changes {j : Journal} {e : OutboxEvent} :
    e ∈ j.changes ↔ (∃ k : ℕ, j.outbox[k]?=some e) ∧ e.topic="config.changed" := by
  unfold Journal.changes
  rw [List.mem_filter,List.mem_iff_getElem?,decide_eq_true_eq]

lemma Journal.advance_changes (args : WriteArgs) (digest : String) (j : Journal) : ∃ e,
    (j.advance args digest).changes=j.changes ++ [e] ∧ e.revision=j.state.revision+1 ∧
      e.status=.pending := by
  let event : OutboxEvent :=
    { createdAt := args.now, topic := "config.changed", aggregateType := "configuration",
      aggregateKey := "global", revision := j.state.revision+1,
      scope := clipOr args.scope "config" 100,
      reason := clipOr args.reason "Configuration updated" 240,
      actor := clipOr args.actor "system:policy-store" 100, dispatched := false }
  refine ⟨event,?_,rfl,rfl⟩
  change (j.outbox ++ [event]).filter _=_
  rw [List.filter_append]
  rfl

/-- The outbox after the event at a place was closed. -/
lemma closed_getElem? {outbox : List OutboxEvent} {place k : ℕ} {e' : OutboxEvent}
    (h : (outbox.modify place fun e => { e with dispatched := true })[k]?=some e') :
    ∃ e, outbox[k]?=some e ∧ e'.topic=e.topic ∧ e'.revision=e.revision ∧
      (k=place → e'.dispatched=true) ∧ (k≠place → e'=e) := by
  rw [List.getElem?_modify] at h
  obtain ⟨e,he,rfl⟩ := Option.map_eq_some_iff.mp h
  refine ⟨e,he,?_⟩
  by_cases hk : place=k
  · simp [hk]
  · simp [hk,show k≠place from fun h => hk h.symm]

lemma getElem?_closed {outbox : List OutboxEvent} {place k : ℕ} {e : OutboxEvent}
    (h : outbox[k]?=some e) :
    ∃ e', (outbox.modify place fun e => { e with dispatched := true })[k]?=some e' ∧
      e'.topic=e.topic ∧ e'.revision=e.revision := by
  rw [List.getElem?_modify,h]
  by_cases hk : place=k
  · exact ⟨_,rfl,by simp [hk],by simp [hk]⟩
  · exact ⟨_,rfl,by simp [hk],by simp [hk]⟩

end Changes

section Keeps
variable {τ : Type} {db db' : JobsDb τ}

/-- What the calls never take back. -/
structure Onward (s t : JobsDb τ) : Prop where
  revision : s.journal.state.revision ≤ t.journal.state.revision
  events : ∀ (k : ℕ) e, s.journal.outbox[k]?=some e → ∃ e', t.journal.outbox[k]?=some e' ∧
    e'.topic=e.topic ∧ e'.revision=e.revision

lemma Onward.refl (s : JobsDb τ) : Onward s s := ⟨le_refl _,fun _ e he => ⟨e,he,rfl,rfl⟩⟩

lemma Onward.trans (s t u : JobsDb τ) (h : Onward s t) (h' : Onward t u) : Onward s u := by
  refine ⟨h.revision.trans h'.revision,fun k e he => ?_⟩
  obtain ⟨e',he',htopic,hrevision⟩ := h.events k e he
  obtain ⟨e'',he'',htopic',hrevision'⟩ := h'.events k e' he'
  exact ⟨e'',he'',htopic'.trans htopic,hrevision'.trans hrevision⟩

lemma Gapless.row_mem (h : Gapless db) {r : ℤ} (hlow : 1 ≤ r)
    (hhigh : r ≤ db.journal.state.revision) : ∃ row ∈ db.journal.revisions, row.revision=r := by
  have hr : r ∈ db.journal.revisions.map RevisionRow.revision := by
    rw [h.revisions]
    exact mem_numbers.mpr ⟨hlow,by have := h.nonneg; omega⟩
  exact List.mem_map.mp hr

lemma Gapless.bounded (h : Gapless db) : db.journal.Bounded := by
  intro row hrow
  have hr : row.revision ∈ numbers db.journal.state.revision.toNat := by
    rw [← h.revisions]
    exact List.mem_map_of_mem hrow
  have := (mem_numbers.mp hr).2
  have := h.nonneg
  omega

lemma Gapless.change_le (h : Gapless db) {e : OutboxEvent} (he : e ∈ db.journal.changes) :
    e.revision ≤ db.journal.state.revision := by
  have hr : e.revision ∈ numbers db.journal.state.revision.toNat := by
    rw [← h.events]
    exact List.mem_map_of_mem he
  have := (mem_numbers.mp hr).2
  have := h.nonneg
  omega

/-- One more revision, with its row and its event. -/
lemma Gapless.advance (h : Gapless db) (args : WriteArgs) (digest : String) (t : τ) :
    Gapless (⟨db.journal.advance args digest,(db.tables.1,t)⟩ : JobsDb τ) ∧
      Onward db ⟨db.journal.advance args digest,(db.tables.1,t)⟩ := by
  have hnonneg := h.nonneg
  have hnumbers : numbers (db.journal.state.revision+1).toNat=
      numbers db.journal.state.revision.toNat ++ [db.journal.state.revision+1] := by
    rw [show (db.journal.state.revision+1).toNat=db.journal.state.revision.toNat+1 by omega,
      numbers_succ,Int.toNat_of_nonneg hnonneg]
  obtain ⟨new,hchanges,hrevision,hpending⟩ := Journal.advance_changes args digest db.journal
  refine ⟨⟨?_,?_,?_,?_,h.unique,?_⟩,?_,?_⟩
  · rw [Journal.advance_revision,hnumbers,← h.revisions]
    simp [Journal.advance,insertConfigChanged,updateRevisionState]
  · rw [Journal.advance_revision]
    omega
  · rw [Journal.advance_revision,hnumbers,← h.events,hchanges,List.map_append,List.map_singleton,
      hrevision]
  · intro e he
    rw [hchanges] at he
    rcases List.mem_append.mp he with he | he
    · exact h.dispatched e he
    · obtain rfl := List.mem_singleton.mp he
      rw [hpending,hrevision,oneJob_iff h.unique]
      refine ⟨fun h => (by cases h),fun hjob => ?_⟩
      obtain ⟨id,job,hfind,hkey⟩ := hjob
      -- a job of the new revision would belong to an event above the recorded one
      obtain ⟨e',he',hr⟩ := h.jobs id job _ hfind hkey
      have := h.change_le he'
      omega
  · intro id job r hfind hkey
    obtain ⟨e,he,hr⟩ := h.jobs id job r hfind hkey
    exact ⟨e,hchanges ▸ List.mem_append_left _ he,hr⟩
  · change db.journal.state.revision ≤ db.journal.state.revision+1
    omega
  · intro k e he
    refine ⟨e,?_,rfl,rfl⟩
    change (db.journal.outbox ++ _)[k]?=some e
    rw [List.getElem?_append_left (List.getElem?_eq_some_iff.mp he).1,he]

/-- A closed event keeps its topic and its revision. -/
lemma closed_revisions {outbox : List OutboxEvent} {place : ℕ} :
    (outbox.modify place fun e => { e with dispatched := true }).filterMap OutboxEvent.changed=
      outbox.filterMap OutboxEvent.changed := filterMap_modify fun _ _ => rfl

lemma closeEvent_onward (place : ℕ) (db : JobsDb τ) : Onward db (closeEvent place db) :=
  ⟨le_refl _,fun _ _ he => getElem?_closed he⟩

/-- A configuration event is closed together with the job of its revision. -/
lemma Gapless.dispatch (h : Gapless db) (host : Host) {place : ℕ} {e : OutboxEvent}
    (he : db.journal.outbox[place]?=some e) (htopic : e.topic="config.changed") :
    Gapless (closeEvent place (insertAnalyticsJob host e.revision db)) := by
  have hchanged : e.changed=some e.revision := by simp [OutboxEvent.changed,htopic]
  have hnodup : (db.journal.outbox.filterMap OutboxEvent.changed).Nodup := by
    rw [← Journal.changes_revisions,h.events]
    exact numbers_nodup _
  refine ⟨h.revisions,h.nonneg,?_,fun e' he' => ?_,withJob_unique h.unique,
    fun id job r hfind hkey => ?_⟩
  · exact (Journal.changes_revisions _).trans (closed_revisions.trans
      ((Journal.changes_revisions db.journal).symm.trans h.events))
  · obtain ⟨⟨k,hk⟩,htopic'⟩ := Journal.mem_changes.mp he'
    obtain ⟨e₀,he₀,ht₀,hr₀,hsame,hother⟩ := closed_getElem? hk
    change e'.status=.dispatched ↔ OneJob (withJob host e.revision db.tables.1) e'.revision
    by_cases hplace : k=place
    · -- the event itself: it is dispatched, and its job is there
      have hdispatched : e'.status=.dispatched := by
        simp [OutboxEvent.status,hsame hplace,htopic']
      subst hplace
      obtain rfl : e₀=e := Option.some.inj (he₀.symm.trans he)
      rw [hr₀,oneJob_iff (withJob_unique h.unique)]
      exact ⟨fun _ => withJob_self,fun _ => hdispatched⟩
    · -- another event has another revision
      obtain rfl := hother hplace
      have hchanged' : e'.changed=some e'.revision := by simp [OutboxEvent.changed,htopic']
      have hne : e'.revision≠e.revision := fun heq =>
        hplace (place_eq hnodup he₀ he (heq ▸ hchanged') hchanged)
      rw [withJob_other hne h.unique]
      exact h.dispatched e' (Journal.mem_changes.mpr ⟨⟨k,he₀⟩,htopic'⟩)
  · have hold : ∃ e₀ ∈ db.journal.changes, e₀.revision=r := by
      rcases withJob_find hfind with hfind | hkey'
      · exact h.jobs id job r hfind hkey
      · exact ⟨e,Journal.mem_changes.mpr ⟨⟨place,he⟩,htopic⟩,
          analyticsKey_injective (hkey'.symm.trans hkey)⟩
    obtain ⟨e₀,he₀,hr₀⟩ := hold
    obtain ⟨⟨k,hk⟩,ht₀⟩ := Journal.mem_changes.mp he₀
    obtain ⟨e',he',ht',hr'⟩ := getElem?_closed hk
    exact ⟨e',Journal.mem_changes.mpr ⟨⟨k,he'⟩,ht'.trans ht₀⟩,hr'.trans hr₀⟩

/-- An event of another topic is closed. -/
lemma Gapless.ignore (h : Gapless db) {place : ℕ} {e : OutboxEvent}
    (he : db.journal.outbox[place]?=some e) (htopic : e.topic≠"config.changed") :
    Gapless (closeEvent place db) := by
  have hchanges : (closeEvent place db).journal.changes=db.journal.changes := by
    have hfilter : ∀ l : List OutboxEvent, l.filter (fun e => e.topic="config.changed")=
        l.filterMap fun e => if e.topic="config.changed" then some e else none := fun l => by
      induction l with
      | nil => rfl
      | cons e l ih => by_cases ht : e.topic="config.changed" <;> simp [ht,ih]
    unfold Journal.changes
    rw [hfilter,hfilter]
    refine filterMap_modify fun e' he' => ?_
    obtain rfl : e=e' := Option.some.inj (he.symm.trans he')
    simp [htopic]
  refine ⟨h.revisions,h.nonneg,hchanges ▸ h.events,?_,h.unique,?_⟩
  · rw [hchanges]
    exact h.dispatched
  · rw [hchanges]
    exact h.jobs

end Keeps

section Programs
variable {τ α β : Type} {views : List (JobsDb τ)} {seen : JobsDb τ}

/-- A program that keeps the journal gapless beside others that do. -/
structure Regular (p : SqlProg (JobsDb τ) StoreError α) : Prop where
  meets : ∀ views seen, Gapless seen →
    Prog.Meets Gapless Onward (fun _ _ _ => True) (fun _ _ _ => True) views seen p

lemma Regular.ret (a : α) : Regular (.ret a : SqlProg (JobsDb τ) StoreError α) :=
  ⟨fun _ _ _ => .ret fun _ _ _ => trivial⟩

lemma Regular.bind {p : SqlProg (JobsDb τ) StoreError α} {f : α → SqlProg (JobsDb τ) StoreError β}
    (hp : Regular p) (hf : ∀ a, Regular (f a)) : Regular (p.bind f) :=
  ⟨fun views seen hseen => .andThen .refl .trans hseen (hp.meets views seen hseen)
    fun a views s _ hs _ _ => (hf a).meets views s hs⟩

lemma Regular.ite {c : Prop} [Decidable c] {p q : SqlProg (JobsDb τ) StoreError α}
    (hp : Regular p) (hq : Regular q) : Regular (if c then p else q) := by
  split_ifs
  · exact hp
  · exact hq

lemma Regular.read (f : JobsDb τ → α) :
    Regular (Prog.withDb (Prog.select fun s => .ret (f s)) : SqlProg (JobsDb τ) StoreError α) :=
  ⟨fun _ _ _ => .withDb_select fun _ _ _ => .withDb_ret fun _ _ _ => trivial⟩

/-- The rest of a block that opens its transaction now. -/
lemma meets_opening {p : SqlProg (JobsDb τ) StoreError α} (hp : p.Plain) (ho : p.Opens)
    (h : ∀ s, Gapless s → Onward seen s → ∀ a s', p.run Prog.inTransaction s=(.ok a,s') →
      Gapless s' ∧ Onward s s') :
    Prog.Meets Gapless Onward (fun _ _ _ => True) (fun _ _ _ => True) views seen (Prog.withDb p) :=
  .withDb_opening hp ho .refl fun s hs hseen _ a s' hrun => by
    obtain ⟨hsound,honward⟩ := h s hs hseen a s' hrun
    exact ⟨hsound,honward,fun _ _ _ => trivial⟩

/-- The journal advances from the revision that was read, unless another revision came between:
its row stands in the way of a second one. -/
lemma advanceFrom_keeps {args : WriteArgs} {digest : String} {current revision : ℤ}
    {s s' : JobsDb τ} (hs : Gapless s) (hcurrent : 0 ≤ current)
    (hle : current ≤ s.journal.state.revision)
    (hrun : (advanceFrom args digest current).run Prog.inTransaction s=(.ok revision,s')) :
    Gapless s' ∧ Onward s s' := by
  obtain heq | hlt : current=s.journal.state.revision ∨ current < s.journal.state.revision := by
    omega
  · subst heq
    have hadvance := advanceFrom_run args digest hs.bounded s.tables
    obtain ⟨-,rfl⟩ := Prod.mk.inj (hrun.symm.trans hadvance)
    exact hs.advance args digest s.tables.2
  · obtain ⟨row,hrow,hrevision⟩ := hs.row_mem (r := current+1) (by omega) (by omega)
    have hclash : onJournal (insertRevision args digest (current+1))
        { s with journal := updateRevisionState args digest (current+1) s.journal }=
          .error .integrityError := by
      have hany : s.journal.revisions.any (fun row => row.revision=current+1) :=
        List.any_eq_true.mpr ⟨row,hrow,by simpa using hrevision⟩
      simp [onJournal,insertRevision,updateRevisionState,hany,Except.map]
    have hfails : (advanceFrom args digest current).run Prog.inTransaction s=
        (.error .integrityError,
          { s with journal := updateRevisionState args digest (current+1) s.journal }) :=
      (Prog.write_run _ rfl _).trans (Prog.write_run_error hclash _)
    rw [hfails] at hrun
    cases hrun

/-- The advance of a block that has not written yet. -/
lemma advance_meets {args : WriteArgs} {digest : String} {f : ℤ → SqlProg (JobsDb τ) StoreError α}
    (hf : ∀ revision, ∃ a, f revision=.ret a) :
    Prog.Meets Gapless Onward (fun _ _ _ => True) (fun _ _ _ => True) views seen
      (Prog.withDb ((advanceConfigRevisionDb args digest).bind f)) := by
  have hplain : ∀ revision, (f revision).Plain := fun revision => by
    obtain ⟨a,ha⟩ := hf revision
    rw [ha]
    trivial
  refine .call_select fun s hs _ => ?_
  change Prog.Meets _ _ _ _ (s :: views) s
    (Prog.withDb ((advanceFrom args digest s.journal.state.revision).bind f))
  refine meets_opening (Prog.Plain.bind (advanceFrom_plain args digest _) hplain) trivial
    fun t ht hst a t' hrun => ?_
  rw [Prog.run_bind] at hrun
  rcases hadvance : (advanceFrom args digest s.journal.state.revision).run Prog.inTransaction t with
    ⟨e | revision,t''⟩
  · rw [hadvance] at hrun
    cases hrun
  · obtain ⟨b,hb⟩ := hf revision
    rw [hadvance] at hrun
    dsimp only at hrun
    rw [hb] at hrun
    cases hrun
    exact advanceFrom_keeps ht hs.nonneg hst.revision hadvance

/-- The body of a configuration write and the advance behind it. -/
lemma afterCheck_meets (args : WriteArgs) (body : Body τ Unit) :
    Prog.Meets Gapless Onward (fun _ _ _ => True) (fun _ _ _ => True) views seen
      (Prog.withDb (afterCheck args body.onSecond)) := by
  induction body generalizing views seen with
  | ret a => exact advance_meets fun _ => ⟨a,rfl⟩
  | raise e => exact .withDb_raise e
  | call c k ih =>
    cases c with
    | select => exact .call_select fun s _ _ => ih _
    | write f =>
      refine meets_opening (afterCheck_plain args _) trivial fun s hs _ a s' hrun => ?_
      have hbody := afterCheck_run args (Body.onSecond (.call (.write f) k)) hs.bounded s.tables
      rw [show s.tables=(s.tables.1,s.tables.2) from rfl,Body.onSecond_runOn] at hbody
      rw [show s=⟨s.journal,(s.tables.1,s.tables.2)⟩ from rfl,hbody] at hrun
      rcases hresult : (Body.runOn (.call (.write f) k) s.tables.2).1 with e | b
      · rw [hresult] at hrun
        cases hrun
      · rw [hresult] at hrun
        cases hrun
        exact hs.advance args "" _

lemma configWrite_regular (args : WriteArgs) (body : Body τ Unit) :
    Regular (configWrite args body.onSecond) := by
  refine ⟨fun views seen _ => .call_select fun s _ _ => ?_⟩
  cases args.expectedRevision with
  | none => exact afterCheck_meets args body
  | some r =>
    change Prog.Meets _ _ _ _ (s :: views) s (Prog.withDb (Prog.bind (if r=s.journal.state.revision
      then .ret s.journal.state.revision
      else .raise (.configRevisionConflict r s.journal.state.revision))
        fun _ => afterCheck args body.onSecond))
    split_ifs
    · exact afterCheck_meets args body
    · exact .withDb_raise _

lemma ensureConfigRevisionBaseline_regular (actor : String) (now : ℤ)
    (configDigest : JobsDb τ → String) :
    Regular (ensureConfigRevisionBaseline actor now configDigest) := by
  refine .bind (.read _) fun current => .ite (.ret _) (.bind (.read _) fun digest =>
    .bind ⟨fun views seen _ => .call_select fun s _ _ => ?_⟩ fun _ => .read _)
  by_cases h : s.journal.state.revision=0
  · simp only [Prog.ret_bind,h,if_true]
    exact advance_meets fun _ => ⟨(),rfl⟩
  · simp only [Prog.ret_bind,h,if_false]
    refine meets_opening (.update fun _ => trivial) trivial fun t ht _ a t' hrun => ?_
    cases hrun
    exact ⟨⟨ht.revisions,ht.nonneg,ht.events,ht.dispatched,ht.unique,ht.jobs⟩,le_refl _,
      fun _ e he => ⟨e,he,rfl,rfl⟩⟩

section Dispatch
variable {host : Host}

lemma dispatchRows_plain (rows : List (OutboxEvent × ℕ)) (n : ℕ) :
    (dispatchRows host rows n : SqlProg (JobsDb τ) StoreError ℕ).Plain := by
  induction rows generalizing n with
  | nil => trivial
  | cons r rows ih =>
    unfold dispatchRows
    refine .ite (.update fun _ => ih n) (.update fun _ => .select fun db => ?_)
    cases db.tables.1.first fun r' => r'.idempotencyKey=analyticsKey r.1.revision with
    | none => trivial
    | some _ => exact .update fun _ => ih (n+1)

/-- The events that were selected are still in their places, whatever has become of them. -/
def Places (rows : List (OutboxEvent × ℕ)) (s : JobsDb τ) : Prop :=
  ∀ r ∈ rows, ∃ e, s.journal.outbox[r.2]?=some e ∧ e.topic=r.1.topic ∧ e.revision=r.1.revision

lemma Places.onward {rows : List (OutboxEvent × ℕ)} {s t : JobsDb τ} (h : Places rows s)
    (hst : Onward s t) : Places rows t := by
  intro r hr
  obtain ⟨e,he,htopic,hrevision⟩ := h r hr
  obtain ⟨e',he',htopic',hrevision'⟩ := hst.events r.2 e he
  exact ⟨e',he',htopic'.trans htopic,hrevision'.trans hrevision⟩

/-- Each turn of the loop keeps the journal gapless. -/
lemma dispatchRows_keeps {rows : List (OutboxEvent × ℕ)} {n a : ℕ} {s s' : JobsDb τ}
    (hs : Gapless s) (hrows : Places rows s)
    (hrun : (dispatchRows host rows n).run Prog.inTransaction s=(.ok a,s')) :
    Gapless s' ∧ Onward s s' := by
  induction rows generalizing n s with
  | nil =>
    cases hrun
    exact ⟨hs,.refl _⟩
  | cons r rows ih =>
    obtain ⟨e,place⟩ := r
    obtain ⟨e',he',htopic',hrevision'⟩ := hrows (e,place) List.mem_cons_self
    have hrest : Places rows s := fun r hr => hrows r (List.mem_cons_of_mem _ hr)
    unfold dispatchRows at hrun
    by_cases htopic : e.topic="config.changed"
    · rw [if_neg (not_not.mpr htopic)] at hrun
      simp only [Prog.update_run,Prog.select_run] at hrun
      cases hfirst : (insertAnalyticsJob host e.revision s).tables.1.first fun r =>
          r.idempotencyKey=analyticsKey e.revision with
      | none =>
        rw [hfirst] at hrun
        cases hrun
      | some job =>
        rw [hfirst] at hrun
        simp only [Prog.update_run] at hrun
        have hevent := hs.dispatch host he' (htopic'.trans htopic)
        rw [hrevision'] at hevent
        have honward : Onward s (closeEvent place (insertAnalyticsJob host e.revision s)) :=
          .trans s (insertAnalyticsJob host e.revision s) _
            ⟨le_refl _,fun _ e he => ⟨e,he,rfl,rfl⟩⟩ (closeEvent_onward place _)
        obtain ⟨hsound,hrest'⟩ := ih hevent (hrest.onward honward) hrun
        exact ⟨hsound,honward.trans _ _ _ hrest'⟩
    · rw [if_pos htopic] at hrun
      simp only [Prog.update_run] at hrun
      have hevent := hs.ignore he' (htopic' ▸ htopic)
      have honward := closeEvent_onward place s
      obtain ⟨hsound,hrest'⟩ := ih hevent (hrest.onward honward) hrun
      exact ⟨hsound,honward.trans _ _ _ hrest'⟩

lemma pendingEvents_places (limit : ℤ) (s : JobsDb τ) : Places (pendingEvents limit s) s := by
  intro r hr
  have hmem := (List.mem_filter.mp (List.mem_of_mem_take hr)).1
  exact ⟨r.1,List.mem_zipIdx_iff_getElem?.mp hmem,rfl,rfl⟩

lemma dispatchOutbox_regular (host : Host) (limit : ℤ) :
    Regular (dispatchOutboxToBackgroundJobs host limit : SqlProg (JobsDb τ) StoreError ℕ) := by
  refine ⟨fun views seen _ => .withDb_select fun s _ _ => ?_⟩
  have hplaces := pendingEvents_places limit s
  cases hrows : pendingEvents limit s with
  | nil => exact .withDb_ret fun _ _ _ => trivial
  | cons r rows =>
    rw [hrows] at hplaces
    refine meets_opening (dispatchRows_plain _ _) ?_ fun t ht hst a t' hrun =>
      dispatchRows_keeps ht (hplaces.onward hst) hrun
    unfold dispatchRows
    split_ifs <;> trivial

end Dispatch

lemma program_regular (call : JournalCall τ) : Regular call.program := by
  cases call with
  | configWrite args body => exact configWrite_regular args body
  | ensureBaseline actor now configDigest =>
    exact .bind (ensureConfigRevisionBaseline_regular actor now configDigest) fun _ => .ret _
  | dispatch host limit => exact .bind (dispatchOutbox_regular host limit) fun _ => .ret _

end Programs

section Runs
variable {ι τ : Type} [DecidableEq ι]

/-- The calls in front of the tables. -/
def journalCalls (calls : ι → JournalCall τ) (db : JobsDb τ) :
    Config ι (Sql (JobsDb τ) StoreError) Sql.Answer StoreError Unit (Database ι (JobsDb τ)) :=
  ⟨⟨db,none⟩,fun i => (calls i).program⟩

/-- A store in which nothing was written yet. -/
lemma gapless_fresh (t : τ) : Gapless (⟨{},(.empty,t)⟩ : JobsDb τ) :=
  ⟨rfl,le_refl _,rfl,fun _ he => (by cases he),.empty,fun _ _ _ h => (by cases h)⟩

lemma allowed_any {α : Type} (p : SqlProg (JobsDb τ) StoreError α) (s : JobsDb τ) :
    p.Allowed (fun _ _ => True) s := by
  unfold Prog.Allowed
  split <;> trivial

/-- However configuration writes, baselines and dispatchers interleave, the journal stays
gapless and its events stay dispatched to one job each. -/
theorem journal_gapless {calls : ι → JournalCall τ} {db : JobsDb τ} (hdb : Gapless db)
    {c : Config ι (Sql (JobsDb τ) StoreError) Sql.Answer StoreError Unit (Database ι (JobsDb τ))}
    (run : Run (Config.Step Database.serve) anyStep (journalCalls calls db) c) :
    Gapless c.shared.committed := by
  obtain ⟨views,hwatched⟩ := Watched.of_run (allowedBy fun _ _ _ _ => True)
    (fun _ _ _ _ _ => allowed_any _ _) run fun _ => []
  exact (Prog.Meets.run .refl .trans hdb (fun i => (program_regular (calls i)).meets [] db hdb)
    hwatched).1

/-- A write, its dispatcher and a second one that has selected the same event. -/
def sampleCalls : Fin 3 → JournalCall Unit
  | 0 => .configWrite {} (.ret ())
  | 1 => .dispatch {} 50
  | 2 => .dispatch {} 50

def sampleSchedule : List (Fin 3) :=
  List.replicate 6 0 ++ [1,2] ++ List.replicate 4 2 ++ List.replicate 4 1

lemma sample_ends : (Config.exec Database.serve (fun _ _ => true) sampleSchedule
    (journalCalls sampleCalls ⟨{},(.empty,())⟩)).isSome := by decide

lemma sample_dispatched : (((Config.exec Database.serve (fun _ _ => true) sampleSchedule
    (journalCalls sampleCalls ⟨{},(.empty,())⟩)).get
      sample_ends).shared.committed.journal.outbox.map OutboxEvent.status)=[.dispatched] := by
  decide

/-- Two dispatchers of one event. -/
theorem journal_gapless_dispatched : ∃ c : Config (Fin 3) (Sql (JobsDb Unit) StoreError)
    Sql.Answer StoreError Unit (Database (Fin 3) (JobsDb Unit)),
    c.shared.committed.journal.outbox.map OutboxEvent.status=[.dispatched] ∧
      Gapless c.shared.committed := by
  have hrun := (Config.exec_run (Option.some_get sample_ends).symm).mono fun _ _ _ => trivial
  exact ⟨_,sample_dispatched,journal_gapless (gapless_fresh ()) hrun⟩

end Runs
end ZenControl
