import ZenControl.Attention.Suppression
import ZenControl.Attention.Monitor
import Mathlib.Data.List.Induction

/-! What a run of sightings leaves under a fingerprint. A sighting always succeeds, it opens its
incident under its own source, and only an incident that an operator has silenced stays closed
until the retention drops it. -/
namespace ZenControl.Attention
open Rows Histories

/-- A signal with the clock at which it was recorded. -/
abbrev Sighting := Signal × Host

namespace Sighting

/-- The source under which a sighting is stored. -/
def source (c : Sighting) : String := c.1.args.normalized.source

/-- The fingerprint under which a sighting is stored. -/
def fingerprint (c : Sighting) : String := c.1.args.normalized.fingerprint

/-- The row of the fingerprint after a sighting. -/
def row (c : Sighting) : Option Incident → Incident
  | none => c.1.args.normalized.created c.2.now
  | some r => r.upserted c.1.args.normalized c.2.now

/-- The call that a sighting is. -/
def request (c : Sighting) : Request := ⟨c.2,.upsertIncident c.1.args⟩

end Sighting

namespace Desk

/-- An incident of a fingerprint stands open under a source. -/
def StandsOpen (desk : Desk) (fingerprint source : String) : Prop :=
  ∃ k r, desk.incidents.find k=some r ∧ r.fingerprint=fingerprint ∧ r.source=source ∧
    r.status≠.resolved

/-- An incident of a fingerprint is silenced, and no retention of the sightings drops it. -/
def Silenced (desk : Desk) (fingerprint : String) (sightings : List Sighting) : Prop :=
  ∃ k r, desk.incidents.find k=some r ∧ r.fingerprint=fingerprint ∧ r.Suppressed ∧
    ∀ c ∈ sightings, r.expired c.2.now desk.retentionDays=false

/-- The incident of a fingerprint that a run of sightings leaves open under a source: the last
sighting of the fingerprint decides, and without one the incident that stood before. -/
def LeftOpen (desk : Desk) (sightings : List Sighting) (fingerprint source : String) : Prop :=
  ((∀ c ∈ sightings, c.fingerprint≠fingerprint) ∧ desk.StandsOpen fingerprint source) ∨
    ∃ before c later, sightings=before ++ c :: later ∧ c.fingerprint=fingerprint ∧
      c.source=source ∧ (∀ c ∈ later, c.fingerprint≠fingerprint) ∧
      ¬desk.Silenced fingerprint before

end Desk

/-- A signal whose fingerprint is not blank. -/
def Signal.Named (signal : Signal) : Prop := signal.args.normalized.fingerprint≠""

section Calls
variable (p : Platform) (host : Host)

/-- The notification of an incident is always stored. -/
lemma syncIncidentNotification_ok (id : ℕ) (incident : Incident) (action : IncidentAction)
    (actor : String) (desk : Desk) :
    ∃ desk', syncIncidentNotification p host id incident action actor desk=.ok desk' := by
  have hstore (raiseAttention increment : Bool) (e : StoreError) :
      upsertNotificationDb p host (syncArgs id incident raiseAttention increment) desk≠
        .error e := by
    unfold upsertNotificationDb
    rw [if_neg (syncArgs_stored _ _ _ _)]
    intro h
    cases h
  unfold syncIncidentNotification
  dsimp only
  split
  · split
    · rename_i herror
      exact absurd herror (hstore _ _ _)
    · exact ⟨_,rfl⟩
  split
  · split
    · rename_i herror
      exact absurd herror (hstore _ _ _)
    · exact ⟨_,rfl⟩
  · exact ⟨_,rfl⟩

/-- A sighting with a fingerprint succeeds. -/
lemma upsertIncident_succeeds {args : IncidentArgs} (h : args.normalized.fingerprint≠"")
    (desk : Desk) : ∃ result, upsertIncident p host args desk=.ok result := by
  unfold upsertIncident
  rw [if_neg h]
  unfold sightIncident
  dsimp only
  split
  · rename_i herror
    split at herror
    all_goals
      obtain ⟨desk',hsync⟩ := syncIncidentNotification_ok p host _ _ _ _ _
      rw [hsync] at herror
      cases herror
  · exact ⟨_,rfl⟩

end Calls

/-- The incidents after a sighting: the row `id` of the fingerprint is opened or updated, the
other rows stay, and then the retention drops what is expired. -/
structure Sighted (c : Sighting) (id : ℕ) (desk desk' : Desk) : Prop where
  find : ∀ k, desk'.incidents.find k=(if k=id then some (c.row (desk.incidents.find id))
    else desk.incidents.find k).filter fun r => !r.expired c.2.now desk.retentionDays
  id_iff : ∀ {k r}, desk.incidents.find k=some r → (r.fingerprint=c.fingerprint ↔ k=id)
  days : desk'.retentionDays=desk.retentionDays

lemma Sighting.sighted {p : Platform} (c : Sighting) {desk : Desk} (hnamed : c.1.Named)
    (hunique : desk.incidents.Unique Incident.fingerprint) :
    ∃ id, Sighted c id desk (c.request.next p desk) := by
  obtain ⟨⟨reply,desk'⟩,hok⟩ := upsertIncident_succeeds p c.2 hnamed desk
  have hnext : c.request.next p desk=desk' := by
    simp only [Request.next,request,DeskCall.commit,hok,Call.commit]
  rw [hnext]
  obtain ⟨-,middle,hsight,rfl⟩ := upsertIncident_ok p c.2 hok
  rcases sightIncident_cases p c.2 hsight with ⟨id,row,hfirst,-,hothers⟩ | ⟨hnone,-,hothers⟩
  · have hdays : middle.retentionDays=desk.retentionDays :=
      (Desk.retentionDays_eq hothers).trans rfl
    have htable : middle.incidents=
        desk.incidents.modify id (.upserted c.1.args.normalized c.2.now) :=
      Desk.incidents_eq hothers
    obtain ⟨hrow,hfound⟩ := Table.first_some hfirst
    have hprint : row.fingerprint=c.fingerprint := of_decide_eq_true hfound
    refine ⟨id,fun k => ?_,fun {k r} hr => ?_,hdays⟩
    · simp only [Desk.expireIncidents,Table.find_delete,hdays,htable,Table.find_modify]
      by_cases hk : k=id
      · simp only [hk,if_true,hrow,Option.map_some,Sighting.row]
      · simp only [hk,if_false]
    · constructor
      · intro hr'
        exact hunique _ _ _ _ hr hrow (hr'.trans hprint.symm)
      · rintro rfl
        obtain rfl : row=r := Option.some.inj (hrow.symm.trans hr)
        exact hprint
  · have hdays : middle.retentionDays=desk.retentionDays :=
      (Desk.retentionDays_eq hothers).trans rfl
    have htable : middle.incidents=
        desk.incidents.insert (c.1.args.normalized.created c.2.now) := Desk.incidents_eq hothers
    refine ⟨desk.incidents.next,fun k => ?_,fun {k r} hr => ?_,hdays⟩
    · simp only [Desk.expireIncidents,Table.find_delete,hdays,htable,Table.find_insert,
        Table.find_next,Sighting.row]
    · constructor
      · intro hr'
        exact absurd hr' (of_decide_eq_false (Table.first_none hnone hr))
      · rintro rfl
        rw [Table.find_next] at hr
        cases hr

section Rows

lemma Incident.not_expired {r : Incident} (h : r.status≠.resolved) (now days : ℤ) :
    r.expired now days=false := by
  simp [Incident.expired,h]

lemma Incident.upserted_open {r : Incident} (h : ¬r.Suppressed) (args : IncidentArgs)
    (now : ℤ) : (r.upserted args now).status≠.resolved := by
  unfold Incident.upserted
  split_ifs with hres
  · intro hopen
    cases hopen
  · intro hstatus
    have hstatus : r.status=.resolved := hstatus
    refine h ⟨hstatus,?_⟩
    cases hs : r.suppressUntilClear with
    | true => rfl
    | false => exact absurd ⟨hstatus,hs⟩ hres

lemma Incident.sighted_expired (r : Incident) (args : IncidentArgs) (seen now days : ℤ) :
    (r.sighted args seen).expired now days=r.expired now days := rfl

lemma Incident.sighted_fingerprint (r : Incident) (args : IncidentArgs) (now : ℤ) :
    (r.sighted args now).fingerprint=r.fingerprint := rfl

lemma Incident.upserted_source (r : Incident) (args : IncidentArgs) (now : ℤ) :
    (r.upserted args now).source=args.source := by
  unfold upserted
  split_ifs <;> rfl

namespace Sighting
variable (c : Sighting)

lemma row_source (old : Option Incident) : (c.row old).source=c.source := by
  cases old with
  | none => simp only [row,IncidentArgs.created,source]
  | some r => simp only [row,Incident.upserted_source,source]

lemma row_fingerprint {old : Option Incident} (h : ∀ r, old=some r → r.fingerprint=c.fingerprint) :
    (c.row old).fingerprint=c.fingerprint := by
  cases old with
  | none => simp only [row,IncidentArgs.created,fingerprint]
  | some r =>
    simp only [row,Incident.upserted_fingerprint]
    exact h r rfl

/-- A sighting opens its incident unless it was silenced. -/
lemma row_open {old : Option Incident} :
    (c.row old).status≠.resolved ↔ ∀ r, old=some r → ¬r.Suppressed := by
  cases old with
  | none => simp [row,IncidentArgs.created]
  | some r =>
    simp only [row,Option.some.injEq,forall_eq']
    constructor
    · intro hopen hsuppressed
      rw [hsuppressed.upserted,Incident.sighted_status] at hopen
      exact hopen hsuppressed.1
    · exact fun h => Incident.upserted_open h _ _

/-- What is silenced after a sighting was silenced before, and was sighted once more. -/
lemma row_suppressed {old : Option Incident} (h : (c.row old).Suppressed) :
    ∃ r, old=some r ∧ r.Suppressed ∧ c.row old=r.sighted c.1.args.normalized c.2.now := by
  by_contra hnone
  refine c.row_open.mpr (fun r hr hs => hnone ⟨r,hr,hs,?_⟩) h.1
  rw [hr]
  exact hs.upserted _ _

end Sighting
end Rows

namespace Sighted
variable {c : Sighting} {id : ℕ} {desk desk' : Desk} {fingerprint source : String}

/-- The row of the fingerprint, before and after. -/
lemma find_id (h : Sighted c id desk desk') : desk'.incidents.find id=
    (some (c.row (desk.incidents.find id))).filter
      fun r => !r.expired c.2.now desk.retentionDays := by
  rw [h.find,if_pos rfl]

lemma find_other (h : Sighted c id desk desk') {k : ℕ} (hk : k≠id) : desk'.incidents.find k=
    (desk.incidents.find k).filter fun r => !r.expired c.2.now desk.retentionDays := by
  rw [h.find,if_neg hk]

/-- The row of the sighting has its fingerprint. -/
lemma row_fingerprint (h : Sighted c id desk desk') :
    (c.row (desk.incidents.find id)).fingerprint=c.fingerprint :=
  c.row_fingerprint fun _ hr => (h.id_iff hr).mpr rfl

/-- The incident of the sighting: it is open unless it was silenced. -/
lemma standsOpen_of_eq (h : Sighted c id desk desk') :
    desk'.StandsOpen c.fingerprint source ↔
      c.source=source ∧ ¬desk.Silenced c.fingerprint [] := by
  constructor
  · rintro ⟨k,r',hr',hprint,hsource,hopen⟩
    by_cases hk : k=id
    · rw [hk,h.find_id,Option.filter_eq_some_iff] at hr'
      obtain rfl : c.row (desk.incidents.find id)=r' := Option.some.inj hr'.1
      refine ⟨(c.row_source _).symm.trans hsource,?_⟩
      rintro ⟨i,r,hr,hri,hsuppressed,-⟩
      rw [(h.id_iff hr).mp hri] at hr
      exact c.row_open.mp hopen r hr hsuppressed
    · rw [h.find_other hk,Option.filter_eq_some_iff] at hr'
      exact absurd ((h.id_iff hr'.1).mp hprint) hk
  · rintro ⟨hsource,hquiet⟩
    have hopen : (c.row (desk.incidents.find id)).status≠.resolved :=
      c.row_open.mpr fun r hr hs => hquiet ⟨id,r,hr,(h.id_iff hr).mpr rfl,hs,by simp⟩
    refine ⟨id,c.row (desk.incidents.find id),?_,h.row_fingerprint,?_,hopen⟩
    · rw [h.find_id,Option.filter_eq_some_iff,Incident.not_expired hopen]
      exact ⟨rfl,rfl⟩
    · rw [c.row_source]
      exact hsource

/-- Every other incident stays as it is, as long as it is open. -/
lemma standsOpen_of_ne (h : Sighted c id desk desk') (hprint : c.fingerprint≠fingerprint) :
    desk'.StandsOpen fingerprint source ↔ desk.StandsOpen fingerprint source := by
  constructor
  · rintro ⟨k,r,hr,hr',hsource,hopen⟩
    by_cases hk : k=id
    · rw [hk,h.find_id,Option.filter_eq_some_iff] at hr
      obtain rfl : c.row (desk.incidents.find id)=r := Option.some.inj hr.1
      exact absurd (h.row_fingerprint.symm.trans hr') hprint
    · rw [h.find_other hk,Option.filter_eq_some_iff] at hr
      exact ⟨k,r,hr.1,hr',hsource,hopen⟩
  · rintro ⟨k,r,hr,hr',hsource,hopen⟩
    have hk : k≠id := fun hk => hprint (((h.id_iff hr).mpr hk).symm.trans hr')
    refine ⟨k,r,?_,hr',hsource,hopen⟩
    rw [h.find_other hk,Option.filter_eq_some_iff,Incident.not_expired hopen]
    exact ⟨hr,rfl⟩

/-- A silenced incident stays silenced, sighted or not, until the retention drops it. -/
lemma silenced (h : Sighted c id desk desk') (sightings : List Sighting) :
    desk'.Silenced fingerprint sightings ↔ desk.Silenced fingerprint (c :: sightings) := by
  constructor
  · rintro ⟨k,r',hr',hprint,hsuppressed,hkept⟩
    rw [h.days] at hkept
    by_cases hk : k=id
    · rw [hk,h.find_id,Option.filter_eq_some_iff] at hr'
      obtain rfl : c.row (desk.incidents.find id)=r' := Option.some.inj hr'.1
      obtain ⟨r,hr,hrow,hsighted⟩ := c.row_suppressed hsuppressed
      refine ⟨id,r,hr,?_,hrow,?_⟩
      · exact ((h.id_iff hr).mpr rfl).trans (h.row_fingerprint.symm.trans hprint)
      · simp only [hsighted,Incident.sighted_expired] at hkept hr'
        rintro c' (_ | ⟨_,hc'⟩)
        · exact Bool.not_eq_true' _ |>.mp hr'.2
        · exact hkept c' hc'
    · rw [h.find_other hk,Option.filter_eq_some_iff] at hr'
      refine ⟨k,r',hr'.1,hprint,hsuppressed,?_⟩
      rintro c' (_ | ⟨_,hc'⟩)
      · exact Bool.not_eq_true' _ |>.mp hr'.2
      · exact hkept c' hc'
  · rintro ⟨k,r,hr,hprint,hsuppressed,hkept⟩
    have hlast := hkept c List.mem_cons_self
    have hlater : ∀ c' ∈ sightings, r.expired c'.2.now desk'.retentionDays=false := by
      intro c' hc'
      rw [h.days]
      exact hkept c' (List.mem_cons_of_mem _ hc')
    by_cases hk : k=id
    · subst hk
      have hrow : c.row (desk.incidents.find k)=r.sighted c.1.args.normalized c.2.now := by
        rw [hr]
        exact hsuppressed.upserted _ _
      refine ⟨k,r.sighted c.1.args.normalized c.2.now,?_,?_,hsuppressed.sighted _ _,?_⟩
      · rw [h.find_id,Option.filter_eq_some_iff,hrow,Incident.sighted_expired]
        exact ⟨rfl,(Bool.not_eq_true' _).mpr hlast⟩
      · rw [Incident.sighted_fingerprint]
        exact hprint
      · simp only [Incident.sighted_expired]
        exact hlater
    · refine ⟨k,r,?_,hprint,hsuppressed,hlater⟩
      rw [h.find_other hk,Option.filter_eq_some_iff]
      exact ⟨hr,(Bool.not_eq_true' _).mpr hlast⟩

end Sighted

section Runs
variable {p : Platform} {desk : Desk} {fingerprint source : String}

/-- The tables after a run of sightings. -/
def Desk.seen (p : Platform) (desk : Desk) (sightings : List Sighting) : Desk :=
  after (Request.next p) (sightings.map Sighting.request) desk

lemma Desk.seen_cons (c : Sighting) (sightings : List Sighting) :
    desk.seen p (c :: sightings)=(c.request.next p desk).seen p sightings := by
  simp only [Desk.seen,List.map_cons,after]

lemma Desk.seen_append (sightings sightings' : List Sighting) :
    desk.seen p (sightings ++ sightings')=(desk.seen p sightings).seen p sightings' := by
  unfold Desk.seen
  rw [List.map_append,after_append]

lemma Desk.seen_unique (sightings : List Sighting)
    (h : desk.incidents.Unique Incident.fingerprint) :
    (desk.seen p sightings).incidents.Unique Incident.fingerprint :=
  after_invariant (P:=fun _ => True)
    (I:=fun desk : Desk => desk.incidents.Unique Incident.fingerprint) (fun _ _ => trivial) h
    fun q s _ hs => (q.incident_change p s).unique hs

lemma Desk.silenced_seen {sightings : List Sighting} (hnamed : ∀ c ∈ sightings, c.1.Named)
    (hunique : desk.incidents.Unique Incident.fingerprint) (later : List Sighting) :
    (desk.seen p sightings).Silenced fingerprint later ↔
      desk.Silenced fingerprint (sightings ++ later) := by
  induction sightings generalizing desk with
  | nil => rfl
  | cons c sightings ih =>
    obtain ⟨id,hstep⟩ := c.sighted (p:=p) (hnamed c List.mem_cons_self) hunique
    rw [Desk.seen_cons]
    have hrest := ih (fun c' hc' => hnamed c' (List.mem_cons_of_mem _ hc'))
      ((c.request.incident_change p desk).unique hunique)
    exact hrest.trans (hstep.silenced _)

/-- What a run of sightings leaves open. -/
theorem Desk.seen_standsOpen {sightings : List Sighting} (hnamed : ∀ c ∈ sightings, c.1.Named)
    (hunique : desk.incidents.Unique Incident.fingerprint) :
    (desk.seen p sightings).StandsOpen fingerprint source ↔
      desk.LeftOpen sightings fingerprint source := by
  induction sightings using List.reverseRecOn with
  | nil =>
    constructor
    · exact fun h => .inl ⟨by simp,h⟩
    · rintro (h | ⟨before,c,later,hnil,-⟩)
      · exact h.2
      · simp at hnil
  | append_singleton sightings c ih =>
    have hbefore : ∀ c' ∈ sightings, c'.1.Named := fun c' hc' =>
      hnamed c' (List.mem_append_left _ hc')
    obtain ⟨id,hstep⟩ := c.sighted (p:=p) (hnamed c (by simp))
      (Desk.seen_unique (p:=p) sightings hunique)
    have hseen : desk.seen p (sightings ++ [c])=c.request.next p (desk.seen p sightings) := by
      rw [Desk.seen_append,Desk.seen_cons]
      simp only [Desk.seen,List.map_nil,after]
    rw [hseen]
    by_cases hc : c.fingerprint=fingerprint
    · subst hc
      rw [hstep.standsOpen_of_eq,Desk.silenced_seen hbefore hunique,List.append_nil]
      constructor
      · rintro ⟨hsource,hquiet⟩
        exact .inr ⟨sightings,c,[],rfl,rfl,hsource,by simp,hquiet⟩
      · rintro (⟨hnone,-⟩ | ⟨before,c',later,hsplit,-,hsource,hlater,hquiet⟩)
        · exact absurd rfl (hnone c (by simp))
        · rcases List.eq_nil_or_concat later with rfl | ⟨later,last,rfl⟩
          · obtain ⟨rfl,hlast⟩ := List.append_inj' hsplit rfl
            obtain rfl : c=c' := by simpa using hlast
            exact ⟨hsource,hquiet⟩
          · rw [List.concat_eq_append] at hsplit hlater
            have hsplit' : sightings ++ [c]=(before ++ c' :: later) ++ [last] := by
              simpa using hsplit
            obtain rfl : c=last := by simpa using (List.append_inj' hsplit' rfl).2
            exact absurd rfl (hlater c (by simp))
    · rw [hstep.standsOpen_of_ne hc,ih hbefore]
      constructor
      · rintro (⟨hnone,hopen⟩ | ⟨before,c',later,rfl,hprint,hsource,hlater,hquiet⟩)
        · refine .inl ⟨fun c' hc' => ?_,hopen⟩
          rcases List.mem_append.mp hc' with hc' | hc'
          · exact hnone c' hc'
          · rwa [List.mem_singleton.mp hc']
        · refine .inr ⟨before,c',later ++ [c],by simp,hprint,hsource,fun c'' hc'' => ?_,hquiet⟩
          rcases List.mem_append.mp hc'' with hc'' | hc''
          · exact hlater c'' hc''
          · rwa [List.mem_singleton.mp hc'']
      · rintro (⟨hnone,hopen⟩ | ⟨before,c',later,hsplit,hprint,hsource,hlater,hquiet⟩)
        · exact .inl ⟨fun c' hc' => hnone c' (List.mem_append_left _ hc'),hopen⟩
        · rcases List.eq_nil_or_concat later with rfl | ⟨later,last,rfl⟩
          · obtain ⟨-,hlast⟩ := List.append_inj' hsplit rfl
            obtain rfl : c=c' := by simpa using hlast
            exact absurd hprint hc
          · rw [List.concat_eq_append] at hsplit hlater
            have hsplit' : sightings ++ [c]=(before ++ c' :: later) ++ [last] := by
              simpa using hsplit
            obtain ⟨rfl,-⟩ := List.append_inj' hsplit' rfl
            exact .inr ⟨before,c',later,rfl,hprint,hsource,
              fun c'' hc'' => hlater c'' (List.mem_append_left _ hc''),hquiet⟩

end Runs
end ZenControl.Attention
