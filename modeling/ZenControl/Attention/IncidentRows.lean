import ZenControl.Attention.Frames

/-! What the calls do to the incidents: one description of what becomes of a row, for every
call. A row is dropped only by the retention of a sighting, and no two rows have the same
fingerprint. -/
namespace ZenControl.Attention
open Rows

namespace Incident

/-- What a scan without the fingerprint makes of an incident. -/
def cleared (now : ℤ) (actor : String) (r : Incident) : Incident :=
  if r.status≠.resolved then r.resolve now actor clearedResolution false
  else if r.suppressUntilClear then { r with suppressUntilClear := false, updatedAt := now }
  else r

@[simp] lemma upserted_fingerprint (args : IncidentArgs) (now : ℤ) (r : Incident) :
    (r.upserted args now).fingerprint=r.fingerprint := by
  unfold upserted
  split_ifs <;> rfl

@[simp] lemma acknowledge_fingerprint (now : ℤ) (actor : String) (r : Incident) :
    (r.acknowledge now actor).fingerprint=r.fingerprint := rfl

@[simp] lemma resolve_fingerprint (now : ℤ) (actor resolution : String) (suppress : Bool)
    (r : Incident) : (r.resolve now actor resolution suppress).fingerprint=r.fingerprint := rfl

@[simp] lemma cleared_fingerprint (now : ℤ) (actor : String) (r : Incident) :
    (r.cleared now actor).fingerprint=r.fingerprint := by
  unfold cleared
  split_ifs <;> rfl

/-- Whether a scan is one of the incident's source that did not find it. -/
def ClearedBy (source : String) (active : List String) (r : Incident) : Prop :=
  clip (strip source) 120≠"" ∧ r.source=clip (strip source) 120 ∧ r.fingerprint ∉ active

instance (source : String) (active : List String) (r : Incident) :
    Decidable (r.ClearedBy source active) :=
  inferInstanceAs (Decidable (_ ∧ _ ∧ _))

end Incident

/-- What one incident becomes of a call. -/
inductive IncidentMoved (now : ℤ) (k : ℕ) (r : Incident) : DeskCall → Incident → Prop
  | kept {call} : IncidentMoved now k r call r
  | sighted {args} (h : r.fingerprint=args.normalized.fingerprint) :
    IncidentMoved now k r (.upsertIncident args) (r.upserted args.normalized now)
  | acknowledged {actor by'} (h : r.status≠.resolved) :
    IncidentMoved now k r (.acknowledgeIncident k actor) (r.acknowledge now by')
  | resolved {actor resolution suppress by' text} :
    IncidentMoved now k r (.resolveIncident k actor resolution suppress)
      (r.resolve now by' text suppress)
  | cleared {source active actor} (h : r.ClearedBy source active) :
    IncidentMoved now k r (.resolveInactive source active actor) (r.cleared now actor)

/-- A row that the retention of a sighting drops after it. -/
def RetentionDrops (host : Host) (call : DeskCall) (desk : Desk) (r' : Incident) : Prop :=
  (∃ args, call=.upsertIncident args) ∧ r'.expired host.now desk.retentionDays

/-- The incidents before and after a call. -/
structure IncidentChange (host : Host) (call : DeskCall) (desk desk' : Desk) : Prop where
  row : ∀ {k r}, desk.incidents.find k=some r → ∃ r', IncidentMoved host.now k r call r' ∧
    (desk'.incidents.find k=some r' ∨
      desk'.incidents.find k=none ∧ RetentionDrops host call desk r')
  unique : desk.incidents.Unique Incident.fingerprint →
    desk'.incidents.Unique Incident.fingerprint

namespace IncidentChange
variable {host : Host} {call : DeskCall} {desk desk' : Desk}

lemma of_eq (h : desk'.incidents=desk.incidents) : IncidentChange host call desk desk' where
  row hr := ⟨_,.kept,.inl (by rw [h]; exact hr)⟩
  unique hu := by rw [h]; exact hu

lemma of_modify (id : ℕ) (f : Incident → Incident)
    (h : desk'.incidents=desk.incidents.modify id f)
    (hf : ∀ r, desk.incidents.find id=some r → IncidentMoved host.now id r call (f r))
    (hkey : ∀ r, (f r).fingerprint=r.fingerprint) : IncidentChange host call desk desk' where
  row {k r} hr := by
    rw [h,Table.find_modify,hr]
    split_ifs with hk
    · subst hk
      exact ⟨f r,hf r hr,.inl rfl⟩
    · exact ⟨r,.kept,.inl rfl⟩
  unique hu := by rw [h]; exact hu.update hkey

end IncidentChange

section Calls
variable (p : Platform) (host : Host)

/-- The two ways of a sighting: a known fingerprint, or a new one. -/
lemma sightIncident_cases {args : IncidentArgs} {desk desk' : Desk} {reply : IncidentReply}
    (h : sightIncident p host args desk=.ok (reply,desk')) :
    (∃ id row, desk.incidents.first (fun r => r.fingerprint=args.fingerprint)=some (id,row) ∧
      reply=⟨id,row.upserted args host.now,row.action args⟩ ∧
      desk'.others=({ desk with
        incidents := desk.incidents.modify id (.upserted args host.now) } : Desk).others) ∨
    (desk.incidents.first (fun r => r.fingerprint=args.fingerprint)=none ∧
      reply=⟨desk.incidents.next,args.created host.now,.opened⟩ ∧
      desk'.others=({ desk with
        incidents := desk.incidents.insert (args.created host.now) } : Desk).others) := by
  unfold sightIncident at h
  dsimp only at h
  split at h
  · rename_i hnone
    split at h
    · cases h
    · rename_i hsync
      cases h
      exact .inr ⟨hnone,rfl,syncIncidentNotification_others p host hsync⟩
  · rename_i id row hsome
    split at h
    · cases h
    · rename_i hsync
      cases h
      exact .inl ⟨id,row,hsome,rfl,syncIncidentNotification_others p host hsync⟩

lemma clearIncident_incidents (actor : String) {k : ℕ} {r : Incident} {desk : Desk}
    (hr : desk.incidents.find k=some r) (i : ℕ) :
    (clearIncident host actor (k,r) desk).incidents.find i=
      if i=k then some (r.cleared host.now actor) else desk.incidents.find i := by
  have hmodify (f : Incident → Incident) : (desk.incidents.modify k f).find i=
      if i=k then some (f r) else desk.incidents.find i := by
    rw [Table.find_modify]
    split_ifs with hi
    · rw [hi,hr]; rfl
    · rfl
  unfold clearIncident Incident.cleared
  by_cases hs : r.status≠.resolved
  · rw [if_pos hs,if_pos hs,Desk.incidents_eq (resolveNotificationDb_others host _ _ _ _)]
    exact hmodify _
  rw [if_neg hs,if_neg hs]
  by_cases hc : r.suppressUntilClear
  · rw [if_pos hc,if_pos hc]
    exact hmodify _
  rw [if_neg hc,if_neg hc]
  split_ifs with hi
  · rw [hi,hr]
  · rfl

/-- A scan clears the rows of its source that it did not find, each of them once. -/
lemma clearEach_incidents (actor : String) {rows : List (ℕ × Incident)}
    (hrows : rows.Pairwise fun r r' => r.1 < r'.1) {desk : Desk}
    (hfind : ∀ r ∈ rows, desk.incidents.find r.1=some r.2) (k : ℕ) :
    (rows.foldl (fun desk r => clearIncident host actor r desk) desk).incidents.find k=
      (desk.incidents.find k).map fun r =>
        if k ∈ rows.map Prod.fst then r.cleared host.now actor else r :=
  Table.find_foldl Desk.incidents (fun desk r => clearIncident host actor r desk)
    (fun _ _ _ hr => clearIncident_incidents host actor hr) hrows hfind k

/-- The change of a sighting with its retention. -/
lemma upsertIncident_change {args : IncidentArgs} {desk desk' : Desk} {reply : IncidentReply}
    (h : sightIncident p host args.normalized desk=.ok (reply,desk')) :
    IncidentChange host (.upsertIncident args) desk (desk'.expireIncidents host) := by
  have hdrop (r' : Incident) (k : ℕ) (hr' : desk'.incidents.find k=some r')
      (hdays : desk'.retentionDays=desk.retentionDays) :
      (desk'.expireIncidents host).incidents.find k=some r' ∨
        (desk'.expireIncidents host).incidents.find k=none ∧
          RetentionDrops host (.upsertIncident args) desk r' := by
    simp only [Desk.expireIncidents,Table.find_delete,hr',hdays]
    cases he : r'.expired host.now desk.retentionDays with
    | true => exact .inr ⟨by simp [Option.filter,he],⟨args,rfl⟩,he⟩
    | false => exact .inl (by simp [Option.filter,he])
  rcases sightIncident_cases p host h with
    ⟨id,row,hfirst,-,hothers⟩ | ⟨hnone,-,hothers⟩
  · have htable := Desk.incidents_eq hothers
    have hdays : desk'.retentionDays=desk.retentionDays :=
      (Desk.retentionDays_eq hothers).trans rfl
    refine ⟨fun {k r} hr => ?_,fun hu => ?_⟩
    · by_cases hk : k=id
      · subst hk
        obtain ⟨hrow,hkey⟩ := Table.first_some hfirst
        obtain rfl : row=r := Option.some.inj (hrow.symm.trans hr)
        refine ⟨_,.sighted (by simpa using hkey),hdrop _ _ ?_ hdays⟩
        rw [htable,Table.find_modify,if_pos rfl,hr]; rfl
      · refine ⟨r,.kept,hdrop _ _ ?_ hdays⟩
        rw [htable,Table.find_modify,if_neg hk,hr]
    · refine Table.Unique.delete ?_
      rw [htable]
      exact hu.update (Incident.upserted_fingerprint _ _)
  · have htable := Desk.incidents_eq hothers
    have hdays : desk'.retentionDays=desk.retentionDays :=
      (Desk.retentionDays_eq hothers).trans rfl
    refine ⟨fun {k r} hr => ?_,fun hu => ?_⟩
    · refine ⟨r,.kept,hdrop _ _ ?_ hdays⟩
      rw [htable]
      exact Table.find_insert_of_find hr
    · refine Table.Unique.delete ?_
      rw [htable]
      refine hu.insert fun k r hr hkey => ?_
      have hne : ¬r.fingerprint=args.normalized.fingerprint := by
        simpa using Table.first_none hnone hr
      exact hne hkey

/-- The change of a scan. -/
lemma clearInactive_change {source actor : String} {active : List String}
    (hsource : clip (strip source) 120≠"") (desk : Desk) :
    IncidentChange host (.resolveInactive source active actor) desk
      ((desk.incidents.select fun _ r => r.source=clip (strip source) 120 &&
        decide (r.fingerprint ∉ active)).foldl
          (fun desk r => clearIncident host actor r desk) desk) := by
  have hrows : (desk.incidents.select fun _ r => r.source=clip (strip source) 120 &&
      decide (r.fingerprint ∉ active)).Pairwise fun r r' => r.1 < r'.1 :=
    desk.incidents.increasing.filter _
  have hmem (r : ℕ × Incident) : r ∈ (desk.incidents.select fun _ r =>
      r.source=clip (strip source) 120 && decide (r.fingerprint ∉ active)) →
      desk.incidents.find r.1=some r.2 ∧ r.2.ClearedBy source active := by
    intro hr
    obtain ⟨hfind,hcond⟩ := Table.mem_select.mp hr
    simp only [Bool.and_eq_true,decide_eq_true_eq] at hcond
    exact ⟨hfind,hsource,hcond⟩
  generalize (desk.incidents.select fun _ r => r.source=clip (strip source) 120 &&
    decide (r.fingerprint ∉ active))=rows at hrows hmem ⊢
  have hfind := clearEach_incidents host actor hrows fun r hr => (hmem r hr).1
  refine ⟨fun {k r} hr => ?_,fun hu => ?_⟩
  · refine ⟨_,?_,.inl ((hfind k).trans (by rw [hr]; rfl))⟩
    dsimp only
    split_ifs with hk
    · obtain ⟨⟨i,row⟩,hrow,rfl⟩ := List.mem_map.mp hk
      obtain ⟨hi,hcleared⟩ := hmem _ hrow
      obtain rfl : row=r := Option.some.inj (hi.symm.trans hr)
      exact .cleared hcleared
    · exact .kept
  · intro k k' a a' ha ha' hkey
    rw [hfind] at ha ha'
    obtain ⟨r,hr,rfl⟩ := Option.map_eq_some_iff.mp ha
    obtain ⟨r',hr',rfl⟩ := Option.map_eq_some_iff.mp ha'
    refine hu k k' r r' hr hr' ?_
    split_ifs at hkey <;> simpa only [Incident.cleared_fingerprint] using hkey

/-- What a request does to the incidents. -/
theorem Request.incident_change (request : Request) (desk : Desk) :
    IncidentChange request.host request.call desk (request.next p desk) := by
  obtain ⟨host,call⟩ := request
  cases hi : call.onIncidents with
  | false => exact .of_eq (DeskCall.commit_incidents p host hi desk)
  | true =>
    cases call with
    | upsertIncident args =>
      simp only [next,DeskCall.commit,Attention.upsertIncident]
      split_ifs
      · exact .of_eq rfl
      split
      · exact .of_eq rfl
      rename_i reply desk' hs
      exact upsertIncident_change p host hs
    | acknowledgeIncident id actor =>
      simp only [next,DeskCall.commit,Attention.acknowledgeIncident]
      split
      · exact .of_eq rfl
      · rename_i row hrow
        split_ifs with hs
        · exact .of_eq rfl
        · refine .of_modify id (.acknowledge host.now (clip (strip (orElse actor "unknown")) 100))
            ?_ (fun r hr => ?_) fun _ => rfl
          · simp only [Call.commit]
            split <;> rfl
          · obtain rfl : row=r := Option.some.inj (hrow.symm.trans hr)
            exact .acknowledged hs
    | resolveIncident id actor resolution suppressUntilClear =>
      simp only [next,DeskCall.commit,Attention.resolveIncident]
      split
      · exact .of_eq rfl
      · rename_i row hrow
        exact .of_modify id _ (Desk.incidents_eq (resolveNotificationDb_others host _ _ _ _))
          (fun r _ => .resolved) fun _ => rfl
    | resolveInactive source active actor =>
      simp only [next,DeskCall.commit,Attention.resolveInactiveIncidents]
      split_ifs with hsource
      · exact .of_eq rfl
      · exact clearInactive_change host hsource desk
    | _ => cases hi

end Calls
end ZenControl.Attention
