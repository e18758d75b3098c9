import ZenControl.Attention.Agreement

/-! Suppressed incidents. An operator's resolution keeps an incident quiet until a scan of its
source no longer finds it. The flag is kept in the row of the incident, and the retention of any
sighting may drop that row while the signal is still there. -/
namespace ZenControl.Attention
open Rows Histories

/-- An incident that was resolved until its signal clears. -/
def Incident.Suppressed (r : Incident) : Prop := r.status=.resolved ∧ r.suppressUntilClear

instance (r : Incident) : Decidable r.Suppressed := inferInstanceAs (Decidable (_ ∧ _))

/-- A scan of the source of an incident that runs without its fingerprint. -/
def Request.Clears (request : Request) (fingerprint : String) (desk : Desk) : Prop :=
  match request.call with
  | .resolveInactive source active _ => ∃ k r, desk.incidents.find k=some r ∧
      r.fingerprint=fingerprint ∧ r.ClearedBy source active
  | _ => False

/-- Nothing is raised: nothing is queued, no notification is added, and the others stay in
their state, resolved or open. -/
def Unraised (desk desk' : Desk) : Prop :=
  desk'.pushDeliveries=desk.pushDeliveries ∧
    desk'.externalDeliveries=desk.externalDeliveries ∧
    ∀ k n', desk'.notifications.find k=some n' → ∃ n, desk.notifications.find k=some n ∧
      n'.state=n.state ∧ n'.resolvedAt=n.resolvedAt

/-- A sighting that neither opens nor reopens an incident, and raises nothing. -/
def Quiet (p : Platform) (host : Host) (args : IncidentArgs) (desk : Desk) : Prop :=
  ∀ reply desk', upsertIncident p host args desk=.ok (reply,desk') →
    reply.action≠.opened ∧ reply.action≠.reopened ∧ Unraised desk desk'

/-- After every resolution until the signal clears, each sighting of the fingerprint is quiet
as long as no scan has cleared it. -/
def StaysSuppressed (p : Platform) (requests : List Request) : Prop :=
  ∀ before between rest host id actor resolution row host' args,
    requests=before ++ ⟨host,.resolveIncident id actor resolution true⟩ ::
      (between ++ ⟨host',.upsertIncident args⟩ :: rest) →
    (after (Request.next p) before {}).incidents.find id=some row →
    args.normalized.fingerprint=row.fingerprint →
    Each (Request.next p) (fun q desk => ¬q.Clears row.fingerprint desk) between
      (after (Request.next p) (before ++ [⟨host,.resolveIncident id actor resolution true⟩]) {}) →
    Quiet p host' args (after (Request.next p)
      (before ++ ⟨host,.resolveIncident id actor resolution true⟩ :: between) {})

/-- No retention drops a suppressed incident, and no later resolution lifts the suppression. -/
def KeepsSuppression (request : Request) (desk : Desk) : Prop :=
  match request.call with
  | .upsertIncident args => args.normalized.fingerprint≠"" →
      ∀ row ∈ desk.incidents.rows, row.2.Suppressed →
        ¬row.2.expired request.host.now desk.retentionDays
  | .resolveIncident id _ _ suppress =>
      suppress ∨ ∀ row ∈ desk.incidents.rows, row.1=id → ¬row.2.Suppressed
  | _ => True

instance (request : Request) (desk : Desk) : Decidable (KeepsSuppression request desk) := by
  obtain ⟨host,call⟩ := request
  cases call <;> unfold KeepsSuppression <;> infer_instance

section Rows

@[simp] lemma Incident.sighted_status (args : IncidentArgs) (now : ℤ) (r : Incident) :
    (r.sighted args now).status=r.status := by simp only [sighted]

@[simp] lemma Incident.sighted_resolvedAt (args : IncidentArgs) (now : ℤ) (r : Incident) :
    (r.sighted args now).resolvedAt=r.resolvedAt := by simp only [sighted]

@[simp] lemma Incident.sighted_suppressUntilClear (args : IncidentArgs) (now : ℤ)
    (r : Incident) : (r.sighted args now).suppressUntilClear=r.suppressUntilClear := by
  simp only [sighted]

lemma Incident.Suppressed.upserted {r : Incident} (h : r.Suppressed) (args : IncidentArgs)
    (now : ℤ) : r.upserted args now=r.sighted args now := by
  unfold Incident.upserted
  rw [if_neg (by simp [h.2])]

lemma Incident.Suppressed.sighted {r : Incident} (h : r.Suppressed) (args : IncidentArgs)
    (now : ℤ) : (r.sighted args now).Suppressed := by
  rw [Suppressed,Incident.sighted_status,Incident.sighted_suppressUntilClear]
  exact h

lemma Incident.Suppressed.action {r : Incident} (h : r.Suppressed) (args : IncidentArgs) :
    r.action args=.suppressed := by
  unfold Incident.action
  rw [if_pos h.1,if_pos h.2]

/-- A suppressed row is neither acknowledged nor reopened: only a scan or a resolution changes
its suppression. -/
lemma IncidentMoved.suppressed {now : ℤ} {k : ℕ} {r r' : Incident} {call : DeskCall}
    (h : IncidentMoved now k r call r') (hs : r.Suppressed)
    (hclear : ∀ source active actor, call=.resolveInactive source active actor →
      ¬r.ClearedBy source active)
    (hresolve : ∀ actor resolution, call≠.resolveIncident k actor resolution false) :
    r'.Suppressed ∧ r'.fingerprint=r.fingerprint := by
  cases h with
  | kept => exact ⟨hs,rfl⟩
  | sighted hprint =>
    refine ⟨?_,Incident.upserted_fingerprint _ _ r⟩
    rw [hs.upserted]
    exact hs.sighted _ _
  | acknowledged hopen => exact absurd hs.1 hopen
  | resolved =>
    rename_i actor resolution suppress by' text
    cases suppress with
    | true => exact ⟨⟨rfl,rfl⟩,rfl⟩
    | false => exact absurd rfl (hresolve actor resolution)
  | cleared hcleared => exact absurd hcleared (hclear _ _ _ rfl)

lemma Incident.expired_eq {r r' : Incident} (hs : r'.status=r.status)
    (hr : r'.resolvedAt=r.resolvedAt) (now days : ℤ) :
    r'.expired now days=r.expired now days := by
  unfold Incident.expired
  rw [hs,hr]

lemma IncidentMoved.expired {now days : ℤ} {k : ℕ} {r r' : Incident} {args : IncidentArgs}
    (h : IncidentMoved now k r (.upsertIncident args) r') (hs : r.Suppressed) :
    r'.expired now days=r.expired now days := by
  cases h with
  | kept => rfl
  | sighted hprint =>
    rw [hs.upserted]
    exact Incident.expired_eq (Incident.sighted_status _ _ r)
      (Incident.sighted_resolvedAt _ _ r) now days

end Rows

section Steps
variable {p : Platform} {host : Host} {desk desk' : Desk}

/-- A row of the fingerprint that is suppressed. -/
def Desk.Suppresses (fingerprint : String) (desk : Desk) : Prop :=
  desk.incidents.Unique Incident.fingerprint ∧
    ∃ k r, desk.incidents.find k=some r ∧ r.fingerprint=fingerprint ∧ r.Suppressed

/-- A sighting without a fingerprint raises. -/
lemma Request.next_of_blank {host : Host} {args : IncidentArgs}
    (hblank : args.normalized.fingerprint="") :
    Request.next p ⟨host,.upsertIncident args⟩ desk=desk := by
  simp only [Request.next,DeskCall.commit,upsertIncident,if_pos hblank,Call.commit]

lemma Desk.Suppresses.next {request : Request} {fingerprint : String}
    (h : desk.Suppresses fingerprint) (hkeep : KeepsSuppression request desk)
    (hclear : ¬request.Clears fingerprint desk) :
    (request.next p desk).Suppresses fingerprint := by
  obtain ⟨hunique,k,r,hr,hprint,hs⟩ := h
  have hchange := request.incident_change p desk
  refine ⟨hchange.unique hunique,?_⟩
  obtain ⟨r',hmoved,hrow⟩ := hchange.row hr
  obtain ⟨host,call⟩ := request
  have hscan (source : String) (active : List String) (actor : String)
      (hcall : call=.resolveInactive source active actor) : ¬r.ClearedBy source active := by
    subst hcall
    exact fun hcleared => hclear ⟨k,r,hr,hprint,hcleared⟩
  have hresolve (actor resolution : String) :
      call≠.resolveIncident k actor resolution false := by
    rintro rfl
    rcases hkeep with hfalse | hnone
    · cases hfalse
    · exact hnone (k,r) (Table.mem_iff.mpr hr) rfl hs
  obtain ⟨hs',hprint'⟩ := hmoved.suppressed hs hscan hresolve
  rcases hrow with hfind | ⟨hgone,⟨args,rfl⟩,hexpired⟩
  · exact ⟨k,r',hfind,hprint'.trans hprint,hs'⟩
  · by_cases hblank : args.normalized.fingerprint=""
    · rw [Request.next_of_blank hblank,hr] at hgone
      cases hgone
    · rw [hmoved.expired hs] at hexpired
      exact absurd hexpired (hkeep hblank (k,r) (Table.mem_iff.mpr hr) hs)

lemma Notification.upserted_state {args : NotificationArgs} (hraise : args.raiseAttention=false)
    (prefs : NotificationPreferences) (now : ℤ) (n : Notification) :
    (n.upserted args prefs now).state=n.state ∧
      (n.upserted args prefs now).resolvedAt=n.resolvedAt := by
  simp [upserted,reopens,attentionEscalates,hraise]

/-- An upsert without attention raises nothing. -/
lemma upsertNormalized_unraised (desk : Desk) {args : NotificationArgs}
    (hraise : args.raiseAttention=false) {k : ℕ} {n : Notification}
    (hfirst : desk.notifications.first (fun r => r.dedupeKey=args.dedupeKey)=some (k,n)) :
    Unraised desk (upsertNormalized p host args desk).desk := by
  unfold upsertNormalized
  rw [hfirst]
  dsimp only
  rw [if_neg (by simp [hraise])]
  refine ⟨rfl,rfl,fun i n' hn' => ?_⟩
  dsimp only at hn'
  rw [Table.find_modify] at hn'
  split_ifs at hn' with hi
  · obtain ⟨m,hm,rfl⟩ := Option.map_eq_some_iff.mp hn'
    obtain ⟨hstate,hresolved⟩ := Notification.upserted_state hraise desk.preferences host.now m
    exact ⟨m,hm,hstate,hresolved⟩
  · exact ⟨n',hn',rfl,rfl⟩

/-- The notification of an incident that stays resolved is brought up to date, if there is one. -/
lemma syncIncidentNotification_suppressed {id : ℕ} {incident : Incident} {actor : String}
    (hstatus : incident.status=.resolved)
    (h : syncIncidentNotification p host id incident .suppressed actor desk=.ok desk') :
    desk'=desk ∨ ∃ k n, desk.notifications.find k=some n ∧
      n.dedupeKey=incidentKey incident.fingerprint ∧
      desk.notifications.first (fun r => r.dedupeKey=incidentKey incident.fingerprint)=
        some (k,n) ∧
      desk'=(upsertNormalized p host (syncArgs id incident false false).normalized desk).desk := by
  unfold syncIncidentNotification at h
  dsimp only at h
  rw [if_neg (by simp [hstatus,IncidentAction.loud])] at h
  cases hfirst : desk.notifications.first fun r =>
      r.dedupeKey=incidentKey incident.fingerprint with
  | none =>
    rw [hfirst] at h
    cases h
    exact .inl rfl
  | some found =>
    obtain ⟨k,n⟩ := found
    obtain ⟨hfind,hkey⟩ := Table.first_some hfirst
    rw [hfirst,if_pos (by rfl)] at h
    split at h
    · cases h
    · rename_i hu
      obtain ⟨-,rfl⟩ := upsertNotificationDb_ok p host hu
      cases h
      exact .inr ⟨k,n,hfind,of_decide_eq_true hkey,rfl,rfl⟩

/-- The sighting of a suppressed incident is quiet. -/
lemma Desk.Suppresses.quiet {args : IncidentArgs} (hc : desk.Clipped)
    (h : desk.Suppresses args.normalized.fingerprint) : Quiet p host args desk := by
  obtain ⟨hunique,k,r,hr,hprint,hs⟩ := h
  intro reply desk' hcommit
  obtain ⟨hne,sighted,hsight,rfl⟩ := upsertIncident_ok p host hcommit
  have hfirst : desk.incidents.first
      (fun r => r.fingerprint=args.normalized.fingerprint)=some (k,r) := by
    rw [← hprint]
    exact hunique.first_eq hr
  obtain ⟨incidents,hsync,-⟩ := sightIncident_sync p host hsight
  rcases sightIncident_cases p host hsight with ⟨id,row,hsome,rfl,-⟩ | ⟨hnone,-,-⟩
  · obtain ⟨rfl,rfl⟩ : k=id ∧ r=row := by
      have hpair := Option.some.inj (hfirst.symm.trans hsome)
      exact ⟨congrArg Prod.fst hpair,congrArg Prod.snd hpair⟩
    dsimp only at hsync ⊢
    rw [hs.action] at hsync ⊢
    refine ⟨by decide,by decide,?_⟩
    have hstatus : (r.upserted args.normalized host.now).status=.resolved := by
      rw [hs.upserted,Incident.sighted_status]
      exact hs.1
    rcases syncIncidentNotification_suppressed hstatus hsync with rfl | ⟨i,n,hn,hkey,hexisting,rfl⟩
    · exact ⟨rfl,rfl,fun k n hn => ⟨n,hn,rfl,rfl⟩⟩
    · rw [Incident.upserted_fingerprint] at hkey
      have hlength : n.dedupeKey.length ≤ 240 := hc i n hn
      rw [hkey,incidentKey_length,hprint] at hlength
      have hshort : args.normalized.fingerprint.length ≤ 231 := by omega
      have hfits : Fits args.normalized.fingerprint := fits_of_short hne hshort
      have hstored : (syncArgs k (r.upserted args.normalized host.now) false
          false).normalized.dedupeKey=
          incidentKey (r.upserted args.normalized host.now).fingerprint := by
        refine Eq.trans ?_ (congrArg incidentKey
          ((Incident.upserted_fingerprint _ _ r).trans hprint).symm)
        refine Eq.trans ?_ hfits
        change clip (strip (incidentKey (r.upserted _ _).fingerprint)) 240=_
        rw [Incident.upserted_fingerprint,hprint]
      rw [← hstored] at hexisting
      exact upsertNormalized_unraised { desk with incidents := incidents } rfl hexisting
  · rw [hfirst] at hnone
    cases hnone

end Steps

section Runs
variable {p : Platform}

/-- A resolution until the signal clears suppresses its row. -/
lemma Request.suppresses {host : Host} {id : ℕ} {actor resolution : String} {row : Incident}
    {desk : Desk} (hunique : desk.incidents.Unique Incident.fingerprint)
    (hrow : desk.incidents.find id=some row) :
    (Request.next p ⟨host,.resolveIncident id actor resolution true⟩ desk).Suppresses
      row.fingerprint := by
  refine ⟨(Request.incident_change p _ desk).unique hunique,
    id,row.resolve host.now (clip (strip (orElse actor "unknown")) 100)
      (clip (strip (orElse resolution "Resolved by operator")) 500) true,?_,rfl,rfl,rfl⟩
  simp only [next,DeskCall.commit,resolveIncident,hrow]
  rw [Call.commit,Desk.incidents_eq (resolveNotificationDb_others host _ _ _ _)]
  dsimp only
  rw [Table.find_modify,if_pos rfl,hrow]
  rfl

/-- Suppressed incidents stay quiet until their signal clears, in every history in which no
retention drops a suppressed incident and no later resolution lifts the suppression. -/
theorem stays_suppressed (p : Platform) (requests : List Request)
    (hcalls : ∀ q ∈ requests, q.call.monitors)
    (h : Each (Request.next p) KeepsSuppression requests {}) : StaysSuppressed p requests := by
  intro before between rest host id actor resolution row host' args hsplit hrow hprint hclear
  subst hsplit
  have hunique : (after (Request.next p) before {}).incidents.Unique Incident.fingerprint :=
    after_invariant (P:=fun _ => True)
      (I:=fun desk : Desk => desk.incidents.Unique Incident.fingerprint) (fun _ _ => trivial)
      Table.Unique.empty fun q s _ hs => (Request.incident_change p q s).unique hs
  have hclipped : (after (Request.next p)
      (before ++ ⟨host,.resolveIncident id actor resolution true⟩ :: between) {}).Clipped := by
    refine after_invariant (P:=fun q => q.call.monitors) (I:=Desk.Clipped) (fun q hq => ?_)
      Table.All.empty fun q s hq hs => Request.clipped hq hs
    refine hcalls q ?_
    simp only [List.mem_append,List.mem_cons] at hq ⊢
    tauto
  have hkeep := (Each.append.mp h).2.2
  rw [after_append] at hclear hclipped ⊢
  refine Desk.Suppresses.quiet hclipped ?_
  rw [hprint]
  refine ((Each.append.mp hkeep).1.and hclear).invariant
    (I:=Desk.Suppresses row.fingerprint) (Request.suppresses hunique hrow) ?_
  exact fun q s hs hq => hs.next hq.1 hq.2

/-- The signal is seen, resolved by hand, and seen again. -/
def resolvedAndSeen (again : List ℤ) : List Request :=
  sighting "router:offline" 0::⟨{},.resolveIncident 1 "parent" "" true⟩::
    again.map (sighting "router:offline")

theorem stays_suppressed_a_week : StaysSuppressed asciiPlatform (resolvedAndSeen [60,604800]) :=
  stays_suppressed asciiPlatform _ (by simp [resolvedAndSeen,sighting,DeskCall.monitors])
    (by decide +kernel)

/-- The retention drops the incident after thirty days while the signal is still seen; the next
sighting opens it as if it were new. -/
theorem suppression_expires :
    ¬StaysSuppressed asciiPlatform (resolvedAndSeen [2678400,2678460]) := by
  intro h
  have hquiet := h [sighting "router:offline" 0] [sighting "router:offline" 2678400] []
    {} 1 "parent" "" ((routerSignal "router:offline").normalized.created 0) { now := 2678460 }
    (routerSignal "router:offline") rfl (by decide) (by decide)
    ⟨fun hclear => hclear,trivial⟩
  have hopened : (upsertIncident asciiPlatform { now := 2678460 }
      (routerSignal "router:offline") (after (Request.next asciiPlatform)
        ([sighting "router:offline" 0] ++ ⟨{},.resolveIncident 1 "parent" "" true⟩ ::
          [sighting "router:offline" 2678400]) {})).toOption.map
            (fun result => result.1.action)=some .opened := by decide +kernel
  cases hcommit : upsertIncident asciiPlatform { now := 2678460 }
      (routerSignal "router:offline") (after (Request.next asciiPlatform)
        ([sighting "router:offline" 0] ++ ⟨{},.resolveIncident 1 "parent" "" true⟩ ::
          [sighting "router:offline" 2678400]) {}) with
  | error e =>
    rw [hcommit] at hopened
    cases hopened
  | ok result =>
    rw [hcommit] at hopened
    exact (hquiet result.1 result.2 hcommit).1 (Option.some.inj hopened)

end Runs
end ZenControl.Attention
