import ZenControl.Attention.IncidentRows
import ZenControl.Attention.Raising

/-! Incidents and their notifications. A notification is stored under a key of at most 240
characters, but an incident looks for its notification under the whole of
`incident:{fingerprint}`. The two agree in every state exactly when no fingerprint is longer
than the key has room for. -/
namespace ZenControl.Attention
open Rows Histories

/-- The notification of an incident follows it. -/
structure Incident.Matches (r : Incident) (n : Notification) : Prop where
  resolved : n.resolvedAt.isSome ↔ r.status=.resolved
  severity : r.status≠.resolved → n.sourceSeverity=r.severity

/-- There is exactly one notification of an incident, and it follows the incident. -/
def Desk.Agrees (desk : Desk) : Prop :=
  desk.incidents.All fun r => ∃ k n, desk.notifications.find k=some n ∧
    n.dedupeKey=incidentKey r.fingerprint ∧ r.Matches n ∧
      ∀ k' n', desk.notifications.find k'=some n' → n'.dedupeKey=incidentKey r.fingerprint → k'=k

/-- The calls on incidents, the transitions of notifications and their evaluation, and the
settings. -/
def DeskCall.monitors : DeskCall → Bool
  | upsertIncident _ | acknowledgeIncident _ _ | resolveIncident _ _ _ _
  | resolveInactive _ _ _ | markRead _ _ | acknowledge _ _ | dismiss _ _ | markAllRead _
  | evaluate _ | savePreferences _ | saveIntelligence _ | saveIncidentRetention _ => true
  | _ => false

/-- The fingerprint of a sighting leaves room for `incident:` in a key. -/
def Request.FingerprintFits (request : Request) : Prop :=
  match request.call with
  | .upsertIncident args => args.normalized.fingerprint.length ≤ 231
  | _ => True

section Keys

/-- A fingerprint whose key is stored as it is. -/
def Fits (fingerprint : String) : Prop :=
  clip (strip (incidentKey fingerprint)) 240=incidentKey fingerprint

lemma incidentKey_length (fingerprint : String) :
    (incidentKey fingerprint).length=9+fingerprint.length := by
  rw [incidentKey,String.length_append]
  rfl

lemma incidentKey_injective {a b : String} (h : incidentKey a=incidentKey b) : a=b :=
  (String.append_right_inj _).mp h

/-- A short fingerprint fits: there was nothing to cut off it. -/
lemma fits_of_short {text : String} (hne : clip (strip text) 240≠"")
    (hlen : (clip (strip text) 240).length ≤ 231) : Fits (clip (strip text) 240) := by
  have hclip : clip (strip text) 240=strip text := clip_eq_self_of_lt (by omega)
  rw [hclip] at hne hlen ⊢
  unfold Fits
  have hstrip : strip (incidentKey (strip text))=incidentKey (strip text) := by
    refine strip_eq_self (fun c hc => ?_) fun c hc => ?_
    · have hi : (incidentKey (strip text)).toList.head?=some 'i' := by
        simp [incidentKey]
      rw [hi] at hc
      obtain rfl : 'i'=c := Option.some.inj hc
      decide
    · refine strip_getLast text c ?_
      have hlist : (strip text).toList≠[] := by
        intro hnil
        exact hne (String.toList_injective hnil)
      rw [incidentKey,String.toList_append,List.getLast?_append_of_ne_nil _ hlist] at hc
      exact hc
  rw [hstrip]
  refine clip_of_length_le ?_
  rw [incidentKey_length]
  omega

lemma incidentSeverity_text (s : Severity) : incidentSeverity s.text=s := by
  cases s <;> decide

end Keys

/-- The invariant: unique keys and fingerprints, fingerprints that fit, and a notification that
follows every incident. -/
structure Desk.Coupled (desk : Desk) : Prop where
  keys : desk.notifications.Unique Notification.dedupeKey
  prints : desk.incidents.Unique Incident.fingerprint
  fits : desk.incidents.All fun r => Fits r.fingerprint
  matched : desk.incidents.All fun r => ∃ k n, desk.notifications.find k=some n ∧
    n.dedupeKey=incidentKey r.fingerprint ∧ r.Matches n

lemma Desk.Coupled.agrees {desk : Desk} (h : desk.Coupled) : desk.Agrees := by
  intro id r hr
  obtain ⟨k,n,hn,hkey,hmatch⟩ := h.matched id r hr
  exact ⟨k,n,hn,hkey,hmatch,fun k' n' hn' hkey' =>
    h.keys k' k n' n hn' hn (hkey'.trans hkey.symm)⟩

section Steps
variable {p : Platform} {host : Host} {desk desk' : Desk}

/-- What an incident and its notification may become without a resolution. -/
def Incident.Follows (r r' : Incident) : Prop :=
  r'.fingerprint=r.fingerprint ∧ r'.severity=r.severity ∧
    (r'.status=.resolved ↔ r.status=.resolved)

def Notification.Follows (n n' : Notification) : Prop :=
  n'.dedupeKey=n.dedupeKey ∧ n'.sourceSeverity=n.sourceSeverity ∧ n'.resolvedAt=n.resolvedAt

lemma Notification.Follows.refl (n : Notification) : n.Follows n := ⟨rfl,rfl,rfl⟩

lemma Notification.transition_follows (now : ℤ) (actor : String) (state : NotificationState)
    (n : Notification) : n.Follows (n.transition now actor state) := by
  cases state <;> exact ⟨rfl,rfl,rfl⟩

lemma Notification.evaluated_follows (settings : IntelligenceSettings) (now : ℤ)
    (n : Notification) : n.Follows (n.evaluated settings now) := by
  unfold Notification.evaluated
  split_ifs
  · exact .refl n
  · exact ⟨rfl,rfl,rfl⟩

lemma Unique_of_follows {t t' : Table Notification} {g : ℕ → Notification → Notification}
    (hu : t.Unique Notification.dedupeKey) (hg : ∀ k (n : Notification), n.Follows (g k n))
    (hfind : ∀ k, t'.find k=(t.find k).map (g k)) : t'.Unique Notification.dedupeKey := by
  intro k k' n n' hn hn' hkey
  rw [hfind] at hn hn'
  obtain ⟨m,hm,rfl⟩ := Option.map_eq_some_iff.mp hn
  obtain ⟨m',hm',rfl⟩ := Option.map_eq_some_iff.mp hn'
  rw [(hg k m).1,(hg k' m').1] at hkey
  exact hu k k' m m' hm hm' hkey

/-- A step without a resolution: incidents and notifications are followed row by row. -/
lemma Desk.Coupled.follow (h : desk.Coupled) {g : ℕ → Notification → Notification}
    (hg : ∀ k (n : Notification), n.Follows (g k n))
    (hn : ∀ k, desk'.notifications.find k=(desk.notifications.find k).map (g k))
    (hp : desk'.incidents.Unique Incident.fingerprint)
    (hi : ∀ id r', desk'.incidents.find id=some r' →
      ∃ r, desk.incidents.find id=some r ∧ r.Follows r') : desk'.Coupled where
  keys := Unique_of_follows h.keys hg hn
  prints := hp
  fits id r' hr' := by
    obtain ⟨r,hr,hprint,-⟩ := hi id r' hr'
    rw [hprint]
    exact h.fits id r hr
  matched id r' hr' := by
    obtain ⟨r,hr,hprint,hseverity,hstatus⟩ := hi id r' hr'
    obtain ⟨k,n,hfind,hkey,hmatch⟩ := h.matched id r hr
    obtain ⟨hkey',hsource,hresolved⟩ := hg k n
    refine ⟨k,g k n,by rw [hn,hfind]; rfl,?_,?_,?_⟩
    · rw [hkey',hprint,hkey]
    · rw [hresolved,hmatch.resolved,hstatus]
    · intro hopen
      rw [hsource,hseverity]
      exact hmatch.severity fun hs => hopen (hstatus.mpr hs)

/-- A step that resolves one incident and its notification. -/
lemma Desk.Coupled.resolve (h : desk.Coupled) {id : ℕ} {row : Incident}
    (hrow : desk.incidents.find id=some row) {f : Incident → Incident}
    (hf : (f row).fingerprint=row.fingerprint ∧ (f row).status=.resolved)
    (hi : ∀ i, desk'.incidents.find i=if i=id then some (f row) else desk.incidents.find i)
    {now : ℤ} {actor resolution : String}
    (hn : ∀ k, desk'.notifications.find k=(desk.notifications.find k).map fun n =>
      if n.dedupeKey=incidentKey row.fingerprint then n.resolve now actor resolution else n) :
    desk'.Coupled := by
  have hprevious (i : ℕ) (r' : Incident) (hr' : desk'.incidents.find i=some r') :
      ∃ r, desk.incidents.find i=some r ∧ r'.fingerprint=r.fingerprint ∧
        (i=id ∧ r'.status=.resolved ∨ i≠id ∧ r'=r) := by
    rw [hi] at hr'
    split_ifs at hr' with hk
    · subst hk
      obtain rfl := Option.some.inj hr'
      exact ⟨row,hrow,hf.1,.inl ⟨rfl,hf.2⟩⟩
    · exact ⟨r',hr',rfl,.inr ⟨hk,rfl⟩⟩
  refine ⟨?_,?_,?_,?_⟩
  · intro k k' n n' hk hk' hkey
    rw [hn] at hk hk'
    obtain ⟨m,hm,rfl⟩ := Option.map_eq_some_iff.mp hk
    obtain ⟨m',hm',rfl⟩ := Option.map_eq_some_iff.mp hk'
    refine h.keys k k' m m' hm hm' ?_
    split_ifs at hkey <;> exact hkey
  · intro i i' a a' ha ha' hprint
    obtain ⟨r,hr,hr',-⟩ := hprevious i a ha
    obtain ⟨s,hs,hs',-⟩ := hprevious i' a' ha'
    exact h.prints i i' r s hr hs (by rw [← hr',← hs',hprint])
  · intro i a ha
    obtain ⟨r,hr,hprint,-⟩ := hprevious i a ha
    rw [hprint]
    exact h.fits i r hr
  · intro i a ha
    obtain ⟨r,hr,hprint,hcase⟩ := hprevious i a ha
    obtain ⟨k,n,hk,hkey,hmatch⟩ := h.matched i r hr
    rcases hcase with ⟨rfl,hresolved⟩ | ⟨hne,rfl⟩
    · obtain rfl : row=r := Option.some.inj (hrow.symm.trans hr)
      refine ⟨k,n.resolve now actor resolution,by rw [hn,hk]; simp [hkey],by rw [hprint]; exact hkey,
        ⟨fun _ => hresolved,fun _ => rfl⟩,fun hopen => absurd hresolved hopen⟩
    · have hother : n.dedupeKey≠incidentKey row.fingerprint := by
        rw [hkey]
        intro hsame
        exact hne (h.prints i id a row hr hrow (incidentKey_injective hsame))
      exact ⟨k,n,by rw [hn,hk]; simp [hother],hkey,hmatch⟩

@[simp] lemma Notification.upserted_sourceSeverity (args : NotificationArgs)
    (prefs : NotificationPreferences) (now : ℤ) (n : Notification) :
    (n.upserted args prefs now).sourceSeverity=incidentSeverity args.severity := by
  simp only [upserted]

@[simp] lemma NotificationArgs.created_sourceSeverity (args : NotificationArgs) (now : ℤ) :
    (args.created now).sourceSeverity=incidentSeverity args.severity := by
  simp only [created]

@[simp] lemma NotificationArgs.created_dedupeKey (args : NotificationArgs) (now : ℤ) :
    (args.created now).dedupeKey=args.dedupeKey := rfl

lemma Upserted.unique {args : NotificationArgs} (h : Upserted p host args desk desk')
    (hu : desk.notifications.Unique Notification.dedupeKey) :
    desk'.notifications.Unique Notification.dedupeKey := by
  obtain ⟨-,-,f,hf,-,hnotes⟩ := h
  rw [hnotes]
  refine Table.Unique.update ?_ fun n => (hf n).dedupeKey
  cases hfirst : desk.notifications.first fun r => r.dedupeKey=args.dedupeKey with
  | none =>
    rw [(upsertNormalized_none p host hfirst).2.2]
    refine hu.insert fun k n hn hkey => ?_
    have hne : ¬n.dedupeKey=args.dedupeKey := by simpa using Table.first_none hfirst hn
    exact hne hkey
  | some found =>
    rw [(upsertNormalized_some p host hfirst).2.2]
    exact hu.update fun n => Notification.upserted_dedupeKey _ _ _ n

/-- The notification of an incident after it was synchronised. -/
lemma Upserted.matches {id : ℕ} {r : Incident} {raise increment : Bool}
    (h : Upserted p host (syncArgs id r raise increment).normalized desk desk')
    (hu : desk.notifications.Unique Notification.dedupeKey) (hfits : Fits r.fingerprint)
    (hcase : raise=true ∧ r.status≠.resolved ∨ raise=false ∧ ∃ k n,
      desk.notifications.find k=some n ∧ n.dedupeKey=incidentKey r.fingerprint ∧
        (n.resolvedAt.isSome ↔ r.status=.resolved)) :
    (∃ k n, desk'.notifications.find k=some n ∧ n.dedupeKey=incidentKey r.fingerprint ∧
      r.Matches n) ∧
    ∀ k n, desk.notifications.find k=some n → n.dedupeKey≠incidentKey r.fingerprint →
      desk'.notifications.find k=some n := by
  have hkey : (syncArgs id r raise increment).normalized.dedupeKey=
      incidentKey r.fingerprint := hfits
  have hseverity : incidentSeverity (syncArgs id r raise increment).normalized.severity=
      r.severity := incidentSeverity_text r.severity
  cases hfirst : desk.notifications.first fun n =>
      n.dedupeKey=(syncArgs id r raise increment).normalized.dedupeKey with
  | none =>
    obtain ⟨n,htouched,hopen,hfind⟩ := h.find_none hfirst
    have hraise : r.status≠.resolved := by
      rcases hcase with ⟨-,hr⟩ | ⟨-,k,m,hm,hmkey,-⟩
      · exact hr
      · have hne : ¬m.dedupeKey=(syncArgs id r raise increment).normalized.dedupeKey := by
          simpa using Table.first_none hfirst hm
        exact absurd (hmkey.trans hkey.symm) hne
    refine ⟨⟨desk.notifications.next,n,by rw [hfind,if_pos rfl],?_,?_,?_⟩,?_⟩
    · rw [htouched.dedupeKey,NotificationArgs.created_dedupeKey,hkey]
    · simp [hopen,hraise]
    · intro _
      rw [htouched.sourceSeverity,NotificationArgs.created_sourceSeverity,hseverity]
    · intro k m hm _
      have hne : k≠desk.notifications.next := by
        rintro rfl
        rw [Table.find_next] at hm
        cases hm
      rw [hfind,if_neg hne]
      exact hm
  | some found =>
    obtain ⟨i,m⟩ := found
    obtain ⟨hm,hfound⟩ := Table.first_some hfirst
    have hmkey : m.dedupeKey=incidentKey r.fingerprint := by
      rw [← hkey]
      exact of_decide_eq_true hfound
    obtain ⟨f,hf,hresolved,hfind⟩ := h.find_some hu hfirst
    rw [hkey] at hfind
    refine ⟨⟨i,f (m.upserted (syncArgs id r raise increment).normalized desk.preferences
      host.now),by rw [hfind,hm,Option.map_some,if_pos hmkey],?_,?_,?_⟩,?_⟩
    · rw [(hf _).dedupeKey,Notification.upserted_dedupeKey,hmkey]
    · rw [hresolved,Notification.upserted_resolvedAt]
      rcases hcase with ⟨rfl,hr⟩ | ⟨rfl,k,n,hn,hnkey,hiff⟩
      · simp [syncArgs,NotificationArgs.normalized,hr]
      · have hsame : n.dedupeKey=m.dedupeKey := hnkey.trans hmkey.symm
        have hk : k=i := hu k i n m hn hm hsame
        subst hk
        have hrow : n=m := Option.some.inj (hn.symm.trans hm)
        rw [if_neg (by simp [syncArgs,NotificationArgs.normalized]),← hrow]
        exact hiff
    · intro _
      rw [(hf _).sourceSeverity,Notification.upserted_sourceSeverity,hseverity]
    · intro k n hn hne
      rw [hfind,hn]
      simp [hne]

/-- What a sighting makes of the status. -/
lemma Incident.upserted_status (args : IncidentArgs) (now : ℤ) (r : Incident) :
    (r.upserted args now).status=
      if r.status=.resolved ∧ r.suppressUntilClear=false then .opened else r.status := by
  unfold upserted
  split_ifs <;> rfl

lemma Incident.action_reopened {args : IncidentArgs} {r : Incident}
    (h : r.status=.resolved ∧ r.suppressUntilClear=false) : r.action args=.reopened := by
  unfold action
  rw [if_pos h.1,if_neg (by simp [h.2])]

/-- An incident that was sighted, new or known, with its notification. -/
lemma Desk.Coupled.sight (h : desk.Coupled) {id : ℕ} {r : Incident} {raise increment : Bool}
    (hu : Upserted p host (syncArgs id r raise increment).normalized desk desk')
    (hfits : Fits r.fingerprint)
    (hcase : raise=true ∧ r.status≠.resolved ∨ raise=false ∧ ∃ k n,
      desk.notifications.find k=some n ∧ n.dedupeKey=incidentKey r.fingerprint ∧
        (n.resolvedAt.isSome ↔ r.status=.resolved))
    (hp : desk'.incidents.Unique Incident.fingerprint)
    (hi : ∀ i r', desk'.incidents.find i=some r' → r'=r ∨
      desk.incidents.find i=some r' ∧ r'.fingerprint≠r.fingerprint) : desk'.Coupled := by
  obtain ⟨hmatch,hothers⟩ := hu.matches h.keys hfits hcase
  refine ⟨hu.unique h.keys,hp,fun i r' hr' => ?_,fun i r' hr' => ?_⟩
  · rcases hi i r' hr' with rfl | ⟨hold,-⟩
    · exact hfits
    · exact h.fits i r' hold
  · rcases hi i r' hr' with rfl | ⟨hold,hne⟩
    · exact hmatch
    · obtain ⟨k,n,hn,hkey,hm⟩ := h.matched i r' hold
      refine ⟨k,n,hothers k n hn ?_,hkey,hm⟩
      rw [hkey]
      exact fun hsame => hne (incidentKey_injective hsame)

/-- The upsert that follows the sighting of a known incident. -/
lemma syncUpsert_known (id : ℕ) (args : IncidentArgs) (now : ℤ) {row : Incident} {k : ℕ}
    {n : Notification} (hn : desk.notifications.find k=some n)
    (hkey : n.dedupeKey=incidentKey row.fingerprint) :
    ∃ increment, syncUpsert id (row.upserted args now) (row.action args) desk=
      some (syncArgs id (row.upserted args now)
        ((row.action args).loud && (row.upserted args now).status=.opened) increment) := by
  obtain ⟨k',n',hfirst⟩ := Table.first_isSome hn
    (p:=fun n => n.dedupeKey=incidentKey (row.upserted args now).fingerprint)
    (by rw [Incident.upserted_fingerprint]; exact decide_eq_true hkey)
  unfold syncUpsert
  dsimp only
  rw [hfirst]
  cases hloud : (row.action args).loud with
  | true => exact ⟨true,by simp⟩
  | false => exact ⟨false,by simp⟩

/-- A known incident keeps its notification open or resolved with itself. -/
lemma sighted_agrees {row : Incident} {args : IncidentArgs} {now : ℤ} {k : ℕ}
    {n : Notification} (hn : desk.notifications.find k=some n)
    (hkey : n.dedupeKey=incidentKey row.fingerprint) (hm : row.Matches n) {raise : Bool}
    (hraise : raise=((row.action args).loud && (row.upserted args now).status=.opened)) :
    raise=true ∧ (row.upserted args now).status≠.resolved ∨ raise=false ∧ ∃ k n,
      desk.notifications.find k=some n ∧
        n.dedupeKey=incidentKey (row.upserted args now).fingerprint ∧
        (n.resolvedAt.isSome ↔ (row.upserted args now).status=.resolved) := by
  cases raise with
  | true =>
    have hopen := (Bool.and_eq_true_iff.mp hraise.symm).2
    rw [of_decide_eq_true hopen]
    exact .inl ⟨rfl,by decide⟩
  | false =>
    refine .inr ⟨rfl,k,n,hn,by rw [Incident.upserted_fingerprint]; exact hkey,?_⟩
    rw [hm.resolved,Incident.upserted_status]
    split_ifs with hreopen
    · rw [Incident.action_reopened hreopen,Incident.upserted_status,if_pos hreopen] at hraise
      cases hraise
    · rfl

/-- A sighting whose fingerprint fits keeps incidents and notifications together. -/
lemma Desk.Coupled.upsert (h : desk.Coupled) {args : IncidentArgs} {reply : IncidentReply}
    (hne : args.normalized.fingerprint≠"")
    (hfits : args.normalized.fingerprint.length ≤ 231)
    (hp : desk'.incidents.Unique Incident.fingerprint)
    (hs : sightIncident p host args.normalized desk=.ok (reply,desk')) : desk'.Coupled := by
  obtain ⟨incidents,hsync,-⟩ := sightIncident_sync p host hs
  rcases sightIncident_cases p host hs with
    ⟨id,row,hfirst,rfl,hothers⟩ | ⟨hnone,rfl,hothers⟩
  · have htable := Desk.incidents_eq hothers
    obtain ⟨hrow,hfound⟩ := Table.first_some hfirst
    have hprint : row.fingerprint=args.normalized.fingerprint := of_decide_eq_true hfound
    obtain ⟨k,n,hn,hkey,hm⟩ := h.matched id row hrow
    obtain ⟨increment,hsome⟩ := syncUpsert_known id args.normalized host.now hn hkey
    rw [← syncUpsert_beside _ _ _ incidents] at hsome
    obtain ⟨-,hu⟩ := syncIncidentNotification_some p host hsome hsync
    refine h.sight (Upserted.of_beside p host incidents desk.jobs hu) ?_
      (sighted_agrees hn hkey hm rfl) hp fun i r' hr' => ?_
    · rw [Incident.upserted_fingerprint]
      exact h.fits id row hrow
    · rw [htable,Table.find_modify] at hr'
      split_ifs at hr' with hi
      · subst hi
        rw [hrow] at hr'
        exact .inl (Option.some.inj hr').symm
      · refine .inr ⟨hr',fun hsame => hi (h.prints i id r' row hr' hrow ?_)⟩
        rw [hsame,Incident.upserted_fingerprint]
  · have htable := Desk.incidents_eq hothers
    have hsome : ∃ increment, syncUpsert desk.incidents.next
        (args.normalized.created host.now) .opened { desk with incidents := incidents }=
        some (syncArgs desk.incidents.next (args.normalized.created host.now) true
          increment) := ⟨_,by
      unfold syncUpsert
      rw [if_pos (by simp [IncidentAction.loud])]
      rfl⟩
    obtain ⟨increment,hsome⟩ := hsome
    obtain ⟨-,hu⟩ := syncIncidentNotification_some p host hsome hsync
    have hfit : Fits (args.normalized.created host.now).fingerprint := fits_of_short hne hfits
    refine h.sight (Upserted.of_beside p host incidents desk.jobs hu) hfit
      (.inl ⟨rfl,by simp [IncidentArgs.created]⟩) hp fun i r' hr' => ?_
    rw [htable] at hr'
    rcases Table.find_insert_cases hr' with hold | ⟨-,rfl⟩
    · refine .inr ⟨hold,?_⟩
      have hother : ¬r'.fingerprint=args.normalized.fingerprint := by
        simpa using Table.first_none hnone hold
      exact hother
    · exact .inl rfl

/-- The retention drops incidents only. -/
lemma Desk.Coupled.expire (h : desk.Coupled) (host : Host) :
    (desk.expireIncidents host).Coupled where
  keys := h.keys
  prints := h.prints.delete
  fits := h.fits.delete
  matched := h.matched.delete

/-- Rows that are followed one by one. -/
def Steady (t t' : Table Notification) : Prop :=
  ∃ g : ℕ → Notification → Notification, (∀ k (n : Notification), n.Follows (g k n)) ∧
    ∀ k, t'.find k=(t.find k).map (g k)

lemma Steady.refl (t : Table Notification) : Steady t t :=
  ⟨fun _ n => n,fun _ n => .refl n,fun k => by simp⟩

lemma Steady.update (t : Table Notification) (p : ℕ → Notification → Bool)
    {f : Notification → Notification} (hf : ∀ n : Notification, n.Follows (f n)) :
    Steady t (t.update p f) := by
  refine ⟨fun k n => if p k n then f n else n,fun k n => ?_,fun k => t.find_update p f k⟩
  dsimp only
  split_ifs
  · exact hf n
  · exact .refl n

variable (host desk) in
lemma notificationTransition_steady (id : ℕ) (state : NotificationState) (actor : String) :
    Steady desk.notifications
      ((notificationTransition host id state actor desk).commit desk).notifications := by
  unfold notificationTransition
  dsimp only
  split_ifs
  · exact .refl _
  · split
    · exact .refl _
    · exact .update desk.notifications _ (Notification.transition_follows host.now _ state)

variable (host desk) in
lemma markAllNotificationsRead_steady (actor : String) : Steady desk.notifications
    ((markAllNotificationsRead host actor desk).commit desk).notifications := by
  have hfold (rows : List (ℕ × Notification)) (d : Desk) :
      (rows.foldl (fun desk r => cancelDeliveriesFor host r.1
        "Notification marked read before push delivery"
        "Notification marked read before external delivery" desk) d).notifications=
      d.notifications := by
    induction rows generalizing d with
    | nil => rfl
    | cons r rows ih => exact ih _
  change Steady _ (List.foldl _ _ _ : Desk).notifications
  rw [hfold]
  exact .update desk.notifications _ (Notification.transition_follows host.now _ .read)

variable (host desk) in
lemma acknowledgeIncident_steady (id : ℕ) (actor : String) : Steady desk.notifications
    ((acknowledgeIncident host id actor desk).commit desk).notifications := by
  unfold acknowledgeIncident
  dsimp only
  split
  · exact .refl _
  · split_ifs
    · exact .refl _
    · simp only [Call.commit]
      split
      · exact .refl _
      · exact .update desk.notifications _
          (Notification.transition_follows host.now _ .acknowledged)

variable (host desk) in
lemma evaluate_steady (p : Platform) (now : Option ℤ) : Steady desk.notifications
    ((evaluateNotificationIntelligence p host now desk).commit desk).notifications := by
  refine ⟨fun _ n => if desk.intelligence.escalationEnabled && n.candidate then
    n.evaluated desk.intelligence (now.getD host.now) else n,fun _ n => ?_,
    evaluateNotificationIntelligence_find p host now desk⟩
  dsimp only
  split_ifs
  · exact Notification.evaluated_follows _ _ n
  · exact .refl n

/-- A call that leaves the incidents alone. -/
lemma Desk.Coupled.steady (h : desk.Coupled)
    (hn : Steady desk.notifications desk'.notifications)
    (hi : desk'.incidents=desk.incidents) : desk'.Coupled := by
  obtain ⟨g,hg,hfind⟩ := hn
  refine h.follow hg hfind (by rw [hi]; exact h.prints) fun id r hr => ?_
  rw [hi] at hr
  exact ⟨r,hr,rfl,rfl,.rfl⟩

lemma acknowledgeIncident_incidents (id : ℕ) (actor : String) :
    ∀ i r', ((acknowledgeIncident host id actor desk).commit desk).incidents.find i=some r' →
      ∃ r, desk.incidents.find i=some r ∧ r.Follows r' := by
  intro i r' hr'
  unfold acknowledgeIncident at hr'
  dsimp only at hr'
  split at hr'
  · exact ⟨r',hr',rfl,rfl,.rfl⟩
  rename_i row hrow
  split_ifs at hr' with hs
  · exact ⟨r',hr',rfl,rfl,.rfl⟩
  have hmodify : (desk.incidents.modify id (.acknowledge host.now
      (clip (strip (orElse actor "unknown")) 100))).find i=some r' := by
    rw [← hr']
    simp only [Call.commit]
    split <;> rfl
  rw [Table.find_modify] at hmodify
  split_ifs at hmodify with hk
  · subst hk
    rw [hrow] at hmodify
    obtain rfl := Option.some.inj hmodify
    exact ⟨row,hrow,rfl,rfl,by simp [Incident.acknowledge,hs]⟩
  · exact ⟨r',hmodify,rfl,rfl,.rfl⟩

/-- The resolution of an incident by hand or by a scan. -/
lemma Desk.Coupled.resolveRow (h : desk.Coupled) {id : ℕ} {row : Incident}
    (hrow : desk.incidents.find id=some row) (host : Host)
    (actor text resolution : String) (suppress : Bool) :
    (resolveNotificationDb host (incidentKey row.fingerprint) actor text
      { desk with
        incidents := desk.incidents.modify id
          (.resolve host.now actor resolution suppress) }).Coupled := by
  refine h.resolve hrow (f:=.resolve host.now actor resolution suppress) ⟨rfl,rfl⟩
    (fun i => ?_) (resolveNotificationDb_find
      { desk with incidents := desk.incidents.modify id _ } h.keys _ actor text)
  rw [Desk.incidents_eq (resolveNotificationDb_others host _ _ _ _)]
  dsimp only
  rw [Table.find_modify]
  split_ifs with hi
  · rw [hi,hrow]; rfl
  · rfl

/-- One row of a scan. -/
lemma Desk.Coupled.clear (h : desk.Coupled) {k : ℕ} {r : Incident}
    (hr : desk.incidents.find k=some r) (host : Host) (actor : String) :
    (clearIncident host actor (k,r) desk).Coupled := by
  unfold clearIncident
  split_ifs with hs hc
  · exact h.resolveRow hr host actor clearedResolution clearedResolution false
  · refine h.follow (g:=fun _ n => n) (fun _ n => .refl n) (fun i => by simp)
      (h.prints.update fun _ => rfl) fun i r' hr' => ?_
    dsimp only at hr'
    rw [Table.find_modify] at hr'
    split_ifs at hr' with hi
    · subst hi
      rw [hr] at hr'
      obtain rfl := Option.some.inj hr'
      exact ⟨r,hr,rfl,rfl,.rfl⟩
    · exact ⟨r',hr',rfl,rfl,.rfl⟩
  · exact h

/-- The loop of a scan. -/
lemma Desk.Coupled.clearEach (h : desk.Coupled) (host : Host) (actor : String)
    {rows : List (ℕ × Incident)} (hrows : rows.Pairwise fun r r' => r.1 < r'.1)
    (hfind : ∀ r ∈ rows, desk.incidents.find r.1=some r.2) :
    (rows.foldl (fun desk r => clearIncident host actor r desk) desk).Coupled := by
  refine Table.foldl_invariant Desk.incidents (fun desk r => clearIncident host actor r desk)
    (I:=Desk.Coupled) (fun d i r hd hr => ⟨hd.clear hr host actor,fun k hk => ?_⟩) hrows h hfind
  rw [clearIncident_incidents host actor hr,if_neg hk]

/-- One call keeps incidents and notifications together. -/
theorem Request.coupled (p : Platform) {request : Request} (hcall : request.call.monitors)
    (hfits : request.FingerprintFits) (h : desk.Coupled) :
    (request.next p desk).Coupled := by
  have hunique := (request.incident_change p desk).unique h.prints
  obtain ⟨host,call⟩ := request
  cases call with
  | upsertIncident args =>
    simp only [next,DeskCall.commit] at hunique ⊢
    cases hcommit : Attention.upsertIncident p host args desk with
    | error e => exact h
    | ok result =>
      obtain ⟨reply,desk'⟩ := result
      obtain ⟨hne,sighted,hs,rfl⟩ := upsertIncident_ok p host hcommit
      refine (h.upsert hne hfits ?_ hs).expire host
      rcases sightIncident_cases p host hs with ⟨id,row,-,-,hothers⟩ | ⟨hnone,-,hothers⟩
      · rw [Desk.incidents_eq hothers]
        exact h.prints.update (Incident.upserted_fingerprint _ _)
      · rw [Desk.incidents_eq hothers]
        refine h.prints.insert fun k r hr hkey => ?_
        have hother : ¬r.fingerprint=args.normalized.fingerprint := by
          simpa using Table.first_none hnone hr
        exact hother hkey
  | acknowledgeIncident id actor =>
    obtain ⟨g,hg,hfind⟩ := acknowledgeIncident_steady host desk id actor
    exact h.follow hg hfind hunique (acknowledgeIncident_incidents id actor)
  | resolveIncident id actor resolution suppress =>
    simp only [next,DeskCall.commit,Attention.resolveIncident]
    cases hrow : desk.incidents.find id with
    | none => exact h
    | some row => exact h.resolveRow hrow host _ _ _ suppress
  | resolveInactive source active actor =>
    simp only [next,DeskCall.commit,Attention.resolveInactiveIncidents]
    split_ifs
    · exact h
    · exact h.clearEach host actor (desk.incidents.increasing.filter _) fun r hr =>
        (Table.mem_select.mp hr).1
  | markRead id actor | acknowledge id actor | dismiss id actor =>
    exact h.steady (notificationTransition_steady host desk id _ actor)
      (Desk.incidents_eq (notificationTransition_others host id _ actor desk))
  | markAllRead actor =>
    exact h.steady (markAllNotificationsRead_steady host desk actor)
      (Desk.incidents_eq (markAllNotificationsRead_others host actor desk))
  | evaluate now =>
    exact h.steady (evaluate_steady host desk p now)
      (Desk.incidents_eq (evaluateNotificationIntelligence_others p host now desk))
  | savePreferences | saveIntelligence => exact h.steady (.refl _) rfl
  | saveIncidentRetention days => exact h.steady (.refl _) rfl
  | _ => cases hcall

end Steps

section Histories
variable {p : Platform} {host : Host} {desk desk' : Desk}

/-- The keys of notifications are clipped. -/
def Desk.Clipped (desk : Desk) : Prop :=
  desk.notifications.All fun n => n.dedupeKey.length ≤ 240

lemma storedArgs_clipped {args : Option NotificationArgs} {stored : NotificationArgs}
    (h : storedArgs args=some stored) : stored.dedupeKey.length ≤ 240 := by
  obtain ⟨hmap,-⟩ := Option.filter_eq_some_iff.mp h
  obtain ⟨raw,-,rfl⟩ := Option.map_eq_some_iff.mp hmap
  exact clip_length_le _ _

lemma Upserted.clipped {args : NotificationArgs} (h : Upserted p host args desk desk')
    (hargs : args.dedupeKey.length ≤ 240) (hc : desk.Clipped) : desk'.Clipped := by
  obtain ⟨-,-,f,hf,-,hnotes⟩ := h
  have hupsert : (upsertNormalized p host args desk).desk.Clipped := by
    unfold Desk.Clipped
    cases hfirst : desk.notifications.first fun r => r.dedupeKey=args.dedupeKey with
    | none =>
      rw [(upsertNormalized_none p host hfirst).2.2]
      exact hc.insert hargs
    | some found =>
      rw [(upsertNormalized_some p host hfirst).2.2]
      exact hc.modify fun n hn => hc _ n hn
  unfold Desk.Clipped
  rw [hnotes]
  refine hupsert.modify fun n hn => ?_
  rw [(hf n).dedupeKey]
  exact hupsert _ n hn

lemma Hushed.clipped (h : Hushed desk desk') (hc : desk.Clipped) : desk'.Clipped := by
  intro k n' hn'
  cases hk : desk.notifications.find k with
  | none => rw [h.fresh hk] at hn'; cases hn'
  | some n =>
    obtain ⟨m,hm,htouched⟩ := h.kept hk
    obtain rfl : n'=m := Option.some.inj (hn'.symm.trans hm)
    rw [htouched.dedupeKey]
    exact hc k n hk

lemma Request.clipped {request : Request} (hcall : request.call.monitors)
    (hc : desk.Clipped) : (request.next p desk).Clipped := by
  by_cases he : ∃ now, request.call=.evaluate now
  · obtain ⟨host,call⟩ := request
    obtain ⟨now,rfl⟩ := he
    obtain ⟨g,hg,hfind⟩ := evaluate_steady host desk p now
    intro k n' hn'
    obtain ⟨n,hn,rfl⟩ := Option.map_eq_some_iff.mp ((hfind k).symm.trans hn')
    rw [(hg k n).1]
    exact hc k n hn
  · have hstep := request.upsert_step p desk (fun now h => he ⟨now,h⟩)
      (by cases hr : request.call <;> first | rfl | (rw [hr] at hcall; cases hcall))
      (by cases hr : request.call <;> first | rfl | (rw [hr] at hcall; cases hcall))
    generalize hu : request.upsert desk=upsert at hstep
    cases hstep with
    | hushed h => exact h.clipped hc
    | upserted hkey h => exact h.clipped (storedArgs_clipped hu) hc

/-- A row whose key is longer than the keys of notifications are has no notification. -/
lemma Desk.disagrees (hc : desk.Clipped) {k : ℕ} {r : Incident}
    (hr : desk.incidents.find k=some r) (hlong : 231 < r.fingerprint.length) :
    ¬desk.Agrees := by
  intro h
  obtain ⟨i,n,hn,hkey,-,-⟩ := h k r hr
  have hlength : n.dedupeKey.length ≤ 240 := hc i n hn
  rw [hkey,incidentKey_length] at hlength
  omega

lemma syncArgs_stored (id : ℕ) (r : Incident) (raise increment : Bool) :
    (syncArgs id r raise increment).normalized.dedupeKey≠"" := by
  have hi : 'i' ∈ (incidentKey r.fingerprint).toList := by simp [incidentKey]
  exact clip_ne_empty (strip_ne_empty hi (by decide)) (by decide)

variable (p host desk) in
/-- The sighting of a new fingerprint adds its row. -/
lemma upsertIncident_created {args : IncidentArgs} (hne : args.normalized.fingerprint≠"")
    (hfirst : desk.incidents.first (fun r => r.fingerprint=args.normalized.fingerprint)=none) :
    ((upsertIncident p host args desk).commit desk).incidents=
      (desk.incidents.insert (args.normalized.created host.now)).delete
        fun _ r => r.expired host.now desk.retentionDays := by
  cases hcommit : upsertIncident p host args desk with
  | error e =>
    have hnone := upsertIncident_error p host hcommit
    unfold incidentUpsert syncUpsert at hnone
    dsimp only at hnone
    rw [if_neg hne,hfirst] at hnone
    dsimp only at hnone
    rw [if_pos (by simp [IncidentAction.loud]),storedArgs_some (syncArgs_stored _ _ _ _)] at hnone
    cases hnone
  | ok result =>
    obtain ⟨reply,desk'⟩ := result
    obtain ⟨-,sighted,hs,rfl⟩ := upsertIncident_ok p host hcommit
    rcases sightIncident_cases p host hs with ⟨id,row,hsome,-⟩ | ⟨-,-,hothers⟩
    · rw [hfirst] at hsome
      cases hsome
    · have hdays : sighted.retentionDays=desk.retentionDays :=
        (Desk.retentionDays_eq hothers).trans rfl
      simp only [Call.commit,Desk.expireIncidents,Desk.incidents_eq hothers,hdays]

variable (p host desk) in
/-- After the sighting of a fingerprint its row is there, unless it was there before. -/
lemma upsertIncident_present {args : IncidentArgs} (hne : args.normalized.fingerprint≠"") :
    (∃ k r, desk.incidents.find k=some r ∧ r.fingerprint=args.normalized.fingerprint) ∨
      ∃ k r, ((upsertIncident p host args desk).commit desk).incidents.find k=some r ∧
        r.fingerprint=args.normalized.fingerprint := by
  cases hfirst : desk.incidents.first fun r => r.fingerprint=args.normalized.fingerprint with
  | some found =>
    obtain ⟨hfind,hprint⟩ := Table.first_some hfirst
    exact .inl ⟨_,_,hfind,of_decide_eq_true hprint⟩
  | none =>
    refine .inr ⟨desk.incidents.next,args.normalized.created host.now,?_,rfl⟩
    rw [upsertIncident_created p host desk hne hfirst,Table.find_delete,Table.find_insert,if_pos rfl]
    rfl

variable (desk) in
/-- A fingerprint that is too long disagrees after its sighting, if it did not before. -/
lemma Request.disagrees {request : Request} (hcall : request.call.monitors)
    (hlong : ¬request.FingerprintFits) (hc : desk.Clipped) (hnow : desk.Agrees) :
    ¬(request.next p desk).Agrees := by
  have hc' : (request.next p desk).Clipped := Request.clipped hcall hc
  obtain ⟨host,call⟩ := request
  cases call with
  | upsertIncident args =>
    have hlength : 231 < args.normalized.fingerprint.length := Nat.lt_of_not_le hlong
    have hne : args.normalized.fingerprint≠"" := by
      intro hempty
      rw [hempty] at hlength
      exact absurd hlength (by decide)
    rcases upsertIncident_present p host desk hne with
      ⟨k,r,hr,hprint⟩ | ⟨k,r,hr,hprint⟩
    · exact absurd hnow (Desk.disagrees hc hr (by rw [hprint]; exact hlength))
    · exact Desk.disagrees hc' hr (by rw [hprint]; exact hlength)
  | _ => exact absurd trivial hlong

/-- Incidents and notifications agree throughout a history exactly when every sighted
fingerprint leaves room for `incident:` in the key of a notification. -/
theorem agree_iff (p : Platform) (requests : List Request)
    (hcalls : ∀ q ∈ requests, q.call.monitors) :
    Throughout (Request.next p) Desk.Agrees requests {} ↔
      ∀ q ∈ requests, q.FingerprintFits := by
  constructor
  · intro h q hq
    obtain ⟨before,rest,rfl⟩ := List.append_of_mem hq
    by_contra hlong
    have hbefore : ∀ q ∈ before, q.call.monitors := fun q hq =>
      hcalls q (List.mem_append_left _ hq)
    have hclipped : (after (Request.next p) before {}).Clipped :=
      after_invariant (I:=Desk.Clipped) hbefore Table.All.empty fun _ _ hq hs =>
        Request.clipped hq hs
    have hthen := h (before ++ [q]) rest (by simp)
    rw [after_append] at hthen
    exact Request.disagrees _ (hcalls q hq) hlong hclipped (h before _ rfl) hthen
  · intro hfits before rest hsplit
    subst hsplit
    refine Desk.Coupled.agrees ?_
    refine after_invariant (I:=Desk.Coupled) (P:=fun q => q.call.monitors ∧ q.FingerprintFits)
      (fun q hq => ?_) ⟨Table.Unique.empty,Table.Unique.empty,Table.All.empty,Table.All.empty⟩
      fun q s hq hs => Request.coupled p hq.1 hq.2 hs
    exact ⟨hcalls q (List.mem_append_left _ hq),hfits q (List.mem_append_left _ hq)⟩

/-- A signal of the router. -/
def routerSignal (fingerprint : String) : IncidentArgs where
  fingerprint := fingerprint
  source := "router"
  severity := "warning"
  title := "Router unreachable"

def sighting (fingerprint : String) (now : ℤ) : Request :=
  ⟨{ now := now },.upsertIncident (routerSignal fingerprint)⟩

lemma sighting_fits_iff (fingerprint : String) (now : ℤ) :
    (sighting fingerprint now).FingerprintFits ↔ (clip (strip fingerprint) 240).length ≤ 231 :=
  .rfl

theorem agree_acknowledged_resolved : Throughout (Request.next asciiPlatform) Desk.Agrees
    [sighting "router:offline" 0,⟨{},.acknowledgeIncident 1 "parent"⟩,⟨{},.evaluate none⟩,
      ⟨{},.resolveIncident 1 "parent" "" true⟩] {} :=
  (agree_iff asciiPlatform _ (by simp [sighting,DeskCall.monitors])).mpr (by
    simp only [List.forall_mem_cons,Request.FingerprintFits,sighting]
    exact ⟨by decide,trivial,trivial,trivial,fun _ h => by cases h⟩)

lemma first_sighting_disagrees (p : Platform) {request : Request}
    (hcall : request.call.monitors) (hlong : ¬request.FingerprintFits) :
    ¬Throughout (Request.next p) Desk.Agrees [request] {} := by
  intro h
  exact Request.disagrees {} hcall hlong Table.All.empty (h [] [request] rfl)
    (h [request] [] rfl)

/-- A fingerprint of 232 characters leads to an incident without a notification. -/
theorem long_fingerprint_disagrees : ¬Throughout (Request.next asciiPlatform) Desk.Agrees
    [sighting (String.ofList (List.replicate 232 'x')) 0] {} := by
  refine first_sighting_disagrees asciiPlatform rfl ?_
  have hstrip : strip (String.ofList (List.replicate 232 'x'))=
      String.ofList (List.replicate 232 'x') := by
    refine strip_eq_self (fun c hc => ?_) fun c hc => ?_
    all_goals
      simp only [String.toList_ofList,List.head?_replicate,List.getLast?_replicate] at hc
      obtain rfl : 'x'=c := Option.some.inj hc
      decide
  rw [sighting_fits_iff,hstrip,clip_of_length_le]
  all_goals
    rw [String.length_ofList,List.length_replicate]
    decide

end Histories
end ZenControl.Attention
