import ZenControl.Attention.Announcements
import ZenControl.Attention.Escalation
import ZenControl.Attention.Agreement

/-! What is raised is queued once. A delivery is told from another one by its notification,
recipient, occurrence and kind. The occurrences of a notification count up whenever it is raised
by its source, so that no two transitions meet in one row, except where a sighting raises a
notification without counting. -/
namespace ZenControl.Attention
open Rows Histories Queueable

/-- The notification that an upsert raises, with its occurrence and what is queued of it. -/
def upsertRaised (host : Host) (args : NotificationArgs) (desk : Desk) :
    List (ℕ × ℕ × DeliveryKind) :=
  if args.raiseAttention=false then []
  else match desk.notifications.first fun r => r.dedupeKey=args.dedupeKey with
    | none => [(desk.notifications.next,1,.notification)]
    | some (id,row) =>
      if row.upsertAction args=.updated then []
      else [(id,(row.upserted args desk.preferences host.now).occurrences,.notification)]

/-- The candidates that an evaluation escalates. -/
def dueRaised (settings : IntelligenceSettings) (now : ℤ) (rows : List (ℕ × Notification)) :
    List (ℕ × ℕ × DeliveryKind) :=
  (rows.filter fun r => r.2.escalationReasons settings now≠[]).map fun r =>
    (r.1,r.2.occurrences,.escalation)

/-- The notifications that a request raises: by an upsert, or by an escalation. -/
def Request.raised (request : Request) (desk : Desk) : List (ℕ × ℕ × DeliveryKind) :=
  match request.call with
  | .evaluate now =>
    if desk.intelligence.escalationEnabled then
      dueRaised desk.intelligence (now.getD request.host.now)
        (desk.notifications.select fun _ r => r.candidate)
    else []
  | _ => match request.upsert desk with
    | none => []
    | some args => upsertRaised request.host args desk

/-- The notices of what is raised, for each recipient. -/
def noticesOf {ρ : Type} (raised : List (ℕ × ℕ × DeliveryKind)) (recipients : List ρ) :
    List (ℕ × ρ × ℕ × DeliveryKind) :=
  raised.flatMap fun x => recipients.map fun s => (x.1,s,x.2)

/-- Exactly one new row for each raised notification and recipient, pending or suppressed, that
no other row collides with; and no other row. -/
structure QueuesOnce {α : Type} [Queueable α] (raised : List (ℕ × ℕ × DeliveryKind))
    (recipients : List (Recipient α)) (t t' : Table α) : Prop where
  notices_eq : notices t'=notices t ++ noticesOf raised recipients
  distinct : (notices t').Nodup
  added : ∀ n ∈ noticesOf raised recipients, ∃ k r, t.find k=none ∧ t'.find k=some r ∧
    notice r=some n ∧ (status r=.pending ∨ status r=.suppressed)

/-- A request queues what it raises once, for every enabled subscription and every configured
target. -/
structure QueuesRaised (p : Platform) (request : Request) (desk : Desk) : Prop where
  push : QueuesOnce (request.raised desk) desk.enabledSubscriptions desk.pushDeliveries
    (request.next p desk).pushDeliveries
  external : QueuesOnce (request.raised desk) (desk.externalRecipients p request.host)
    desk.externalDeliveries (request.next p desk).externalDeliveries

/-- An upsert that reopens or escalates a notification with attention counts an occurrence. -/
def CountsRaise (request : Request) (desk : Desk) : Prop :=
  ∀ upsert ∈ request.upserts desk, upsert.1.raiseAttention →
    upsert.2.2.upsertAction upsert.1≠.updated → upsert.1.incrementOccurrence

instance (request : Request) (desk : Desk) : Decidable (CountsRaise request desk) :=
  inferInstanceAs (Decidable (∀ upsert ∈ request.upserts desk, _ → _ → _))

section Counters
variable {request : Request} {desk : Desk}

/-- What is known of the notices of a queue: they are not ahead of their notification, and the
escalation of one that is not escalated now is behind it. -/
def Counted {α : Type} [Queueable α] (notifications : Table Notification) (t : Table α) : Prop :=
  ∀ n ∈ notices t, ∃ row, notifications.find n.1=some row ∧ n.2.2.1 ≤ row.occurrences ∧
    (n.2.2.2=.escalation → row.escalationLevel=0 → n.2.2.1 < row.occurrences)

lemma Notification.upserted_occurrences (args : NotificationArgs)
    (prefs : NotificationPreferences) (now : ℤ) (n : Notification) :
    (n.upserted args prefs now).occurrences=
      if args.incrementOccurrence then n.occurrences+1 else n.occurrences := by
  simp only [upserted]

lemma Notification.upserted_escalationLevel (args : NotificationArgs)
    (prefs : NotificationPreferences) (now : ℤ) (n : Notification) :
    (n.upserted args prefs now).escalationLevel=
      if n.reopens args then 0 else n.escalationLevel := by
  simp only [upserted]

lemma Notification.upsertAction_reopened {args : NotificationArgs} {n : Notification}
    (h : n.reopens args) : n.upsertAction args≠.updated := by
  rw [upsertAction,if_pos h]
  decide

/-- The occurrences count up, and a notification loses its level only with a new one. -/
lemma NotificationMoved.counts {k : ℕ} {n n' : Notification}
    (h : NotificationMoved request desk k n n') (hcounts : CountsRaise request desk) :
    n.occurrences ≤ n'.occurrences ∧
      (n'.escalationLevel=0 → n.escalationLevel=0 ∨ n.occurrences < n'.occurrences) := by
  cases h with
  | touched h =>
    rw [h.occurrences,h.escalationLevel]
    exact ⟨le_rfl,.inl⟩
  | @upserted args hupsert hfirst h hresolved =>
    rw [h.occurrences,h.escalationLevel,Notification.upserted_occurrences,
      Notification.upserted_escalationLevel]
    by_cases hreopens : n.reopens args
    · have hraise : args.raiseAttention := (Bool.and_eq_true_iff.mp hreopens).1
      have hincrement := hcounts _ (Request.mem_upserts.mpr ⟨hupsert,hfirst⟩) hraise
        (Notification.upsertAction_reopened hreopens)
      dsimp only at hincrement
      rw [if_pos hincrement]
      exact ⟨Nat.le_succ _,fun _ => .inr (Nat.lt_succ_self _)⟩
    · rw [if_neg hreopens]
      refine ⟨?_,.inl⟩
      split_ifs
      · exact Nat.le_succ _
      · exact le_rfl
  | evaluated hcall hcandidate h =>
    subst h
    unfold Notification.evaluated
    split_ifs
    · exact ⟨le_rfl,.inl⟩
    · exact ⟨le_rfl,fun hlevel => by cases hlevel⟩

/-- What was counted is counted after a request. -/
lemma Counted.next {α : Type} [Queueable α] {t : Table α} (p : Platform)
    (h : Counted desk.notifications t) (hcounts : CountsRaise request desk) :
    Counted (request.next p desk).notifications t := by
  intro n hn
  obtain ⟨row,hrow,hle,hlt⟩ := h n hn
  obtain ⟨row',hrow',hmoved⟩ := request.notification_moved p desk hrow
  obtain ⟨hcount,hlevel⟩ := hmoved.counts hcounts
  refine ⟨row',hrow',hle.trans hcount,fun hkind hzero => ?_⟩
  rcases hlevel hzero with hzero | hcount
  · exact (hlt hkind hzero).trans_le hcount
  · exact hle.trans_lt hcount

end Counters

section Raised
variable {p : Platform} {host : Host} {desk desk' : Desk} {args : NotificationArgs}

/-- The two ways in which an upsert raises a notification. -/
lemma mem_upsertRaised {x : ℕ × ℕ × DeliveryKind} :
    x ∈ upsertRaised host args desk ↔ args.raiseAttention ∧
      (desk.notifications.first (fun r => r.dedupeKey=args.dedupeKey)=none ∧
          x=(desk.notifications.next,1,.notification) ∨
        ∃ id row, desk.notifications.first (fun r => r.dedupeKey=args.dedupeKey)=some (id,row) ∧
          row.upsertAction args≠.updated ∧
          x=(id,(row.upserted args desk.preferences host.now).occurrences,.notification)) := by
  unfold upsertRaised
  by_cases hraise : args.raiseAttention
  · rw [if_neg (by simp [hraise])]
    cases hfirst : desk.notifications.first fun r => r.dedupeKey=args.dedupeKey with
    | none => simp [hraise]
    | some found =>
      obtain ⟨id,row⟩ := found
      dsimp only
      split_ifs with haction
      · simp [hraise,haction]
      · simp [hraise,haction]
  · rw [if_pos (by simpa using hraise)]
    simp [hraise]

/-- An upsert that changes a row with attention leaves it open and unread. -/
lemma Notification.upserted_raised {row : Notification} (hraise : args.raiseAttention)
    (haction : row.upsertAction args≠.updated) (prefs : NotificationPreferences) (now : ℤ) :
    (row.upserted args prefs now).state=.unread ∧
      (row.upserted args prefs now).resolvedAt=none := by
  refine ⟨?_,by rw [upserted_resolvedAt,if_pos hraise]⟩
  have hraised : (row.reopens args || row.attentionEscalates args)=true := by
    unfold upsertAction at haction
    split_ifs at haction with hreopens hescalates
    · simp [hreopens]
    · simp [attentionEscalates,hraise,hescalates]
    · exact absurd rfl haction
  simp only [upserted]
  rw [if_pos hraised]

/-- What the counters say of a notification that an upsert raises. -/
lemma upsertRaised_new {α : Type} [Queueable α] {t : Table α}
    (h : Counted desk.notifications t)
    (hcounts : ∀ k row, desk.notifications.first (fun r => r.dedupeKey=args.dedupeKey)=
      some (k,row) → args.raiseAttention → row.upsertAction args≠.updated →
        args.incrementOccurrence) {x : ℕ × ℕ × DeliveryKind}
    (hx : x ∈ upsertRaised host args desk) (s : Recipient α) : (x.1,s,x.2) ∉ notices t := by
  intro hmem
  obtain ⟨row,hrow,hle,-⟩ := h _ hmem
  obtain ⟨hraise,⟨hfirst,rfl⟩ | ⟨id,row',hfirst,haction,rfl⟩⟩ := mem_upsertRaised.mp hx
  · rw [Table.find_next] at hrow
    cases hrow
  · obtain rfl : row'=row := Option.some.inj ((Table.first_some hfirst).1.symm.trans hrow)
    rw [Notification.upserted_occurrences,if_pos (hcounts id row' hfirst hraise haction)] at hle
    exact absurd hle (Nat.not_succ_le_self _)

lemma noticesOf_singleton {ρ : Type} (x : ℕ × ℕ × DeliveryKind) (recipients : List ρ) :
    noticesOf [x] recipients=recipients.map fun s => (x.1,s,x.2) := by
  simp [noticesOf]

lemma mem_noticesOf {ρ : Type} {raised : List (ℕ × ℕ × DeliveryKind)} {recipients : List ρ}
    {n : ℕ × ρ × ℕ × DeliveryKind} : n ∈ noticesOf raised recipients ↔
      ∃ x ∈ raised, ∃ s ∈ recipients, (x.1,s,x.2)=n := by
  simp [noticesOf]

lemma noticesOf_nodup {ρ : Type} {raised : List (ℕ × ℕ × DeliveryKind)} {recipients : List ρ}
    (hraised : (raised.map Prod.fst).Nodup) (hrecipients : recipients.Nodup) :
    (noticesOf raised recipients).Nodup := by
  induction raised with
  | nil => exact .nil
  | cons x raised ih =>
    obtain ⟨hx,hraised⟩ := List.nodup_cons.mp hraised
    refine List.Nodup.append (hrecipients.map fun s s' h => (Prod.mk.inj (Prod.mk.inj h).2).1)
      (ih hraised) fun n hn hn' => ?_
    obtain ⟨s,-,rfl⟩ := List.mem_map.mp hn
    obtain ⟨y,hy,s',-,hsame⟩ := mem_noticesOf.mp hn'
    exact hx (List.mem_map.mpr ⟨y,hy,(Prod.mk.inj hsame).1⟩)

variable {α : Type} [Queueable α]

/-- A notification is queued after the notifications were changed. -/
lemma QueueView.raise (v : QueueView p α) (host : Host) (desk : Desk)
    (notifications : Table Notification) (kind : DeliveryKind) (id : ℕ) (row : Notification)
    (hstate : row.state=.unread)
    (hopen : row.resolvedAt=none) (hcount : 1 ≤ row.occurrences) (hkind : kind≠.test)
    (hnew : ∀ s : Recipient α, (id,s,row.occurrences,kind) ∉ notices (v.table desk)) :
    Announced v.subject [] (noticesOf [(id,row.occurrences,kind)] (v.recipients host desk))
      (v.table desk)
      (v.table (queueNotification p host kind id row
        { desk with notifications := notifications })) := by
  have hrecipients : v.recipients host { desk with notifications := notifications }=
      v.recipients host desk := v.recipients_eq host rfl
  have htable : v.table { desk with notifications := notifications }=v.table desk :=
    v.table_eq rfl rfl
  have hadded := v.queue host kind id { desk with notifications := notifications }
    hstate hopen hcount hkind (by rw [htable]; exact fun s _ => hnew s)
  rwa [hrecipients,htable,← noticesOf_singleton (id,row.occurrences,kind)] at hadded

/-- An upsert queues what it raises. -/
lemma upsertNormalized_announced (v : QueueView p α)
    (hpositive : desk.notifications.All fun n => 1 ≤ n.occurrences)
    (hnew : ∀ x ∈ upsertRaised host args desk, ∀ s : Recipient α,
      (x.1,s,x.2) ∉ notices (v.table desk)) :
    Announced v.subject [] (noticesOf (upsertRaised host args desk) (v.recipients host desk))
      (v.table desk) (v.table (upsertNormalized p host args desk).desk) := by
  have hquiet {desk' : Desk} (hp : desk'.pushDeliveries=desk.pushDeliveries)
      (he : desk'.externalDeliveries=desk.externalDeliveries) :
      Announced v.subject [] [] (v.table desk) (v.table desk') := by
    rw [v.table_eq hp he]
  unfold upsertNormalized upsertRaised at *
  cases hfirst : desk.notifications.first fun r => r.dedupeKey=args.dedupeKey with
  | none =>
    rw [hfirst] at hnew
    dsimp only at hnew ⊢
    by_cases hraise : args.raiseAttention
    · rw [if_neg (by simp [hraise])] at hnew ⊢
      rw [if_pos hraise]
      exact v.raise host desk _ .notification _ (args.created host.now) rfl rfl le_rfl (by decide)
        (hnew _ (List.mem_singleton.mpr rfl))
    · rw [if_pos (by simpa using hraise),if_neg hraise]
      exact hquiet rfl rfl
  | some found =>
    obtain ⟨id,row⟩ := found
    rw [hfirst] at hnew
    dsimp only at hnew ⊢
    by_cases hraise : args.raiseAttention
    · rw [if_neg (by simp [hraise])] at hnew ⊢
      by_cases haction : row.upsertAction args=.updated
      · rw [if_pos haction,if_neg (by simp [haction])]
        exact hquiet rfl rfl
      · rw [if_neg haction] at hnew ⊢
        rw [if_pos ⟨hraise,haction⟩]
        obtain ⟨hstate,hopen⟩ :=
          Notification.upserted_raised hraise haction desk.preferences host.now
        have hcount : 1 ≤ (row.upserted args desk.preferences host.now).occurrences := by
          have hrow := hpositive _ row (Table.first_some hfirst).1
          rw [Notification.upserted_occurrences]
          split_ifs <;> omega
        exact v.raise host desk _ _ _ _ hstate hopen hcount (by decide) (hnew _ (List.mem_singleton.mpr rfl))
    · rw [if_pos (by simpa using hraise),if_neg (by simp [hraise])]
      exact hquiet rfl rfl

/-- A round of the evaluation queues the notification if it is due. -/
lemma evaluateOne_announced (v : QueueView p α) {now : ℤ} {settings : IntelligenceSettings}
    {i : ℕ} {row : Notification} {state : Evaluation × Desk}
    (hrow : state.2.notifications.find i=some row) (hcandidate : row.candidate)
    (hpositive : 1 ≤ row.occurrences) (hdue : row.escalationReasons settings now≠[])
    (hnew : ∀ s : Recipient α,
      (i,s,row.occurrences,.escalation) ∉ notices (v.table state.2)) :
    Announced v.subject [i]
      (noticesOf [(i,row.occurrences,.escalation)] (v.recipients host state.2))
      (v.table state.2) (v.table (evaluateOne p host now settings (i,row) state).2) := by
  have hopen : row.resolvedAt=none := by
    simp only [Notification.candidate,Bool.and_eq_true,Option.isNone_iff_eq_none] at hcandidate
    exact hcandidate.1.1.1.1
  rw [evaluateOne_cons hrow hdue]
  unfold escalateNotification
  generalize hcancelled : cancelDeliveriesFor host i _ _ _=cancelled
  have hothers : cancelled.others=state.2.others := by
    rw [← hcancelled,cancelDeliveriesFor_others]; rfl
  have htable : v.table { state.2 with
      notifications := state.2.notifications.modify i
        (.escalate now (reasonText (row.escalationReasons settings now))) }=
      v.table state.2 := v.table_eq rfl rfl
  have hcancel := v.cancel host i "Notification escalated; superseded pending delivery"
    "Notification escalated; superseded pending delivery" { state.2 with
      notifications := state.2.notifications.modify i
        (.escalate now (reasonText (row.escalationReasons settings now))) }
  rw [hcancelled,htable] at hcancel
  have hescalated : ∀ s : Recipient α,
      (i,s,row.occurrences,.escalation) ∉ notices (v.table cancelled) := fun s => by
    rw [hcancel.notices_eq,List.append_nil]
    exact hnew s
  have hqueue := v.raise host cancelled cancelled.notifications .escalation i
    (row.escalate now (reasonText (row.escalationReasons settings now))) rfl hopen hpositive
    (by decide) hescalated
  rw [v.recipients_eq host hothers] at hqueue
  exact hcancel.trans hqueue fun _ h => by cases h

lemma mem_dueRaised {settings : IntelligenceSettings} {now : ℤ}
    {rows : List (ℕ × Notification)} {x : ℕ × ℕ × DeliveryKind} :
    x ∈ dueRaised settings now rows ↔ ∃ r ∈ rows, r.2.escalationReasons settings now≠[] ∧
      (r.1,r.2.occurrences,.escalation)=x := by
  simp [dueRaised,and_assoc]

lemma dueRaised_cons (settings : IntelligenceSettings) (now : ℤ) (r : ℕ × Notification)
    (rows : List (ℕ × Notification)) : dueRaised settings now (r::rows)=
      dueRaised settings now [r] ++ dueRaised settings now rows := by
  unfold dueRaised
  rw [← List.map_append,← List.filter_append,List.singleton_append]

/-- The loop of the evaluation queues the candidates that are due, each of them once. -/
lemma evaluateEach_announced (v : QueueView p α) (host : Host) {now : ℤ} {settings : IntelligenceSettings}
    {rows : List (ℕ × Notification)} (hrows : rows.Pairwise fun r r' => r.1 < r'.1)
    (state : Evaluation × Desk)
    (hfind : ∀ r ∈ rows, state.2.notifications.find r.1=some r.2)
    (hcandidate : ∀ r ∈ rows, r.2.candidate) (hpositive : ∀ r ∈ rows, 1 ≤ r.2.occurrences)
    (hnew : ∀ x ∈ dueRaised settings now rows, ∀ s : Recipient α,
      (x.1,s,x.2) ∉ notices (v.table state.2)) :
    ∃ ids, (∀ i ∈ ids, i ∈ rows.map Prod.fst) ∧ Announced v.subject ids
      (noticesOf (dueRaised settings now rows) (v.recipients host state.2)) (v.table state.2)
      (v.table (rows.foldl (fun state r => evaluateOne p host now settings r state) state).2) := by
  induction rows generalizing state with
  | nil => exact ⟨[],by simp,.refl _⟩
  | cons r rows ih =>
    obtain ⟨i,row⟩ := r
    obtain ⟨hlt,hrows⟩ := List.pairwise_cons.mp hrows
    have hrow := hfind (i,row) List.mem_cons_self
    obtain ⟨ids,hids,hround⟩ : ∃ ids, (∀ k ∈ ids, k=i) ∧ Announced v.subject ids
        (noticesOf (dueRaised settings now [(i,row)]) (v.recipients host state.2))
        (v.table state.2) (v.table (evaluateOne p host now settings (i,row) state).2) := by
      by_cases hdue : row.escalationReasons settings now=[]
      · refine ⟨[],by simp,?_⟩
        rw [evaluateOne_nil hdue,show dueRaised settings now [(i,row)]=[] by
          simp [dueRaised,hdue]]
        exact .refl _
      · refine ⟨[i],by simp,?_⟩
        rw [show dueRaised settings now [(i,row)]=[(i,row.occurrences,.escalation)] by
          simp [dueRaised,hdue]]
        exact evaluateOne_announced v hrow (hcandidate _ List.mem_cons_self)
          (hpositive _ List.mem_cons_self) hdue
          (hnew _ (mem_dueRaised.mpr ⟨(i,row),List.mem_cons_self,hdue,rfl⟩))
    have hothers := evaluateOne_others p host now settings (i,row) state
    have hfind' : ∀ r ∈ rows,
        (evaluateOne p host now settings (i,row) state).2.notifications.find r.1=some r.2 := by
      intro r hr
      rw [evaluateOne_find hrow,if_neg (hlt r hr).ne']
      exact hfind r (List.mem_cons_of_mem _ hr)
    have hnew' : ∀ x ∈ dueRaised settings now rows, ∀ s : Recipient α,
        (x.1,s,x.2) ∉ notices (v.table (evaluateOne p host now settings (i,row) state).2) := by
      intro x hx s hmem
      rw [hround.notices_eq,List.mem_append] at hmem
      rcases hmem with hmem | hmem
      · refine hnew x ?_ s hmem
        rw [dueRaised_cons]
        exact List.mem_append_right _ hx
      · obtain ⟨y,hy,s',-,hsame⟩ := mem_noticesOf.mp hmem
        obtain ⟨r,hr,-,rfl⟩ := mem_dueRaised.mp hy
        obtain rfl := List.mem_singleton.mp hr
        obtain ⟨r',hr',-,rfl⟩ := mem_dueRaised.mp hx
        exact (hlt r' hr').ne (Prod.mk.inj hsame).1
    obtain ⟨ids',hids',hrest⟩ := ih hrows _ hfind'
      (fun r hr => hcandidate r (List.mem_cons_of_mem _ hr))
      (fun r hr => hpositive r (List.mem_cons_of_mem _ hr)) hnew'
    rw [v.recipients_eq host hothers] at hrest
    refine ⟨ids ++ ids',fun k hk => ?_,?_⟩
    · rcases List.mem_append.mp hk with hk | hk
      · rw [hids k hk]
        exact List.mem_cons_self
      · exact List.mem_cons_of_mem _ (hids' k hk)
    · rw [List.foldl_cons,dueRaised_cons,noticesOf,List.flatMap_append]
      refine hround.trans hrest fun n hn hmem => ?_
      obtain ⟨x,hx,s,-,rfl⟩ := mem_noticesOf.mp hn
      obtain ⟨r,hr,-,rfl⟩ := mem_dueRaised.mp hx
      obtain rfl := List.mem_singleton.mp hr
      obtain ⟨r',hr',hsame⟩ := List.mem_map.mp (hids' _ hmem)
      exact (hlt r' hr').ne' hsame

end Raised

section Steps
variable {p : Platform} {request : Request} {desk : Desk}

lemma Request.raised_of_upsert (hcall : ∀ now, request.call≠.evaluate now) :
    request.raised desk=match request.upsert desk with
      | none => []
      | some args => upsertRaised request.host args desk := by
  unfold raised
  split
  · rename_i now he
    exact absurd he (hcall now)
  · rfl

/-- A request raises a notification once. -/
lemma Request.raised_nodup : ((request.raised desk).map Prod.fst).Nodup := by
  by_cases he : ∃ now, request.call=.evaluate now
  · obtain ⟨host,call⟩ := request
    obtain ⟨now,rfl⟩ := he
    simp only [raised]
    split_ifs
    · have hrows : (desk.notifications.select fun _ r => r.candidate).Pairwise
          fun r r' => r.1 < r'.1 := desk.notifications.increasing.filter _
      unfold dueRaised
      rw [List.map_map]
      exact (List.pairwise_map.mpr (hrows.filter _)).imp fun h => h.ne
    · exact .nil
  · rw [raised_of_upsert fun now h => he ⟨now,h⟩]
    split
    · exact .nil
    · unfold upsertRaised
      split_ifs
      · exact .nil
      · split
        · exact List.nodup_singleton _
        · split_ifs
          · exact .nil
          · exact List.nodup_singleton _

variable {α : Type} [Queueable α]

/-- No row has been queued for what is raised now. -/
lemma Request.raised_new {t : Table α} (h : Counted desk.notifications t)
    (hcounts : CountsRaise request desk) {x : ℕ × ℕ × DeliveryKind}
    (hx : x ∈ request.raised desk) (s : Recipient α) : (x.1,s,x.2) ∉ notices t := by
  by_cases he : ∃ now, request.call=.evaluate now
  · obtain ⟨host,call⟩ := request
    obtain ⟨now,rfl⟩ := he
    simp only [raised] at hx
    split_ifs at hx
    · obtain ⟨⟨k,row⟩,hrow,-,rfl⟩ := mem_dueRaised.mp hx
      obtain ⟨hfind,hcandidate⟩ := Table.mem_select.mp hrow
      intro hmem
      obtain ⟨row',hrow',-,hlt⟩ := h _ hmem
      obtain rfl : row=row' := Option.some.inj (hfind.symm.trans hrow')
      simp only [Notification.candidate,Bool.and_eq_true,decide_eq_true_eq] at hcandidate
      exact absurd (hlt rfl hcandidate.1.1.2) (Nat.lt_irrefl _)
    · cases hx
  · rw [raised_of_upsert fun now h => he ⟨now,h⟩] at hx
    split at hx
    · cases hx
    · rename_i hupsert
      exact upsertRaised_new h (fun k row hfirst hraise haction =>
        hcounts (_,k,row) (mem_upserts.mpr ⟨hupsert,hfirst⟩) hraise haction) hx s

lemma QueuesOnce.of_announced {subject : α → ℕ} {ids : List ℕ}
    {raised : List (ℕ × ℕ × DeliveryKind)} {recipients : List (Recipient α)} {t t' : Table α}
    (h : Announced subject ids (noticesOf raised recipients) t t')
    (hraised : (raised.map Prod.fst).Nodup) (hrecipients : recipients.Nodup)
    (hdistinct : (notices t).Nodup)
    (hnew : ∀ x ∈ raised, ∀ s : Recipient α, (x.1,s,x.2) ∉ notices t) :
    QueuesOnce raised recipients t t' where
  notices_eq := h.notices_eq
  distinct := by
    rw [h.notices_eq]
    refine hdistinct.append (noticesOf_nodup hraised hrecipients) fun n hn hn' => ?_
    obtain ⟨x,hx,s,-,rfl⟩ := mem_noticesOf.mp hn'
    exact hnew x hx s hn
  added n hn := by
    obtain ⟨k,r,hk,hr,hnotice,-,hstatus⟩ := h.added n hn
    exact ⟨k,r,hk,hr,hnotice,hstatus⟩

lemma QueuesOnce.of_notices {recipients : List (Recipient α)} {t t' : Table α}
    (h : notices t'=notices t) (hdistinct : (notices t).Nodup) :
    QueuesOnce [] recipients t t' where
  notices_eq := h.trans (List.append_nil _).symm
  distinct := by rw [h]; exact hdistinct
  added _ hn := by cases hn

/-- The invariant of a queue: occurrences are counted from one, no notice is ahead of its
notification, and none is there twice. -/
structure Tallied (v : QueueView p α) (desk : Desk) : Prop where
  positive : desk.notifications.All fun n => 1 ≤ n.occurrences
  counted : Counted desk.notifications (v.table desk)
  distinct : (notices (v.table desk)).Nodup

/-- A request queues what it raises once. -/
theorem Tallied.queuesOnce {v : QueueView p α} (h : Tallied v desk)
    (hcounts : CountsRaise request desk) :
    QueuesOnce (request.raised desk) (v.recipients request.host desk) (v.table desk)
      (v.table (request.next p desk)) := by
  have hnew (x) (hx : x ∈ request.raised desk) (s : Recipient α) :=
    Request.raised_new h.counted hcounts hx s
  have hnodup : ((request.raised desk).map Prod.fst).Nodup := Request.raised_nodup
  by_cases he : ∃ now, request.call=.evaluate now
  · obtain ⟨host,call⟩ := request
    obtain ⟨now,rfl⟩ := he
    simp only [Request.raised] at hnew hnodup ⊢
    simp only [Request.next,DeskCall.commit,evaluateNotificationIntelligence]
    by_cases henabled : desk.intelligence.escalationEnabled
    · rw [if_pos henabled] at hnew hnodup ⊢
      rw [if_neg (by simp [henabled])]
      have hrows : (desk.notifications.select fun _ r => r.candidate).Pairwise
          fun r r' => r.1 < r'.1 := desk.notifications.increasing.filter _
      have hmem (r : ℕ × Notification)
          (hr : r ∈ desk.notifications.select fun _ r => r.candidate) :
          desk.notifications.find r.1=some r.2 ∧ r.2.candidate := Table.mem_select.mp hr
      obtain ⟨ids,-,hannounced⟩ := evaluateEach_announced v host hrows
        ({},desk) (fun r hr => (hmem r hr).1) (fun r hr => (hmem r hr).2)
        (fun r hr => h.positive _ _ (hmem r hr).1) hnew
      exact .of_announced hannounced hnodup (v.nodup host desk) h.distinct hnew
    · rw [if_neg henabled,if_pos (by simpa using henabled)]
      exact .of_notices rfl h.distinct
  rw [Request.raised_of_upsert fun now h => he ⟨now,h⟩] at hnew hnodup ⊢
  by_cases hworker : request.call.pushWork request.host desk=.other ∧
      request.call.externalWork request.host desk=.other
  · have hstep := request.upsert_step p desk (fun now h => he ⟨now,h⟩) hworker.1 hworker.2
    generalize hupsert : request.upsert desk=upsert at hstep hnew hnodup ⊢
    cases hstep with
    | hushed hh => exact .of_notices (v.hushed hh) h.distinct
    | @upserted args desk' hkey hu =>
      rw [v.table_eq hu.push hu.external]
      exact .of_announced (upsertNormalized_announced v h.positive hnew) hnodup
        (v.nodup _ desk) h.distinct hnew
  · have hor : request.call.pushWork request.host desk≠.other ∨
        request.call.externalWork request.host desk≠.other := by tauto
    rw [(Request.worker_notifications p request desk hor).2]
    exact .of_notices (v.worker request desk hor) h.distinct

/-- What is raised is counted in its row. -/
lemma Request.raised_counted (p : Platform) {x : ℕ × ℕ × DeliveryKind}
    (hx : x ∈ request.raised desk) :
    ∃ row, (request.next p desk).notifications.find x.1=some row ∧ x.2.1 ≤ row.occurrences ∧
      (x.2.2=.escalation → row.escalationLevel≠0) := by
  by_cases he : ∃ now, request.call=.evaluate now
  · obtain ⟨host,call⟩ := request
    obtain ⟨now,rfl⟩ := he
    simp only [raised] at hx
    split_ifs at hx with henabled
    · obtain ⟨⟨k,row⟩,hrow,hdue,rfl⟩ := mem_dueRaised.mp hx
      obtain ⟨hfind,hcandidate⟩ := Table.mem_select.mp hrow
      have hfind' := evaluateNotificationIntelligence_find p host now desk k
      rw [hfind,Option.map_some,if_pos (by simpa using ⟨henabled,hcandidate⟩),
        Notification.evaluated,if_neg hdue] at hfind'
      exact ⟨_,hfind',le_rfl,fun _ hlevel => by cases hlevel⟩
    · cases hx
  have hcall (now : Option ℤ) (h : request.call=.evaluate now) : False := he ⟨now,h⟩
  rw [raised_of_upsert hcall] at hx
  cases hsome : request.upsert desk with
  | none =>
    rw [hsome] at hx
    cases hx
  | some args =>
  have hu := request.upserted p desk hsome
  rw [hsome] at hx
  obtain ⟨-,⟨hfirst,rfl⟩ | ⟨id,row,hfirst,haction,rfl⟩⟩ := mem_upsertRaised.mp hx
  · obtain ⟨row,htouched,-,hfind⟩ := hu.find_none hfirst
    refine ⟨row,by rw [hfind,if_pos rfl],?_,fun h => by cases h⟩
    rw [htouched.occurrences]
    exact le_rfl
  · obtain ⟨row',hrow',hcase⟩ := hu.row hfirst (Table.first_some hfirst).1
    rcases hcase with ⟨hne,-⟩ | ⟨-,-,htouched,-⟩
    · exact absurd rfl hne
    · exact ⟨row',hrow',htouched.occurrences.ge,fun h => by cases h⟩

lemma Tallied.next {v : QueueView p α} (h : Tallied v desk)
    (hcounts : CountsRaise request desk) : Tallied v (request.next p desk) where
  positive k n' hn' := by
    cases hn : desk.notifications.find k with
    | none =>
      obtain ⟨args,hadded⟩ := request.notification_added p desk hn hn'
      rw [hadded.row.occurrences]
      exact le_rfl
    | some n =>
      obtain ⟨m,hm,hmoved⟩ := request.notification_moved p desk hn
      obtain rfl : m=n' := Option.some.inj (hm.symm.trans hn')
      exact (h.positive k n hn).trans (hmoved.counts hcounts).1
  counted n hn := by
    rw [(h.queuesOnce hcounts).notices_eq,List.mem_append] at hn
    rcases hn with hn | hn
    · exact h.counted.next p hcounts n hn
    · obtain ⟨x,hx,s,-,rfl⟩ := mem_noticesOf.mp hn
      obtain ⟨row,hrow,hle,hlevel⟩ := Request.raised_counted p hx
      exact ⟨row,hrow,hle,fun hkind hzero => absurd hzero (hlevel hkind)⟩
  distinct := (h.queuesOnce hcounts).distinct

lemma Tallied.start (v : QueueView p α) (h : v.table {}=.empty) : Tallied v {} where
  positive := Table.All.empty
  counted n hn := by rw [h] at hn; cases hn
  distinct := by rw [h]; exact .nil

end Steps

section Fitting
variable {desk : Desk} {request : Request}

lemma IncidentArgs.created_fingerprint (args : IncidentArgs) (now : ℤ) :
    (args.created now).fingerprint=args.fingerprint := by simp only [created]

/-- The upsert of an incident whose key is stored as it is: what raises a known notification
counts. -/
lemma syncUpsert_counts {id : ℕ} {incident : Incident} {action : IncidentAction}
    {args : NotificationArgs} (hfits : Fits incident.fingerprint)
    (h : storedArgs (syncUpsert id incident action desk)=some args) {k : ℕ} {n : Notification}
    (hfirst : desk.notifications.first (fun r => r.dedupeKey=args.dedupeKey)=some (k,n))
    (hraise : args.raiseAttention) : args.incrementOccurrence := by
  obtain ⟨hmap,-⟩ := Option.filter_eq_some_iff.mp h
  obtain ⟨raw,hraw,rfl⟩ := Option.map_eq_some_iff.mp hmap
  unfold syncUpsert at hraw
  dsimp only at hraw
  split_ifs at hraw with hloud hsome
  · obtain rfl := Option.some.inj hraw
    change desk.notifications.first (fun r => r.dedupeKey=
      clip (strip (incidentKey incident.fingerprint)) 240)=_ at hfirst
    rw [hfits] at hfirst
    change (!_ || _)=true
    rw [hfirst]
    rfl
  · obtain rfl := Option.some.inj hraw
    cases hraise

/-- The failures of jobs and the sightings of fingerprints that fit count what they raise. -/
theorem Request.counts_of_fits (hcall : ∀ args, request.call≠.upsertNotification args)
    (hfits : request.FingerprintFits) : CountsRaise request desk := by
  rintro ⟨args,k,n⟩ hmem hraise -
  obtain ⟨hupsert,hfirst⟩ := mem_upserts.mp hmem
  obtain ⟨host,call⟩ := request
  cases call with
  | upsertNotification args => exact absurd rfl (hcall args)
  | failJob id owner token error =>
    obtain ⟨hmap,-⟩ := Option.filter_eq_some_iff.mp hupsert
    obtain ⟨raw,hraw,rfl⟩ := Option.map_eq_some_iff.mp hmap
    simp only [jobUpsert] at hraw
    split at hraw
    · cases hraw
    · split_ifs at hraw
      obtain rfl := Option.some.inj hraw
      rfl
  | upsertIncident args =>
    change storedArgs (incidentUpsert host args desk)=_ at hupsert
    unfold incidentUpsert at hupsert
    dsimp only at hupsert
    split_ifs at hupsert with hne
    · cases hupsert
    have hfit : Fits args.normalized.fingerprint := fits_of_short hne hfits
    split at hupsert
    · refine syncUpsert_counts ?_ hupsert hfirst hraise
      rw [IncidentArgs.created_fingerprint]
      exact hfit
    · rename_i id row hrow
      have hprint : row.fingerprint=args.normalized.fingerprint :=
        of_decide_eq_true (Table.first_some hrow).2
      refine syncUpsert_counts ?_ hupsert hfirst hraise
      rw [Incident.upserted_fingerprint,hprint]
      exact hfit
  | _ => cases hupsert

end Fitting

/-- Every request of a history queues what it raises exactly once, when every upsert that
reopens or escalates a notification with attention counts an occurrence. -/
theorem queued_once (p : Platform) (requests : List Request)
    (h : Each (Request.next p) CountsRaise requests {}) :
    Each (Request.next p) (QueuesRaised p) requests {} := by
  refine h.imp (I:=fun desk => Tallied (pushView p) desk ∧ Tallied (externalView p) desk)
    ⟨.start _ rfl,.start _ rfl⟩ (fun q s hs hq => ⟨hs.1.next hq,hs.2.next hq⟩) fun q s hs hq => ?_
  exact ⟨hs.1.queuesOnce hq,hs.2.queuesOnce hq⟩

theorem queued_once_escalated : Each (Request.next asciiPlatform)
    (QueuesRaised asciiPlatform)
    [⟨{},.registerPush "parent" "https://push.example" "key" "auth"⟩,
      sighting "router:offline" 0,⟨{ now := 1800 },.evaluate none⟩,
      sighting "router:offline" 1860,⟨{ now := 1900 },.resolveInactive "router" [] "scan"⟩,
      sighting "router:offline" 2000] {} :=
  queued_once asciiPlatform _ (by decide +kernel)

section Collision
variable {p : Platform} {desk : Desk} {fingerprint key : String}

/-- A fingerprint whose key is cut to a key that it may share with others. -/
structure Crowds (fingerprint key : String) : Prop where
  ne : fingerprint≠""
  stored : clip (strip fingerprint) 240=fingerprint
  key_eq : clip (strip (incidentKey fingerprint)) 240=key
  long : 231 < fingerprint.length

/-- A host that mails. -/
def mailHost : Host where
  smtpEnabled := true
  smtpTo := "parent@example.org"

def graded (fingerprint severity : String) : IncidentArgs :=
  { routerSignal fingerprint with severity := severity }

def mailed (fingerprint severity : String) : Request :=
  ⟨mailHost,.upsertIncident (graded fingerprint severity)⟩

lemma mailed_next (p : Platform) (fingerprint severity : String) (desk : Desk) :
    (mailed fingerprint severity).next p desk=
      (upsertIncident p mailHost (graded fingerprint severity) desk).commit desk := rfl

lemma graded_fingerprint (fingerprint severity : String) :
    (graded fingerprint severity).normalized.fingerprint=clip (strip fingerprint) 240 := rfl

/-- An open incident of a fingerprint and a severity. -/
def Desk.Seen (fingerprint : String) (severity : Severity) (desk : Desk) : Prop :=
  ∃ k r, desk.incidents.find k=some r ∧ r.fingerprint=fingerprint ∧ r.status=.opened ∧
    r.severity=severity

lemma Desk.Seen.next {severity : Severity} (h : desk.Seen fingerprint severity) (p : Platform)
    {other : String} (text : String) (hother : clip (strip other) 240=other)
    (hsame : other=fingerprint → incidentSeverity text=severity) :
    ((mailed other text).next p desk).Seen fingerprint severity := by
  obtain ⟨k,r,hr,hprint,hopen,hseverity⟩ := h
  obtain ⟨r',hmoved,hrow⟩ := ((mailed other text).incident_change p desk).row hr
  have hkept : r'.fingerprint=fingerprint ∧ r'.status=.opened ∧ r'.severity=severity := by
    cases hmoved with
    | kept => exact ⟨hprint,hopen,hseverity⟩
    | sighted hfound =>
      have hfound : r.fingerprint=other := hfound.trans ((graded_fingerprint _ _).trans hother)
      refine ⟨(Incident.upserted_fingerprint _ _ r).trans hprint,?_,?_⟩
      · rw [Incident.upserted_status,if_neg (by simp [hopen]),hopen]
      · rw [Incident.upserted,if_neg (by simp [hopen])]
        simp only [Incident.sighted]
        exact hsame (hfound.symm.trans hprint)
  rcases hrow with hrow | ⟨-,-,hexpired⟩
  · exact ⟨k,r',hrow,hkept⟩
  · rw [Incident.expired,hkept.2.1] at hexpired
    cases hexpired

lemma Desk.Seen.created (p : Platform) (hcrowd : Crowds fingerprint key) (text : String)
    (hfirst : desk.incidents.first (fun r => r.fingerprint=fingerprint)=none) :
    ((mailed fingerprint text).next p desk).incidents=
      (desk.incidents.insert ((graded fingerprint text).normalized.created mailHost.now)).delete
        (fun _ r => r.expired mailHost.now desk.retentionDays) ∧
    ((mailed fingerprint text).next p desk).Seen fingerprint (incidentSeverity text) := by
  have hprint := (graded_fingerprint fingerprint text).trans hcrowd.stored
  have hcreated := upsertIncident_created p mailHost desk
    (by rw [hprint]; exact hcrowd.ne : (graded fingerprint text).normalized.fingerprint≠"")
    (by rw [hprint]; exact hfirst)
  rw [← mailed_next] at hcreated
  refine ⟨hcreated,desk.incidents.next,(graded fingerprint text).normalized.created mailHost.now,
    ?_,?_,?_,?_⟩
  · rw [hcreated,Table.find_delete,Table.find_insert,if_pos rfl]
    rfl
  · rw [IncidentArgs.created_fingerprint,hprint]
  · simp only [IncidentArgs.created]
  · simp only [IncidentArgs.created,IncidentArgs.normalized,graded]

/-- The upsert of a sighting whose notification is stored under a cut key: it is not found. -/
lemma Crowds.syncUpsert (h : Crowds fingerprint key) (hc : desk.Clipped) {r : Incident}
    (hprint : r.fingerprint=fingerprint) (hopen : r.status=.opened) (id : ℕ)
    (action : IncidentAction) :
    syncUpsert id r action desk=some (syncArgs id r true action.loud) := by
  have hnone : desk.notifications.first (fun n => n.dedupeKey=incidentKey r.fingerprint)=none := by
    cases hfirst : desk.notifications.first fun n => n.dedupeKey=incidentKey r.fingerprint with
    | none => rfl
    | some found =>
      obtain ⟨hn,hkey⟩ := Table.first_some hfirst
      have hlength : found.2.dedupeKey.length ≤ 240 := hc _ _ hn
      have hlong := h.long
      rw [of_decide_eq_true hkey,incidentKey_length,hprint] at hlength
      omega
  unfold Attention.syncUpsert
  dsimp only
  rw [hnone]
  simp [hopen]

/-- What is stored of such a sighting: it raises attention, and counts only if it is loud. -/
structure StoredAs (stored : NotificationArgs) (key : String) (severity : Severity)
    (increment : Bool) : Prop where
  key_eq : stored.dedupeKey=key
  raise : stored.raiseAttention
  severity_eq : incidentSeverity stored.severity=severity
  increment_eq : stored.incrementOccurrence=increment

lemma Crowds.storedArgs (h : Crowds fingerprint key) (hc : desk.Clipped) {r : Incident}
    (hprint : r.fingerprint=fingerprint) (hopen : r.status=.opened) (id : ℕ)
    (action : IncidentAction) :
    ∃ stored, storedArgs (Attention.syncUpsert id r action desk)=some stored ∧
      StoredAs stored key r.severity action.loud := by
  rw [h.syncUpsert hc hprint hopen,storedArgs_some (syncArgs_stored id r true _)]
  refine ⟨_,rfl,?_,rfl,incidentSeverity_text r.severity,rfl⟩
  rw [← h.key_eq,← hprint]
  rfl

lemma Crowds.upsert_new (h : Crowds fingerprint key) (text : String) (hc : desk.Clipped)
    (hfirst : desk.incidents.first (fun r => r.fingerprint=fingerprint)=none) :
    ∃ stored, (mailed fingerprint text).upsert desk=some stored ∧
      StoredAs stored key (incidentSeverity text) true := by
  have hprint := (graded_fingerprint fingerprint text).trans h.stored
  have hopen : ((graded fingerprint text).normalized.created mailHost.now).status=.opened := by
    simp only [IncidentArgs.created]
  have hseverity : ((graded fingerprint text).normalized.created mailHost.now).severity=
      incidentSeverity text := by
    simp only [IncidentArgs.created,IncidentArgs.normalized,graded]
  obtain ⟨stored,hstored,has⟩ := h.storedArgs hc
    ((IncidentArgs.created_fingerprint _ _).trans hprint) hopen desk.incidents.next .opened
  rw [hseverity] at has
  refine ⟨stored,?_,has⟩
  change Attention.storedArgs (incidentUpsert mailHost (graded fingerprint text) desk)=_
  unfold incidentUpsert
  dsimp only
  rw [if_neg (by rw [hprint]; exact h.ne),hprint,hfirst]
  exact hstored

lemma Crowds.upsert_known (h : Crowds fingerprint key) (hc : desk.Clipped) {text : String}
    (hunique : desk.incidents.Unique Incident.fingerprint)
    (hseen : desk.Seen fingerprint (incidentSeverity text)) :
    ∃ stored, (mailed fingerprint text).upsert desk=some stored ∧
      StoredAs stored key (incidentSeverity text) false := by
  obtain ⟨k,r,hr,hrprint,hopen,hseverity⟩ := hseen
  have hprint := (graded_fingerprint fingerprint text).trans h.stored
  have hfirst : desk.incidents.first (fun r => r.fingerprint=fingerprint)=some (k,r) := by
    rw [← hrprint]
    exact hunique.first_eq hr
  have hsighted : r.upserted (graded fingerprint text).normalized mailHost.now=
      r.sighted (graded fingerprint text).normalized mailHost.now := by
    rw [Incident.upserted,if_neg (by simp [hopen])]
  have hquiet : (r.action (graded fingerprint text).normalized).loud=false := by
    have hsame : r.severity=incidentSeverity (graded fingerprint text).normalized.severity :=
      hseverity
    unfold Incident.action
    rw [if_neg (by simp [hopen]),if_neg (by simp [hsame])]
    split_ifs <;> rfl
  obtain ⟨stored,hstored,has⟩ := h.storedArgs hc
    (r:=r.upserted (graded fingerprint text).normalized mailHost.now)
    ((Incident.upserted_fingerprint _ _ r).trans hrprint)
    (by rw [Incident.upserted_status,if_neg (by simp [hopen]),hopen]) k
    (r.action (graded fingerprint text).normalized)
  rw [hquiet] at has
  have hseverity' : (r.upserted (graded fingerprint text).normalized mailHost.now).severity=
      incidentSeverity text := by
    rw [hsighted]
    simp only [Incident.sighted,IncidentArgs.normalized,graded]
  rw [hseverity'] at has
  refine ⟨stored,?_,has⟩
  change Attention.storedArgs (incidentUpsert mailHost (graded fingerprint text) desk)=_
  unfold incidentUpsert
  dsimp only
  rw [if_neg (by rw [hprint]; exact h.ne),hprint,hfirst]
  exact hstored

/-- One open notification, stored under the cut key, with its queue. -/
structure Desk.Crowded (p : Platform) (key : String) (severity : Severity) (occurrence : ℕ)
    (desk : Desk) : Prop where
  clipped : desk.Clipped
  keys : desk.notifications.Unique Notification.dedupeKey
  tallied : Tallied (externalView p) desk
  row : ∃ n, desk.notifications.find 1=some n ∧ n.dedupeKey=key ∧ n.sourceSeverity=severity ∧
    n.occurrences=occurrence ∧ n.resolvedAt=none

/-- A sighting raises the notification if it comes with more than its severity. -/
lemma Desk.Crowded.next {severity severity' : Severity} {occurrence : ℕ} {increment : Bool}
    (h : desk.Crowded p key severity occurrence) {other text : String} {stored : NotificationArgs}
    (hupsert : (mailed other text).upsert desk=some stored)
    (has : StoredAs stored key severity' increment) :
    (severity.rank < severity'.rank → (1,if increment then occurrence+1 else occurrence,
      .notification) ∈ (mailed other text).raised desk) ∧
    ((severity.rank < severity'.rank → increment=true) →
      ((mailed other text).next p desk).Crowded p key severity'
        (if increment then occurrence+1 else occurrence)) := by
  obtain ⟨n,hn,hkey,hseverity,hcount,hopen⟩ := h.row
  have hfirst : desk.notifications.first (fun r => r.dedupeKey=stored.dedupeKey)=some (1,n) := by
    rw [has.key_eq,← hkey]
    exact h.keys.first_eq hn
  have hoccurrences (now : ℤ) : (n.upserted stored desk.preferences now).occurrences=
      if increment then occurrence+1 else occurrence := by
    rw [Notification.upserted_occurrences,has.increment_eq,hcount]
  have haction : n.upsertAction stored≠.updated ↔ severity.rank < severity'.rank := by
    unfold Notification.upsertAction Notification.sourceEscalates
    rw [Notification.reopens_of_open hopen,hseverity,has.severity_eq]
    by_cases hrank : severity.rank < severity'.rank
    · simp [hrank]
    · simp [hrank]
  constructor
  · intro hrank
    rw [Request.raised_of_upsert (fun now => by unfold mailed; exact fun he => by cases he),hupsert]
    refine mem_upsertRaised.mpr ⟨has.raise,.inr ⟨1,n,hfirst,haction.mpr hrank,?_⟩⟩
    rw [hoccurrences]
  · intro hcounts
    have hupserted := Request.upserted p _ desk hupsert
    have hcountsRaise : CountsRaise (mailed other text) desk := by
      rintro ⟨args,k,m⟩ hmem - hchanged
      obtain ⟨hargs,hfound⟩ := Request.mem_upserts.mp hmem
      obtain rfl : stored=args := Option.some.inj (hupsert.symm.trans hargs)
      obtain rfl : n=m := congrArg Prod.snd (Option.some.inj (hfirst.symm.trans hfound))
      exact has.increment_eq.trans (hcounts (haction.mp hchanged))
    refine ⟨Request.clipped rfl h.clipped,hupserted.unique h.keys,h.tallied.next hcountsRaise,?_⟩
    obtain ⟨n',hn',hcase⟩ := hupserted.row hfirst hn
    rcases hcase with ⟨hne,-⟩ | ⟨-,-,htouched,hresolved⟩
    · exact absurd rfl hne
    refine ⟨n',hn',?_,?_,?_,?_⟩
    · rw [htouched.dedupeKey,Notification.upserted_dedupeKey,hkey]
    · rw [htouched.sourceSeverity,Notification.upserted_sourceSeverity,has.severity_eq]
    · rw [htouched.occurrences,hoccurrences]
    · rw [hresolved,Notification.upserted_resolvedAt,if_pos has.raise]

/-- The first sighting creates the notification under the cut key. -/
lemma Desk.Crowded.start {severity : Severity} {text : String} {stored : NotificationArgs}
    (hupsert : (mailed fingerprint text).upsert {}=some stored)
    (has : StoredAs stored key severity true) :
    ((mailed fingerprint text).next p {}).Crowded p key severity 1 := by
  have hupserted := Request.upserted p _ {} hupsert
  have hcounts : CountsRaise (mailed fingerprint text) {} := by
    rintro ⟨args,k,m⟩ hmem - -
    obtain ⟨-,hfound⟩ := Request.mem_upserts.mp hmem
    cases hfound
  refine ⟨Request.clipped rfl Table.All.empty,hupserted.unique Table.Unique.empty,
    (Tallied.start (externalView p) rfl).next hcounts,?_⟩
  obtain ⟨n,htouched,hopen,hfind⟩ := hupserted.find_none rfl
  refine ⟨n,(hfind 1).trans (if_pos rfl),?_,?_,?_,hopen⟩
  · rw [htouched.dedupeKey,NotificationArgs.created_dedupeKey,has.key_eq]
  · rw [htouched.sourceSeverity,NotificationArgs.created_sourceSeverity,has.severity_eq]
  · rw [htouched.occurrences]
    rfl

/-- The mail address of a mailing host. -/
lemma mem_mailRecipients (p : Platform) (desk : Desk) :
    (.email,p.destinationKey .email "env:ZEN_SMTP_TO") ∈ desk.externalRecipients p mailHost := by
  unfold Desk.externalRecipients Desk.externalTargets
  rw [if_pos ⟨rfl,by decide⟩]
  exact List.mem_map.mpr ⟨_,List.mem_append_left _ (List.mem_singleton.mpr rfl),rfl⟩

/-- Two fingerprints of one cut key: the last sighting raises the notification without counting,
and meets the row of the second one. -/
lemma crowded_collide {a b : String} (ha : Crowds a key) (hb : Crowds b key) (hne : a≠b)
    (p : Platform) : ¬Each (Request.next p) (QueuesRaised p)
      [mailed a "info",mailed b "warning",mailed a "info",mailed b "warning"] {} := by
  rintro ⟨-,hsecond,hthird,hfourth,-⟩
  have hinfo : incidentSeverity "info"=.info := incidentSeverity_text .info
  have hwarning : incidentSeverity "warning"=.warning := incidentSeverity_text .warning
  have hunique (q : Request) (desk : Desk) (h : desk.incidents.Unique Incident.fingerprint) :
      (q.next p desk).incidents.Unique Incident.fingerprint := (q.incident_change p desk).unique h
  -- the first sighting of each fingerprint
  have hempty : Desk.Clipped {} := Table.All.empty
  have hnone : ({} : Desk).incidents.first (fun r => r.fingerprint=a)=none := rfl
  obtain ⟨stored,hupsert,has⟩ := ha.upsert_new "info" hempty hnone
  rw [hinfo] at has
  have hone := Desk.Crowded.start (p:=p) hupsert has
  obtain ⟨hincidents,haseen⟩ := Desk.Seen.created p ha "info" hnone
  have hu := hunique (mailed a "info") {} Table.Unique.empty
  have hbnew : ((mailed a "info").next p {}).incidents.first
      (fun r => r.fingerprint=b)=none := by
    cases hfirst : ((mailed a "info").next p {}).incidents.first fun r => r.fingerprint=b with
    | none => rfl
    | some found =>
      obtain ⟨hfind,hprint⟩ := Table.first_some hfirst
      rw [hincidents,Table.find_delete,Option.filter_eq_some_iff] at hfind
      rcases Table.find_insert_cases hfind.1 with hfind | ⟨-,hcreated⟩
      · cases hfind
      · rw [hcreated,IncidentArgs.created_fingerprint,graded_fingerprint,ha.stored] at hprint
        exact absurd (of_decide_eq_true hprint) hne
  generalize (mailed a "info").next p {}=one at hone haseen hu hbnew hsecond hthird hfourth
  obtain ⟨stored',hupsert',has'⟩ := hb.upsert_new "warning" hone.clipped hbnew
  rw [hwarning] at has'
  obtain ⟨hraised,htwo⟩ := hone.next hupsert' has'
  have hraised := hraised (by decide)
  have htwo := htwo fun _ => rfl
  have hbseen := (Desk.Seen.created p hb "warning" hbnew).2
  have haseen := haseen.next p "warning" hb.stored fun h => absurd h.symm hne
  have hu := hunique (mailed b "warning") one hu
  have hqueued : (1,(.email,p.destinationKey .email "env:ZEN_SMTP_TO"),2,.notification) ∈
      notices ((mailed b "warning").next p one).externalDeliveries := by
    rw [hsecond.external.notices_eq]
    exact List.mem_append_right _
      (mem_noticesOf.mpr ⟨_,hraised,_,mem_mailRecipients p one,rfl⟩)
  generalize (mailed b "warning").next p one=two at htwo hbseen haseen hu hqueued hthird hfourth
  -- the second sighting of each fingerprint
  obtain ⟨stored₃,hupsert₃,has₃⟩ := ha.upsert_known htwo.clipped hu haseen
  rw [hinfo] at has₃
  have hthree := (htwo.next hupsert₃ has₃).2 fun h => absurd h (by decide)
  have hbseen := hbseen.next p "info" ha.stored fun h => absurd h hne
  have hu := hunique (mailed a "info") two hu
  have hqueued : (1,(.email,p.destinationKey .email "env:ZEN_SMTP_TO"),2,.notification) ∈
      notices ((mailed a "info").next p two).externalDeliveries := by
    rw [hthird.external.notices_eq]
    exact List.mem_append_left _ hqueued
  generalize (mailed a "info").next p two=three at hthree hbseen hu hqueued hfourth
  obtain ⟨stored₄,hupsert₄,has₄⟩ := hb.upsert_known hthree.clipped hu hbseen
  rw [hwarning] at has₄
  have hraised := (hthree.next hupsert₄ has₄).1 (by decide)
  have hdistinct := hfourth.external.distinct
  rw [hfourth.external.notices_eq] at hdistinct
  exact List.disjoint_of_nodup_append hdistinct hqueued
    (mem_noticesOf.mpr ⟨_,hraised,_,mem_mailRecipients p three,rfl⟩)

/-- A fingerprint of 232 characters. -/
def crowdedPrint (c : Char) : String := String.ofList (List.replicate 231 'x' ++ [c])

lemma crowdedPrint_crowds {c : Char} (hc : isSpace c=false) :
    Crowds (crowdedPrint c)
      (String.ofList ("incident:".toList ++ List.replicate 231 'x')) := by
  have hlist : (crowdedPrint c).toList=List.replicate 231 'x' ++ [c] := String.toList_ofList
  have hlength : (crowdedPrint c).length=232 := by
    rw [← String.length_toList,hlist,List.length_append,List.length_replicate]
    rfl
  have hkey : (incidentKey (crowdedPrint c)).toList=
      ("incident:".toList ++ List.replicate 231 'x') ++ [c] := by
    rw [incidentKey,String.toList_append,hlist,List.append_assoc]
  have hprefix : ("incident:".toList ++ List.replicate 231 'x').length=240 := by
    rw [List.length_append,List.length_replicate]
    decide
  refine ⟨fun hempty => ?_,?_,?_,by omega⟩
  · rw [hempty] at hlength
    exact absurd hlength (by decide)
  · rw [strip_eq_self,clip_of_length_le (by omega)]
    · intro d hd
      rw [hlist,List.head?_append_of_ne_nil _ (by simp),List.head?_replicate] at hd
      obtain rfl := Option.some.inj hd
      decide
    · intro d hd
      rw [hlist,List.getLast?_append] at hd
      obtain rfl : c=d := Option.some.inj hd
      exact hc
  · rw [strip_eq_self,clip,hkey, List.take_left' hprefix]
    · intro d hd
      rw [hkey,List.append_assoc,List.head?_append_of_ne_nil _ (by decide)] at hd
      obtain rfl := Option.some.inj hd
      decide
    · intro d hd
      rw [hkey,List.getLast?_append] at hd
      obtain rfl : c=d := Option.some.inj hd
      exact hc

/-- Two fingerprints of 232 characters that differ in the last one. -/
theorem crowded_raise_not_queued : ¬Each (Request.next asciiPlatform)
    (QueuesRaised asciiPlatform)
    [mailed (crowdedPrint 'a') "info",mailed (crowdedPrint 'b') "warning",
      mailed (crowdedPrint 'a') "info",mailed (crowdedPrint 'b') "warning"] {} := by
  refine crowded_collide (crowdedPrint_crowds (by decide)) (crowdedPrint_crowds (by decide))
    (fun hsame => ?_) asciiPlatform
  have hlist := congrArg String.toList hsame
  rw [crowdedPrint,crowdedPrint,String.toList_ofList,String.toList_ofList] at hlist
  exact absurd (List.append_cancel_left hlist) (by decide)

end Collision
end ZenControl.Attention
