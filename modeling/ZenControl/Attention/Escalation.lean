import ZenControl.Attention.NotificationRows

/-! The escalation of a notification. While an escalated notification stays open its severity
may only rise; the one exception is a source that first fell and now rises again to less than
the severity it was escalated to. -/
namespace ZenControl.Attention
open Rows Histories

/-- The arguments with which a request upserts a notification that is there, and its row. -/
def Request.upserts (request : Request) (desk : Desk) :
    Option (NotificationArgs × ℕ × Notification) :=
  (request.upsert desk).bind fun args =>
    (desk.notifications.first fun r => r.dedupeKey=args.dedupeKey).map fun r => (args,r)

/-- An open escalated notification whose source rises to less than its severity. -/
def Notification.Lowers (args : NotificationArgs) (n : Notification) : Prop :=
  n.resolvedAt=none ∧ 0 < n.escalationLevel ∧ n.attentionEscalates args ∧
    (incidentSeverity args.severity).rank < n.severity.rank

instance (args : NotificationArgs) (n : Notification) : Decidable (n.Lowers args) :=
  inferInstanceAs (Decidable (_ ∧ _ ∧ _ ∧ _))

/-- No upsert lowers an escalated notification. -/
def KeepsEscalation (request : Request) (desk : Desk) : Prop :=
  ∀ upsert ∈ request.upserts desk, ¬upsert.2.2.Lowers upsert.1

instance (request : Request) (desk : Desk) : Decidable (KeepsEscalation request desk) :=
  inferInstanceAs (Decidable (∀ upsert ∈ request.upserts desk, ¬upsert.2.2.Lowers upsert.1))

/-- A notification of a number is open, if it is there. -/
def Desk.Open (k : ℕ) (desk : Desk) : Prop :=
  ∀ n, desk.notifications.find k=some n → n.resolvedAt=none

/-- While an escalated notification stays open, its severity never falls. -/
def NeverLowered (p : Platform) (requests : List Request) : Prop :=
  ∀ before later rest k n n', requests=before ++ later ++ rest →
    (after (Request.next p) before {}).notifications.find k=some n → 0 < n.escalationLevel →
    Throughout (Request.next p) (Desk.Open k) later (after (Request.next p) before {}) →
    (after (Request.next p) (before ++ later) {}).notifications.find k=some n' →
    n.severity.rank ≤ n'.severity.rank

section Steps
variable {p : Platform} {request : Request} {desk : Desk}

lemma Desk.Open.of_find {k : ℕ} {n : Notification} (hn : desk.notifications.find k=some n)
    (hopen : n.resolvedAt=none) : desk.Open k := by
  intro m hm
  obtain rfl := Option.some.inj (hm.symm.trans hn)
  exact hopen

lemma Request.mem_upserts {args : NotificationArgs} {k : ℕ} {n : Notification} :
    (args,k,n) ∈ request.upserts desk ↔ request.upsert desk=some args ∧
      desk.notifications.first (fun r => r.dedupeKey=args.dedupeKey)=some (k,n) := by
  simp only [upserts,Option.mem_def,Option.bind_eq_some_iff,Option.map_eq_some_iff,
    Prod.mk.injEq]
  constructor
  · rintro ⟨args',hupsert,found,hfirst,rfl,rfl⟩
    exact ⟨hupsert,hfirst⟩
  · rintro ⟨hupsert,hfirst⟩
    exact ⟨args,hupsert,_,hfirst,rfl,rfl⟩

lemma Notification.reopens_of_open {args : NotificationArgs} {n : Notification}
    (h : n.resolvedAt=none) : n.reopens args=false := by
  simp [reopens,h]

/-- The severity of an open escalated notification after an upsert. -/
lemma Notification.le_nextSeverity {args : NotificationArgs} {n : Notification}
    (hopen : n.resolvedAt=none) (hlevel : 0 < n.escalationLevel) (hkeep : ¬n.Lowers args) :
    n.severity.rank ≤ (n.nextSeverity args).rank := by
  unfold nextSeverity
  dsimp only
  by_cases hescalates : n.attentionEscalates args
  · rw [if_pos hescalates]
    exact Nat.le_of_not_lt fun hlt => hkeep ⟨hopen,hlevel,hescalates,hlt⟩
  · rw [if_neg hescalates,if_neg (by simp [reopens_of_open hopen]),if_pos hlevel]
    split_ifs with hrank
    · exact hrank.le
    · exact le_rfl

/-- One request does not lower an escalated notification that stays open. -/
lemma NotificationMoved.escalated {k : ℕ} {n n' : Notification}
    (h : NotificationMoved request desk k n n') (hkeep : KeepsEscalation request desk)
    (hopen : n.resolvedAt=none) (hlevel : 0 < n.escalationLevel) :
    0 < n'.escalationLevel ∧ n.severity.rank ≤ n'.severity.rank := by
  cases h with
  | touched h =>
    rw [h.escalationLevel,h.severity]
    exact ⟨hlevel,le_rfl⟩
  | upserted hupsert hfirst h hresolved =>
    rw [h.escalationLevel,h.severity]
    refine ⟨?_,?_⟩
    · simp only [Notification.upserted,Notification.reopens_of_open hopen]
      exact hlevel
    · exact Notification.le_nextSeverity hopen hlevel
        (hkeep _ (Request.mem_upserts.mpr ⟨hupsert,hfirst⟩))
  | evaluated hcall hcandidate h =>
    have hzero := hcandidate.2
    simp only [Notification.candidate,Bool.and_eq_true,decide_eq_true_eq] at hzero
    omega

/-- The row of an upsert that lowers is lowered, and is open before and after. -/
lemma Request.lowers {args : NotificationArgs} {k : ℕ} {n : Notification}
    (hupsert : request.upsert desk=some args)
    (hfirst : desk.notifications.first (fun r => r.dedupeKey=args.dedupeKey)=some (k,n))
    (h : n.Lowers args) : ∃ n', (request.next p desk).notifications.find k=some n' ∧
      n'.resolvedAt=none ∧ n'.severity.rank < n.severity.rank := by
  obtain ⟨hopen,-,hescalates,hrank⟩ := h
  obtain ⟨n',hn',hrow⟩ := (request.upserted p desk hupsert).row hfirst (Table.first_some hfirst).1
  rcases hrow with ⟨hne,-⟩ | ⟨-,-,htouched,hresolved⟩
  · exact absurd rfl hne
  refine ⟨n',hn',?_,?_⟩
  · rw [hresolved,Notification.upserted_resolvedAt,hopen,ite_self]
  · rw [htouched.severity]
    simp only [Notification.upserted,Notification.nextSeverity,if_pos hescalates]
    exact hrank

end Steps

/-- An escalated notification is never lowered while it stays open, exactly when no upsert
raises its source to less than its severity. -/
theorem never_lowered_iff (p : Platform) (requests : List Request) :
    NeverLowered p requests ↔ Each (Request.next p) KeepsEscalation requests {} := by
  constructor
  · intro h
    rw [each_iff]
    rintro before request rest rfl ⟨args,k,n⟩ hmem hlowers
    obtain ⟨hupsert,hfirst⟩ := Request.mem_upserts.mp hmem
    obtain ⟨n',hn',hopen',hlt⟩ := Request.lowers (p:=p) hupsert hfirst hlowers
    have hn := (Table.first_some hfirst).1
    have hopen : Throughout (Request.next p) (Desk.Open k) [request]
        (after (Request.next p) before {}) :=
      .cons (.of_find hn hlowers.1) (.nil (.of_find hn' hopen'))
    refine absurd (h before [request] rest k n n' (by simp) hn hlowers.2.1 hopen ?_)
      (Nat.not_le_of_lt hlt)
    rw [after_append]
    exact hn'
  · rintro h before later rest k n n' rfl hn hlevel hopen hn'
    have hkeep := (Each.append.mp (Each.append.mp h).1).2
    rw [after_append] at hn'
    have hstart := hopen [] later rfl n hn
    obtain ⟨m,hm,-,-,hle⟩ := (hkeep.and hopen.each).invariant
      (I:=fun desk : Desk => ∃ m, desk.notifications.find k=some m ∧ m.resolvedAt=none ∧
        0 < m.escalationLevel ∧ n.severity.rank ≤ m.severity.rank)
      ⟨n,hn,hstart,hlevel,le_rfl⟩ (by
        rintro request desk ⟨m,hm,hmopen,hmlevel,hle⟩ ⟨hk,hnext⟩
        obtain ⟨m',hm',hmoved⟩ := request.notification_moved p desk hm
        obtain ⟨hlevel',hle'⟩ := hmoved.escalated hk hmopen hmlevel
        exact ⟨m',hm',hnext m' hm',hlevel',hle.trans hle'⟩)
    obtain rfl := Option.some.inj (hm.symm.trans hn')
    exact hle

/-- An alert of the router's processor. -/
def cpuAlert (severity : String) : NotificationArgs where
  dedupeKey := "router:cpu"
  source := "router"
  eventType := "cpu"
  severity := severity
  title := "High CPU"

def alert (severity : String) (now : ℤ) : Request :=
  ⟨{ now := now },.upsertNotification (cpuAlert severity)⟩

/-- A warning is escalated for its age, and a source that falls to info and comes back to
warning takes the escalation back. -/
theorem escalation_lowered : ¬NeverLowered asciiPlatform
    [alert "warning" 0,⟨{ now := 1800 },.evaluate none⟩,alert "info" 1860,
      alert "warning" 1920] := by
  intro h
  have hopen : ∀ desk : Desk,
      ((desk.notifications.find 1).map Notification.resolvedAt)=some none → desk.Open 1 := by
    intro desk hmap
    obtain ⟨n,hn,hresolved⟩ := Option.map_eq_some_iff.mp hmap
    exact .of_find hn hresolved
  let before := [alert "warning" 0,⟨{ now := 1800 },.evaluate none⟩]
  let later := [alert "info" 1860,alert "warning" 1920]
  obtain ⟨n,hn,hlevel⟩ := Option.map_eq_some_iff.mp
    (show ((after (Request.next asciiPlatform) before {}).notifications.find 1).map
      (fun n => (n.escalationLevel,n.severity))=some (1,.critical) by decide)
  obtain ⟨n',hn',hseverity⟩ := Option.map_eq_some_iff.mp
    (show ((after (Request.next asciiPlatform) (before ++ later) {}).notifications.find 1).map
      Notification.severity=some .warning by decide)
  have hle := h before later [] 1 n n' rfl hn
    (by rw [(Prod.mk.inj hlevel).1]; decide)
    (.cons (hopen _ (by decide)) (.cons (hopen _ (by decide))
      (.nil (hopen _ (by decide))))) hn'
  rw [hseverity,(Prod.mk.inj hlevel).2] at hle
  exact absurd hle (by decide)

end ZenControl.Attention
