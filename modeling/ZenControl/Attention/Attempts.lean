import ZenControl.Attention.Requeueing

/-! Attempts on a delivery. The attempts of a row count how often it was handed out, and a
failure gives a row back only while attempts are left. The recovery does not ask for that: a
row whose last attempt was interrupted is handed out once more each time. -/
namespace ZenControl.Attention
open Rows Histories

section Queue
variable {α : Type} [Queueable α] {now : ℤ} {work : Work α} {t t' : Table α}
open Queueable

/-- The attempts on a row, none on one that is not there. -/
def attemptsOn (t : Table α) (id : ℕ) : ℕ := (t.find id).elim 0 attempts

/-- A row with attempts in its limit, and one left if it waits. -/
structure Bounded (r : α) : Prop where
  limit_pos : 1 ≤ limit r
  attempts_le : attempts r ≤ limit r
  attempts_lt : status r=.pending → attempts r < limit r

/-- Every interrupted row that is recovered has an attempt left. -/
def Work.RecoversInTime (now : ℤ) : Work α → Table α → Prop
  | .recover,t => ∀ row ∈ t.select fun _ r => stale now r, attempts row.2 < limit row.2
  | _,_ => True

instance (now : ℤ) (work : Work α) (t : Table α) : Decidable (work.RecoversInTime now t) :=
  match work with
  | .recover => inferInstanceAs
    (Decidable (∀ row ∈ t.select fun _ r => stale now r, attempts row.2 < limit row.2))
  | .claim _ | .complete _ | .fail _ _ | .other => .isTrue trivial

lemma Untried.bounded {r : α} (h : Untried r) : Bounded r where
  limit_pos := h.2
  attempts_le := by rw [h.1]; exact Nat.zero_le _
  attempts_lt _ := by rw [h.1]; exact h.2

lemma Moved.bounded {k : ℕ} {r r' : α} (h : Moved now k r work r') (hb : Bounded r)
    (hr : t.find k=some r) (ok : work.RecoversInTime now t) : Bounded r' := by
  cases h with
  | dropped hd =>
    rcases hd with rfl | ⟨-,hs,ha,hl⟩
    · exact hb
    · exact ⟨hl ▸ hb.limit_pos,by rw [ha,hl]; exact hb.attempts_le,
        fun hp => by rw [hs] at hp; cases hp⟩
  | recovered hstale =>
    have hlt : attempts r < limit r := ok (k,r) (Table.mem_select.mpr ⟨hr,hstale⟩)
    exact ⟨by simpa using hb.limit_pos,by simpa using hb.attempts_le,fun _ => by simpa using hlt⟩
  | claimed hp =>
    have hlt := hb.attempts_lt hp
    exact ⟨by simpa using hb.limit_pos,by simpa using Nat.succ_le_of_lt hlt,
      fun hs => by simp at hs⟩
  | completed =>
    exact ⟨by simpa using hb.limit_pos,by simpa using hb.attempts_le,fun hs => by simp at hs⟩
  | failed =>
    refine ⟨by simpa using hb.limit_pos,by simpa using hb.attempts_le,fun hs => ?_⟩
    rw [status_fail] at hs
    split_ifs at hs with ht
    simpa using lt_limit hb.limit_pos (by simpa using ht)

/-- The step of the bound. -/
lemma Work.Moves.bounded (h : work.Moves now t t') (ok : work.RecoversInTime now t)
    (hb : ∀ id r, t.find id=some r → Bounded r) :
    ∀ id r', t'.find id=some r' → Bounded r' := by
  intro id r' hr'
  cases hr : t.find id with
  | none => exact (h.fresh hr hr').bounded
  | some r =>
    obtain ⟨row,hrow,hmoved⟩ := h.row hr
    obtain rfl : row=r' := Option.some.inj (hrow.symm.trans hr')
    exact hmoved.bounded (hb id r hr) hr ok

lemma Work.claims_claim (now : ℤ) (rows : List (ℕ × α)) (t : Table α) (id : ℕ) :
    (Work.claim rows).claims now t id=
      if (t.find id).any (fun r => status r=.pending) ∧ id ∈ rows.map Prod.fst then 1 else 0 :=
  claimEach_count Work.claimed_not_pending rows t id

/-- The step of the count: attempts go up when a row is handed out and at no other time. -/
lemma Work.Moves.attempts_eq (h : work.Moves now t t') (id : ℕ) :
    attemptsOn t' id=attemptsOn t id+work.claims now t id := by
  cases hr : t.find id with
  | none =>
    have hclaims : work.claims now t id=0 := by
      cases work with
      | claim rows => simp [Work.claims_claim,hr]
      | _ => rfl
    have hzero : attemptsOn t' id=0 := by
      unfold attemptsOn
      cases hr' : t'.find id with
      | none => rfl
      | some r' => exact (h.fresh hr hr').1
    rw [hzero,hclaims,attemptsOn,hr]; rfl
  | some r =>
    obtain ⟨r',hr',hmoved⟩ := h.row hr
    simp only [attemptsOn,hr,hr',Option.elim_some]
    cases work with
    | claim rows =>
      rw [h,claimEach_find Work.claimed_not_pending,hr] at hr'
      simp only [Option.map_some,Option.some.injEq] at hr'
      subst hr'
      simp only [Work.claims_claim,hr,Option.any_some]
      split_ifs
      · exact attempts_claim now r
      · rfl
    | recover | complete | fail | other =>
      simp only [Work.claims,Nat.add_zero]
      cases hmoved with
      | dropped hd =>
        rcases hd with rfl | ⟨-,-,ha,-⟩
        · rfl
        · exact ha
      | _ => simp

end Queue

/-- How often a reply hands out a row. -/
def handedOut {α : Type} (id : ℕ) (call : Call (List (ℕ × α))) : ℕ :=
  match call with
  | .ok (rows,_) => (rows.map Prod.fst).count id
  | .error _ => 0

/-- How often a request claims a push delivery. -/
def Request.pushClaims (id : ℕ) (request : Request) (desk : Desk) : ℕ :=
  match request.call with
  | .claimPush limit => handedOut id (claimNotificationPushDeliveries request.host limit desk)
  | _ => 0

/-- How often a request claims an external delivery. -/
def Request.externalClaims (id : ℕ) (request : Request) (desk : Desk) : ℕ :=
  match request.call with
  | .claimExternal limit =>
    handedOut id (claimNotificationExternalDeliveries request.host limit desk)
  | _ => 0

/-- No delivery is claimed more often than its limit. -/
def ClaimsBounded (p : Platform) (requests : List Request) : Prop :=
  (∀ id r, (deskAfter p requests).pushDeliveries.find id=some r →
    total (Request.next p) (Request.pushClaims id) requests {} ≤ r.maxAttempts) ∧
  ∀ id r, (deskAfter p requests).externalDeliveries.find id=some r →
    total (Request.next p) (Request.externalClaims id) requests {} ≤ r.maxAttempts

/-- Every interrupted delivery that is recovered has an attempt left. -/
def Request.RecoversInTime (request : Request) (desk : Desk) : Prop :=
  (request.call.pushWork request.host desk).RecoversInTime request.host.now
      desk.pushDeliveries ∧
    (request.call.externalWork request.host desk).RecoversInTime request.host.now
      desk.externalDeliveries

instance (request : Request) (desk : Desk) : Decidable (request.RecoversInTime desk) :=
  inferInstanceAs (Decidable (_ ∧ _))

section Claims
variable {p : Platform} {requests : List Request}

lemma Request.pushClaims_eq (id : ℕ) (request : Request) (desk : Desk) :
    request.pushClaims id desk=(request.call.pushWork request.host desk).claims
      request.host.now desk.pushDeliveries id := by
  obtain ⟨host,call⟩ := request
  cases call <;> rfl

lemma Request.externalClaims_eq (id : ℕ) (request : Request) (desk : Desk) :
    request.externalClaims id desk=(request.call.externalWork request.host desk).claims
      request.host.now desk.externalDeliveries id := by
  obtain ⟨host,call⟩ := request
  cases call <;> rfl

/-- The attempts of a push delivery are the claims of it. -/
theorem pushClaims_total (requests : List Request) (id : ℕ) :
    attemptsOn (deskAfter p requests).pushDeliveries id=
      total (Request.next p) (Request.pushClaims id) requests {} := by
  have heach : Each (Request.next p) (fun _ _ => True) requests {} := each_true requests _
  have h := heach.total_eq (I:=fun _ => True)
    (m:=fun desk => attemptsOn desk.pushDeliveries id) (c:=Request.pushClaims id) trivial (fun _ _ _ _ => trivial) fun request desk _ _ => by
      rw [Request.pushClaims_eq]
      exact (request.push_moves p desk).attempts_eq id
  exact h.trans (Nat.zero_add _)

/-- The attempts of an external delivery are the claims of it. -/
theorem externalClaims_total (requests : List Request) (id : ℕ) :
    attemptsOn (deskAfter p requests).externalDeliveries id=
      total (Request.next p) (Request.externalClaims id) requests {} := by
  have heach : Each (Request.next p) (fun _ _ => True) requests {} := each_true requests _
  have h := heach.total_eq (I:=fun _ => True)
    (m:=fun desk => attemptsOn desk.externalDeliveries id) (c:=Request.externalClaims id)
    trivial (fun _ _ _ _ => trivial) fun request desk _ _ => by
      rw [Request.externalClaims_eq]
      exact (request.external_moves p desk).attempts_eq id
  exact h.trans (Nat.zero_add _)

end Claims

/-- While no interrupted delivery is recovered after its last attempt, none is claimed more
often than its limit. -/
theorem claims_bounded (p : Platform) (requests : List Request)
    (h : Each (Request.next p) Request.RecoversInTime requests {}) :
    ClaimsBounded p requests := by
  have hpush := h.invariant (I:=fun desk => ∀ id r, desk.pushDeliveries.find id=some r →
    Bounded r) (fun id r hr => by cases hr)
    fun request desk hb ok => (request.push_moves p desk).bounded ok.1 hb
  have hexternal := h.invariant (I:=fun desk => ∀ id r,
    desk.externalDeliveries.find id=some r → Bounded r) (fun id r hr => by cases hr)
    fun request desk hb ok => (request.external_moves p desk).bounded ok.2 hb
  constructor
  · intro id r hr
    rw [← pushClaims_total]
    unfold attemptsOn
    rw [hr]
    exact (hpush id r hr).attempts_le
  · intro id r hr
    rw [← externalClaims_total]
    unfold attemptsOn
    rw [hr]
    exact (hexternal id r hr).attempts_le

/-- A push worker that dies after each of its claims, and is recovered minutes later. -/
def interruptedSends : List Request :=
  [⟨{},.registerPush "ana" "https://push.example" "key" "auth"⟩,⟨{},.testPush 1 "ana"⟩,
    ⟨{},.claimPush 10⟩,⟨{ now := 200 },.recoverPush⟩,⟨{ now := 200 },.claimPush 10⟩,
    ⟨{ now := 400 },.recoverPush⟩,⟨{ now := 400 },.claimPush 10⟩,
    ⟨{ now := 600 },.recoverPush⟩,⟨{ now := 600 },.claimPush 10⟩]

/-- After two interruptions the third claim is still in the limit. -/
theorem claims_bounded_interrupted :
    ClaimsBounded asciiPlatform (interruptedSends.take 7) :=
  claims_bounded asciiPlatform (interruptedSends.take 7) (by decide)

/-- After three interruptions the delivery is claimed a fourth time. -/
theorem claims_exceed_limit : ¬ClaimsBounded asciiPlatform interruptedSends := by
  intro h
  obtain ⟨r,hr,hlimit⟩ : ∃ r,
      (deskAfter asciiPlatform interruptedSends).pushDeliveries.find 1=some r ∧
        r.maxAttempts=3 := ⟨_,rfl,rfl⟩
  have hclaims : total (Request.next asciiPlatform) (Request.pushClaims 1) interruptedSends {}=4 :=
    rfl
  have hle := h.1 1 r hr
  omega

end ZenControl.Attention
