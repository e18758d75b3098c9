import ZenControl.Rewards.Effects

/-! The settlement of a redemption. Refunds lock before they read, completions update what
they have read before; a completion that updates a redemption which was refunded in between
turns it into an applied one. Where no refund commits between the query and the update of a
completion, the check of the completion is enough, and a redemption is settled once. -/
namespace ZenControl
open Calls

section Bank
variable {ι : Type} [DecidableEq ι]

/-- Calls of reward operations interleaved statement by statement. -/
abbrev Bank (ι : Type) :=
  Config ι (Sql Store StoreError) Sql.Answer StoreError RewardReply (Database ι Store)

/-- The calls before their first statement. -/
def Bank.start (ops : ι → RewardOp) (db : Store) : Bank ι :=
  ⟨⟨db,none⟩,fun i => (ops i).program⟩

def Bank.status (c : Bank ι) (id : ℤ) : Option RedemptionStatus :=
  c.shared.committed.tables.rewards.status id

/-- The condition on a call that takes the write lock: no refund of the redemption has been
committed since the completion has read it. -/
def RewardOp.InTime (op : RewardOp) (views : List Store) (db : Store) : Prop :=
  match op with
  | .complete id _ _ _ => ∀ v ∈ views, v.tables.rewards.status id≠some .refunded →
      db.tables.rewards.status id≠some .refunded
  | _ => True

/-- The condition as a guard of the calls. -/
def completesInTime (ops : ι → RewardOp) : ViewGuard ι Store StoreError RewardReply :=
  fun i views p db => p.Opens → (ops i).InTime views db

/-- A completion that has found its redemption reserved finds it not refunded when it writes. -/
lemma RewardOp.InTime.not_refunded {id : ℤ} {restoreAt note now : String} {views : List Store}
    {db : Store} (inTime : (RewardOp.complete id restoreAt note now).InTime views db)
    (read : (RewardOp.complete id restoreAt note now).HasRead views) :
    db.tables.rewards.status id≠some .refunded := by
  obtain ⟨v,hv,hreserved⟩ := read
  refine inTime v hv ?_
  rw [hreserved]
  decide

end Bank

/-- A call that settles a redemption. -/
inductive Settlement
  | complete (id : ℤ) (restoreAt note now : String)
  | refund (id : ℤ) (note now : String)

def Settlement.op : Settlement → RewardOp
  | complete id restoreAt note now => .complete id restoreAt note now
  | refund id note now => .refund id note now

namespace RewardTables

@[simp] lemma redemption_upsertAccount (ip : String) (balance : ℤ) (now : String)
    (t : RewardTables) (id : ℤ) :
    (t.upsertAccount ip balance now).redemption id=t.redemption id := rfl

@[simp] lemma redemption_insertLedger (ip : String) (delta after : ℤ)
    (kind reason actor reference now : String) (t : RewardTables) (id : ℤ) :
    (t.insertLedger ip delta after kind reason actor reference now).redemption id=
      t.redemption id := rfl

lemma redemption_update {f : Redemption → Redemption} (hf : ∀ r, (f r).id=r.id)
    (t : RewardTables) (id id' : ℤ) :
    (t.updateRedemption id' f).redemption id=
      (t.redemption id).map fun r => if r.id=id' then f r else r := by
  have hid : ∀ r : Redemption, (if r.id=id' then f r else r).id=r.id := by
    intro r
    split_ifs
    · exact hf r
    · rfl
  simp only [redemption,updateRedemption,List.find?_map,Function.comp_def,hid]

lemma status_update_ne {f : Redemption → Redemption} (hf : ∀ r, (f r).id=r.id)
    (t : RewardTables) {id id' : ℤ} (h : id≠id') :
    (t.updateRedemption id' f).status id=t.status id := by
  rw [status,redemption_update hf,status]
  cases hr : t.redemption id with
  | none => rfl
  | some r =>
    have hid := redemption_id hr
    simp only [Option.map_some,if_neg (hid ▸ h : r.id≠id')]

lemma status_update_self {f : Redemption → Redemption} (hf : ∀ r, (f r).id=r.id)
    {t : RewardTables} {id : ℤ} {r : Redemption} (hr : t.redemption id=some r) :
    (t.updateRedemption id f).status id=some (f r).status := by
  rw [status,redemption_update hf,hr]
  simp only [Option.map_some,if_pos (redemption_id hr)]

lemma status_of_redemption {t : RewardTables} {id : ℤ} {r : Redemption}
    (hr : t.redemption id=some r) : t.status id=some r.status := by
  rw [status,hr]; rfl

/-- A refund leaves every redemption alone that was settled. -/
lemma status_refundOf {t : RewardTables} {id k : ℤ} {row : Redemption} (note now : String)
    (hrow : t.redemption k=some row) (hreserved : row.status=.reserved)
    (hid : t.status id≠some .reserved) : (t.refundOf row note now).status id=t.status id := by
  have hne : id≠row.id := by
    rintro rfl
    rw [redemption_id hrow] at hid
    exact hid (by rw [status_of_redemption hrow,hreserved])
  unfold refundOf
  rw [status_update_ne (f:=Redemption.refund note now) (fun _ => rfl) _ hne]
  rfl

end RewardTables

/-- A settled redemption keeps its status through every settlement that is in time. -/
lemma Settlement.keeps_status {s : Settlement} {views : List Store} {db db' : Store} {id : ℤ}
    {status : RedemptionStatus} (inTime : s.op.InTime views db)
    (h : s.op.Transaction views db db') (settled : status≠.reserved)
    (hs : db.tables.rewards.status id=some status) :
    db'.tables.rewards.status id=some status := by
  rcases h with hsame | ⟨read,h⟩
  · rwa [hsame]
  generalize db'.tables.rewards=t' at h
  cases s with
  | complete k restoreAt note now =>
    cases h with
    | same => exact hs
    | complete row =>
      by_cases hk : id=k
      · subst hk
        obtain ⟨r,hr,hrs⟩ := Option.map_eq_some_iff.mp hs
        rw [RewardTables.status_update_self (f:=Redemption.complete restoreAt note now row)
          (fun _ => rfl) hr]
        cases status with
        | reserved => exact (settled rfl).elim
        | applied => rfl
        | refunded => exact absurd hs (inTime.not_refunded read)
      · rw [RewardTables.status_update_ne (f:=Redemption.complete restoreAt note now row)
          (fun _ => rfl) _ hk]
        exact hs
  | refund k note now =>
    cases h with
    | same => exact hs
    | refund found reserved =>
      rw [RewardTables.status_refundOf note now found reserved (by
        rw [hs]; simpa using settled)]
      exact hs

section SettledOnce
variable {ι : Type} [DecidableEq ι]

/-- Once settled, a redemption keeps its status. -/
def Bank.SettledOnce (c d : Bank ι) : Prop :=
  ∀ id, (c.status id=some .refunded → d.status id≠some .applied) ∧
    (c.status id=some .applied → d.status id≠some .refunded)

/-- A redemption is settled exactly once in every run in which no refund is committed between
the query and the update of a completion of it. -/
theorem redemption_settled_once (settlements : ι → Settlement) (db : Store)
    (c d : Bank ι × Views ι Store)
    (first : Watched (completesInTime fun i => (settlements i).op)
      (Bank.start (fun i => (settlements i).op) db,fun _ => []) c)
    (later : Watched (completesInTime fun i => (settlements i).op) c d) : c.1.SettledOnce d.1 := by
  have hc : Described (completesInTime fun i => (settlements i).op)
      (fun i => (settlements i).op.Transaction) c :=
    ((Described.start fun i => (settlements i).op.program_maintains).run
      (I:=fun _ => True) (fun _ _ _ _ _ _ _ _ _ => trivial) trivial first).1
  have keeps : ∀ id status, status≠RedemptionStatus.reserved → c.1.status id=some status →
      d.1.status id=some status := by
    intro id status settled hs
    exact (hc.run (I:=fun db => db.tables.rewards.status id=some status)
      (fun i views p s s' ho hG hR hI => (settlements i).keeps_status (hG ho) hR settled hI)
      hs later).2
  intro id
  refine ⟨fun hs => ?_,fun hs => ?_⟩
  · rw [keeps id .refunded (by decide) hs]; decide
  · rw [keeps id .applied (by decide) hs]; decide

end SettledOnce

section Race

/-- A store in which fifteen of an account's thirty minutes are reserved. -/
def reservedStore : Store :=
  ⟨{},{ rewards :=
    { accounts := [⟨"10.0.0.7",15,"t1"⟩],
      ledger := [⟨1,"10.0.0.7",30,30,"grant","","parent","","t0"⟩,
        ⟨2,"10.0.0.7",-15,15,"redeem","reward access","parent","redemption:1","t1"⟩],
      ledgerSeq := 2,
      redemptions := [⟨1,"10.0.0.7",15,"parent",.reserved,"t1","t1","","reward access"⟩],
      redemptionSeq := 1 } }⟩

/-- The redemption is completed by one thread while another one refunds it. -/
def completeAndRefund (i : Bool) : Settlement :=
  if i then .refund 1 "" "t2" else .complete 1 "" "" "t3"

/-- The completion has read the reserved row when the refund runs. -/
def readThenRefunded : List Bool := [false] ++ List.replicate 8 true

theorem redemption_settled_once_sequential :
    ∃ c d : Bank Bool, c.status 1=some .applied ∧
      d.code true=.raise (.valueError
        "Only reserved reward redemptions can be refunded (current: applied)") ∧
      c.SettledOnce d := by
  let ok (i : Bool) (_ : List Store) (c : Bank Bool) : Bool :=
    i || decide (c.shared.committed.tables.rewards.status 1≠some .refunded)
  have inTime : ∀ i (views : Views Bool Store) (c : Bank Bool), ok i (views i) c →
      (completesInTime fun i => (completeAndRefund i).op).step i (c,views) := by
    intro i views c hok _ _
    cases i with
    | true => trivial
    | false =>
      intro _ _ _
      change c.shared.committed.tables.rewards.status 1≠some .refunded
      simpa [ok] using hok
  have hfirst : (watch ok (List.replicate 4 false)
      (Bank.start (fun i => (completeAndRefund i).op) reservedStore,fun _ => [])).isSome := rfl
  have hlater : (watch ok (List.replicate 3 true) (Option.get _ hfirst)).isSome := rfl
  have first := watch_run inTime (Option.some_get hfirst).symm
  have later := watch_run inTime (Option.some_get hlater).symm
  exact ⟨_,_,rfl,rfl,redemption_settled_once completeAndRefund reservedStore _ _ first later⟩

/-- A completion that read the row before the refund turns the refunded redemption into an
applied one. -/
theorem redemption_settled_twice :
    ¬ ∀ c d : Bank Bool,
      Run (Config.Step Database.serve) anyStep
        (Bank.start (fun i => (completeAndRefund i).op) reservedStore) c →
      Run (Config.Step Database.serve) anyStep c d → c.SettledOnce d := by
  intro h
  have hfirst : (Config.exec Database.serve (fun _ _ => true) readThenRefunded
      (Bank.start (fun i => (completeAndRefund i).op) reservedStore)).isSome := rfl
  have hlater : (Config.exec Database.serve (fun _ _ => true) (List.replicate 3 false)
      (Option.get _ hfirst)).isSome := rfl
  have first := (Config.exec_run (Option.some_get hfirst).symm).mono (fun _ _ _ => trivial)
  have later := (Config.exec_run (Option.some_get hlater).symm).mono (fun _ _ _ => trivial)
  exact (h _ _ first later 1).1 rfl rfl

end Race
end ZenControl
