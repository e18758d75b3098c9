import ZenControl.Rewards.Settlement

/-! The books of the reward bank. An account is the sum of its ledger, the ledger carries its
running balance, and every redemption stands in the ledger with one debit and, once it is
refunded, one credit. -/
namespace ZenControl
open Calls

/-- The sum of the deltas of some ledger rows. -/
def deltaSum : List LedgerRow → ℤ
  | [] => 0
  | row::rows => row.deltaMinutes+deltaSum rows

/-- Every row carries the balance that it leaves, starting from `before`. -/
def RunningFrom : ℤ → List LedgerRow → Prop
  | _, [] => True
  | before, row::rows =>
    row.balanceAfter=before+row.deltaMinutes ∧ RunningFrom (before+row.deltaMinutes) rows

namespace RewardTables

/-- The ledger rows of an address. -/
def ledgerOf (t : RewardTables) (ip : String) : List LedgerRow :=
  t.ledger.filter fun row => row.ip=ip

/-- The ledger rows of one kind that a redemption has contributed, by their reference, with
what they say. -/
def entries (t : RewardTables) (kind : String) (id : ℤ) : List (String × ℤ) :=
  (t.ledger.filter fun row => row.kind=kind ∧ row.reference=redemptionReference id).map
    fun row => (row.ip,row.deltaMinutes)

/-- The conservation law of the reward bank. -/
structure Conserved (t : RewardTables) : Prop where
  nonneg : ∀ ip, 0 ≤ t.balance ip
  balance : ∀ ip, t.balance ip=deltaSum (t.ledgerOf ip)
  ordered : t.ledger.Pairwise fun row row' => row.id < row'.id
  running : ∀ ip, RunningFrom 0 (t.ledgerOf ip)
  one_reserved : ∀ ip, t.redemptions.countP (fun r => r.ip=ip ∧ r.status=.reserved)≤1
  debit : ∀ r ∈ t.redemptions, t.entries "redeem" r.id=[(r.ip,-r.minutes)]
  credit : ∀ r ∈ t.redemptions, t.entries "refund" r.id=
    if r.status=.refunded then [(r.ip,r.minutes)] else []

/-- The part of the invariant about accounts and ledger. -/
structure Books (t : RewardTables) : Prop where
  nonneg : ∀ ip, 0 ≤ t.balance ip
  balance : ∀ ip, t.balance ip=deltaSum (t.ledgerOf ip)
  running : ∀ ip, RunningFrom 0 (t.ledgerOf ip)
  ordered : t.ledger.Pairwise fun row row' => row.id < row'.id
  bounded : ∀ row ∈ t.ledger, row.id ≤ t.ledgerSeq

/-- The part about redemptions; no ledger row is tagged with an id that was not given out. -/
structure Redeemed (t : RewardTables) : Prop where
  one_reserved : ∀ ip, t.redemptions.countP (fun r => r.ip=ip ∧ r.status=.reserved)≤1
  debit : ∀ r ∈ t.redemptions, t.entries "redeem" r.id=[(r.ip,-r.minutes)]
  credit : ∀ r ∈ t.redemptions, t.entries "refund" r.id=
    if r.status=.refunded then [(r.ip,r.minutes)] else []
  distinct : t.redemptions.Pairwise fun r r' => r.id < r'.id
  bounded : ∀ r ∈ t.redemptions, r.id ≤ t.redemptionSeq
  minutes : ∀ r ∈ t.redemptions, 0 ≤ r.minutes
  fresh : ∀ kind ∈ ["redeem","refund"], ∀ id, t.redemptionSeq < id → t.entries kind id=[]

lemma Books.conserved {t : RewardTables} (hb : t.Books) (hr : t.Redeemed) : t.Conserved :=
  { nonneg := hb.nonneg, balance := hb.balance, ordered := hb.ordered,
    running := hb.running, one_reserved := hr.one_reserved, debit := hr.debit,
    credit := hr.credit }

section Accounts
variable (t : RewardTables) (ip ip' : String) (b : ℤ) (now : String)

lemma balance_upsertAccount :
    (t.upsertAccount ip b now).balance ip'=if ip'=ip then b else t.balance ip' := by
  unfold upsertAccount
  split_ifs with hany heq heq
  · subst heq
    have hid : ∀ a : RewardAccount, (if a.ip=ip' then
        { a with balanceMinutes := b, updatedAt := now } else a).ip=a.ip := by
      intro a; split_ifs <;> rfl
    obtain ⟨a,ha⟩ := Option.isSome_iff_exists.mp (List.find?_isSome.mpr (by simpa using hany) :
      (t.accounts.find? fun a => a.ip=ip').isSome)
    have hip : a.ip=ip' := by simpa using List.find?_some ha
    simp only [balance,account,List.find?_map,Function.comp_def,hid,ha,Option.map_some,
      if_pos hip,Option.getD_some]
  · have hid : ∀ a : RewardAccount, (if a.ip=ip then
        { a with balanceMinutes := b, updatedAt := now } else a).ip=a.ip := by
      intro a; split_ifs <;> rfl
    simp only [balance,account,List.find?_map,Function.comp_def,hid]
    cases ha : t.accounts.find? (fun a => a.ip=ip') with
    | none => rfl
    | some a =>
      have hip : a.ip=ip' := by simpa using List.find?_some ha
      simp only [Option.map_some,if_neg (hip ▸ heq : a.ip≠ip)]
  · subst heq
    have hnone : t.accounts.find? (fun a => a.ip=ip')=none := by
      simpa using hany
    simp [balance,account,List.find?_append,hnone]
  · have hne : ip≠ip' := fun e => heq e.symm
    simp [balance,account,List.find?_append,hne]

lemma balance_deleteAccounts :
    (t.deleteAccounts ip).balance ip'=if ip'=ip then 0 else t.balance ip' := by
  have hfind : (t.accounts.filter fun a => a.ip≠ip).find? (fun a => a.ip=ip')=
      if ip'=ip then none else t.accounts.find? fun a => a.ip=ip' := by
    rw [List.find?_filter]
    split_ifs with h
    · subst h
      simp
    · congr 1
      funext a
      by_cases ha : a.ip=ip'
      · simp [ha,h]
      · simp [ha]
  simp only [balance,account,deleteAccounts]
  rw [hfind]
  split_ifs <;> rfl

end Accounts

end RewardTables

lemma deltaSum_append (rows : List LedgerRow) (row : LedgerRow) :
    deltaSum (rows ++ [row])=deltaSum rows+row.deltaMinutes := by
  induction rows with
  | nil => simp [deltaSum]
  | cons r rows ih =>
    simp only [List.cons_append,deltaSum,ih]
    omega

lemma runningFrom_append (before : ℤ) (rows : List LedgerRow) (row : LedgerRow) :
    RunningFrom before (rows ++ [row]) ↔
      RunningFrom before rows ∧ row.balanceAfter=before+deltaSum rows+row.deltaMinutes := by
  induction rows generalizing before with
  | nil => simp [RunningFrom,deltaSum]
  | cons r rows ih =>
    simp only [List.cons_append,RunningFrom,ih,deltaSum,and_assoc]
    rw [show before+(r.deltaMinutes+deltaSum rows)+row.deltaMinutes=
      before+r.deltaMinutes+deltaSum rows+row.deltaMinutes by omega]

namespace RewardTables

lemma ledgerOf_insertLedger (t : RewardTables) (ip ip' : String) (delta after : ℤ)
    (kind reason actor reference now : String) :
    (t.insertLedger ip delta after kind reason actor reference now).ledgerOf ip'=
      t.ledgerOf ip' ++ if ip=ip' then
        [{ id := t.ledgerSeq+1, ip := ip, deltaMinutes := delta, balanceAfter := after,
           kind := kind, reason := reason, actor := actor, reference := reference,
           createdAt := now }] else [] := by
  simp only [ledgerOf,insertLedger,List.filter_append,List.filter_cons,List.filter_nil,
    decide_eq_true_eq]

/-- A posting: the account and the ledger move by the same delta. -/
lemma Books.post {t : RewardTables} (h : t.Books) (ip : String) (delta : ℤ)
    (enough : 0 ≤ t.balance ip+delta) (kind reason actor reference now : String) :
    ((t.upsertAccount ip (t.balance ip+delta) now).insertLedger ip delta (t.balance ip+delta)
      kind reason actor reference now).Books where
  nonneg ip' := by
    change 0≤(t.upsertAccount ip (t.balance ip+delta) now).balance ip'
    rw [balance_upsertAccount]
    split_ifs
    · exact enough
    · exact h.nonneg ip'
  balance ip' := by
    change (t.upsertAccount ip (t.balance ip+delta) now).balance ip'=_
    rw [balance_upsertAccount,ledgerOf_insertLedger]
    change _=deltaSum (t.ledgerOf ip' ++ _)
    have := h.balance ip'
    split_ifs with heq hne hne
    · subst heq
      rw [deltaSum_append]
      simp only
      omega
    · exact (hne heq.symm).elim
    · exact (heq hne.symm).elim
    · rw [List.append_nil]; exact this
  running ip' := by
    rw [ledgerOf_insertLedger]
    change RunningFrom 0 (t.ledgerOf ip' ++ _)
    split_ifs with heq
    · subst heq
      refine (runningFrom_append _ _ _).mpr ⟨h.running ip,?_⟩
      have := h.balance ip
      simp only
      omega
    · rw [List.append_nil]; exact h.running ip'
  ordered := by
    refine List.pairwise_append.mpr ⟨h.ordered,List.pairwise_singleton _ _,?_⟩
    intro row hrow row' hrow'
    have := h.bounded row hrow
    rw [List.mem_singleton] at hrow'
    subst hrow'
    change row.id < t.ledgerSeq+1
    omega
  bounded := by
    intro row hrow
    change row.id ≤ t.ledgerSeq+1
    rcases List.mem_append.mp hrow with hrow | hrow
    · have := h.bounded row hrow
      omega
    · rw [List.mem_singleton] at hrow
      subst hrow
      exact Int.le_refl _

lemma ledgerOf_deleteLedger (t : RewardTables) (ip ip' : String) :
    (t.deleteLedger ip).ledgerOf ip'=if ip'=ip then [] else t.ledgerOf ip' := by
  simp only [ledgerOf,deleteLedger,List.filter_filter]
  split_ifs with h
  · subst h
    simp
  · refine List.filter_congr fun row _ => ?_
    by_cases hrow : row.ip=ip'
    · simp [hrow,h]
    · simp [hrow]

lemma Books.delete {t : RewardTables} (h : t.Books) (ip : String) : (t.deleteOf ip).Books where
  nonneg ip' := by
    change 0≤(t.deleteAccounts ip).balance ip'
    rw [balance_deleteAccounts]
    split_ifs
    · exact Int.le_refl 0
    · exact h.nonneg ip'
  balance ip' := by
    change (t.deleteAccounts ip).balance ip'=deltaSum ((t.deleteLedger ip).ledgerOf ip')
    rw [balance_deleteAccounts,ledgerOf_deleteLedger]
    split_ifs
    · rfl
    · exact h.balance ip'
  running ip' := by
    change RunningFrom 0 ((t.deleteLedger ip).ledgerOf ip')
    rw [ledgerOf_deleteLedger]
    split_ifs
    · trivial
    · exact h.running ip'
  ordered := h.ordered.filter _
  bounded row hrow := h.bounded row (List.mem_filter.mp hrow).1

/-! The entries of a redemption. -/

lemma entries_insertLedger (t : RewardTables) (ip : String) (delta after : ℤ)
    (kind reason actor reference now k : String) (id : ℤ) :
    (t.insertLedger ip delta after kind reason actor reference now).entries k id=
      t.entries k id ++ if kind=k ∧ reference=redemptionReference id then [(ip,delta)] else [] := by
  simp only [entries,insertLedger,List.filter_append,List.map_append,List.filter_cons,
    List.filter_nil,decide_eq_true_eq]
  split_ifs <;> rfl

lemma entries_deleteLedger (t : RewardTables) (ip k : String) (id : ℤ) :
    (t.deleteLedger ip).entries k id=(t.entries k id).filter fun e => e.1≠ip := by
  simp only [entries,deleteLedger,List.filter_map,List.filter_filter,Function.comp_def]
  congr 1
  refine List.filter_congr fun row _ => ?_
  rw [Bool.and_comm]

lemma redemptionReference_injective {id id' : ℤ}
    (h : redemptionReference id=redemptionReference id') : id=id' :=
  int_repr_injective ((String.append_right_inj _).mp h)

lemma find_of_distinct {rows : List Redemption} (h : rows.Pairwise fun r r' => r.id < r'.id)
    {r : Redemption} (hr : r ∈ rows) : rows.find? (fun r' => r'.id=r.id)=some r := by
  induction rows with
  | nil => cases hr
  | cons first rows ih =>
    obtain ⟨hfirst,hrest⟩ := List.pairwise_cons.mp h
    rcases List.mem_cons.mp hr with rfl | hr
    · simp
    · have hne : first.id≠r.id := by
        have := hfirst r hr
        omega
      rw [List.find?_cons_of_neg (by simpa using hne)]
      exact ih hrest hr

lemma Redeemed.redemption_of_mem {t : RewardTables} (h : t.Redeemed) {r : Redemption}
    (hr : r ∈ t.redemptions) : t.redemption r.id=some r := find_of_distinct h.distinct hr

lemma mem_of_redemption {t : RewardTables} {id : ℤ} {r : Redemption}
    (h : t.redemption id=some r) : r ∈ t.redemptions := List.mem_of_find?_eq_some h

/-- A row of the ledger that is not tagged for a redemption changes nothing for them. -/
lemma Redeemed.untagged {t t' : RewardTables} (h : t.Redeemed)
    (hr : t'.redemptions=t.redemptions) (hs : t'.redemptionSeq=t.redemptionSeq)
    (he : ∀ kind ∈ ["redeem","refund"], ∀ id, t'.entries kind id=t.entries kind id) :
    t'.Redeemed where
  one_reserved ip := hr ▸ h.one_reserved ip
  debit r hmem := by
    rw [he _ (by simp)]
    exact h.debit r (hr ▸ hmem)
  credit r hmem := by
    rw [he _ (by simp)]
    exact h.credit r (hr ▸ hmem)
  distinct := hr ▸ h.distinct
  bounded r hmem := hs ▸ h.bounded r (hr ▸ hmem)
  minutes r hmem := h.minutes r (hr ▸ hmem)
  fresh kind hk id hid := by
    rw [he kind hk]
    exact h.fresh kind hk id (hs ▸ hid)

/-- A reservation adds a redemption with its debit. -/
lemma Redeemed.reserve {t : RewardTables} (h : t.Redeemed) {ip : String}
    (none_reserved : ∀ r ∈ t.redemptions, ¬ (r.ip=ip ∧ r.status=.reserved)) {minutes : ℤ}
    (hminutes : 0 ≤ minutes) (actor reason now : String) : (t.reserveOf ip minutes actor reason now).Redeemed := by
  have hentries : ∀ kind id, (t.reserveOf ip minutes actor reason now).entries kind id=
      t.entries kind id ++ if "redeem"=kind ∧
        redemptionReference (t.redemptionSeq+1)=redemptionReference id then
          [(ip,-minutes)] else [] := fun kind id => entries_insertLedger _ _ _ _ _ _ _ _ _ _ _
  have hother : ∀ kind {id}, id≠t.redemptionSeq+1 →
      (t.reserveOf ip minutes actor reason now).entries kind id=t.entries kind id := by
    intro kind id hid
    rw [hentries,if_neg fun e => hid (redemptionReference_injective e.2).symm,List.append_nil]
  have hrows : (t.reserveOf ip minutes actor reason now).redemptions=t.redemptions ++
      [{ id := t.redemptionSeq+1, ip := ip, minutes := minutes, actor := actor,
         status := .reserved, createdAt := now, updatedAt := now, restoreAt := "",
         note := reason }] := rfl
  have hold : ∀ r ∈ t.redemptions, r.id≠t.redemptionSeq+1 := by
    intro r hr
    have := h.bounded r hr
    omega
  refine ⟨?_,?_,?_,?_,?_,?_,?_⟩
  · intro ip'
    rw [hrows,List.countP_append]
    by_cases hip : ip=ip'
    · subst hip
      have hzero : t.redemptions.countP (fun r => r.ip=ip ∧ r.status=.reserved)=0 := by
        rw [List.countP_eq_zero]
        simpa using none_reserved
      rw [hzero]
      simp
    · have := h.one_reserved ip'
      simpa [hip] using this
  · intro r hr
    rw [hrows,List.mem_append,List.mem_singleton] at hr
    rcases hr with hr | rfl
    · rw [hother _ (hold r hr)]
      exact h.debit r hr
    · rw [hentries,if_pos ⟨rfl,rfl⟩,h.fresh "redeem" (by simp) _ (Int.lt_succ _)]
      rfl
  · intro r hr
    rw [hrows,List.mem_append,List.mem_singleton] at hr
    rcases hr with hr | rfl
    · rw [hother _ (hold r hr)]
      exact h.credit r hr
    · rw [hentries,if_neg (by simp),h.fresh "refund" (by simp) _ (Int.lt_succ _)]
      rfl
  · rw [hrows]
    refine List.pairwise_append.mpr ⟨h.distinct,List.pairwise_singleton _ _,?_⟩
    intro r hr r' hr'
    have := h.bounded r hr
    rw [List.mem_singleton] at hr'
    subst hr'
    change r.id < t.redemptionSeq+1
    omega
  · intro r hr
    change r.id ≤ t.redemptionSeq+1
    rw [hrows,List.mem_append,List.mem_singleton] at hr
    rcases hr with hr | rfl
    · have := h.bounded r hr
      omega
    · exact Int.le_refl _
  · intro r hr
    rw [hrows,List.mem_append,List.mem_singleton] at hr
    rcases hr with hr | rfl
    · exact h.minutes r hr
    · exact hminutes
  · intro kind hk id hid
    change t.redemptionSeq+1 < id at hid
    rw [hother kind (by omega)]
    exact h.fresh kind hk id (by omega)

/-- A redemption that is settled keeps its address and its minutes; its credit has to fit its
new status. -/
lemma Redeemed.settle {t t' : RewardTables} (h : t.Redeemed) (id : ℤ)
    {f : Redemption → Redemption}
    (hf : ∀ r, (f r).id=r.id ∧ (f r).ip=r.ip ∧ (f r).minutes=r.minutes ∧
      (f r).status≠.reserved)
    (hr : t'.redemptions=(t.updateRedemption id f).redemptions)
    (hs : t'.redemptionSeq=t.redemptionSeq)
    (hdebit : ∀ k, t'.entries "redeem" k=t.entries "redeem" k)
    (hcredit : ∀ k, t'.entries "refund" k=t.entries "refund" k ∨ k=id ∧ id ≤ t.redemptionSeq)
    (hsettled : ∀ r, t.redemption id=some r → t'.entries "refund" id=
      if (f r).status=.refunded then [(r.ip,r.minutes)] else []) : t'.Redeemed := by
  have hmem : ∀ r' ∈ t'.redemptions, ∃ r ∈ t.redemptions, r'=if r.id=id then f r else r := by
    intro r' hr'
    rw [hr] at hr'
    obtain ⟨r,hrt,hrr⟩ := List.mem_map.mp hr'
    exact ⟨r,hrt,hrr.symm⟩
  have hsame : ∀ r : Redemption, (if r.id=id then f r else r).id=r.id ∧
      (if r.id=id then f r else r).ip=r.ip ∧
      (if r.id=id then f r else r).minutes=r.minutes := by
    intro r
    obtain ⟨h1,h2,h3,-⟩ := hf r
    split_ifs
    · exact ⟨h1,h2,h3⟩
    · exact ⟨rfl,rfl,rfl⟩
  refine ⟨?_,?_,?_,?_,?_,?_,?_⟩
  · intro ip
    refine Nat.le_trans ?_ (h.one_reserved ip)
    rw [hr]
    simp only [updateRedemption,List.countP_map]
    refine List.countP_mono_left fun r _ hpos => ?_
    simp only [Function.comp_def,decide_eq_true_eq] at hpos ⊢
    by_cases hrid : r.id=id
    · rw [if_pos hrid] at hpos
      exact ((hf r).2.2.2 hpos.2).elim
    · rwa [if_neg hrid] at hpos
  · intro r' hr'
    obtain ⟨r,hrt,rfl⟩ := hmem r' hr'
    obtain ⟨h1,h2,h3⟩ := hsame r
    rw [h1,h2,h3,hdebit]
    exact h.debit r hrt
  · intro r' hr'
    obtain ⟨r,hrt,rfl⟩ := hmem r' hr'
    obtain ⟨h1,h2,h3⟩ := hsame r
    rw [h1,h2,h3]
    by_cases hrid : r.id=id
    · subst hrid
      rw [hsettled r (h.redemption_of_mem hrt),if_pos rfl]
    · rw [if_neg hrid,(hcredit r.id).resolve_right fun e => hrid e.1]
      exact h.credit r hrt
  · rw [hr]
    refine List.pairwise_map.mpr (h.distinct.imp fun hlt => ?_)
    rw [(hsame _).1,(hsame _).1]
    exact hlt
  · intro r' hr'
    obtain ⟨r,hrt,rfl⟩ := hmem r' hr'
    rw [(hsame r).1,hs]
    exact h.bounded r hrt
  · intro r' hr'
    obtain ⟨r,hrt,rfl⟩ := hmem r' hr'
    rw [(hsame r).2.2]
    exact h.minutes r hrt
  · intro kind hk k hlt
    rw [hs] at hlt
    have hold := h.fresh kind hk k hlt
    simp only [List.mem_cons,List.not_mem_nil,or_false] at hk
    rcases hk with rfl | rfl
    · rw [hdebit]; exact hold
    · rw [(hcredit k).resolve_right (by omega)]; exact hold

/-- Deleting an address takes its redemptions and their entries together. -/
lemma Redeemed.delete {t : RewardTables} (h : t.Redeemed) (ip : String) :
    (t.deleteOf ip).Redeemed := by
  have hentries : ∀ kind id, (t.deleteOf ip).entries kind id=
      (t.entries kind id).filter fun e => e.1≠ip := fun kind id =>
    entries_deleteLedger t ip kind id
  have hmem : ∀ r ∈ (t.deleteOf ip).redemptions, r ∈ t.redemptions ∧ r.ip≠ip := by
    intro r hr
    simpa [deleteOf,deleteRedemptions,deleteLedger,deleteAccounts] using hr
  refine ⟨?_,?_,?_,?_,?_,?_,?_⟩
  · intro ip'
    exact Nat.le_trans (List.filter_sublist.countP_le) (h.one_reserved ip')
  · intro r hr
    obtain ⟨hr,hip⟩ := hmem r hr
    rw [hentries,h.debit r hr]
    simp [hip]
  · intro r hr
    obtain ⟨hr,hip⟩ := hmem r hr
    rw [hentries,h.credit r hr]
    split_ifs <;> simp [hip]
  · exact h.distinct.filter _
  · intro r hr
    exact h.bounded r (hmem r hr).1
  · intro r hr
    exact h.minutes r (hmem r hr).1
  · intro kind hk id hid
    rw [hentries,h.fresh kind hk id hid]
    rfl

/-- A completion that is in time; where the redemption was deleted it finds no row. -/
lemma Redeemed.complete {t : RewardTables} (h : t.Redeemed) {id : ℤ} (restoreAt note now : String)
    (row : Redemption) (inTime : t.status id≠some .refunded) :
    (t.updateRedemption id (Redemption.complete restoreAt note now row)).Redeemed := by
  refine h.settle id (f:=Redemption.complete restoreAt note now row)
    (fun r => ⟨rfl,rfl,rfl,fun e => by cases e⟩) rfl rfl (fun _ => rfl) (fun _ => .inl rfl)
    fun r hr => ?_
  change t.entries "refund" id=[]
  have hstatus : r.status≠.refunded := fun e =>
    inTime ((status_of_redemption hr).trans (congrArg some e))
  rw [← redemption_id hr,h.credit r (mem_of_redemption hr),if_neg hstatus]

lemma Redeemed.refund {t : RewardTables} (h : t.Redeemed) {id : ℤ} {row : Redemption}
    (found : t.redemption id=some row) (reserved : row.status=.reserved) (note now : String) :
    (t.refundOf row note now).Redeemed := by
  have hmem := mem_of_redemption found
  have hentries : ∀ kind k, (t.refundOf row note now).entries kind k=
      t.entries kind k ++ if "refund"=kind ∧ redemptionReference row.id=redemptionReference k
        then [(row.ip,row.minutes)] else [] := fun kind k =>
    entries_insertLedger _ _ _ _ _ _ _ _ _ _ _
  refine h.settle row.id (f:=Redemption.refund note now)
    (fun r => ⟨rfl,rfl,rfl,fun e => by cases e⟩) rfl rfl (fun k => ?_) (fun k => ?_)
    (fun r hr => ?_)
  · rw [hentries,if_neg (by simp),List.append_nil]
  · by_cases hk : k=row.id
    · exact .inr ⟨hk,h.bounded row hmem⟩
    · refine .inl ?_
      rw [hentries,if_neg fun e => hk (redemptionReference_injective e.2).symm,List.append_nil]
  · rw [h.redemption_of_mem hmem] at hr
    cases hr
    rw [hentries,if_pos ⟨rfl,rfl⟩,h.credit row hmem,if_neg (by rw [reserved]; decide)]
    rfl

end RewardTables

/-- An adjustment is not written under the tags of a redemption. -/
def RewardOp.Untagged : RewardOp → Prop
  | .adjust args => ∀ kind ∈ ["redeem","refund"], ∀ id,
      ¬ (args.ledgerKind=kind ∧ args.ledgerReference=redemptionReference id)
  | _ => True

namespace RewardOp.Effect
variable {op : RewardOp} {t t' : RewardTables}

lemma books_refundOf {row : Redemption} (hb : t.Books) (hminutes : 0 ≤ row.minutes)
    (note now : String) : (t.refundOf row note now).Books := by
  have hpost := hb.post row.ip row.minutes
    (Int.add_nonneg (hb.nonneg row.ip) hminutes) "refund" (refundReason note)
    (clip row.actor 80) (redemptionReference row.id) now
  exact ⟨hpost.nonneg,hpost.balance,hpost.running,hpost.ordered,hpost.bounded⟩

/-- Every transaction keeps the books. -/
lemma books (h : op.Effect t t') (hb : t.Books) (hr : t.Redeemed) : t'.Books := by
  cases h with
  | same => exact hb
  | adjust reason actor enough => exact hb.post _ _ enough _ _ _ _ _
  | @reserve _ ip _ _ now minutes _ actor reason offered enough none_reserved =>
    have hb' : (t.insertRedemption (strip ip) minutes actor now reason).Books :=
      ⟨hb.nonneg,hb.balance,hb.running,hb.ordered,hb.bounded⟩
    have enough' : 0 ≤ t.balance (strip ip)+(-minutes) := by omega
    exact hb'.post _ _ enough' "redeem" reason actor (redemptionReference (t.redemptionSeq+1)) now
  | complete row => exact ⟨hb.nonneg,hb.balance,hb.running,hb.ordered,hb.bounded⟩
  | refund found reserved =>
    exact books_refundOf hb (hr.minutes _ (RewardTables.mem_of_redemption found)) _ _
  | recover note now found reserved =>
    exact books_refundOf hb (hr.minutes _ (RewardTables.mem_of_redemption found)) _ _
  | deleteAccount => exact hb.delete _
  | retire => exact hb.delete _

/-- Every transaction that is in time and untagged keeps the redemptions. -/
lemma redeemed {views : List Store} {db : Store} (h : op.Effect db.tables.rewards t')
    (read : op.HasRead views) (inTime : op.InTime views db) (untagged : op.Untagged)
    (hr : db.tables.rewards.Redeemed) : t'.Redeemed := by
  cases h with
  | same => exact hr
  | @adjust _ args delta reason actor enough =>
    refine hr.untagged rfl rfl fun kind hk id => ?_
    exact (RewardTables.entries_insertLedger _ _ _ _ _ _ _ _ _ _ _).trans
      (by rw [if_neg (untagged kind hk id),List.append_nil]; rfl)
  | @reserve _ ip _ _ now minutes _ actor reason offered enough none_reserved =>
    exact hr.reserve none_reserved (by omega) _ _ _
  | complete row => exact hr.complete _ _ _ row (inTime.not_refunded read)
  | refund found reserved => exact hr.refund found reserved _ _
  | recover note now found reserved => exact hr.refund found reserved _ _
  | deleteAccount => exact hr.delete _
  | retire => exact hr.delete _

end RewardOp.Effect

section Conservation
variable {ι : Type} [DecidableEq ι]

lemma RewardTables.books_empty : ({} : RewardTables).Books :=
  ⟨fun _ => Int.le_refl 0,fun _ => rfl,fun _ => trivial,.nil,by simp⟩

lemma RewardTables.redeemed_empty : ({} : RewardTables).Redeemed :=
  ⟨by simp,by simp,by simp,.nil,by simp,by simp,fun _ _ _ _ => rfl⟩

/-- The condition on a call that takes the write lock: no refund of its redemption has been
committed since a completion has read it, an adjustment is not tagged as a redemption. -/
def bankGuard (ops : ι → RewardOp) : ViewGuard ι Store StoreError RewardReply :=
  fun i views p db => p.Opens → (ops i).InTime views db ∧ (ops i).Untagged

/-- Books and redemptions are in order in every state of every run from an empty bank whose
calls meet the condition. -/
lemma bank_sound {ops : ι → RewardOp} {db : Store} (empty : db.tables.rewards={})
    {c : Bank ι × Views ι Store}
    (run : Watched (bankGuard ops) (Bank.start ops db,fun _ => []) c) :
    c.1.shared.committed.tables.rewards.Books ∧ c.1.shared.committed.tables.rewards.Redeemed := by
  have start : Described (bankGuard ops) (fun i => (ops i).Transaction)
      (Bank.start ops db,fun _ => []) :=
    Described.start fun i => (ops i).program_maintains
  refine (start.run
    (I:=fun db => db.tables.rewards.Books ∧ db.tables.rewards.Redeemed)
    (fun i views p s s' ho hG hR hI => ?_) ?_ run).2
  · obtain ⟨inTime,untagged⟩ := hG ho
    rcases hR with hsame | ⟨read,hR⟩
    · rwa [hsame]
    · exact ⟨RewardOp.Effect.books hR hI.1 hI.2,
        RewardOp.Effect.redeemed hR read inTime untagged hI.2⟩
  · change db.tables.rewards.Books ∧ db.tables.rewards.Redeemed
    rw [empty]
    exact ⟨RewardTables.books_empty,RewardTables.redeemed_empty⟩

/-- The reward ledger is conserved in every state of every run from an empty bank whose
calls meet the condition. -/
theorem reward_ledger_conserved (ops : ι → RewardOp) (db : Store)
    (empty : db.tables.rewards={}) (c : Bank ι × Views ι Store)
    (run : Watched (bankGuard ops) (Bank.start ops db,fun _ => []) c) :
    c.1.shared.committed.tables.rewards.Conserved := by
  obtain ⟨hbooks,hredeemed⟩ := bank_sound empty run
  exact hbooks.conserved hredeemed

end Conservation

section Race

/-- Thirty minutes are granted, fifteen of them reserved, and the redemption is both
completed and refunded. -/
def grantAndRedeem : Fin 4 → RewardOp
  | 0 => .adjust { ip := "10.0.0.7", deltaMinutes := some 30, kind := "grant" }
  | 1 => .reserve "10.0.0.7" (some 15) "parent" "" "t1"
  | 2 => .complete 1 "" "" "t3"
  | 3 => .refund 1 "" "t2"

/-- The completion ends before the refund begins. -/
def completeFirst : List (Fin 4) :=
  List.replicate 7 0 ++ List.replicate 9 1 ++ List.replicate 4 2 ++ List.replicate 3 3

/-- The completion has read the reserved row when the refund runs. -/
def refundInBetween : List (Fin 4) :=
  List.replicate 7 0 ++ List.replicate 9 1 ++ [2] ++ List.replicate 8 3 ++ List.replicate 3 2

theorem reward_ledger_conserved_sequential :
    ∃ c : Bank (Fin 4), c.status 1=some .applied ∧
      c.shared.committed.tables.rewards.balance "10.0.0.7"=15 ∧
      c.shared.committed.tables.rewards.Conserved := by
  let ok (i : Fin 4) (_ : List Store) (c : Bank (Fin 4)) : Bool :=
    i≠2 || decide (c.shared.committed.tables.rewards.status 1≠some .refunded)
  have guarded : ∀ i (views : Views (Fin 4) Store) (c : Bank (Fin 4)), ok i (views i) c →
      (bankGuard grantAndRedeem).step i (c,views) := by
    intro i views c hok _ _
    match i with
    | 0 =>
      have hkind : ∀ kind ∈ ["redeem","refund"],
          Adjustment.ledgerKind { ip := "10.0.0.7", deltaMinutes := some 30, kind := "grant" }≠
            kind := by decide
      exact ⟨trivial,fun kind hk id h => hkind kind hk h.1⟩
    | 1 => exact ⟨trivial,trivial⟩
    | 2 =>
      refine ⟨fun _ _ _ => ?_,trivial⟩
      change c.shared.committed.tables.rewards.status 1≠some .refunded
      simpa [ok] using hok
    | 3 => exact ⟨trivial,trivial⟩
  have hexec : (watch ok completeFirst
      (Bank.start grantAndRedeem ⟨{},{}⟩,fun _ => [])).isSome := rfl
  have hrun := watch_run guarded (Option.some_get hexec).symm
  exact ⟨_,rfl,rfl,reward_ledger_conserved grantAndRedeem ⟨{},{}⟩ rfl _ hrun⟩

/-- The applied redemption keeps the credit of its refund. -/
theorem reward_ledger_not_conserved :
    ¬ ∀ c : Bank (Fin 4),
      Run (Config.Step Database.serve) anyStep (Bank.start grantAndRedeem ⟨{},{}⟩) c →
      c.shared.committed.tables.rewards.Conserved := by
  intro h
  have hexec : (Config.exec Database.serve (fun _ _ => true) refundInBetween
      (Bank.start grantAndRedeem ⟨{},{}⟩)).isSome := rfl
  have hrun := (Config.exec_run (Option.some_get hexec).symm).mono (fun _ _ _ => trivial)
  have hcredit := (h _ hrun).credit _ (List.mem_singleton.mpr rfl)
  cases hcredit

end Race
end ZenControl
