import ZenControl.PolicyHistory.Intervals
import ZenControl.Library.Histories
import Mathlib.Data.List.Induction

/-! What pruning leaves of the checkpoints of one identity. As long as a checkpoint from before an
instant is still stored, the store and an unpruned one hold the same checkpoints after that
instant, and the same state is in force at it. -/
namespace ZenControl.PolicyHistory
open Rows Histories

/-- Checkpoints in the order of their seconds. -/
def Ordered (rows : List Checkpoint) : Prop :=
  rows.Pairwise fun r r' => r.capturedAt ≤ r'.capturedAt

instance (rows : List Checkpoint) : Decidable (Ordered rows) :=
  inferInstanceAs (Decidable (rows.Pairwise _))

/-- Two checkpoints of one state under one name. -/
def Checkpoint.Alike (r r' : Checkpoint) : Prop :=
  r.stateHash=r'.stateHash ∧ r.deviceName=r'.deviceName

lemma Checkpoint.same_alike {r r' x : Checkpoint} (h : r.Alike r') : r.same x=r'.same x := by
  unfold same
  rw [h.1,h.2]

/-- The checkpoints that a pruning keeps. -/
def keptFrom (cutoff : ℤ) (rows : List Checkpoint) : List Checkpoint :=
  rows.filter fun r => cutoff ≤ r.capturedAt

def upTo (second : ℤ) (rows : List Checkpoint) : List Checkpoint :=
  rows.filter fun r => r.capturedAt ≤ second

def since (second : ℤ) (rows : List Checkpoint) : List Checkpoint :=
  rows.filter fun r => second < r.capturedAt

section Lists
variable {rows : List Checkpoint} {x : Checkpoint} {second cutoff : ℤ}

lemma Ordered.append (h : Ordered rows) (hx : ∀ r ∈ rows, r.capturedAt ≤ x.capturedAt) :
    Ordered (rows ++ [x]) := by
  refine List.pairwise_append.mpr ⟨h,List.pairwise_singleton _ _,fun r hr r' hr' => ?_⟩
  rw [List.mem_singleton.mp hr']
  exact hx r hr

lemma Ordered.filter (h : Ordered rows) (p : Checkpoint → Bool) : Ordered (rows.filter p) :=
  List.Pairwise.filter p h

lemma Ordered.last (h : Ordered (rows ++ [x])) : ∀ r ∈ rows, r.capturedAt ≤ x.capturedAt :=
  fun r hr => (List.pairwise_append.mp h).2.2 r hr x (List.mem_singleton.mpr rfl)

/-- A pruning of ordered checkpoints keeps the last one, unless it keeps none. -/
lemma keptFrom_getLast (h : Ordered rows) {r : Checkpoint}
    (hr : (keptFrom cutoff rows).getLast?=some r) : rows.getLast?=some r := by
  induction rows using List.reverseRecOn with
  | nil => cases hr
  | append_singleton rows x ih =>
    rw [keptFrom,List.filter_append] at hr
    by_cases hx : cutoff ≤ x.capturedAt
    · rw [List.filter_cons_of_pos (by simpa using hx),List.filter_nil,List.getLast?_concat] at hr
      rw [List.getLast?_concat,hr]
    · have hnone : rows.filter (fun r => decide (cutoff ≤ r.capturedAt))=[] := by
        refine List.filter_eq_nil_iff.mpr fun r hr => ?_
        have hle := h.last r hr
        simp only [decide_eq_true_eq]
        omega
      rw [hnone,List.filter_cons_of_neg (by simpa using hx)] at hr
      cases hr

lemma since_keptFrom (hcutoff : cutoff ≤ second) :
    since second (keptFrom cutoff rows)=since second rows := by
  unfold since keptFrom
  rw [List.filter_filter]
  refine List.filter_congr fun r _ => ?_
  by_cases hr : second < r.capturedAt
  · have hle : cutoff ≤ r.capturedAt := by omega
    simp [hr,hle]
  · simp [hr]

lemma upTo_keptFrom : upTo second (keptFrom cutoff rows)=keptFrom cutoff (upTo second rows) := by
  unfold upTo keptFrom
  rw [List.filter_filter,List.filter_filter]
  exact List.filter_congr fun r _ => Bool.and_comm _ _

lemma upTo_append_of_le (h : x.capturedAt ≤ second) :
    upTo second (rows ++ [x])=upTo second rows ++ [x] := by
  simp [upTo,List.filter_append,h]

lemma upTo_append_of_lt (h : second < x.capturedAt) :
    upTo second (rows ++ [x])=upTo second rows := by
  simp [upTo,List.filter_append,h]

lemma since_append_of_le (h : x.capturedAt ≤ second) :
    since second (rows ++ [x])=since second rows := by
  simp [since,List.filter_append,h]

lemma since_append_of_lt (h : second < x.capturedAt) :
    since second (rows ++ [x])=since second rows ++ [x] := by
  simp [since,List.filter_append,h]

lemma since_of_le (h : ∀ r ∈ rows, r.capturedAt ≤ second) : since second rows=[] :=
  List.filter_eq_nil_iff.mpr fun r hr => by simpa using h r hr

/-- Up to an instant and after it. -/
lemma upTo_append_since (h : Ordered rows) (second : ℤ) :
    upTo second rows ++ since second rows=rows := by
  induction rows using List.reverseRecOn with
  | nil => rfl
  | append_singleton rows x ih =>
    by_cases hx : x.capturedAt ≤ second
    · have hold : ∀ r ∈ rows, r.capturedAt ≤ second := fun r hr => (h.last r hr).trans hx
      have ih := ih (List.pairwise_append.mp h).1
      rw [since_of_le hold,List.append_nil] at ih
      rw [upTo_append_of_le hx,since_append_of_le hx,since_of_le hold,List.append_nil,ih]
    · rw [upTo_append_of_lt (by omega),since_append_of_lt (by omega),← List.append_assoc,
        ih (List.pairwise_append.mp h).1]

end Lists

/-- The checkpoints of one identity, unpruned and stored, as far as a report from an instant on
is concerned. -/
structure Kept (start clock : ℤ) (full stored : List Checkpoint) : Prop where
  fullOrdered : Ordered full
  storedOrdered : Ordered stored
  fullBound : ∀ r ∈ full, r.capturedAt ≤ clock
  storedBound : ∀ r ∈ stored, r.capturedAt ≤ clock
  named : ∀ r ∈ full, r.deviceName="" → r.ip=""
  last : ∀ r, stored.getLast?=some r → ∃ r', full.getLast?=some r' ∧ r.Alike r'
  inForce : upTo start stored≠[] ∨ upTo start full=[] →
    since start full=since start stored ∧
      ∀ r, (upTo start stored).getLast?=some r →
        ∃ r', (upTo start full).getLast?=some r' ∧ r.Alike r'

namespace Kept
variable {start clock cutoff : ℤ} {full stored : List Checkpoint} {x : Checkpoint}

lemma nil (start clock : ℤ) : Kept start clock [] [] where
  fullOrdered := .nil
  storedOrdered := .nil
  fullBound := by simp
  storedBound := by simp
  named := by simp
  last := by simp
  inForce := by simp [upTo,since]

lemma later {clock' : ℤ} (h : Kept start clock full stored) (hclock : clock ≤ clock') :
    Kept start clock' full stored :=
  { h with
    fullBound := fun r hr => (h.fullBound r hr).trans hclock
    storedBound := fun r hr => (h.storedBound r hr).trans hclock }

/-- Pruning before the start. -/
lemma prune (h : Kept start clock full stored) (hcutoff : cutoff ≤ start) :
    Kept start clock full (keptFrom cutoff stored) where
  fullOrdered := h.fullOrdered
  storedOrdered := h.storedOrdered.filter _
  fullBound := h.fullBound
  storedBound r hr := h.storedBound r (List.mem_filter.mp hr).1
  named := h.named
  last r hr := h.last r (keptFrom_getLast h.storedOrdered hr)
  inForce hkept := by
    have hbefore : upTo start stored≠[] ∨ upTo start full=[] := by
      refine hkept.imp_left fun hne hnil => hne ?_
      rw [upTo_keptFrom,hnil]; rfl
    obtain ⟨hsince,hlast⟩ := h.inForce hbefore
    refine ⟨hsince.trans (since_keptFrom hcutoff).symm,fun r hr => hlast r ?_⟩
    rw [upTo_keptFrom] at hr
    exact keptFrom_getLast (h.storedOrdered.filter _) hr

/-- A new checkpoint in both. -/
lemma addBoth (h : Kept start clock full stored) (hx : clock ≤ x.capturedAt)
    (hnamed : x.deviceName="" → x.ip="") :
    Kept start x.capturedAt (full ++ [x]) (stored ++ [x]) where
  fullOrdered := h.fullOrdered.append fun r hr => (h.fullBound r hr).trans hx
  storedOrdered := h.storedOrdered.append fun r hr => (h.storedBound r hr).trans hx
  fullBound := by
    intro r hr
    rcases List.mem_append.mp hr with hr | hr
    · exact (h.fullBound r hr).trans hx
    · rw [List.mem_singleton.mp hr]
  storedBound := by
    intro r hr
    rcases List.mem_append.mp hr with hr | hr
    · exact (h.storedBound r hr).trans hx
    · rw [List.mem_singleton.mp hr]
  named r hr := by
    rcases List.mem_append.mp hr with hr | hr
    · exact h.named r hr
    · rw [List.mem_singleton.mp hr]
      exact hnamed
  last r hr := by
    rw [List.getLast?_concat] at hr
    exact ⟨x,List.getLast?_concat,by rw [← Option.some.inj hr]; exact ⟨rfl,rfl⟩⟩
  inForce hkept := by
    by_cases hle : x.capturedAt ≤ start
    · have hf : ∀ r ∈ full, r.capturedAt ≤ start := fun r hr =>
        ((h.fullBound r hr).trans hx).trans hle
      have hs : ∀ r ∈ stored, r.capturedAt ≤ start := fun r hr =>
        ((h.storedBound r hr).trans hx).trans hle
      rw [since_append_of_le hle,since_append_of_le hle,since_of_le hf,since_of_le hs]
      refine ⟨rfl,fun r hr => ⟨x,?_,?_⟩⟩
      · rw [upTo_append_of_le hle,List.getLast?_concat]
      · rw [upTo_append_of_le hle,List.getLast?_concat] at hr
        rw [← Option.some.inj hr]
        exact ⟨rfl,rfl⟩
    · have hlt : start < x.capturedAt := by omega
      rw [upTo_append_of_lt hlt,upTo_append_of_lt hlt] at hkept ⊢
      rw [since_append_of_lt hlt,since_append_of_lt hlt]
      obtain ⟨hsince,hlast⟩ := h.inForce hkept
      exact ⟨by rw [hsince],hlast⟩

/-- A checkpoint that only the pruned store needs again. -/
lemma addStored (h : Kept start clock full stored) (hx : clock ≤ x.capturedAt)
    (hstored : stored=[]) {r : Checkpoint} (hr : full.getLast?=some r) (hsame : x.Alike r) :
    Kept start x.capturedAt full [x] where
  fullOrdered := h.fullOrdered
  storedOrdered := List.pairwise_singleton _ _
  fullBound r hr := (h.fullBound r hr).trans hx
  storedBound := by
    intro r hr
    rw [List.mem_singleton.mp hr]
  named := h.named
  last r' hr' := ⟨r,hr,by rw [← Option.some.inj hr']; exact hsame⟩
  inForce hkept := by
    by_cases hle : x.capturedAt ≤ start
    · have hf : ∀ r ∈ full, r.capturedAt ≤ start := fun r hr =>
        ((h.fullBound r hr).trans hx).trans hle
      have hall : upTo start full=full := List.filter_eq_self.mpr fun r hr => by
        simpa using hf r hr
      have hone : upTo start [x]=[x] := by simp [upTo,hle]
      have hnone : since start [x]=[] := by simp [since,hle]
      rw [hnone,since_of_le hf,hone,hall]
      exact ⟨rfl,fun r' hr' => ⟨r,hr,by rw [← Option.some.inj hr']; exact hsame⟩⟩
    · have hlt : start < x.capturedAt := by omega
      have hnone : upTo start [x]=[] := by simp [upTo,hlt]
      rw [hnone] at hkept
      have hempty : upTo start full=[] := hkept.resolve_left (by simp)
      obtain ⟨hsince,-⟩ := h.inForce (.inr hempty)
      have hsplit := upTo_append_since h.fullOrdered start
      rw [hempty,hsince,hstored] at hsplit
      rw [← hsplit] at hr
      cases hr

end Kept

/-- The checkpoints of an address and an identity, in the order of their numbers. -/
def historyOf (ip identityId : String) (history : Table Checkpoint) : List Checkpoint :=
  (history.select fun _ r => r.belongs ip (some identityId)).map Prod.snd

section Latest

/-- In ordered rows the latest checkpoint is the last one. -/
lemma latest_ordered {rows : List (ℕ × Checkpoint)} (h : Ordered (rows.map Prod.snd)) :
    latest rows=rows.getLast? := by
  induction rows using List.reverseRecOn with
  | nil => rfl
  | append_singleton rows r ih =>
    rw [List.map_append] at h
    have hrows := ih (List.pairwise_append.mp h).1
    unfold latest at hrows ⊢
    rw [List.foldl_append,hrows,List.getLast?_concat]
    cases hlast : rows.getLast? with
    | none => rfl
    | some b =>
      have hmem : b.2 ∈ rows.map Prod.snd :=
        List.mem_map.mpr ⟨b,List.mem_of_getLast? hlast,rfl⟩
      exact if_pos (h.last b.2 hmem)

end Latest

section Record
variable {hasher : Hasher} {call : RecordCall} {history history' : Table Checkpoint}
  {ip identityId : String} {delete : Table Checkpoint → Table Checkpoint}

lemma historyOf_insert (x : Checkpoint) :
    historyOf ip identityId (history.insert x)=
      if x.belongs ip (some identityId) then historyOf ip identityId history ++ [x]
      else historyOf ip identityId history := by
  unfold historyOf Table.select
  change ((history.rows ++ [_]).filter _).map _=_
  rw [List.filter_append]
  split_ifs with hx <;> simp [hx]

lemma historyOf_delete (cutoff : ℤ) :
    historyOf ip identityId (history.delete fun _ r => r.capturedAt < cutoff)=
      keptFrom cutoff (historyOf ip identityId history) := by
  unfold historyOf keptFrom Table.select
  change ((history.rows.filter _).filter _).map _=_
  rw [List.filter_filter,List.filter_map,List.filter_filter]
  congr 1
  refine List.filter_congr fun r _ => ?_
  dsimp only [Function.comp]
  rw [Bool.and_comm]
  by_cases hr : r.2.capturedAt < cutoff
  · have hle : ¬cutoff ≤ r.2.capturedAt := by omega
    simp [hr,hle]
  · have hle : cutoff ≤ r.2.capturedAt := by omega
    simp [hr,hle]

/-- Whether the last checkpoint of an identity is like the one that a call would insert. -/
def repeats (hasher : Hasher) (call : RecordCall) (rows : List Checkpoint) : Bool :=
  rows.getLast?.any fun r => r.same (call.checkpoint hasher)

/-- A recorded call: it repeats the last checkpoint of its identity, or inserts one. -/
lemma recordWith_ok {created : Bool}
    (hordered : Ordered (historyOf call.address call.identityId history))
    (h : recordWith delete hasher call history=.ok (created,history')) :
    history'=if repeats hasher call (historyOf call.address call.identityId history) then history
      else delete (history.insert (call.checkpoint hasher)) := by
  unfold recordWith at h
  split_ifs at h
  dsimp only at h
  change (if (latest (history.select fun _ r => r.belongs call.address
    (some call.identityId))).any _ then _ else _)=_ at h
  rw [latest_ordered hordered] at h
  have hrepeats : repeats hasher call (historyOf call.address call.identityId history)=
      (history.select fun _ r => r.belongs call.address (some call.identityId)).getLast?.any
        fun r => r.2.same (call.checkpoint hasher) := by
    unfold repeats historyOf
    rw [List.getLast?_map,Option.any_map]
  rw [hrepeats]
  split_ifs at h ⊢ <;> cases h <;> rfl

end Record

section Calls
variable (hasher : Hasher) (setting : Option String)

/-- The stored history after one call. -/
def RecordCall.store (call : RecordCall) (history : Table Checkpoint) : Table Checkpoint :=
  match recordPolicyState hasher setting call history with
  | .ok (_,history) => history
  | .error _ => history

/-- The never-pruned history after one call. -/
def RecordCall.storeAll (call : RecordCall) (history : Table Checkpoint) : Table Checkpoint :=
  match recordWith id hasher call history with
  | .ok (_,history) => history
  | .error _ => history

/-- The stored history after all calls. -/
def storedHistory (calls : List RecordCall) : Table Checkpoint :=
  after (RecordCall.store hasher setting) calls .empty

/-- The never-pruned history after all calls. -/
def fullHistory (calls : List RecordCall) : Table Checkpoint :=
  after (RecordCall.storeAll hasher) calls .empty

end Calls

/-- Calls at instants and wall clocks that never go back. -/
def NonDecreasing (calls : List RecordCall) : Prop :=
  calls.Pairwise fun c c' => c.capturedAt.getD c.now ≤ c'.capturedAt.getD c'.now ∧ c.now ≤ c'.now

instance (calls : List RecordCall) : Decidable (NonDecreasing calls) :=
  inferInstanceAs (Decidable (calls.Pairwise _))

section Step
variable {hasher : Hasher} {setting : Option String} {call : RecordCall}
  {full stored : Table Checkpoint} {ip identityId : String} {start clock : ℤ}

lemma RecordCall.checkpoint_belongs :
    (call.checkpoint hasher).belongs ip (some identityId) ↔
      call.address=ip ∧ call.identityId=identityId := by
  unfold Checkpoint.belongs
  rw [Option.all_some,Bool.and_eq_true]
  exact and_congr decide_eq_true_iff decide_eq_true_iff

lemma RecordCall.checkpoint_named :
    (call.checkpoint hasher).deviceName="" → (call.checkpoint hasher).ip="" := by
  change call.deviceName="" → call.address=""
  unfold deviceName orElse
  split_ifs with hblank
  · exact id
  · exact fun h => absurd h hblank

/-- A checkpoint that a call repeats is like the one it would insert. -/
lemma RecordCall.alike_of_same {r : Checkpoint} (hip : r.ip=call.address)
    (hnamed : r.deviceName="" → r.ip="") (h : r.same (call.checkpoint hasher)) :
    (call.checkpoint hasher).Alike r := by
  obtain ⟨hhash,hname⟩ := Bool.and_eq_true_iff.mp h
  refine ⟨(of_decide_eq_true hhash).symm,?_⟩
  rw [← of_decide_eq_true hname]
  unfold orElse
  split_ifs with hblank
  · rw [hblank]
    exact hip.symm.trans (hnamed hblank)
  · rfl

/-- One call, on the stored checkpoints of every identity and on the unpruned ones. -/
lemma kept_call (hcutoff : retentionCutoff setting call.now ≤ start)
    (hclock : clock ≤ call.second)
    (h : ∀ ip identityId, Kept start clock (historyOf ip identityId full)
      (historyOf ip identityId stored)) (ip identityId : String) :
    Kept start call.second (historyOf ip identityId (call.storeAll hasher full))
      (historyOf ip identityId (call.store hasher setting stored)) := by
  have hown := h call.address call.identityId
  by_cases hip : (hasher.ipAddress call.address).isNone
  · have hall : call.storeAll hasher full=full := by
      simp only [RecordCall.storeAll,recordWith,if_pos hip]
    have hstore : call.store hasher setting stored=stored := by
      simp only [RecordCall.store,recordPolicyState,recordWith,if_pos hip]
    rw [hall,hstore]
    exact (h ip identityId).later hclock
  have hall : call.storeAll hasher full=
      if repeats hasher call (historyOf call.address call.identityId full) then full
      else full.insert (call.checkpoint hasher) := by
    cases hrecord : recordWith id hasher call full with
    | error e => simp only [recordWith,if_neg hip] at hrecord; split_ifs at hrecord
    | ok r =>
      simp only [RecordCall.storeAll,hrecord]
      exact recordWith_ok hown.fullOrdered hrecord
  have hstore : call.store hasher setting stored=
      if repeats hasher call (historyOf call.address call.identityId stored) then stored
      else (stored.insert (call.checkpoint hasher)).delete
        fun _ r => r.capturedAt < retentionCutoff setting call.now := by
    cases hrecord : recordPolicyState hasher setting call stored with
    | error e =>
      simp only [recordPolicyState,recordWith,if_neg hip] at hrecord; split_ifs at hrecord
    | ok r =>
      simp only [RecordCall.store,hrecord]
      exact recordWith_ok hown.storedOrdered hrecord
  rw [hall,hstore]
  by_cases hrepeats : repeats hasher call (historyOf call.address call.identityId stored)
  · have hfull : repeats hasher call (historyOf call.address call.identityId full) := by
      unfold repeats at hrepeats ⊢
      cases hlast : (historyOf call.address call.identityId stored).getLast? with
      | none => rw [hlast] at hrepeats; cases hrepeats
      | some r =>
        obtain ⟨r',hr',halike⟩ := hown.last r hlast
        rw [hlast] at hrepeats
        rw [hr']
        exact (Checkpoint.same_alike halike).symm.trans hrepeats
    rw [if_pos hrepeats,if_pos hfull]
    exact (h ip identityId).later hclock
  rw [if_neg hrepeats,historyOf_delete,historyOf_insert]
  refine Kept.prune ?_ hcutoff
  by_cases hbelongs : (call.checkpoint hasher).belongs ip (some identityId)
  · obtain ⟨rfl,rfl⟩ := RecordCall.checkpoint_belongs.mp hbelongs
    rw [if_pos hbelongs]
    by_cases hfull : repeats hasher call (historyOf call.address call.identityId full)
    · rw [if_pos hfull]
      unfold repeats at hfull
      cases hlast : (historyOf call.address call.identityId full).getLast? with
      | none => rw [hlast] at hfull; cases hfull
      | some r =>
        rw [hlast] at hfull
        have hr := List.mem_of_getLast? hlast
        have hip : r.ip=call.address := by
          obtain ⟨⟨k,r'⟩,hr',rfl⟩ := List.mem_map.mp hr
          exact of_decide_eq_true (Bool.and_eq_true_iff.mp (List.mem_filter.mp hr').2).1
        have halike := RecordCall.alike_of_same hip (hown.named r hr) hfull
        have hempty : historyOf call.address call.identityId stored=[] := by
          refine List.getLast?_eq_none_iff.mp ?_
          cases hstored : (historyOf call.address call.identityId stored).getLast? with
          | none => rfl
          | some q =>
            obtain ⟨q',hq',hsame⟩ := hown.last q hstored
            obtain rfl : r=q' := Option.some.inj (hlast.symm.trans hq')
            unfold repeats at hrepeats
            rw [hstored] at hrepeats
            exact absurd ((Checkpoint.same_alike hsame).trans hfull) hrepeats
        rw [hempty,List.nil_append]
        exact hown.addStored hclock hempty hlast halike
    · rw [if_neg hfull,historyOf_insert,if_pos hbelongs]
      exact hown.addBoth hclock RecordCall.checkpoint_named
  · rw [if_neg hbelongs]
    have hother : historyOf ip identityId (if repeats hasher call
        (historyOf call.address call.identityId full) then full
        else full.insert (call.checkpoint hasher))=historyOf ip identityId full := by
      split_ifs
      · rfl
      · rw [historyOf_insert,if_neg hbelongs]
    rw [hother]
    exact (h ip identityId).later hclock

/-- A history of calls that never go back, each of which prunes before the start only. -/
theorem kept_calls {calls : List RecordCall} {last : ℤ} (h : NonDecreasing calls)
    (hclock : ∀ c ∈ calls, clock ≤ c.second)
    (hlast : ∀ c ∈ calls, c.second ≤ last) (hle : clock ≤ last)
    (hcutoff : ∀ c ∈ calls, retentionCutoff setting c.now ≤ start)
    (hkept : ∀ ip identityId, Kept start clock (historyOf ip identityId full)
      (historyOf ip identityId stored)) (ip identityId : String) :
    Kept start last (historyOf ip identityId (after (RecordCall.storeAll hasher) calls full))
      (historyOf ip identityId (after (RecordCall.store hasher setting) calls stored)) := by
  induction calls generalizing full stored clock with
  | nil => exact (hkept ip identityId).later hle
  | cons call calls ih =>
    obtain ⟨hnext,hcalls⟩ := List.pairwise_cons.mp h
    refine ih hcalls (fun c hc => ?_) (fun c hc => hlast c (List.mem_cons_of_mem _ hc))
      (hlast call List.mem_cons_self) (fun c hc => hcutoff c (List.mem_cons_of_mem _ hc))
      (kept_call (hcutoff call List.mem_cons_self) (hclock call List.mem_cons_self) hkept)
    exact Int.ediv_le_ediv (by decide) (hnext c hc).1

end Step
end ZenControl.PolicyHistory
