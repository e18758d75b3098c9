import ZenControl.Library.Transactions

/-! Runs with what the threads have seen. The committed states that a thread reads outside its
transactions are recorded, and those that its transactions leave, so that a condition on a write
may compare the state that the write finds with those that its thread has seen before. -/
namespace Calls

section Records
variable {ι C σ : Type} [DecidableEq ι]

/-- The states that each thread has seen, the last one first. -/
abbrev Views (ι σ : Type) := ι → List σ

/-- What a step shows thread `i` is added to its record. -/
def Views.note (views : Views ι σ) (i : ι) (seen : Option σ) : Views ι σ :=
  Function.update views i (seen.toList ++ views i)

/-- A step with the record of what the threads see. -/
def Noting (step : ι → C → C → Prop) (see : C → C → ι → Option σ) (i : ι)
    (a b : C × Views ι σ) : Prop :=
  step i a.1 b.1 ∧ b.2=a.2.note i (see a.1 b.1 i)

@[simp] lemma Views.note_none (views : Views ι σ) (i : ι) : views.note i none=views := by
  simp [note]

@[simp] lemma Views.note_some_self (views : Views ι σ) (i : ι) (s : σ) :
    views.note i (some s) i=s :: views i := by simp [note]

lemma Views.note_other (views : Views ι σ) {i j : ι} (h : j≠i) (seen : Option σ) :
    views.note i seen j=views j := Function.update_of_ne h _ _

end Records

section Atomicity
variable {ι σ ε α : Type} [DecidableEq ι]

/-- A condition on a statement that a thread makes outside its transactions: what the thread has
seen, its code and the committed state. -/
abbrev ViewGuard (ι σ ε α : Type) := ι → List σ → SqlProg σ ε α → σ → Prop

namespace ViewGuard

/-- The guard with the present record. -/
def given (guard : ViewGuard ι σ ε α) (views : Views ι σ) : Guard ι σ ε α :=
  fun i p s => guard i (views i) p s

def step (guard : ViewGuard ι σ ε α) (i : ι)
    (c : Config ι (Sql σ ε) Sql.Answer ε α (Database ι σ) × Views ι σ) : Prop :=
  (guard.given c.2).step i c.1

def atomic (guard : ViewGuard ι σ ε α) (i : ι)
    (a : Config ι (Sql σ ε) Sql.Answer ε α σ × Views ι σ) : Prop :=
  (guard.given a.2).atomic i a.1

end ViewGuard

/-- The allowed runs of the threads with the record. -/
abbrev Watched (guard : ViewGuard ι σ ε α) :
    Config ι (Sql σ ε) Sql.Answer ε α (Database ι σ) × Views ι σ →
      Config ι (Sql σ ε) Sql.Answer ε α (Database ι σ) × Views ι σ → Prop :=
  Run (Noting (Config.Step Database.serve) Config.learns) guard.step

abbrev WatchedAtomic (guard : ViewGuard ι σ ε α) :
    Config ι (Sql σ ε) Sql.Answer ε α σ × Views ι σ →
      Config ι (Sql σ ε) Sql.Answer ε α σ × Views ι σ → Prop :=
  Run (Noting AtomicStep Config.gathers) guard.atomic

variable {guard : ViewGuard ι σ ε α}

/-- A run whose steps all meet the guard is watched. -/
lemma Watched.of_run (guard : ViewGuard ι σ ε α)
    {ok : ι → Config ι (Sql σ ε) Sql.Answer ε α (Database ι σ) → Prop}
    (hok : ∀ i c views, ok i c → guard.step i (c,views))
    {c d : Config ι (Sql σ ε) Sql.Answer ε α (Database ι σ)}
    (run : Run (Config.Step Database.serve) ok c d) (views : Views ι σ) :
    ∃ views', Watched guard (c,views) (d,views') := by
  induction run with
  | refl => exact ⟨views,.refl⟩
  | @step d e i _ allowed next ih =>
    obtain ⟨views',hwatched⟩ := ih
    exact ⟨views'.note i (d.learns e i),hwatched.step (hok _ _ _ allowed) ⟨next,rfl⟩⟩

/-- A thread that has been shown a committed state holds no lock. -/
lemma learns_transaction {i : ι} {s : σ}
    {c d : Config ι (Sql σ ε) Sql.Answer ε α (Database ι σ)} (h : c.learns d i=some s)
    (next : Config.Step Database.serve i c d) : d.shared.transaction i=none := by
  obtain ⟨stmt,k,r,g',hcode,hserve,rfl⟩ := next.inv
  unfold Config.learns at h
  split at h
  · split_ifs at h with hnone
    exact Option.isNone_iff_eq_none.mp hnone
  · rename_i hnone
    rw [hcode] at h
    cases stmt with
    | select =>
      cases hserve
      exact hnone
    | _ => cases h

/-- A record of a thread that holds no lock matters to no open transaction. -/
lemma Matches.note {i : ι} {views : Views ι σ}
    {d : Config ι (Sql σ ε) Sql.Answer ε α (Database ι σ)}
    {b : Config ι (Sql σ ε) Sql.Answer ε α σ} (hm : Matches (guard.given views) d b)
    {seen : Option σ} (h : ∀ s, seen=some s → d.shared.transaction i=none) :
    Matches (guard.given (views.note i seen)) d b := by
  cases seen with
  | none => rwa [Views.note_none]
  | some s =>
    have hnone := h s rfl
    obtain ⟨⟨db,writing⟩,code⟩ := d
    rcases writing with _ | ⟨j,w⟩
    · exact hm
    · obtain ⟨hdb,hother,hopens,hguard,hrest⟩ := hm
      have hij : j≠i := by
        rintro rfl
        simp [Database.transaction] at hnone
      refine ⟨hdb,hother,hopens,?_,hrest⟩
      simpa only [ViewGuard.given,views.note_other hij] using hguard

/-- Transactions are atomic: every watched run that meets the guard is matched by a watched run
of the atomic machine that meets it, with the same record. -/
theorem Matches.run {c d : Config ι (Sql σ ε) Sql.Answer ε α (Database ι σ) × Views ι σ}
    {a : Config ι (Sql σ ε) Sql.Answer ε α σ} (hm : Matches (guard.given c.2) c.1 a)
    (h : Watched guard c d) :
    ∃ b, WatchedAtomic guard (a,c.2) (b,d.2) ∧ Matches (guard.given d.2) d.1 b := by
  induction h with
  | refl => exact ⟨a,.refl,hm⟩
  | @step d e i _ allowed next ih =>
    obtain ⟨b,hab,hb⟩ := ih
    obtain ⟨hstep,hviews⟩ := next
    obtain ⟨b',hfollows,hb'⟩ := hb.step allowed hstep
    rw [hviews]
    refine ⟨b',?_,hb'.note fun s hs => learns_transaction hs hstep⟩
    rcases hfollows with ⟨rfl,hnone⟩ | ⟨hguard,hatomic,hsees⟩
    · rw [hnone,Views.note_none]
      exact hab
    · refine hab.step hguard ⟨hatomic,?_⟩
      rw [hsees]

end Atomicity

section Schedules
variable {ι σ ε α : Type} [DecidableEq ι]

/-- Let the threads of a schedule make their next statements in turn, with the record; there is no
result when one of them has ended, has to wait or fails the check `ok`. -/
def watch (ok : ι → List σ → Config ι (Sql σ ε) Sql.Answer ε α (Database ι σ) → Bool) :
    List ι → Config ι (Sql σ ε) Sql.Answer ε α (Database ι σ) × Views ι σ →
    Option (Config ι (Sql σ ε) Sql.Answer ε α (Database ι σ) × Views ι σ)
  | [], c => some c
  | i::is, (c,views) =>
    match ok i (views i) c, c.code i with
    | true, .call stmt k =>
      match Database.serve i stmt c.shared with
      | none => none
      | some (r,g) =>
        let d := ⟨g,Function.update c.code i (k r)⟩
        watch ok is (d,views.note i (c.learns d i))
    | _, _ => none

/-- A schedule that can be watched is a run. -/
theorem watch_run {guard : ViewGuard ι σ ε α}
    {ok : ι → List σ → Config ι (Sql σ ε) Sql.Answer ε α (Database ι σ) → Bool}
    (hok : ∀ i views c, ok i (views i) c → guard.step i (c,views)) {is : List ι}
    {c d : Config ι (Sql σ ε) Sql.Answer ε α (Database ι σ) × Views ι σ}
    (h : watch ok is c=some d) : Watched guard c d := by
  induction is generalizing c with
  | nil =>
    cases h
    exact .refl
  | cons i is ih =>
    obtain ⟨c,views⟩ := c
    simp only [watch] at h
    split at h
    · rename_i stmt k hcheck hcode
      split at h
      · contradiction
      · rename_i r g hserve
        have hfirst : Watched guard (c,views)
            (⟨g,Function.update c.code i (k r)⟩,
              views.note i (c.learns ⟨g,Function.update c.code i (k r)⟩ i)) :=
          Run.refl.step (hok i views c hcheck) ⟨.call hcode hserve,rfl⟩
        exact hfirst.trans (ih h)
    · contradiction

end Schedules
end Calls
