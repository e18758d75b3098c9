import Mathlib.Data.Set.Basic
import Mathlib.Algebra.BigOperators.Group.List.Basic
import Mathlib.Order.Basic

/-! A half-open interval of a linear order, cut at finitely many points. The pieces between
neighbouring cuts follow one another, and what is summed over the interval is summed over its
pieces. -/
namespace Cuttings
variable {α : Type*}

/-- The pieces that cuts in their order make of the interval from the first of them on. -/
def pieces (stop : α) : List α → List (α × α)
  | [] => []
  | cut::cuts => (cut,cuts.headD stop)::pieces stop cuts

@[simp] lemma map_fst_pieces (stop : α) (cuts : List α) :
    (pieces stop cuts).map Prod.fst=cuts := by
  induction cuts with
  | nil => rfl
  | cons cut cuts ih => rw [pieces,List.map_cons,ih]

lemma headD_mem (stop : α) (cuts : List α) : cuts.headD stop ∈ cuts ∨ cuts.headD stop=stop := by
  cases cuts with
  | nil => exact .inr rfl
  | cons cut cuts => exact .inl List.mem_cons_self

section Order
variable [LinearOrder α] {stop : α} {cuts : List α}

/-- Two cuts, or the last cut and the end, without a cut between them. -/
structure Neighbours (cuts : Set α) (stop a b : α) : Prop where
  first : a ∈ cuts
  last : b ∈ cuts ∨ b=stop
  lt : a < b
  apart : ∀ c ∈ cuts, c ≤ a ∨ b ≤ c

/-- Cuts in increasing order, all of them before the end. -/
structure Increasing (stop : α) (cuts : List α) : Prop where
  sorted : cuts.Pairwise (· < ·)
  before : ∀ c ∈ cuts, c < stop

lemma Increasing.tail {cut : α} (h : Increasing stop (cut::cuts)) : Increasing stop cuts where
  sorted := (List.pairwise_cons.mp h.sorted).2
  before c hc := h.before c (List.mem_cons_of_mem cut hc)

lemma Increasing.lt_headD {cut : α} (h : Increasing stop (cut::cuts)) : cut < cuts.headD stop := by
  cases cuts with
  | nil => exact h.before cut List.mem_cons_self
  | cons next cuts => exact (List.pairwise_cons.mp h.sorted).1 next List.mem_cons_self

lemma Increasing.headD_le {c : α} (h : Increasing stop cuts) (hc : c ∈ cuts) :
    cuts.headD stop ≤ c := by
  cases cuts with
  | nil => cases hc
  | cons cut cuts =>
    rcases List.mem_cons.mp hc with rfl | hc
    · exact le_refl _
    · exact ((List.pairwise_cons.mp h.sorted).1 c hc).le

lemma Increasing.headD_le_stop (h : Increasing stop cuts) : cuts.headD stop ≤ stop := by
  rcases headD_mem stop cuts with hin | hend
  · exact (h.before _ hin).le
  · exact hend.le

/-- The pieces are the pairs of neighbours. -/
theorem mem_pieces (h : Increasing stop cuts) (a b : α) :
    (a,b) ∈ pieces stop cuts ↔ Neighbours {c | c ∈ cuts} stop a b := by
  induction cuts with
  | nil => exact iff_of_false List.not_mem_nil fun hp => absurd hp.first List.not_mem_nil
  | cons cut cuts ih =>
    have hlt := (List.pairwise_cons.mp h.sorted).1
    rw [pieces,List.mem_cons,ih h.tail,Prod.mk.injEq]
    constructor
    · rintro (⟨rfl,rfl⟩ | hp)
      · refine ⟨List.mem_cons_self,(headD_mem stop cuts).imp_left (List.mem_cons_of_mem a),
          h.lt_headD,fun c hc => ?_⟩
        rcases List.mem_cons.mp hc with rfl | hc
        · exact .inl (le_refl c)
        · exact .inr (h.tail.headD_le hc)
      · refine ⟨List.mem_cons_of_mem cut hp.first,hp.last.imp_left (List.mem_cons_of_mem cut),
          hp.lt,fun c hc => ?_⟩
        rcases List.mem_cons.mp hc with rfl | hc
        · exact .inl (hlt a hp.first).le
        · exact hp.apart c hc
    · intro hp
      have hapart : ∀ c ∈ cuts, c ≤ a ∨ b ≤ c := fun c hc =>
        hp.apart c (List.mem_cons_of_mem cut hc)
      have hlast : b ∈ cuts ∨ b=stop := by
        refine hp.last.imp_left fun hb => (List.mem_cons.mp hb).resolve_left fun heq => ?_
        rcases List.mem_cons.mp hp.first with hfirst | ha
        · exact hp.lt.ne (hfirst.trans heq.symm)
        · exact lt_asymm hp.lt (heq ▸ hlt a ha)
      rcases List.mem_cons.mp hp.first with rfl | ha
      · have hle : ∀ c ∈ cuts, b ≤ c := fun c hc =>
          (hapart c hc).resolve_left (not_le.mpr (hlt c hc))
        refine .inl ⟨rfl,le_antisymm ?_ ?_⟩
        · rcases headD_mem stop cuts with hin | hend
          · exact hle _ hin
          · rw [hend]
            exact hlast.elim (fun hb => (h.tail.before b hb).le) le_of_eq
        · rcases hlast with hb | rfl
          · exact h.tail.headD_le hb
          · exact h.tail.headD_le_stop
      · exact .inr ⟨ha,hlast,hp.lt,hapart⟩

end Order

section Sums
variable [LinearOrder α] {β M : Type*} [AddCommMonoid M] (place : β → α) (weight : β → M)
  (rows : List β)

/-- The weight of the rows in a half-open interval. -/
def weightIn (first last : α) : M :=
  ((rows.filter fun r => first ≤ place r && place r < last).map weight).sum

lemma weightIn_split {a b c : α} (hab : a ≤ b) (hbc : b ≤ c) :
    weightIn place weight rows a c=weightIn place weight rows a b+weightIn place weight rows b c := by
  unfold weightIn
  induction rows with
  | nil => simp
  | cons r rows ih =>
    by_cases hb : place r < b
    · have hc : place r < c := hb.trans_le hbc
      have hn : ¬b ≤ place r := not_le.mpr hb
      by_cases ha : a ≤ place r <;> simp [ha,hb,hc,hn,ih,add_assoc]
    · have hn : b ≤ place r := not_lt.mp hb
      have ha : a ≤ place r := hab.trans hn
      by_cases hc : place r < c <;> simp [ha,hb,hc,hn,ih,add_left_comm]

variable {stop : α} {cuts : List α}

/-- The weight of an interval is the weight of its pieces. -/
theorem sum_pieces (h : Increasing stop cuts) :
    ((pieces stop cuts).map fun p => weightIn place weight rows p.1 p.2).sum=
      weightIn place weight rows (cuts.headD stop) stop := by
  induction cuts with
  | nil =>
    have hnone : (rows.filter fun r => stop ≤ place r && place r < stop)=[] :=
      List.filter_eq_nil_iff.mpr fun r _ => by simp
    simp [pieces,weightIn,hnone]
  | cons cut cuts ih =>
    rw [pieces,List.map_cons,List.sum_cons,ih h.tail,List.headD_cons,
      ← weightIn_split place weight rows h.lt_headD.le
        h.tail.headD_le_stop]

end Sums
end Cuttings
