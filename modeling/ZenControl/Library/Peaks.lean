import Mathlib.Algebra.BigOperators.Group.Finset.Basic
import Mathlib.Algebra.Order.BigOperators.Group.Finset
import Mathlib.Algebra.Order.Ring.Nat
import Mathlib.Data.Finset.Dedup

/-! Highest amounts by key: a sheet keeps for each key the highest amount that was recorded for
it. Peaks depend on which entries there are, not on how often or in which order. -/
namespace Peaks
open scoped BigOperators
variable {κ : Type} [DecidableEq κ]

/-- The highest amount of a key, and 0 for a key without one. -/
def peak (k : κ) : List (κ × ℕ) → ℕ
  | [] => 0
  | e::entries => if e.1=k then max e.2 (peak k entries) else peak k entries

/-- The different keys of some entries. -/
def keySet (entries : List (κ × ℕ)) : Finset κ := (entries.map Prod.fst).toFinset

/-- The sum of the highest amounts of all keys. -/
def height (entries : List (κ × ℕ)) : ℕ := ∑ k ∈ keySet entries, peak k entries

/-- The entries whose keys were there before. -/
def repeats (entries : List (κ × ℕ)) : ℕ := entries.length-(keySet entries).card

attribute [grind =] peak keySet height repeats

section Amounts
variable {entries more : List (κ × ℕ)} {k : κ}

lemma mem_keySet : k ∈ keySet entries ↔ ∃ e ∈ entries, e.1=k := by simp [keySet]

lemma peak_le {n : ℕ} : peak k entries ≤ n ↔ ∀ e ∈ entries, e.1=k → e.2 ≤ n := by
  induction entries with
  | nil => simp [peak]
  | cons e entries ih =>
    by_cases hkey : e.1=k
    · simp [peak,hkey,ih]
    · simp [peak,hkey,ih]

lemma le_peak {e : κ × ℕ} (he : e ∈ entries) : e.2 ≤ peak e.1 entries :=
  peak_le.mp le_rfl e he rfl

/-- More entries have no lower peaks. -/
lemma peak_mono (h : entries ⊆ more) (k : κ) : peak k entries ≤ peak k more := by
  rw [peak_le]
  rintro e he rfl
  exact le_peak (h he)

lemma keySet_mono (h : entries ⊆ more) : keySet entries ⊆ keySet more := by
  intro k hk
  obtain ⟨e,he,hkey⟩ := mem_keySet.mp hk
  exact mem_keySet.mpr ⟨e,h he,hkey⟩

/-- More entries have no lower sum of peaks. -/
theorem height_mono (h : entries ⊆ more) : height entries ≤ height more :=
  calc
    height entries ≤ ∑ k ∈ keySet entries, peak k more :=
      Finset.sum_le_sum fun k _ => peak_mono h k
    _ ≤ height more := Finset.sum_le_sum_of_subset (keySet_mono h)

lemma card_keySet_le (entries : List (κ × ℕ)) : (keySet entries).card ≤ entries.length := by
  simpa [keySet] using List.toFinset_card_le (entries.map Prod.fst)

lemma keySet_append (entries more : List (κ × ℕ)) :
    keySet (entries ++ more)=keySet entries ∪ keySet more := by
  simp [keySet,List.toFinset_append]

lemma keySet_perm (h : entries.Perm more) : keySet entries=keySet more :=
  List.toFinset_eq_of_perm _ _ (h.map Prod.fst)

/-- More entries have no fewer repeats. -/
theorem repeats_mono (h : entries.Subperm more) : repeats entries ≤ repeats more := by
  obtain ⟨same,hsame,hsub⟩ := h
  obtain ⟨rest,hrest⟩ := hsub.exists_perm_append
  replace hrest := hrest.trans (hsame.append_right rest)
  have hcard : (keySet more).card ≤ (keySet entries).card+rest.length := by
    rw [keySet_perm hrest,keySet_append]
    exact (Finset.card_union_le _ _).trans (Nat.add_le_add_left (card_keySet_le rest) _)
  have hlength : more.length=entries.length+rest.length := by
    rw [hrest.length_eq,List.length_append]
  unfold repeats
  omega

end Amounts

section Splitting
variable (p : κ → Bool) (entries : List (κ × ℕ))

lemma peak_filter {k : κ} (hk : p k=true) :
    peak k (entries.filter fun e => p e.1)=peak k entries := by
  induction entries with
  | nil => rfl
  | cons e entries ih =>
    by_cases hp : p e.1=true
    · simp only [List.filter_cons,hp,if_true,peak,ih]
    · have hne : e.1≠k := fun heq => hp (heq ▸ hk)
      simp only [List.filter_cons,hp,peak,if_neg hne]
      exact ih

lemma keySet_filter :
    keySet (entries.filter fun e => p e.1)=(keySet entries).filter fun k => p k=true := by
  ext k
  simp only [mem_keySet,Finset.mem_filter,List.mem_filter]
  constructor
  · rintro ⟨e,⟨he,hp⟩,rfl⟩
    exact ⟨⟨e,he,rfl⟩,hp⟩
  · rintro ⟨⟨e,he,rfl⟩,hp⟩
    exact ⟨e,⟨he,hp⟩,rfl⟩

lemma height_filter :
    height (entries.filter fun e => p e.1)=
      ∑ k ∈ (keySet entries).filter (fun k => p k=true), peak k entries := by
  rw [height,keySet_filter]
  exact Finset.sum_congr rfl fun k hk => peak_filter p entries (Finset.mem_filter.mp hk).2

/-- The keys that meet a condition and the others have the sum of peaks between them. -/
theorem height_split :
    height entries=
      height (entries.filter fun e => p e.1)+height (entries.filter fun e => !p e.1) := by
  rw [height_filter,height_filter (fun k => !p k),height,
    ← Finset.sum_filter_add_sum_filter_not _ fun k => p k=true]
  congr 1
  exact Finset.sum_congr (Finset.filter_congr fun k _ => by simp) fun _ _ => rfl

end Splitting

section Renaming
variable {μ : Type} [DecidableEq μ] (f : κ → μ) (entries : List (κ × ℕ))

/-- Entries under other keys, with different keys kept apart. -/
theorem height_map (hf : ∀ d ∈ entries, ∀ e ∈ entries, f d.1=f e.1 → d.1=e.1) :
    height (entries.map fun e => (f e.1,e.2))=height entries := by
  have hkeys : keySet (entries.map fun e => (f e.1,e.2))=(keySet entries).image f := by
    ext k
    simp only [mem_keySet,Finset.mem_image,List.mem_map]
    constructor
    · rintro ⟨_,⟨e,he,rfl⟩,rfl⟩
      exact ⟨e.1,⟨e,he,rfl⟩,rfl⟩
    · rintro ⟨_,⟨e,he,rfl⟩,rfl⟩
      exact ⟨_,⟨e,he,rfl⟩,rfl⟩
  rw [height,hkeys,Finset.sum_image]
  · refine Finset.sum_congr rfl fun k hk => ?_
    obtain ⟨e,he,rfl⟩ := mem_keySet.mp hk
    refine le_antisymm (peak_le.mpr ?_) (peak_le.mpr fun d hd hkey => ?_)
    · intro m hm hkey
      obtain ⟨d,hd,rfl⟩ := List.mem_map.mp hm
      rw [← hf d hd e he hkey]
      exact le_peak hd
    · rw [← hkey]
      exact le_peak (e := (f d.1,d.2)) (List.mem_map.mpr ⟨d,hd,rfl⟩)
  · intro k hk l hl heq
    obtain ⟨d,hd,rfl⟩ := mem_keySet.mp hk
    obtain ⟨e,he,rfl⟩ := mem_keySet.mp hl
    exact hf d hd e he heq

end Renaming

section Sheets

/-- Keep the higher of two amounts of a key; a new key comes last. -/
def record (key : κ) (amount : ℕ) : List (κ × ℕ) → List (κ × ℕ)
  | [] => [(key,amount)]
  | e::sheet => if e.1=key then (key,max e.2 amount)::sheet else e::record key amount sheet

/-- Record several entries in turn. -/
def recordAll (entries sheet : List (κ × ℕ)) : List (κ × ℕ) :=
  entries.foldl (fun sheet e => record e.1 e.2 sheet) sheet

attribute [grind =] record recordAll

lemma peak_record (k key : κ) (amount : ℕ) (sheet : List (κ × ℕ)) :
    peak k (record key amount sheet)=
      if key=k then max (peak k sheet) amount else peak k sheet := by
  induction sheet with
  | nil => simp [record,peak]
  | cons e sheet ih =>
    unfold record
    split_ifs with hsame hkey hkey
    · simp [peak,hsame,hkey,max_right_comm]
    · simp [peak,hsame,hkey]
    · have hne : e.1≠k := fun heq => hsame (heq.trans hkey.symm)
      rw [peak,peak,if_neg hne,if_neg hne,ih,if_pos hkey]
    · rw [peak,peak,ih,if_neg hkey]

lemma keySet_record (key : κ) (amount : ℕ) (sheet : List (κ × ℕ)) :
    keySet (record key amount sheet)=insert key (keySet sheet) := by
  induction sheet with
  | nil => simp [record,keySet]
  | cons e sheet ih =>
    unfold record
    split_ifs with hsame
    · subst hsame
      simp [keySet]
    · simp only [keySet,List.map_cons,List.toFinset_cons] at ih ⊢
      rw [ih,Finset.insert_comm]

lemma nodup_record {key : κ} {amount : ℕ} {sheet : List (κ × ℕ)}
    (h : (sheet.map Prod.fst).Nodup) : ((record key amount sheet).map Prod.fst).Nodup := by
  induction sheet with
  | nil => simp [record]
  | cons e sheet ih =>
    obtain ⟨hnew,hrest⟩ := List.nodup_cons.mp h
    unfold record
    split_ifs with hsame
    · subst hsame
      exact h
    · refine List.nodup_cons.mpr ⟨fun hmem => ?_,ih hrest⟩
      have hkey : e.1 ∈ keySet (record key amount sheet) := List.mem_toFinset.mpr hmem
      rw [keySet_record] at hkey
      rcases Finset.mem_insert.mp hkey with heq | hold
      · exact hsame heq
      · exact hnew (List.mem_toFinset.mp hold)

/-- What a sheet holds once some entries were recorded on an empty one. -/
structure Records (sheet entries : List (κ × ℕ)) : Prop where
  nodup : (sheet.map Prod.fst).Nodup
  keys : keySet sheet=keySet entries
  peaks : ∀ k, peak k sheet=peak k entries

lemma Records.append {sheet entries : List (κ × ℕ)} (h : Records sheet entries) (e : κ × ℕ) :
    Records (record e.1 e.2 sheet) (entries ++ [e]) where
  nodup := nodup_record h.nodup
  keys := by
    rw [keySet_record,keySet_append,h.keys]
    simp [keySet]
  peaks k := by
    rw [peak_record,h.peaks]
    refine eq_of_forall_ge_iff fun n => ?_
    rw [peak_le]
    split_ifs with hkey
    · rw [max_le_iff,peak_le]
      constructor
      · rintro ⟨hold,hnew⟩ d hd hk
        rcases List.mem_append.mp hd with hd | hd
        · exact hold d hd hk
        · rwa [List.mem_singleton.mp hd]
      · intro hall
        exact ⟨fun d hd => hall d (List.mem_append_left _ hd),
          hall e (List.mem_append_right _ (List.mem_singleton_self e)) hkey⟩
    · rw [peak_le]
      constructor
      · intro hold d hd hk
        rcases List.mem_append.mp hd with hd | hd
        · exact hold d hd hk
        · exact absurd (List.mem_singleton.mp hd ▸ hk) hkey
      · intro hall d hd
        exact hall d (List.mem_append_left _ hd)

/-- Recording keeps exactly the peaks. -/
theorem records_recordAll (entries : List (κ × ℕ)) : Records (recordAll entries []) entries := by
  induction entries using List.reverseRecOn with
  | nil => exact ⟨List.nodup_nil,rfl,fun _ => rfl⟩
  | append_singleton entries e ih =>
    unfold recordAll at ih ⊢
    rw [List.foldl_append]
    exact ih.append e

lemma sum_of_nodup {sheet : List (κ × ℕ)} (h : (sheet.map Prod.fst).Nodup) :
    (sheet.map Prod.snd).sum=height sheet := by
  induction sheet with
  | nil => rfl
  | cons e sheet ih =>
    obtain ⟨hnew,hrest⟩ := List.nodup_cons.mp h
    have hfresh : e.1 ∉ keySet sheet := fun hmem => hnew (List.mem_toFinset.mp hmem)
    have hpeak : peak e.1 (e::sheet)=e.2 := by
      have hnone : peak e.1 sheet=0 := Nat.le_zero.mp (peak_le.mpr fun d hd hkey =>
        absurd (mem_keySet.mpr ⟨d,hd,hkey⟩) hfresh)
      simp [peak,hnone]
    have hothers : ∀ k ∈ keySet sheet, peak k (e::sheet)=peak k sheet := by
      intro k hk
      have hne : e.1≠k := fun heq => hfresh (heq ▸ hk)
      rw [peak,if_neg hne]
    rw [List.map_cons,List.sum_cons,ih hrest,height,height,
      show keySet (e::sheet)=insert e.1 (keySet sheet) from by simp [keySet],
      Finset.sum_insert hfresh,hpeak,Finset.sum_congr rfl hothers]

variable {sheet entries : List (κ × ℕ)}

/-- The amounts on a sheet sum up to the peaks. -/
theorem Records.sum (h : Records sheet entries) : (sheet.map Prod.snd).sum=height entries := by
  rw [sum_of_nodup h.nodup,height,height,h.keys]
  exact Finset.sum_congr rfl fun k _ => h.peaks k

/-- A sheet has one entry for each key. -/
theorem Records.length (h : Records sheet entries) : sheet.length=(keySet entries).card := by
  rw [← h.keys,keySet,List.toFinset_card_of_nodup h.nodup,List.length_map]

end Sheets
end Peaks
