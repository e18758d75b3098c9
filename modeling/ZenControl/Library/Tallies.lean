import Mathlib.Algebra.BigOperators.Group.List.Basic
import Mathlib.Tactic.Abel

/-! Amounts that are summed up by key: a sheet holds one entry for each key, and posting to it
adds to the entry of a key or opens one. -/
namespace Tallies

section Totals
variable {κ μ : Type}

/-- The keys of some entries. -/
def keys (entries : List (κ × μ)) : List κ := entries.map Prod.fst

variable [AddCommMonoid μ]

/-- The sum of the amounts whose keys meet a condition. -/
def total (p : κ → Bool) (entries : List (κ × μ)) : μ :=
  ((entries.filter fun e => p e.1).map Prod.snd).sum

/-- A sheet that sums up entries: it has one entry for each of their keys, with their sum. -/
structure Balances (sheet entries : List (κ × μ)) : Prop where
  nodup : (keys sheet).Nodup
  keys : ∀ k, k ∈ keys sheet ↔ k ∈ keys entries
  totals : ∀ p : κ → Bool, total p sheet=total p entries

lemma Balances.nil : Balances ([] : List (κ × μ)) [] :=
  ⟨List.nodup_nil,fun _ => Iff.rfl,fun _ => rfl⟩

variable (p : κ → Bool)

@[simp] lemma total_nil : total p ([] : List (κ × μ))=0 := rfl

lemma total_cons (e : κ × μ) (entries : List (κ × μ)) :
    total p (e::entries)=(if p e.1 then e.2 else 0)+total p entries := by
  unfold total
  by_cases h : p e.1 <;> simp [h]

lemma total_append (first second : List (κ × μ)) :
    total p (first ++ second)=total p first+total p second := by
  simp [total]

end Totals

section Sheets
variable {κ μ : Type} [DecidableEq κ] [AddCommMonoid μ]

/-- Add an amount to the entry of a key; a new entry comes last. -/
def post (key : κ) (amount : μ) : List (κ × μ) → List (κ × μ)
  | [] => [(key,amount)]
  | e::sheet => if e.1=key then (key,e.2+amount)::sheet else e::post key amount sheet

/-- Post several entries in turn. -/
def postAll (entries sheet : List (κ × μ)) : List (κ × μ) :=
  entries.foldl (fun sheet e => post e.1 e.2 sheet) sheet

variable (p : κ → Bool)

lemma total_post (key : κ) (amount : μ) (sheet : List (κ × μ)) :
    total p (post key amount sheet)=total p sheet+if p key then amount else 0 := by
  induction sheet with
  | nil => simp [post,total_cons]
  | cons e sheet ih =>
    unfold post
    split_ifs with hkey hp hp
    · subst hkey
      simp only [total_cons,hp,if_true]
      abel
    · subst hkey
      simp [total_cons,hp]
    · rw [total_cons,total_cons,ih,if_pos hp]
      abel
    · rw [total_cons,total_cons,ih,if_neg hp]
      abel

/-- Posting adds what is posted, whatever the keys. -/
theorem total_postAll (entries sheet : List (κ × μ)) :
    total p (postAll entries sheet)=total p sheet+total p entries := by
  induction entries generalizing sheet with
  | nil => simp [postAll]
  | cons e entries ih =>
    rw [total_cons,← add_assoc,← total_post]
    exact ih _

end Sheets

section Keys
variable {κ μ : Type} [DecidableEq κ] [AddCommMonoid μ]

lemma mem_keys_post {key k : κ} {amount : μ} {sheet : List (κ × μ)} :
    k ∈ keys (post key amount sheet) ↔ k ∈ keys sheet ∨ k=key := by
  induction sheet with
  | nil => simp [keys,post]
  | cons e sheet ih =>
    unfold post
    split_ifs with hkey
    · subst hkey
      simp only [keys,List.map_cons,List.mem_cons]
      tauto
    · simp only [keys,List.map_cons,List.mem_cons] at ih ⊢
      rw [ih,or_assoc]

lemma mem_keys_postAll {k : κ} {entries sheet : List (κ × μ)} :
    k ∈ keys (postAll entries sheet) ↔ k ∈ keys sheet ∨ k ∈ keys entries := by
  induction entries generalizing sheet with
  | nil => simp [postAll,keys]
  | cons e entries ih =>
    rw [postAll,List.foldl_cons,← postAll,ih,mem_keys_post]
    simp only [keys,List.map_cons,List.mem_cons]
    tauto

lemma nodup_post {key : κ} {amount : μ} {sheet : List (κ × μ)} (h : (keys sheet).Nodup) :
    (keys (post key amount sheet)).Nodup := by
  induction sheet with
  | nil => simp [keys,post]
  | cons e sheet ih =>
    obtain ⟨hnew,hrest⟩ := List.nodup_cons.mp h
    unfold post
    split_ifs with hkey
    · subst hkey
      exact List.nodup_cons.mpr ⟨hnew,hrest⟩
    · refine List.nodup_cons.mpr ⟨fun hmem => ?_,ih hrest⟩
      rcases mem_keys_post.mp hmem with hold | hsame
      · exact hnew hold
      · exact hkey hsame

lemma nodup_postAll {entries sheet : List (κ × μ)} (h : (keys sheet).Nodup) :
    (keys (postAll entries sheet)).Nodup := by
  induction entries generalizing sheet with
  | nil => exact h
  | cons e entries ih => exact ih (nodup_post h)

end Keys

section Balances
variable {κ μ : Type} [DecidableEq κ] [AddCommMonoid μ] {sheet entries : List (κ × μ)}

/-- Entries that are summed up on a sheet of their own before they are posted. -/
theorem Balances.post_summed (h : Balances sheet entries) (more : List (κ × μ)) :
    Balances (postAll (postAll more []) sheet) (entries ++ more) := by
  refine ⟨nodup_postAll h.nodup,fun k => ?_,fun p => ?_⟩
  · rw [mem_keys_postAll,mem_keys_postAll,h.keys]
    simp [Tallies.keys]
  · rw [total_postAll,total_postAll,total_nil,zero_add,h.totals,total_append]

/-- The entry of a key holds the sum of the amounts of the key. -/
theorem Balances.amount (h : Balances sheet entries) {e : κ × μ} (he : e ∈ sheet) :
    e.2=total (fun k => k=e.1) entries := by
  rw [← h.totals]
  have hnodup := h.nodup
  clear h
  induction sheet with
  | nil => cases he
  | cons f sheet ih =>
    obtain ⟨hnew,hrest⟩ := List.nodup_cons.mp hnodup
    rw [total_cons]
    rcases List.mem_cons.mp he with rfl | he
    · have hnone : total (fun k => decide (k=e.1)) sheet=0 := by
        unfold total
        rw [List.filter_eq_nil_iff.mpr]
        · rfl
        · intro f hf hsame
          exact hnew (List.mem_map.mpr ⟨f,hf,of_decide_eq_true hsame⟩)
      simp [hnone]
    · have hne : f.1≠e.1 := fun hsame => hnew (hsame ▸ List.mem_map_of_mem he)
      rw [if_neg (by simpa using hne),zero_add]
      exact ih he hrest

end Balances
end Tallies
