import Mathlib.Data.List.Induction
import ZenControl.Policy.Schedules

/-! What the resolver selects: the latest and most specific occurrences of a set, one decision
for each service, and the occurrences that it looks at. -/
namespace ZenControl

section Selection
variable {zone : Zone} {cs : List Candidate} {f : Candidate → ℤ}

lemma maximumOf_cons (a : Candidate) (h : cs≠[]) :
    maximumOf f (a::cs)=max (f a) (maximumOf f cs) := by
  cases cs with
  | nil => exact absurd rfl h
  | cons b cs => rfl

lemma le_maximumOf {c : Candidate} (h : c ∈ cs) : f c ≤ maximumOf f cs := by
  induction cs with
  | nil => cases h
  | cons a cs ih =>
    cases cs with
    | nil => rw [List.mem_singleton.mp h]; exact le_refl _
    | cons b cs =>
      rw [maximumOf_cons a (List.cons_ne_nil b cs)]
      rcases List.mem_cons.mp h with rfl | h
      · exact le_max_left _ _
      · exact le_trans (ih h) (le_max_right _ _)

lemma maximumOf_mem (h : cs≠[]) : ∃ c ∈ cs, f c=maximumOf f cs := by
  induction cs with
  | nil => exact absurd rfl h
  | cons a cs ih =>
    cases cs with
    | nil => exact ⟨a,List.mem_cons_self,rfl⟩
    | cons b cs =>
      obtain ⟨c,hc,hmax⟩ := ih (List.cons_ne_nil b cs)
      rw [maximumOf_cons a (List.cons_ne_nil b cs)]
      rcases le_total (maximumOf f (b::cs)) (f a) with hle | hle
      · exact ⟨a,List.mem_cons_self,(max_eq_left hle).symm⟩
      · exact ⟨c,List.mem_cons_of_mem _ hc,hmax.trans (max_eq_right hle).symm⟩

lemma mem_greatest {c : Candidate} :
    c ∈ greatest f cs ↔ c ∈ cs ∧ ∀ c' ∈ cs, f c' ≤ f c := by
  simp only [greatest,List.mem_filter,decide_eq_true_eq]
  constructor
  · rintro ⟨hc,hmax⟩
    exact ⟨hc,fun c' hc' => hmax ▸ le_maximumOf hc'⟩
  · rintro ⟨hc,hmax⟩
    obtain ⟨m,hm,heq⟩ := maximumOf_mem (f := f) (List.ne_nil_of_mem hc)
    exact ⟨hc,le_antisymm (le_maximumOf hc) (heq ▸ hmax m hm)⟩

lemma greatest_ne_nil (h : cs≠[]) : greatest f cs≠[] := by
  obtain ⟨c,hc,hmax⟩ := maximumOf_mem (f := f) h
  exact List.ne_nil_of_mem (List.mem_filter.mpr ⟨hc,by simpa using hmax⟩)

/-- The candidate is among the latest of some candidates, and the most specific of these. -/
def Wins (zone : Zone) (cs : List Candidate) (c : Candidate) : Prop :=
  c ∈ greatest (fun c => c.specificity) (greatest (Candidate.instant zone) cs)

lemma dedup_length_le_one {α : Type} [DecidableEq α] {xs : List α} :
    ¬xs.dedup.length > 1 ↔ ∀ x ∈ xs, ∀ y ∈ xs, x=y := by
  constructor
  · intro h x hx y hy
    rw [← List.mem_dedup] at hx hy
    match hxs : xs.dedup,hx,hy with
    | [a],hx,hy => rw [List.mem_singleton.mp hx,List.mem_singleton.mp hy]
    | a::b::rest,_,_ => simp [hxs] at h
  · intro h hlt
    have hnodup := List.nodup_dedup xs
    match hxs : xs.dedup,hlt with
    | a::b::rest,_ =>
      have ha : a ∈ xs := List.mem_dedup.mp (hxs ▸ List.mem_cons_self)
      have hb : b ∈ xs :=
        List.mem_dedup.mp (hxs ▸ List.mem_cons_of_mem _ List.mem_cons_self)
      rw [hxs,h a ha b hb] at hnodup
      simp at hnodup

/-- Winners that agree are selected from; those that differ are an error. -/
theorem selectScheduleCandidate_spec (dimension : String) {c : Candidate} (hc : Wins zone cs c) :
    ((∀ c', Wins zone cs c' → c'.action=c.action) →
      ∃ r, selectScheduleCandidate zone cs dimension=.ok (some r) ∧ r.action=c.action) ∧
    ∀ c', Wins zone cs c' → c'.action≠c.action →
      ∃ e, selectScheduleCandidate zone cs dimension=.error e := by
  unfold selectScheduleCandidate
  cases hlatest : greatest (Candidate.instant zone) cs with
  | nil => rw [Wins,hlatest] at hc; cases hc
  | cons first latest =>
    simp only [Wins,hlatest] at hc ⊢
    constructor
    · intro hagree
      rw [if_neg (dedup_length_le_one.mpr fun x hx y hy => by
        obtain ⟨a,ha,rfl⟩ := List.mem_map.mp hx
        obtain ⟨b,hb,rfl⟩ := List.mem_map.mp hy
        rw [hagree a ha,hagree b hb])]
      cases hlast : ((greatest (fun c => c.specificity) (first::latest)).insertionSort
          fun a b => a.id ≤ b.id).getLast? with
      | none =>
        rw [List.getLast?_eq_none_iff] at hlast
        rw [← List.mem_insertionSort (r := fun a b : Candidate => a.id ≤ b.id),hlast] at hc
        cases hc
      | some r =>
        refine ⟨r,rfl,hagree r ?_⟩
        exact (List.mem_insertionSort _).mp (List.mem_of_getLast? hlast)
    · intro c' hc' hne
      refine ⟨_,if_pos (Decidable.byContradiction fun hle => hne ?_)⟩
      exact dedup_length_le_one.mp hle _ (List.mem_map_of_mem hc') _ (List.mem_map_of_mem hc)

end Selection

section Services
variable {zone : Zone} {cs : List Candidate}

/-- What is selected is a winner, and all winners agree with it; nothing is selected from
nothing. -/
lemma selectScheduleCandidate_ok {dimension : String} {chosen : Option Candidate}
    (h : selectScheduleCandidate zone cs dimension=.ok chosen) :
    (cs=[] ∧ chosen=none) ∨ ∃ c, chosen=some c ∧ Wins zone cs c ∧
      ∀ c', Wins zone cs c' → c'.action=c.action := by
  unfold selectScheduleCandidate at h
  cases hlatest : greatest (Candidate.instant zone) cs with
  | nil =>
    rw [hlatest] at h
    refine .inl ⟨?_,(Except.ok.inj h).symm⟩
    by_contra hne
    exact greatest_ne_nil hne hlatest
  | cons first latest =>
    rw [hlatest] at h
    dsimp only at h
    split_ifs at h with hdiffer
    have hagree := dedup_length_le_one.mp hdiffer
    have hwinners : greatest (fun c => (c.specificity : ℤ)) (first::latest)≠[] :=
      greatest_ne_nil (List.cons_ne_nil first latest)
    cases hlast : ((greatest (fun c => (c.specificity : ℤ)) (first::latest)).insertionSort
        fun a b => a.id ≤ b.id).getLast? with
    | none =>
      rw [List.getLast?_eq_none_iff] at hlast
      have hlength := List.length_insertionSort (fun a b : Candidate => a.id ≤ b.id)
        (greatest (fun c => (c.specificity : ℤ)) (first::latest))
      rw [hlast] at hlength
      exact absurd (List.length_eq_zero_iff.mp hlength.symm) hwinners
    | some c =>
      rw [hlast] at h
      have hc := (List.mem_insertionSort _).mp (List.mem_of_getLast? hlast)
      refine .inr ⟨c,(Except.ok.inj h).symm,by rw [Wins,hlatest]; exact hc,fun c' hc' => ?_⟩
      rw [Wins,hlatest] at hc'
      exact hagree _ (List.mem_map_of_mem hc') _ (List.mem_map_of_mem hc)

lemma Wins.mem {c : Candidate} (h : Wins zone cs c) : c ∈ cs :=
  (mem_greatest.mp (mem_greatest.mp h).1).1

/-- The service of an action. -/
def CandidateAction.serviceKey : CandidateAction → Option String
  | service key _ => some key
  | _ => none

/-- The candidates for one service. -/
def forService (key : String) (cs : List Candidate) : List Candidate :=
  cs.filter fun c => c.action.serviceKey=some key

/-- One candidate among those that are sorted by service. -/
def addByService (d : List (String × List Candidate)) (c : Candidate) :
    List (String × List Candidate) :=
  match c.action with
  | .service key _ => dictSet d key (((d.lookup key).getD []) ++ [c])
  | _ => d

lemma byService_snoc (c : Candidate) : byService (cs ++ [c])=addByService (byService cs) c := by
  unfold byService
  rw [List.foldl_append]
  rfl

lemma addByService_lookup (d : List (String × List Candidate)) (c : Candidate) (key : String) :
    (addByService d c).lookup key=
      if c.action.serviceKey=some key then some (((d.lookup key).getD []) ++ [c])
      else d.lookup key := by
  unfold addByService CandidateAction.serviceKey
  cases c.action with
  | mode value => simp
  | reEvaluate => simp
  | service k state =>
    dsimp only
    rw [lookup_dictSet]
    by_cases hk : key=k
    · subst hk
      simp
    · rw [if_neg hk,if_neg (fun h => hk (Option.some.inj h).symm)]

/-- The candidates of a service stand under its key, if there are any. -/
lemma byService_lookup (cs : List Candidate) (key : String) :
    (byService cs).lookup key=
      if forService key cs=[] then none else some (forService key cs) := by
  induction cs using List.reverseRecOn with
  | nil => rfl
  | append_singleton cs c ih =>
    have hsnoc : forService key (cs ++ [c])=
        forService key cs ++ [c].filter fun c => c.action.serviceKey=some key :=
      List.filter_append _ _
    rw [byService_snoc,addByService_lookup,ih,hsnoc]
    by_cases hc : c.action.serviceKey=some key
    · rw [if_pos hc,List.filter_singleton]
      by_cases hempty : forService key cs=[] <;> simp [hempty,hc]
    · rw [if_neg hc,List.filter_singleton]
      simp [hc]

lemma nodup_dictSet {α : Type} {d : List (String × α)} (h : (d.map Prod.fst).Nodup)
    (key : String) (value : α) : ((dictSet d key value).map Prod.fst).Nodup := by
  unfold dictSet
  split_ifs with hany
  · have hkeys : (d.map fun e => if e.1=key then (key,value) else e).map Prod.fst=
        d.map Prod.fst := by
      rw [List.map_map]
      refine List.map_congr_left fun e _ => ?_
      by_cases he : e.1=key <;> simp [he]
    rwa [hkeys]
  · rw [List.map_append,List.nodup_append]
    refine ⟨h,List.nodup_singleton _,fun a ha b hb => ?_⟩
    obtain rfl := List.mem_singleton.mp hb
    rintro rfl
    obtain ⟨e,he,hkey⟩ := List.mem_map.mp ha
    exact hany (List.any_eq_true.mpr ⟨e,he,by simpa using hkey⟩)

lemma byService_nodup (cs : List Candidate) : ((byService cs).map Prod.fst).Nodup := by
  induction cs using List.reverseRecOn with
  | nil => exact List.nodup_nil
  | append_singleton cs c ih =>
    rw [byService_snoc]
    unfold addByService
    split
    · exact nodup_dictSet ih _ _
    · exact ih

/-- Each service has the decision that is selected from its candidates. -/
lemma selectServices_ok {groups : List (String × List Candidate)}
    {chosen : List (String × Candidate)} (h : selectServices zone groups=.ok chosen) :
    (chosen.map Prod.fst).Sublist (groups.map Prod.fst) ∧
    (∀ key c, (key,c) ∈ chosen ↔ ∃ values, (key,values) ∈ groups ∧
      selectScheduleCandidate zone values s!"{key} service"=.ok (some c)) ∧
    ∀ key values, (key,values) ∈ groups →
      ∃ c, selectScheduleCandidate zone values s!"{key} service"=.ok c := by
  induction groups generalizing chosen with
  | nil =>
    obtain rfl := Except.ok.inj h
    exact ⟨List.Sublist.refl _,fun key c => by simp,fun _ _ hin => absurd hin List.not_mem_nil⟩
  | cons entry rest ih =>
    obtain ⟨key,values⟩ := entry
    obtain ⟨first,hfirst,h⟩ := bind_ok h
    obtain ⟨others,hothers,h⟩ := bind_ok h
    obtain ⟨hsublist,hmem,hall⟩ := ih hothers
    have hchosen := Except.ok.inj h
    have hrest : ∀ k vs, (k,vs) ∈ (key,values)::rest →
        ∃ c, selectScheduleCandidate zone vs s!"{k} service"=.ok c := by
      intro k vs hin
      rcases List.mem_cons.mp hin with heq | hin
      · obtain ⟨rfl,rfl⟩ := Prod.mk.inj heq
        exact ⟨first,hfirst⟩
      · exact hall k vs hin
    cases first with
    | none =>
      dsimp only at hchosen
      subst hchosen
      refine ⟨hsublist.cons _,fun k c => ?_,hrest⟩
      rw [hmem]
      constructor
      · rintro ⟨vs,hin,hvs⟩
        exact ⟨vs,List.mem_cons_of_mem _ hin,hvs⟩
      · rintro ⟨vs,hin,hvs⟩
        rcases List.mem_cons.mp hin with heq | hin
        · obtain ⟨rfl,rfl⟩ := Prod.mk.inj heq
          cases hfirst.symm.trans hvs
        · exact ⟨vs,hin,hvs⟩
    | some c =>
      dsimp only at hchosen
      subst hchosen
      refine ⟨hsublist.cons_cons _,fun k c' => ?_,hrest⟩
      rw [List.mem_cons,hmem]
      constructor
      · rintro (heq | ⟨vs,hin,hvs⟩)
        · obtain ⟨rfl,rfl⟩ := Prod.mk.inj heq
          exact ⟨values,List.mem_cons_self,hfirst⟩
        · exact ⟨vs,List.mem_cons_of_mem _ hin,hvs⟩
      · rintro ⟨vs,hin,hvs⟩
        rcases List.mem_cons.mp hin with heq | hin
        · obtain ⟨rfl,rfl⟩ := Prod.mk.inj heq
          obtain rfl := Option.some.inj (Except.ok.inj (hfirst.symm.trans hvs))
          exact .inl rfl
        · exact .inr ⟨vs,hin,hvs⟩

end Services
end ZenControl
