import ZenControl.Store.CatalogImport
import ZenControl.Library.Interleaving

/-! The keys that desired policy may name: those of the services and of the aggregate policy
groups. -/
namespace ZenControl
open Calls

section Keys

/-- A key as the writers make it. -/
def IsKey (key : String) : Prop := key≠"" ∧ ∀ c ∈ key.toList, isKeyChar c

lemma isKey_of_all {key : String} (h : key≠"" ∧ key.toList.all isKeyChar=true) : IsKey key :=
  ⟨h.1,List.all_eq_true.mp h.2⟩

lemma isKeyChar_toNat {c : Char} (h : isKeyChar c) :
    (97 ≤ c.toNat ∧ c.toNat ≤ 122) ∨ (48 ≤ c.toNat ∧ c.toNat ≤ 57) ∨ c.toNat=95 := by
  simp only [isKeyChar,Bool.or_eq_true,Bool.and_eq_true,decide_eq_true_eq,Char.le_def,
    UInt32.le_iff_toNat_le] at h
  rcases h with (h | h) | rfl
  · exact .inl h
  · exact .inr (.inl h)
  · exact .inr (.inr rfl)

lemma isKeyChar_space {c : Char} (h : isKeyChar c) : isSpace c=false := by
  have hc := isKeyChar_toNat h
  simp only [isSpace,Bool.or_eq_false_iff,Bool.and_eq_false_iff,decide_eq_false_iff_not]
  omega

lemma isKeyChar_toLower {c : Char} (h : isKeyChar c) : c.toLower=c := by
  have hc := isKeyChar_toNat h
  unfold Char.toLower
  split
  · rename_i hupper
    simp only [ge_iff_le,UInt32.le_iff_toNat_le] at hupper
    have hval : 65 ≤ c.toNat ∧ c.toNat ≤ 90 := hupper
    omega
  · rfl

lemma IsKey.strip {key : String} (h : IsKey key) : ZenControl.strip key=key :=
  strip_eq_self (fun c hc => isKeyChar_space (h.2 c (List.mem_of_mem_head? hc)))
    fun c hc => isKeyChar_space (h.2 c (List.mem_of_mem_getLast? hc))

lemma IsKey.lower {key : String} (h : IsKey key) (rt : Runtime) : rt.lower key=key := by
  have hascii : ∀ c ∈ key.toList, c.toNat < 128 := fun c hc => by
    have := isKeyChar_toNat (h.2 c hc)
    omega
  have hmap : key.toList.map Char.toLower=key.toList :=
    List.map_congr_left (fun c hc => isKeyChar_toLower (h.2 c hc)) |>.trans (List.map_id _)
  rw [rt.lower_ascii key hascii,nocase,hmap,String.ofList_toList]

lemma underscored_keyChar {skipping : Bool} {cs : List Char} {c : Char}
    (h : c ∈ underscored skipping cs) : isKeyChar c := by
  induction cs generalizing skipping with
  | nil => cases h
  | cons d ds ih =>
    simp only [underscored] at h
    split_ifs at h with hd hskip
    · rcases List.mem_cons.mp h with rfl | h
      · exact hd
      · exact ih h
    · exact ih h
    · rcases List.mem_cons.mp h with rfl | h
      · decide
      · exact ih h

lemma presetKey_isKey {env : Env} {text : String} (h : presetKey env text≠"") :
    IsKey (presetKey env text) := by
  refine ⟨h,fun c hc => ?_⟩
  simp only [presetKey,String.toList_ofList,List.mem_reverse] at hc
  have hinner := (List.dropWhile_suffix _).subset hc
  exact underscored_keyChar ((List.dropWhile_suffix _).subset (List.mem_reverse.mp hinner))

lemma IsKey.clip {key : String} {n : ℕ} (h : IsKey key) (hn : n≠0) : IsKey (clip key n) := by
  refine ⟨clip_ne_empty h.1 hn,fun c hc => h.2 c ?_⟩
  rw [ZenControl.clip,String.toList_ofList] at hc
  exact List.mem_of_mem_take hc

lemma IsKey.numbered {key : String} (h : IsKey key) (n : ℕ) :
    IsKey (key ++ "_" ++ toString n) := by
  refine ⟨fun hempty => ?_,fun c hc => ?_⟩
  · have := congrArg String.length hempty
    simp [String.length_append] at this
  · simp only [String.toList_append,List.mem_append] at hc
    rcases hc with (hc | hc) | hc
    · exact h.2 c hc
    · obtain rfl : c= '_' := by simpa using hc
      decide
    · rw [Nat.toString_eq_repr,Nat.toList_repr] at hc
      have hdigit := Nat.isDigit_of_mem_toDigits (by omega) (by omega) hc
      simp only [Char.isDigit,Bool.and_eq_true,decide_eq_true_eq] at hdigit
      simp only [isKeyChar,Bool.or_eq_true,Bool.and_eq_true,decide_eq_true_eq,Char.le_def]
      exact .inl (.inr hdigit)

lemma isImportKey_isKey {key : String} (h : isImportKey key) : IsKey key := by
  simp only [isImportKey,Bool.and_eq_true] at h
  refine ⟨?_,fun c hc => (List.all_eq_true.mp h.1.2) c hc⟩
  rintro rfl
  simp at h

end Keys
section Checks
variable {env : Env} {rt : Runtime} {t : Tables}

lemma mem_orderBy {α : Type} {key : α → String} {rows : List α} {r : α} :
    r ∈ orderBy key rows ↔ r ∈ rows := List.mem_insertionSort _

lemma mem_listServices {s : Service} : s ∈ listServices t ↔ s ∈ t.services :=
  List.mem_insertionSort _

lemma mem_serviceKeys {key : String} :
    key ∈ (listServices t).map Service.key ↔ ∃ s ∈ t.services, s.key=key := by
  simp only [List.mem_map,mem_listServices]

lemma mem_cleanKeys {values : List String} {key : String} (hkey : IsKey key)
    (h : key ∈ values) : key ∈ cleanKeys rt values := by
  rw [cleanKeys,mem_sortedSet,List.mem_filter,List.mem_map]
  exact ⟨⟨key,h,by rw [hkey.strip,hkey.lower]⟩,by simpa using hkey.1⟩

lemma mem_dictSet {α : Type} {d : List (String × α)} {key k : String} {value : α} :
    k ∈ (dictSet d key value).map Prod.fst ↔ k=key ∨ k ∈ d.map Prod.fst := by
  unfold dictSet
  split_ifs with hany
  · obtain ⟨e,he,hkey⟩ := List.any_eq_true.mp hany
    have hsame : (d.map fun e => if e.1=key then (key,value) else e).map Prod.fst=d.map Prod.fst := by
      rw [List.map_map]
      refine List.map_congr_left fun e _ => ?_
      by_cases hkey : e.1=key <;> simp [hkey]
    rw [hsame]
    refine ⟨.inr,?_⟩
    rintro (rfl | h)
    · exact List.mem_map.mpr ⟨e,he,by simpa using hkey⟩
    · exact h
  · simp [or_comm]

/-- A catalogue with clean keys keeps them when it is normalised. -/
lemma mem_normalizedGroupCatalog {source : GroupCatalog} (hkeys : ∀ e ∈ source, IsKey e.1)
    {key : String} :
    key ∈ (normalizedGroupCatalog rt source).map Prod.fst ↔ key ∈ source.map Prod.fst := by
  suffices h : ∀ (source result : GroupCatalog), (∀ e ∈ source, IsKey e.1) →
      (key ∈ (source.foldl (fun result e =>
        let key := rt.lower (strip e.1)
        if key="" then result
        else dictSet result key
          { e.2 with
            key := key
            name := if e.2.name="" then key else e.2.name
            members := cleanKeys rt e.2.members }) result).map Prod.fst ↔
        key ∈ source.map Prod.fst ∨ key ∈ result.map Prod.fst) by
    have hall := h source [] hkeys
    simp only [List.map_nil,List.not_mem_nil,or_false] at hall
    exact hall
  intro source
  induction source with
  | nil => simp
  | cons e source ih =>
    intro result hkeys
    have he := hkeys e List.mem_cons_self
    rw [List.foldl_cons,ih _ fun e' he' => hkeys e' (List.mem_cons_of_mem e he')]
    simp only [he.strip,he.lower,if_neg he.1,mem_dictSet,List.map_cons,List.mem_cons]
    rw [or_assoc,or_left_comm]

/-- The keys of groups are those of the catalogue. -/
lemma mem_policyGroupKeys (hkeys : ∀ g ∈ t.policyGroups, IsKey g.key) {key : String} :
    key ∈ policyGroupKeys rt t ↔ ∃ g ∈ t.policyGroups, g.key=key := by
  have listed (k : String) (rows : List PolicyGroup) (d : GroupCatalog) :
      k ∈ (rows.foldl (fun d g => dictSet d g.key g) d).map Prod.fst ↔
        (∃ g ∈ rows, g.key=k) ∨ k ∈ d.map Prod.fst := by
    induction rows generalizing d with
    | nil => simp
    | cons g rows ih =>
      rw [List.foldl_cons,ih,mem_dictSet]
      simp only [List.mem_cons,exists_eq_or_imp]
      rw [← or_assoc,or_comm (a:=∃ g ∈ rows, g.key=k),eq_comm (a:=k)]
  have hlisted {k : String} : (∃ g ∈ listPolicyGroups rt t, g.key=k) ↔
      ∃ g ∈ t.policyGroups, g.key=k := by
    simp [listPolicyGroups,mem_orderBy]
  have hsource : ∀ e ∈ (listPolicyGroups rt t).foldl (fun d g => dictSet d g.key g) [],
      IsKey e.1 := by
    intro e he
    have hin : e.1 ∈ ((listPolicyGroups rt t).foldl (fun d g => dictSet d g.key g) []).map
        Prod.fst := List.mem_map_of_mem he
    rw [listed,hlisted] at hin
    obtain ⟨g,hg,hkey⟩ | hnil := hin
    · exact hkey ▸ hkeys g hg
    · cases hnil
  rw [policyGroupKeys,policyGroupCatalog,mem_normalizedGroupCatalog hsource,listed,hlisted]
  simp

/-- The members of a checked group are services. -/
lemma validatePolicyGroupMembers_ok {members : PyVal} {clean : List String}
    (h : validatePolicyGroupMembers env t members=.ok clean) :
    ∀ m ∈ clean, ∃ s ∈ t.services, s.key=m := by
  obtain ⟨values,-,h⟩ := bind_ok h
  obtain ⟨-,-,h⟩ := bind_ok h
  obtain ⟨-,-,h⟩ := bind_ok h
  obtain ⟨_,hmissing,h⟩ := bind_ok h
  obtain rfl := Except.ok.inj h
  intro m hm
  by_contra hno
  refine refuse_ok hmissing (List.ne_nil_of_mem (List.mem_filter.mpr ⟨hm,?_⟩))
  simpa [mem_serviceKeys] using hno

/-- A new key is reserved by nothing. -/
lemma newPolicyGroupKey_ok {name key : String} (h : newPolicyGroupKey env t name=.ok key) :
    IsKey key ∧ (∀ s ∈ t.services, s.key≠key) ∧ key ∉ policyGroupKeys env.toRuntime t := by
  have hbase : IsKey (clip (orElse (presetKey env (strip name)) "group") 32) := by
    refine IsKey.clip ?_ (by decide)
    unfold orElse
    split_ifs with hempty
    · exact isKey_of_all (by decide)
    · exact presetKey_isKey hempty
  have hreserved {k : String}
      (hk : k ∉ (listServices t).map Service.key ++ policyGroupKeys env.toRuntime t) :
      (∀ s ∈ t.services, s.key≠k) ∧ k ∉ policyGroupKeys env.toRuntime t := by
    simp only [List.mem_append,mem_serviceKeys,not_or] at hk
    exact ⟨fun s hs hkey => hk.1 ⟨s,hs,hkey⟩,hk.2⟩
  unfold newPolicyGroupKey at h
  by_cases hfree : clip (orElse (presetKey env (strip name)) "group") 32 ∉
      (listServices t).map Service.key ++ policyGroupKeys env.toRuntime t
  · rw [if_pos hfree] at h
    obtain rfl := Except.ok.inj h
    exact ⟨hbase,hreserved hfree⟩
  · rw [if_neg hfree] at h
    dsimp only at h
    split at h
    · rename_i found hfound
      obtain rfl := Except.ok.inj h
      obtain ⟨i,-,hi⟩ := List.mem_map.mp (List.mem_of_find?_eq_some hfound)
      refine ⟨hi ▸ (hbase.clip (by decide)).numbered _,hreserved ?_⟩
      simpa using List.find?_some hfound
    · cases h

lemma checkedPolicyGroup_ok {a : GroupArgs} {group : PolicyGroup}
    (h : checkedPolicyGroup env t a=.ok group) :
    IsKey group.key ∧ group.builtin=false ∧ (∀ s ∈ t.services, s.key≠group.key) ∧
      ∀ m ∈ group.members, ∃ s ∈ t.services, s.key=m := by
  obtain ⟨-,-,h⟩ := bind_ok h
  split_ifs at h
  obtain ⟨clean,hclean,h⟩ := bind_ok h
  obtain ⟨key,hkey,h⟩ := bind_ok h
  obtain rfl := Except.ok.inj h
  have hnew := newPolicyGroupKey_ok hkey
  exact ⟨hnew.1,rfl,hnew.2.1,validatePolicyGroupMembers_ok hclean⟩

lemma checkedGroupUpdate_ok {key : String} {a : GroupArgs} {result : String × List String}
    (h : checkedGroupUpdate env t key a=.ok result) :
    ∀ m ∈ result.2, ∃ s ∈ t.services, s.key=m := by
  unfold checkedGroupUpdate at h
  split at h
  · cases h
  · obtain ⟨-,-,h⟩ := bind_ok h
    split_ifs at h
    obtain ⟨clean,hclean,h⟩ := bind_ok h
    obtain rfl := Except.ok.inj h
    exact validatePolicyGroupMembers_ok hclean

lemma checkedService_ok {a : ServiceArgs} {service : Service}
    (h : checkedService env a=.ok service) : IsKey service.key ∧ service.builtin=false := by
  obtain ⟨text,-,h⟩ := bind_ok h
  obtain ⟨_,hkey,h⟩ := bind_ok h
  obtain ⟨name,-,h⟩ := bind_ok h
  obtain ⟨-,-,h⟩ := bind_ok h
  obtain ⟨category,-,h⟩ := bind_ok h
  obtain ⟨dns,-,h⟩ := bind_ok h
  obtain ⟨tls,-,h⟩ := bind_ok h
  obtain rfl := Except.ok.inj h
  exact ⟨presetKey_isKey fun hempty => refuse_ok hkey (.inl hempty),rfl⟩

/-- A service that may be deleted is custom and in no group. -/
lemma deletableService_ok {key : String} (h : deletableService env t key=.ok ()) :
    ∃ s ∈ t.services, s.key=key ∧ s.builtin=false ∧
      ∀ g ∈ t.policyGroups, key ∉ cleanKeys env.toRuntime g.members := by
  unfold deletableService at h
  split at h
  · cases h
  · rename_i service hrow
    obtain ⟨hmem,hkey⟩ := Rows.row_some hrow
    obtain ⟨_,hbuiltin,h⟩ := bind_ok h
    obtain ⟨-,-,h⟩ := bind_ok h
    refine ⟨service,hmem,hkey,by simpa using refuse_ok hbuiltin,fun g hg hin => ?_⟩
    have htotal := refuse_ok h
    simp only [ne_eq,not_not] at htotal
    have hnone : aggregateUsage env t key=[] := List.length_eq_zero_iff.mp (by omega)
    simp only [aggregateUsage,List.map_eq_nil_iff,List.filter_eq_nil_iff] at hnone
    have hlisted : { g with members := cleanKeys env.toRuntime g.members } ∈
        listPolicyGroups env.toRuntime t := List.mem_map.mpr ⟨g,mem_orderBy.mpr hg,rfl⟩
    exact hnone _ hlisted (by simpa using hin)

end Checks
section Invariant
variable {t t' : Tables} {pending : List String}

def defaultServiceKeys : List String := defaultServices.map Prod.fst

/-- The keys of the tables, while the groups of some keys are still to be restored: the built-in
rows are those of the product, custom groups have keys of their own, and the members of groups are
services. -/
structure PolicyNamespace (pending : List String) (t : Tables) : Prop where
  serviceKeys : ∀ s ∈ t.services, IsKey s.key
  groupKeys : ∀ g ∈ t.policyGroups, IsKey g.key
  seeded : ∀ k ∈ defaultServiceKeys, ∃ s ∈ t.services, s.key=k
  builtins : ∀ s ∈ t.services, s.builtin=true ↔ s.key ∈ defaultServiceKeys
  builtinGroups : ∀ g ∈ t.policyGroups, g.builtin=true ↔ g.key ∈ policyGroupsKeys
  apart : ∀ g ∈ t.policyGroups, g.builtin=false → ∀ s ∈ t.services, s.key≠g.key
  members : ∀ g ∈ t.policyGroups, g.key ∉ pending → ∀ m ∈ g.members, ∃ s ∈ t.services, s.key=m

/-- The keys and roles of the services, as all that the namespace depends on. -/
def serviceRoles (t : Tables) : List (String × Bool) := t.services.map fun s => (s.key,s.builtin)

lemma mem_serviceRoles {key : String} {b : Bool} :
    (key,b) ∈ serviceRoles t ↔ ∃ s ∈ t.services, s.key=key ∧ s.builtin=b := by
  simp [serviceRoles,Prod.ext_iff]

namespace PolicyNamespace

lemma pending_mono {more : List String} (h : PolicyNamespace pending t)
    (hmore : ∀ k ∈ pending, k ∈ more) : PolicyNamespace more t :=
  { h with members := fun g hg hk => h.members g hg fun hin => hk (hmore _ hin) }

/-- What keeps the keys and roles of services, and the groups, keeps the namespace. -/
lemma frame (h : PolicyNamespace pending t) (hservices : serviceRoles t'=serviceRoles t)
    (hgroups : t'.policyGroups=t.policyGroups) : PolicyNamespace pending t' := by
  have forth {s : Service} (hs : s ∈ t'.services) :
      ∃ s₀ ∈ t.services, s₀.key=s.key ∧ s₀.builtin=s.builtin :=
    mem_serviceRoles.mp (hservices ▸ mem_serviceRoles.mpr ⟨s,hs,rfl,rfl⟩)
  have back {s : Service} (hs : s ∈ t.services) :
      ∃ s₁ ∈ t'.services, s₁.key=s.key ∧ s₁.builtin=s.builtin :=
    mem_serviceRoles.mp (hservices.symm ▸ mem_serviceRoles.mpr ⟨s,hs,rfl,rfl⟩)
  have known {k : String} : (∃ s ∈ t.services, s.key=k) → ∃ s ∈ t'.services, s.key=k := by
    rintro ⟨s,hs,rfl⟩
    obtain ⟨s₁,hs₁,hkey,-⟩ := back hs
    exact ⟨s₁,hs₁,hkey⟩
  refine ⟨fun s hs => ?_,?_,fun k hk => known (h.seeded k hk),fun s hs => ?_,?_,?_,?_⟩
  · obtain ⟨s₀,hs₀,hkey,-⟩ := forth hs
    exact hkey ▸ h.serviceKeys s₀ hs₀
  · rw [hgroups]
    exact h.groupKeys
  · obtain ⟨s₀,hs₀,hkey,hbuiltin⟩ := forth hs
    rw [← hkey,← hbuiltin]
    exact h.builtins s₀ hs₀
  · rw [hgroups]
    exact h.builtinGroups
  · rw [hgroups]
    intro g hg hcustom s hs
    obtain ⟨s₀,hs₀,hkey,-⟩ := forth hs
    exact hkey ▸ h.apart g hg hcustom s₀ hs₀
  · rw [hgroups]
    exact fun g hg hk m hm => known (h.members g hg hk m hm)

/-- A new custom service, whose key is not that of a custom group. -/
lemma addService (h : PolicyNamespace pending t) {service : Service} (hkey : IsKey service.key)
    (hcustom : service.builtin=false) (hnew : ∀ s ∈ t.services, s.key≠service.key)
    (hfree : ∀ g ∈ t.policyGroups, g.builtin=false → g.key≠service.key) :
    PolicyNamespace pending { t with services := t.services ++ [service] } := by
  have grow {P : Service → Prop} : (∃ s ∈ t.services, P s) → ∃ s ∈ t.services ++ [service], P s :=
    fun ⟨s,hs,hp⟩ => ⟨s,List.mem_append_left _ hs,hp⟩
  have cases {s : Service} (hs : s ∈ t.services ++ [service]) : s ∈ t.services ∨ s=service := by
    simpa using hs
  refine ⟨fun s hs => ?_,h.groupKeys,fun k hk => grow (h.seeded k hk),fun s hs => ?_,
    h.builtinGroups,fun g hg hg' s hs => ?_,fun g hg hk m hm => grow (h.members g hg hk m hm)⟩
  · rcases cases hs with hs | rfl
    · exact h.serviceKeys s hs
    · exact hkey
  · rcases cases hs with hs | rfl
    · exact h.builtins s hs
    · refine iff_of_false (by simp [hcustom]) fun hdefault => ?_
      obtain ⟨s₀,hs₀,hkey₀⟩ := h.seeded _ hdefault
      exact hnew s₀ hs₀ hkey₀
  · rcases cases hs with hs | rfl
    · exact h.apart g hg hg' s hs
    · exact (hfree g hg hg').symm

/-- A custom service in no group goes. -/
lemma dropService (h : PolicyNamespace [] t) {key : String}
    (hcustom : ∃ s ∈ t.services, s.key=key ∧ s.builtin=false)
    (hunused : ∀ g ∈ t.policyGroups, key ∉ g.members) :
    PolicyNamespace [] { t with services := Rows.drop Service.key key t.services } := by
  have left {s : Service} : s ∈ Rows.drop Service.key key t.services ↔ s ∈ t.services ∧ s.key≠key := by
    simp [Rows.drop]
  have hdefault : key ∉ defaultServiceKeys := by
    obtain ⟨s,hs,rfl,hs'⟩ := hcustom
    simp [← h.builtins s hs,hs']
  refine ⟨fun s hs => h.serviceKeys s (left.mp hs).1,h.groupKeys,fun k hk => ?_,
    fun s hs => h.builtins s (left.mp hs).1,h.builtinGroups,
    fun g hg hg' s hs => h.apart g hg hg' s (left.mp hs).1,fun g hg hk m hm => ?_⟩
  · obtain ⟨s,hs,rfl⟩ := h.seeded k hk
    exact ⟨s,left.mpr ⟨hs,fun heq => hdefault (heq ▸ hk)⟩,rfl⟩
  · obtain ⟨s,hs,rfl⟩ := h.members g hg hk m hm
    exact ⟨s,left.mpr ⟨hs,fun heq => hunused g hg (heq ▸ hm)⟩,rfl⟩

/-- A new custom group of services, with a key that no service has. -/
lemma addGroup (h : PolicyNamespace pending t) {group : PolicyGroup} (hkey : IsKey group.key)
    (hcustom : group.builtin=false) (hnew : ∀ s ∈ t.services, s.key≠group.key)
    (hproduct : group.key ∉ policyGroupsKeys)
    (hmembers : ∀ m ∈ group.members, ∃ s ∈ t.services, s.key=m) :
    PolicyNamespace pending { t with policyGroups := t.policyGroups ++ [group] } := by
  have cases {g : PolicyGroup} (hg : g ∈ t.policyGroups ++ [group]) :
      g ∈ t.policyGroups ∨ g=group := by simpa using hg
  refine ⟨h.serviceKeys,fun g hg => ?_,h.seeded,h.builtins,fun g hg => ?_,fun g hg hg' => ?_,
    fun g hg hk => ?_⟩
  · rcases cases hg with hg | rfl
    · exact h.groupKeys g hg
    · exact hkey
  · rcases cases hg with hg | rfl
    · exact h.builtinGroups g hg
    · exact iff_of_false (by simp [hcustom]) hproduct
  · rcases cases hg with hg | rfl
    · exact h.apart g hg hg'
    · exact hnew
  · rcases cases hg with hg | rfl
    · exact h.members g hg hk
    · exact hmembers

/-- A group gets other members that are services, and is no longer pending. -/
lemma amendGroup (h : PolicyNamespace pending t) {key : String} {f : PolicyGroup → PolicyGroup}
    (hf : ∀ g, (f g).key=g.key ∧ (f g).builtin=g.builtin)
    (hmembers : ∀ g, ∀ m ∈ (f g).members, ∃ s ∈ t.services, s.key=m) :
    PolicyNamespace (pending.filter fun k => k≠key)
      { t with policyGroups := Rows.amend PolicyGroup.key key f t.policyGroups } := by
  have amended {g : PolicyGroup} (hg : g ∈ Rows.amend PolicyGroup.key key f t.policyGroups) :
      ∃ g₀ ∈ t.policyGroups, g.key=g₀.key ∧ g.builtin=g₀.builtin ∧
        ((g.key=key ∧ g=f g₀) ∨ (g.key≠key ∧ g=g₀)) := by
    obtain ⟨g₀,hg₀,rfl⟩ := List.mem_map.mp hg
    refine ⟨g₀,hg₀,?_⟩
    by_cases hkey : g₀.key=key
    · simp [hkey,(hf g₀).1,(hf g₀).2]
    · simp [hkey]
  refine ⟨h.serviceKeys,fun g hg => ?_,h.seeded,h.builtins,fun g hg => ?_,fun g hg hg' => ?_,
    fun g hg hk => ?_⟩
  · obtain ⟨g₀,hg₀,hkey,-⟩ := amended hg
    exact hkey ▸ h.groupKeys g₀ hg₀
  · obtain ⟨g₀,hg₀,hkey,hbuiltin,-⟩ := amended hg
    rw [hkey,hbuiltin]
    exact h.builtinGroups g₀ hg₀
  · obtain ⟨g₀,hg₀,hkey,hbuiltin,-⟩ := amended hg
    rw [hkey]
    exact h.apart g₀ hg₀ (hbuiltin ▸ hg')
  · obtain ⟨g₀,hg₀,-,-,⟨-,rfl⟩ | ⟨hother,rfl⟩⟩ := amended hg
    · exact hmembers g₀
    · exact h.members g hg₀ fun hin => hk (List.mem_filter.mpr ⟨hin,by simpa using hother⟩)

/-- A group goes. -/
lemma filterGroups (h : PolicyNamespace pending t) (p : PolicyGroup → Bool) :
    PolicyNamespace pending { t with policyGroups := t.policyGroups.filter p } :=
  ⟨h.serviceKeys,fun g hg => h.groupKeys g (List.mem_filter.mp hg).1,h.seeded,h.builtins,
    fun g hg => h.builtinGroups g (List.mem_filter.mp hg).1,
    fun g hg => h.apart g (List.mem_filter.mp hg).1,
    fun g hg => h.members g (List.mem_filter.mp hg).1⟩

end PolicyNamespace
end Invariant
section Writers
variable {env : Env} {t t' : Tables} {pending : List String}

lemma serviceRoles_amend {key : String} {f : Service → Service} {rows : List Service}
    (hf : ∀ s, (f s).key=s.key ∧ (f s).builtin=s.builtin) :
    (Rows.amend Service.key key f rows).map (fun s => (s.key,s.builtin))=
      rows.map fun s => (s.key,s.builtin) := by
  rw [Rows.amend,List.map_map]
  refine List.map_congr_left fun s _ => ?_
  by_cases hkey : s.key=key <;> simp [hkey,(hf s).1,(hf s).2]

lemma PolicyNamespace.upsertService {service : Service} (h : PolicyNamespace pending t)
    (hkey : IsKey service.key) (hcustom : service.builtin=false)
    (hfree : ∀ g ∈ t.policyGroups, g.builtin=false → g.key≠service.key)
    (hupsert : ZenControl.upsertService service t=.ok t') : PolicyNamespace pending t' := by
  unfold ZenControl.upsertService at hupsert
  split_ifs at hupsert
  split at hupsert
  · obtain rfl := Except.ok.inj hupsert
    exact h.frame (serviceRoles_amend fun _ => ⟨rfl,rfl⟩) rfl
  · rename_i hrow
    obtain rfl := Except.ok.inj hupsert
    refine h.addService hkey hcustom (fun s hs hsame => ?_) hfree
    have hnone := List.find?_eq_none.mp hrow s hs
    simp [hsame] at hnone

lemma upsertService_groups {service : Service} (h : upsertService service t=.ok t') :
    t'.policyGroups=t.policyGroups := by
  unfold upsertService at h
  split_ifs at h
  split at h <;> (obtain rfl := Except.ok.inj h; rfl)

/-- `save_service` keeps the namespace unless it takes the key of a custom group. -/
lemma keeps_saveService (env : Env) (a : ServiceArgs) {G : List PolicyGroup → Prop}
    (hfree : ∀ service, checkedService env a=.ok service → ∀ groups, G groups →
      ∀ g ∈ groups, g.builtin=false → g.key≠service.key) :
    Keeps (fun t => PolicyNamespace pending t ∧ G t.policyGroups) (saveService env a) := by
  unfold saveService
  refine Prog.ensures_bind ((ensures_ofPy (checkedService env a)).mono (fun _ hs => hs)
    (fun _ _ hs => hs) fun _ hs => hs) fun service => ?_
  refine Prog.ensures_bind (Q:=fun _ => Good fun t => PolicyNamespace pending t ∧ G t.policyGroups)
    ?_ fun _ => keeps_query _
  refine (ensures_written (P:=fun t => (PolicyNamespace pending t ∧ G t.policyGroups) ∧
    checkedService env a=.ok service) (fun _ ht => ht.1) fun t _ t' ht hrun => ?_).mono
    (fun s hs => ⟨hs.1.1,hs.1.2,hs.2⟩) (fun _ _ hs => hs) fun _ hs => hs
  obtain ⟨⟨hspace,hgroups⟩,hchecked⟩ := ht
  obtain ⟨_,t1,hread,hrun⟩ := Body.runOn_bind_ok hrun
  obtain ⟨-,rfl⟩ := Body.runOn_read_ok hread
  obtain ⟨description,t2,hdescription,hrun⟩ := Body.runOn_bind_ok hrun
  obtain ⟨-,rfl⟩ := Body.runOn_ofPy_ok hdescription
  obtain ⟨hupsert,-⟩ := Body.runOn_execute_ok hrun
  obtain ⟨hkey,hcustom⟩ := checkedService_ok hchecked
  have hsaved := @PolicyNamespace.upsertService t t' pending
    { service with description := clip description 160 } hspace hkey hcustom
    (hfree service hchecked _ hgroups) hupsert
  exact ⟨hsaved,upsertService_groups hupsert ▸ hgroups⟩

lemma keeps_setServiceEnforcementApproved (env : Env) (key : PyVal) (approved : Bool)
    {G : List PolicyGroup → Prop} :
    Keeps (fun t => PolicyNamespace pending t ∧ G t.policyGroups)
      (setServiceEnforcementApproved env key approved) := by
  unfold setServiceEnforcementApproved
  refine keeps_bind (keeps_query _) fun _ => ?_
  refine keeps_bind (ensures_written (fun _ ht => ht) fun t _ t' ht hrun => ?_) fun _ => keeps_query _
  obtain ⟨hamend,-⟩ := Body.runOn_execute_ok hrun
  obtain rfl := Except.ok.inj hamend
  exact ⟨ht.1.frame (serviceRoles_amend fun _ => ⟨rfl,rfl⟩) rfl,ht.2⟩

lemma keeps_deleteService (env : Env) (key : PyVal) :
    Keeps (PolicyNamespace []) (deleteService env key) := by
  unfold deleteService
  refine ensures_checked fun _ t _ t' ht hchecked hrun => ?_
  obtain ⟨s,hs,hkey,hcustom,hunused⟩ := deletableService_ok hchecked
  obtain ⟨_,t1,hdrop,hrun⟩ := Body.runOn_bind_ok hrun
  obtain ⟨hdrop,-⟩ := Body.runOn_execute_ok hdrop
  obtain ⟨-,rfl⟩ := Body.runOn_ret_ok hrun
  split at hdrop
  · cases hdrop
  · obtain rfl := Except.ok.inj hdrop
    refine ht.dropService ⟨s,hs,hkey,hcustom⟩ fun g hg hin => hunused g hg ?_
    exact mem_cleanKeys (hkey ▸ ht.serviceKeys s hs) hin

lemma orDuplicate_ok {message : String} {r : Py Tables} (h : orDuplicate message r=.ok t) :
    r=.ok t := by
  unfold orDuplicate at h
  split at h
  · cases h
  · exact h

lemma policyGroupsKeys_default : ∀ k ∈ policyGroupsKeys, k ∈ defaultServiceKeys := by decide

lemma PolicyNamespace.insertPolicyGroup {group : PolicyGroup} (h : PolicyNamespace pending t)
    (hkey : IsKey group.key) (hcustom : group.builtin=false)
    (hnew : ∀ s ∈ t.services, s.key≠group.key)
    (hmembers : ∀ m ∈ group.members, ∃ s ∈ t.services, s.key=m)
    (hinsert : ZenControl.insertPolicyGroup group t=.ok t') : PolicyNamespace pending t' := by
  unfold ZenControl.insertPolicyGroup at hinsert
  split_ifs at hinsert
  obtain rfl := Except.ok.inj hinsert
  refine h.addGroup hkey hcustom hnew (fun hproduct => ?_) hmembers
  obtain ⟨s,hs,hsame⟩ := h.seeded _ (policyGroupsKeys_default _ hproduct)
  exact hnew s hs hsame

lemma PolicyNamespace.amendPolicyGroup {key name description now : String} {members : List String}
    (h : PolicyNamespace pending t) (hmembers : ∀ m ∈ members, ∃ s ∈ t.services, s.key=m)
    (hamend : ZenControl.amendPolicyGroup key name description members now t=.ok t') :
    PolicyNamespace (pending.filter fun k => k≠key) t' ∧ t'.services=t.services := by
  unfold ZenControl.amendPolicyGroup at hamend
  split_ifs at hamend
  obtain rfl := Except.ok.inj hamend
  exact ⟨h.amendGroup (fun _ => ⟨rfl,rfl⟩) fun _ => hmembers,rfl⟩

lemma keeps_createPolicyGroup (env : Env) (a : GroupArgs) :
    Keeps (PolicyNamespace []) (createPolicyGroup env a) := by
  unfold createPolicyGroup
  refine Prog.ensures_bind (ensures_query _) fun group => ?_
  refine Prog.ensures_bind (ensures_written (fun _ ht => ht.1) ?_) fun _ => keeps_query _
  rintro t _ t' ⟨ht,hchecked⟩ hrun
  obtain ⟨hinsert,-⟩ := Body.runOn_execute_ok hrun
  obtain ⟨hkey,hcustom,hnew,hmembers⟩ := checkedPolicyGroup_ok hchecked
  exact ht.insertPolicyGroup hkey hcustom hnew hmembers (orDuplicate_ok hinsert)

lemma keeps_updatePolicyGroup (env : Env) (key : PyVal) (a : GroupArgs) :
    Keeps (PolicyNamespace []) (updatePolicyGroup env key a) := by
  unfold updatePolicyGroup
  refine Prog.ensures_bind (ensures_query _) ?_
  rintro ⟨name,clean⟩
  refine Prog.ensures_bind (ensures_written (fun _ ht => ht.1) ?_) fun _ => keeps_query _
  rintro t _ t' ⟨ht,hchecked⟩ hrun
  obtain ⟨_,t1,hread,hrun⟩ := Body.runOn_bind_ok hrun
  obtain ⟨-,rfl⟩ := Body.runOn_read_ok hread
  obtain ⟨hamend,-⟩ := Body.runOn_execute_ok hrun
  exact (ht.amendPolicyGroup (checkedGroupUpdate_ok hchecked) (orDuplicate_ok hamend)).1

lemma keeps_deletePolicyGroup (env : Env) (key : PyVal) :
    Keeps (PolicyNamespace []) (deletePolicyGroup env key) := by
  unfold deletePolicyGroup
  refine keeps_bind (keeps_query _) fun _ => ?_
  refine ensures_written (fun _ ht => ht) fun t _ t' ht hrun => ?_
  obtain ⟨_,t1,hdrop,hrun⟩ := Body.runOn_bind_ok hrun
  obtain ⟨hdrop,-⟩ := Body.runOn_execute_ok hdrop
  obtain ⟨-,rfl⟩ := Body.runOn_ret_ok hrun
  split at hdrop
  · cases hdrop
  · obtain rfl := Except.ok.inj hdrop
    exact ht.filterGroups _

end Writers
section Import
variable {env : Env} {t t' : Tables} {pending : List String}

lemma ensures_directWrite {f : Tables → Py Tables} {P Q E : Tables → Prop}
    (h : ∀ t t', P t → f t=.ok t' → Q t') (hE : ∀ t, P t → E t) :
    (directWrite f).Ensures (Good P) (fun _ => Good Q) (Good E) := by
  have hplain : (Prog.write (fun db : Store => (f db.tables).map fun t => { db with tables := t })
      fun _ => .ret () : StoreProg Unit).Plain := by
    rintro (_ | _) <;> trivial
  refine ⟨Prog.closed_withDb hplain,fun s hs => ?_⟩
  rw [directWrite,Prog.solo_withDb hplain,Prog.write,Prog.issue]
  cases hf : f s.tables with
  | error e =>
    simp only [Prog.call_bind,Prog.run_call,Prog.inTransaction,hf,Except.map]
    exact ⟨hs.1,hE _ hs.2⟩
  | ok t' =>
    simp only [Prog.call_bind,Prog.run_call,Prog.inTransaction,hf,Except.map]
    exact ⟨hs.1,h _ _ hs.2 hf⟩

/-- The tables that `import_config` clears, while the groups of some keys are to be restored. -/
lemma PolicyNamespace.cleared (h : PolicyNamespace [] t)
    (hmembers : ∀ g ∈ t.policyGroups, g.builtin=true → g.key ∉ pending → ∀ m ∈ g.members,
      ∃ s ∈ t.services, s.key=m ∧ s.builtin=true) : PolicyNamespace pending (clearedConfig t) := by
  have hservices {s : Service} : s ∈ (clearedConfig t).services ↔
      s ∈ t.services ∧ s.builtin=true := List.mem_filter
  have hgroups {g : PolicyGroup} : g ∈ (clearedConfig t).policyGroups ↔
      g ∈ t.policyGroups ∧ g.builtin=true := List.mem_filter
  refine ⟨fun s hs => h.serviceKeys s (hservices.mp hs).1,
    fun g hg => h.groupKeys g (hgroups.mp hg).1,fun k hk => ?_,
    fun s hs => h.builtins s (hservices.mp hs).1,
    fun g hg => h.builtinGroups g (hgroups.mp hg).1,fun g hg hcustom => ?_,fun g hg hk m hm => ?_⟩
  · obtain ⟨s,hs,rfl⟩ := h.seeded k hk
    exact ⟨s,hservices.mpr ⟨hs,(h.builtins s hs).mpr hk⟩,rfl⟩
  · rw [(hgroups.mp hg).2] at hcustom
    cases hcustom
  · obtain ⟨s,hs,hkey,hbuiltin⟩ := hmembers g (hgroups.mp hg).1 (hgroups.mp hg).2 hk m hm
    exact ⟨s,hservices.mpr ⟨hs,hbuiltin⟩,hkey⟩

/-- All groups are built in. -/
def AllBuiltin (groups : List PolicyGroup) : Prop := ∀ g ∈ groups, g.builtin=true

/-- What the restore of presets and services keeps: only built-in groups are there yet. -/
def Restoring (pending : List String) (t : Tables) : Prop :=
  PolicyNamespace pending t ∧ AllBuiltin t.policyGroups

lemma ensures_cleared :
    clearConfig.Ensures (Good fun t => PolicyNamespace [] t ∧
        ∀ g ∈ t.policyGroups, g.builtin=true → g.key ∉ pending → ∀ m ∈ g.members,
          ∃ s ∈ t.services, s.key=m ∧ s.builtin=true)
      (fun _ => Good (Restoring pending)) (Good (PolicyNamespace pending)) := by
  have hplain : (Prog.write (fun db : Store => .ok { db with tables := clearedConfig db.tables })
      fun _ => .ret () : StoreProg Unit).Plain := by
    rintro (_ | _) <;> trivial
  refine ⟨Prog.closed_withDb hplain,fun s hs => ?_⟩
  rw [clearConfig,Prog.solo_withDb hplain]
  exact ⟨hs.1,hs.2.1.cleared hs.2.2,fun g hg => (List.mem_filter.mp hg).2⟩

lemma keeps_importPreset (env : Env) (row : PyVal) :
    Keeps (Restoring pending) (importPreset env row) := by
  unfold importPreset
  refine keeps_bind (keeps_ofPy _) fun builtin => Prog.ensures_ite (fun _ => ?_) fun _ => ?_
  · exact Prog.ensures_ret fun _ hs => hs
  · refine keeps_bind (keeps_ofPy _) fun a => keeps_bind (keeps_ofPy _) ?_
    rintro ⟨key,name,upload,download⟩
    refine ensures_written (fun _ ht => ht) fun t _ t' ht hrun => ?_
    obtain ⟨_,t1,hread,hrun⟩ := Body.runOn_bind_ok hrun
    obtain ⟨-,rfl⟩ := Body.runOn_read_ok hread
    obtain ⟨description,t2,hdescription,hrun⟩ := Body.runOn_bind_ok hrun
    obtain ⟨-,rfl⟩ := Body.runOn_ofPy_ok hdescription
    obtain ⟨_,t3,hupsert,hrun⟩ := Body.runOn_bind_ok hrun
    obtain ⟨hupsert,-⟩ := Body.runOn_execute_ok hupsert
    obtain ⟨-,rfl⟩ := Body.runOn_ret_ok hrun
    obtain rfl := Except.ok.inj hupsert
    have hsame (preset : BandwidthPreset) : (upsertPreset preset t).services=t.services ∧
        (upsertPreset preset t).policyGroups=t.policyGroups := by
      unfold upsertPreset
      split <;> exact ⟨rfl,rfl⟩
    refine ⟨ht.1.frame ?_ (hsame _).2,?_⟩
    · rw [serviceRoles,(hsame _).1,serviceRoles]
    · rw [(hsame _).2]
      exact ht.2

lemma keeps_importService (env : Env) (row : PyVal) :
    Keeps (Restoring pending) (importService env row) := by
  unfold importService
  refine keeps_bind (keeps_ofPy _) fun builtin => Prog.ensures_ite (fun _ => ?_) fun _ => ?_
  · exact Prog.ensures_ret fun _ hs => hs
  · refine keeps_bind (keeps_ofPy _) fun a => ?_
    refine keeps_bind (ensures_discarding (keeps_saveService env a fun service _ groups hall g hg hcustom => ?_)) fun _ => ?_
    · rw [hall g hg] at hcustom
      cases hcustom
    · refine keeps_bind (keeps_ofPy _) fun approved => Prog.ensures_ite (fun _ => ?_) fun _ => ?_
      · exact ensures_discarding (keeps_setServiceEnforcementApproved env a.key true)
      · exact Prog.ensures_ret fun _ hs => hs

/-- The keys of the built-in groups among some groups. -/
def builtinKeys (groups : List PolicyGroup) : List String :=
  (groups.filter PolicyGroup.builtin).map PolicyGroup.key

/-- One restored group is no longer pending. -/
lemma ensures_importGroup (env : Env) (pending left : List String) {group : PolicyGroup}
    {groups : List PolicyGroup} (hgroup : group ∈ groups) (hproduct : ∀ k ∈ pending, k ∈ policyGroupsKeys)
    (hleft : ∀ k ∈ pending, k ∉ left → group.builtin=true ∧ k=group.key) :
    (importGroup env group).Ensures
      (Good fun t => PolicyNamespace pending t ∧ ∀ g ∈ groups, IsKey g.key)
      (fun _ => Good fun t => PolicyNamespace left t ∧ ∀ g ∈ groups, IsKey g.key)
      (Good (PolicyNamespace pending)) := by
  unfold importGroup
  refine Prog.ensures_bind ((ensures_query _).mono (fun _ hs => hs) (fun _ _ hs => hs)
    fun _ hs => ⟨hs.1,hs.2.1⟩) fun clean => ?_
  refine Prog.ensures_ite (fun _ => ?_) fun hcustom => ?_
  · refine ensures_directWrite (fun t t' ht hamend => ⟨?_,ht.1.2⟩) fun _ ht => ht.1.1
    refine (ht.1.1.amendPolicyGroup (validatePolicyGroupMembers_ok ht.2) hamend).1.pending_mono ?_
    intro k hk
    obtain ⟨hpending,hne⟩ := List.mem_filter.mp hk
    by_contra hout
    exact (of_decide_eq_true hne) (hleft k hpending hout).2
  · refine Prog.ensures_bind ((ensures_query _).mono (fun _ hs => hs) (fun _ _ hs => hs)
      fun _ hs => ⟨hs.1,hs.2.1.1⟩) fun _ => ?_
    refine ensures_directWrite (fun t t' ht hinsert => ⟨?_,ht.1.1.2⟩) fun _ ht => ht.1.1.1
    obtain ⟨⟨⟨hspace,hkeys⟩,hclean⟩,hrefuse⟩ := ht
    have hfree := refuse_ok hrefuse
    simp only [mem_serviceKeys,not_or] at hfree
    have hadded := @PolicyNamespace.insertPolicyGroup t t' pending
      { key := group.key, name := group.name, description := group.description, members := clean
        createdAt := env.nowIso, updatedAt := env.nowIso } hspace (hkeys group hgroup) rfl
      (fun s hs hsame => hfree.1 ⟨s,hs,hsame⟩) (validatePolicyGroupMembers_ok hclean) hinsert
    refine hadded.pending_mono fun k hk => ?_
    by_contra hout
    obtain ⟨-,rfl⟩ := hleft k hk hout
    exact hfree.2 (hproduct _ hk)

/-- A loop that fails nowhere keeps what its steps keep. -/
lemma foldlM_ok {α β : Type} {f : β → α → Py β} {I : β → Prop}
    (h : ∀ b a b', I b → f b a=.ok b' → I b') {l : List α} {b b' : β} (hb : I b)
    (hrun : l.foldlM f b=.ok b') : I b' := by
  induction l generalizing b with
  | nil =>
    obtain rfl := Except.ok.inj hrun
    exact hb
  | cons a l ih =>
    rw [List.foldlM_cons] at hrun
    obtain ⟨c,hc,hrun⟩ := bind_ok hrun
    exact ih (h b a c hb hc) hrun

lemma preflightGroup_ok {serviceKeys : List String} {index : ℕ} {raw : PyVal}
    {seen : List PolicyGroup} {group : PolicyGroup}
    (h : preflightGroup env serviceKeys index raw seen=.ok group) : IsKey group.key := by
  obtain ⟨-,-,h⟩ := bind_ok h
  obtain ⟨value,-,h⟩ := bind_ok h
  obtain ⟨_,hkey,h⟩ := bind_ok h
  have hkey := refuse_ok hkey
  obtain ⟨-,-,h⟩ := bind_ok h
  obtain ⟨name,-,h⟩ := bind_ok h
  obtain ⟨-,-,h⟩ := bind_ok h
  obtain ⟨-,-,h⟩ := bind_ok h
  obtain ⟨description,-,h⟩ := bind_ok h
  obtain ⟨-,-,h⟩ := bind_ok h
  obtain ⟨builtin,-,h⟩ := bind_ok h
  obtain ⟨-,-,h⟩ := bind_ok h
  obtain ⟨-,-,h⟩ := bind_ok h
  obtain ⟨members,-,h⟩ := bind_ok h
  obtain ⟨-,-,h⟩ := bind_ok h
  obtain ⟨items,-,h⟩ := bind_ok h
  obtain ⟨-,-,h⟩ := bind_ok h
  obtain ⟨-,-,h⟩ := bind_ok h
  obtain rfl := Except.ok.inj h
  refine isImportKey_isKey ?_
  simpa using fun hno => hkey (.inr hno)

/-- What the preflight accepts: clean keys, and all the built-in groups or none at all. -/
lemma preflightImport_ok {payload : PyVal} {restore : AggregateRestore}
    (h : preflightImport env t payload=.ok restore) :
    (∀ g ∈ restore.groups, IsKey g.key) ∧
      ((restore.legacy=true ∧ restore.groups=[]) ∨
        (restore.legacy=false ∧ ∀ k ∈ policyGroupsKeys, k ∈ builtinKeys restore.groups)) := by
  obtain ⟨-,-,h⟩ := bind_ok h
  obtain ⟨version,-,h⟩ := bind_ok h
  obtain ⟨-,-,h⟩ := bind_ok h
  obtain ⟨-,-,h⟩ := bind_ok h
  obtain ⟨entries,-,h⟩ := bind_ok h
  obtain ⟨-,-,h⟩ := bind_ok h
  obtain ⟨services,-,h⟩ := bind_ok h
  obtain ⟨-,-,h⟩ := bind_ok h
  obtain ⟨rows,-,h⟩ := bind_ok h
  obtain ⟨seen,-,h⟩ := bind_ok h
  dsimp only at h
  split at h
  · obtain ⟨-,-,h⟩ := bind_ok h
    obtain rfl := Except.ok.inj h
    exact ⟨fun g hg => (List.not_mem_nil hg).elim,.inl ⟨rfl,rfl⟩⟩
  · obtain ⟨raws,-,h⟩ := bind_ok h
    obtain ⟨groups,hgroups,h⟩ := bind_ok h
    obtain ⟨_,hcomplete,h⟩ := bind_ok h
    obtain ⟨-,-,h⟩ := bind_ok h
    obtain ⟨-,-,h⟩ := bind_ok h
    obtain rfl := Except.ok.inj h
    refine ⟨foldlM_ok (I:=fun gs => ∀ g ∈ gs, IsKey g.key) ?_
      (fun g hg => (List.not_mem_nil hg).elim) hgroups,.inr ⟨rfl,fun k hk => ?_⟩⟩
    · intro gs a gs' hgs hstep
      obtain ⟨group,hgroup,hstep⟩ := bind_ok hstep
      obtain rfl := Except.ok.inj hstep
      intro g hg
      rcases List.mem_append.mp hg with hg | hg
      · exact hgs g hg
      · rw [List.mem_singleton.mp hg]
        exact preflightGroup_ok hgroup
    · have hall := refuse_ok hcomplete
      simp only [Bool.or_eq_true,List.any_eq_true,decide_eq_true_eq,not_or,not_exists,
        not_and,not_not] at hall
      exact hall.1 k hk

/-- A legacy payload restores the built-in groups. -/
lemma ensures_resetBuiltinGroups (env : Env) (hproduct : ∀ k ∈ pending, k ∈ policyGroupsKeys) :
    (directWrite (resetBuiltinGroups env)).Ensures (Good (PolicyNamespace pending))
      (fun _ => Good (PolicyNamespace [])) (Good (PolicyNamespace pending)) := by
  refine ensures_directWrite (fun t t' ht hreset => ?_) fun _ ht => ht
  have hmembers {p members : List String} {t : Tables} (ht : PolicyNamespace p t)
      (hdefault : ∀ m ∈ members, m ∈ defaultServiceKeys) :
      ∀ m ∈ members.insertionSort fun a b => ¬b < a, ∃ s ∈ t.services, s.key=m :=
    fun m hm => ht.seeded m (hdefault m ((List.mem_insertionSort _).mp hm))
  simp only [resetBuiltinGroups,policyGroups,List.foldlM_cons,List.foldlM_nil] at hreset
  obtain ⟨t₁,hgaming,hreset⟩ := bind_ok hreset
  obtain ⟨t₂,hsocial,hreset⟩ := bind_ok hreset
  obtain rfl := Except.ok.inj hreset
  have h₁ := (ht.amendPolicyGroup (hmembers ht (by decide)) hgaming).1
  have h₂ := (h₁.amendPolicyGroup (hmembers h₁ (by decide)) hsocial).1
  refine h₂.pending_mono fun k hk => ?_
  simp only [List.mem_filter,decide_eq_true_eq] at hk
  have hk' := hproduct k hk.1.1
  simp [policyGroupsKeys,policyGroups,hk.1.2,hk.2] at hk'

/-- `import_config` up to its groups: when it ends, all groups are restored, and where it stops,
the built-in groups are pending. -/
lemma ensures_importCatalog (env : Env) (payload : PyVal)
    (hproduct : ∀ k ∈ pending, k ∈ policyGroupsKeys) :
    (importCatalog env payload).Ensures
      (Good fun t => PolicyNamespace [] t ∧ ((preflightImport env t payload).isOk=true →
        ∀ g ∈ t.policyGroups, g.builtin=true → g.key ∉ pending → ∀ m ∈ g.members,
          ∃ s ∈ t.services, s.key=m ∧ s.builtin=true))
      (fun _ => Good (PolicyNamespace [])) (Good (PolicyNamespace pending)) := by
  unfold importCatalog
  have hnil {t : Tables} (ht : PolicyNamespace [] t) : PolicyNamespace pending t :=
    ht.pending_mono fun k hk => (List.not_mem_nil hk).elim
  refine Prog.ensures_bind ((ensures_query _).mono (fun _ hs => hs) (fun _ _ hs => hs)
    fun _ hs => ⟨hs.1,hnil hs.2.1⟩) fun restore => ?_
  -- what the preflight has found is carried beside the state
  let accepted : Prop := (∀ g ∈ restore.groups, IsKey g.key) ∧
    ((restore.legacy=true ∧ restore.groups=[]) ∨
      (restore.legacy=false ∧ ∀ k ∈ policyGroupsKeys, k ∈ builtinKeys restore.groups))
  let Beside (P : Tables → Prop) (t : Tables) : Prop := P t ∧ accepted
  have carried {α : Type} {P Q E : Tables → Prop} {p : StoreProg α}
      (h : p.Ensures (Good P) (fun _ => Good Q) (Good E)) :
      p.Ensures (Good (Beside P)) (fun _ => Good (Beside Q)) (Good E) := by
    refine ⟨h.1,fun s hs => ?_⟩
    have hrun := h.2 s ⟨hs.1,hs.2.1⟩
    split at hrun
    · exact ⟨hrun.1,hrun.2,hs.2.2⟩
    · exact hrun
  refine Prog.ensures_bind (Q:=fun _ => Good (Beside (Restoring pending))) ?_ fun _ => ?_
  · refine (carried ensures_cleared).mono (fun s hs => ?_) (fun _ _ hs => hs) fun _ hs => hs
    obtain ⟨hjournal,⟨hspace,hmembers⟩,hpreflight⟩ := hs
    exact ⟨hjournal,⟨hspace,hmembers (by rw [hpreflight]; rfl)⟩,preflightImport_ok hpreflight⟩
  have restores {p : StoreProg Unit} (h : Keeps (Restoring pending) p) :
      p.Ensures (Good (Beside (Restoring pending))) (fun _ => Good (Beside (Restoring pending)))
        (Good (PolicyNamespace pending)) :=
    carried (h.mono (fun _ hs => hs) (fun _ _ hs => hs) fun _ hs => ⟨hs.1,hs.2.1⟩)
  have rows (r : Py (List PyVal)) :
      (ofPy r : StoreProg (List PyVal)).Ensures (Good (Beside (Restoring pending)))
        (fun _ => Good (Beside (Restoring pending))) (Good (PolicyNamespace pending)) :=
    carried ((keeps_ofPy r).mono (fun _ hs => hs) (fun _ _ hs => hs) fun _ hs => ⟨hs.1,hs.2.1⟩)
  refine Prog.ensures_bind (rows _) fun presets => Prog.ensures_bind (restores ?_) fun _ => ?_
  · exact Prog.ensures_forEach (fun _ => Good (Restoring pending)) fun row _ _ =>
      keeps_importPreset env row
  refine Prog.ensures_bind (rows _) fun services => Prog.ensures_bind (restores ?_) fun _ => ?_
  · exact Prog.ensures_forEach (fun _ => Good (Restoring pending)) fun row _ _ =>
      keeps_importService env row
  let Left (groups : List PolicyGroup) (t : Tables) : Prop :=
    PolicyNamespace (pending.filter fun k => k ∈ builtinKeys groups) t ∧
      ∀ g ∈ restore.groups, IsKey g.key
  have hloop : (Prog.forEach restore.groups (importGroup env)).Ensures
      (Good (Left restore.groups)) (fun _ => Good (PolicyNamespace []))
      (Good (PolicyNamespace pending)) := by
    refine (Prog.ensures_forEach (fun rest => Good (Left rest)) fun group rest hrest => ?_).mono
      (fun _ hs => hs) (fun _ s hs => ?_) fun _ hs => hs
    · have hstep := ensures_importGroup env
        (pending.filter fun k => k ∈ builtinKeys (group::rest))
        (pending.filter fun k => k ∈ builtinKeys rest) (hrest.subset List.mem_cons_self) ?_ ?_
      · exact hstep.mono (fun _ hs => hs) (fun _ _ hs => hs) fun _ hs =>
          ⟨hs.1,hs.2.pending_mono fun k hk => (List.mem_filter.mp hk).1⟩
      · exact fun k hk => hproduct k (List.mem_filter.mp hk).1
      · intro k hk hout
        obtain ⟨hpending,hkey⟩ := List.mem_filter.mp hk
        have hrest : k ∉ builtinKeys rest := fun hin =>
          hout (List.mem_filter.mpr ⟨hpending,by simpa using hin⟩)
        have hkey : k ∈ builtinKeys (group::rest) := by simpa using hkey
        unfold builtinKeys at hkey hrest
        rw [List.filter_cons] at hkey
        split_ifs at hkey with hbuiltin
        · rcases List.mem_cons.mp hkey with rfl | hkey
          · exact ⟨hbuiltin,rfl⟩
          · exact absurd hkey hrest
        · exact absurd hkey hrest
    · refine ⟨hs.1,hs.2.1.pending_mono fun k hk => ?_⟩
      simp [builtinKeys] at hk
  dsimp only
  refine Prog.ensures_ite (fun hlegacy => Prog.ensures_bind ?_ fun _ => hloop) fun hgroups =>
    Prog.ensures_bind ?_ fun _ => hloop
  · refine (carried (ensures_resetBuiltinGroups env hproduct)).mono
      (fun s hs => ⟨hs.1,hs.2.1.1,hs.2.2⟩) (fun _ s hs => ?_) fun _ hs => hs
    exact ⟨hs.1,hs.2.1.pending_mono fun k hk => (List.not_mem_nil hk).elim,hs.2.2.1⟩
  · refine Prog.ensures_ret fun s hs => ⟨hs.1,hs.2.1.1.pending_mono fun k hk => ?_,hs.2.2.1⟩
    rcases hs.2.2.2 with ⟨hlegacy,-⟩ | ⟨-,hall⟩
    · contradiction
    · exact List.mem_filter.mpr ⟨hk,by simpa using hall k (hproduct k hk)⟩

end Import
section Runs

/-- The operations that write services or aggregate policy groups. A snapshot is restored through
`import_config`. -/
inductive NamespaceOp
  | saveService (a : ServiceArgs)
  | deleteService (key : PyVal)
  | createPolicyGroup (a : GroupArgs)
  | updatePolicyGroup (key : PyVal) (a : GroupArgs)
  | deletePolicyGroup (key : PyVal)
  | importConfig (payload : PyVal)

def NamespaceOp.program (env : Env) : NamespaceOp → StoreProg Unit
  | saveService a => discarding (ZenControl.saveService env a)
  | deleteService key => ZenControl.deleteService env key
  | createPolicyGroup a => discarding (ZenControl.createPolicyGroup env a)
  | updatePolicyGroup key a => discarding (ZenControl.updatePolicyGroup env key a)
  | deletePolicyGroup key => ZenControl.deletePolicyGroup env key
  | importConfig payload => importCatalog env payload

/-- One operation at any time of the clock, or a transaction that keeps the keys and roles of the
services and the groups, as those of all other operations and of the rest of an import do. -/
inductive NamespaceStep : Option (Env × NamespaceOp) → Store → Store → Prop
  | call (env : Env) (op : NamespaceOp) (s : Store) :
      NamespaceStep (some (env,op)) s ((op.program env).solo s).2
  | elsewhere {s s' : Store} (hs : s.journal.Bounded → s'.journal.Bounded)
      (hservices : serviceRoles s'.tables=serviceRoles s.tables)
      (hgroups : s'.tables.policyGroups=s.tables.policyGroups) : NamespaceStep none s s'

/-- A database that `_init_db` has just made. -/
structure FreshKeys (s : Store) : Prop where
  journal : s.journal.Bounded
  services : serviceRoles s.tables=defaultServices.map fun d => (d.1,true)
  groups : s.tables.policyGroups.map (fun g => (g.key,g.members,g.builtin))=
    policyGroups.map fun g => (g.key,g.members.insertionSort fun a b => ¬b < a,true)

/-- `import_config` passes its preflight and stops before the groups are restored. -/
def ImportStops (env : Env) (payload : PyVal) (s : Store) : Prop :=
  (preflightImport env s.tables payload).isOk=true ∧
    ((importCatalog env payload).solo s).1.isOk=false

/-- The members of the built-in groups are built-in services. -/
def BuiltinMembers (t : Tables) : Prop :=
  ∀ g ∈ t.policyGroups, g.builtin=true → ∀ m ∈ g.members,
    ∃ s ∈ t.services, s.key=m ∧ s.builtin=true

/-- The steps for which no key is taken twice and no member is lost: `save_service` does not take
the key of a custom group, and an import does not stop while a built-in group names a service that
it has cleared. -/
def NamespaceOp.Allowed (env : Env) (s : Store) : NamespaceOp → Prop
  | .saveService a => ∀ service, checkedService env a=.ok service →
      ∀ g ∈ s.tables.policyGroups, g.builtin=false → g.key≠service.key
  | .importConfig payload => ImportStops env payload s → BuiltinMembers s.tables
  | _ => True

def KeysAllowed (step : Option (Env × NamespaceOp)) (s : Store) : Prop :=
  ∀ env op, step=some (env,op) → op.Allowed env s

/-- No key is both that of a service and that of a group but those of the two labels, which carry
no contract; every member is a service; and no key expands both as a group and as a service. -/
structure KeysApart (rt : Runtime) (t : Tables) : Prop where
  labels : ∀ s ∈ t.services, ∀ g ∈ t.policyGroups, s.key=g.key → s.key ∈ ["gaming","social_media"]
  members : ∀ g ∈ t.policyGroups, ∀ m ∈ g.members, ∃ s ∈ t.services, s.key=m
  expands : ∀ values, ∀ k ∈ (expandPolicyKeys rt values (routerosSupportedServiceKeys rt t)
    (policyGroupCatalog rt t)).groups, k ∉ routerosSupportedServiceKeys rt t

variable {env : Env} {s s' : Store}

lemma FreshKeys.namespace (h : FreshKeys s) : PolicyNamespace [] s.tables := by
  have role {v : Service} (hv : v ∈ s.tables.services) :
      v.key ∈ defaultServiceKeys ∧ v.builtin=true := by
    have hin : (v.key,v.builtin) ∈ serviceRoles s.tables := mem_serviceRoles.mpr ⟨v,hv,rfl,rfl⟩
    rw [h.services] at hin
    obtain ⟨d,hd,heq⟩ := List.mem_map.mp hin
    obtain ⟨hkey,hbuiltin⟩ := Prod.mk.inj heq
    exact ⟨hkey ▸ List.mem_map_of_mem hd,hbuiltin.symm⟩
  have seeded : ∀ k ∈ defaultServiceKeys, ∃ v ∈ s.tables.services, v.key=k := by
    intro k hk
    obtain ⟨d,hd,rfl⟩ := List.mem_map.mp hk
    have hin : (d.1,true) ∈ serviceRoles s.tables := h.services ▸ List.mem_map_of_mem hd
    obtain ⟨v,hv,hkey,-⟩ := mem_serviceRoles.mp hin
    exact ⟨v,hv,hkey⟩
  have group {g : PolicyGroup} (hg : g ∈ s.tables.policyGroups) :
      g.key ∈ policyGroupsKeys ∧ g.builtin=true ∧ ∀ m ∈ g.members, m ∈ defaultServiceKeys := by
    have hin : (g.key,g.members,g.builtin) ∈
        s.tables.policyGroups.map fun g => (g.key,g.members,g.builtin) := List.mem_map_of_mem hg
    rw [h.groups] at hin
    obtain ⟨p,hp,heq⟩ := List.mem_map.mp hin
    obtain ⟨hkey,hrest⟩ := Prod.mk.inj heq
    obtain ⟨hmembers,hbuiltin⟩ := Prod.mk.inj hrest
    refine ⟨hkey ▸ List.mem_map_of_mem hp,hbuiltin.symm,fun m hm => ?_⟩
    rw [← hmembers,List.mem_insertionSort] at hm
    exact (by decide : ∀ p ∈ policyGroups, ∀ m ∈ p.members, m ∈ defaultServiceKeys) p hp m hm
  have keys : ∀ k ∈ defaultServiceKeys, k≠"" ∧ k.toList.all isKeyChar=true := by decide
  refine ⟨fun v hv => isKey_of_all (keys _ (role hv).1),
    fun g hg => isKey_of_all (keys _ (policyGroupsKeys_default _ (group hg).1)),seeded,
    fun v hv => iff_of_true (role hv).2 (role hv).1,
    fun g hg => iff_of_true (group hg).2.1 (group hg).1,fun g hg hcustom => ?_,
    fun g hg _ m hm => seeded m ((group hg).2.2 m hm)⟩
  rw [(group hg).2.1] at hcustom
  cases hcustom

lemma PolicyNamespace.keysApart {t : Tables} (h : PolicyNamespace [] t) (rt : Runtime) :
    KeysApart rt t := by
  have shared {v : Service} (hv : v ∈ t.services) {g : PolicyGroup} (hg : g ∈ t.policyGroups)
      (hkey : v.key=g.key) : g.key ∈ policyGroupsKeys := by
    cases hbuiltin : g.builtin with
    | true => exact (h.builtinGroups g hg).mp hbuiltin
    | false => exact absurd hkey (h.apart g hg hbuiltin v hv)
  refine ⟨fun v hv g hg hkey => hkey ▸ shared hv hg hkey,
    fun g hg => h.members g hg List.not_mem_nil,fun values k hk hsupported => ?_⟩
  have hcatalog : ∀ e ∈ policyGroupCatalog rt t, IsKey e.1 := by
    intro e he
    have hin : e.1 ∈ policyGroupKeys rt t := List.mem_map_of_mem he
    obtain ⟨g,hg,hkey⟩ := (mem_policyGroupKeys h.groupKeys).mp hin
    exact hkey ▸ h.groupKeys g hg
  have hgroup : k ∈ policyGroupKeys rt t := by
    have hin := (List.mem_filter.mp (mem_sortedSet.mp hk)).2
    exact (mem_normalizedGroupCatalog hcatalog).mp (of_decide_eq_true hin)
  obtain ⟨g,hg,rfl⟩ := (mem_policyGroupKeys h.groupKeys).mp hgroup
  rcases List.mem_append.mp hsupported with hbuiltin | hcustom
  · -- the built-in contracts are those of seeded services, and no label has one
    have hdefault : ∀ k ∈ supportedServiceKeys, k ∈ defaultServiceKeys ∧ k ∉ policyGroupsKeys := by
      decide
    obtain ⟨v,hv,hkey⟩ := h.seeded _ (hdefault _ hbuiltin).1
    exact (hdefault _ hbuiltin).2 (shared hv hg hkey)
  · obtain ⟨v,hv,hkey⟩ := List.mem_map.mp hcustom
    obtain ⟨hlisted,happroved⟩ := List.mem_filter.mp hv
    have hv := mem_listServices.mp hlisted
    have hdefault := policyGroupsKeys_default _ (shared hv hg hkey)
    rw [← hkey,← h.builtins v hv] at hdefault
    simp [hdefault] at happroved

/-- An allowed operation keeps the namespace, whether it is accepted or refused. -/
theorem NamespaceOp.Allowed.keeps {op : NamespaceOp} (h : op.Allowed env s)
    (hs : Good (PolicyNamespace []) s) :
    Good (PolicyNamespace []) ((op.program env).solo s).2 := by
  cases op with
  | saveService a =>
    have hkeeps : Keeps (fun t => PolicyNamespace [] t ∧ t.policyGroups=s.tables.policyGroups)
        (ZenControl.saveService env a) :=
      keeps_saveService env a (G:=fun groups => groups=s.tables.policyGroups)
        fun service hchecked groups hgroups g hg => h service hchecked g (hgroups ▸ hg)
    exact ((ensures_discarding hkeeps).solo ⟨hs.1,hs.2,rfl⟩).imp_right And.left
  | deleteService key => exact (keeps_deleteService env key).solo hs
  | createPolicyGroup a => exact (ensures_discarding (keeps_createPolicyGroup env a)).solo hs
  | updatePolicyGroup key a =>
    exact (ensures_discarding (keeps_updatePolicyGroup env key a)).solo hs
  | deletePolicyGroup key => exact (keeps_deletePolicyGroup env key).solo hs
  | importConfig payload =>
    by_cases hstops : ImportStops env payload s
    · have hkeeps := ensures_importCatalog env payload
        (fun k (hk : k ∈ []) => (List.not_mem_nil hk).elim)
      exact hkeeps.solo ⟨hs.1,hs.2,fun _ g hg hbuiltin _ => h hstops g hg hbuiltin⟩
    · cases hpreflight : preflightImport env s.tables payload with
      | error e =>
        have hrefused : (importCatalog env payload).solo s=(.error e,s) := by
          rw [importCatalog]
          exact (Prog.solo_bind (closed_query _) _ _).trans (by rw [query_solo,hpreflight])
        have hsame : ((NamespaceOp.importConfig payload).program env).solo s=(.error e,s) :=
          hrefused
        rw [hsame]
        exact hs
      | ok restore =>
        have hended : ((importCatalog env payload).solo s).1.isOk=true := by
          by_contra hno
          exact hstops ⟨by rw [hpreflight]; rfl,by simpa using hno⟩
        have hrun := (ensures_importCatalog env payload (fun k hk => hk)).2 s
          ⟨hs.1,hs.2,fun _ g hg hbuiltin hpending =>
            absurd ((hs.2.builtinGroups g hg).mp hbuiltin) hpending⟩
        change Good (PolicyNamespace []) ((importCatalog env payload).solo s).2
        cases hresult : ((importCatalog env payload).solo s).1 with
        | error e => rw [hresult] at hended; cases hended
        | ok u => rw [hresult] at hrun; exact hrun

/-- In every run whose steps are allowed, policy keys are apart in every state. -/
theorem policy_keys_apart_throughout (rt : Runtime) (hfresh : FreshKeys s)
    (run : Run NamespaceStep KeysAllowed s s') : KeysApart rt s'.tables := by
  have hgood : Good (PolicyNamespace []) s' := by
    refine run.invariant (I := Good (PolicyNamespace [])) ⟨hfresh.journal,hfresh.namespace⟩
      fun {step a b} ha hallowed hstep => ?_
    cases hstep with
    | call env op s => exact NamespaceOp.Allowed.keeps (hallowed env op rfl) ha
    | elsewhere hjournal hservices hgroups =>
      exact ⟨hjournal ha.1,ha.2.frame hservices hgroups⟩
  exact hgood.2.keysApart rt

def freshCatalog : Store :=
  ⟨{},{ services := defaultServices.map fun d => { key := d.1, name := d.2, builtin := true }
        policyGroups := policyGroups.map fun g => { g with
          members := g.members.insertionSort fun a b => ¬b < a } }⟩

lemma freshCatalog_fresh : FreshKeys freshCatalog := ⟨nofun,by decide,by decide⟩

/-- A group is made on the fresh catalogue, and its key is no service. -/
theorem policy_keys_apart_created : KeysApart asciiEnv.toRuntime
    (((NamespaceOp.createPolicyGroup { name := .str "Late night"
                                       members := .list [.str "steam"] }).program
      asciiEnv).solo freshCatalog).2.tables := by
  refine policy_keys_apart_throughout _ freshCatalog_fresh (.step .refl ?_ (.call asciiEnv _ _))
  intro env op hop
  obtain ⟨rfl,rfl⟩ := Prod.mk.inj (Option.some.inj hop)
  trivial

/-- In a fresh database the two labels are both services and groups. -/
theorem fresh_keys_shared : ¬∀ s s' : Store, FreshKeys s → Run NamespaceStep anyStep s s' →
    ∀ v ∈ s'.tables.services, ∀ g ∈ s'.tables.policyGroups, v.key≠g.key := by
  intro h
  have hkeys := h _ _ freshCatalog_fresh .refl
  have hservice : ∃ v ∈ freshCatalog.tables.services, v.key="gaming" := by decide
  have hgroup : ∃ g ∈ freshCatalog.tables.policyGroups, g.key="gaming" := by decide
  obtain ⟨v,hv,hvkey⟩ := hservice
  obtain ⟨g,hg,hgkey⟩ := hgroup
  exact hkeys v hv g hg (hvkey.trans hgkey.symm)

end Runs
end ZenControl
