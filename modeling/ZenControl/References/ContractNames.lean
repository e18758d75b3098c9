import ZenControl.References.Namespace
import ZenControl.Router.Catalog

/-! The RouterOS names of custom services. The lists of a custom service are named by a token that
joins the parts of its key, so two keys share their lists exactly if they differ only in
underscores that the token does not show. -/
namespace ZenControl

section Contract
variable (env : Env)

/-- `part[:1].upper() + part[1:]`. -/
def capitalised : List Char → List Char
  | [] => []
  | c::cs => c.toUpper::cs

/-- `_service_token`, of a key that has one. -/
def serviceToken (key : String) : String :=
  let parts := (splitChars (fun c => !isLowerAlnum c) (env.lower key).toList).filter fun p => p≠[]
  String.ofList (parts.flatMap capitalised)

/-- `f"{index:02d}"`. -/
def twoDigits (index : ℕ) : String := if index < 10 then "0" ++ toString index else toString index

/-- `build_custom_service_contract`. -/
def customServiceContract (s : Service) : Py Router.Service := do
  buildCustomServiceContract env s
  let key := env.lower (strip s.key)
  let tlsPatterns := (s.tlsPatterns.map fun p => env.lower (strip p)).filter fun p => p≠""
  let token := serviceToken env key
  let detectorList := "MC_Detected_" ++ token
  let commentPrefix := "MC|SVC|" ++ key ++ "|"
  pure
    { name := strip (orElse s.name key)
      sourceList := "MC_Block_" ++ token
      rules := [⟨commentPrefix ++ "BLOCK|01",detectorList⟩]
      learners := tlsPatterns.zipIdx.map fun (pattern,index) =>
        ⟨commentPrefix ++ "LEARN|" ++ twoDigits (index+1),detectorList,pattern⟩
      managedCustom := true }

/-- The address lists of a contract: the one with the devices and those with what is learned. -/
def Router.Service.lists (c : Router.Service) : List String :=
  c.sourceList::(c.rules.map Router.ServiceRule.detectorList ++
    c.learners.map Router.Learner.addressList)

/-- The comments by which the rules of a contract are found. -/
def Router.Service.comments (c : Router.Service) : List String :=
  c.rules.map Router.ServiceRule.comment ++ c.learners.map Router.Learner.comment

/-- Two contracts share no list and no comment. -/
def Apart (c c' : Router.Service) : Prop :=
  c.lists.Disjoint c'.lists ∧ c.comments.Disjoint c'.comments

/-- A service as `save_service` accepts it. -/
def Accepted (s : Service) : Prop := ∃ a, checkedService env a=.ok s

end Contract

section Token

/-- The characters of a key without the underscores that a token does not show: of a run of them
one is left in front of a letter and none in front of a digit. -/
def squeezed (behindBreak : Bool) : List Char → List Char
  | [] => []
  | c::cs =>
    if isLowerAlnum c then
      if behindBreak && c.isLower then '_'::c::squeezed false cs else c::squeezed false cs
    else squeezed true cs

def squeezedKey (key : String) : String := String.ofList (squeezed false key.toList)

/-- The characters of a token. -/
def camel (behindBreak : Bool) : List Char → List Char
  | [] => []
  | c::cs =>
    if isLowerAlnum c then (if behindBreak then c.toUpper else c)::camel false cs
    else camel true cs

lemma splitChars_camel (cs : List Char) :
    ∃ part parts, splitChars (fun c => !isLowerAlnum c) cs=part::parts ∧
      camel false cs=part ++ parts.flatMap capitalised ∧
      camel true cs=capitalised part ++ parts.flatMap capitalised := by
  induction cs with
  | nil => exact ⟨[],[],rfl,rfl,rfl⟩
  | cons c cs ih =>
    obtain ⟨part,parts,hsplit,hfalse,htrue⟩ := ih
    by_cases hc : isLowerAlnum c=true
    · refine ⟨c::part,parts,?_,?_,?_⟩
      · simp only [splitChars,hc,hsplit]
        rfl
      · simp only [camel,hc,if_true,hfalse]
        rfl
      · simp only [camel,hc,if_true,hfalse]
        rfl
    · refine ⟨[],part::parts,?_,?_,?_⟩
      · simp only [splitChars,hc,hsplit]
        rfl
      · simp only [camel,hc,htrue]
        rfl
      · simp only [camel,hc,htrue]
        rfl

lemma serviceToken_eq {env : Env} {key : String} (h : env.lower key=key) :
    serviceToken env key=String.ofList (camel true key.toList) := by
  obtain ⟨part,parts,hsplit,-,htrue⟩ := splitChars_camel key.toList
  have hempty : ∀ ps : List (List Char),
      (ps.filter fun p => p≠[]).flatMap capitalised=ps.flatMap capitalised := by
    intro ps
    induction ps with
    | nil => rfl
    | cons p ps ih => cases p <;> simpa [capitalised] using ih
  unfold serviceToken
  rw [h]
  dsimp only
  rw [hempty,hsplit,htrue]
  rfl

/-- The key that a token was made of, with an underscore in front of each capital letter. -/
def uncamel (cs : List Char) : List Char :=
  cs.flatMap fun c => if c.isUpper then ['_',c.toLower] else [c]

/-- The token of a key with an underscore in front of each capital letter. -/
def recamel : List Char → List Char
  | [] => []
  | '_'::c::cs => c.toUpper::recamel cs
  | c::cs => c::recamel cs

lemma isLowerAlnum_toNat {c : Char} (h : isLowerAlnum c=true) :
    (97 ≤ c.toNat ∧ c.toNat ≤ 122) ∨ (48 ≤ c.toNat ∧ c.toNat ≤ 57) := by
  simp only [isLowerAlnum,Bool.or_eq_true,Bool.and_eq_true,decide_eq_true_eq,Char.le_def,
    UInt32.le_iff_toNat_le] at h
  exact h

lemma isLowerAlnum_ne {c : Char} (h : isLowerAlnum c=true) : c≠ '_' := by
  rintro rfl
  exact absurd h (by decide)

/-- A character of a key and its capital. -/
lemma isLowerAlnum_casing {c : Char} (h : isLowerAlnum c=true) :
    c.isUpper=false ∧ (c.isLower=true → c.toUpper.isUpper=true ∧ c.toUpper.toLower=c) ∧
      (c.isLower=false → c.toUpper=c) := by
  have hall : ∀ n : Fin 128, isLowerAlnum (Char.ofNat n)=true → (Char.ofNat n).isUpper=false ∧
      ((Char.ofNat n).isLower=true → (Char.ofNat n).toUpper.isUpper=true ∧
        (Char.ofNat n).toUpper.toLower=Char.ofNat n) ∧
      ((Char.ofNat n).isLower=false → (Char.ofNat n).toUpper=Char.ofNat n) := by decide
  have hc := isLowerAlnum_toNat h
  have hn := hall ⟨c.toNat,by omega⟩
  rw [Char.ofNat_toNat] at hn
  exact hn h

/-- A token shows its key without the underscores that are squeezed out. -/
lemma uncamel_camel (behindBreak : Bool) (cs : List Char) :
    uncamel (camel behindBreak cs)=squeezed behindBreak cs := by
  induction cs generalizing behindBreak with
  | nil => rfl
  | cons c cs ih =>
    rw [camel,squeezed]
    split_ifs with hc hbreak hletter hletter
    · obtain ⟨hupper,hlower⟩ := (isLowerAlnum_casing hc).2.1 (by simp_all)
      rw [uncamel,List.flatMap_cons,hupper,hlower,← uncamel,ih]
      rfl
    · have hdigit : c.isLower=false := by simpa [hbreak] using hletter
      rw [uncamel,List.flatMap_cons,(isLowerAlnum_casing hc).2.2 hdigit,
        (isLowerAlnum_casing hc).1,← uncamel,ih]
      rfl
    · simp_all
    · rw [uncamel,List.flatMap_cons,(isLowerAlnum_casing hc).1,← uncamel,ih]
      rfl
    · exact ih true

/-- What is squeezed out does not show in the token. -/
lemma recamel_squeezed (behindBreak : Bool) (cs : List Char) :
    recamel (squeezed behindBreak cs)=camel behindBreak cs := by
  induction cs generalizing behindBreak with
  | nil => rfl
  | cons c cs ih =>
    have hplain : isLowerAlnum c=true → recamel (c::squeezed false cs)=c::camel false cs := by
      intro hc
      rw [recamel,ih]
      exact fun d ds h => absurd h (isLowerAlnum_ne hc)
    rw [camel,squeezed]
    split_ifs with hc hletter hbreak hbreak
    · rw [recamel,ih]
    · simp_all
    · have hdigit : c.isLower=false := by simpa [hbreak] using hletter
      rw [(isLowerAlnum_casing hc).2.2 hdigit,hplain hc]
    · exact hplain hc
    · exact ih true

/-- Tokens are the same exactly for keys that are squeezed to the same text. -/
lemma camel_eq_iff {c c' : Char} (hc : isLowerAlnum c=true) (hc' : isLowerAlnum c'=true)
    (cs cs' : List Char) :
    camel true (c::cs)=camel true (c'::cs') ↔ squeezed false (c::cs)=squeezed false (c'::cs') := by
  have hbreak : ∀ {d : Char} (ds : List Char), isLowerAlnum d=true →
      squeezed true (d::ds)=if d.isLower then '_'::squeezed false (d::ds)
        else squeezed false (d::ds) := by
    intro d ds hd
    simp [squeezed,hd]
  have hplain : ∀ {d : Char} (ds : List Char), isLowerAlnum d=true →
      squeezed false (d::ds)=d::squeezed false ds := by
    intro d ds hd
    simp [squeezed,hd]
  have htoken : camel true (c::cs)=camel true (c'::cs') ↔
      squeezed true (c::cs)=squeezed true (c'::cs') := by
    constructor
    · intro h
      rw [← uncamel_camel,← uncamel_camel,h]
    · intro h
      rw [← recamel_squeezed,← recamel_squeezed,h]
  rw [htoken,hbreak cs hc,hbreak cs' hc',hplain cs hc,hplain cs' hc']
  split_ifs with hletter hletter' hletter'
  · exact List.cons_inj_right _
  · refine iff_of_false (fun h => isLowerAlnum_ne hc' (List.cons.inj h).1.symm) fun h => ?_
    exact hletter' ((List.cons.inj h).1 ▸ hletter)
  · refine iff_of_false (fun h => isLowerAlnum_ne hc (List.cons.inj h).1) fun h => ?_
    exact hletter ((List.cons.inj h).1 ▸ hletter')
  · exact Iff.rfl

end Token

section Names
variable {env : Env} {s s' : Service} {c c' : Router.Service}

/-- The token of a key in normal form. -/
def tokenOf (key : String) : String := String.ofList (camel true key.toList)

/-- A key as `save_service` accepts it. -/
structure SavedKey (key : String) : Prop where
  isKey : IsKey key
  head : ∀ c ∈ key.toList.head?, c≠ '_'

lemma presetKey_head (env : Env) (text : String) :
    ∀ c ∈ (presetKey env text).toList.head?, c≠ '_' := by
  intro c hc
  set cs := (underscored false (env.lower text).toList).dropWhile fun c => c= '_' with hcs
  have hprefix : (presetKey env text).toList <+: cs := by
    rw [presetKey,String.toList_ofList]
    refine List.reverse_suffix.mp ?_
    rw [List.reverse_reverse]
    exact List.dropWhile_suffix _
  have hhead := List.head?_dropWhile_not (fun c => decide (c= '_'))
    (underscored false (env.lower text).toList)
  obtain ⟨rest,hrest⟩ := hprefix
  rw [← hcs,← hrest] at hhead
  cases hlist : (presetKey env text).toList with
  | nil => rw [hlist] at hc; cases hc
  | cons d ds =>
    rw [hlist] at hc hhead
    obtain rfl : d=c := Option.some.inj hc
    simpa using hhead

lemma Accepted.savedKey (h : Accepted env s) : SavedKey s.key := by
  obtain ⟨a,ha⟩ := h
  obtain ⟨key,_,ha⟩ := bind_ok ha
  obtain ⟨_,hkey,ha⟩ := bind_ok ha
  obtain ⟨name,_,ha⟩ := bind_ok ha
  obtain ⟨_,_,ha⟩ := bind_ok ha
  obtain ⟨category,_,ha⟩ := bind_ok ha
  obtain ⟨suffixes,_,ha⟩ := bind_ok ha
  obtain ⟨patterns,_,ha⟩ := bind_ok ha
  obtain rfl := Except.ok.inj ha
  have hne : ¬(presetKey env key="" ∨ 40 < (presetKey env key).length) := refuse_ok hkey
  push Not at hne
  exact ⟨presetKey_isKey hne.1,presetKey_head env key⟩

lemma SavedKey.cons {key : String} (h : SavedKey key) :
    ∃ c cs, key.toList=c::cs ∧ isLowerAlnum c=true := by
  cases hlist : key.toList with
  | nil => exact absurd (String.toList_eq_nil_iff.mp hlist) h.isKey.1
  | cons c cs =>
    have hchar := h.isKey.2 c (hlist ▸ List.mem_cons_self)
    have hhead := h.head c (by rw [hlist]; rfl)
    simp only [isKeyChar,Bool.or_eq_true,decide_eq_true_eq] at hchar
    refine ⟨c,cs,rfl,?_⟩
    rw [isLowerAlnum,Bool.or_eq_true]
    exact hchar.resolve_right hhead

lemma tokenOf_inj {key key' : String} (h : SavedKey key) (h' : SavedKey key') :
    tokenOf key=tokenOf key' ↔ squeezedKey key=squeezedKey key' := by
  obtain ⟨c,cs,hlist,hc⟩ := h.cons
  obtain ⟨c',cs',hlist',hc'⟩ := h'.cons
  unfold tokenOf squeezedKey
  rw [String.ofList_inj,String.ofList_inj,hlist,hlist']
  exact camel_eq_iff hc hc' cs cs'

/-- The names of a custom contract. -/
lemma customServiceContract_names (hkey : SavedKey s.key)
    (h : customServiceContract env s=.ok c) :
    c.sourceList="MC_Block_" ++ tokenOf s.key ∧
    (∀ l ∈ c.lists, l="MC_Block_" ++ tokenOf s.key ∨ l="MC_Detected_" ++ tokenOf s.key) ∧
    ∀ x ∈ c.comments, ∃ rest, x="MC|SVC|" ++ s.key ++ "|" ++ rest := by
  have hlower := hkey.isKey.lower env.toRuntime
  obtain ⟨_,_,h⟩ := bind_ok h
  obtain rfl := Except.ok.inj h
  dsimp only
  rw [hkey.isKey.strip,hlower,serviceToken_eq hlower,← tokenOf]
  refine ⟨rfl,fun l hl => ?_,fun x hx => ?_⟩
  · rcases List.mem_cons.mp hl with rfl | hl
    · exact .inl rfl
    · refine .inr ?_
      rcases List.mem_append.mp hl with hl | hl
      · exact List.mem_singleton.mp hl
      · obtain ⟨learner,hlearner,rfl⟩ := List.mem_map.mp hl
        obtain ⟨pattern,_,rfl⟩ := List.mem_map.mp hlearner
        rfl
  · rcases List.mem_append.mp hx with hx | hx
    · exact ⟨"BLOCK|01",List.mem_singleton.mp hx⟩
    · obtain ⟨learner,hlearner,rfl⟩ := List.mem_map.mp hx
      obtain ⟨⟨pattern,index⟩,_,rfl⟩ := List.mem_map.mp hlearner
      exact ⟨"LEARN|" ++ twoDigits (index+1),String.append_assoc⟩

/-- A key can be read off a comment. -/
lemma comment_key {key key' rest rest' : String} (h : IsKey key) (h' : IsKey key')
    (heq : "MC|SVC|" ++ key ++ "|" ++ rest="MC|SVC|" ++ key' ++ "|" ++ rest') : key=key' := by
  have hread : ∀ {k : String} (cs : List Char), IsKey k →
      (k.toList ++ '|'::cs).takeWhile (fun c => c≠ '|')=k.toList := by
    intro k cs hk
    have hbar : ∀ c ∈ k.toList, decide (c≠ '|')=true := by
      intro c hc
      refine decide_eq_true ?_
      rintro rfl
      exact absurd (hk.2 _ hc) (by decide)
    rw [List.takeWhile_append_of_pos hbar]
    simp
  have hlist := congrArg String.toList heq
  simp only [String.toList_append,List.append_assoc] at hlist
  replace hlist : key.toList ++ '|'::rest.toList=key'.toList ++ '|'::rest'.toList :=
    List.append_cancel_left hlist
  exact String.toList_inj.mp ((hread _ h).symm.trans (hlist ▸ hread _ h'))

lemma block_ne_detected (token token' : String) : "MC_Block_" ++ token≠"MC_Detected_" ++ token' := by
  intro heq
  have hlist := congrArg (fun s : String => s.toList[3]?) heq
  simp at hlist

/-- Contracts of two keys share a name exactly if the keys have one token. -/
lemma apart_iff (hkey : SavedKey s.key) (hkey' : SavedKey s'.key) (hne : s'.key≠s.key)
    (h : customServiceContract env s=.ok c) (h' : customServiceContract env s'=.ok c') :
    Apart c c' ↔ squeezedKey s.key≠squeezedKey s'.key := by
  obtain ⟨hsource,hlists,hcomments⟩ := customServiceContract_names hkey h
  obtain ⟨hsource',hlists',hcomments'⟩ := customServiceContract_names hkey' h'
  rw [ne_eq,← tokenOf_inj hkey hkey']
  constructor
  · rintro ⟨hdisjoint,-⟩ htoken
    have hin : c.sourceList ∈ c.lists := List.mem_cons_self
    refine hdisjoint hin ?_
    rw [hsource,htoken,← hsource']
    exact List.mem_cons_self
  · intro htoken
    refine ⟨fun l hl hl' => ?_,fun x hx hx' => ?_⟩
    · rcases hlists l hl with rfl | rfl <;> rcases hlists' _ hl' with heq | heq
      · exact htoken ((String.append_right_inj _).mp heq)
      · exact block_ne_detected _ _ heq
      · exact block_ne_detected _ _ heq.symm
      · exact htoken ((String.append_right_inj _).mp heq)
    · obtain ⟨rest,rfl⟩ := hcomments x hx
      obtain ⟨rest',heq⟩ := hcomments' _ hx'
      exact hne (comment_key hkey.isKey hkey'.isKey heq).symm

/-- The key of a custom service whose source list is that of a built-in service. -/
def spelledKey (key : String) : String :=
  ([("youtube","you_tube"),("chatgpt","chat_g_p_t"),("openai","open_a_i"),
    ("bbc_iplayer","b_b_ci_player"),("tiktok","tik_tok"),
    ("playstation","play_station")].lookup key).getD key

/-- The names of the built-in contracts. -/
lemma builtin_names : ∀ e ∈ Router.serviceEnforcement,
    e.2.sourceList="MC_Block_" ++ tokenOf (spelledKey e.1) ∧
    (∀ l ∈ e.2.lists, l=e.2.sourceList ∨ l.toList.head?=some 'D') ∧
    ∀ x ∈ e.2.comments, x.toList.head?=some 'R' := by
  simp only [Router.serviceEnforcement,List.forall_mem_cons]
  refine ⟨?_,?_,?_,?_,?_,?_,?_,?_,?_,?_,?_,?_,List.forall_mem_nil _⟩
  all_goals decide +kernel

lemma spelledKey_saved : ∀ e ∈ Router.serviceEnforcement,
    (spelledKey e.1≠"" ∧ (spelledKey e.1).toList.all isKeyChar=true) ∧
    (spelledKey e.1).toList.head?≠some '_' ∧ squeezedKey (spelledKey e.1)=spelledKey e.1 := by
  decide +kernel

/-- A custom contract shares a name with a built-in one exactly if it has its source list. -/
lemma apart_builtin (hkey : SavedKey s.key) (h : customServiceContract env s=.ok c)
    {e : String × Router.Service} (he : e ∈ Router.serviceEnforcement) :
    Apart c e.2 ↔ squeezedKey s.key≠spelledKey e.1 := by
  obtain ⟨hsource,hlists,hcomments⟩ := customServiceContract_names hkey h
  obtain ⟨hsource',hlists',hcomments'⟩ := builtin_names e he
  obtain ⟨hspelled,hhead,hsqueezed⟩ := spelledKey_saved e he
  have hsaved : SavedKey (spelledKey e.1) :=
    ⟨isKey_of_all hspelled,fun c hc heq => hhead (heq ▸ hc)⟩
  rw [ne_eq,← hsqueezed,← tokenOf_inj hkey hsaved]
  have hcustom : ∀ l ∈ c.lists, l.toList.head?=some 'M' := by
    intro l hl
    rcases hlists l hl with rfl | rfl <;> simp
  constructor
  · rintro ⟨hdisjoint,-⟩ htoken
    have hin : c.sourceList ∈ c.lists := List.mem_cons_self
    refine hdisjoint hin ?_
    rw [hsource,htoken,← hsource']
    exact List.mem_cons_self
  · intro htoken
    refine ⟨fun l hl hl' => ?_,fun x hx hx' => ?_⟩
    · rcases hlists' l hl' with rfl | hdetected
      · rcases hlists _ hl with heq | heq
        · exact htoken ((String.append_right_inj _).mp (heq.symm.trans hsource'))
        · exact block_ne_detected _ _ (hsource'.symm.trans heq)
      · rw [hcustom l hl] at hdetected
        exact absurd hdetected (by decide)
    · obtain ⟨rest,rfl⟩ := hcomments x hx
      have hrule := hcomments' _ hx'
      simp at hrule

/-- The names of a custom contract are its own exactly if no other key is squeezed to the same
text, and none of the texts that spell a built-in service is what its key is squeezed to. -/
theorem contracts_apart (hs : Accepted env s) (h : customServiceContract env s=.ok c) :
    (∀ s' c', Accepted env s' → s'.key≠s.key → customServiceContract env s'=.ok c' →
      (Apart c c' ↔ squeezedKey s.key≠squeezedKey s'.key)) ∧
    ∀ e ∈ Router.serviceEnforcement, Apart c e.2 ↔ squeezedKey s.key≠spelledKey e.1 :=
  ⟨fun _ _ hs' hne h' => apart_iff hs.savedKey hs'.savedKey hne h h',
    fun _ he => apart_builtin hs.savedKey h he⟩

/-- A service with a key, as it is saved with one pattern. -/
def savedUnder (key : String) : Service :=
  { key := key, name := key, tlsPatterns := ["*4*"] }

def savingArgs (key : String) : ServiceArgs :=
  { key := .str key, name := .str key, tlsPatterns := .list [.str "*4*"] }

lemma accepted_plain : Accepted asciiEnv (savedUnder "channel4") :=
  ⟨savingArgs "channel4",by decide⟩

lemma accepted_underscore : Accepted asciiEnv (savedUnder "channel_4") :=
  ⟨savingArgs "channel_4",by decide⟩

/-- The contract of a saved service. -/
def contractUnder (key token : String) : Router.Service :=
  { name := key, sourceList := "MC_Block_" ++ token, managedCustom := true,
    rules := [⟨"MC|SVC|" ++ key ++ "|BLOCK|01","MC_Detected_" ++ token⟩],
    learners := [⟨"MC|SVC|" ++ key ++ "|LEARN|01","MC_Detected_" ++ token,"*4*"⟩] }

lemma contract_plain : customServiceContract asciiEnv (savedUnder "channel4")=
    .ok (contractUnder "channel4" "Channel4") := by decide

lemma contract_underscore : customServiceContract asciiEnv (savedUnder "channel_4")=
    .ok (contractUnder "channel_4" "Channel4") := by decide

theorem contracts_apart_channel :
    (∀ s' c', Accepted asciiEnv s' → s'.key≠"channel4" → customServiceContract asciiEnv s'=.ok c' →
      (Apart (contractUnder "channel4" "Channel4") c' ↔
        squeezedKey "channel4"≠squeezedKey s'.key)) ∧
    ∀ e ∈ Router.serviceEnforcement,
      Apart (contractUnder "channel4" "Channel4") e.2 ↔ squeezedKey "channel4"≠spelledKey e.1 :=
  contracts_apart accepted_plain contract_plain

/-- The services `channel4` and `channel_4` are both saved, and their contracts share their
lists. -/
theorem channels_share : ¬∀ s s' c c', Accepted asciiEnv s → Accepted asciiEnv s' →
    s'.key≠s.key → customServiceContract asciiEnv s=.ok c →
    customServiceContract asciiEnv s'=.ok c' → Apart c c' := by
  intro h
  have hapart := h _ _ _ _ accepted_plain accepted_underscore (by decide) contract_plain
    contract_underscore
  exact hapart.1 List.mem_cons_self List.mem_cons_self

end Names
end ZenControl
