import ZenControl.Router.Posture
import ZenControl.Value
import Mathlib.Data.List.Basic

/-! The place of the managed rules in the forward chain before the rule that accepts established
connections, for filter rules as the API returns them. -/
namespace ZenControl.Router.Authority

/-- A field of a row: a text or a list of texts. -/
inductive RowField
  | text (s : String)
  | texts (l : List String)
  deriving DecidableEq, Repr

/-- A row of `/ip/firewall/filter`: the fields that are set. -/
abbrev RuleRow := List (String × RowField)

/-- `str(value)`. -/
def RowField.str : RowField → String
  | .text s => s
  | .texts l => "[" ++ ", ".intercalate (l.map fun s => "'" ++ s ++ "'") ++ "]"

/-- `str(rule.get(key, default))`. -/
def RuleRow.str (row : RuleRow) (key default : String) : String :=
  ((row.lookup key).map RowField.str).getD default

/-- `rule.get("comment") == comment`. -/
def RuleRow.carries (comment : String) (row : RuleRow) : Bool :=
  row.lookup "comment"=some (.text comment)

/-- `str(rule.get("comment") or "")`. -/
def RuleRow.comment (row : RuleRow) : String := row.str "comment" ""

/-- `rule_enabled`. -/
def ruleEnabled (row : RuleRow) : Bool :=
  !(["true","yes","1"].contains (nocase (row.str "disabled" "false")))

/-- `chain_rules`. -/
def chainRules (rules : List RuleRow) (chain : String) : List RuleRow :=
  rules.filter fun row => nocase (strip (row.str "chain" ""))=nocase (strip chain)

/-- The position of the rule that alone carries a comment. -/
def uniquePosition (ordered : List RuleRow) (comment : String) : Option ℕ :=
  match ordered.findIdxs (RuleRow.carries comment) with
  | [index] => some index
  | _ => none

/-- `rule_comment_positions`. -/
def ruleCommentPositions (ordered : List RuleRow) (comments : List String) :
    List (String × ℕ) × List (String × ℕ) :=
  let wanted := comments.eraseDups
  (wanted.filterMap fun comment => (uniquePosition ordered comment).map fun i => (comment,i),
    wanted.filterMap fun comment =>
      let found := (ordered.findIdxs (RuleRow.carries comment)).length
      if 1 < found then some (comment,found) else none)

/-- `same_comment_other_chains`. -/
def sameCommentOtherChains (rules : List RuleRow) (comment chain : String) : List String :=
  let found := (rules.filter (RuleRow.carries comment)).map fun row =>
    nocase (strip (row.str "chain" ""))
  (found.filter fun candidate => candidate≠"" && candidate≠nocase (strip chain)).eraseDups

/-- `connection_states`. -/
def connectionStates (row : RuleRow) : List String :=
  let values := match row.lookup "connection-state" with
    | some (.texts l) => l
    | some (.text s) => (splitChars (fun c => c= ',') s.toList).map String.ofList
    | none => []
  (values.map fun value => nocase (strip value)).filter fun state => state≠""

/-- An enabled rule that accepts established and related connections. -/
def acceptsEstablishedRelated (row : RuleRow) : Bool :=
  ruleEnabled row && nocase (strip (row.str "action" ""))="accept" &&
    (connectionStates row).contains "established" && (connectionStates row).contains "related"

/-- `established_related_accept_candidates`. -/
def establishedRelatedAcceptCandidates (rules : List RuleRow) (chain : String) :
    List (ℕ × RuleRow) :=
  ((chainRules rules chain).zipIdx.filter fun r => acceptsEstablishedRelated r.1).map Prod.swap

structure AuthorityAnchor where
  index : ℕ
  comment : String
  connectionState : List String
  candidateCount : ℕ
  source : String
  deriving DecidableEq, Repr

structure AuthorityCandidate where
  index : ℕ
  comment : String
  connectionState : List String
  deriving DecidableEq, Repr

/-- The reply of `forward_authority_order`. -/
structure AuthorityOrder where
  ok : Bool
  chain : String
  chainRuleCount : ℕ
  positions : List (String × ℕ)
  duplicates : List (String × ℕ)
  missingRequired : List String
  late : List String
  establishedIndex : Option ℕ
  establishedAnchor : Option AuthorityAnchor
  establishedCandidates : List AuthorityCandidate
  legacyCommentPosition : Option ℕ
  legacyCommentDuplicates : ℕ
  otherChainCollisions : List (String × List String)
  deriving DecidableEq, Repr

/-- `d[key] = value` where there is a value. -/
def dictSet? (d : List (String × ℕ)) (key : String) (value : Option ℕ) : List (String × ℕ) :=
  value.elim d (dictSet d key)

/-- `sorted(connection_states(rule))`. -/
def sortedStates (row : RuleRow) : List String :=
  (connectionStates row).eraseDups.mergeSort fun a b => a ≤ b

/-- The rule that is taken for the accept rule of established connections, the candidates and
where they come from. -/
def anchorOf (rules inChain : List RuleRow) (legacy : Option ℕ) (chain : String) :
    Option (ℕ × RuleRow) × List (ℕ × RuleRow) × String :=
  match establishedRelatedAcceptCandidates rules chain,
    legacy.bind fun i => inChain[i]?.map (i,·) with
  | first::candidates, _ => (some first,first::candidates,"structural")
  | [], some fallback => (some fallback,[fallback],"legacy-comment-fallback")
  | [], none => (none,[],"missing")

/-- `forward_authority_order`. -/
def forwardAuthorityOrder (rules : List RuleRow) (managedComments : List String)
    (establishedComment : String) (requiredComments : List String) (chain : String) :
    AuthorityOrder :=
  let inChain := chainRules rules chain
  let managed := ruleCommentPositions inChain managedComments.eraseDups
  let legacy := ruleCommentPositions inChain [establishedComment]
  let legacyPosition := legacy.1.lookup establishedComment
  let positions := dictSet? managed.1 establishedComment legacyPosition
  let duplicates := dictSet? managed.2 establishedComment (legacy.2.lookup establishedComment)
  let anchor := anchorOf rules inChain legacyPosition chain
  let missing := (requiredComments.filter fun comment => (positions.lookup comment).isNone) ++
    if anchor.1.isNone then [establishedComment] else []
  let late := anchor.1.elim [] fun established => requiredComments.filter fun comment =>
    (positions.lookup comment).any fun index => established.1 ≤ index
  let otherChains := sameCommentOtherChains rules establishedComment chain
  { ok := missing.isEmpty && duplicates.isEmpty && late.isEmpty
    chain := chain
    chainRuleCount := inChain.length
    positions := positions
    duplicates := duplicates
    missingRequired := missing.eraseDups
    late := late
    establishedIndex := anchor.1.map Prod.fst
    establishedAnchor := anchor.1.map fun established =>
      ⟨established.1,established.2.comment,sortedStates established.2,anchor.2.1.length,anchor.2.2⟩
    establishedCandidates := anchor.2.1.map fun c => ⟨c.1,c.2.comment,sortedStates c.2⟩
    legacyCommentPosition := legacyPosition
    legacyCommentDuplicates := (legacy.2.lookup establishedComment).getD 0
    otherChainCollisions :=
      if otherChains.isEmpty then [] else [(establishedComment,otherChains)] }

section Positions
variable {rules ordered inChain : List RuleRow} {comments managed required : List String}
  {comment established chain : String}

lemma uniquePosition_eq_some {index : ℕ} : uniquePosition ordered comment=some index ↔
    ordered.findIdxs (RuleRow.carries comment)=[index] := by
  unfold uniquePosition
  split <;> rename_i h
  · simp [h]
  · simpa using h index

lemma lookup_filterMap (f : String → Option ℕ) (keys : List String) (key : String) :
    (keys.filterMap fun k => (f k).map fun i => (k,i)).lookup key=
      if key ∈ keys then f key else none := by
  induction keys with
  | nil => rfl
  | cons k keys ih =>
    cases hk : f k with
    | none =>
      rw [List.filterMap_cons_none (by simp [hk]),ih]
      by_cases h : key=k
      · simp [h,hk]
      · simp [h]
    | some i =>
      rw [List.filterMap_cons_some (b:=(k,i)) (by simp [hk]),lookup_entry,ih]
      by_cases h : key=k
      · simp [h,hk]
      · simp [h]

lemma lookup_dictSet? (d : List (String × ℕ)) (key : String) (value : Option ℕ) (k : String) :
    (dictSet? d key value).lookup k=
      if k=key then value.or (d.lookup k) else d.lookup k := by
  cases value with
  | none => simp [dictSet?]
  | some value => exact (lookup_dictSet d key value k).trans (by simp)

lemma dictSet?_eq_nil {d : List (String × ℕ)} {key : String} {value : Option ℕ} :
    dictSet? d key value=[] ↔ d=[] ∧ value=none := by
  cases value with
  | none => simp [dictSet?]
  | some value =>
    simp only [dictSet?,Option.elim_some,dictSet,reduceCtorEq,and_false,iff_false]
    split_ifs with hany
    · rintro h
      rw [List.map_eq_nil_iff] at h
      simp [h] at hany
    · simp

/-- The positions are those of the comments that stand in the list once. -/
lemma lookup_positions (ordered : List RuleRow) (comments : List String) (comment : String) :
    (ruleCommentPositions ordered comments).1.lookup comment=
      if comment ∈ comments then uniquePosition ordered comment else none := by
  rw [ruleCommentPositions,lookup_filterMap]
  simp only [List.mem_eraseDups]

lemma duplicates_eq_nil : (ruleCommentPositions ordered comments).2=[] ↔
    ∀ comment ∈ comments,(ordered.findIdxs (RuleRow.carries comment)).length ≤ 1 := by
  simp only [ruleCommentPositions,List.filterMap_eq_nil_iff,List.mem_eraseDups]
  refine forall_congr' fun comment => imp_congr_right fun _ => ?_
  split_ifs with h
  · simpa using h
  · simpa using h

lemma lookup_duplicates_eq_none : (ruleCommentPositions ordered [comment]).2.lookup comment=none ↔
    (ordered.findIdxs (RuleRow.carries comment)).length ≤ 1 := by
  have herase : [comment].eraseDups=[comment] := rfl
  simp only [ruleCommentPositions,herase]
  rw [← Nat.not_lt]
  change (List.filterMap _ (comment::[])).lookup comment=none ↔ _
  by_cases h : 1 < (ordered.findIdxs (RuleRow.carries comment)).length
  · simp only [List.filterMap_cons,List.filterMap_nil,lookup_entry,if_true,reduceCtorEq,h,
      not_true]
  · simp only [List.filterMap_cons,List.filterMap_nil,List.lookup_nil,if_false,h,
      not_false_eq_true]

end Positions

section Order
variable {rules inChain : List RuleRow} {managed required : List String}
  {comment established chain : String}

lemma mem_candidates {c : ℕ × RuleRow} : c ∈ establishedRelatedAcceptCandidates rules chain ↔
    (chainRules rules chain)[c.1]?=some c.2 ∧ acceptsEstablishedRelated c.2 := by
  unfold establishedRelatedAcceptCandidates
  constructor
  · intro h
    obtain ⟨r,hr,rfl⟩ := List.mem_map.mp h
    obtain ⟨hmem,haccept⟩ := List.mem_filter.mp hr
    exact ⟨List.mem_zipIdx_iff_getElem?.mp hmem,haccept⟩
  · rintro ⟨hget,haccept⟩
    refine List.mem_map.mpr ⟨(c.2,c.1),List.mem_filter.mpr ⟨?_,haccept⟩,rfl⟩
    exact List.mem_zipIdx_iff_getElem?.mpr hget

variable (rules chain) in
/-- The candidates stand in the order of the chain. -/
lemma candidates_pairwise :
    (establishedRelatedAcceptCandidates rules chain).Pairwise fun c d => c.1 < d.1 := by
  unfold establishedRelatedAcceptCandidates
  rw [List.pairwise_map]
  have hplaces : (chainRules rules chain).zipIdx.Pairwise fun r s => r.2 < s.2 := by
    rw [← List.pairwise_map (f:=Prod.snd) (R:=(· < ·)),List.zipIdx_map_snd]
    exact List.pairwise_lt_range'
  exact hplaces.filter _

/-- The position in the chain that the required rules have to stand before. -/
def boundary (rules : List RuleRow) (established chain : String) : Option ℕ :=
  match establishedRelatedAcceptCandidates rules chain with
  | first::_ => some first.1
  | [] => uniquePosition (chainRules rules chain) established

variable (rules established chain) in
lemma anchorOf_index : (anchorOf rules (chainRules rules chain)
    (uniquePosition (chainRules rules chain) established) chain).1.map Prod.fst=
      boundary rules established chain := by
  unfold anchorOf boundary
  cases establishedRelatedAcceptCandidates rules chain with
  | cons first candidates => rfl
  | nil =>
    cases hunique : uniquePosition (chainRules rules chain) established with
    | none => rfl
    | some i =>
      have hmem : i ∈ (chainRules rules chain).findIdxs (RuleRow.carries established) := by
        rw [uniquePosition_eq_some.mp hunique]
        exact List.mem_singleton_self i
      obtain ⟨hi,-⟩ := List.mem_findIdxs_iff_exists_getElem_pos.mp hmem
      simp [List.getElem?_eq_getElem hi]

/-- The rules of a chain are in order as far as the check looks at them: each required comment is
one that is looked for and stands there once, no comment that is looked for stands there twice, and
the rule that counts as the one accepting established connections stands behind. -/
structure InOrder (rules : List RuleRow) (managed : List String) (established : String)
    (required : List String) (chain : String) : Prop where
  listed : ∀ comment ∈ required,comment ∈ managed ∨ comment=established
  found : ∀ comment ∈ required,(uniquePosition (chainRules rules chain) comment).isSome
  once : ∀ comment,comment ∈ managed ∨ comment=established →
    ((chainRules rules chain).findIdxs (RuleRow.carries comment)).length ≤ 1
  behind : ∃ anchor,boundary rules established chain=some anchor ∧ ∀ comment ∈ required,
    ∀ index,uniquePosition (chainRules rules chain) comment=some index → index < anchor

theorem forwardAuthorityOrder_ok :
    (forwardAuthorityOrder rules managed established required chain).ok ↔
      InOrder rules managed established required chain := by
  set inChain := chainRules rules chain with hchain
  have hlegacy : (ruleCommentPositions inChain [established]).1.lookup established=
      uniquePosition inChain established := by
    rw [lookup_positions,if_pos (List.mem_singleton_self _)]
  have hposition (comment : String) : (dictSet? (ruleCommentPositions inChain
      managed.eraseDups).1 established (uniquePosition inChain established)).lookup comment=
        if comment ∈ managed ∨ comment=established then uniquePosition inChain comment
        else none := by
    rw [lookup_dictSet?,lookup_positions]
    by_cases heq : comment=established
    · subst heq
      cases huniq : uniquePosition inChain comment <;> simp
    · simp [heq]
  have hduplicates : dictSet? (ruleCommentPositions inChain managed.eraseDups).2 established
      ((ruleCommentPositions inChain [established]).2.lookup established)=[] ↔
        ∀ comment,comment ∈ managed ∨ comment=established →
          (inChain.findIdxs (RuleRow.carries comment)).length ≤ 1 := by
    rw [dictSet?_eq_nil,duplicates_eq_nil,lookup_duplicates_eq_none]
    simp only [List.mem_eraseDups,or_imp,forall_and,forall_eq]
  have hanchor := anchorOf_index rules established chain
  rw [← hchain] at hanchor
  unfold forwardAuthorityOrder
  simp only [← hchain,hlegacy,Bool.and_eq_true,List.isEmpty_iff,hduplicates,hposition,
    List.append_eq_nil_iff,List.filter_eq_nil_iff]
  generalize anchorOf rules inChain (uniquePosition inChain established) chain=anchor at hanchor
  have hlisted : (∀ comment ∈ required,¬(if comment ∈ managed ∨ comment=established then
      uniquePosition inChain comment else none).isNone=true) ↔ ∀ comment ∈ required,
        (comment ∈ managed ∨ comment=established) ∧ (uniquePosition inChain comment).isSome := by
    refine forall_congr' fun comment => imp_congr_right fun _ => ?_
    split_ifs with h <;> simp [h,Option.isSome_iff_ne_none]
  rw [hlisted]
  generalize anchor.1=anchored at hanchor ⊢
  cases anchored with
  | none =>
    refine ⟨fun h => (by simp at h),fun h => ?_⟩
    obtain ⟨anchor',hanchor',-⟩ := h.behind
    exact absurd (hanchor.trans hanchor') (by simp)
  | some established' =>
    simp only [Option.map_some] at hanchor
    simp only [Option.isNone_some,Bool.false_eq_true,if_false,and_true,Option.elim_some,
      List.filter_eq_nil_iff]
    constructor
    · rintro ⟨⟨hrequired,honce⟩,hlate⟩
      refine ⟨fun c hc => (hrequired c hc).1,fun c hc => (hrequired c hc).2,honce,
        established'.1,hanchor.symm,fun c hc index hindex => ?_⟩
      have hearly := hlate c hc
      rw [if_pos (hrequired c hc).1,hindex] at hearly
      simpa using hearly
    · intro h
      refine ⟨⟨fun c hc => ⟨h.listed c hc,h.found c hc⟩,h.once⟩,fun c hc => ?_⟩
      obtain ⟨anchor',hanchor',hbehind⟩ := h.behind
      rw [if_pos (h.listed c hc)]
      obtain ⟨index,hindex⟩ := Option.isSome_iff_exists.mp (h.found c hc)
      have hlt := hbehind c hc index hindex
      rw [← hanchor,Option.some_inj] at hanchor'
      rw [← hchain] at hindex
      simp only [hindex,Option.any_some,decide_eq_true_eq]
      omega

end Order

section Soundness
variable {rules : List RuleRow} {managed required : List String} {established chain : String}

/-- The fields of a row that do not restrict which packets it matches. -/
def plainFields : List String :=
  [".id","id","chain","action","connection-state","disabled","comment","dynamic","invalid","bytes",
   "packets","log","log-prefix"]

/-- An enabled rule that accepts every packet of an established connection: its connection states
are not restricted or include `established`, and it has no other matcher. -/
def acceptsAllEstablished (row : RuleRow) : Bool :=
  ruleEnabled row && nocase (strip (row.str "action" ""))="accept" &&
    ((connectionStates row).isEmpty || (connectionStates row).contains "established") &&
    row.all fun field => plainFields.contains field.1 || field.2.str=""

/-- The check looks past such a rule where it does not also name `related`. -/
def looksPast (row : RuleRow) : Bool :=
  acceptsAllEstablished row &&
    !((connectionStates row).contains "established" && (connectionStates row).contains "related")

/-- No rule of a kind stands in a chain before a rule that carries a required comment. -/
def NoneBefore (kind : RuleRow → Bool) (rules : List RuleRow) (required : List String)
    (chain : String) : Prop :=
  ∀ comment ∈ required,∀ (i j : ℕ) (before rule : RuleRow),i < j →
    (chainRules rules chain)[i]?=some before → (chainRules rules chain)[j]?=some rule → rule.carries comment → kind before=false

/-- Each required comment identifies one rule of the chain, and no rule that accepts all packets of
established connections stands before it. -/
structure Sound (rules : List RuleRow) (required : List String) (chain : String) : Prop where
  unique : ∀ comment ∈ required,∃ index,
    (chainRules rules chain).findIdxs (RuleRow.carries comment)=[index]
  first : NoneBefore acceptsAllEstablished rules required chain

/-- A candidate of the check stands behind every required rule. -/
lemma InOrder.candidate_behind (h : InOrder rules managed established required chain)
    {comment : String} (hcomment : comment ∈ required) {i j : ℕ} {before rule : RuleRow}
    (hbefore : (chainRules rules chain)[i]?=some before)
    (haccept : acceptsEstablishedRelated before) (hrule : (chainRules rules chain)[j]?=some rule)
    (hcarries : rule.carries comment) : j < i := by
  obtain ⟨anchor,hanchor,hbehind⟩ := h.behind
  obtain ⟨index,hindex⟩ := Option.isSome_iff_exists.mp (h.found comment hcomment)
  have hj : j=index := by
    have hmem : j ∈ (chainRules rules chain).findIdxs (RuleRow.carries comment) := by
      obtain ⟨hlt,hget⟩ := List.getElem?_eq_some_iff.mp hrule
      exact (List.mem_findIdxs_iff_pos_getElem hlt).mpr (hget ▸ hcarries)
    rw [uniquePosition_eq_some.mp hindex] at hmem
    exact List.mem_singleton.mp hmem
  have hcandidate : (i,before) ∈ establishedRelatedAcceptCandidates rules chain :=
    mem_candidates.mpr ⟨hbefore,haccept⟩
  have hsorted := candidates_pairwise rules chain
  have hfirst : anchor ≤ i := by
    unfold boundary at hanchor
    cases hlist : establishedRelatedAcceptCandidates rules chain with
    | nil =>
      rw [hlist] at hcandidate
      cases hcandidate
    | cons first candidates =>
      rw [hlist] at hanchor hcandidate hsorted
      cases hanchor
      rcases List.mem_cons.mp hcandidate with heq | hmem
      · rw [← heq]
      · exact (List.rel_of_pairwise_cons hsorted hmem).le
  exact hj ▸ (hbehind comment hcomment index hindex).trans_le hfirst

/-- The check is sound for a chain, if and only if none of the rules that it looks past stands
before a required rule of a chain that is otherwise in order. -/
theorem forwardAuthorityOrder_sound_iff (rules : List RuleRow) (managed required : List String)
    (established chain : String) :
    ((forwardAuthorityOrder rules managed established required chain).ok →
      Sound rules required chain) ↔
      (InOrder rules managed established required chain →
        NoneBefore looksPast rules required chain) := by
  rw [forwardAuthorityOrder_ok]
  refine imp_congr_right fun horder => ⟨fun h => ?_,fun h => ⟨fun c hc => ?_,?_⟩⟩
  · intro c hc i j before rule hlt hbefore hrule hcarries
    have hfirst := h.first c hc i j before rule hlt hbefore hrule hcarries
    rw [looksPast,hfirst,Bool.false_and]
  · obtain ⟨index,hindex⟩ := Option.isSome_iff_exists.mp (horder.found c hc)
    exact ⟨index,uniquePosition_eq_some.mp hindex⟩
  · intro c hc i j before rule hlt hbefore hrule hcarries
    have hpast := h c hc i j before rule hlt hbefore hrule hcarries
    by_contra haccepts
    rw [Bool.not_eq_false] at haccepts
    rw [looksPast,haccepts,Bool.true_and,Bool.not_eq_false'] at hpast
    have haccept : acceptsEstablishedRelated before := by
      simp only [acceptsAllEstablished,Bool.and_eq_true] at haccepts
      simp only [acceptsEstablishedRelated,Bool.and_eq_true]
      rw [Bool.and_eq_true] at hpast
      exact ⟨⟨haccepts.1.1,hpast.1⟩,hpast.2⟩
    have hbehind := horder.candidate_behind hc hbefore haccept hrule hcarries
    omega

/-- A forward chain whose first rule accepts established connections only. -/
def splitRules : List RuleRow :=
  [[("chain",.text "forward"),("action",.text "accept"),("connection-state",.text "established"),
    ("disabled",.text "false")],
   [("chain",.text "forward"),("action",.text "drop"),("comment",.text deviceBlockRuleComment),
    ("src-address-list",.text deviceBlockList),("disabled",.text "false")],
   [("chain",.text "forward"),("action",.text "jump"),("comment",.text webPolicyComment),
    ("jump-target",.text "restricted-web"),("disabled",.text "false")],
   [("chain",.text "forward"),("action",.text "accept"),
    ("connection-state",.text "established,related,untracked"),
    ("comment",.text establishedRuleComment),("disabled",.text "false")]]

/-- The check reports that chain to be in order. -/
theorem established_accepted_first : ¬∀ (rules : List RuleRow) (managed required : List String)
    (established chain : String),
    (forwardAuthorityOrder rules managed established required chain).ok →
      Sound rules required chain := by
  intro h
  have hok : (forwardAuthorityOrder splitRules
      [masterRuleComment,deviceBlockRuleComment,webPolicyComment] establishedRuleComment
      [deviceBlockRuleComment,webPolicyComment] "forward").ok := by decide +kernel
  have hfirst := (h _ _ _ _ _ hok).first deviceBlockRuleComment List.mem_cons_self 0 1 _ _
    Nat.zero_lt_one rfl rfl (by decide)
  revert hfirst
  decide

end Soundness

section Posture

/-- A filter rule of the model of RouterOS as a row. -/
def row (rule : FilterRule) : RuleRow :=
  [("comment",.text rule.comment),("chain",.text rule.chain),("action",.text rule.action),
   ("disabled",.text (if rule.disabled then "true" else "false")),
   ("src-address-list",.text rule.srcAddressList),("dst-address-list",.text rule.dstAddressList),
   ("out-interface-list",.text rule.outInterfaceList),("jump-target",.text rule.jumpTarget),
   ("protocol",.text rule.protocol),("dst-port",.text rule.dstPort),
   ("address-list",.text rule.addressList),("tls-host",.text rule.tlsHost),
   ("connection-state",.text rule.connectionState)]

section Fields
variable (rule : FilterRule)

@[simp] lemma row_chain : (row rule).str "chain" ""=rule.chain := by
  simp [RuleRow.str,row,lookup_entry,RowField.str]

@[simp] lemma row_action : (row rule).str "action" ""=rule.action := by
  simp [RuleRow.str,row,lookup_entry,RowField.str]

@[simp] lemma ruleEnabled_row : ruleEnabled (row rule)=!rule.disabled := by
  have hfield : (row rule).str "disabled" "false"=if rule.disabled then "true" else "false" := by
    simp [RuleRow.str,row,lookup_entry,RowField.str]
  rw [ruleEnabled,hfield]
  cases rule.disabled <;> decide

@[simp] lemma connectionStates_row :
    connectionStates (row rule)=Router.connectionStates rule := by
  have hfield : (row rule).lookup "connection-state"=some (.text rule.connectionState) := by
    simp [row,lookup_entry]
  simp [connectionStates,Router.connectionStates,hfield,Function.comp_def]

@[simp] lemma carries_row (comment : String) :
    (row rule).carries comment=decide (rule.comment=comment) := by
  have hfield : (row rule).lookup "comment"=some (.text rule.comment) := by
    simp [row]
  simp [RuleRow.carries,hfield]

end Fields

lemma chainRules_row (rules : List FilterRule) (chain : String) :
    chainRules (rules.map row) chain=(Router.chainRules rules chain).map row := by
  rw [chainRules,List.filter_map,Router.chainRules]
  simp only [Function.comp_def,row_chain]

lemma findIdxs_row (inChain : List FilterRule) (comment : String) :
    (inChain.map row).findIdxs (RuleRow.carries comment)=commentPositions inChain comment := by
  rw [List.findIdxs_map,commentPositions]
  simp only [Function.comp_def,carries_row]

lemma candidates_findIdxs (rules : List RuleRow) (chain : String) :
    (establishedRelatedAcceptCandidates rules chain).map Prod.fst=
      (chainRules rules chain).findIdxs acceptsEstablishedRelated := by
  rw [establishedRelatedAcceptCandidates,List.findIdxs_eq_filterMap_zipIdx,List.map_map]
  induction (chainRules rules chain).zipIdx with
  | nil => rfl
  | cons r rules ih => cases h : acceptsEstablishedRelated r.1 <;> simp [h,ih]

lemma candidates_row (rules : List FilterRule) :
    (establishedRelatedAcceptCandidates (rules.map row) "forward").map Prod.fst=
      Router.establishedRelatedAcceptCandidates rules := by
  rw [candidates_findIdxs,chainRules_row,Router.establishedRelatedAcceptCandidates,
    List.findIdxs_map]
  simp only [Function.comp_def,acceptsEstablishedRelated,ruleEnabled_row,row_action,
    connectionStates_row]

/-- The only entry of a list. -/
def onlyOf (indexes : List ℕ) : Option ℕ :=
  match indexes with
  | [index] => some index
  | _ => none

/-- The first entry of a list, or else another one. -/
def firstOr (indexes : List ℕ) (other : Option ℕ) : Option ℕ :=
  match indexes with
  | index::_ => some index
  | [] => other

/-- The posture of RouterOS asks this check about its forward chain. -/
theorem posture_forwardAuthorityOrder (rules : List FilterRule) (managed required : List String) :
    Router.forwardAuthorityOrder rules managed required=
      (forwardAuthorityOrder (rules.map row) managed establishedRuleComment required
        "forward").ok := by
  have hposition (comment : String) :
      onlyOf (commentPositions (Router.chainRules rules "forward") comment)=
        uniquePosition (chainRules (rules.map row) "forward") comment := by
    rw [uniquePosition,chainRules_row,findIdxs_row]
    rfl
  have hboundary : boundary (rules.map row) establishedRuleComment "forward"=
      firstOr (Router.establishedRelatedAcceptCandidates rules)
        (onlyOf (commentPositions (Router.chainRules rules "forward")
          establishedRuleComment)) := by
    rw [boundary,← candidates_row]
    cases establishedRelatedAcceptCandidates (rules.map row) "forward" with
    | nil => exact (hposition _).symm
    | cons first candidates => rfl
  have hlength (comment : String) : (commentPositions (Router.chainRules rules "forward")
      comment).length=((chainRules (rules.map row) "forward").findIdxs
        (RuleRow.carries comment)).length := by
    rw [chainRules_row,findIdxs_row]
  rw [Bool.eq_iff_iff,forwardAuthorityOrder_ok]
  unfold Router.forwardAuthorityOrder
  simp only [hlength,Bool.and_eq_true,Bool.not_eq_true',List.any_eq_false,List.all_eq_true,
    List.contains_iff_mem,List.mem_append,List.mem_singleton,decide_eq_true_eq,not_lt,
    Option.any_eq_true,Option.all_eq_true]
  constructor
  · rintro ⟨⟨honce,hlisted⟩,anchor,hanchor,hbehind⟩
    refine ⟨fun c hc => (hlisted c hc).1,fun c hc => ?_,honce,anchor,hboundary.trans hanchor,
      fun c hc index hindex => hbehind c hc index ((hposition c).trans hindex)⟩
    exact (congrArg Option.isSome (hposition c)).symm.trans (hlisted c hc).2
  · rintro ⟨hlisted,hfound,honce,anchor,hanchor,hbehind⟩
    refine ⟨⟨honce,fun c hc => ⟨hlisted c hc,?_⟩⟩,anchor,hboundary.symm.trans hanchor,
      fun c hc index hindex => hbehind c hc index ((hposition c).symm.trans hindex)⟩
    exact (congrArg Option.isSome (hposition c)).trans (hfound c hc)

end Posture

end ZenControl.Router.Authority
