import ZenControl.Telemetry.Attribution
import Mathlib.Data.List.Find
import Mathlib.Data.List.Infix

/-! The readers of the service catalogue side by side: the classifier of lookups, the classifier
of records, and the workbench on which unknown domains are reviewed. -/
namespace ZenControl

/-- What Python's `lower` does to blanks and to text that is lowered already. -/
structure PyRuntime.LowersText (py : PyRuntime) : Prop where
  strip_lower : ∀ x, strip (py.lower x)=py.lower (strip x)
  piece : ∀ x y : String, y.toList <:+: (py.lower x).toList → py.lower y=y

namespace Telemetry

section Workbench
variable (py : PyRuntime)

/-- `_domain`. -/
def reviewDomain (value : String) : String := dropDots (py.lower (strip value))

/-- `_token`. -/
def reviewToken (value : String) : String :=
  String.ofList ((py.lower (strip value)).toList.filter isLowerAlnum)

/-- `_domain_matches_suffix`. -/
def domainMatchesSuffix (domain suffix : String) : Bool :=
  let domain := reviewDomain py domain
  let suffix := withoutStart "*." (reviewDomain py suffix)
  domain≠"" && suffix≠"" && underSuffix domain suffix

/-- `_service_name_tokens`. -/
def serviceNameTokens (s : Service) : List String :=
  [s.key,s.name].flatMap fun value =>
    let parts := splitChars (fun c => !isLowerAlnum c) (py.lower value).toList
    (reviewToken py value::parts.map String.ofList).filter fun token => 4 ≤ token.length

structure Candidate where
  domain : String
  queries : ℤ
  deriving DecidableEq, Repr

structure SignatureMatch where
  key : String
  name : String
  suffixes : List String
  classifierEnabled : Bool
  builtin : Bool
  deriving DecidableEq, Repr

structure NameHint where
  key : String
  name : String
  tokens : List String
  deriving DecidableEq, Repr

inductive ReviewState
  | signatureMatch
  | nameHint
  | unmatched
  deriving DecidableEq, Repr

/-- One row of `build_candidate_reviews`. -/
structure CandidateReview where
  domain : String
  queries : ℤ
  unknownQueryShare : Option ℤ
  reviewState : ReviewState
  signatureMatches : List SignatureMatch
  nameHints : List NameHint
  recommendedAction : String
  prefillDns : String
  deriving DecidableEq, Repr

/-- The services that a domain matches by a suffix. -/
def signatureMatches (services : List Service) (domain : String) : List SignatureMatch :=
  services.filterMap fun s =>
    let suffixes := s.dnsSuffixes.filter (domainMatchesSuffix py domain)
    if suffixes=[] then none
    else some
      { key := s.key, name := orElse s.name s.key, suffixes := suffixes
        classifierEnabled := s.classifierEnabled, builtin := s.builtin }

/-- The services whose name a domain contains. -/
def nameHints (services : List Service) (domain : String) : List NameHint :=
  services.filterMap fun s =>
    let tokens := sortedSet ((serviceNameTokens py s).filter fun token =>
      decide (token.toList <:+: (reviewToken py domain).toList))
    if tokens=[] then none else some { key := s.key, name := orElse s.name s.key, tokens := tokens }

/-- The loop body of `build_candidate_reviews`; `share` rounds a share in percent to tenths. -/
def candidateReview (share : ℤ → ℤ → ℤ) (services : List Service) (total : ℤ)
    (candidate : Candidate) : CandidateReview :=
  let concrete := services.filter fun s => s.key≠""
  let domain := reviewDomain py candidate.domain
  let queries := max 0 candidate.queries
  let found := signatureMatches py concrete domain
  let hints := if found=[] then nameHints py concrete domain else []
  { domain := domain
    queries := queries
    unknownQueryShare := if total=0 then none else some (share queries total)
    reviewState := if found≠[] then .signatureMatch
      else if hints≠[] then .nameHint else .unmatched
    signatureMatches := found
    nameHints := hints
    recommendedAction :=
      if found≠[] then
        if found.any SignatureMatch.classifierEnabled then
          "Check catalogue timing / telemetry consumer"
        else "Review disabled classifier"
      else if hints≠[] then "Review existing service signatures"
      else "Review as a custom-service candidate"
    prefillDns := domain }

/-- `build_candidate_reviews`. -/
def buildCandidateReviews (share : ℤ → ℤ → ℤ) (candidates : List Candidate)
    (services : List Service) (unknownQueriesTotal : ℤ) : List CandidateReview :=
  candidates.map (candidateReview py share services (max 0 unknownQueriesTotal))

end Workbench

section Publishable

/-- A service as `save_service` stores it. -/
structure Publishable (s : Service) : Prop where
  key : IsKey s.key
  named : strip s.name≠""
  suffixes : ∀ suffix ∈ s.dnsSuffixes, isDnsSuffix suffix=true

variable {suffix domain : String}

lemma isLowerAlnum_toNat {c : Char} (h : isLowerAlnum c=true) :
    (97 ≤ c.toNat ∧ c.toNat ≤ 122) ∨ (48 ≤ c.toNat ∧ c.toNat ≤ 57) := by
  simp only [isLowerAlnum,Bool.or_eq_true,Bool.and_eq_true,decide_eq_true_eq,Char.le_def,
    UInt32.le_iff_toNat_le] at h
  exact h

lemma isLowerAlnum_space {c : Char} (h : isLowerAlnum c=true) : isSpace c=false := by
  have hc := isLowerAlnum_toNat h
  simp only [isSpace,Bool.or_eq_false_iff,Bool.and_eq_false_iff,decide_eq_false_iff_not]
  omega

/-- The characters of a suffix. -/
lemma suffix_chars (h : isDnsSuffix suffix=true) : suffix≠"" ∧
    (∀ c ∈ suffix.toList.head?, isLowerAlnum c=true) ∧
    (∀ c ∈ suffix.toList.getLast?, isLowerAlnum c=true) ∧
    ∀ c ∈ suffix.toList, isLowerAlnum c=true ∨ c= '.' ∨ c= '-' := by
  simp only [isDnsSuffix,Bool.and_eq_true,List.all_eq_true,Bool.or_eq_true,decide_eq_true_eq] at h
  obtain ⟨⟨hfirst,hlast⟩,hall⟩ := h
  refine ⟨?_,fun c hc => ?_,fun c hc => ?_,fun c hc => ?_⟩
  · rintro rfl
    simp at hfirst
  · rw [Option.mem_def.mp hc] at hfirst
    exact hfirst
  · rw [Option.mem_def.mp hc] at hlast
    exact hlast
  · exact or_assoc.mp (hall c hc)

lemma suffix_ascii (h : isDnsSuffix suffix=true) : ∀ c ∈ suffix.toList,
    c.toLower=c ∧ c.toNat<128 ∧ isSpace c=false ∧ c≠ '*' := by
  intro c hc
  rcases (suffix_chars h).2.2.2 c hc with hc | rfl | rfl
  · have hnat := isLowerAlnum_toNat hc
    refine ⟨Char.toNat_inj.mp ?_,by omega,isLowerAlnum_space hc,?_⟩
    · rw [toNat_toLower,if_neg (by omega)]
    · rintro rfl
      revert hc
      decide
  · decide
  · decide

lemma underSuffix_iff : underSuffix domain suffix=true ↔
    domain=suffix ∨ '.'::suffix.toList <:+ domain.toList := by
  simp [underSuffix]

/-- A covered domain ends as the suffix does. -/
lemma covered_last (h : isDnsSuffix suffix=true) (hunder : underSuffix domain suffix=true) :
    ∃ c, domain.toList.getLast?=some c ∧ isLowerAlnum c=true := by
  obtain ⟨hne,-,hlast,-⟩ := suffix_chars h
  have hlist : suffix.toList≠[] := fun hnil => hne (String.toList_eq_nil_iff.mp hnil)
  have hend : suffix.toList.getLast?=some (suffix.toList.getLast hlist) :=
    List.getLast?_eq_getLast_of_ne_nil hlist
  refine ⟨_,?_,hlast _ hend⟩
  rcases underSuffix_iff.mp hunder with rfl | ⟨front,hfront⟩
  · exact hend
  · rw [← hfront,List.getLast?_append_of_ne_nil _ (List.cons_ne_nil _ _),List.getLast?_cons,hend]
    rfl

end Publishable

section Cleaning
variable {py : PyRuntime}

/-- A domain as `classify_domain` matches it. -/
def shown (py : PyRuntime) (domain : String) : String := dropDots (py.lower domain)

lemma dropDots_append (text : String) :
    ∃ n, text.toList=(dropDots text).toList ++ List.replicate n '.' := by
  have hsplit := List.takeWhile_append_dropWhile (p:=fun c => decide (c= '.'))
    (l:=text.toList.reverse)
  obtain ⟨n,hdots⟩ : ∃ n, text.toList.reverse.takeWhile (fun c => decide (c= '.'))=
      List.replicate n '.' :=
    ⟨_,List.eq_replicate_of_mem fun c hc => by simpa using List.mem_takeWhile_imp hc⟩
  refine ⟨n,?_⟩
  rw [dropDots,String.toList_ofList,← List.reverse_replicate,← hdots,← List.reverse_append,hsplit,
    List.reverse_reverse]

lemma dropDots_last (text : String) : ∀ c ∈ (dropDots text).toList.getLast?, c≠ '.' := by
  intro c hc
  rw [dropDots,String.toList_ofList,List.getLast?_reverse] at hc
  have hhead := List.head?_dropWhile_not (fun c => decide (c= '.')) text.toList.reverse
  rw [hc] at hhead
  simpa using hhead

lemma dropDots_dots {front : List Char} (h : ∀ c ∈ front.getLast?, c≠ '.') (n : ℕ) :
    dropDots (String.ofList (front ++ List.replicate n '.'))=String.ofList front := by
  unfold dropDots
  rw [String.toList_ofList,List.reverse_append,List.reverse_replicate,
    List.dropWhile_append_of_pos (by simp)]
  congr 1
  have hkeep : front.reverse.dropWhile (fun c => decide (c= '.'))=front.reverse := by
    cases hfront : front.reverse with
    | nil => rfl
    | cons c rest =>
      refine List.dropWhile_cons_of_neg ?_
      have hlast : front.getLast?=some c := by
        rw [← List.head?_reverse,hfront]
        rfl
      simpa using h c hlast
  rw [hkeep,List.reverse_reverse]

/-- A text between blanks, with dots behind it, is what cleaning leaves. -/
lemma strip_between {front text back : List Char} (hfront : ∀ c ∈ front, isSpace c=true)
    (hback : ∀ c ∈ back, isSpace c=true) (hhead : ∀ c ∈ text.head?, isSpace c=false)
    (hlast : ∀ c ∈ text.getLast?, isSpace c=false) :
    strip (String.ofList (front ++ text ++ back))=String.ofList text := by
  have hkeep {cs rest : List Char} (hne : cs≠[]) (hcs : ∀ c ∈ cs.head?, isSpace c=false) :
      (cs ++ rest).dropWhile isSpace=cs ++ rest := by
    obtain ⟨c,cs,rfl⟩ := List.exists_cons_of_ne_nil hne
    exact List.dropWhile_cons_of_neg (by simpa using hcs c rfl)
  unfold strip
  rw [String.toList_ofList,List.append_assoc,List.dropWhile_append_of_pos hfront]
  congr 1
  by_cases hempty : text=[]
  · subst hempty
    rw [List.nil_append,List.dropWhile_eq_nil_iff.mpr hback]
    rfl
  · have hback' : ∀ c ∈ back.reverse, isSpace c=true := fun c hc => hback c (List.mem_reverse.mp hc)
    have hlast' : ∀ c ∈ text.reverse.head?, isSpace c=false := by rwa [List.head?_reverse]
    have hrest : (text.reverse ++ []).dropWhile isSpace=text.reverse ++ [] :=
      hkeep (List.reverse_ne_nil_iff.mpr hempty) hlast'
    rw [List.append_nil] at hrest
    rw [hkeep hempty hhead,List.reverse_append,List.dropWhile_append_of_pos hback',hrest,
      List.reverse_reverse]

/-- A text without a blank behind it is blanks and what `strip` leaves. -/
lemma split_front {text : String} (h : ∀ c ∈ text.toList.getLast?, isSpace c=false) :
    ∃ front rest : List Char, text.toList=front ++ rest ∧ (∀ c ∈ front, isSpace c=true) ∧
      (∀ c ∈ rest.head?, isSpace c=false) ∧ strip text=String.ofList rest := by
  have hsplit := (List.takeWhile_append_dropWhile (p:=isSpace) (l:=text.toList)).symm
  have hfront : ∀ c ∈ text.toList.takeWhile isSpace, isSpace c=true :=
    fun c hc => List.mem_takeWhile_imp hc
  have hhead : ∀ c ∈ (text.toList.dropWhile isSpace).head?, isSpace c=false := by
    intro c hc
    have hnot := List.head?_dropWhile_not isSpace text.toList
    rw [hc] at hnot
    simpa using hnot
  refine ⟨_,_,hsplit,hfront,hhead,?_⟩
  have hlast : ∀ c ∈ (text.toList.dropWhile isSpace).getLast?, isSpace c=false := by
    intro c hc
    refine h c ?_
    rw [hsplit]
    exact List.mem_getLast?_append_of_mem_getLast? hc
  have hbetween : strip (String.ofList (text.toList.takeWhile isSpace ++
      text.toList.dropWhile isSpace ++ []))=String.ofList (text.toList.dropWhile isSpace) :=
    strip_between hfront nofun hhead hlast
  rwa [List.append_nil,← hsplit,String.ofList_toList] at hbetween

/-- Where no blank stands behind the domain, every reader but the first one matches it without
the blanks in front of it. -/
lemma reviewDomain_shown (hlower : py.LowersText) {domain : String}
    (h : ∀ c ∈ (shown py domain).toList.getLast?, isSpace c=false) :
    reviewDomain py domain=strip (shown py domain) ∧
      reviewDomain py (reviewDomain py domain)=strip (shown py domain) := by
  obtain ⟨n,hlowered⟩ := dropDots_append (py.lower domain)
  have hdot := dropDots_last (py.lower domain)
  change ∀ c ∈ (shown py domain).toList.getLast?, c≠ '.' at hdot
  change (py.lower domain).toList=(shown py domain).toList ++ _ at hlowered
  obtain ⟨front,text,hshown,hfront,hhead,hstripped⟩ := split_front h
  have hends {p : Char → Prop} (hp : ∀ c ∈ (shown py domain).toList.getLast?, p c) :
      ∀ c ∈ text.getLast?, p c := by
    intro c hc
    refine hp c ?_
    rw [hshown]
    exact List.mem_getLast?_append_of_mem_getLast? hc
  have hbare : py.lower (strip domain)=String.ofList (text ++ List.replicate n '.') := by
    have hbetween := @strip_between front (text ++ List.replicate n '.') [] hfront nofun ?_ ?_
    · rwa [List.append_nil,← List.append_assoc,← hshown,← hlowered,String.ofList_toList,
        hlower.strip_lower] at hbetween
    · intro c hc
      cases text with
      | nil =>
        obtain rfl := List.eq_of_mem_replicate (List.mem_of_mem_head? hc)
        decide
      | cons d rest => exact hhead c hc
    · intro c hc
      cases n with
      | zero =>
        rw [List.replicate_zero,List.append_nil] at hc
        exact hends h c hc
      | succ n =>
        rw [List.replicate_succ',← List.append_assoc,List.getLast?_concat] at hc
        obtain rfl := Option.some.inj hc
        decide
  have hreview : reviewDomain py domain=String.ofList text := by
    unfold reviewDomain
    rw [hbare]
    exact dropDots_dots (hends hdot) n
  rw [hreview,hstripped]
  refine ⟨rfl,?_⟩
  have hpiece : py.lower (String.ofList text)=String.ofList text := by
    refine hlower.piece domain _ ⟨front,List.replicate n '.',?_⟩
    rw [String.toList_ofList,← hshown,← hlowered]
  have hagain := dropDots_dots (hends hdot) 0
  rw [List.replicate_zero,List.append_nil] at hagain
  unfold reviewDomain
  rw [← hstripped,strip_strip,hstripped,hpiece]
  exact hagain

/-- A suffix as `save_service` stores it is clean already. -/
lemma reviewDomain_suffix {suffix : String} (h : isDnsSuffix suffix=true) :
    reviewDomain py suffix=suffix := by
  obtain ⟨-,hfirst,hlast,-⟩ := suffix_chars h
  have hstrip : strip suffix=suffix := strip_eq_self
    (fun c hc => isLowerAlnum_space (hfirst c hc)) fun c hc => isLowerAlnum_space (hlast c hc)
  have hlower : py.lower suffix=suffix := by
    rw [py.lower_ascii suffix fun c hc => (suffix_ascii h c hc).2.1,nocase,
      (List.map_congr_left fun c hc => (suffix_ascii h c hc).1).trans (List.map_id' _),
      String.ofList_toList]
  have hdots := @dropDots_dots suffix.toList (fun c hc => ?_) 0
  · rw [List.replicate_zero,List.append_nil,String.ofList_toList] at hdots
    rw [reviewDomain,hstrip,hlower,hdots]
  · rintro rfl
    have hdot := hlast _ hc
    revert hdot
    decide

/-- `value[2:]` behind a wildcard. -/
def dropStar (value : String) : String :=
  match value.toList with
  | '*' :: '.' :: rest => String.ofList rest
  | _ => value

lemma textOr_str (value : String) : (PyVal.str value).textOr py=value := by
  by_cases hempty : value="" <;> simp [PyVal.textOr,PyVal.or,PyVal.truthy,PyVal.text,hempty]

lemma normalizeSuffix_str (value : String) :
    normalizeSuffix py (.str value)=dropStar (reviewDomain py value) := by
  have hvalue : dropDots (py.lower (strip ((PyVal.str value).textOr py)))=
      reviewDomain py value := by
    rw [reviewDomain,textOr_str]
  exact congrArg dropStar hvalue

lemma dropStar_suffix {suffix : String} (h : isDnsSuffix suffix=true) :
    dropStar suffix=suffix := by
  unfold dropStar
  split
  · rename_i rest hlist
    exact absurd rfl (suffix_ascii h '*' (by rw [hlist]; exact List.mem_cons_self)).2.2.2
  · rfl

/-- A wildcard in front of a domain does not change what covers it. -/
lemma underSuffix_dropStar {domain suffix : String} (h : isDnsSuffix suffix=true) :
    underSuffix (dropStar domain) suffix=underSuffix domain suffix := by
  unfold dropStar
  split
  · rename_i rest hlist
    rw [Bool.eq_iff_iff,underSuffix_iff,underSuffix_iff,hlist,String.toList_ofList]
    have hstar : '*' ∉ suffix.toList := fun hin => (suffix_ascii h '*' hin).2.2.2 rfl
    constructor
    · rintro (heq | hbelow)
      · have hrest : suffix.toList=rest := by rw [← heq,String.toList_ofList]
        exact .inr (hrest ▸ List.suffix_cons '*' _)
      · exact .inr (hbelow.trans ((List.suffix_cons '.' rest).trans (List.suffix_cons '*' _)))
    · rintro (rfl | hbelow)
      · exact absurd (hlist ▸ List.mem_cons_self) hstar
      · rcases List.suffix_cons_iff.mp hbelow with heq | hbelow
        · exact absurd (List.cons.inj heq).1 (by decide)
        · rcases List.suffix_cons_iff.mp hbelow with heq | hbelow
          · exact .inl (by rw [← (List.cons.inj heq).2,String.ofList_toList])
          · exact .inr hbelow
  · rfl

end Cleaning

section Saved
variable {env : Env}

lemma dnsSuffix_valid {raw : PyVal} {suffix : String} (h : dnsSuffix env raw=.ok (some suffix)) :
    isDnsSuffix suffix=true := by
  unfold dnsSuffix at h
  dsimp only at h
  split_ifs at h with hempty
  · cases h
  · obtain ⟨_,hvalid,h⟩ := bind_ok h
    obtain rfl := Option.some.inj (Except.ok.inj h)
    have hnot := refuse_ok hvalid
    push Not at hnot
    simpa using hnot.2

lemma mapM_from {α β : Type} {f : α → Py β} : ∀ {xs : List α} {ys : List β}, xs.mapM f=.ok ys →
    ∀ y ∈ ys, ∃ x ∈ xs, f x=.ok y
  | [],ys,h => by
    obtain rfl := Except.ok.inj h
    nofun
  | x::xs,ys,h => by
    rw [List.mapM_cons] at h
    obtain ⟨y,hy,h⟩ := bind_ok h
    obtain ⟨rest,hrest,h⟩ := bind_ok h
    obtain rfl := Except.ok.inj h
    intro z hz
    rcases List.mem_cons.mp hz with rfl | hz
    · exact ⟨x,List.mem_cons_self,hy⟩
    · obtain ⟨w,hw,hwz⟩ := mapM_from hrest z hz
      exact ⟨w,List.mem_cons_of_mem x hw,hwz⟩

/-- What is kept of a list has passed the check. -/
lemma normalizedValues_checked {check : PyVal → Py (Option String)} {limit : ℕ} {values : PyVal}
    {kept : List String} (h : normalizedValues check limit values=.ok kept) :
    ∀ v ∈ kept, ∃ raw, check raw=.ok (some v) := by
  unfold normalizedValues at h
  obtain ⟨raws,-,h⟩ := bind_ok h
  obtain ⟨found,hfound,h⟩ := bind_ok h
  obtain rfl := Except.ok.inj h
  have hfrom : ∀ (vs seen : List String), ∀ v ∈ vs.foldl
      (fun seen v => if v ∈ seen then seen else seen ++ [v]) seen, v ∈ vs ∨ v ∈ seen := by
    intro vs
    induction vs with
    | nil => exact fun _ _ hv => .inr hv
    | cons w vs ih =>
      intro seen v hv
      rcases ih _ v hv with hin | hin
      · exact .inl (List.mem_cons_of_mem w hin)
      · dsimp only at hin
        split_ifs at hin
        · exact .inr hin
        · rcases List.mem_append.mp hin with hin | hin
          · exact .inr hin
          · exact .inl (List.mem_singleton.mp hin ▸ List.mem_cons_self)
  intro v hv
  rcases hfrom _ _ v (List.mem_of_mem_take hv) with hin | hin
  · obtain ⟨_,hsome,rfl⟩ := List.mem_filterMap.mp hin
    obtain ⟨raw,-,hraw⟩ := mapM_from hfound _ hsome
    exact ⟨raw,hraw⟩
  · cases hin

lemma strip_clip {text : String} {n : ℕ} (h : strip text≠"") (hn : n≠0) :
    strip (clip (strip text) n)≠"" := by
  cases hlist : (strip text).toList with
  | nil => exact absurd (String.toList_eq_nil_iff.mp hlist) h
  | cons c rest =>
    have hspace := strip_head text c (by rw [hlist]; rfl)
    obtain ⟨m,rfl⟩ := Nat.exists_eq_succ_of_ne_zero hn
    refine strip_ne_empty (c:=c) ?_ hspace
    rw [clip,String.toList_ofList,hlist]
    exact List.mem_cons_self

/-- What passes the checks of `save_service` is publishable. -/
lemma checkedService_publishable {a : ServiceArgs} {new : Service}
    (h : checkedService env a=.ok new) : Publishable new := by
  have hkey := (checkedService_ok h).1
  obtain ⟨text,-,h⟩ := bind_ok h
  obtain ⟨_,-,h⟩ := bind_ok h
  obtain ⟨name,hname,h⟩ := bind_ok h
  obtain ⟨_,hnamed,h⟩ := bind_ok h
  obtain ⟨category,-,h⟩ := bind_ok h
  obtain ⟨dns,hdns,h⟩ := bind_ok h
  obtain ⟨tls,-,h⟩ := bind_ok h
  obtain rfl := Except.ok.inj h
  refine ⟨hkey,?_,fun suffix hsuffix => ?_⟩
  · unfold PyVal.stripped at hname
    cases htext : a.name.asText with
    | error e =>
      rw [htext] at hname
      cases hname
    | ok raw =>
      rw [htext] at hname
      obtain rfl := Except.ok.inj hname
      exact strip_clip (refuse_ok hnamed) (by decide)
  · obtain ⟨raw,hraw⟩ := normalizedValues_checked hdns suffix hsuffix
    exact dnsSuffix_valid hraw

/-- A save keeps all services publishable. -/
lemma upsertService_publishable {service : Service} {t t' : Tables} (hnew : Publishable service)
    (h : ∀ s ∈ t.services, Publishable s) (hrun : upsertService service t=.ok t') :
    ∀ s ∈ t'.services, Publishable s := by
  unfold upsertService at hrun
  split_ifs at hrun
  split at hrun
  · obtain rfl := Except.ok.inj hrun
    intro v hv
    obtain ⟨w,hw,rfl⟩ := List.mem_map.mp hv
    by_cases hsame : w.key=service.key
    · rw [if_pos hsame]
      exact ⟨(h w hw).key,hnew.named,hnew.suffixes⟩
    · rw [if_neg hsame]
      exact h w hw
  · obtain rfl := Except.ok.inj hrun
    intro v hv
    rcases List.mem_append.mp hv with hold | hin
    · exact h v hold
    · exact List.mem_singleton.mp hin ▸ hnew

end Saved

section Owners

/-- A name is that of a service that publishes the longest suffix that covers a domain; of two
services with that suffix, the first by name. -/
def Owns (services : List Service) (covers : String → Prop) (name : String) : Prop :=
  ∃ s ∈ services, ∃ suffix ∈ s.dnsSuffixes, covers suffix ∧ strip s.name=name ∧
    ∀ s' ∈ services, ∀ suffix' ∈ s'.dnsSuffixes, covers suffix' →
      suffix'.length<suffix.length ∨ (suffix'=suffix ∧ ¬strip s'.name<name)

/-- Some service publishes a suffix that covers a domain. -/
def Covered (services : List Service) (covers : String → Prop) : Prop :=
  ∃ s ∈ services, ∃ suffix ∈ s.dnsSuffixes, covers suffix

variable {services : List Service} {covers : String → Prop} {name name' : String}

lemma Owns.covered (h : Owns services covers name) : Covered services covers := by
  obtain ⟨s,hs,suffix,hsuffix,hcovers,-⟩ := h
  exact ⟨s,hs,suffix,hsuffix,hcovers⟩

lemma Owns.unique (h : Owns services covers name) (h' : Owns services covers name') :
    name=name' := by
  obtain ⟨s,hs,suffix,hsuffix,hcovers,rfl,hbest⟩ := h
  obtain ⟨s',hs',suffix',hsuffix',hcovers',rfl,hbest'⟩ := h'
  rcases hbest s' hs' suffix' hsuffix' hcovers' with hshort | ⟨rfl,hle⟩
  · rcases hbest' s hs suffix hsuffix hcovers with hshort' | ⟨rfl,-⟩
    · omega
    · omega
  · rcases hbest' s hs suffix' hsuffix hcovers with hshort' | ⟨-,hle'⟩
    · omega
    · exact String.le_antisymm (String.not_lt.mp hle) (String.not_lt.mp hle')

lemma Owns.congr {services' : List Service} {covers' : String → Prop}
    (hsame : ∀ s, s ∈ services ↔ s ∈ services')
    (h : ∀ s ∈ services, ∀ suffix ∈ s.dnsSuffixes, covers suffix ↔ covers' suffix) :
    Owns services covers name ↔ Owns services' covers' name := by
  unfold Owns
  simp only [← hsame]
  refine exists_congr fun s => and_congr_right fun hs => exists_congr fun suffix =>
    and_congr_right fun hsuffix => and_congr (h s hs suffix hsuffix) (and_congr_right fun _ => ?_)
  exact forall₂_congr fun s' hs' => forall₂_congr fun suffix' hsuffix' =>
    imp_congr (h s' hs' suffix' hsuffix') Iff.rfl

lemma earlierSuffix_total (a b : String × Definition) : earlierSuffix a b ∨ earlierSuffix b a := by
  unfold earlierSuffix
  rcases Nat.lt_trichotomy a.1.length b.1.length with hlt | hlen | hlt
  · exact .inr (.inl hlt)
  · by_cases hab : a.1<b.1
    · exact .inl (.inr ⟨hlen,.inl hab⟩)
    · by_cases hba : b.1<a.1
      · exact .inr (.inr ⟨hlen.symm,.inl hba⟩)
      · have heq := String.le_antisymm (String.not_lt.mp hba) (String.not_lt.mp hab)
        by_cases hname : b.2.service<a.2.service
        · exact .inr (.inr ⟨hlen.symm,.inr ⟨heq.symm,String.lt_asymm hname⟩⟩)
        · exact .inl (.inr ⟨hlen,.inr ⟨heq,hname⟩⟩)
  · exact .inl (.inl hlt)

lemma earlierSuffix_trans {a b c : String × Definition} (h : earlierSuffix a b)
    (h' : earlierSuffix b c) : earlierSuffix a c := by
  unfold earlierSuffix at *
  rcases h with hlt | ⟨hlen,h⟩
  · rcases h' with hlt' | ⟨hlen',-⟩
    · exact .inl (hlt'.trans hlt)
    · exact .inl (hlen' ▸ hlt)
  · rcases h' with hlt' | ⟨hlen',h'⟩
    · exact .inl (hlen ▸ hlt')
    · refine .inr ⟨hlen.trans hlen',?_⟩
      rcases h with hab | ⟨hab,hname⟩ <;> rcases h' with hbc | ⟨hbc,hname'⟩
      · exact .inl (String.lt_trans hab hbc)
      · exact .inl (hbc ▸ hab)
      · exact .inl (hab ▸ hbc)
      · exact .inr ⟨hab.trans hbc,String.not_lt.mpr
          (String.le_trans (String.not_lt.mp hname) (String.not_lt.mp hname'))⟩

instance : Std.Total earlierSuffix := ⟨earlierSuffix_total⟩

instance : IsTrans (String × Definition) earlierSuffix := ⟨fun _ _ _ => earlierSuffix_trans⟩

/-- A compiled catalogue holds the suffixes that services publish, each with the name of its
service. -/
structure Publishes (services : List Service) (compiled : Compiled) : Prop where
  named : ∀ e ∈ compiled, ∃ s ∈ services, e.1 ∈ s.dnsSuffixes ∧ e.2.service=strip s.name
  listed : ∀ s ∈ services, ∀ suffix ∈ s.dnsSuffixes, ∃ e ∈ compiled, e.1=suffix ∧
    e.2.service=strip s.name
  ordered : compiled.Pairwise earlierSuffix

lemma suffix_of_under {domain suffix : String} (h : underSuffix domain suffix=true) :
    suffix.toList <:+ domain.toList := by
  rcases underSuffix_iff.mp h with rfl | hbelow
  · exact List.suffix_refl _
  · exact (List.suffix_cons '.' _).trans hbelow

/-- The suffixes of one length that cover a domain are the same. -/
lemma under_same {domain suffix suffix' : String} (h : underSuffix domain suffix=true)
    (h' : underSuffix domain suffix'=true) (hlen : suffix.length=suffix'.length) :
    suffix=suffix' := by
  rw [← String.length_toList,← String.length_toList] at hlen
  have hsuffix := List.suffix_of_suffix_length_le (suffix_of_under h) (suffix_of_under h') hlen.le
  exact String.toList_injective (hsuffix.eq_of_length hlen)

/-- The first covering suffix of the compiled catalogue belongs to the owner. -/
lemma find_owns {compiled : Compiled} (h : Publishes services compiled) {domain : String}
    {e : String × Definition} (hfind : firstSuffix compiled domain=some e) :
    Owns services (fun suffix => underSuffix domain suffix=true) e.2.service := by
  obtain ⟨hunder,before,after,hsplit,hbefore⟩ := List.find?_eq_some_iff_append.mp hfind
  obtain ⟨s,hs,hsuffix,hservice⟩ := h.named e (List.mem_of_find?_eq_some hfind)
  refine ⟨s,hs,e.1,hsuffix,hunder,hservice.symm,fun s' hs' suffix' hsuffix' hunder' => ?_⟩
  obtain ⟨e',he',rfl,hservice'⟩ := h.listed s' hs' suffix' hsuffix'
  have hafter : e'=e ∨ e' ∈ after := by
    rw [hsplit] at he'
    rcases List.mem_append.mp he' with hin | hin
    · have hnot := hbefore e' hin
      rw [hunder'] at hnot
      cases hnot
    · exact List.mem_cons.mp hin
  rw [← hservice']
  rcases hafter with rfl | hin
  · exact .inr ⟨rfl,String.lt_irrefl _⟩
  · have hordered := h.ordered
    rw [hsplit] at hordered
    have hearlier := (List.pairwise_cons.mp (List.pairwise_append.mp hordered).2.1).1 e' hin
    rcases hearlier with hlt | ⟨hlen,hlater⟩
    · exact .inl hlt
    · have hsame := under_same hunder hunder' hlen
      rcases hlater with hlt | ⟨-,hname⟩
      · exact absurd (hsame ▸ hlt) (String.lt_irrefl _)
      · exact .inr ⟨hsame.symm,hname⟩

lemma find_none {compiled : Compiled} (h : Publishes services compiled) {domain : String} :
    firstSuffix compiled domain=none ↔
      ¬Covered services fun suffix => underSuffix domain suffix=true := by
  unfold firstSuffix
  rw [List.find?_eq_none]
  constructor
  · rintro hnone ⟨s,hs,suffix,hsuffix,hunder⟩
    obtain ⟨e,he,rfl,-⟩ := h.listed s hs suffix hsuffix
    exact hnone e he hunder
  · intro hnone e he hunder
    obtain ⟨s,hs,hsuffix,-⟩ := h.named e he
    exact hnone ⟨s,hs,e.1,hsuffix,hunder⟩

end Owners

section Loading
variable {py : PyRuntime}

lemma entrySuffixes_accepted {s : Service} (h : Publishable s) :
    entrySuffixes py (exportEntry s)=.ok s.dnsSuffixes := by
  have hread : entrySuffixes py (exportEntry s)=
      .ok (((s.dnsSuffixes.map PyVal.str).map (normalizeSuffix py)).filter fun x => x≠"") := by
    obtain ⟨key,name,description,builtin,category,dnsSuffixes⟩ := s
    cases dnsSuffixes <;> rfl
  have hsame : (s.dnsSuffixes.map PyVal.str).map (normalizeSuffix py)=s.dnsSuffixes := by
    rw [List.map_map]
    refine (List.map_congr_left fun suffix hsuffix => ?_).trans (List.map_id _)
    have hvalid := h.suffixes suffix hsuffix
    change normalizeSuffix py (.str suffix)=suffix
    rw [normalizeSuffix_str,reviewDomain_suffix hvalid,dropStar_suffix hvalid]
  rw [hread,hsame]
  refine congrArg Except.ok (List.filter_eq_self.mpr fun suffix hsuffix => ?_)
  exact decide_eq_true (suffix_chars (h.suffixes suffix hsuffix)).1

lemma serviceDefinition_accepted {s : Service} (h : Publishable s) :
    ∃ d, serviceDefinition py (exportEntry s)=.ok d ∧ d.service=strip s.name := by
  obtain ⟨d,hd,-,hservice⟩ := @serviceDefinition_export py s h.key.1
  have hname : s.name≠"" := fun hempty => h.named (by rw [hempty]; rfl)
  refine ⟨d,hd,?_⟩
  rw [hservice,orElse,if_neg hname]

/-- The published catalogue is loaded, and holds what the exported services publish. -/
lemma loadLive_publishes {t : Tables} (h : ∀ s ∈ t.services, Publishable s) (generatedAt : String) :
    ∃ compiled definitions,
      loadLive py (exportServiceCatalog generatedAt t)=.ok (compiled,definitions) ∧
      Publishes (exported t) compiled := by
  have hexported : ∀ s ∈ exported t, Publishable s := fun s hs =>
    h s (mem_listServices.mp (List.mem_filter.mp hs).1)
  suffices hcompiled : ∀ services : List Service, (∀ s ∈ services, Publishable s) →
      ∃ compiled definitions,
        compileEntries py (services.map exportEntry)=.ok (compiled,definitions) ∧
        (∀ e ∈ compiled, ∃ s ∈ services, e.1 ∈ s.dnsSuffixes ∧ e.2.service=strip s.name) ∧
        ∀ s ∈ services, ∀ suffix ∈ s.dnsSuffixes, ∃ e ∈ compiled, e.1=suffix ∧
          e.2.service=strip s.name by
    obtain ⟨compiled,definitions,hcompile,hnamed,hlisted⟩ := hcompiled _ hexported
    refine ⟨compiled.insertionSort earlierSuffix,definitions,?_,fun e he => ?_,
      fun s hs suffix hsuffix => ?_,List.pairwise_insertionSort _ _⟩
    · change compile py (.list ((exported t).map exportEntry))=_
      unfold compile
      dsimp only
      rw [hcompile]
      rfl
    · exact hnamed e ((List.mem_insertionSort _).mp he)
    · obtain ⟨e,he,hrow⟩ := hlisted s hs suffix hsuffix
      exact ⟨e,(List.mem_insertionSort _).mpr he,hrow⟩
  intro services
  induction services with
  | nil => exact fun _ => ⟨[],[],rfl,nofun,nofun⟩
  | cons s services ih =>
    intro haccepted
    obtain ⟨compiled,definitions,hcompile,hnamed,hlisted⟩ :=
      ih fun v hv => haccepted v (List.mem_cons_of_mem s hv)
    have hs := haccepted s List.mem_cons_self
    obtain ⟨d,hd,hservice⟩ := @serviceDefinition_accepted py s hs
    have hne : d.service≠"" := hservice ▸ hs.named
    refine ⟨s.dnsSuffixes.map (fun suffix => (suffix,d)) ++ compiled,d::definitions,?_,
      fun e he => ?_,fun v hv suffix hsuffix => ?_⟩
    · rw [List.map_cons,compileEntries_cons rfl hd (entrySuffixes_accepted hs) hcompile,
        if_neg hne]
    · rcases List.mem_append.mp he with hown | hold
      · obtain ⟨suffix,hsuffix,rfl⟩ := List.mem_map.mp hown
        exact ⟨s,List.mem_cons_self,hsuffix,hservice⟩
      · obtain ⟨v,hv,hrow⟩ := hnamed e hold
        exact ⟨v,List.mem_cons_of_mem s hv,hrow⟩
    · rcases List.mem_cons.mp hv with rfl | hv
      · exact ⟨(suffix,d),List.mem_append_left _ (List.mem_map.mpr ⟨suffix,hsuffix,rfl⟩),rfl,
          hservice⟩
      · obtain ⟨e,he,hrow⟩ := hlisted v hv suffix hsuffix
        exact ⟨e,List.mem_append_right _ he,hrow⟩

end Loading

section Alike
variable (py : PyRuntime) (share : ℤ → ℤ → ℤ) (t : Tables) (domain : String)

/-- The readers of a catalogue agree on a domain: it is classified by the owner of the longest
published suffix that covers it, whatever the order of the services, a record with it as DNS
evidence is attributed to the same service, and the workbench marks it with an enabled match
exactly where there is one. -/
structure ReadAlike (compiled : Compiled) (definitions : List Definition) : Prop where
  owner : ∀ name, name≠"" → (classifyDomain py compiled (.str domain)=name ↔
    Owns (exported t) (fun suffix => underSuffix (shown py domain) suffix=true) name)
  free : classifyDomain py compiled (.str domain)="" ↔
    ¬Covered (exported t) fun suffix => underSuffix (shown py domain) suffix=true
  order : ∀ t' generatedAt compiled' definitions', t'.services.Perm t.services →
    loadLive py (exportServiceCatalog generatedAt t')=.ok (compiled',definitions') →
    classifyDomain py compiled' (.str domain)=classifyDomain py compiled (.str domain)
  record : (classifyRecord py compiled definitions { dns := .str domain }).service=
    orElse (classifyDomain py compiled (.str domain)) "Unknown"
  review : ∀ queries total,
    let review := candidateReview py share (listServices t) total ⟨domain,queries⟩
    (review.reviewState=.signatureMatch ∧
      review.signatureMatches.any SignatureMatch.classifierEnabled=true) ↔
        classifyDomain py compiled (.str domain)≠""

/-- No blank at an end of a domain hides a published suffix: with a blank behind it none covers
the cleaned domain, and with one in front of it the owner of the cleaned domain owns it by a
suffix above it. -/
structure Unhidden : Prop where
  behind : (∃ c ∈ (shown py domain).toList.getLast?, isSpace c=true) → ¬Covered (exported t)
    fun suffix => underSuffix (reviewDomain py (reviewDomain py domain)) suffix=true
  before : (∃ c ∈ (shown py domain).toList.head?, isSpace c=true) → ∀ name, Owns (exported t)
      (fun suffix => underSuffix (reviewDomain py (reviewDomain py domain)) suffix=true) name →
    Owns (exported t) (fun suffix =>
      '.'::suffix.toList <:+ (reviewDomain py (reviewDomain py domain)).toList) name

variable {py share t domain}

/-- The name of the first suffix that covers a domain. -/
def nameOf (compiled : Compiled) (domain : String) : String :=
  ((firstSuffix compiled domain).map fun e => e.2.service).getD ""

variable {services : List Service} {compiled : Compiled} {definitions : List Definition}

lemma nameOf_eq_empty (haccepted : ∀ s ∈ services, Publishable s)
    (h : Publishes services compiled) :
    nameOf compiled domain="" ↔ ¬Covered services fun suffix => underSuffix domain suffix=true := by
  rw [← find_none h]
  unfold nameOf
  cases hfind : firstSuffix compiled domain with
  | none => simp
  | some e =>
    obtain ⟨s,hs,-,hservice⟩ := h.named e (List.mem_of_find?_eq_some hfind)
    refine iff_of_false ?_ (by simp)
    change e.2.service≠""
    exact hservice ▸ (haccepted s hs).named

lemma nameOf_eq (haccepted : ∀ s ∈ services, Publishable s) (h : Publishes services compiled)
    {name : String} (hname : name≠"") : nameOf compiled domain=name ↔
      Owns services (fun suffix => underSuffix domain suffix=true) name := by
  constructor
  · rintro rfl
    unfold nameOf at hname ⊢
    cases hfind : firstSuffix compiled domain with
    | none =>
      rw [hfind] at hname
      exact absurd rfl hname
    | some e => exact find_owns h hfind
  · intro howns
    have hsome : nameOf compiled domain≠"" := fun hempty =>
      (nameOf_eq_empty haccepted h).mp hempty howns.covered
    unfold nameOf at hsome ⊢
    cases hfind : firstSuffix compiled domain with
    | none =>
      rw [hfind] at hsome
      exact absurd rfl hsome
    | some e => exact (find_owns h hfind).unique howns

lemma not_covered_empty (haccepted : ∀ s ∈ services, Publishable s) :
    ¬Covered services fun suffix => underSuffix "" suffix=true := by
  rintro ⟨s,hs,suffix,hsuffix,hunder⟩
  obtain ⟨c,hc,-⟩ := covered_last ((haccepted s hs).suffixes suffix hsuffix) hunder
  cases hc

lemma classifyDomain_name (haccepted : ∀ s ∈ services, Publishable s)
    (h : Publishes services compiled) :
    classifyDomain py compiled (.str domain)=nameOf compiled (shown py domain) := by
  unfold classifyDomain
  rw [textOr_str]
  change (if shown py domain="" then "" else nameOf compiled (shown py domain))=_
  split_ifs with hempty
  · rw [hempty,(nameOf_eq_empty haccepted h).mpr (not_covered_empty haccepted)]
  · rfl

/-- The DNS evidence of a record is matched as a cleaned domain. -/
lemma domainMatch_str (haccepted : ∀ s ∈ services, Publishable s)
    (h : Publishes services compiled) :
    domainMatch py compiled (.str domain)=firstSuffix compiled (reviewDomain py domain) := by
  have hsame : firstSuffix compiled (dropStar (reviewDomain py domain))=
      firstSuffix compiled (reviewDomain py domain) := by
    refine List.find?_congr fun e he => ?_
    obtain ⟨s,hs,hsuffix,-⟩ := h.named e he
    exact underSuffix_dropStar ((haccepted s hs).suffixes e.1 hsuffix)
  unfold domainMatch
  rw [normalizeSuffix_str]
  dsimp only
  split_ifs with hempty
  · rw [← hsame,hempty,(find_none h).mpr (not_covered_empty haccepted)]
  · exact hsame

lemma classifyRecord_name (haccepted : ∀ s ∈ services, Publishable s)
    (h : Publishes services compiled) :
    (classifyRecord py compiled definitions { dns := .str domain }).service=
      orElse (nameOf compiled (reviewDomain py domain)) "Unknown" := by
  have hmanual : manualService py definitions .none=none := rfl
  have hflow : domainMatch py compiled .none=none := by
    refine if_pos ?_
    have hempty : dropDots (py.lower (strip (PyVal.none.textOr py)))="" := by
      change dropDots (py.lower "")=""
      rw [py.lower_ascii "" (by simp)]
      rfl
    unfold normalizeSuffix
    rw [hempty]
    rfl
  unfold classifyRecord nameOf
  rw [hmanual]
  dsimp only [addressListService]
  rw [domainMatch_str haccepted h,hflow]
  cases firstSuffix compiled (reviewDomain py domain) with
  | some e => rfl
  | none => rfl

lemma domainMatchesSuffix_iff {suffix : String} (hsuffix : isDnsSuffix suffix=true) :
    domainMatchesSuffix py domain suffix=true ↔
      underSuffix (reviewDomain py domain) suffix=true := by
  have hstar : withoutStart "*." suffix=suffix := by
    refine if_neg fun hstart => ?_
    have hin : '*' ∈ suffix.toList :=
      (String.startsWith_string_iff.mp hstart).subset List.mem_cons_self
    exact (suffix_ascii hsuffix '*' hin).2.2.2 rfl
  have hne := (suffix_chars hsuffix).1
  unfold domainMatchesSuffix
  dsimp only
  rw [reviewDomain_suffix hsuffix,hstar]
  simp only [Bool.and_eq_true,decide_eq_true_eq]
  refine ⟨fun hmatch => hmatch.2,fun hunder => ⟨⟨fun hempty => ?_,hne⟩,hunder⟩⟩
  obtain ⟨c,hc,-⟩ := covered_last hsuffix hunder
  rw [hempty] at hc
  cases hc

lemma review_covered (haccepted : ∀ s ∈ t.services, Publishable s) (queries total : ℤ) :
    let review := candidateReview py share (listServices t) total ⟨domain,queries⟩
    (review.reviewState=.signatureMatch ∧
      review.signatureMatches.any SignatureMatch.classifierEnabled=true) ↔
        Covered (exported t) fun suffix =>
          underSuffix (reviewDomain py (reviewDomain py domain)) suffix=true := by
  unfold candidateReview
  dsimp only
  generalize hfound : signatureMatches py ((listServices t).filter fun s => s.key≠"")
    (reviewDomain py domain)=found
  have hany : found.any SignatureMatch.classifierEnabled=true ↔ Covered (exported t) fun suffix =>
      underSuffix (reviewDomain py (reviewDomain py domain)) suffix=true := by
    rw [← hfound,List.any_eq_true]
    unfold signatureMatches Covered exported
    simp only [List.mem_filterMap,List.mem_filter,decide_eq_true_eq,Bool.and_eq_true]
    constructor
    · rintro ⟨m,⟨s,⟨hs,hkey⟩,hm⟩,henabled⟩
      have haccept := haccepted s (mem_listServices.mp hs)
      split_ifs at hm with hnone
      obtain rfl := Option.some.inj hm
      obtain ⟨suffix,hsuffix⟩ := List.exists_mem_of_ne_nil _ hnone
      obtain ⟨hin,hmatch⟩ := List.mem_filter.mp hsuffix
      refine ⟨s,⟨hs,henabled,?_⟩,suffix,hin,
        (domainMatchesSuffix_iff (haccept.suffixes suffix hin)).mp hmatch⟩
      simp [List.ne_nil_of_mem hin]
    · rintro ⟨s,⟨hs,henabled,-⟩,suffix,hin,hunder⟩
      have haccept := haccepted s (mem_listServices.mp hs)
      have hmatch := (domainMatchesSuffix_iff (haccept.suffixes suffix hin)).mpr hunder
      refine ⟨_,⟨s,⟨hs,haccept.key.1⟩,if_neg ?_⟩,henabled⟩
      exact List.ne_nil_of_mem (List.mem_filter.mpr ⟨hin,hmatch⟩)
  rw [← hany]
  refine ⟨fun h => h.2,fun h => ⟨if_pos ?_,h⟩⟩
  rintro rfl
  cases h

/-- A cleaned domain that a suffix covers is not cleaned further. -/
lemma reviewDomain_covered (hlower : py.LowersText) {suffix : String}
    (hsuffix : isDnsSuffix suffix=true)
    (h : underSuffix (reviewDomain py domain) suffix=true) :
    reviewDomain py (reviewDomain py domain)=reviewDomain py domain := by
  obtain ⟨n,hlowered⟩ := dropDots_append (py.lower (strip domain))
  have hdot := dropDots_last (py.lower (strip domain))
  change (py.lower (strip domain)).toList=(reviewDomain py domain).toList ++ _ at hlowered
  change ∀ c ∈ (reviewDomain py domain).toList.getLast?, c≠ '.' at hdot
  obtain ⟨c,hc,halnum⟩ := covered_last hsuffix h
  have hstrip : strip (reviewDomain py domain)=reviewDomain py domain := by
    refine strip_eq_self (fun d hd => ?_) fun d hd => ?_
    · have hhead := strip_head (py.lower domain) d
      rw [hlower.strip_lower,hlowered] at hhead
      exact hhead (List.mem_head?_append_of_mem_head? hd)
    · rw [hc] at hd
      exact Option.some.inj hd ▸ isLowerAlnum_space halnum
  have hinner : (reviewDomain py domain).toList <:+: (py.lower (strip domain)).toList :=
    ⟨[],List.replicate n '.',by rw [hlowered,List.nil_append]⟩
  have hpiece : py.lower (reviewDomain py domain)=reviewDomain py domain :=
    hlower.piece (strip domain) _ hinner
  have hagain := dropDots_dots hdot 0
  rw [List.replicate_zero,List.append_nil,String.ofList_toList] at hagain
  rw [reviewDomain,hstrip,hpiece,hagain]

/-- Behind blanks a domain is covered by what lies above the text. -/
lemma under_behind_blank {text suffix : String} (hsuffix : isDnsSuffix suffix=true)
    (hlast : ∀ c ∈ text.toList.getLast?, isSpace c=false)
    (hhead : ∃ c ∈ text.toList.head?, isSpace c=true) :
    underSuffix text suffix=true ↔ '.'::suffix.toList <:+ (strip text).toList := by
  obtain ⟨front,rest,htext,hfront,-,hstrip⟩ := split_front hlast
  obtain ⟨c,hc,hspace⟩ := hhead
  rw [hstrip,String.toList_ofList,underSuffix_iff,htext]
  constructor
  · rintro (rfl | hbelow)
    · rw [isLowerAlnum_space ((suffix_chars hsuffix).2.1 c hc)] at hspace
      cases hspace
    · rcases List.suffix_or_suffix_of_suffix hbelow (List.suffix_append front rest) with
        hin | ⟨part,hpart⟩
      · exact hin
      · obtain ⟨before,hbefore⟩ := hbelow
        rw [← hpart,← List.append_assoc] at hbefore
        have hin := List.append_cancel_right hbefore
        cases part with
        | nil => exact hpart ▸ List.suffix_refl _
        | cons d part =>
          have hdot : '.' ∈ front := by
            rw [← hin,(List.cons.inj hpart).1]
            exact List.mem_append_right _ List.mem_cons_self
          exact absurd (hfront _ hdot) (by decide)
  · exact fun hbelow => .inr (hbelow.trans (List.suffix_append front rest))

lemma mem_exported_perm {t' : Tables} (hperm : t'.services.Perm t.services) (s : Service) :
    s ∈ exported t' ↔ s ∈ exported t := by
  unfold exported
  rw [List.mem_filter,List.mem_filter,mem_listServices,mem_listServices,hperm.mem_iff]

/-- What a catalogue names does not depend on the order of its services. -/
lemma nameOf_congr {services' : List Service} {compiled' : Compiled}
    (haccepted : ∀ s ∈ services, Publishable s) (h : Publishes services compiled)
    (hsame : ∀ s, s ∈ services' ↔ s ∈ services) (h' : Publishes services' compiled') :
    nameOf compiled' domain=nameOf compiled domain := by
  have haccepted' : ∀ s ∈ services', Publishable s := fun s hs => haccepted s ((hsame s).mp hs)
  by_cases hname : nameOf compiled domain=""
  · rw [hname,nameOf_eq_empty haccepted' h']
    rintro ⟨s,hs,hcovers⟩
    exact (nameOf_eq_empty haccepted h).mp hname ⟨s,(hsame s).mp hs,hcovers⟩
  · rw [nameOf_eq haccepted' h' hname,Owns.congr hsame fun _ _ _ _ => Iff.rfl]
    exact (nameOf_eq haccepted h hname).mp rfl

/-- The readers agree on a domain exactly where no blank hides a suffix. -/
theorem readAlike_iff (hlower : py.LowersText) (haccepted : ∀ s ∈ t.services, Publishable s)
    {generatedAt : String} (hload : loadLive py (exportServiceCatalog generatedAt t)=
      .ok (compiled,definitions)) :
    ReadAlike py share t domain compiled definitions ↔ Unhidden py t domain := by
  obtain ⟨compiled',definitions',hload',hpublishes⟩ :=
    @loadLive_publishes py t haccepted generatedAt
  obtain ⟨rfl,rfl⟩ := Prod.mk.inj (Except.ok.inj (hload.symm.trans hload'))
  have hexported : ∀ s ∈ exported t, Publishable s := fun s hs =>
    haccepted s (mem_listServices.mp (List.mem_filter.mp hs).1)
  have hfound := @classifyDomain_name py domain _ _ hexported hpublishes
  have hrecord := @classifyRecord_name py domain _ _ definitions hexported hpublishes
  have hreview := @review_covered py share t domain haccepted
  have hempty {x : String} := @nameOf_eq_empty x _ _ hexported hpublishes
  have howner {x name : String} := @nameOf_eq x _ _ hexported hpublishes name
  have hbehind : (∃ c ∈ (shown py domain).toList.getLast?, isSpace c=true) →
      nameOf compiled (shown py domain)="" := by
    rintro ⟨c,hc,hspace⟩
    refine hempty.mpr ?_
    rintro ⟨s,hs,suffix,hsuffix,hunder⟩
    obtain ⟨d,hd,halnum⟩ := covered_last ((hexported s hs).suffixes suffix hsuffix) hunder
    rw [hc] at hd
    rw [Option.some.inj hd,isLowerAlnum_space halnum] at hspace
    cases hspace
  have hstrict (hlast : ∀ c ∈ (shown py domain).toList.getLast?, isSpace c=false)
      (hhead : ∃ c ∈ (shown py domain).toList.head?, isSpace c=true) (name : String) :
      Owns (exported t) (fun suffix => underSuffix (shown py domain) suffix=true) name ↔
        Owns (exported t) (fun suffix => '.'::suffix.toList <:+
          (strip (shown py domain)).toList) name :=
    Owns.congr (fun _ => Iff.rfl) fun s hs suffix hsuffix =>
      under_behind_blank ((hexported s hs).suffixes suffix hsuffix) hlast hhead
  have hnot_blank : (¬∀ c ∈ (shown py domain).toList.getLast?, isSpace c=false) →
      ∃ c ∈ (shown py domain).toList.getLast?, isSpace c=true := by
    intro hlast
    push Not at hlast
    obtain ⟨c,hc,hspace⟩ := hlast
    exact ⟨c,hc,by simpa using hspace⟩
  constructor
  · intro h
    have hbehind' : (∃ c ∈ (shown py domain).toList.getLast?, isSpace c=true) →
        ¬Covered (exported t) fun suffix =>
          underSuffix (reviewDomain py (reviewDomain py domain)) suffix=true :=
      fun hblank hcovered => (h.review 0 0).mp ((hreview 0 0).mpr hcovered)
        (hfound.trans (hbehind hblank))
    refine ⟨hbehind',fun hhead name howns => ?_⟩
    by_cases hlast : ∀ c ∈ (shown py domain).toList.getLast?, isSpace c=false
    · obtain ⟨hreviewed,hcleaned⟩ := reviewDomain_shown hlower hlast
      have hsome := (h.review 0 0).mp ((hreview 0 0).mpr howns.covered)
      have hname : name≠"" := by
        obtain ⟨s,hs,-,-,-,rfl,-⟩ := howns
        exact (hexported s hs).named
      rw [hcleaned] at howns ⊢
      have hnamed := h.record
      rw [hrecord,hreviewed,(howner hname).mpr howns] at hnamed
      rw [orElse,orElse,if_neg hname,if_neg hsome] at hnamed
      exact (hstrict hlast hhead name).mp ((h.owner name hname).mp hnamed.symm)
    · exact absurd howns.covered (hbehind' (hnot_blank hlast))
  · intro h
    have hsame : nameOf compiled (reviewDomain py domain)=nameOf compiled (shown py domain) ∧
        ((Covered (exported t) fun suffix =>
          underSuffix (reviewDomain py (reviewDomain py domain)) suffix=true) ↔
            nameOf compiled (shown py domain)≠"") := by
      by_cases hlast : ∀ c ∈ (shown py domain).toList.getLast?, isSpace c=false
      · obtain ⟨hreviewed,hcleaned⟩ := reviewDomain_shown hlower hlast
        rw [hcleaned,hreviewed]
        have hshown : nameOf compiled (strip (shown py domain))=
            nameOf compiled (shown py domain) := by
          by_cases hhead : ∃ c ∈ (shown py domain).toList.head?, isSpace c=true
          · by_cases hnone : nameOf compiled (strip (shown py domain))=""
            · rw [hnone,eq_comm,hempty]
              rintro ⟨s,hs,suffix,hsuffix,hunder⟩
              refine hempty.mp hnone ⟨s,hs,suffix,hsuffix,underSuffix_iff.mpr (.inr ?_)⟩
              exact (under_behind_blank ((hexported s hs).suffixes suffix hsuffix) hlast hhead).mp
                hunder
            · have howns := h.before hhead _ (by
                rw [hcleaned]
                exact (howner hnone).mp rfl)
              rw [hcleaned] at howns
              exact ((howner hnone).mpr ((hstrict hlast hhead _).mpr howns)).symm
          · push Not at hhead
            rw [strip_eq_self (fun c hc => by simpa using hhead c hc) hlast]
        exact ⟨hshown,by rw [← hshown,Ne,hempty,not_not]⟩
      · have hblank := hnot_blank hlast
        have hcovered := h.behind hblank
        rw [hbehind hblank]
        refine ⟨hempty.mpr ?_,iff_of_false hcovered (by simp)⟩
        rintro ⟨s,hs,suffix,hsuffix,hunder⟩
        refine hcovered ⟨s,hs,suffix,hsuffix,?_⟩
        rwa [reviewDomain_covered hlower ((hexported s hs).suffixes suffix hsuffix) hunder]
    refine ⟨fun name hname => ?_,?_,fun t' generatedAt' compiled' definitions' hperm hload' => ?_,
      ?_,fun queries total => ?_⟩
    · rw [hfound]
      exact howner hname
    · rw [hfound]
      exact hempty
    · have haccepted' : ∀ s ∈ t'.services, Publishable s := fun s hs =>
        haccepted s (hperm.mem_iff.mp hs)
      obtain ⟨_,_,hloaded,hpublishes'⟩ := @loadLive_publishes py t' haccepted' generatedAt'
      obtain ⟨rfl,rfl⟩ := Prod.mk.inj (Except.ok.inj (hload'.symm.trans hloaded))
      have hexported' : ∀ s ∈ exported t', Publishable s := fun s hs =>
        hexported s ((mem_exported_perm hperm s).mp hs)
      rw [hfound,@classifyDomain_name py domain _ _ hexported' hpublishes']
      exact nameOf_congr hexported hpublishes (mem_exported_perm hperm) hpublishes'
    · rw [hrecord,hfound,hsame.1]
    · rw [hfound,← hsame.2]
      exact hreview queries total

end Alike

section Example

lemma asciiEnv_lowersText : asciiEnv.toRuntime.toPyRuntime.LowersText where
  strip_lower := strip_nocase
  piece x y h := by
    have hlower : y.toList.map Char.toLower=y.toList := by
      refine (List.map_congr_left fun c hc => ?_).trans (List.map_id _)
      have hin : c ∈ (nocase x).toList := h.subset hc
      rw [nocase,String.toList_ofList] at hin
      obtain ⟨d,-,rfl⟩ := List.mem_map.mp hin
      exact toLower_toLower d
    change nocase y=y
    rw [nocase,hlower,String.ofList_toList]

/-- One service with one suffix. -/
def tubeTables : Tables :=
  { services := [{ key := "tube", name := "Tube", dnsSuffixes := ["tube.example"] }] }

lemma tubeTables_accepted : ∀ s ∈ tubeTables.services, Publishable s := by
  intro s hs
  obtain rfl := List.mem_singleton.mp hs
  exact ⟨isKey_of_all (by decide),by decide,by decide⟩

lemma tube_loaded : ∃ compiled definitions,
    loadLive asciiEnv.toRuntime.toPyRuntime (exportServiceCatalog "now" tubeTables)=
      .ok (compiled,definitions) ∧
    classifyDomain asciiEnv.toRuntime.toPyRuntime compiled (.str "tube.example ")="" ∧
    (classifyRecord asciiEnv.toRuntime.toPyRuntime compiled definitions
      { dns := .str "tube.example " }).service="Tube" :=
  ⟨_,_,rfl,by decide +kernel,by decide +kernel⟩

theorem readAlike_iff_tube : ∃ compiled definitions,
    loadLive asciiEnv.toRuntime.toPyRuntime (exportServiceCatalog "now" tubeTables)=
      .ok (compiled,definitions) ∧
    (ReadAlike asciiEnv.toRuntime.toPyRuntime (fun _ _ => 0) tubeTables "www.tube.example" compiled
        definitions ↔
      Unhidden asciiEnv.toRuntime.toPyRuntime tubeTables "www.tube.example") := by
  obtain ⟨compiled,definitions,hload,-⟩ := tube_loaded
  exact ⟨compiled,definitions,hload,
    readAlike_iff asciiEnv_lowersText tubeTables_accepted hload⟩

/-- With a blank behind it a domain is classified in records and not in lookups. -/
theorem tube_unread : ∃ compiled definitions,
    loadLive asciiEnv.toRuntime.toPyRuntime (exportServiceCatalog "now" tubeTables)=
      .ok (compiled,definitions) ∧ (∀ s ∈ tubeTables.services, Publishable s) ∧
    classifyDomain asciiEnv.toRuntime.toPyRuntime compiled (.str "tube.example ")="" ∧
    (classifyRecord asciiEnv.toRuntime.toPyRuntime compiled definitions
      { dns := .str "tube.example " }).service="Tube" ∧
    ∀ share, ¬ReadAlike asciiEnv.toRuntime.toPyRuntime share tubeTables "tube.example " compiled
      definitions := by
  obtain ⟨compiled,definitions,hload,hlookup,hrecord⟩ := tube_loaded
  refine ⟨compiled,definitions,hload,tubeTables_accepted,hlookup,hrecord,fun share h => ?_⟩
  have hnamed := h.record
  rw [hrecord,hlookup] at hnamed
  exact absurd hnamed (by decide)

end Example

end Telemetry
end ZenControl
