import ZenControl.Release.Transport
import Mathlib.Data.List.Infix

/-! An environment that passes the release gate configures a hardened transport exactly when its
values are ones that the application accepts. -/
namespace ZenControl.Transport
open EnvContract

/-- `bool` reads the text of a boolean. -/
def IsBoolean (env : TransportEnv) (value : Option String) : Prop :=
  ∀ text,value=some text → env.lower (strip text) ∈ truthyWords ++ ["0","false","no","off",""]

/-- No host, or a name that DNS allows. -/
def IsHost (env : TransportEnv) (text : String) : Prop :=
  let host := hostText env.toPyRuntime text
  host="" ∨ (isHostname host=true ∧ host.length ≤ 253)

/-- An entry of an allowlist that names hosts: not every host, and no other text. -/
def IsEntry (env : TransportEnv) (text : String) : Prop :=
  let host := hostText env.toPyRuntime text
  host="" ∨ isHostname host=true ∨
    (host≠"*" ∧ if startsWith host "*." then isHostname (String.ofList (host.toList.drop 2))=true
      else (env.ipAddress host).isSome=true)

def IsBindIp (env : TransportEnv) (text : String) : Prop :=
  strip text="" ∨ (env.ipAddress (strip text)).isSome=true

def IsMaxAge (value : Option String) : Prop :=
  ∃ seconds : ℤ,pyInt (value.getD "31536000")=some seconds ∧ 0 ≤ seconds ∧ seconds ≤ 63072000

/-- The values of the transport are ones that the application accepts. -/
structure WellFormed (env : TransportEnv) (values : List (String × String)) : Prop where
  remoteAccess : IsBoolean env (values.lookup "ZEN_REMOTE_ACCESS_ENABLED")
  cloudflareAccess : IsBoolean env (values.lookup "ZEN_CLOUDFLARE_ACCESS_PROTECTED")
  publicHost : IsHost env (value values "ZEN_PUBLIC_HOST")
  localHost : IsHost env (value values "ZEN_LOCAL_HOST")
  lanBindIp : IsBindIp env (value values "ZEN_LAN_BIND_IP")
  allowedHosts : ∀ raw ∈ splitText ',' (value values "ZEN_ALLOWED_HOSTS"),IsEntry env raw
  maxAge : IsMaxAge (values.lookup "ZEN_HSTS_MAX_AGE")

/-- The application starts with an enforced allowlist that covers its local host, and its remote
origin is ready if it is enabled. -/
def Hardened (env : TransportEnv) (values : List (String × String)) : Prop :=
  ∃ config,fromMapping env values=.ok config ∧ config.enforceHostAllowlist=true ∧
    (∀ c ∈ config.localStatus.checks,c.key="host_allowlist" → c.passed=true) ∧
    (truthy env.toPyRuntime (values.lookup "ZEN_REMOTE_ACCESS_ENABLED")=true →
      config.remoteStatus.ready=true)

section Parsers
variable {env : TransportEnv} {value : Option String} {name text host raw : String}

lemma lower_empty (py : PyRuntime) : py.lower ""="" := py.lower_ascii "" (by simp)

lemma bool_ok (h : IsBoolean env value) :
    bool env value=.ok (truthy env.toPyRuntime value) := by
  cases value with
  | none =>
    have hempty : strip ""="" := rfl
    simp [bool,truthy,hempty,lower_empty,truthyWords]
  | some text =>
    have hwords := h text rfl
    simp only [bool,truthy,Option.getD_some]
    by_cases htrue : env.lower (strip text) ∈ truthyWords
    · simp [htrue]
    · have hfalse := (List.mem_append.mp hwords).resolve_left htrue
      simp [htrue,hfalse]

lemma isBoolean_of_ok {b : Bool} (h : bool env value=.ok b) : IsBoolean env value := by
  rintro text rfl
  simp only [bool] at h
  rw [List.mem_append]
  split_ifs at h with htrue hfalse
  · exact .inl htrue
  · exact .inr hfalse

/-- The characters of a host's name. -/
lemma isHostname_char (h : isHostname host=true) : ∀ c ∈ host.toList,
    isHostChar c=true ∨ c= '-' ∨ c= '.' := by
  intro c hc
  rcases @mem_of_mem_splitChars (· = '.') _ c hc with hdot | ⟨label,hlabel,hc⟩
  · exact .inr (.inr (by simpa using hdot))
  · have hchars := List.all_eq_true.mp h label hlabel
    simp only [isLabel,Bool.and_eq_true,List.all_eq_true] at hchars
    rcases Bool.or_eq_true _ _ |>.mp (hchars.2 c hc) with hc | hc
    · exact .inl hc
    · exact .inr (.inl (by simpa using hc))

lemma isHostname_ne_empty (h : isHostname host=true) : host≠"" := by
  rintro rfl
  cases h

lemma mem_of_occursIn {part : String} {c : Char} (hc : part.toList.head?=some c)
    (h : occursIn part text=true) : c ∈ text.toList := by
  obtain ⟨tail,htail,hstarts⟩ := List.any_eq_true.mp h
  obtain ⟨rest,hrest⟩ := List.isPrefixOf_iff_prefix.mp hstarts
  refine ((List.mem_tails _ _).mp htail).subset ?_
  rw [← hrest]
  exact List.mem_append_left _ (List.mem_of_head? hc)

lemma no_token (h : isHostname host=true) :
    ["://","/","\\",":","*","?","#"].any (fun token => occursIn token host)=false := by
  have hchars := isHostname_char h
  have absent {token : String} {c : Char} (hhead : token.toList.head?=some c)
      (hc : ¬(isHostChar c=true ∨ c= '-' ∨ c= '.')) : occursIn token host=false := by
    by_contra hoccurs
    exact hc (hchars c (mem_of_occursIn hhead (by simpa using hoccurs)))
  simp only [List.any_cons,List.any_nil,Bool.or_false,Bool.or_eq_false_iff]
  exact ⟨absent rfl (by decide),absent rfl (by decide),absent rfl (by decide),
    absent rfl (by decide),absent rfl (by decide),absent rfl (by decide),absent rfl (by decide)⟩

lemma hostname_ok (h : IsHost env (value.getD "")) :
    hostname env value name=.ok (hostText env.toPyRuntime (value.getD "")) := by
  unfold hostname
  dsimp only
  rcases h with hempty | ⟨hname,hlength⟩
  · rw [if_pos hempty,hempty]
  · rw [if_neg (isHostname_ne_empty hname),if_neg (by rw [no_token hname]; simp),if_neg]
    rw [not_or]
    exact ⟨by omega,by simp [hname]⟩

lemma isHost_of_ok (h : hostname env value name=.ok host) : IsHost env (value.getD "") := by
  unfold hostname at h
  dsimp only at h
  split_ifs at h with hempty htoken hbad
  · exact .inl hempty
  · rw [not_or] at hbad
    exact .inr ⟨by simpa using hbad.2,by omega⟩

lemma bindIp_ok : (∃ address,bindIp env value=.ok address) ↔ IsBindIp env (value.getD "") := by
  unfold bindIp IsBindIp
  dsimp only
  split_ifs with hempty
  · simp [hempty]
  · cases env.ipAddress (strip (value.getD "")) <;> simp [hempty]

lemma hstsSeconds_ok : (∃ seconds,hstsSeconds value=.ok seconds) ↔ IsMaxAge value := by
  unfold hstsSeconds IsMaxAge
  cases pyInt (value.getD "31536000") with
  | none => simp
  | some seconds =>
    dsimp only
    split_ifs with h
    · exact iff_of_true ⟨_,rfl⟩ ⟨seconds,rfl,h⟩
    · refine iff_of_false (by simp) ?_
      rintro ⟨n,hn,hbounds⟩
      obtain rfl : seconds=n := Option.some.inj hn
      exact h hbounds

end Parsers

section Allowlist
variable {env : TransportEnv} {text raw host item : String} {hosts : List String}

/-- What an entry adds to the allowlist: nothing, its own text, or the text of its address. -/
lemma allowedHost_cases (env : TransportEnv) (raw : String) :
    (IsEntry env raw ∧ ∃ item,allowedHost env raw=.ok item ∧ item≠some "*" ∧
      (hostText env.toPyRuntime raw≠"" → item=some (hostText env.toPyRuntime raw) ∨
        (isHostname (hostText env.toPyRuntime raw)=false ∧
          startsWith (hostText env.toPyRuntime raw) "*."=false))) ∨
    (¬IsEntry env raw ∧ ((∃ e,allowedHost env raw=.error e) ∨
      allowedHost env raw=.ok (some "*"))) := by
  unfold IsEntry allowedHost
  dsimp only
  by_cases hempty : hostText env.toPyRuntime raw=""
  · refine .inl ⟨.inl hempty,none,if_pos hempty,nofun,fun h => absurd hempty h⟩
  rw [if_neg hempty]
  by_cases hstar : hostText env.toPyRuntime raw="*"
  · rw [if_pos hstar]
    refine .inr ⟨?_,.inr (congrArg _ (congrArg _ hstar))⟩
    rintro (h | h | ⟨h,-⟩)
    · exact hempty h
    · rw [hstar] at h
      cases h
    · exact h hstar
  rw [if_neg hstar]
  have hitem : some (hostText env.toPyRuntime raw)≠some "*" := fun h => hstar (Option.some.inj h)
  by_cases hwild : startsWith (hostText env.toPyRuntime raw) "*."=true
  · simp only [if_pos hwild]
    have hnot : isHostname (hostText env.toPyRuntime raw)=false := by
      by_contra hname
      obtain ⟨rest,hrest⟩ := List.isPrefixOf_iff_prefix.mp hwild
      have hmem : '*' ∈ (hostText env.toPyRuntime raw).toList := by
        rw [← hrest]
        exact List.mem_append_left _ (by decide)
      exact absurd (isHostname_char (by simpa using hname) _ hmem) (by decide)
    split_ifs with hsuffix
    · exact .inl ⟨.inr (.inr ⟨hstar,hsuffix⟩),_,rfl,hitem,fun _ => .inl rfl⟩
    · refine .inr ⟨?_,.inl ⟨_,rfl⟩⟩
      rintro (h | h | ⟨-,h⟩)
      · exact hempty h
      · rw [hnot] at h; cases h
      · exact hsuffix h
  · simp only [if_neg hwild]
    by_cases hname : isHostname (hostText env.toPyRuntime raw)=true
    · rw [if_pos (Bool.or_eq_true _ _ |>.mpr (.inl hname))]
      exact .inl ⟨.inr (.inl hname),_,rfl,hitem,fun _ => .inl rfl⟩
    · have hlocal : hostText env.toPyRuntime raw≠"localhost" := by
        intro h
        rw [h] at hname
        exact hname (by decide)
      have hneither : ¬(isHostname (hostText env.toPyRuntime raw) ||
          decide (hostText env.toPyRuntime raw="localhost"))=true := by
        rw [Bool.or_eq_true,not_or]
        exact ⟨hname,by simpa using hlocal⟩
      rw [if_neg hneither]
      cases haddress : env.ipAddress (hostText env.toPyRuntime raw) with
      | some address =>
        refine .inl ⟨.inr (.inr ⟨hstar,rfl⟩),_,rfl,fun h => ?_,fun _ => .inr
          ⟨by simpa using hname,by simpa using hwild⟩⟩
        rw [Option.some.inj h] at haddress
        exact absurd (env.ipAddress_text _ _ haddress) (by decide)
      | none =>
        refine .inr ⟨?_,.inl ⟨_,rfl⟩⟩
        rintro (h | h | ⟨-,h⟩)
        · exact hempty h
        · exact hname h
        · cases h

lemma addAllowed_ok {result next : List String} (h : addAllowed env result raw=.ok next) :
    ∃ item,allowedHost env raw=.ok item ∧
      ∀ host,host ∈ next ↔ host ∈ result ∨ item=some host := by
  unfold addAllowed at h
  cases hitem : allowedHost env raw with
  | error e => rw [hitem] at h; cases h
  | ok item =>
    rw [hitem] at h
    refine ⟨item,rfl,fun host => ?_⟩
    cases item with
    | none =>
      obtain rfl : result=next := Except.ok.inj h
      simp
    | some item =>
      have hnext : (if item ∈ result then result else result ++ [item])=next := Except.ok.inj h
      rw [← hnext]
      split_ifs with hmem
      · exact ⟨.inl,fun h => h.elim id fun h => Option.some.inj h ▸ hmem⟩
      · simp [eq_comm]

/-- The allowlist is read when every entry is, and holds what the entries stand for. -/
lemma foldlM_addAllowed {raws result next : List String}
    (h : raws.foldlM (addAllowed env) result=.ok next) :
    (∀ raw ∈ raws,∃ item,allowedHost env raw=.ok item) ∧
      ∀ host,host ∈ next ↔ host ∈ result ∨ ∃ raw ∈ raws,allowedHost env raw=.ok (some host) := by
  induction raws generalizing result with
  | nil =>
    obtain rfl : result=next := Except.ok.inj h
    simp
  | cons raw raws ih =>
    rw [List.foldlM_cons] at h
    cases hadd : addAllowed env result raw with
    | error e => rw [hadd] at h; cases h
    | ok middle =>
      rw [hadd] at h
      obtain ⟨hall,hmem⟩ := ih h
      obtain ⟨item,hitem,hmiddle⟩ := addAllowed_ok hadd
      refine ⟨List.forall_mem_cons.mpr ⟨⟨item,hitem⟩,hall⟩,fun host => ?_⟩
      rw [hmem,hmiddle,or_assoc,List.exists_mem_cons_iff,hitem,Except.ok.injEq]

lemma foldlM_ok {raws result : List String}
    (h : ∀ raw ∈ raws,∃ item,allowedHost env raw=.ok item) :
    ∃ next,raws.foldlM (addAllowed env) result=.ok next := by
  induction raws generalizing result with
  | nil => exact ⟨result,rfl⟩
  | cons raw raws ih =>
    obtain ⟨⟨item,hitem⟩,hrest⟩ := List.forall_mem_cons.mp h
    have hadd : ∃ next,addAllowed env result raw=.ok next := by
      unfold addAllowed
      rw [hitem]
      cases item <;> exact ⟨_,rfl⟩
    obtain ⟨middle,hmiddle⟩ := hadd
    rw [List.foldlM_cons,hmiddle]
    exact ih hrest

/-- An allowlist with which the host check is enforced has entries that name hosts only. -/
lemma allowedHosts_ok {value : Option String} :
    (∃ hosts,allowedHosts env value=.ok hosts ∧ "*" ∉ hosts) ↔
      ∀ raw ∈ splitText ',' (value.getD ""),IsEntry env raw := by
  constructor
  · rintro ⟨hosts,hhosts,hstar⟩ raw hraw
    obtain ⟨hall,hmem⟩ := foldlM_addAllowed hhosts
    obtain ⟨hentry,-⟩ | ⟨-,⟨e,he⟩ | he⟩ := allowedHost_cases env raw
    · exact hentry
    · obtain ⟨item,hitem⟩ := hall raw hraw
      rw [hitem] at he
      cases he
    · exact absurd ((hmem "*").mpr (.inr ⟨raw,hraw,he⟩)) hstar
  · intro h
    have hread : ∀ raw ∈ splitText ',' (value.getD ""),∃ item,
        allowedHost env raw=.ok item ∧ item≠some "*" := by
      intro raw hraw
      obtain ⟨-,item,hitem,hstar,-⟩ | ⟨hentry,-⟩ := allowedHost_cases env raw
      · exact ⟨item,hitem,hstar⟩
      · exact absurd (h raw hraw) hentry
    obtain ⟨hosts,hhosts⟩ := @foldlM_ok env _ []
      fun raw hraw => (hread raw hraw).imp fun _ hitem => hitem.1
    refine ⟨hosts,hhosts,fun hstar => ?_⟩
    obtain hnil | ⟨raw,hraw,hitem⟩ := ((foldlM_addAllowed hhosts).2 "*").mp hstar
    · cases hnil
    · obtain ⟨item,hitem',hne⟩ := hread raw hraw
      rw [hitem] at hitem'
      exact hne (Except.ok.inj hitem').symm

/-- A named host that the gate finds covered is one that the application allows. -/
lemma hostIsAllowed_of_covered {value : Option String} {target : String}
    (hhosts : allowedHosts env value=.ok hosts) (hstar : "*" ∉ hosts)
    (hcovered : allowedHostCovers env.toPyRuntime (strip (value.getD "")) target=true)
    (hname : isHostname (hostText env.toPyRuntime target)=true) :
    hostIsAllowed (hostText env.toPyRuntime target) hosts=true := by
  simp only [allowedHostCovers,Bool.and_eq_true,List.any_eq_true] at hcovered
  obtain ⟨hne,part,hpart,hcovers⟩ := hcovered
  obtain ⟨raw,hraw,hsame⟩ := splitText_strip (by decide) hpart
  have hcandidate : hostText env.toPyRuntime raw=hostText env.toPyRuntime part := by
    rw [hostText,hostText,hsame]
  rw [← hcandidate] at hcovers
  have hcandidate_ne : hostText env.toPyRuntime raw≠"" := by
    intro hempty
    rw [hempty] at hcovers
    simp only [covers,Bool.or_eq_true,decide_eq_true_eq,Bool.and_eq_true] at hcovers
    rcases hcovers with h | ⟨h,-⟩
    · exact isHostname_ne_empty hname h.symm
    · exact absurd h (by decide)
  have hentry := allowedHosts_ok.mp ⟨hosts,hhosts,hstar⟩ raw hraw
  obtain ⟨-,item,hitem,-,hself⟩ | ⟨hnot,-⟩ := allowedHost_cases env raw
  · obtain rfl | ⟨hnotname,hnotwild⟩ := hself hcandidate_ne
    · have hmem := ((foldlM_addAllowed hhosts).2 _).mpr (.inr ⟨raw,hraw,hitem⟩)
      exact Bool.and_eq_true _ _ |>.mpr ⟨hne,List.any_eq_true.mpr ⟨_,hmem,hcovers⟩⟩
    · simp only [covers,Bool.or_eq_true,decide_eq_true_eq,Bool.and_eq_true,hnotwild] at hcovers
      rcases hcovers with h | ⟨h,-⟩
      · rw [h,hname] at hnotname
        cases hnotname
      · cases h
  · exact absurd hentry hnot

end Allowlist

section Gate
variable {env : TransportEnv} {values : List (String × String)}

lemma fromMapping_ok {config : SecureTransportConfig} (h : fromMapping env values=.ok config) :
    bool env (values.lookup "ZEN_REMOTE_ACCESS_ENABLED")=.ok config.remoteAccessEnabled ∧
    bool env (values.lookup "ZEN_SECURE_COOKIES")=.ok config.secureCookies ∧
    hostname env (values.lookup "ZEN_PUBLIC_HOST") "ZEN_PUBLIC_HOST"=.ok config.publicHost ∧
    hostname env (values.lookup "ZEN_LOCAL_HOST") "ZEN_LOCAL_HOST"=.ok config.localHost ∧
    bindIp env (values.lookup "ZEN_LAN_BIND_IP")=.ok config.lanBindIp ∧
    allowedHosts env (values.lookup "ZEN_ALLOWED_HOSTS")=.ok config.allowedHosts ∧
    bool env (values.lookup "ZEN_CLOUDFLARE_ACCESS_PROTECTED")=
      .ok config.cloudflareAccessProtected ∧
    hstsSeconds (values.lookup "ZEN_HSTS_MAX_AGE")=.ok config.hstsMaxAge := by
  unfold fromMapping at h
  obtain ⟨_,h₁,h⟩ := bind_ok h
  obtain ⟨_,h₂,h⟩ := bind_ok h
  obtain ⟨_,h₃,h⟩ := bind_ok h
  obtain ⟨_,h₄,h⟩ := bind_ok h
  obtain ⟨_,h₅,h⟩ := bind_ok h
  obtain ⟨_,h₆,h⟩ := bind_ok h
  obtain ⟨_,h₇,h⟩ := bind_ok h
  obtain ⟨_,h₈,h⟩ := bind_ok h
  obtain rfl := Except.ok.inj h
  exact ⟨h₁,h₂,h₃,h₄,h₅,h₆,h₇,h₈⟩

/-- What the gate has checked of the values once it reports nothing. -/
structure Gated (py : PyRuntime) (values : List (String × String)) : Prop where
  localHost : allowedHostCovers py (strip (value values "ZEN_ALLOWED_HOSTS"))
    (strip (value values "ZEN_LOCAL_HOST"))=true
  remote : truthy py (values.lookup "ZEN_REMOTE_ACCESS_ENABLED")=true →
    truthy py (values.lookup "ZEN_CLOUDFLARE_ACCESS_PROTECTED")=true ∧
      allowedHostCovers py (strip (value values "ZEN_ALLOWED_HOSTS"))
        (value values "ZEN_PUBLIC_HOST")=true

lemma unlessHolds_nil {holds : Bool} {message : String} (h : unlessHolds holds message=[]) :
    holds=true := by
  unfold unlessHolds at h
  split_ifs at h with hholds
  exact hholds

lemma named_nil {message : String} {names : List String} (h : named message names=[]) :
    names=[] := by
  unfold named at h
  split_ifs at h with hnames
  exact hnames

lemma gated_of_no_errors {py : PyRuntime} {contract : Contract} {fileName text : String}
    (h : (validateContract py contract fileName (some text)).1=[])
    (hcookies : secureCookies py (parseEnvFile text).values=true) :
    Gated py (parseEnvFile text).values := by
  simp only [validateContract,List.append_eq_nil_iff] at h
  obtain ⟨⟨-,hallowlist⟩,hremote⟩ := h
  constructor
  · simp only [allowlistErrors,hcookies,if_true] at hallowlist
    split_ifs at hallowlist
    exact unlessHolds_nil (List.append_eq_nil_iff.mp hallowlist).1
  · intro htruthy
    simp only [remoteErrors,htruthy,if_true,List.append_eq_nil_iff] at hremote
    obtain ⟨⟨⟨hnames,-⟩,hcloudflare⟩,hpublic⟩ := hremote
    refine ⟨unlessHolds_nil hcloudflare,?_⟩
    have hset : isEmpty (parseEnvFile text).values "ZEN_PUBLIC_HOST"=false := by
      by_contra hempty
      have hmem : "ZEN_PUBLIC_HOST" ∈ ["ZEN_PUBLIC_HOST","ZEN_ALLOWED_HOSTS",
          "CLOUDFLARE_TUNNEL_TOKEN_FILE"].filter (isEmpty (parseEnvFile text).values) :=
        List.mem_filter.mpr ⟨List.mem_cons_self,by simpa using hempty⟩
      rw [named_nil hnames] at hmem
      cases hmem
    simpa [hset] using unlessHolds_nil hpublic

lemma hostText_strip (py : PyRuntime) (text : String) : hostText py (strip text)=hostText py text := by
  rw [hostText,hostText,strip_strip]

lemma hostText_covered {py : PyRuntime} {raw target : String}
    (h : allowedHostCovers py raw target=true) : hostText py target≠"" := by
  simp only [allowedHostCovers,Bool.and_eq_true,decide_eq_true_eq] at h
  exact h.1

/-- Well-formed values are read, and the allowlist is enforced once it holds a host. -/
lemma fromMapping_of_wellFormed (h : WellFormed env values)
    (hcookies : secureCookies env.toPyRuntime values=true) :
    ∃ config,fromMapping env values=.ok config ∧ config.secureCookies=true ∧
      config.remoteAccessEnabled=
        truthy env.toPyRuntime (values.lookup "ZEN_REMOTE_ACCESS_ENABLED") ∧
      config.cloudflareAccessProtected=
        truthy env.toPyRuntime (values.lookup "ZEN_CLOUDFLARE_ACCESS_PROTECTED") ∧
      config.publicHost=hostText env.toPyRuntime (value values "ZEN_PUBLIC_HOST") ∧
      config.localHost=hostText env.toPyRuntime (value values "ZEN_LOCAL_HOST") ∧
      allowedHosts env (values.lookup "ZEN_ALLOWED_HOSTS")=.ok config.allowedHosts ∧
      "*" ∉ config.allowedHosts := by
  obtain ⟨address,haddress⟩ := bindIp_ok.mpr h.lanBindIp
  obtain ⟨hosts,hhosts,hstar⟩ := allowedHosts_ok.mpr h.allowedHosts
  obtain ⟨seconds,hseconds⟩ := hstsSeconds_ok.mpr h.maxAge
  have hsecure : bool env (values.lookup "ZEN_SECURE_COOKIES")=.ok true := by
    refine (bool_ok ?_).trans (congrArg _ hcookies)
    intro text htext
    rw [secureCookies,truthy,htext] at hcookies
    exact List.mem_append_left _ (by simpa using hcookies)
  unfold fromMapping
  rw [bool_ok h.remoteAccess,hsecure,hostname_ok h.publicHost,hostname_ok h.localHost,haddress,
    hhosts,bool_ok h.cloudflareAccess,hseconds]
  exact ⟨_,rfl,rfl,rfl,rfl,rfl,rfl,rfl,hstar⟩

/-- The transport of values that have passed the gate is hardened exactly if they are well
formed. -/
lemma Gated.hardened_iff (h : Gated env.toPyRuntime values)
    (hcookies : secureCookies env.toPyRuntime values=true) :
    Hardened env values ↔ WellFormed env values := by
  constructor
  · rintro ⟨config,hconfig,henforced,-,-⟩
    obtain ⟨hremote,-,hpublic,hlocal,hbind,hhosts,haccess,hmaxAge⟩ := fromMapping_ok hconfig
    simp only [SecureTransportConfig.enforceHostAllowlist,Bool.and_eq_true,
      decide_eq_true_eq] at henforced
    exact
      { remoteAccess := isBoolean_of_ok hremote
        cloudflareAccess := isBoolean_of_ok haccess
        publicHost := isHost_of_ok hpublic
        localHost := isHost_of_ok hlocal
        lanBindIp := bindIp_ok.mp ⟨_,hbind⟩
        allowedHosts := allowedHosts_ok.mp ⟨_,hhosts,henforced.2⟩
        maxAge := hstsSeconds_ok.mp ⟨_,hmaxAge⟩ }
  · intro hwell
    obtain ⟨config,hconfig,hsecure,hremote,haccess,hpublic,hlocal,hhosts,hstar⟩ :=
      fromMapping_of_wellFormed hwell hcookies
    have allowed {target : String} (hhost : IsHost env target)
        (hcovered : allowedHostCovers env.toPyRuntime
          (strip (value values "ZEN_ALLOWED_HOSTS")) target=true) :
        hostIsAllowed (hostText env.toPyRuntime target) config.allowedHosts=true :=
      hostIsAllowed_of_covered hhosts hstar hcovered
        (hhost.resolve_left (hostText_covered hcovered)).1
    have hlocalhost : hostIsAllowed config.localHost config.allowedHosts=true := by
      rw [hlocal,← hostText_strip]
      refine allowed ?_ h.localHost
      rw [IsHost,hostText_strip]
      exact hwell.localHost
    have henforced : config.enforceHostAllowlist=true := by
      have hnonempty : config.allowedHosts≠[] := by
        intro hnil
        simp [hostIsAllowed,hnil] at hlocalhost
      simp [SecureTransportConfig.enforceHostAllowlist,hnonempty,hstar]
    refine ⟨config,hconfig,henforced,?_,fun htruthy => ?_⟩
    · simp [SecureTransportConfig.localStatus,SecureTransportConfig.localAllowlistCheck,check,
        henforced,hlocalhost]
    · obtain ⟨hcloudflare,hcovered⟩ := h.remote htruthy
      have hpublichost : hostIsAllowed config.publicHost config.allowedHosts=true := by
        rw [hpublic]
        exact allowed hwell.publicHost hcovered
      have hnamed : config.publicHost≠"" := by
        rw [hpublic]
        exact hostText_covered hcovered
      rw [htruthy] at hremote
      rw [hcloudflare] at haccess
      simp [SecureTransportConfig.remoteStatus,SecureTransportConfig.remoteChecks,check,hremote,
        haccess,hsecure,henforced,hpublichost,hnamed]

end Gate

section Example

/-- The octets of an address. -/
def isOctet (part : List Char) : Bool :=
  part≠[] && part.length ≤ 3 && part.all Char.isDigit &&
    (part.length=1 || part.head?≠some '0') && part.foldl (fun n c => 10*n+(c.toNat-48)) 0 ≤ 255

/-- Texts without letters outside ASCII, and IPv4 addresses. -/
def asciiTransport : TransportEnv where
  lower := nocase
  lower_ascii := nocase_ascii
  casefold := nocase
  containerText _ := "[]"
  ipAddress text :=
    let parts := splitChars (· = '.') text.toList
    if parts.length=4 ∧ parts.all isOctet ∧ '.' ∈ text.toList then some text else none
  ipAddress_text text address h := by
    dsimp only at h
    split_ifs at h with haddress
    rw [← Option.some.inj h]
    exact .inl haddress.2.2

/-- The variables of `.env.example`. -/
def exampleValues : List (String × String) :=
  [("ADMIN_USER","parent"),("ADMIN_PASSWORD","replace-with-a-long-random-password"),
   ("SESSION_SECRET","replace-with-at-least-32-random-bytes"),
   ("OTP_ENCRYPTION_KEY","replace-with-a-separate-stable-random-secret"),
   ("OTP_ISSUER","ZEN Control"),("MIKROTIK_HOST","192.168.1.1"),("MIKROTIK_PORT","8728"),
   ("MIKROTIK_USER","mikrotik-control"),("MIKROTIK_PASSWORD","replace-with-router-api-password"),
   ("TELEMETRY_DB_NAME","mikrotik"),("TELEMETRY_DB_USER","mikrotik"),
   ("TELEMETRY_DB_PASSWORD","replace-with-random-database-password"),
   ("PIHOLE_PASSWORD","replace-with-random-pihole-password"),("SUMMARY_SMTP_HOST",""),
   ("SUMMARY_SMTP_PORT","587"),("SUMMARY_SMTP_USERNAME",""),("SUMMARY_SMTP_PASSWORD",""),
   ("SUMMARY_SMTP_FROM",""),("SUMMARY_SMTP_STARTTLS","1"),("SUMMARY_WEBHOOK_TOKEN",""),
   ("SUMMARY_DELIVERY_POLL_SECONDS","30"),
   ("ZEN_PUSH_VAPID_SUBJECT","mailto:zen-control@example.invalid"),("ZEN_PUSH_POLL_SECONDS","5"),
   ("ZEN_SMTP_ENABLED","0"),("ZEN_SMTP_HOST",""),("ZEN_SMTP_PORT","587"),("ZEN_SMTP_USERNAME",""),
   ("ZEN_SMTP_PASSWORD",""),("ZEN_SMTP_FROM",""),("ZEN_SMTP_FROM_NAME","ZEN Control"),
   ("ZEN_SMTP_TO",""),("ZEN_SMTP_STARTTLS","1"),("ZEN_SMTP_SSL","0"),
   ("ZEN_SMTP_TIMEOUT_SECONDS","10"),("ZEN_WEBHOOK_SIGNING_SECRET",""),
   ("ZEN_WEBHOOK_TIMEOUT_SECONDS","10"),("ZEN_WEBHOOK_MAX_ATTEMPTS","5"),
   ("ZEN_WEBHOOK_ALLOW_HTTP","0"),("ZEN_EXTERNAL_MAX_ATTEMPTS","5"),
   ("ZEN_EXTERNAL_DELIVERY_POLL_SECONDS","5"),("ZEN_PERF_ENABLED","1"),
   ("ZEN_PERF_SAMPLE_LIMIT","500"),("ZEN_PERF_COMPONENT_LIMIT","2000"),
   ("ZEN_PERF_SLOW_MS","1000"),("ZEN_PERF_SQL_PREVIEW","1"),
   ("ZEN_PERF_ACCEPTANCE_MIN_SAMPLES","5"),("ZEN_PERF_ACCEPTANCE_RECOMMENDED_SAMPLES","20"),
   ("ZEN_PERF_BUDGET_NAVIGATION_MS","1000"),("ZEN_PERF_BUDGET_LOCAL_WRITE_MS","750"),
   ("ZEN_PERF_BUDGET_ROUTER_ACTION_MS","2000"),("ZEN_PERF_BUDGET_ROUTER_READ_MS","1500"),
   ("ZEN_ROUTER_OBSERVE_WORKERS","4"),("ZEN_REMOTE_ACCESS_ENABLED","0"),
   ("ZEN_SECURE_COOKIES","0"),("ZEN_PUBLIC_HOST",""),("ZEN_ALLOWED_HOSTS",""),
   ("ZEN_CLOUDFLARE_ACCESS_PROTECTED","0"),("ZEN_HSTS_MAX_AGE","31536000"),
   ("CLOUDFLARE_TUNNEL_TOKEN_FILE",""),("ZEN_LOCAL_HOST","zen.example.com"),
   ("ZEN_LAN_BIND_IP","192.168.1.10"),("ZEN_LAN_CIDRS","192.168.1.0/24"),
   ("CADDY_CF_API_TOKEN","replace-with-cloudflare-dns-api-token")]

/-- The contract of the repository. -/
def releaseContract : Contract where
  exampleFile := { values := exampleValues }
  composeRefs := exampleValues.map fun e => (e.1,decide (e.1 ∈ ["ADMIN_USER","ADMIN_PASSWORD",
    "SESSION_SECRET","MIKROTIK_HOST","MIKROTIK_PORT","MIKROTIK_USER","MIKROTIK_PASSWORD",
    "TELEMETRY_DB_PASSWORD","ZEN_LOCAL_HOST","ZEN_LAN_BIND_IP","PIHOLE_PASSWORD",
    "CADDY_CF_API_TOKEN"]))
  sourceRefs := internalEnvVars ++ (exampleValues.map Prod.fst).filter (· ∉
    ["PIHOLE_PASSWORD","ZEN_LAN_CIDRS","CLOUDFLARE_TUNNEL_TOKEN_FILE","CADDY_CF_API_TOKEN"])

/-- The variables of a local file with an allowlist. -/
def localValues (allowedHosts : String) : List (String × String) :=
  [("ADMIN_USER","parent"),("ADMIN_PASSWORD","a-long-password"),("SESSION_SECRET","a-long-secret"),
   ("MIKROTIK_HOST","192.168.1.1"),("MIKROTIK_PORT","8728"),("MIKROTIK_USER","mikrotik-control"),
   ("MIKROTIK_PASSWORD","a-router-password"),("TELEMETRY_DB_PASSWORD","a-database-password"),
   ("PIHOLE_PASSWORD","a-pihole-password"),("CADDY_CF_API_TOKEN","a-dns-token"),
   ("ZEN_LOCAL_HOST","zen.example.com"),("ZEN_LAN_BIND_IP","192.168.1.10"),
   ("ZEN_SECURE_COOKIES","1"),("ZEN_ALLOWED_HOSTS",allowedHosts)]

lemma without_eq_nil {names others : List String} (h : ∀ n ∈ names,n ∈ others) :
    without names others=[] := by
  rw [without,List.filter_eq_nil_iff.mpr fun n hn => by simpa using h n hn]
  rfl

/-- The secrets of the example file are placeholders. -/
lemma secretExamples_safe : ∀ name ∈ secretVars,
    secretExampleSafe asciiTransport.toPyRuntime
      (value releaseContract.exampleFile.values name)=true := by
  simp only [secretVars,List.forall_mem_cons]
  refine ⟨?_,?_,?_,?_,?_,?_,?_,?_,?_,?_,?_,List.forall_mem_nil _⟩
  all_goals decide +kernel

lemma repositoryErrors_release :
    repositoryErrors asciiTransport.toPyRuntime releaseContract=[] := by
  have hrefs : releaseContract.composeRefs.map Prod.fst=releaseContract.userVars := by
    simp [releaseContract,Contract.userVars]
  have hinternal : without internalEnvVars releaseContract.sourceRefs=[] :=
    without_eq_nil fun n hn => List.mem_append_left _ hn
  have hsource : without releaseContract.sourceRefs
      (releaseContract.userVars ++ internalEnvVars ++ deprecatedEnvVars)=[] := by
    refine without_eq_nil fun n hn => List.mem_append_left _ ?_
    rcases List.mem_append.mp hn with hn | hn
    · exact List.mem_append_right _ hn
    · exact List.mem_append_left _ (List.mem_filter.mp hn).1
  have hsecrets : secretVars.filter (fun name => name ∈ releaseContract.userVars ∧
      !secretExampleSafe asciiTransport.toPyRuntime
        (value releaseContract.exampleFile.values name))=[] :=
    List.filter_eq_nil_iff.mpr fun name hname => by simp [secretExamples_safe name hname]
  unfold repositoryErrors
  dsimp only
  rw [hrefs,without_eq_nil fun n hn => hn,hsource,hinternal,hsecrets]
  rfl

lemma assignable_of_all {values : List (String × String)} (h : values.all (fun e =>
    e.1.toList.head?.any (fun c => c.isAlpha || c= '_') &&
    e.1.toList.all (fun c => c.isAlphanum || c= '_') &&
    e.2.toList.all (fun c => !isLineBreak c) && stripQuotes e.2=e.2)=true) :
    ∀ e ∈ values,Assignable e.1 e.2 := by
  intro e he
  have hall := List.all_eq_true.mp h e he
  simp only [Bool.and_eq_true,decide_eq_true_eq] at hall
  exact ⟨hall.1.1.1,hall.1.1.2,hall.1.2,hall.2⟩

lemma userVars_local (hosts : String) : without ((localValues hosts).map Prod.fst)
    (releaseContract.userVars ++ deprecatedEnvVars)=[] := by
  have hnames : (localValues hosts).map Prod.fst=(localValues "").map Prod.fst := rfl
  rw [hnames]
  decide +kernel

/-- The gate reports nothing on a local file that its checks of the values accept. -/
lemma validateContract_local {hosts : String} (hread : ∀ e ∈ localValues hosts,Assignable e.1 e.2)
    (hrequired : releaseContract.required.filter (isEmpty (localValues hosts))=[])
    (hsmtp : smtpErrors asciiTransport.toPyRuntime (localValues hosts)=[])
    (hwebhook : webhookErrors asciiTransport.toPyRuntime (localValues hosts)=[])
    (hallowlist : allowlistErrors asciiTransport.toPyRuntime (localValues hosts)=[])
    (hremote : remoteErrors asciiTransport.toPyRuntime (localValues hosts)=[]) :
    (validateContract asciiTransport.toPyRuntime releaseContract ".env"
      (some (fileText (localValues hosts)))).1=[] := by
  have hnodup : ((localValues hosts).map Prod.fst).Nodup := by
    have hnames : (localValues hosts).map Prod.fst=(localValues "").map Prod.fst := rfl
    rw [hnames]
    decide
  unfold validateContract nameErrors
  simp only [parseEnvFile_fileText hread hnodup,repositoryErrors_release,userVars_local,hrequired,
    hsmtp,hwebhook,hallowlist,hremote]
  rfl

lemma parse_local {hosts : String} (hread : ∀ e ∈ localValues hosts,Assignable e.1 e.2) :
    (parseEnvFile (fileText (localValues hosts))).values=localValues hosts := by
  have hnames : (localValues hosts).map Prod.fst=(localValues "").map Prod.fst := rfl
  rw [parseEnvFile_fileText hread (by rw [hnames]; decide)]

lemma named_wellFormed : WellFormed asciiTransport (localValues "zen.example.com,127.0.0.1") where
  remoteAccess := nofun
  cloudflareAccess := nofun
  publicHost := .inl (by decide +kernel)
  localHost := .inr (by decide +kernel)
  lanBindIp := .inr (by decide +kernel)
  allowedHosts := by
    have hsplit : splitText ',' (value (localValues "zen.example.com,127.0.0.1")
        "ZEN_ALLOWED_HOSTS")=["zen.example.com","127.0.0.1"] := by decide +kernel
    rw [hsplit]
    simp only [List.forall_mem_cons,List.not_mem_nil,false_implies,implies_true,and_true]
    exact ⟨.inr (.inl (by decide +kernel)),.inr (.inl (by decide +kernel))⟩
  maxAge := ⟨31536000,by decide +kernel,by decide +kernel,by decide +kernel⟩

end Example

end ZenControl.Transport
