import ZenControl.Lines
import ZenControl.Value

/-! The contract of the environment's variables: how a `.env` file is read and what the release
gate refuses in it. -/
namespace ZenControl.EnvContract

/-- `SECRET_VARS`. -/
def secretVars : List String :=
  ["ADMIN_PASSWORD","SESSION_SECRET","OTP_ENCRYPTION_KEY","MIKROTIK_PASSWORD",
   "TELEMETRY_DB_PASSWORD","PIHOLE_PASSWORD","SUMMARY_SMTP_PASSWORD","SUMMARY_WEBHOOK_TOKEN",
   "ZEN_SMTP_PASSWORD","ZEN_WEBHOOK_SIGNING_SECRET","CADDY_CF_API_TOKEN"]

/-- `INTERNAL_ENV_VARS`. -/
def internalEnvVars : List String :=
  ["ADMIN_PASSWORD_HASH","CLASSIFIER_STATUS_FILE","CLASSIFIER_STATUS_SECONDS","DNS_POLL_SECONDS",
   "DOMAIN_IP_TTL","FLOW_BATCH","FLOW_PIPE","INGEST_STATUS_FILE","INGEST_STATUS_SECONDS",
   "LAN_CIDRS","MIKROTIK_DEVICE_SLOW_LIMIT","PIHOLE_DB","PIHOLE_DNS","POLICY_DB",
   "POLICY_TIMEZONE","ROUTER_TIMEZONE","SERVICE_CATALOG_FILE","SERVICE_CATALOG_PATH","STATE_FILE",
   "TELEMETRY_DB_HOST","TELEMETRY_DB_PORT","TELEMETRY_DB_TIMEOUT","ZEN_PUSH_VAPID_KEY_FILE",
   "ZEN_TEST_WEBHOOK_PORT","ZEN_TEST_WEBHOOK_SECRET"]

/-- `DEPRECATED_ENV_VARS`. -/
def deprecatedEnvVars : List String := []

/-- `SAFE_SECRET_MARKERS`. -/
def safeSecretMarkers : List String :=
  ["replace-with","example","change-me","changeme","<","your-"]

def truthyWords : List String := ["1","true","yes","on"]

/-- The variables of a file with their values, and those that it sets again. -/
structure EnvFile where
  values : List (String × String) := []
  duplicates : List String := []

/-- `_strip_quotes`. -/
def stripQuotes (value : String) : String :=
  let text := strip value
  let apostrophe := Char.ofNat 39
  let first := text.toList.head?
  if 2 ≤ text.length ∧ first=text.toList.getLast? ∧ (first=some apostrophe ∨ first=some '"') then
    String.ofList text.toList.tail.dropLast
  else text

/-- `ENV_LINE_RE`. -/
def envLine (raw : List Char) : Option (String × String) :=
  let name := raw.takeWhile fun c => c.isAlphanum || c= '_'
  match raw.dropWhile (fun c => c.isAlphanum || c= '_') with
  | '=' :: value =>
    if name.head?.any (fun c => c.isAlpha || c= '_') then
      some (String.ofList name,String.ofList value)
    else none
  | _ => none

/-- One line of `parse_env_file`. -/
def EnvFile.line (file : EnvFile) (raw : List Char) : EnvFile :=
  let line := strip (String.ofList raw)
  if line="" ∨ startsWith line "#" then file
  else match envLine raw with
    | none => file
    | some (name,value) =>
      { values := dictSet file.values name (stripQuotes value)
        duplicates := if file.values.any (fun e => e.1=name) ∧ name ∉ file.duplicates then
          file.duplicates ++ [name] else file.duplicates }

/-- `parse_env_file`. -/
def parseEnvFile (text : String) : EnvFile :=
  let file := (splitLines text.toList).foldl EnvFile.line {}
  { file with duplicates := sortedSet file.duplicates }

section RoundTrip
variable {name value : String} {values : List (String × String)}

/-- The text of a file that sets the variables. -/
def fileText (values : List (String × String)) : String :=
  String.ofList ((values.map fun e => e.1.toList ++ '=' :: e.2.toList).flatMap
    fun line => line ++ ['\n'])

/-- A variable and a value that a line of a file can hold. -/
structure Assignable (name value : String) : Prop where
  first : name.toList.head?.any (fun c => c.isAlpha || c= '_')=true
  name : name.toList.all (fun c => c.isAlphanum || c= '_')=true
  line : value.toList.all (fun c => !isLineBreak c)=true
  bare : stripQuotes value=value

lemma nameChar_toNat {c : Char} (h : (c.isAlphanum || c= '_')=true) :
    (65 ≤ c.toNat ∧ c.toNat ≤ 90) ∨ (97 ≤ c.toNat ∧ c.toNat ≤ 122) ∨
      (48 ≤ c.toNat ∧ c.toNat ≤ 57) ∨ c.toNat=95 := by
  have hchar : (((decide (65 ≤ c.val ∧ c.val ≤ 90) || (decide (97 ≤ c.val) && decide (c.val ≤ 122))) ||
      (decide (48 ≤ c.val) && decide (c.val ≤ 57))) || decide (c= '_'))=true := h
  simp only [Bool.or_eq_true,Bool.and_eq_true,decide_eq_true_eq,UInt32.le_iff_toNat_le] at hchar
  rcases hchar with ((h | h) | h) | rfl
  · exact .inl h
  · exact .inr (.inl h)
  · exact .inr (.inr (.inl h))
  · exact .inr (.inr (.inr rfl))

lemma isSpace_nameChar {c : Char} (h : (c.isAlphanum || c= '_')=true) : isSpace c=false := by
  have hchar := nameChar_toNat h
  simp only [isSpace,Bool.or_eq_false_iff,Bool.and_eq_false_iff,decide_eq_false_iff_not]
  omega

lemma isLineBreak_nameChar {c : Char} (h : (c.isAlphanum || c= '_')=true) :
    isLineBreak c=false := by
  have hchar := nameChar_toNat h
  simp only [isLineBreak,Bool.or_eq_false_iff,Bool.and_eq_false_iff,decide_eq_false_iff_not]
  omega

lemma Assignable.envLine (h : Assignable name value) :
    EnvContract.envLine (name.toList ++ '=' :: value.toList)=some (name,value) := by
  have hname := List.all_eq_true.mp h.name
  unfold EnvContract.envLine
  rw [List.takeWhile_append_of_pos hname,List.dropWhile_append_of_pos hname]
  have htake : ('=' :: value.toList).takeWhile (fun c => c.isAlphanum || c= '_')=[] := rfl
  have hdrop : ('=' :: value.toList).dropWhile (fun c => c.isAlphanum || c= '_')=
    '=' :: value.toList := rfl
  rw [htake,hdrop,List.append_nil]
  simp only [h.first,if_true,String.ofList_toList]

/-- A line that sets a variable is neither empty nor a comment. -/
lemma Assignable.line_head (h : Assignable name value) :
    ∃ c,(c.isAlphanum || c= '_')=true ∧
      (strip (String.ofList (name.toList ++ '=' :: value.toList))).toList.head?=some c := by
  cases hname : name.toList with
  | nil =>
    have hfirst := h.first
    rw [hname] at hfirst
    cases hfirst
  | cons c cs =>
    have hc : (c.isAlphanum || c= '_')=true :=
      List.all_eq_true.mp h.name c (hname ▸ List.mem_cons_self)
    exact ⟨c,hc,strip_head_of (by rw [String.toList_ofList]; rfl) (isSpace_nameChar hc)⟩

lemma Assignable.read (h : Assignable name value) {file : EnvFile}
    (hnew : name ∉ file.values.map Prod.fst) :
    file.line (name.toList ++ '=' :: value.toList)=
      { values := file.values ++ [(name,value)], duplicates := file.duplicates } := by
  obtain ⟨c,hc,hhead⟩ := h.line_head
  have hcontent : ¬(strip (String.ofList (name.toList ++ '=' :: value.toList))="" ∨
      startsWith (strip (String.ofList (name.toList ++ '=' :: value.toList))) "#"=true) := by
    rintro (hempty | hcomment)
    · rw [hempty] at hhead
      cases hhead
    · obtain ⟨rest,hrest⟩ := List.isPrefixOf_iff_prefix.mp hcomment
      rw [← hrest] at hhead
      rw [← Option.some.inj hhead] at hc
      cases hc
  have hany : file.values.any (fun e => decide (e.1=name))=false := by
    rw [List.any_eq_false]
    exact fun e he heq => hnew (List.mem_map.mpr ⟨e,he,of_decide_eq_true heq⟩)
  unfold EnvFile.line
  dsimp only
  rw [if_neg hcontent,h.envLine]
  simp only [dictSet,hany,h.bare,Bool.false_eq_true,false_and,if_false]

/-- Reading the text of a file that sets each variable once gives back its variables. -/
theorem parseEnvFile_fileText (h : ∀ e ∈ values,Assignable e.1 e.2)
    (hnodup : (values.map Prod.fst).Nodup) : parseEnvFile (fileText values)={ values := values } := by
  have hlines : splitLines (fileText values).toList=
      values.map fun e => e.1.toList ++ '=' :: e.2.toList := by
    rw [fileText,String.toList_ofList]
    refine splitLines_flatMap fun line hline c hc => ?_
    obtain ⟨e,he,rfl⟩ := List.mem_map.mp hline
    rcases List.mem_append.mp hc with hc | hc
    · exact isLineBreak_nameChar (List.all_eq_true.mp (h e he).name c hc)
    · rcases List.mem_cons.mp hc with rfl | hc
      · decide
      · simpa using List.all_eq_true.mp (h e he).line c hc
  have hfold (file : EnvFile) (hnew : ∀ e ∈ values,e.1 ∉ file.values.map Prod.fst) :
      (values.map fun e => e.1.toList ++ '=' :: e.2.toList).foldl EnvFile.line file=
        { values := file.values ++ values, duplicates := file.duplicates } := by
    clear hlines
    induction values generalizing file with
    | nil => simp
    | cons e values ih =>
      obtain ⟨hfirst,hrest⟩ := List.nodup_cons.mp hnodup
      rw [List.map_cons,List.foldl_cons,
        (h e List.mem_cons_self).read (hnew e List.mem_cons_self),
        ih (fun e' he' => h e' (List.mem_cons_of_mem _ he')) hrest]
      · simp
      · intro e' he'
        rw [List.map_append,List.mem_append,not_or]
        refine ⟨hnew e' (List.mem_cons_of_mem _ he'),?_⟩
        intro heq
        rw [List.map_singleton,List.mem_singleton] at heq
        exact hfirst (heq ▸ List.mem_map_of_mem he')
  rw [parseEnvFile,hlines,hfold {} (fun _ _ => nofun)]
  rfl

end RoundTrip

/-- What the repository says of the variables: the example file, the references of the compose file
with whether they are required, and those of the source. -/
structure Contract where
  exampleFile : EnvFile
  composeRefs : List (String × Bool)
  sourceRefs : List String

section Functions
variable (py : PyRuntime)

/-- `_truthy`. -/
def truthy (value : Option String) : Bool := py.lower (strip (value.getD "")) ∈ truthyWords

/-- `text.strip().lower().rstrip(".")`. -/
def hostText (text : String) : String :=
  String.ofList ((py.lower (strip text)).toList.reverse.dropWhile (· = '.')).reverse

/-- `candidate == host or candidate.startswith("*.") and host.endswith(candidate[1:])`. -/
def covers (candidate host : String) : Bool :=
  candidate=host ||
    (startsWith candidate "*." && endsWith host (String.ofList (candidate.toList.drop 1)))

/-- `_allowed_host_covers`. -/
def allowedHostCovers (raw target : String) : Bool :=
  let host := hostText py target
  host≠"" && (splitText ',' raw).any fun item => covers (hostText py item) host

/-- `_secret_example_safe`. -/
def secretExampleSafe (value : String) : Bool :=
  let text := py.lower (strip value)
  text="" || safeSecretMarkers.any fun marker => occursIn marker text

/-- `sorted(names - others)`. -/
def without (names others : List String) : List String := sortedSet (names.filter (· ∉ others))

/-- A message about the names, if there are any. -/
def named (message : String) (names : List String) : List String :=
  if names=[] then [] else [message ++ ", ".intercalate names]

/-- A message under a condition. -/
def unlessHolds (holds : Bool) (message : String) : List String := if holds then [] else [message]

variable (values : List (String × String))

/-- `values.get(name, "")`. -/
def value (name : String) : String := (values.lookup name).getD ""

def isEmpty (name : String) : Bool := strip (value values name)=""

/-- The checks of mail delivery. -/
def smtpErrors : List String :=
  if truthy py (values.lookup "ZEN_SMTP_ENABLED") then
    named "SMTP is enabled but required variable(s) are empty: "
      (["ZEN_SMTP_HOST","ZEN_SMTP_FROM","ZEN_SMTP_TO"].filter (isEmpty values)) ++
    unlessHolds (!(truthy py (values.lookup "ZEN_SMTP_SSL") &&
        truthy py (values.lookup "ZEN_SMTP_STARTTLS")))
      "ZEN_SMTP_SSL and ZEN_SMTP_STARTTLS may not both be enabled"
  else []

/-- The check of the webhook. -/
def webhookErrors : List String :=
  unlessHolds (!(truthy py (values.lookup "ZEN_WEBHOOK_ALLOW_HTTP") &&
      isEmpty values "ZEN_WEBHOOK_SIGNING_SECRET"))
    "ZEN_WEBHOOK_ALLOW_HTTP=1 requires ZEN_WEBHOOK_SIGNING_SECRET"

def secureCookies : Bool := truthy py (values.lookup "ZEN_SECURE_COOKIES")

/-- The checks of the Host allowlist. -/
def allowlistErrors : List String :=
  let localHost := strip (value values "ZEN_LOCAL_HOST")
  let allowedHosts := strip (value values "ZEN_ALLOWED_HOSTS")
  if secureCookies py values then
    if allowedHosts="" then ["ZEN_SECURE_COOKIES=1 requires ZEN_ALLOWED_HOSTS"]
    else
      unlessHolds (allowedHostCovers py allowedHosts localHost)
        "ZEN_SECURE_COOKIES=1 requires ZEN_ALLOWED_HOSTS to cover ZEN_LOCAL_HOST" ++
      unlessHolds (allowedHostCovers py allowedHosts "127.0.0.1")
        ("ZEN_SECURE_COOKIES=1 requires ZEN_ALLOWED_HOSTS to cover 127.0.0.1 for local " ++
          "release health checks")
  else []

/-- The checks of remote access. -/
def remoteErrors : List String :=
  let allowedHosts := strip (value values "ZEN_ALLOWED_HOSTS")
  if truthy py (values.lookup "ZEN_REMOTE_ACCESS_ENABLED") then
    named "Remote access is enabled but required variable(s) are empty: "
      (["ZEN_PUBLIC_HOST","ZEN_ALLOWED_HOSTS","CLOUDFLARE_TUNNEL_TOKEN_FILE"].filter
        (isEmpty values)) ++
    unlessHolds (secureCookies py values)
      "ZEN_REMOTE_ACCESS_ENABLED=1 requires ZEN_SECURE_COOKIES=1" ++
    unlessHolds (truthy py (values.lookup "ZEN_CLOUDFLARE_ACCESS_PROTECTED"))
      "ZEN_REMOTE_ACCESS_ENABLED=1 requires ZEN_CLOUDFLARE_ACCESS_PROTECTED=1" ++
    unlessHolds (isEmpty values "ZEN_PUBLIC_HOST" ||
        allowedHostCovers py allowedHosts (value values "ZEN_PUBLIC_HOST"))
      "ZEN_REMOTE_ACCESS_ENABLED=1 requires ZEN_ALLOWED_HOSTS to cover ZEN_PUBLIC_HOST"
  else []

end Functions

section Gate
variable (py : PyRuntime) (contract : Contract)

def Contract.userVars : List String := contract.exampleFile.values.map Prod.fst

def Contract.required : List String := (contract.composeRefs.filter Prod.snd).map Prod.fst

/-- The checks of the repository's own files. -/
def repositoryErrors : List String :=
  let userVars := contract.userVars
  let composeVars := contract.composeRefs.map Prod.fst
  named ".env.example contains duplicate variable(s): " contract.exampleFile.duplicates ++
  named "Compose variable(s) missing from .env.example: " (without composeVars userVars) ++
  named ".env.example variable(s) not consumed by Compose: " (without userVars composeVars) ++
  named "Source environment reference(s) missing from contract: "
    (without contract.sourceRefs (userVars ++ internalEnvVars ++ deprecatedEnvVars)) ++
  named "Internal environment contract entry/entries are stale: "
    (without internalEnvVars contract.sourceRefs) ++
  named ".env.example contains non-placeholder secret value(s): "
    (sortedSet (secretVars.filter fun name => name ∈ userVars ∧
      !secretExampleSafe py (value contract.exampleFile.values name)))

/-- The checks of the names that a `.env` file sets. -/
def nameErrors (fileName : String) (file : EnvFile) : List String :=
  named (fileName ++ " contains duplicate variable(s): ") file.duplicates ++
  named (fileName ++ " contains undocumented variable(s): ")
    (without (file.values.map Prod.fst) (contract.userVars ++ deprecatedEnvVars)) ++
  named (fileName ++ " is missing required variable(s): ")
    (sortedSet (contract.required.filter (isEmpty file.values)))

def localWarnings (fileName : String) (values : List (String × String)) : List String :=
  named (fileName ++ " contains deprecated variable(s): ")
    (sortedSet ((values.map Prod.fst).filter (· ∈ deprecatedEnvVars))) ++
  unlessHolds (secureCookies py values || isEmpty values "ZEN_LOCAL_HOST")
    ("Local HTTPS is configured but ZEN_SECURE_COOKIES=0; secure-session commissioning " ++
      "remains incomplete")

/-- `validate_contract`: the errors and the warnings, with the text of the local file if there is
one. -/
def validateContract (fileName : String) (localText : Option String) :
    List String × List String :=
  match localText with
  | none => (repositoryErrors py contract,[])
  | some text =>
    let file := parseEnvFile text
    (repositoryErrors py contract ++ nameErrors contract fileName file ++
      smtpErrors py file.values ++ webhookErrors py file.values ++
      allowlistErrors py file.values ++ remoteErrors py file.values,
     localWarnings py fileName file.values)

end Gate

end ZenControl.EnvContract
