import ZenControl.Release.Environment

/-! The configuration of the secure transport, and what its status says of the local and of the
remote origin. -/
namespace ZenControl.Transport
open EnvContract (hostText covers truthyWords)

/-- What the transport takes from Python: the lower case of a text, and the canonical text of an IP
address. -/
structure TransportEnv extends PyRuntime where
  ipAddress : String → Option String
  ipAddress_text : ∀ text address,ipAddress text=some address →
    '.' ∈ address.toList ∨ ':' ∈ address.toList

/-- `SecureTransportConfigError`, by the message that it carries. -/
inductive ConfigError
  | invalidBoolean (value : String)
  | notHostnameOnly (name : String)
  | invalidHostname (name : String)
  | invalidBindIp
  | invalidWildcard (raw : String)
  | invalidAllowedHost (raw : String)
  | maxAgeNotInteger
  | maxAgeOutOfRange
  deriving DecidableEq, Repr

/-- The characters that `[a-z0-9]` matches when the case is ignored: four letters that are not
ASCII fold to it. -/
def isHostChar (c : Char) : Bool :=
  c.isAlphanum || c.toNat=0x130 || c.toNat=0x131 || c.toNat=0x17F || c.toNat=0x212A

/-- One label of `_HOST_RE`. -/
def isLabel (label : List Char) : Bool :=
  label.length ≤ 63 && label.head?.any isHostChar && label.getLast?.any isHostChar &&
    label.all fun c => isHostChar c || c= '-'

/-- `_HOST_RE.fullmatch`. -/
def isHostname (host : String) : Bool := (splitChars (· = '.') host.toList).all isLabel

section Values
variable (env : TransportEnv)

/-- `_bool(value, False)`. -/
def bool (value : Option String) : Except ConfigError Bool :=
  match value with
  | none => .ok false
  | some value =>
    let text := env.lower (strip value)
    if text ∈ truthyWords then .ok true
    else if text ∈ ["0","false","no","off",""] then .ok false
    else .error (.invalidBoolean value)

/-- `_hostname`. -/
def hostname (value : Option String) (name : String) : Except ConfigError String :=
  let host := hostText env.toPyRuntime (value.getD "")
  if host="" then .ok ""
  else if ["://","/","\\",":","*","?","#"].any fun token => occursIn token host then
    .error (.notHostnameOnly name)
  else if 253 < host.length ∨ isHostname host=false then .error (.invalidHostname name)
  else .ok host

/-- `_bind_ip`. -/
def bindIp (value : Option String) : Except ConfigError String :=
  let text := strip (value.getD "")
  if text="" then .ok ""
  else match env.ipAddress text with
    | some address => .ok address
    | none => .error .invalidBindIp

/-- What one entry of the allowlist stands for. -/
def allowedHost (raw : String) : Except ConfigError (Option String) :=
  let host := hostText env.toPyRuntime raw
  if host="" then .ok none
  else if host="*" then .ok (some host)
  else if startsWith host "*." then
    if isHostname (String.ofList (host.toList.drop 2)) then .ok (some host)
    else .error (.invalidWildcard raw)
  else if isHostname host || host="localhost" then .ok (some host)
  else match env.ipAddress host with
    | some address => .ok (some address)
    | none => .error (.invalidAllowedHost raw)

/-- One turn of the loop of `_allowed_hosts`. -/
def addAllowed (result : List String) (raw : String) : Except ConfigError (List String) := do
  match ← allowedHost env raw with
  | none => .ok result
  | some item => .ok (if item ∈ result then result else result ++ [item])

/-- `_allowed_hosts`. -/
def allowedHosts (value : Option String) : Except ConfigError (List String) :=
  (splitText ',' (value.getD "")).foldlM (addAllowed env) []

/-- `_hsts_seconds`. -/
def hstsSeconds (value : Option String) : Except ConfigError ℤ :=
  match pyInt (value.getD "31536000") with
  | none => .error .maxAgeNotInteger
  | some seconds =>
    if 0 ≤ seconds ∧ seconds ≤ 63072000 then .ok seconds else .error .maxAgeOutOfRange

end Values

/-- `_host_is_allowed`. -/
def hostIsAllowed (host : String) (allowed : List String) : Bool :=
  host≠"" && allowed.any fun candidate => covers candidate host

structure SecureTransportConfig where
  remoteAccessEnabled : Bool
  secureCookies : Bool
  publicHost : String
  localHost : String
  lanBindIp : String
  allowedHosts : List String
  cloudflareAccessProtected : Bool
  hstsMaxAge : ℤ
  deriving DecidableEq, Repr

/-- `from_mapping`. -/
def fromMapping (env : TransportEnv) (values : List (String × String)) :
    Except ConfigError SecureTransportConfig := do
  let remoteAccessEnabled ← bool env (values.lookup "ZEN_REMOTE_ACCESS_ENABLED")
  let secureCookies ← bool env (values.lookup "ZEN_SECURE_COOKIES")
  let publicHost ← hostname env (values.lookup "ZEN_PUBLIC_HOST") "ZEN_PUBLIC_HOST"
  let localHost ← hostname env (values.lookup "ZEN_LOCAL_HOST") "ZEN_LOCAL_HOST"
  let lanBindIp ← bindIp env (values.lookup "ZEN_LAN_BIND_IP")
  let hosts ← allowedHosts env (values.lookup "ZEN_ALLOWED_HOSTS")
  let cloudflareAccessProtected ← bool env (values.lookup "ZEN_CLOUDFLARE_ACCESS_PROTECTED")
  let hstsMaxAge ← hstsSeconds (values.lookup "ZEN_HSTS_MAX_AGE")
  .ok { remoteAccessEnabled, secureCookies, publicHost, localHost, lanBindIp,
        allowedHosts := hosts, cloudflareAccessProtected, hstsMaxAge }

/-- One check of a status. -/
structure Check where
  key : String
  passed : Bool
  summary : String
  deriving DecidableEq, Repr

/-- A check with the summary of either state. -/
def check (key : String) (passed : Bool) (pass fail : String) : Check :=
  { key, passed, summary := if passed then pass else fail }

inductive TransportState
  | readyForLiveValidation
  | configurationIncomplete
  | blocked
  | disabled
  deriving DecidableEq, Repr

structure LocalStatus where
  state : TransportState
  configured : Bool
  hardened : Bool
  host : Option String
  bindIp : Option String
  url : Option String
  checks : List Check
  pending : Bool
  deriving DecidableEq, Repr

structure RemoteStatus where
  state : TransportState
  enabled : Bool
  ready : Bool
  publicHost : Option String
  url : Option String := none
  checks : List Check
  pending : Bool
  deriving DecidableEq, Repr

namespace SecureTransportConfig
variable (config : SecureTransportConfig)

/-- `enforce_host_allowlist`. -/
def enforceHostAllowlist : Bool := config.allowedHosts≠[] && "*" ∉ config.allowedHosts

/-- `text or None`. -/
def orNone (text : String) : Option String := if text="" then none else some text

def urlOf (host : String) : Option String :=
  if host="" then none else some ("https://" ++ host ++ "/")

/-- The check of the allowlist in `_local_status`. -/
def localAllowlistCheck : Check :=
  check "host_allowlist"
    (config.enforceHostAllowlist && hostIsAllowed config.localHost config.allowedHosts)
    "Explicit Host allowlist covers the local HTTPS hostname"
    "ZEN_ALLOWED_HOSTS must explicitly cover ZEN_LOCAL_HOST and may not be '*'"

/-- `_local_status`. -/
def localStatus : LocalStatus :=
  let secureCookie := check "secure_cookie" config.secureCookies
    "ZEN session cookie is Secure" "Enable ZEN_SECURE_COOKIES after HTTPS validation"
  let configured := config.localHost≠"" && config.lanBindIp≠""
  let hardened := configured && secureCookie.passed && config.localAllowlistCheck.passed
  { state := if hardened then .readyForLiveValidation
      else if configured then .configurationIncomplete else .blocked
    configured, hardened
    host := orNone config.localHost
    bindIp := orNone config.lanBindIp
    url := urlOf config.localHost
    checks := [
      check "local_host" (config.localHost≠"") "Local HTTPS hostname configured"
        "ZEN_LOCAL_HOST is required",
      check "lan_bind_ip" (config.lanBindIp≠"") "LAN HTTPS bind IP configured"
        "ZEN_LAN_BIND_IP is required",
      secureCookie,config.localAllowlistCheck]
    pending := hardened }

/-- The checks of `_remote_status`. -/
def remoteChecks : List Check :=
  [check "public_host" (config.publicHost≠"") "Public HTTPS hostname configured"
    "ZEN_PUBLIC_HOST is required",
   check "secure_cookie" config.secureCookies "ZEN session cookie is Secure"
    "ZEN_SECURE_COOKIES must be enabled",
   check "cloudflare_access" config.cloudflareAccessProtected
    "Operator confirms Cloudflare Access + Protect with Access are configured"
    "Cloudflare Access protection has not been confirmed",
   check "host_allowlist"
    (config.enforceHostAllowlist && hostIsAllowed config.publicHost config.allowedHosts)
    "Explicit Host allowlist covers the public hostname"
    "ZEN_ALLOWED_HOSTS must explicitly cover the public hostname and may not be '*'"]

/-- `_remote_status`. -/
def remoteStatus : RemoteStatus :=
  if config.remoteAccessEnabled then
    let ready := config.remoteChecks.all Check.passed
    { state := if ready then .readyForLiveValidation else .blocked
      enabled := true
      ready
      publicHost := orNone config.publicHost
      url := urlOf config.publicHost
      checks := config.remoteChecks
      pending := ready }
  else
    { state := .disabled
      enabled := false
      ready := false
      publicHost := orNone config.publicHost
      checks := []
      pending := false }

end SecureTransportConfig

end ZenControl.Transport
