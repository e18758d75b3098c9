import ZenControl.KidControl.Materialize
import ZenControl.Router.Addresses
import Mathlib.Algebra.GroupWithZero.Nat

/-! The readiness of an authority transfer. A later snapshot of Kid Control is translated again
and matched with live addresses; the staged proposal is only compared by its fingerprint. -/
namespace ZenControl.KidControl
open Router (isIpv4)

section Snapshots

/-- A row of `/ip/kid-control/device`. -/
structure KidDevice where
  name : String
  macAddress : String
  user : String
  ipAddress : String := ""
  isDynamic : Bool := false
  inactive : Bool := false
  disabled : Bool := false

/-- A row of `/ip/dhcp-server/lease`. -/
structure Lease where
  address : String
  mac : String
  isDynamic : Bool := false

/-- A row of `/ip/arp`. -/
structure ArpEntry where
  address : String
  mac : String
  complete : Bool := true

/-- What `get_legacy_kid_control_snapshot` reads. -/
structure Snapshot where
  profiles : List KidProfile := []
  devices : List KidDevice := []
  dhcpLeases : List Lease := []
  arpEntries : List ArpEntry := []

/-- A device as the fingerprint sees it: without its addresses. -/
structure FingerprintDevice where
  name : String
  mac : String
  user : String
  disabled : Bool

/-- What the migration takes from Python: `str.upper` and the SHA-256 of canonical JSON. -/
structure LegacyRuntime where
  upper : String → String
  sha256 : List KidProfile × List FingerprintDevice → String

variable (env : Env) (py : LegacyRuntime)

/-- The pattern `[0-9A-F]{2}`. -/
def hexPair : List Char → Bool
  | [a,b] => [a,b].all fun c => ('0' ≤ c && c ≤ '9') || ('A' ≤ c && c ≤ 'F')
  | _ => false

/-- The text that both modules compare: upper case, with colons. -/
def LegacyRuntime.macText (value : String) : String :=
  String.ofList ((py.upper (strip value)).toList.map fun c => if c= '-' then ':' else c)

/-- `_mac` of the migration: a text that is no address becomes empty. -/
def LegacyRuntime.mac (value : String) : String :=
  let raw := py.macText value
  let parts := splitChars (fun c => c= ':') raw.toList
  if parts.length=6 && parts.all hexPair then raw else ""

/-- `_ipv4_values`. -/
def ipv4Values (value : String) : List String :=
  let tokens := (splitChars (fun c => isSpace c || c= ',' || c= ';') (strip value).toList).map
    String.ofList
  ((tokens.filter fun token => token≠"" && isIpv4 token).foldl fun found token =>
    if token ∈ found then found else found ++ [token]) []

/-- `_configured_profiles`. -/
def configuredProfiles (snapshot : Snapshot) : List KidProfile :=
  let rows := (snapshot.profiles.filter fun raw => strip raw.name≠"").map fun raw =>
    { name := strip raw.name, disabled := raw.disabled, rateLimit := strip raw.rateLimit,
      windows := fun day => strip (raw.windows day),
      unlimited := fun day => strip (raw.unlimited day) }
  orderBy (fun p => env.casefold p.name) rows

/-- `_configured_devices`. -/
def configuredDevices (snapshot : Snapshot) : List KidDevice :=
  (snapshot.devices.filter fun raw => !raw.isDynamic).map fun raw =>
    { raw with
      name := strip raw.name, macAddress := py.mac raw.macAddress, user := strip raw.user,
      ipAddress := ",".intercalate (ipv4Values raw.ipAddress) }

/-- `legacy_policy_fingerprint`. -/
def legacyPolicyFingerprint (snapshot : Snapshot) : String :=
  let devices := (configuredDevices py snapshot).map fun item =>
    ({ name := item.name, mac := item.macAddress, user := item.user,
       disabled := item.disabled } : FingerprintDevice)
  let before (a b : FingerprintDevice) : Bool :=
    let folded := (env.casefold a.name,env.casefold b.name)
    folded.1 < folded.2 || (folded.1=folded.2 &&
      (a.mac < b.mac || (a.mac=b.mac && !(b.user < a.user : Bool))))
  py.sha256 (configuredProfiles env snapshot,devices.insertionSort fun a b => before a b)

end Snapshots

section Identities
variable (py : LegacyRuntime)

inductive IdentityState
  | matched
  | unresolved
  | ambiguous
  | invalidMac
  deriving DecidableEq, Repr

def IdentityState.text : IdentityState → String
  | matched => "matched"
  | unresolved => "unresolved"
  | ambiguous => "ambiguous"
  | invalidMac => "invalid_mac"

/-- What `_identity_evidence` finds for a device. -/
structure Identity where
  state : IdentityState
  ipv4 : String := ""
  candidates : List String := []
  evidence : List String := []
  deriving DecidableEq, Repr

/-- The addresses of a device by the source that shows them. -/
def identitySources (mac : String) (configured : List String) (snapshot : Snapshot) :
    List (String × List String) :=
  let leases := snapshot.dhcpLeases.filter fun row => py.mac row.mac=mac
  let entries := snapshot.arpEntries.filter fun row => py.mac row.mac=mac && row.complete
  [("kid_control",sortedSet configured),
   ("dhcp",sortedSet (leases.flatMap fun row => ipv4Values row.address)),
   ("arp",sortedSet (entries.flatMap fun row => ipv4Values row.address))]

/-- `_identity_evidence`. -/
def identityEvidence (mac : String) (configured : List String) (snapshot : Snapshot) : Identity :=
  if mac="" then { state := .invalidMac }
  else
    let sources := identitySources py mac configured snapshot
    let showing (p : List String → Bool) := (sources.filter fun s => p s.2).map Prod.fst
    let matched (selected : String) : Identity :=
      { state := .matched, ipv4 := selected, candidates := [selected],
        evidence := showing fun values => selected ∈ values }
    -- the observation of Kid Control itself is the most specific one
    match sortedSet configured with
    | [selected] => matched selected
    | _ =>
      match sortedSet (sources.flatMap Prod.snd) with
      | [selected] => matched selected
      | [] => { state := .unresolved }
      | candidates =>
        { state := .ambiguous, candidates := candidates, evidence := showing fun v => v≠[] }

end Identities

section Preview
variable (env : Env) (py : LegacyRuntime)

/-- A device of `translate_kid_control_snapshot`. -/
structure TranslatedDevice where
  legacyName : String
  mac : String
  legacyProfile : String
  legacyDisabled : Bool
  legacyInactive : Bool
  identity : Identity
  warnings : List String
  deviceAlias : String
  profileName : String
  category : String := "other"

/-- What `translate_kid_control_snapshot` returns. -/
structure Preview where
  sourceFingerprint : String
  warnings : ℕ
  profiles : List Translation
  devices : List TranslatedDevice

/-- One device of the loop of `translate_kid_control_snapshot`. -/
def translateDevice (snapshot : Snapshot) (names : List String) (raw : KidDevice) :
    TranslatedDevice :=
  let profileName := if raw.user ∈ names then raw.user else ""
  let identity := identityEvidence py raw.macAddress (ipv4Values raw.ipAddress) snapshot
  let macWarnings := if raw.macAddress="" then
    ["Configured Kid Control device has no valid MAC address; cutover must remain blocked."]
    else []
  let userWarnings := if raw.user≠"" ∧ profileName="" then
    [s!"Device references missing legacy profile '{raw.user}'; no ZEN profile was guessed."]
    else []
  let identityWarnings := match identity.state with
    | .ambiguous => [("MAC currently resolves to multiple IPv4 candidates; " ++
        "activation must re-match and fail closed.")]
    | .invalidMac => ["Stable MAC identity is invalid; activation must remain blocked."]
    | _ => []
  { legacyName := raw.name, mac := raw.macAddress, legacyProfile := raw.user,
    legacyDisabled := raw.disabled, legacyInactive := raw.inactive, identity := identity,
    warnings := macWarnings ++ userWarnings ++ identityWarnings,
    deviceAlias := raw.name, profileName := profileName }

/-- `translate_kid_control_snapshot`. -/
def translateKidControlSnapshot (snapshot : Snapshot) : Preview :=
  let rawProfiles := configuredProfiles env snapshot
  let profiles := rawProfiles.map (translateProfile env.toRuntime)
  let devices := (configuredDevices py snapshot).map
    (translateDevice py snapshot (rawProfiles.map KidProfile.name))
  { sourceFingerprint := legacyPolicyFingerprint env py snapshot,
    warnings := (profiles.map fun p => p.warnings.length).sum +
      (devices.map fun d => d.warnings.length).sum,
    profiles := profiles, devices := devices }

/-- The stage that `stage_legacy_migration` keeps of a preview. -/
def Preview.staged (preview : Preview) : Staged :=
  { sourceFingerprint := env.lower (strip preview.sourceFingerprint),
    payloadFingerprint := preview.sourceFingerprint, warnings := preview.warnings,
    profiles := preview.profiles.map Translation.proposed,
    devices := preview.devices.map fun d =>
      { legacyName := d.legacyName, mac := d.mac, identityState := d.identity.state.text,
        ipv4 := d.identity.ipv4, deviceAlias := d.deviceAlias, profileName := d.profileName,
        category := d.category } }

end Preview

section Readiness
variable (env : Env) (py : LegacyRuntime)

/-- `_existing_profile_matches`. -/
def existingProfileMatches (existing : Profile) (proposed : ProposedProfile) : Bool :=
  strip existing.name=strip proposed.name &&
    existing.desiredMode=proposed.desiredMode &&
    env.lower (strip existing.bandwidthPreset)=env.lower (strip proposed.bandwidthPreset) &&
    existing.blockedServices.insertionSort (fun a b => ¬ b < a)=
      proposed.blockedServices.insertionSort (fun a b => ¬ b < a) &&
    existing.dailyQuotaMb=proposed.dailyQuotaMb &&
    existing.dailyQuotaAction=proposed.dailyQuotaAction &&
    existing.serviceQuotas.insertionSort (fun a b => ¬ b.1 < a.1)=
      proposed.serviceQuotas.insertionSort (fun a b => ¬ b.1 < a.1)

/-- `_static_lease_for_device`. -/
def staticLeaseForDevice (snapshot : Snapshot) (device : TranslatedDevice) : Option Lease :=
  let ip := strip device.identity.ipv4
  let mac := py.macText device.mac
  if ip="" ∨ mac="" then none
  else match snapshot.dhcpLeases.filter fun lease =>
      strip lease.address=ip && py.macText lease.mac=mac with
    | [lease] => if lease.isDynamic then none else some lease
    | _ => none

/-- A check of the report. -/
structure Check where
  key : String
  ok : Bool
  blocking : Bool := true
  detail : String
  deriving DecidableEq, Repr

/-- A device row of the report. -/
structure DeviceRow where
  name : String
  mac : String
  ip : String
  profileName : String
  identityState : String
  staticLease : Bool := false
  existingPolicy : Bool := false
  ready : Bool := true
  reason : String := ""
  deriving DecidableEq, Repr

/-- What `build_kid_control_cutover_readiness` returns. -/
structure Readiness where
  ready : Bool
  authorityState : String := ""
  sourceFingerprint : String := ""
  checks : List Check
  devices : List DeviceRow
  deriving DecidableEq, Repr

/-- The checks that stand in the way. -/
def blockingChecks (checks : List Check) : List Check :=
  checks.filter fun check => check.blocking && !check.ok

/-- Why the policy that a device has already stands in the way of the transfer. -/
def policyObstacle (t : Tables) (profileName : String) (existing : DevicePolicy) :
    Option String :=
  let current := match existing.profileId.bind fun id => t.profiles.find? fun p => p.id=id with
    | some p => strip p.name
    | none => ""
  if current≠"" ∧ current≠profileName then
    some s!"Existing ZEN assignment uses profile '{current}'"
  else if existing.modeOverride≠.inherit then
    some "Existing ZEN mode override must be INHERIT before cutover"
  else none

/-- The row of a device. -/
def deviceRow (t : Tables) (snapshot : Snapshot) (device : TranslatedDevice) : DeviceRow :=
  let ip := strip device.identity.ipv4
  let mac := py.macText device.mac
  let profileName := strip device.profileName
  let existing := Rows.row DevicePolicy.ip (some ip) t.devicePolicy
  let row : DeviceRow :=
    { name := device.legacyName, mac := mac, ip := ip, profileName := profileName,
      identityState := device.identity.state.text,
      existingPolicy := ip≠"" && existing.isSome }
  if device.identity.state≠.matched ∨ ip="" ∨ mac="" then
    { row with ready := false, reason := "A unique live IPv4/MAC match is required" }
  else if profileName="" then
    { row with ready := false, reason := "Legacy profile assignment is unresolved" }
  else match staticLeaseForDevice py snapshot device with
    | none =>
      { row with
        ready := false
        reason := "A unique static DHCP lease matching this MAC/IP is required before " ++
          "authority transfer" }
    | some _ =>
      match existing.bind (policyObstacle t profileName) with
      | some reason => { row with staticLease := true, ready := false, reason := reason }
      | none => { row with staticLease := true }

/-- `build_kid_control_cutover_readiness`, with the state of the last cutover event. -/
def buildKidControlCutoverReadiness (staged : Option Staged) (preview : Preview)
    (snapshot : Snapshot) (t : Tables) (cutover : Option String) : Readiness :=
  let active := cutover.any fun state => ["prepared","authoritative","failed"].contains state
  if active then
    let state := env.lower (cutover.getD "")
    let checks := if state="authoritative" then
      [{ key := "authority_state", ok := true, blocking := false,
         detail := "ZEN authority is active; a second cutover is not applicable while the " ++
          "retained rollback state exists" }]
      else
      [{ key := "authority_state", ok := false,
         detail := s!"Authority transfer is already {py.upper state}; complete " ++
          "rollback/recovery before starting another cutover" }]
    { ready := false, authorityState := state, checks := checks, devices := [] }
  else
    let stagedPrint := env.lower (strip ((staged.map fun s =>
      orElse s.sourceFingerprint s.payloadFingerprint).getD ""))
    let freshPrint := env.lower (strip preview.sourceFingerprint)
    let unchanged := stagedPrint≠"" && freshPrint≠"" && stagedPrint=freshPrint
    let disabled := (preview.profiles.filter Translation.legacyDisabled).map Translation.legacyName
    let autoMode := env.lower
      (strip (orElse (settingOr t.appSettings "auto_reconcile_mode" "off") "off"))
    let existing := orderBy (fun p : Profile => nocase p.name) t.profiles
    let conflicts := (preview.profiles.filter fun profile =>
      match existing.findRev? fun p => strip p.name=strip profile.proposed.name with
      | some existing => !existingProfileMatches env existing profile.proposed
      | none => false).map fun profile => strip profile.proposed.name
    let rows := preview.devices.map (deviceRow py t snapshot)
    let blockers := (rows.filter fun row => !row.ready).map fun row =>
      orElse row.name (orElse row.mac (orElse row.ip "unknown"))
    let checks : List Check :=
      [{ key := "staged", ok := staged.isSome,
         detail := if staged.isSome then "A staged replacement exists"
          else "Stage the replacement before cutover" },
       { key := "source_unchanged", ok := unchanged,
         detail := if unchanged then "Fresh legacy fingerprint matches the staged proposal"
          else "Legacy Kid Control changed since staging; re-stage before cutover" },
       { key := "translation_clean", ok := preview.warnings=0,
         detail := if preview.warnings=0 then "Translation has no unresolved semantic warnings"
          else s!"Translation has {preview.warnings} warning(s) requiring review" },
       { key := "profiles_present", ok := preview.profiles≠[],
         detail := if preview.profiles≠[] then
            s!"{preview.profiles.length} legacy profile(s) are present"
          else "No legacy Kid Control profiles were found" },
       { key := "legacy_profiles_active", ok := disabled=[],
         detail := if disabled=[] then "Legacy profiles are currently active"
          else "Disabled legacy profiles cannot be cut over: " ++ ", ".intercalate disabled },
       { key := "automatic_reconciliation", ok := autoMode="enforce",
         detail := if autoMode="enforce" then "Automatic reconciliation is ENFORCE"
          else s!"Automatic reconciliation is {py.upper autoMode}; ENFORCE is required for " ++
            "scheduled replacement policy" },
       { key := "local_profile_conflicts", ok := conflicts=[],
         detail := if conflicts=[] then "No conflicting ZEN profile names"
          else "Existing ZEN profile differs from staged replacement: " ++
            ", ".intercalate conflicts },
       { key := "device_identity", ok := rows≠[] && blockers=[],
         detail := if rows≠[] ∧ blockers=[] then
            s!"All {rows.length} configured device(s) have unique live identity and static " ++
              "DHCP leases"
          else if blockers≠[] then "Device cutover blockers: " ++ ", ".intercalate blockers
          else "No configured devices were found" }]
    { ready := blockingChecks checks=[], sourceFingerprint := freshPrint, checks := checks,
      devices := rows }

end Readiness
end ZenControl.KidControl
