import ZenControl.Telemetry.Classifier

/-! From a JSON record of the flow exporter to the row that the writer takes from the queue. -/
namespace ZenControl.Telemetry

section Addresses

/-- What the ingest process takes from its environment: Python's texts, `ipaddress`, the
configured networks, `datetime.fromtimestamp`, `float` and the clock, in microseconds. -/
structure IngestEnv extends PyRuntime where
  ipAddress : String → Option String
  ipOfBytes : List ℕ → String
  inLan : String → Bool
  fromNanoseconds : ℤ → Option ℤ
  fromSeconds : ℤ → Py ℤ
  toFloat : PyVal → Py PyFloat
  now : ℤ := 0

/-- The value of a hexadecimal digit. -/
def hexDigit (c : Char) : Option ℕ :=
  if '0' ≤ c ∧ c ≤ '9' then some (c.toNat - '0'.toNat)
  else if 'a' ≤ c ∧ c ≤ 'f' then some (c.toNat - 'a'.toNat+10)
  else if 'A' ≤ c ∧ c ≤ 'F' then some (c.toNat - 'A'.toNat+10)
  else none

/-- The characters that `bytes.fromhex` skips between two bytes. -/
def isHexSpace (c : Char) : Bool := c= ' ' || (0x09 ≤ c.toNat && c.toNat ≤ 0x0D)

/-- `bytes.fromhex`. -/
def fromHex : List Char → Option (List ℕ)
  | [] => some []
  | c::cs =>
    if isHexSpace c then fromHex cs
    else match cs with
    | [] => none
    | d::rest => do
      let high ← hexDigit c
      let low ← hexDigit d
      let bytes ← fromHex rest
      pure ((16*high+low)::bytes)

variable (env : IngestEnv)

/-- `normalize_ip` of a value that JSON or SQLite holds. -/
def normalizeIp (value : PyVal) : String :=
  match value with
  | .none => ""
  | value =>
    let value := strip (value.text env.toPyRuntime)
    if value="" then ""
    else match env.ipAddress value with
    | some address => address
    | none =>
      if value.length=8 ∨ value.length=32 then
        match fromHex value.toList with
        | some raw => if raw.length=4 ∨ raw.length=16 then env.ipOfBytes raw else value
        | none => value
      else value

/-- `is_lan`. -/
def isLan (value : String) : Bool :=
  match env.ipAddress value with
  | some address => env.inLan address
  | none => false

/-- `ns_to_dt`: what cannot be read as a time is the present. -/
def nsToDt (value : PyVal) : ℤ :=
  match (value.or (.int 0)).toInt with
  | .ok ns => if ns=0 then env.now else (env.fromNanoseconds ns).getD env.now
  | .error _ => env.now

end Addresses

section Domains

/-- An entry of `domain_ip_map`, with its expiry in microseconds. -/
structure DomainEntry where
  domain : String
  service : String
  expires : ℤ

/-- `lookup_domain`, as far as `transform_flow` uses it. -/
def lookupDomain (domainIpMap : List (String × DomainEntry)) (now : ℤ) (remoteIp : String) :
    String :=
  match domainIpMap.lookup remoteIp with
  | none => ""
  | some item => if item.expires < now then "" else item.domain

end Domains

section Rows

inductive Direction
  | upload
  | download
  deriving DecidableEq, Repr

def Direction.text : Direction → String
  | upload => "upload"
  | download => "download"

/-- A row of the flow queue, which is a row of `flows_raw` without its serial number. -/
structure FlowRow where
  eventTime : ℤ
  flowStart : ℤ
  flowEnd : ℤ
  samplerAddress : String
  clientIp : String
  remoteIp : String
  direction : Direction
  srcIp : String
  dstIp : String
  srcPort : ℤ
  dstPort : ℤ
  protocol : String
  bytes : ℤ
  packets : ℤ
  srcMac : String
  dstMac : String
  inIf : ℤ
  outIf : ℤ
  domain : String
  category : String
  service : String
  confidence : String
  classifierEvidence : Evidence
  classifierVersion : String
  deriving Repr

/-- `CLASSIFIER_VERSION`. -/
def classifierVersion : String := "zen_service_classifier_v1"

/-- The catalogue that is loaded and the domains of recent lookups. -/
structure IngestState where
  compiled : Compiled
  definitions : List Definition
  domainIpMap : List (String × DomainEntry)

/-- The client, the remote side and the direction of a flow that leaves or enters the home
network; all other flows are not counted. -/
def flowSides (env : IngestEnv) (src dst natSrc natDst : String) :
    Option (String × String × Direction) :=
  let srcLan := isLan env src
  let dstLan := isLan env dst
  let natSrcLan := natSrc≠"" && isLan env natSrc
  let natDstLan := natDst≠"" && isLan env natDst
  if srcLan && !dstLan then some (src,dst,.upload)
  else if dstLan && !srcLan then some (dst,src,.download)
  else if !srcLan && !dstLan && natDstLan then some (natDst,src,.download)
  else if !srcLan && !dstLan && natSrcLan then some (natSrc,dst,.upload)
  else none

/-- The name of a protocol number. The four numbers are texts of digits, so the check for
digits in front changes nothing. -/
def protocolName : String → String
  | "6" => "TCP"
  | "17" => "UDP"
  | "1" => "ICMP"
  | "58" => "ICMPv6"
  | proto => proto

/-- `int(raw.get(key) or 0)`. -/
def intField (raw : PyVal) (key : String) : Py ℤ := do
  let value ← raw.get key
  (value.or (.int 0)).toInt

/-- `str(raw.get(key) or "")`. -/
def textField (py : PyRuntime) (raw : PyVal) (key : String) : Py String := do
  let value ← raw.get key
  pure (value.textOr py)

/-- `transform_flow`. -/
def transformFlow (env : IngestEnv) (state : IngestState) (raw : PyVal) :
    Py (Option FlowRow) := do
  let address (key : String) : Py String := do
    let value ← raw.get key
    pure (normalizeIp env value)
  let src ← address "src_addr"
  let dst ← address "dst_addr"
  let natSrc ← address "nat_src_addr"
  let natDst ← address "nat_dst_addr"
  if src="" ∨ dst="" then pure none
  else match flowSides env src dst natSrc natDst with
  | none => pure none
  | some (clientIp,remoteIp,direction) => do
    let domain := lookupDomain state.domainIpMap env.now remoteIp
    let proto ← textField env.toPyRuntime raw "proto"
    let proto := protocolName proto
    let destinationPort ← intField raw "dst_port"
    let classification := classifyRecord env.toPyRuntime state.compiled state.definitions
      { dns := .str domain, protocol := proto, destinationPort := destinationPort }
    let received ← raw.get "time_received_ns"
    let started ← raw.get "time_flow_start_ns"
    let ended ← raw.get "time_flow_end_ns"
    let sampler ← address "sampler_address"
    let srcPort ← intField raw "src_port"
    let bytes ← intField raw "bytes"
    let packets ← intField raw "packets"
    let srcMac ← textField env.toPyRuntime raw "src_mac"
    let dstMac ← textField env.toPyRuntime raw "dst_mac"
    let inIf ← intField raw "in_if"
    let outIf ← intField raw "out_if"
    pure <| some
      { eventTime := nsToDt env received, flowStart := nsToDt env started,
        flowEnd := nsToDt env ended, samplerAddress := sampler, clientIp := clientIp,
        remoteIp := remoteIp, direction := direction, srcIp := src, dstIp := dst,
        srcPort := srcPort, dstPort := destinationPort, protocol := proto, bytes := bytes,
        packets := packets, srcMac := srcMac, dstMac := dstMac, inIf := inIf, outIf := outIf,
        domain := domain, category := classification.category,
        service := classification.service, confidence := classification.confidence,
        classifierEvidence := classification.evidence, classifierVersion := classifierVersion }

/-- A row that the reader puts on the queue for some record, at any time. -/
def Read (row : FlowRow) : Prop :=
  ∃ env state raw, transformFlow env state raw=.ok (some row)

/-- What a row says about its service is what `classify_record` found for it. -/
lemma transformFlow_classified {env : IngestEnv} {state : IngestState} {raw : PyVal}
    {row : FlowRow} (h : transformFlow env state raw=.ok (some row)) :
    ∃ signals : Signals,
      let found := classifyRecord env.toPyRuntime state.compiled state.definitions signals
      row.service=found.service ∧ row.classifierEvidence=found.evidence := by
  unfold transformFlow at h
  obtain ⟨src,-,h⟩ := bind_ok h
  obtain ⟨dst,-,h⟩ := bind_ok h
  obtain ⟨natSrc,-,h⟩ := bind_ok h
  obtain ⟨natDst,-,h⟩ := bind_ok h
  split_ifs at h
  · cases h
  · split at h
    · cases h
    · obtain ⟨proto,-,h⟩ := bind_ok h
      obtain ⟨port,-,h⟩ := bind_ok h
      obtain ⟨_,-,h⟩ := bind_ok h
      obtain ⟨_,-,h⟩ := bind_ok h
      obtain ⟨_,-,h⟩ := bind_ok h
      obtain ⟨_,-,h⟩ := bind_ok h
      obtain ⟨_,-,h⟩ := bind_ok h
      obtain ⟨_,-,h⟩ := bind_ok h
      obtain ⟨_,-,h⟩ := bind_ok h
      obtain ⟨_,-,h⟩ := bind_ok h
      obtain ⟨_,-,h⟩ := bind_ok h
      obtain ⟨_,-,h⟩ := bind_ok h
      obtain ⟨_,-,h⟩ := bind_ok h
      obtain rfl := Option.some.inj (Except.ok.inj h)
      dsimp only
      exact ⟨_,rfl,rfl⟩

lemma Read.service_ne_empty {row : FlowRow} (h : Read row) : row.service≠"" := by
  obtain ⟨env,state,raw,h⟩ := h
  obtain ⟨signals,hservice,-⟩ := transformFlow_classified h
  rw [hservice]
  exact classifyRecord_service _ _ _ _

end Rows
end ZenControl.Telemetry
