import ZenControl.Library.TopGroups
import ZenControl.Telemetry.Queries

/-! The signs of a bypass of the DNS filter in the retained flows and lookups of managed clients:
the queries, the rows of the answer and the groups that give them. -/
namespace ZenControl.Telemetry
open TopGroups

section Signals

/-- What a port or a domain is a sign of. -/
structure BypassSignal where
  key : String
  label : String
  category : String
  confidence : String
  severity : String
  weight : ℕ
  detail : String
  deriving DecidableEq, Inhabited, Repr

/-- `PORT_SIGNALS`. -/
def portSignals : List (String × ℤ × BypassSignal) :=
  [("TCP",53,
    { key := "external_dns", label := "External DNS", category := "dns",
      confidence := "high", severity := "high", weight := 16
      detail := "Managed client contacted an Internet DNS server directly on TCP/53." }),
   ("UDP",53,
    { key := "external_dns", label := "External DNS", category := "dns",
      confidence := "high", severity := "high", weight := 16
      detail := "Managed client contacted an Internet DNS server directly on UDP/53." }),
   ("TCP",853,
    { key := "dot_attempt", label := "Encrypted DNS / DoT attempt", category := "dns",
      confidence := "high", severity := "high", weight := 14
      detail := "Outbound TCP/853 is consistent with DNS-over-TLS. The restricted-device "
        ++ "hardening policy should block it." }),
   ("UDP",853,
    { key := "doq_attempt", label := "Encrypted DNS / DoQ attempt", category := "dns",
      confidence := "high", severity := "high", weight := 14
      detail := "Outbound UDP/853 is consistent with DNS-over-QUIC. The restricted-device "
        ++ "hardening policy should block it." }),
   ("UDP",500,
    { key := "ipsec_ike", label := "IPsec / IKE default port", category := "vpn",
      confidence := "medium", severity := "medium", weight := 8
      detail := "UDP/500 is commonly used for IKE/IPsec, but the port alone is not proof of "
        ++ "a VPN." }),
   ("UDP",4500,
    { key := "ipsec_natt", label := "IPsec NAT-T default port", category := "vpn",
      confidence := "medium", severity := "medium", weight := 9
      detail := "UDP/4500 is commonly used for IPsec NAT-T, but the port alone is not proof "
        ++ "of a VPN." }),
   ("UDP",51820,
    { key := "wireguard_default", label := "WireGuard default port", category := "vpn",
      confidence := "medium", severity := "medium", weight := 8
      detail := "UDP/51820 is WireGuard's common default; WireGuard can use any UDP port." }),
   ("UDP",1194,
    { key := "openvpn_default", label := "OpenVPN default port", category := "vpn",
      confidence := "medium", severity := "medium", weight := 8
      detail := "UDP/1194 is a common OpenVPN default; OpenVPN can use other ports." }),
   ("TCP",1194,
    { key := "openvpn_default", label := "OpenVPN default port", category := "vpn",
      confidence := "medium", severity := "medium", weight := 8
      detail := "TCP/1194 is a common OpenVPN default; OpenVPN can use other ports." }),
   ("UDP",1701,
    { key := "l2tp_default", label := "L2TP default port", category := "vpn",
      confidence := "medium", severity := "medium", weight := 7
      detail := "UDP/1701 is commonly associated with L2TP." }),
   ("TCP",1723,
    { key := "pptp_default", label := "PPTP control port", category := "vpn",
      confidence := "medium", severity := "medium", weight := 7
      detail := "TCP/1723 is the PPTP control port; GRE data-plane visibility is separate." }),
   ("TCP",1080,
    { key := "socks_proxy", label := "SOCKS proxy default port", category := "proxy",
      confidence := "low", severity := "low", weight := 3
      detail := "TCP/1080 is a common SOCKS proxy port; this is a weak heuristic only." }),
   ("TCP",3128,
    { key := "http_proxy", label := "HTTP proxy common port", category := "proxy",
      confidence := "low", severity := "low", weight := 3
      detail := "TCP/3128 is commonly used by HTTP proxies; this is a weak heuristic only." }),
   ("TCP",8080,
    { key := "http_proxy", label := "HTTP proxy common port", category := "proxy",
      confidence := "low", severity := "low", weight := 2
      detail := "TCP/8080 is used by proxies and many unrelated web services; low-confidence "
        ++ "only." }),
   ("TCP",8118,
    { key := "http_proxy", label := "HTTP proxy common port", category := "proxy",
      confidence := "low", severity := "low", weight := 3
      detail := "TCP/8118 is commonly associated with local/HTTP proxies; low-confidence only." }),
   ("TCP",8888,
    { key := "http_proxy", label := "HTTP proxy common port", category := "proxy",
      confidence := "low", severity := "low", weight := 2
      detail := "TCP/8888 is sometimes used by proxies and unrelated services; "
        ++ "low-confidence only." })]

/-- `DOH_DOMAIN_SUFFIXES`. -/
def dohDomainSuffixes : List String :=
  ["dns.google","cloudflare-dns.com","dns.quad9.net","dns10.quad9.net","dns11.quad9.net",
   "doh.opendns.com","dns.nextdns.io","dns.adguard-dns.com","doh.cleanbrowsing.org"]

/-- `BYPASS_PORTS`. -/
def bypassPorts : List ℤ := (portSignals.map fun e => e.2.1).dedup

/-- What the evidence takes from its environment: Python's texts, `ipaddress`, and the texts of
times and of amounts. -/
structure BypassEnv extends PyRuntime where
  upper : String → String
  ipAddress : String → Option String
  isoformat : ℤ → String
  formatBytes : ℤ → String

variable (env : BypassEnv)

/-- `normalize_domain`. -/
def normalizeDomain (value : String) : String := dropDots (env.lower (strip value))

/-- `matches_domain_suffix`. -/
def matchesDomainSuffix (domain : String) (suffixes : List String) : Option String :=
  let value := normalizeDomain env domain
  if value="" then none
  else (suffixes.map (normalizeDomain env)).find? (underSuffix value)

/-- `classify_port_signal`: the signal with its protocol and port. -/
def classifyPortSignal (protocol : String) (dstPort : ℤ) : Option (BypassSignal × String × ℤ) :=
  let proto := env.upper (strip protocol)
  (portSignals.find? fun e => e.1=proto ∧ e.2.1=dstPort).map fun e => (e.2.2,proto,dstPort)

def knownDohFlow : BypassSignal :=
  { key := "known_doh_flow", label := "Known DoH endpoint traffic", category := "dns",
    confidence := "high", severity := "high", weight := 18
    detail := "Telemetry associated an outbound flow with a known DoH endpoint. " ++
      "This is strong endpoint evidence, but not cryptographic proof of the HTTP request type." }

def knownDohLookup : BypassSignal :=
  { key := "known_doh_lookup", label := "Known DoH endpoint lookup", category := "dns",
    confidence := "medium", severity := "medium", weight := 5
    detail := "Pi-hole observed a lookup for a known DoH endpoint. A lookup shows " ++
      "intent/interest, not proof that a DoH tunnel was established." }

inductive DohSource
  | flow
  | dns
  deriving DecidableEq, Repr

/-- `classify_doh_domain`: the signal with the suffix that matched. -/
def classifyDohDomain (domain : String) (source : DohSource) : Option (BypassSignal × String) :=
  (matchesDomainSuffix env domain dohDomainSuffixes).map fun suffix =>
    (match source with | .flow => knownDohFlow | .dns => knownDohLookup,suffix)

end Signals
section Queries

/-- What the flows at the ports of a bypass are grouped by. -/
structure PortKey where
  clientIp : String
  remoteIp : String
  dstPort : ℤ
  protocol : String

/-- What the flows with a domain are grouped by. -/
structure FlowKey where
  clientIp : String
  remoteIp : String
  dstPort : ℤ
  protocol : String
  domain : String

/-- What the lookups are grouped by. -/
structure LookupKey where
  clientIp : String
  domain : String

def portKey (row : FlowRow) : PortKey :=
  { clientIp := row.clientIp, remoteIp := row.remoteIp, dstPort := row.dstPort,
    protocol := row.protocol }

def flowKey (row : FlowRow) : FlowKey :=
  { clientIp := row.clientIp, remoteIp := row.remoteIp, dstPort := row.dstPort,
    protocol := row.protocol, domain := row.domain }

def lookupKey (row : DnsRow) : LookupKey := { clientIp := row.clientIp, domain := row.domain }

/-- The tables that the evidence is read from. -/
structure Retained where
  flows : List FlowRow := []
  lookups : List DnsRow := []

/-- The tables with further rows. -/
def Retained.add (base further : Retained) : Retained where
  flows := base.flows ++ further.flows
  lookups := base.lookups ++ further.lookups

/-- The arguments of the queries. -/
structure EvidenceWindow where
  valid : List String
  since : ℤ
  limit : ℕ

/-- How many groups the queries for domains return. -/
def EvidenceWindow.domainLimit (w : EvidenceWindow) : ℕ := max (w.limit*4) 400

variable (w : EvidenceWindow) (data : Retained)

/-- The rows of the query for ports. -/
def portRows : List FlowRow :=
  data.flows.filter fun row => w.since ≤ row.eventTime ∧ row.direction=.upload ∧
    row.clientIp ∈ w.valid ∧ row.dstPort ∈ bypassPorts

/-- The rows of the query for flows with a domain. -/
def domainRows : List FlowRow :=
  data.flows.filter fun row => w.since ≤ row.eventTime ∧ row.direction=.upload ∧
    row.clientIp ∈ w.valid ∧ row.domain≠""

/-- The rows of the query for lookups. -/
def lookupRows : List DnsRow :=
  data.lookups.filter fun row => w.since ≤ row.eventTime ∧ row.clientIp ∈ w.valid ∧ row.domain≠""

-- The order of the keys is the order in which the database yields groups that are as late.
variable [LinearOrder PortKey] [LinearOrder FlowKey] [LinearOrder LookupKey]

def portTop : List PortKey := top portKey FlowRow.eventTime (portRows w data) w.limit

def flowTop : List FlowKey := top flowKey FlowRow.eventTime (domainRows w data) w.domainLimit

def lookupTop : List LookupKey := top lookupKey DnsRow.eventTime (lookupRows w data) w.domainLimit

end Queries

section Evidence

/-- A row of `bypass_evidence`. -/
structure BypassRow where
  signal : BypassSignal
  evidence : String
  matchedSuffix : Option String
  clientIp : String
  remoteIp : String
  domain : String
  protocol : String
  dstPort : ℤ
  totalBytes : ℤ
  totalBytesHuman : String
  packets : ℤ
  flows : ℕ
  lastSeen : String
  deriving DecidableEq, Inhabited, Repr

/-- The client, key, remote and domain of a row. -/
def BypassRow.identity (row : BypassRow) : String × String × String × String :=
  (row.clientIp,row.signal.key,row.remoteIp,row.domain)

variable [LinearOrder PortKey] [LinearOrder FlowKey] [LinearOrder LookupKey]
variable (env : BypassEnv) (w : EvidenceWindow) (data : Retained)

def portRow (k : PortKey) (signal : BypassSignal × String × ℤ) : BypassRow :=
  let rows := group portKey (portRows w data) k
  let bytes := (rows.map FlowRow.bytes).sum
  { signal := signal.1, evidence := "port", matchedSuffix := none, clientIp := k.clientIp
    remoteIp := k.remoteIp, domain := "", protocol := signal.2.1, dstPort := signal.2.2
    totalBytes := bytes, totalBytesHuman := env.formatBytes bytes
    packets := (rows.map FlowRow.packets).sum, flows := rows.length
    lastSeen := env.isoformat (latest portKey FlowRow.eventTime (portRows w data) k) }

def flowRow (k : FlowKey) (signal : BypassSignal × String) : BypassRow :=
  let rows := group flowKey (domainRows w data) k
  let bytes := (rows.map FlowRow.bytes).sum
  { signal := signal.1, evidence := "domain-flow", matchedSuffix := some signal.2
    clientIp := k.clientIp, remoteIp := k.remoteIp, domain := k.domain, protocol := k.protocol
    dstPort := k.dstPort, totalBytes := bytes, totalBytesHuman := env.formatBytes bytes
    packets := (rows.map FlowRow.packets).sum, flows := rows.length
    lastSeen := env.isoformat (latest flowKey FlowRow.eventTime (domainRows w data) k) }

def lookupRow (k : LookupKey) (signal : BypassSignal × String) : BypassRow :=
  { signal := signal.1, evidence := "dns-query", matchedSuffix := some signal.2
    clientIp := k.clientIp, remoteIp := "", domain := k.domain, protocol := "DNS", dstPort := 0
    totalBytes := 0, totalBytesHuman := "0 B", packets := 0
    flows := (group lookupKey (lookupRows w data) k).length
    lastSeen := env.isoformat (latest lookupKey DnsRow.eventTime (lookupRows w data) k) }

/-- The evidence of the ports. -/
def portEvidence : List BypassRow :=
  (portTop w data).filterMap fun k =>
    (classifyPortSignal env k.protocol k.dstPort).map (portRow env w data k)

/-- What `seen_doh_flows` holds of a flow. -/
def flowIdentity (k : FlowKey) : String × String × String :=
  (k.clientIp,k.remoteIp,env.lower k.domain)

/-- The groups of flows with the domain of a known resolver. -/
def dohFlows : List FlowKey :=
  firsts (flowIdentity env) []
    ((flowTop w data).filter fun k => (classifyDohDomain env k.domain .flow).isSome)

def flowEvidence : List BypassRow :=
  (dohFlows env w data).filterMap fun k =>
    (classifyDohDomain env k.domain .flow).map (flowRow env w data k)

/-- `doh_flow_domains`. -/
def dohFlowDomains (evidence : List BypassRow) : List (String × String) :=
  (evidence.filter fun row => row.signal.key="known_doh_flow").map fun row =>
    (row.clientIp,env.lower row.domain)

def lookupEvidence (evidence : List BypassRow) : List BypassRow :=
  (lookupTop w data).filterMap fun k =>
    if (k.clientIp,env.lower k.domain) ∈ dohFlowDomains env evidence then none
    else (classifyDohDomain env k.domain .dns).map (lookupRow env w data k)

/-- The evidence before it is sorted. -/
def evidenceRows : List BypassRow :=
  let evidence := portEvidence env w data ++ flowEvidence env w data
  evidence ++ lookupEvidence env w data evidence

/-- `bypass_evidence`. -/
def bypassEvidence (now : ℤ) (clientIps : List String) (hours limit : ℤ) : List BypassRow :=
  let valid := clientIps.filterMap env.ipAddress
  if valid=[] then []
  else
    let hours := max 1 (min hours (24*7))
    let limit := (max 1 (min limit 400)).toNat
    let w := { valid := valid, since := now-hours*3600000000, limit := limit }
    ((evidenceRows env w data).insertionSort fun a b => ¬a.lastSeen<b.lastSeen).take limit

end Evidence
section Pieces

/-- A group that gives a row of evidence. -/
inductive Piece
  | port (k : PortKey)
  | flow (k : FlowKey)
  | lookup (k : LookupKey)

/-- Which query a group comes from. -/
def Piece.kind : Piece → ℕ
  | .port _ => 0
  | .flow _ => 1
  | .lookup _ => 2

variable [LinearOrder PortKey] [LinearOrder FlowKey] [LinearOrder LookupKey]
variable (env : BypassEnv) (w : EvidenceWindow) (data : Retained)

/-- A flow to a known resolver stands for the lookups of its domain. -/
def CoveredBy (k : LookupKey) (f : FlowKey) : Prop :=
  f.clientIp=k.clientIp ∧ env.lower f.domain=env.lower k.domain

instance (k : LookupKey) (f : FlowKey) : Decidable (CoveredBy env k f) :=
  inferInstanceAs (Decidable (_ ∧ _))

/-- The groups of the port query that are evidence. -/
def portPieces : List PortKey :=
  (portTop w data).filter fun k => (classifyPortSignal env k.protocol k.dstPort).isSome

/-- The groups of lookups of known resolvers. -/
def dohLookups : List LookupKey :=
  (lookupTop w data).filter fun k => (classifyDohDomain env k.domain .dns).isSome

/-- The groups that give the evidence, in the order in which they give it. -/
def pieces : List Piece :=
  (portPieces env w data).map .port ++ (dohFlows env w data).map .flow ++
    ((dohLookups env w data).filter fun k => ∀ f ∈ dohFlows env w data, ¬CoveredBy env k f).map
      .lookup

/-- The row that a group gives. -/
def pieceRow : Piece → BypassRow
  | .port k =>
    ((classifyPortSignal env k.protocol k.dstPort).map (portRow env w data k)).getD default
  | .flow k => ((classifyDohDomain env k.domain .flow).map (flowRow env w data k)).getD default
  | .lookup k => ((classifyDohDomain env k.domain .dns).map (lookupRow env w data k)).getD default

/-- The order of the answer. -/
def NotLater (row : Piece → BypassRow) (a b : Piece) : Prop := ¬(row a).lastSeen<(row b).lastSeen

instance (row : Piece → BypassRow) : DecidableRel (NotLater row) :=
  fun _ _ => inferInstanceAs (Decidable ¬_)

instance (row : Piece → BypassRow) : Std.Total (NotLater row) :=
  ⟨fun _ _ => or_iff_not_imp_left.mpr fun h => String.lt_asymm (Decidable.not_not.mp h)⟩

instance (row : Piece → BypassRow) : IsTrans Piece (NotLater row) :=
  ⟨fun _ _ _ h h' => String.not_lt.mpr (String.le_trans (String.not_lt.mp h')
    (String.not_lt.mp h))⟩

/-- The groups of the answer. -/
def answered : List Piece :=
  ((pieces env w data).insertionSort (NotLater (pieceRow env w data))).take w.limit

/-- Fewer groups than its query returns stand before a group. -/
def Reaches : Piece → Prop
  | .port k => ahead portKey FlowRow.eventTime (portRows w data) k<w.limit
  | .flow k => ahead flowKey FlowRow.eventTime (domainRows w data) k<w.domainLimit
  | .lookup k => ahead lookupKey DnsRow.eventTime (lookupRows w data) k<w.domainLimit

end Pieces

section Rows
variable {env : BypassEnv} {w : EvidenceWindow} {data : Retained}

lemma filterMap_selected {α β γ : Type} [Inhabited γ] (f : α → Option β) (g : α → β → γ)
    (l : List α) : l.filterMap (fun x => (f x).map (g x))=
      (l.filter fun x => (f x).isSome).map fun x => ((f x).map (g x)).getD default := by
  induction l with
  | nil => rfl
  | cons x l ih =>
    cases h : f x with
    | none => simp [h,ih]
    | some y => simp [h,ih]

lemma portSignals_key : ∀ e ∈ portSignals,
    e.2.2.key≠"known_doh_flow" ∧ e.2.2.key≠"known_doh_lookup" := by decide

lemma classifyPortSignal_key {protocol : String} {dstPort : ℤ} {s : BypassSignal × String × ℤ}
    (h : classifyPortSignal env protocol dstPort=some s) :
    s.1.key≠"known_doh_flow" ∧ s.1.key≠"known_doh_lookup" := by
  obtain ⟨e,he,rfl⟩ := Option.map_eq_some_iff.mp h
  exact portSignals_key e (List.mem_of_find?_eq_some he)

lemma classifyDohDomain_key {domain : String} {source : DohSource} {s : BypassSignal × String}
    (h : classifyDohDomain env domain source=some s) :
    s.1.key=match source with | .flow => "known_doh_flow" | .dns => "known_doh_lookup" := by
  obtain ⟨suffix,_,rfl⟩ := Option.map_eq_some_iff.mp h
  cases source <;> rfl

variable [LinearOrder PortKey] [LinearOrder FlowKey] [LinearOrder LookupKey]

lemma portRow_of_mem {k : PortKey} (h : k ∈ portPieces env w data) :
    ∃ s, classifyPortSignal env k.protocol k.dstPort=some s ∧
      pieceRow env w data (.port k)=portRow env w data k s := by
  obtain ⟨s,hs⟩ := Option.isSome_iff_exists.mp (List.mem_filter.mp h).2
  exact ⟨s,hs,by simp only [pieceRow,hs,Option.map_some,Option.getD_some]⟩

lemma flowRow_of_mem {k : FlowKey} (h : k ∈ dohFlows env w data) :
    ∃ s, classifyDohDomain env k.domain .flow=some s ∧
      pieceRow env w data (.flow k)=flowRow env w data k s := by
  obtain ⟨s,hs⟩ := Option.isSome_iff_exists.mp
    (List.mem_filter.mp (firsts_sublist.subset h)).2
  exact ⟨s,hs,by simp only [pieceRow,hs,Option.map_some,Option.getD_some]⟩

lemma lookupRow_of_mem {k : LookupKey} (h : k ∈ dohLookups env w data) :
    ∃ s, classifyDohDomain env k.domain .dns=some s ∧
      pieceRow env w data (.lookup k)=lookupRow env w data k s := by
  obtain ⟨s,hs⟩ := Option.isSome_iff_exists.mp (List.mem_filter.mp h).2
  exact ⟨s,hs,by simp only [pieceRow,hs,Option.map_some,Option.getD_some]⟩

lemma portEvidence_eq : portEvidence env w data=
    ((portPieces env w data).map .port).map (pieceRow env w data) := by
  rw [List.map_map]
  exact filterMap_selected _ _ _

lemma flowEvidence_eq : flowEvidence env w data=
    ((dohFlows env w data).map .flow).map (pieceRow env w data) := by
  have hall : (dohFlows env w data).filter
      (fun k => (classifyDohDomain env k.domain .flow).isSome)=dohFlows env w data := by
    refine List.filter_eq_self.mpr fun k hk => ?_
    exact (List.mem_filter.mp (firsts_sublist.subset hk)).2
  rw [List.map_map]
  refine (filterMap_selected _ _ _).trans ?_
  rw [hall]
  rfl

lemma mem_dohFlowDomains {client domain : String} :
    (client,domain) ∈ dohFlowDomains env (portEvidence env w data ++ flowEvidence env w data) ↔
      ∃ f ∈ dohFlows env w data, f.clientIp=client ∧ env.lower f.domain=domain := by
  unfold dohFlowDomains
  rw [portEvidence_eq,flowEvidence_eq]
  simp only [List.map_map,List.mem_map,List.mem_filter,List.mem_append,decide_eq_true_eq,
    Prod.mk.injEq]
  constructor
  · rintro ⟨row,⟨⟨k,hk,rfl⟩ | ⟨f,hf,rfl⟩,hkey⟩,hclient,hdomain⟩
    · obtain ⟨s,hs,hrow⟩ := portRow_of_mem hk
      rw [Function.comp_apply,hrow] at hkey
      exact absurd hkey (classifyPortSignal_key hs).1
    · obtain ⟨s,hs,hrow⟩ := flowRow_of_mem hf
      rw [Function.comp_apply,hrow] at hclient hdomain
      exact ⟨f,hf,hclient,hdomain⟩
  · rintro ⟨f,hf,hclient,hdomain⟩
    obtain ⟨s,hs,hrow⟩ := flowRow_of_mem hf
    refine ⟨flowRow env w data f s,⟨.inr ⟨f,hf,hrow⟩,?_⟩,hclient,hdomain⟩
    exact classifyDohDomain_key hs

lemma lookupEvidence_eq :
    lookupEvidence env w data (portEvidence env w data ++ flowEvidence env w data)=
      (((dohLookups env w data).filter fun k => ∀ f ∈ dohFlows env w data, ¬CoveredBy env k f).map
        .lookup).map (pieceRow env w data) := by
  unfold lookupEvidence dohLookups
  rw [List.map_map,List.filter_filter]
  have hcovered : ∀ k : LookupKey,
      (k.clientIp,env.lower k.domain) ∈
        dohFlowDomains env (portEvidence env w data ++ flowEvidence env w data) ↔
      ¬∀ f ∈ dohFlows env w data, ¬CoveredBy env k f := fun k => by
    rw [mem_dohFlowDomains]
    simp only [CoveredBy,not_forall,not_not,exists_prop]
  induction lookupTop w data with
  | nil => rfl
  | cons k l ih =>
    by_cases hk : ∀ f ∈ dohFlows env w data, ¬CoveredBy env k f
    · have hnot := mt (hcovered k).mp (not_not.mpr hk)
      cases hs : classifyDohDomain env k.domain .dns with
      | none => simp [hs,ih]
      | some s =>
        rw [List.filterMap_cons_some (by simp only [if_neg hnot,hs,Option.map_some]; rfl),
          List.filter_cons_of_pos (by simpa [hs] using hk),List.map_cons,ih,Function.comp_apply]
        simp only [pieceRow,hs,Option.map_some,Option.getD_some]
    · rw [List.filterMap_cons_none (by simp only [if_pos ((hcovered k).mpr hk)]),
        List.filter_cons_of_neg (by simp [hk]),ih]

lemma evidenceRows_eq :
    evidenceRows env w data=(pieces env w data).map (pieceRow env w data) := by
  unfold evidenceRows pieces
  rw [List.map_append,List.map_append,← portEvidence_eq,← flowEvidence_eq,← lookupEvidence_eq]

variable (env w data) in
/-- The answer is made of the groups that it shows. -/
lemma answer_eq :
    ((evidenceRows env w data).insertionSort fun a b => ¬a.lastSeen<b.lastSeen).take w.limit=
      (answered env w data).map (pieceRow env w data) := by
  unfold answered
  rw [evidenceRows_eq,List.map_take]
  exact congrArg (List.take w.limit) (List.map_insertionSort (NotLater (pieceRow env w data))
    (fun a b : BypassRow => ¬a.lastSeen<b.lastSeen) _ _ fun _ _ _ _ => Iff.rfl).symm

end Rows

end ZenControl.Telemetry
