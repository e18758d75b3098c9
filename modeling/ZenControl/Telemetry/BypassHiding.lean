import ZenControl.Telemetry.BypassEvidence
import Mathlib.Data.Prod.Lex
import Mathlib.Data.String.Basic

/-! What traffic without a sign of a bypass does to the evidence of one: which groups it pushes
past the limits of the queries, and what the answer loses by it. -/
namespace ZenControl.Telemetry
open TopGroups

section Further
variable {env : BypassEnv} {w : EvidenceWindow} {base further : Retained}

/-- Further rows without a sign of a bypass. -/
structure Benign (env : BypassEnv) (further : Retained) : Prop where
  ports : ∀ row ∈ further.flows, classifyPortSignal env row.protocol row.dstPort=none
  domains : ∀ row ∈ further.flows, classifyDohDomain env row.domain .flow=none
  lookups : ∀ row ∈ further.lookups, classifyDohDomain env row.domain .dns=none

lemma portRows_add : portRows w (base.add further)=portRows w base ++ portRows w further :=
  List.filter_append _ _

lemma domainRows_add : domainRows w (base.add further)=domainRows w base ++ domainRows w further :=
  List.filter_append _ _

lemma lookupRows_add : lookupRows w (base.add further)=lookupRows w base ++ lookupRows w further :=
  List.filter_append _ _

variable (h : Benign env further)
include h

lemma Benign.portRows : ∀ row ∈ portRows w further,
    (classifyPortSignal env (portKey row).protocol (portKey row).dstPort).isSome=false :=
  fun row hrow => Option.isSome_eq_false_iff.mpr
    (Option.isNone_iff_eq_none.mpr (h.ports row (List.mem_of_mem_filter hrow)))

lemma Benign.domainRows : ∀ row ∈ domainRows w further,
    (classifyDohDomain env (flowKey row).domain .flow).isSome=false :=
  fun row hrow => Option.isSome_eq_false_iff.mpr
    (Option.isNone_iff_eq_none.mpr (h.domains row (List.mem_of_mem_filter hrow)))

lemma Benign.lookupRows : ∀ row ∈ lookupRows w further,
    (classifyDohDomain env (lookupKey row).domain .dns).isSome=false :=
  fun row hrow => Option.isSome_eq_false_iff.mpr
    (Option.isNone_iff_eq_none.mpr (h.lookups row (List.mem_of_mem_filter hrow)))

lemma portPieces_initial [LinearOrder PortKey] :
    portPieces env w (base.add further) <+: portPieces env w base := by
  unfold portPieces portTop
  rw [portRows_add]
  exact filter_top (p := fun k : PortKey => (classifyPortSignal env k.protocol k.dstPort).isSome)
    h.portRows

lemma dohLookups_initial [LinearOrder LookupKey] :
    dohLookups env w (base.add further) <+: dohLookups env w base := by
  unfold dohLookups lookupTop
  rw [lookupRows_add]
  exact filter_top (p := fun k : LookupKey => (classifyDohDomain env k.domain .dns).isSome)
    h.lookupRows

/-- The groups of flows to known resolvers, before those with the same identity are dropped. -/
lemma flowTop_initial [LinearOrder FlowKey] :
    ((flowTop w (base.add further)).filter fun k => (classifyDohDomain env k.domain .flow).isSome)
      <+: (flowTop w base).filter fun k => (classifyDohDomain env k.domain .flow).isSome := by
  unfold flowTop
  rw [domainRows_add]
  exact filter_top (p := fun k : FlowKey => (classifyDohDomain env k.domain .flow).isSome)
    h.domainRows

lemma dohFlows_initial [LinearOrder FlowKey] :
    dohFlows env w (base.add further) <+: dohFlows env w base :=
  firsts_initial (flowTop_initial h)

lemma portRow_add [LinearOrder PortKey] {k : PortKey} {signal : BypassSignal × String × ℤ}
    (hk : classifyPortSignal env k.protocol k.dstPort=some signal) :
    portRow env w (base.add further) k signal=portRow env w base k signal := by
  have hne : ∀ row ∈ portRows w further, portKey row≠k := fun row hrow he => by
    have hnone := h.portRows row hrow
    rw [he,hk] at hnone
    cases hnone
  unfold portRow
  rw [portRows_add,group_append hne,latest_append hne]

lemma flowRow_add [LinearOrder FlowKey] {k : FlowKey} {signal : BypassSignal × String}
    (hk : classifyDohDomain env k.domain .flow=some signal) :
    flowRow env w (base.add further) k signal=flowRow env w base k signal := by
  have hne : ∀ row ∈ domainRows w further, flowKey row≠k := fun row hrow he => by
    have hnone := h.domainRows row hrow
    rw [he,hk] at hnone
    cases hnone
  unfold flowRow
  rw [domainRows_add,group_append hne,latest_append hne]

lemma lookupRow_add [LinearOrder LookupKey] {k : LookupKey} {signal : BypassSignal × String}
    (hk : classifyDohDomain env k.domain .dns=some signal) :
    lookupRow env w (base.add further) k signal=lookupRow env w base k signal := by
  have hne : ∀ row ∈ lookupRows w further, lookupKey row≠k := fun row hrow he => by
    have hnone := h.lookupRows row hrow
    rw [he,hk] at hnone
    cases hnone
  unfold lookupRow
  rw [lookupRows_add,group_append hne,latest_append hne]

variable [LinearOrder PortKey] [LinearOrder FlowKey] [LinearOrder LookupKey]

/-- A group gives the same row with further rows. -/
lemma pieceRow_add : ∀ p : Piece, pieceRow env w (base.add further) p=pieceRow env w base p
  | .port k => by
    simp only [pieceRow]
    cases hk : classifyPortSignal env k.protocol k.dstPort with
    | none => rfl
    | some signal => rw [Option.map_some,Option.map_some,portRow_add h hk]
  | .flow k => by
    simp only [pieceRow]
    cases hk : classifyDohDomain env k.domain .flow with
    | none => rfl
    | some signal => rw [Option.map_some,Option.map_some,flowRow_add h hk]
  | .lookup k => by
    simp only [pieceRow]
    cases hk : classifyDohDomain env k.domain .dns with
    | none => rfl
    | some signal => rw [Option.map_some,Option.map_some,lookupRow_add h hk]

end Further

section Texts

/-- The texts of times are in the order of the times. -/
def TextsOrdered (env : BypassEnv) (data : Retained) : Prop :=
  ∀ row ∈ data.flows, ∀ row' ∈ data.flows, row.eventTime ≤ row'.eventTime →
    env.isoformat row.eventTime ≤ env.isoformat row'.eventTime

lemma TextsOrdered.latest {env : BypassEnv} {data : Retained} {κ : Type} [LinearOrder κ]
    {key : FlowRow → κ} {rows : List FlowRow} {a b : κ} (h : TextsOrdered env data)
    (hrows : rows ⊆ data.flows) (ha : a ∈ rows.map key) (hb : b ∈ rows.map key)
    (hab : Before key FlowRow.eventTime rows a b) :
    ¬env.isoformat (latest key FlowRow.eventTime rows a)<
      env.isoformat (latest key FlowRow.eventTime rows b) := by
  have hle := latest_le_of_before hab
  obtain ⟨row,hrow,-,htime⟩ : ∃ row ∈ rows, key row=a ∧
    row.eventTime=TopGroups.latest key FlowRow.eventTime rows a := latest_mem ha
  obtain ⟨row',hrow',-,htime'⟩ : ∃ row ∈ rows, key row=b ∧
    row.eventTime=TopGroups.latest key FlowRow.eventTime rows b := latest_mem hb
  rw [← htime,← htime'] at hle ⊢
  exact String.not_lt.mpr (h row' (hrows hrow') row (hrows hrow) hle)

end Texts

section Cut
variable [LinearOrder PortKey] [LinearOrder FlowKey] [LinearOrder LookupKey]
variable {env : BypassEnv} {w : EvidenceWindow} {base further data : Retained}

lemma mem_pieces_port {k : PortKey} :
    .port k ∈ pieces env w data ↔ k ∈ portPieces env w data := by simp [pieces]

lemma mem_pieces_flow {k : FlowKey} :
    .flow k ∈ pieces env w data ↔ k ∈ dohFlows env w data := by simp [pieces]

lemma mem_pieces_lookup {k : LookupKey} :
    .lookup k ∈ pieces env w data ↔ k ∈ dohLookups env w data ∧
      ∀ f ∈ dohFlows env w data, ¬CoveredBy env k f := by simp [pieces]

/-- The groups that are evidence before the flows stand for lookups. -/
def signs (env : BypassEnv) (w : EvidenceWindow) (data : Retained) : List Piece :=
  (portPieces env w data).map .port ++ (dohFlows env w data).map .flow ++
    (dohLookups env w data).map .lookup

lemma nodup_signs : (signs env w data).Nodup := by
  have hport : (portPieces env w data).Nodup := nodup_top.filter _
  have hflow : (dohFlows env w data).Nodup := (nodup_top.filter _).sublist firsts_sublist
  have hlookup : (dohLookups env w data).Nodup := nodup_top.filter _
  unfold signs
  rw [List.nodup_append,List.nodup_append]
  refine ⟨⟨hport.map fun _ _ => Piece.port.inj,hflow.map fun _ _ => Piece.flow.inj,?_⟩,
    hlookup.map fun _ _ => Piece.lookup.inj,?_⟩
  · simp
  · simp only [List.mem_append,List.mem_map]
    rintro _ (⟨k,-,rfl⟩ | ⟨k,-,rfl⟩) _ ⟨k',-,rfl⟩ <;> nofun

lemma pieces_sublist : (pieces env w data).Sublist (signs env w data) :=
  List.Sublist.append (List.Sublist.refl _) (List.filter_sublist.map _)

lemma signs_add_sublist (h : Benign env further) :
    (signs env w (base.add further)).Sublist (signs env w base) :=
  (((portPieces_initial h).sublist.map _).append ((dohFlows_initial h).sublist.map _)).append
    ((dohLookups_initial h).sublist.map _)

/-- The kind of a row, by its key. -/
def keyKind (key : String) : ℕ :=
  if key="known_doh_flow" then 1 else if key="known_doh_lookup" then 2 else 0

lemma keyKind_row {p : Piece} (hp : p ∈ signs env w data) :
    keyKind (pieceRow env w data p).signal.key=p.kind := by
  unfold signs at hp
  rw [List.mem_append,List.mem_append,List.mem_map,List.mem_map,List.mem_map] at hp
  rcases hp with (⟨k,hk,rfl⟩ | ⟨k,hk,rfl⟩) | ⟨k,hk,rfl⟩
  · obtain ⟨s,hs,hrow⟩ := portRow_of_mem hk
    obtain ⟨hflow,hlookup⟩ := classifyPortSignal_key hs
    rw [hrow]
    exact (if_neg hflow).trans (if_neg hlookup)
  · obtain ⟨s,hs,hrow⟩ := flowRow_of_mem hk
    rw [hrow]
    exact congrArg keyKind (classifyDohDomain_key hs)
  · obtain ⟨s,hs,hrow⟩ := lookupRow_of_mem hk
    rw [hrow]
    exact congrArg keyKind (classifyDohDomain_key hs)

/-- A row of a lookup names its group. -/
lemma eq_lookup_of_identity {p : Piece} {k : LookupKey} (hp : p ∈ signs env w data)
    (hk : k ∈ dohLookups env w data)
    (he : (pieceRow env w data p).identity=(pieceRow env w data (.lookup k)).identity) :
    p=.lookup k := by
  have hmem : .lookup k ∈ signs env w data := by simp [signs,hk]
  have hkey : (pieceRow env w data p).signal.key=(pieceRow env w data (.lookup k)).signal.key :=
    congrArg (fun i => i.2.1) he
  have hkind : p.kind=2 := by
    rw [← keyKind_row hp,hkey]
    exact keyKind_row hmem
  cases p with
  | port k' => cases hkind
  | flow k' => cases hkind
  | lookup k' =>
    have hk' : k' ∈ dohLookups env w data := by simpa [signs] using hp
    obtain ⟨s,_,hrow⟩ := lookupRow_of_mem hk
    obtain ⟨s',_,hrow'⟩ := lookupRow_of_mem hk'
    rw [hrow,hrow'] at he
    have hclient : k'.clientIp=k.clientIp := congrArg (fun i => i.1) he
    have hdomain : k'.domain=k.domain := congrArg (fun i => i.2.2.2) he
    cases k
    cases k'
    cases hclient
    cases hdomain
    rfl

lemma filter_port : (pieces env w data).filter (fun p => p.kind=0)=
    (portPieces env w data).map .port := by
  simp [pieces,List.filter_map,Function.comp_def,Piece.kind]

lemma filter_flow : (pieces env w data).filter (fun p => p.kind=1)=
    (dohFlows env w data).map .flow := by
  simp [pieces,List.filter_map,Function.comp_def,Piece.kind]

variable (htexts : TextsOrdered env data)
include htexts

/-- The evidence of the ports stands in the order of the answer. -/
lemma portPieces_sorted :
    ((portPieces env w data).map .port).Pairwise (NotLater (pieceRow env w data)) := by
  have hranked : (portPieces env w data).Pairwise
      (Before portKey FlowRow.eventTime (portRows w data)) :=
    ranked_pairwise.sublist (List.filter_sublist.trans (List.take_sublist _ _))
  refine List.pairwise_map.mpr (hranked.imp_of_mem fun {a b} ha hb hab => ?_)
  obtain ⟨s,_,hrow⟩ := portRow_of_mem ha
  obtain ⟨s',_,hrow'⟩ := portRow_of_mem hb
  unfold NotLater
  rw [hrow,hrow']
  exact htexts.latest List.filter_sublist.subset (mem_top.mp (List.mem_of_mem_filter ha)).1
    (mem_top.mp (List.mem_of_mem_filter hb)).1 hab

/-- So does that of the flows. -/
lemma dohFlows_sorted :
    ((dohFlows env w data).map .flow).Pairwise (NotLater (pieceRow env w data)) := by
  have hranked : (dohFlows env w data).Pairwise
      (Before flowKey FlowRow.eventTime (domainRows w data)) :=
    ranked_pairwise.sublist (firsts_sublist.trans
      (List.filter_sublist.trans (List.take_sublist _ _)))
  refine List.pairwise_map.mpr (hranked.imp_of_mem fun {a b} ha hb hab => ?_)
  obtain ⟨s,_,hrow⟩ := flowRow_of_mem ha
  obtain ⟨s',_,hrow'⟩ := flowRow_of_mem hb
  unfold NotLater
  rw [hrow,hrow']
  exact htexts.latest List.filter_sublist.subset
    (mem_top.mp (List.mem_of_mem_filter (firsts_sublist.subset ha))).1
    (mem_top.mp (List.mem_of_mem_filter (firsts_sublist.subset hb))).1 hab

end Cut

section Hiding
variable [LinearOrder PortKey] [LinearOrder FlowKey] [LinearOrder LookupKey]
variable {env : BypassEnv} {w : EvidenceWindow} {base further : Retained}

instance : DecidableEq Piece
  | .port _,.port _ => decidable_of_iff _ ⟨congrArg Piece.port,Piece.port.inj⟩
  | .flow _,.flow _ => decidable_of_iff _ ⟨congrArg Piece.flow,Piece.flow.inj⟩
  | .lookup _,.lookup _ => decidable_of_iff _ ⟨congrArg Piece.lookup,Piece.lookup.inj⟩
  | .port _,.flow _ => isFalse nofun
  | .port _,.lookup _ => isFalse nofun
  | .flow _,.port _ => isFalse nofun
  | .flow _,.lookup _ => isFalse nofun
  | .lookup _,.port _ => isFalse nofun
  | .lookup _,.flow _ => isFalse nofun

/-- How many rows of the evidence stand before the row of a group in the order of the answer. -/
def rank (env : BypassEnv) (w : EvidenceWindow) (data : Retained) (p : Piece) : ℕ :=
  (pieces env w data).countP (Outranks (NotLater (pieceRow env w data)) (pieces env w data) · p)

/-- A flow to a known resolver that its query returns stands for the lookup. -/
def StoodFor (env : BypassEnv) (w : EvidenceWindow) (data : Retained) (k : LookupKey) : Prop :=
  ∃ row ∈ domainRows w data, (classifyDohDomain env row.domain .flow).isSome ∧
    Reaches w data (.flow (flowKey row)) ∧ CoveredBy env k (flowKey row)

/-- No group that the answer shows is pushed past the limit of its query, and a lookup for which a
flow stood is still stood for, where its own query returns it and fewer rows than the limit of the
answer stand before it. -/
structure Unmoved (env : BypassEnv) (w : EvidenceWindow) (base further : Retained) : Prop where
  reaches : ∀ p ∈ answered env w base, Reaches w (base.add further) p
  standsFor : ∀ row ∈ lookupRows w base, (classifyDohDomain env row.domain .dns).isSome →
    Reaches w (base.add further) (.lookup (lookupKey row)) →
    rank env w (base.add further) (.lookup (lookupKey row))<w.limit →
    StoodFor env w base (lookupKey row) → StoodFor env w (base.add further) (lookupKey row)

lemma mem_answered_iff {data : Retained} {p : Piece} :
    p ∈ answered env w data ↔ p ∈ pieces env w data ∧ rank env w data p<w.limit := by
  have hnodup : (pieces env w data).Nodup := nodup_signs.sublist pieces_sublist
  constructor
  · intro hp
    have hpiece := (List.mem_insertionSort _).mp (List.mem_of_mem_take hp)
    exact ⟨hpiece,(mem_take_insertionSort hnodup hpiece).mp hp⟩
  · rintro ⟨hpiece,hrank⟩
    exact (mem_take_insertionSort hnodup hpiece).mpr hrank

lemma answered_add (h : Benign env further) : answered env w (base.add further)=
    ((pieces env w (base.add further)).insertionSort (NotLater (pieceRow env w base))).take
      w.limit := by
  have hrow : pieceRow env w (base.add further)=pieceRow env w base := funext (pieceRow_add h)
  unfold answered
  rw [hrow]

lemma mem_answered {data : Retained} {p : Piece} (hp : p ∈ answered env w data) :
    p ∈ pieces env w data := (mem_answered_iff.mp hp).1

/-- A flow of a known resolver that its query returns stands for lookups as the flow that is kept
of its identity does. -/
lemma covered_iff {data : Retained} {k : LookupKey} :
    (∃ f ∈ dohFlows env w data, CoveredBy env k f) ↔ StoodFor env w data k := by
  constructor
  · rintro ⟨f,hf,hcovered⟩
    obtain ⟨htop,hdoh⟩ := List.mem_filter.mp (firsts_sublist.subset hf)
    obtain ⟨hmem,hahead⟩ := mem_top.mp htop
    obtain ⟨row,hrow,rfl⟩ := List.mem_map.mp hmem
    exact ⟨row,hrow,hdoh,hahead,hcovered⟩
  · rintro ⟨row,hrow,hdoh,hahead,hclient,hdomain⟩
    have hmem : flowKey row ∈ (flowTop w data).filter fun k =>
        (classifyDohDomain env k.domain .flow).isSome :=
      List.mem_filter.mpr ⟨mem_top.mpr ⟨List.mem_map_of_mem hrow,hahead⟩,hdoh⟩
    obtain ⟨f,hf,hident⟩ : ∃ f ∈ dohFlows env w data, flowIdentity env f=
      flowIdentity env (flowKey row) := ident_firsts hmem List.not_mem_nil
    refine ⟨f,hf,(congrArg (fun i => i.1) hident).trans hclient,?_⟩
    exact (congrArg (fun i => i.2.2) hident).trans hdomain

lemma reaches_of_pieces {data : Retained} {p : Piece} (hp : p ∈ pieces env w data) :
    Reaches w data p := by
  cases p with
  | port k => exact (mem_top.mp (List.mem_of_mem_filter (mem_pieces_port.mp hp))).2
  | flow k =>
    have hk := firsts_sublist.subset (mem_pieces_flow.mp hp)
    exact (mem_top.mp (List.mem_of_mem_filter hk)).2
  | lookup k => exact (mem_top.mp (List.mem_of_mem_filter (mem_pieces_lookup.mp hp).1)).2

/-- A group that is evidence and that further rows leave within the limit stays evidence. -/
lemma pieces_of_reaches (h : Benign env further) {p : Piece} (hp : p ∈ pieces env w base)
    (hreach : Reaches w (base.add further) p) : p ∈ pieces env w (base.add further) := by
  have hkeys : ∀ {α κ : Type} {key : α → κ} {rows : List α} (more : List α) {k : κ},
      k ∈ rows.map key → k ∈ (rows++more).map key := fun more k hk => by
    rw [List.map_append]
    exact List.mem_append_left _ hk
  cases p with
  | port k =>
    obtain ⟨htop,hsign⟩ := List.mem_filter.mp (mem_pieces_port.mp hp)
    refine mem_pieces_port.mpr (List.mem_filter.mpr ⟨mem_top.mpr ⟨?_,hreach⟩,hsign⟩)
    rw [portRows_add]
    exact hkeys _ (mem_top.mp htop).1
  | flow k =>
    have hfirst := mem_pieces_flow.mp hp
    obtain ⟨htop,hsign⟩ := List.mem_filter.mp (firsts_sublist.subset hfirst)
    refine mem_pieces_flow.mpr (mem_firsts_of_initial (flowTop_initial h) (nodup_top.filter _) hfirst
      (List.mem_filter.mpr ⟨mem_top.mpr ⟨?_,hreach⟩,hsign⟩))
    rw [domainRows_add]
    exact hkeys _ (mem_top.mp htop).1
  | lookup k =>
    obtain ⟨hk,hfree⟩ := mem_pieces_lookup.mp hp
    obtain ⟨htop,hsign⟩ := List.mem_filter.mp hk
    refine mem_pieces_lookup.mpr ⟨List.mem_filter.mpr ⟨mem_top.mpr ⟨?_,hreach⟩,hsign⟩,
      fun f hf => hfree f ((dohFlows_initial h).subset hf)⟩
    rw [lookupRows_add]
    exact hkeys _ (mem_top.mp htop).1

/-- The only evidence that further rows can bring is a lookup. -/
lemma pieces_add_cases (h : Benign env further) {p : Piece}
    (hp : p ∈ pieces env w (base.add further)) :
    p ∈ pieces env w base ∨ ∃ k, p=.lookup k ∧ k ∈ dohLookups env w base := by
  cases p with
  | port k =>
    exact .inl (mem_pieces_port.mpr ((portPieces_initial h).subset (mem_pieces_port.mp hp)))
  | flow k => exact .inl (mem_pieces_flow.mpr ((dohFlows_initial h).subset (mem_pieces_flow.mp hp)))
  | lookup k => exact .inr ⟨k,rfl,(dohLookups_initial h).subset (mem_pieces_lookup.mp hp).1⟩

lemma answered_eq_of_unmoved (h : Benign env further) (hunmoved : Unmoved env w base further) :
    answered env w (base.add further)=answered env w base := by
  have hkept := fun p hp => pieces_of_reaches h (mem_answered hp) (hunmoved.reaches p hp)
  have hknown : ∀ p ∈ answered env w (base.add further), p ∈ pieces env w base := fun p hp => by
    rcases pieces_add_cases h (mem_answered hp) with hp | ⟨k,rfl,hk⟩
    · exact hp
    · refine mem_pieces_lookup.mpr ⟨hk,fun f hf hcovered => ?_⟩
      obtain ⟨hpiece,hrank⟩ := mem_answered_iff.mp hp
      obtain ⟨htop,hdoh⟩ := List.mem_filter.mp hk
      obtain ⟨row,hrow,rfl⟩ := List.mem_map.mp (mem_top.mp htop).1
      have hstood := hunmoved.standsFor row hrow hdoh (reaches_of_pieces hpiece) hrank
        (covered_iff.mp ⟨f,hf,hcovered⟩)
      obtain ⟨f',hf',hcovered'⟩ := covered_iff.mpr hstood
      exact (mem_pieces_lookup.mp hpiece).2 f' hf' hcovered'
  rw [answered_add h] at hknown ⊢
  exact (take_insertionSort_eq pieces_sublist (pieces_sublist.trans (signs_add_sublist h))
    nodup_signs hkept hknown).symm

/-- An answer holds fewer rows of a kind when further rows push a group of the kind out of it. -/
lemma countP_kind_lt (h : Benign env further) (htexts : TextsOrdered env base) {p : Piece}
    (hp : p ∈ answered env w base) (hlost : p ∉ pieces env w (base.add further))
    (hkind : p.kind=0 ∨ p.kind=1) :
    (answered env w (base.add further)).countP (fun q => q.kind=p.kind)<
      (answered env w base).countP (fun q => q.kind=p.kind) := by
  have hinitial : ((pieces env w (base.add further)).filter fun q => q.kind=p.kind) <+:
      (pieces env w base).filter fun q => q.kind=p.kind := by
    rcases hkind with hkind | hkind <;> rw [hkind]
    · rw [filter_port,filter_port]
      exact (portPieces_initial h).map _
    · rw [filter_flow,filter_flow]
      exact (dohFlows_initial h).map _
  have hsorted : ((pieces env w base).filter fun q => q.kind=p.kind).Pairwise
      (NotLater (pieceRow env w base)) := by
    rcases hkind with hkind | hkind <;> rw [hkind]
    · exact filter_port ▸ portPieces_sorted htexts
    · exact filter_flow ▸ dohFlows_sorted htexts
  rw [answered_add h]
  exact countP_take_lt hsorted hinitial hp (decide_eq_true rfl) hlost

/-- The rows of an answer by their identities, all read from the same tables. -/
def identities (env : BypassEnv) (w : EvidenceWindow) (base data : Retained) :
    List (String × String × String × String) :=
  (answered env w data).map fun p => (pieceRow env w base p).identity

lemma mem_signs (h : Benign env further) {data : Retained}
    (hdata : data=base ∨ data=base.add further) {p : Piece} (hp : p ∈ answered env w data) :
    p ∈ signs env w base := by
  rcases hdata with rfl | rfl
  · exact pieces_sublist.subset (mem_answered hp)
  · exact (signs_add_sublist h).subset (pieces_sublist.subset (mem_answered hp))

/-- The kinds of the rows of an answer are told by its identities. -/
lemma countP_identities (h : Benign env further) {data : Retained}
    (hdata : data=base ∨ data=base.add further) (j : ℕ) :
    (identities env w base data).countP (fun i => keyKind i.2.1=j)=
      (answered env w data).countP fun p => p.kind=j := by
  unfold identities
  rw [List.countP_map]
  refine List.countP_congr fun p hp => ?_
  simp only [Function.comp_apply,BypassRow.identity,keyKind_row (mem_signs h hdata hp)]

/-- So are the groups of its lookups. -/
lemma lookup_answered (h : Benign env further) {data data' : Retained}
    (hdata : data=base ∨ data=base.add further) (hdata' : data'=base ∨ data'=base.add further)
    (he : identities env w base data=identities env w base data') {k : LookupKey}
    (hk : .lookup k ∈ answered env w data) : .lookup k ∈ answered env w data' := by
  have hdoh : k ∈ dohLookups env w base := by simpa [signs] using mem_signs h hdata hk
  have hin : (pieceRow env w base (.lookup k)).identity ∈ identities env w base data' :=
    he ▸ List.mem_map_of_mem hk
  obtain ⟨p,hp,hident⟩ := List.mem_map.mp hin
  exact eq_lookup_of_identity (mem_signs h hdata' hp) hdoh hident ▸ hp

/-- Further traffic without a sign of a bypass leaves the evidence as it is exactly when no group
that the answer shows is pushed past the limit of its query and no lookup takes the place of a
flow that is. -/
lemma identities_eq_iff (h : Benign env further) (htexts : TextsOrdered env base) :
    identities env w base (base.add further)=identities env w base base ↔
      Unmoved env w base further := by
  constructor
  · intro he
    constructor
    · intro p hp
      have hkept : p ∈ pieces env w (base.add further) := by
        by_contra hlost
        have hcount := countP_kind_lt h htexts hp hlost
        rw [← countP_identities h (.inr rfl),← countP_identities h (.inl rfl),he] at hcount
        cases p with
        | port k => exact lt_irrefl _ (hcount (.inl rfl))
        | flow k => exact lt_irrefl _ (hcount (.inr rfl))
        | lookup k =>
          exact hlost (mem_answered (lookup_answered h (.inl rfl) (.inr rfl) he.symm hp))
      exact reaches_of_pieces hkept
    · intro row hrow hdoh hreach hrank hstood
      by_contra hfree
      have hkey : lookupKey row ∈ (lookupRows w (base.add further)).map lookupKey := by
        rw [lookupRows_add,List.map_append]
        exact List.mem_append_left _ (List.mem_map_of_mem hrow)
      have hpiece : .lookup (lookupKey row) ∈ pieces env w (base.add further) :=
        mem_pieces_lookup.mpr ⟨List.mem_filter.mpr ⟨mem_top.mpr ⟨hkey,hreach⟩,hdoh⟩,
          fun f hf hcovered => hfree (covered_iff.mp ⟨f,hf,hcovered⟩)⟩
      have hshown := mem_answered_iff.mpr ⟨hpiece,hrank⟩
      have hbase := mem_answered (lookup_answered h (.inr rfl) (.inl rfl) he hshown)
      obtain ⟨f,hf,hcovered⟩ := covered_iff.mpr hstood
      exact (mem_pieces_lookup.mp hbase).2 f hf hcovered
  · intro hunmoved
    unfold identities
    rw [answered_eq_of_unmoved h hunmoved]

/-- The window that `bypass_evidence` makes of its arguments. -/
def evidenceWindow (env : BypassEnv) (now : ℤ) (clientIps : List String) (hours limit : ℤ) :
    EvidenceWindow :=
  { valid := clientIps.filterMap env.ipAddress
    since := now-max 1 (min hours (24*7))*3600000000, limit := (max 1 (min limit 400)).toNat }

lemma answered_of_valid_nil {data : Retained} (hvalid : w.valid=[]) : answered env w data=[] := by
  have hport : portRows w data=[] := by simp [portRows,hvalid]
  have hdomain : domainRows w data=[] := by simp [domainRows,hvalid]
  have hlookup : lookupRows w data=[] := by simp [lookupRows,hvalid]
  have hpieces : pieces env w data=[] := by
    unfold pieces portPieces portTop dohFlows flowTop dohLookups lookupTop
    rw [hport,hdomain,hlookup,top_nil,top_nil,top_nil]
    rfl
  unfold answered
  rw [hpieces]
  exact List.take_nil

lemma identity_bypassEvidence (h : Benign env further) {data : Retained}
    (hdata : data=base ∨ data=base.add further) (now : ℤ) (clientIps : List String)
    (hours limit : ℤ) :
    (bypassEvidence env data now clientIps hours limit).map BypassRow.identity=
      identities env (evidenceWindow env now clientIps hours limit) base data := by
  have hrow : ∀ w, pieceRow env w data=pieceRow env w base := fun w => by
    rcases hdata with rfl | rfl
    · rfl
    · exact funext (pieceRow_add h)
  unfold bypassEvidence identities
  dsimp only
  split_ifs with hvalid
  · have hnone : answered env (evidenceWindow env now clientIps hours limit) data=[] :=
      answered_of_valid_nil hvalid
    rw [hnone]
    rfl
  · rw [← hrow]
    exact (congrArg (List.map BypassRow.identity)
      (answer_eq env (evidenceWindow env now clientIps hours limit) data)).trans List.map_map

/-- Traffic without a sign of a bypass leaves the evidence as it is exactly when it pushes no group
that shows past the limit of its query, nor a flow that stands for a lookup that would show. -/
theorem evidence_same_iff (env : BypassEnv) (base further : Retained) (now : ℤ)
    (clientIps : List String) (hours limit : ℤ) (h : Benign env further)
    (htexts : TextsOrdered env base) :
    (bypassEvidence env (base.add further) now clientIps hours limit).map BypassRow.identity=
        (bypassEvidence env base now clientIps hours limit).map BypassRow.identity ↔
      Unmoved env (evidenceWindow env now clientIps hours limit) base further := by
  rw [identity_bypassEvidence h (.inr rfl),identity_bypassEvidence h (.inl rfl)]
  exact identities_eq_iff h htexts

end Hiding

section Example

instance : LinearOrder PortKey :=
  LinearOrder.lift' (fun k => toLex (k.clientIp,toLex (k.remoteIp,toLex (k.dstPort,k.protocol))))
    fun a b h => by
      cases a
      cases b
      simpa using h

instance : LinearOrder FlowKey :=
  LinearOrder.lift' (fun k => toLex (k.clientIp,toLex (k.remoteIp,toLex (k.dstPort,
    toLex (k.protocol,k.domain))))) fun a b h => by
      cases a
      cases b
      simpa using h

instance : LinearOrder LookupKey :=
  LinearOrder.lift' (fun k => toLex (k.clientIp,k.domain)) fun a b h => by
    cases a
    cases b
    simpa using h

/-- A process in which texts are ASCII, with the texts of two times. -/
def eveningEnv : BypassEnv :=
  { lower := nocase, lower_ascii := nocase_ascii, casefold := nocase, containerText := fun _ => "",
    upper := upper, ipAddress := some, formatBytes := fun n => toString n ++ " B",
    isoformat := fun t => if t=1700000060000000 then "2023-11-14T22:14:20+00:00"
      else "2023-11-14T22:13:20+00:00" }

/-- An outgoing flow of the tablet. -/
def tabletFlow (time : ℤ) (remote protocol : String) (port : ℤ) : FlowRow :=
  { recordRow port with
    eventTime := time, clientIp := "192.168.1.20", remoteIp := remote, direction := .upload,
    protocol := protocol }

/-- The tablet asks a resolver on the Internet. -/
def askedOutside : Retained :=
  { flows := [tabletFlow 1700000000000000 "8.8.8.8" "UDP" 53] }

/-- A minute later it opens connections to some hosts on a port that no signal has with TCP. -/
def opened (n : ℕ) : Retained :=
  { flows := (List.range n).map fun i =>
      tabletFlow 1700000060000000 ("2001:db8::" ++ toString i) "TCP" 500 }

lemma benign_opened (n : ℕ) : Benign eveningEnv (opened n) := by
  constructor
  · intro row hrow
    obtain ⟨i,-,rfl⟩ := List.mem_map.mp hrow
    exact show classifyPortSignal eveningEnv "TCP" 500=none by decide
  · intro row hrow
    obtain ⟨i,-,rfl⟩ := List.mem_map.mp hrow
    exact show classifyDohDomain eveningEnv "" .flow=none by decide
  · intro row hrow
    cases hrow

lemma textsOrdered_askedOutside : TextsOrdered eveningEnv askedOutside := by
  intro row hrow row' hrow' _
  rw [List.mem_singleton.mp hrow,List.mem_singleton.mp hrow']

example : (bypassEvidence eveningEnv askedOutside 1700000100000000 ["192.168.1.20"] 24 120).map
    BypassRow.identity=[("192.168.1.20","external_dns","8.8.8.8","")] := by decide

/-- The call that reads the evidence for the overview. -/
def overviewCall : EvidenceWindow :=
  evidenceWindow eveningEnv 1700000100000000 ["192.168.1.20"] 24 120

def askedKey : PortKey := portKey (tabletFlow 1700000000000000 "8.8.8.8" "UDP" 53)

lemma answered_askedOutside : answered eveningEnv overviewCall askedOutside=[.port askedKey] := rfl

/-- The connections stand in front of the flow to the resolver. -/
lemma ahead_opened (n : ℕ) :
    n ≤ ahead portKey FlowRow.eventTime (portRows overviewCall (askedOutside.add (opened n)))
      askedKey := by
  have hopened : portRows overviewCall (opened n)=(opened n).flows := by
    refine List.filter_eq_self.mpr fun row hrow => ?_
    obtain ⟨i,-,rfl⟩ := List.mem_map.mp hrow
    exact show decide (overviewCall.since ≤ 1700000060000000 ∧ Direction.upload=Direction.upload ∧
      "192.168.1.20" ∈ overviewCall.valid ∧ (500 : ℤ) ∈ bypassPorts)=true by decide
  have hasked : latest portKey FlowRow.eventTime
      (portRows overviewCall (askedOutside.add (opened n))) askedKey=1700000000000000 := by
    have hsign : (classifyPortSignal eveningEnv "UDP" 53).isSome=true := by decide
    rw [portRows_add]
    exact (latest_selected
      (p := fun k : PortKey => (classifyPortSignal eveningEnv k.protocol k.dstPort).isSome)
      (benign_opened n).portRows (k := askedKey) hsign).trans (by decide)
  have hnodup : (((opened n).flows).map portKey).Nodup := by
    unfold opened
    rw [List.map_map]
    refine List.nodup_range.map fun i j hij => ?_
    have hremote : "2001:db8::" ++ toString i="2001:db8::" ++ toString j :=
      congrArg PortKey.remoteIp hij
    have hdigits : Nat.toDigits 10 i=Nat.toDigits 10 j := by
      have hlist := congrArg String.toList hremote
      simpa using hlist
    rw [← Nat.ofDigitChars_ten_toDigits (n := i),hdigits,Nat.ofDigitChars_ten_toDigits]
  have hlength : (((opened n).flows).map portKey).length=n := by simp [opened]
  refine hlength.symm.le.trans (le_ahead hnodup fun k hk => ?_)
  obtain ⟨row,hrow,rfl⟩ := List.mem_map.mp hk
  have hin : row ∈ portRows overviewCall (askedOutside.add (opened n)) := by
    rw [portRows_add,hopened]
    exact List.mem_append_right _ hrow
  obtain ⟨i,-,rfl⟩ := List.mem_map.mp hrow
  refine ⟨List.mem_map_of_mem hin,?_⟩
  rw [hasked]
  have hlater : (1700000000000000 : ℤ)<1700000060000000 := by decide
  exact hlater.trans_le (le_latest hin rfl)

/-- The evidence and what is asked of it for five connections. -/
theorem evidence_same_iff_opened :
    (bypassEvidence eveningEnv (askedOutside.add (opened 5)) 1700000100000000 ["192.168.1.20"] 24
        120).map BypassRow.identity=
      (bypassEvidence eveningEnv askedOutside 1700000100000000 ["192.168.1.20"] 24 120).map
        BypassRow.identity ↔
      Unmoved eveningEnv overviewCall askedOutside (opened 5) :=
  evidence_same_iff eveningEnv askedOutside (opened 5) 1700000100000000 ["192.168.1.20"] 24 120
    (benign_opened 5) textsOrdered_askedOutside

/-- A hundred and twenty connections hide the flow to the resolver. -/
theorem connections_hide_resolver :
    ¬∀ (env : BypassEnv) (base further : Retained) (now : ℤ) (clientIps : List String)
      (hours limit : ℤ), Benign env further → TextsOrdered env base →
      (bypassEvidence env (base.add further) now clientIps hours limit).map BypassRow.identity=
        (bypassEvidence env base now clientIps hours limit).map BypassRow.identity := by
  intro h
  have hsame := h eveningEnv askedOutside (opened 120) 1700000100000000 ["192.168.1.20"] 24 120
    (benign_opened 120) textsOrdered_askedOutside
  rw [identity_bypassEvidence (benign_opened 120) (.inr rfl),
    identity_bypassEvidence (benign_opened 120) (.inl rfl),
    identities_eq_iff (benign_opened 120) textsOrdered_askedOutside] at hsame
  have hreaches := hsame.reaches (.port askedKey)
    (answered_askedOutside ▸ List.mem_singleton_self _)
  exact absurd hreaches (ahead_opened 120).not_gt

end Example
end ZenControl.Telemetry
