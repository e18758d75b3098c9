import ZenControl.Casing
import ZenControl.Lines
import ZenControl.Router.Addresses
import ZenControl.Library.Selections

/-! The incidents and audit events that Device 360 shows for a device. -/
namespace ZenControl.Device360
open Occurrences Selections
open Router (Ipv4)

/-- An incident or an audit event by its keys. -/
abbrev Record := List (String × PyVal)

/-- A managed device by its address and its display name. -/
structure ManagedDevice where
  address : Ipv4
  name : String

section Selecting
variable (py : PyRuntime)

/-- The keys whose values `record_mentions_device` reads. -/
def inspectedKeys : List String :=
  ["subject","title","detail","fingerprint","source","event","actor","user","resolution"]

/-- `str(record.get(key) or "")` of the inspected keys. -/
def fieldTexts (record : Record) : List String :=
  inspectedKeys.map fun key => ((record.lookup key).getD .none).textOr py

/-- The display name as it is looked for. -/
def displayOf (name : String) : String := py.lower (strip name)

/-- `_identity_tokens`. -/
def identityTokens (address name : String) : List String :=
  let tokens := [py.lower (strip address)]
  let display := displayOf py name
  let tokens := if 3 ≤ display.length ∧ display ∉ tokens then tokens ++ [display] else tokens
  tokens.filter (· ≠ "")

/-- `record_mentions_device`. -/
def recordMentionsDevice (record : Record) (address name : String) : Bool :=
  let haystack := py.lower (" ".intercalate (fieldTexts py record))
  (identityTokens py address name).any fun token => occursIn token haystack

/-- The limit that `filter_related_records` applies. -/
def selectionLimit (limit : PyVal) : Py ℕ :=
  match limit.toInt with
  | .ok n => .ok (max 1 (min n 50)).toNat
  | .error .typeError => .ok 10
  | .error (.valueError _) => .ok 10
  | .error e => .error e

/-- `float("inf")` or `float("-inf")`. -/
def isInfinite : PyVal → Bool
  | .float f => f.finite.isNone && !f.nan
  | _ => false

/-- `filter_related_records`. -/
def filterRelatedRecords (records : List Record) (address name : String)
    (limit : PyVal := .int 10) : Py (List Record) :=
  (selectionLimit limit).map fun n =>
    firsts (fun row => recordMentionsDevice py row address name) n records

end Selecting

section Snapshot
variable (py : PyRuntime) (device : ManagedDevice)

/-- `value == text`. -/
def isText (text : String) : PyVal → Bool
  | .str s => s=text
  | _ => false

/-- `record.get(key) == text`. -/
def Record.has (record : Record) (key text : String) : Bool :=
  isText text ((record.lookup key).getD .none)

structure IncidentCounts where
  active : ℕ
  critical : ℕ
  warning : ℕ
  deriving DecidableEq, Repr

/-- The `incident_counts` of `build_device_360_snapshot`. -/
def incidentCounts (incidents : List Record) : IncidentCounts :=
  let activeIncidents := incidents.filter fun row => !Record.has row "status" "resolved"
  { active := activeIncidents.length
    critical := activeIncidents.countP fun row => Record.has row "severity" "critical"
    warning := activeIncidents.countP fun row => Record.has row "severity" "warning" }

/-- What `get_device_360` takes from the rows that the store returns, and nothing where it
raises. -/
def relatedRecords (rows : Except String (List Record)) (limit : ℤ) : List Record :=
  match rows with
  | .error _ => []
  | .ok rows =>
    (filterRelatedRecords py rows device.address.text device.name (.int limit)).toOption.getD []

/-- What a snapshot says about incidents and audit events. -/
structure RelatedSnapshot where
  incidents : List Record
  incidentCounts : IncidentCounts
  audit : List Record

/-- The part of `get_device_360` that shows incidents and audit events. -/
def relatedSnapshot (incidents auditEvents : Except String (List Record)) : RelatedSnapshot :=
  let incidents := relatedRecords py device incidents 8
  { incidents
    incidentCounts := incidentCounts incidents
    audit := relatedRecords py device auditEvents 10 }

end Snapshot

section Mentioning

/-- What stands next to an address goes on with it: a digit, or a full stop and a digit. -/
def goesOn : List Char → Bool
  | [] => false
  | c::cs => c.isDigit || c= '.' && cs.head?.any Char.isDigit

/-- An address between two texts is no part of a longer one. -/
def Complete (before after : List Char) : Prop :=
  goesOn before.reverse=false ∧ goesOn after=false

instance (before after : List Char) : Decidable (Complete before after) :=
  inferInstanceAs (Decidable (_ ∧ _))

/-- A name between two texts is no part of a longer word. -/
def Separate (t : CharTables) (before after : List Char) : Prop :=
  before.getLast?.any t.word=false ∧ after.head?.any t.word=false

instance (t : CharTables) (before after : List Char) : Decidable (Separate t before after) :=
  inferInstanceAs (Decidable (_ ∧ _))

variable (py : TextRuntime) (record : Record) (device : ManagedDevice)

/-- An inspected field has a text in it, with text of a kind before and after it. -/
def FieldHas (part : List Char) (texts : List (List Char))
    (P : List Char → List Char → Prop) : Prop :=
  ∃ text ∈ texts, OccursWhere part text P

instance (part : List Char) (texts : List (List Char)) (P : List Char → List Char → Prop)
    [∀ before after, Decidable (P before after)] : Decidable (FieldHas part texts P) :=
  inferInstanceAs (Decidable (∃ text ∈ texts, OccursWhere part text P))

/-- The texts of the inspected fields. -/
def fields : List (List Char) := (fieldTexts py.toPyRuntime record).map String.toList

/-- The texts of the inspected fields in lower case, in which names are looked for. -/
def lowerFields : List (List Char) := (fields py record).map py.tables.lowerChars

/-- A record mentions an address as a complete one. -/
def MentionsAddress (address : Ipv4) : Prop :=
  FieldHas address.text.toList (fields py record) Complete

/-- The display name of a device in lower case. -/
def ManagedDevice.display : List Char := (displayOf py.toPyRuntime device.name).toList

/-- A record mentions the display name of a device as a word of its own, in either case. -/
def MentionsName : Prop :=
  device.display py≠[] ∧ FieldHas (device.display py) (lowerFields py record) (Separate py.tables)

instance (address : Ipv4) : Decidable (MentionsAddress py record address) :=
  inferInstanceAs (Decidable (FieldHas _ _ Complete))

instance : Decidable (MentionsName py record device) :=
  inferInstanceAs (Decidable (_ ∧ FieldHas _ _ (Separate py.tables)))

/-- A record mentions only other complete addresses, and not the name. -/
def Unrelated : Prop :=
  (∀ address, MentionsAddress py record address → address≠device.address) ∧
    ¬MentionsName py record device

/-- A record has the address of the device as a part of a longer one, or its name, of at least
three characters, as a part of a longer word or over the border between two fields. -/
def Resembles : Prop :=
  FieldHas device.address.text.toList (fields py record) (fun b a => ¬Complete b a) ∨
    3 ≤ (device.display py).length ∧
      (FieldHas (device.display py) (lowerFields py record) (fun b a => ¬Separate py.tables b a) ∨
        Crosses ' ' (device.display py) (lowerFields py record))

/-- Whether `record_mentions_device` holds of a record and a device. -/
def related : Bool :=
  recordMentionsDevice py.toPyRuntime record device.address.text device.name

/-- `filter_related_records` attributes records to a device: it returns and, up to the limit, in
order, what it selects has every record that mentions the address of the device and none that is
unrelated to it. -/
def Attributes (records : List Record) (limit : PyVal) : Prop :=
  ∃ n selected, selectionLimit limit=.ok n ∧
    filterRelatedRecords py.toPyRuntime records device.address.text device.name limit=
      .ok selected ∧
    Selects (fun record => MentionsAddress py record device.address)
      (fun record => Unrelated py record device) n records selected

end Mentioning

section Addresses
variable (address : Ipv4)

lemma address_chars : ∀ c ∈ address.text.toList, 46 ≤ c.toNat ∧ c.toNat ≤ 57 := by
  intro c hc
  rcases address.mem_text hc with rfl | hdigit
  · decide
  · simp only [Char.isDigit,Bool.and_eq_true,decide_eq_true_eq,ge_iff_le,
      UInt32.le_iff_toNat_le] at hdigit
    change 48 ≤ c.toNat ∧ c.toNat ≤ 57 at hdigit
    omega

lemma space_not_mem_address : ' ' ∉ address.text.toList := by
  intro hspace
  have hchars := address_chars address ' ' hspace
  revert hchars
  decide

lemma strip_address : strip address.text=address.text := by
  have hspace : ∀ c ∈ address.text.toList, isSpace c=false := by
    intro c hc
    have hchars := address_chars address c hc
    simp only [isSpace,Bool.or_eq_false_iff,Bool.and_eq_false_iff,decide_eq_false_iff_not]
    omega
  apply strip_eq_self
  · intro c hc
    exact hspace c (List.mem_of_mem_head? hc)
  · intro c hc
    exact hspace c (List.mem_of_mem_getLast? hc)

/-- The address occurs in a text exactly where it occurs in its lower case. -/
lemma address_occurs_lower (t : CharTables) (text : List Char) :
    address.text.toList <:+: t.lowerChars text ↔ address.text.toList <:+: text := by
  apply infix_respell t.lowerAt_keeps
  · intro c hc
    have hchars := address_chars address c hc
    omega
  · exact address.text_ne_nil

lemma lower_address (t : CharTables) : t.lower address.text=address.text := by
  apply String.toList_injective
  rw [CharTables.toList_lower]
  apply respell_kept t.lowerAt_keeps
  intro c hc
  have hchars := address_chars address c hc
  omega

end Addresses

section Attribution
variable {py : TextRuntime} {record : Record} {device : ManagedDevice}

lemma lower_eq (text : String) : py.lower text=py.tables.lower text :=
  congrFun py.lower_tables text

lemma toList_haystack :
    (py.lower (" ".intercalate (fieldTexts py.toPyRuntime record))).toList=
      py.tables.lowerChars (joined ' ' (fields py record)) := by
  rw [lower_eq,CharTables.toList_lower,String.toList_intercalate]
  rfl

/-- The address occurs in the lower case of the joined fields exactly where it occurs in one. -/
lemma address_occurs :
    device.address.text.toList <:+: py.tables.lowerChars (joined ' ' (fields py record)) ↔
      ∃ text ∈ fields py record, device.address.text.toList <:+: text := by
  rw [address_occurs_lower,infix_joined device.address.text_ne_nil]
  constructor
  · rintro (h | hcross)
    · exact h
    · exact absurd hcross.sep_mem (space_not_mem_address _)
  · exact Or.inl

/-- A name occurs in the lower case of the joined fields in one of them or over a border. -/
lemma display_occurs {display : List Char} (h : display≠[]) :
    display <:+: py.tables.lowerChars (joined ' ' (fields py record)) ↔
      (∃ text ∈ lowerFields py record, display <:+: text) ∨
        Crosses ' ' display (lowerFields py record) := by
  rw [CharTables.lowerChars_joined,infix_joined h]
  rfl

lemma mem_identityTokens {py : PyRuntime} {address name token : String} :
    token ∈ identityTokens py address name ↔ token≠"" ∧
      (token=py.lower (strip address) ∨
        3 ≤ (displayOf py name).length ∧ token=displayOf py name) := by
  unfold identityTokens
  simp only [List.mem_filter,decide_eq_true_eq]
  rw [and_comm]
  apply and_congr_right
  intro _
  split_ifs with h
  · rw [List.mem_append,List.mem_singleton,List.mem_singleton,and_iff_right h.1]
  · rw [List.mem_singleton]
    constructor
    · exact Or.inl
    · rintro (htoken | ⟨hlong,rfl⟩)
      · exact htoken
      · by_contra hne
        exact h ⟨hlong,by simpa using hne⟩

/-- What `record_mentions_device` searches for. -/
lemma related_iff_occurs :
    related py record device=true ↔
      (∃ text ∈ fields py record, device.address.text.toList <:+: text) ∨
        3 ≤ (device.display py).length ∧
          ((∃ text ∈ lowerFields py record, device.display py <:+: text) ∨
            Crosses ' ' (device.display py) (lowerFields py record)) := by
  have haddress : py.lower (strip device.address.text)=device.address.text := by
    rw [strip_address,lower_eq,lower_address]
  have hlength : (displayOf py.toPyRuntime device.name).length=(device.display py).length :=
    String.length_toList.symm
  have hnil (h : 3 ≤ (device.display py).length) : device.display py≠[] := by
    intro hnil
    rw [hnil] at h
    cases h
  simp only [related,recordMentionsDevice,List.any_eq_true,mem_identityTokens,haddress,hlength,
    occursIn_iff,toList_haystack]
  constructor
  · rintro ⟨token,⟨_,rfl | ⟨hlong,rfl⟩⟩,hoccurs⟩
    · exact .inl (address_occurs.mp hoccurs)
    · exact .inr ⟨hlong,(display_occurs (hnil hlong)).mp hoccurs⟩
  · rintro (h | ⟨hlong,h⟩)
    · refine ⟨device.address.text,⟨?_,.inl rfl⟩,address_occurs.mpr h⟩
      intro hempty
      exact device.address.text_ne_nil (by rw [hempty]; rfl)
    · refine ⟨displayOf py.toPyRuntime device.name,⟨?_,.inr ⟨hlong,rfl⟩⟩,
        (display_occurs (hnil hlong)).mpr h⟩
      intro hempty
      exact hnil hlong (by rw [ManagedDevice.display,hempty]; rfl)

lemma fieldHas_cases (part : List Char) (texts : List (List Char))
    (P : List Char → List Char → Prop) :
    (∃ text ∈ texts, part <:+: text) ↔
      FieldHas part texts P ∨ FieldHas part texts fun before after => ¬P before after := by
  constructor
  · rintro ⟨text,htext,hoccurs⟩
    rcases occursWhere_or_not P hoccurs with h | h
    · exact .inl ⟨text,htext,h⟩
    · exact .inr ⟨text,htext,h⟩
  · rintro (⟨text,htext,h⟩ | ⟨text,htext,h⟩)
    · exact ⟨text,htext,h.occurs⟩
    · exact ⟨text,htext,h.occurs⟩

/-- A record is taken for one of a device if it mentions it, or if it resembles one that does. -/
lemma related_iff :
    related py record device=true ↔
      MentionsAddress py record device.address ∨
        (3 ≤ (device.display py).length ∧ MentionsName py record device) ∨
          Resembles py record device := by
  rw [related_iff_occurs,fieldHas_cases _ _ Complete,fieldHas_cases _ _ (Separate py.tables)]
  unfold MentionsAddress MentionsName Resembles
  have hnil : 3 ≤ (device.display py).length → device.display py≠[] := by
    intro h hnil
    rw [hnil] at h
    cases h
  tauto

lemma related_of_address (h : MentionsAddress py record device.address) :
    related py record device=true := related_iff.mpr (.inl h)

lemma not_unrelated_iff :
    ¬Unrelated py record device ↔
      MentionsAddress py record device.address ∨ MentionsName py record device := by
  have haddress : (∀ address, MentionsAddress py record address → address≠device.address) ↔
      ¬MentionsAddress py record device.address := by
    constructor
    · intro h hmentions
      exact h device.address hmentions rfl
    · rintro h address hmentions rfl
      exact h hmentions
  rw [Unrelated,haddress,← not_or,not_not]

lemma mentions_of_related (h : related py record device=true)
    (hresembles : Resembles py record device →
      MentionsAddress py record device.address ∨ MentionsName py record device) :
    MentionsAddress py record device.address ∨ MentionsName py record device := by
  rcases related_iff.mp h with haddress | ⟨_,hname⟩ | h
  · exact .inl haddress
  · exact .inr hname
  · exact hresembles h

/-- Every limit can be read but an infinite float. -/
lemma selectionLimit_ok_iff (limit : PyVal) :
    (∃ n, selectionLimit limit=.ok n) ↔ isInfinite limit=false := by
  have read {n : ℕ} (h : selectionLimit limit=.ok n) : ∃ n, selectionLimit limit=.ok n := ⟨n,h⟩
  cases limit with
  | none => exact iff_of_true (read rfl) rfl
  | bool b => exact iff_of_true (read rfl) rfl
  | int n => exact iff_of_true (read rfl) rfl
  | list items => exact iff_of_true (read rfl) rfl
  | dict entries => exact iff_of_true (read rfl) rfl
  | str s =>
    refine iff_of_true ?_ rfl
    unfold selectionLimit PyVal.toInt
    dsimp only
    cases pyInt s with
    | none => exact ⟨10,rfl⟩
    | some n => exact ⟨_,rfl⟩
  | float f =>
    unfold selectionLimit PyVal.toInt isInfinite
    dsimp only
    cases f.finite with
    | none => cases f.nan <;> simp
    | some value => simp

/-- The selection is right exactly where it reaches no record that only resembles one of the
device. -/
lemma attributes_iff_reached (records : List Record) (limit : PyVal) :
    Attributes py device records limit ↔ ∃ n, selectionLimit limit=.ok n ∧
      ∀ record, Reached (fun r => related py r device) n records record →
        related py record device=true → ¬Unrelated py record device := by
  constructor
  · rintro ⟨n,selected,hlimit,hselected,hselects⟩
    rw [filterRelatedRecords,hlimit] at hselected
    obtain rfl := Except.ok.inj hselected
    exact ⟨n,hlimit,(selects_firsts_iff fun r => related_of_address).mp hselects⟩
  · rintro ⟨n,hlimit,h⟩
    refine ⟨n,_,hlimit,?_,(selects_firsts_iff fun r => related_of_address).mpr h⟩
    rw [filterRelatedRecords,hlimit]
    rfl

/-- `filter_related_records` attributes records rightly exactly where the limit is no infinite
float and every record it reaches that has the address within a longer one, or the name within a
longer word or over two fields, also mentions the device. -/
theorem attributes_iff (py : TextRuntime) (device : ManagedDevice) (records : List Record)
    (limit : PyVal) :
    Attributes py device records limit ↔ isInfinite limit=false ∧
      ∀ n record, selectionLimit limit=.ok n →
        Reached (fun r => related py r device) n records record → Resembles py record device →
          MentionsAddress py record device.address ∨ MentionsName py record device := by
  rw [attributes_iff_reached,← selectionLimit_ok_iff]
  constructor
  · rintro ⟨n,hlimit,h⟩
    refine ⟨⟨n,hlimit⟩,fun m record hm hreached hresembles => ?_⟩
    obtain rfl : n=m := Except.ok.inj (hlimit.symm.trans hm)
    exact not_unrelated_iff.mp (h record hreached (related_iff.mpr (.inr (.inr hresembles))))
  · rintro ⟨⟨n,hlimit⟩,h⟩
    refine ⟨n,hlimit,fun record hreached hrelated => not_unrelated_iff.mpr ?_⟩
    exact mentions_of_related hrelated (h n record hlimit hreached)

/-- A snapshot of rows without records that only resemble one of the device shows and counts
incidents that mention it, and none else. -/
theorem relatedSnapshot_mentions {incidents auditEvents : List Record}
    (hincidents : ∀ record ∈ incidents, Resembles py record device →
      ¬Unrelated py record device)
    (haudit : ∀ record ∈ auditEvents, Resembles py record device →
      ¬Unrelated py record device) :
    let snapshot := relatedSnapshot py.toPyRuntime device (.ok incidents) (.ok auditEvents)
    (∀ record ∈ snapshot.incidents, record ∈ incidents ∧ ¬Unrelated py record device) ∧
      (∀ record ∈ snapshot.audit, record ∈ auditEvents ∧ ¬Unrelated py record device) ∧
      snapshot.incidentCounts.active ≤ 8 := by
  have own {rows : List Record} {limit : ℤ}
      (hrows : ∀ record ∈ rows, Resembles py record device → ¬Unrelated py record device) :
      ∀ record ∈ relatedRecords py.toPyRuntime device (.ok rows) limit,
        record ∈ rows ∧ ¬Unrelated py record device := by
    intro record hrecord
    obtain ⟨hrelated,hreached⟩ := mem_firsts.mp
      (show record ∈ firsts (fun r => related py r device) (max 1 (min limit 50)).toNat rows
        from hrecord)
    obtain ⟨before,after,hsplit,_⟩ := hreached
    have hmem : record ∈ rows := by simp [hsplit]
    refine ⟨hmem,not_unrelated_iff.mpr ?_⟩
    exact mentions_of_related hrelated fun h => not_unrelated_iff.mp (hrows record hmem h)
  refine ⟨own hincidents,own haudit,?_⟩
  calc (relatedSnapshot py.toPyRuntime device (.ok incidents) (.ok auditEvents)).incidentCounts.active
      ≤ (relatedRecords py.toPyRuntime device (.ok incidents) 8).length :=
        List.length_filter_le _ _
    _ ≤ 8 := length_firsts_le

end Attribution

section Prefixes

/-- Tables that know the letters of ASCII. -/
def asciiTables : CharTables where
  lowerChar c := [c.toLower]
  cased := Char.isAlpha
  ignorable _ := false
  word c := c.isAlphanum || c= '_'
  lowerChar_ascii _ _ := rfl
  lowerChar_ne_nil _ := List.cons_ne_nil _ _
  lowerChar_other := by
    intro c hc d hd
    rw [List.mem_singleton.mp hd,toNat_toLower]
    split_ifs <;> omega
  cased_space := by decide
  ignorable_space := rfl
  word_ascii _ _ := rfl

def asciiRuntime : TextRuntime where
  lower := asciiTables.lower
  lower_ascii := asciiTables.lower_ascii
  casefold := nocase
  containerText _ := ""
  tables := asciiTables
  lower_tables := rfl

def shortAddress : Ipv4 := ⟨"192.0.2.1",by decide⟩

def kitchenTablet : ManagedDevice := ⟨shortAddress,"Kitchen"⟩

/-- An audit event of the device 192.0.2.10. -/
def driftRecord : Record :=
  [("event",.str "POLICY_DRIFT"),("detail",.str "policy drift ip=192.0.2.10")]

/-- It is shown for the device 192.0.2.1. -/
theorem longer_address_attributed :
    ¬∀ py device records limit, Attributes py device records limit := by
  intro h
  obtain ⟨n,hlimit,hsound⟩ :=
    (attributes_iff_reached [driftRecord] (.int 10)).mp (h asciiRuntime kitchenTablet _ _)
  have hreached : Reached (fun r => related asciiRuntime r kitchenTablet) n [driftRecord]
      driftRecord := by
    obtain rfl := Except.ok.inj hlimit
    exact ⟨[],[],rfl,by decide⟩
  have hrelated : related asciiRuntime driftRecord kitchenTablet=true := by decide
  apply hsound driftRecord hreached hrelated
  by_contra hmentions
  revert hmentions
  rw [not_unrelated_iff]
  decide

end Prefixes
end ZenControl.Device360
