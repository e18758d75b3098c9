import ZenControl.Policy.Resolver
import ZenControl.Store.Access

/-! The checks that the writers of the store make on their arguments. -/
namespace ZenControl

/-- `if condition: raise ValueError(message)`. -/
def refuse (condition : Prop) [Decidable condition] (message : String) : Py Unit :=
  if condition then .error (.valueError message) else .ok ()

lemma refuse_ok {condition : Prop} [Decidable condition] {message : String} {u : Unit}
    (h : refuse condition message=.ok u) : ¬condition := by
  unfold refuse at h
  split_ifs at h with hc
  exact hc

/-- The largest integers of SQLite are those of 64 bits. -/
def sqlInt (n : ℤ) : Py ℤ :=
  if n < -9223372036854775808 ∨ 9223372036854775807 < n then .error .overflowError else .ok n

lemma sqlInt_ok {n m : ℤ} (h : sqlInt n=.ok m) : m=n := by
  unfold sqlInt at h
  split_ifs at h
  exact (Except.ok.inj h).symm

/-- What a text column makes of a bound value. -/
def bindText (env : Env) : PyVal → Py (Option String)
  | .none => .ok none
  | .bool b => .ok (some (if b then "1" else "0"))
  | .int n => (sqlInt n).map fun n => some (toString n)
  | .float f => .ok (if f.nan then none else some (env.realText f))
  | .str s => .ok (some s)
  | _ => .error .typeError

section Enumerations

def Mode.ofText : String → Option Mode
  | "normal" => some .normal
  | "slow" => some .slow
  | "blocked" => some .blocked
  | _ => none

@[simp] lemma Mode.ofText_text (m : Mode) : Mode.ofText m.text=some m := by cases m <;> rfl

/-- Membership of a value in a set of texts, as the writers check it. -/
def oneOf {α : Type} (parse : String → Option α) (message : String) (value : PyVal) : Py α :=
  match value with
  | .str s => match parse s with
    | some a => .ok a
    | none => .error (.valueError message)
  | .list _ => .error .typeError
  | .dict _ => .error .typeError
  | _ => .error (.valueError message)

/-- `_validate_mode`. -/
def validateMode : PyVal → Py Mode := oneOf Mode.ofText "Invalid desired mode"

def ModeOverride.ofText (s : String) : Option ModeOverride :=
  if s="inherit" then some .inherit else (Mode.ofText s).map .mode

def ModeOverride.text : ModeOverride → String
  | inherit => "inherit"
  | mode m => m.text

@[simp] lemma ModeOverride.ofText_text (o : ModeOverride) : ofText o.text=some o := by
  cases o with
  | inherit => rfl
  | mode m => cases m <;> rfl

/-- `_validate_mode` with `allow_inherit`. -/
def validateModeOverride : PyVal → Py ModeOverride :=
  oneOf ModeOverride.ofText "Invalid desired mode"

/-- The keys of `DEVICE_CATEGORIES`. -/
def deviceCategories : List String := ["phone","tablet","laptop","tv","console","iot","other"]

/-- The category that a device is stored with. -/
def deviceCategory (category : PyVal) : Py String := do
  if ← category.inTexts deviceCategories then category.asText else pure "other"

def QuotaAction.text : QuotaAction → String
  | slow => "slow"
  | blocked => "blocked"

end Enumerations

section Keys
variable (rt : Runtime) (t : Tables)

/-- The keys that a policy may name: services and policy groups. -/
def policyKeys : List String := (listServices t).map Service.key ++ policyGroupKeys rt t

/-- `_validate_services`. -/
def validateServices (values : PyVal) : Py (List String) :=
  values.iterate.map fun vs =>
    sortedSet ((vs.map fun v => rt.lower (strip (v.text rt.toPyRuntime))).filter fun v =>
      v ∈ policyKeys rt t)

/-- `_validate_preset`. -/
def validatePreset (value : PyVal) : Py String :=
  match value with
  | .str s =>
    if t.bandwidthPresets.any fun p => p.key=s then .ok s
    else .error (.valueError "Invalid bandwidth preset")
  | _ => .error (.valueError "Invalid bandwidth preset")

/-- `normalize_quota_mb`. -/
def normalizeQuotaMb (field : String) (value : PyVal) : Py ℤ :=
  if value.blank then .ok 0
  else match value.toInt with
    | .ok n =>
      if n < 0 ∨ 1048576 < n then
        .error (.valueError s!"{field} must be between 0 and 1048576 MiB")
      else .ok n
    | .error .typeError => .error (.valueError s!"{field} must be a whole number of MiB")
    | .error (.valueError _) => .error (.valueError s!"{field} must be a whole number of MiB")
    | .error e => .error e

/-- `normalize_quota_action`. -/
def normalizeQuotaAction (value : PyVal) : Py QuotaAction :=
  match rt.lower (strip (value.textOr rt.toPyRuntime "blocked")) with
  | "slow" => .ok .slow
  | "blocked" => .ok .blocked
  | _ => .error (.valueError "Daily quota action must be slow or blocked")

/-- `POLICY_GROUPS` by key. -/
def builtinGroups : GroupCatalog := policyGroups.map fun g => (g.key,g)

/-- `quota_key_name`. -/
def quotaKeyName (key : String) : String :=
  match serviceEnforcement.lookup key with
  | some name => name
  | none =>
    if key ∈ builtinGroups.map Prod.fst then
      (((normalizedGroupCatalog rt builtinGroups).lookup (rt.lower (strip key))).map
        PolicyGroup.name).getD key
    else key

/-- The loop of `normalize_service_quotas`. -/
def serviceQuotaLimits (allowed : List String) :
    List (String × PyVal) → List (String × ℤ) → Py (List (String × ℤ))
  | [], result => .ok result
  | (key,raw)::rest, result =>
    let key := rt.lower (strip key)
    if key ∉ allowed then
      if raw.blank then serviceQuotaLimits allowed rest result
      else .error (.valueError
        s!"Service/group quota '{key}' is not backed by a live policy contract")
    else do
      let name := quotaKeyName rt key
      let amount ← normalizeQuotaMb s!"{name} quota" raw
      serviceQuotaLimits allowed rest (if amount=0 then result else dictSet result key amount)

/-- `normalize_service_quotas`, with the keys that every caller passes. -/
def normalizeServiceQuotas (values : PyVal) : Py (List (String × ℤ)) := do
  let allowed := routerosSupportedServiceKeys rt t ++ policyGroupKeys rt t ++
    builtinGroups.map Prod.fst
  let entries ← (values.or (.dict [])).items
  let result ← serviceQuotaLimits rt allowed entries []
  pure (result.insertionSort fun a b => ¬ b.1 < a.1)

end Keys

section Ids
variable (t : Tables)

/-- `get_profile` with an id that the caller gave. -/
def requestedProfile (id : ℤ) : Py (Option Profile) :=
  (sqlInt id).map fun id => getProfile t id

/-- The profile that a form selects, or none. -/
def selectedProfile (value : PyVal) : Py (Option RowId) :=
  if value.blank then .ok none
  else do
    let id ← value.toInt
    match ← requestedProfile t id with
    | some profile => pure (some profile.id)
    | none => .error (.valueError "Selected profile does not exist")

variable {t}

lemma validatePreset_ok {value : PyVal} {key : String}
    (h : validatePreset t value=.ok key) : ∃ p ∈ t.bandwidthPresets, p.key=key := by
  cases value with
  | str text =>
    simp only [validatePreset] at h
    split_ifs at h with hany
    obtain rfl := Except.ok.inj h
    simpa using hany
  | _ => cases h

lemma requestedProfile_ok {id : ℤ} {result : Option Profile}
    (h : requestedProfile t id=.ok result) : getProfile t id=result := by
  unfold requestedProfile at h
  cases hid : sqlInt id with
  | error e => rw [hid] at h; cases h
  | ok n =>
    rw [hid,sqlInt_ok hid] at h
    exact Except.ok.inj h

lemma selectedProfile_ok {value : PyVal} {result : Option RowId}
    (h : selectedProfile t value=.ok result) :
    (result=none → value.blank=true) ∧
      ∀ n, value.toInt=.ok n → value.blank=false → result.map Subtype.val=some n := by
  unfold selectedProfile at h
  split_ifs at h with hblank
  · obtain rfl := Except.ok.inj h
    exact ⟨fun _ => hblank,fun _ _ hf => by simp [hblank] at hf⟩
  · obtain ⟨n,hn,h⟩ := bind_ok h
    obtain ⟨found,hfound,h⟩ := bind_ok h
    cases found with
    | none => cases h
    | some profile =>
      obtain rfl := Except.ok.inj h
      refine ⟨nofun,fun m hm _ => ?_⟩
      obtain rfl : n=m := Except.ok.inj (hn.symm.trans hm)
      have := List.find?_some (requestedProfile_ok hfound)
      simpa using this

/-- A stored assignment that is saved again stays as it is. -/
lemma selectedProfile_stored {stored result : Option RowId}
    (h : selectedProfile t ((stored.map fun id => PyVal.int id.val).getD .none)=.ok result) :
    result=stored := by
  cases stored with
  | none => exact (Except.ok.inj h).symm
  | some id =>
    have hblank : (PyVal.int id.val).blank=false := by
      have := id.property
      simp only [PyVal.blank,PyVal.eqInt,decide_eq_false_iff_not]
      omega
    have := (selectedProfile_ok h).2 id.val rfl hblank
    cases result with
    | none => cases this
    | some r => simpa [Subtype.ext_iff] using this

lemma profileOf_rowId (t : Tables) (profileId : Option RowId) :
    profileOf t (profileId.map Subtype.val)=profileId.bind fun id => getProfile t id := by
  cases profileId with
  | none => rfl
  | some id => simp [profileOf,ne_of_gt id.property]

lemma getProfile_id {id : ℤ} {profile : Profile} (h : getProfile t id=some profile) :
    profile.id.val=id := by simpa using List.find?_some h

end Ids
end ZenControl
