import ZenControl.Store.Plans

/-! The translation of legacy Kid Control profiles: the windows of a day, in any accepted
spelling of the clock, become opening and closing events of a blocked profile. -/
namespace ZenControl.KidControl

section Clock

/-- A clock time of the day, in minutes. -/
abbrev ClockTime := Fin 1440

def clockTime (hour : Fin 24) (minute : Fin 60) : ClockTime :=
  ⟨60*hour.val+minute.val,by omega⟩

/-- The `HH:MM` of a clock time. These texts are ordered like the times. -/
def clockText (t : ClockTime) : String := padded 2 (t.val/60 : ℕ) ++ ":" ++ padded 2 (t.val%60 : ℕ)

/-- The pattern `[01]?\d|2[0-3]`. -/
def hourOf : List Char → Option (Fin 24)
  | [a] => (digitValue a).bind (finOf 24)
  | [a,b] =>
    if a= '0' ∨ a= '1' then (digitValue b).bind fun d => finOf 24 (10*(a.toNat-48)+d)
    else if a= '2' ∧ '0' ≤ b ∧ b ≤ '3' then finOf 24 (20+(b.toNat-48))
    else none
  | _ => none

/-- The pattern `[0-5]\d`. -/
def sixtyOf : List Char → Option (Fin 60)
  | [a,b] =>
    if '0' ≤ a ∧ a ≤ '5' then (digitValue b).bind fun d => finOf 60 (10*(a.toNat-48)+d) else none
  | _ => none

/-- The pattern of `_router_clock` with colons: hours, minutes and seconds. -/
def colonClock (raw : String) : Option (Fin 24 × Fin 60 × Fin 60) :=
  match splitChars (· = ':') raw.toList with
  | [hh,mm] => (hourOf hh).bind fun h => (sixtyOf mm).map fun m => (h,m,0)
  | [hh,mm,ss] =>
    (hourOf hh).bind fun h => (sixtyOf mm).bind fun m => (sixtyOf ss).map fun s => (h,m,s)
  | _ => none

/-- The pattern `(?:(\d{1,2})u)?` for a unit `u`, and what is left of the text. -/
def unitPart (u : Char) (cs : List Char) : Option ℕ × List Char :=
  match cs with
  | a::b::c::rest =>
    match digitValue a,digitValue b with
    | some x,some y => if c=u then (some (10*x+y),rest) else (none,cs)
    | some x,none => if b=u then (some x,c::rest) else (none,cs)
    | _,_ => (none,cs)
  | [a,b] =>
    match digitValue a with
    | some x => if b=u then (some x,[]) else (none,cs)
    | none => (none,cs)
  | _ => (none,cs)

/-- The pattern of `_router_clock` with units. -/
def unitClock (raw : String) : Option (ℕ × ℕ × ℕ) :=
  let (h,cs) := unitPart 'h' raw.toList
  let (m,cs) := unitPart 'm' cs
  let (s,cs) := unitPart 's' cs
  if cs=[] ∧ (h.isSome ∨ m.isSome ∨ s.isSome) then some (h.getD 0,m.getD 0,s.getD 0) else none

variable (rt : Runtime)

/-- `_router_clock`. -/
def routerClock (value : String) : Py ClockTime :=
  let raw := rt.lower (strip value)
  match colonClock raw with
  | some (h,m,_) => .ok (clockTime h m)
  | none =>
    match unitClock raw with
    | none => .error (.valueError s!"Unsupported RouterOS clock value '{value}'")
    | some (h,m,s) =>
      match finOf 24 h,finOf 60 m,finOf 60 s with
      | some hour,some minute,some second =>
        if second≠0 then .error (.valueError (
          s!"RouterOS second-level clock '{value}' cannot be represented by ZEN minute " ++
            "schedules"))
        else .ok (clockTime hour minute)
      | _,_,_ => .error (.valueError s!"Unsupported RouterOS clock value '{value}'")

/-- The second of the day that an accepted spelling names. -/
def clockSecond (value : String) : ℕ :=
  let raw := rt.lower (strip value)
  match colonClock raw with
  | some (h,m,s) => 3600*h.val+60*m.val+s.val
  | none =>
    match unitClock raw with
    | some (h,m,s) => 3600*h+60*m+s
    | none => 0

end Clock

section Windows
variable (rt : Runtime)

/-- The parts of a day that are not blank. -/
def windowParts (raw : String) : List String :=
  ((splitChars (fun c => c= ',' || c= ';') (strip raw).toList).map fun cs =>
    strip (String.ofList cs)).filter fun part => part≠""

/-- One window of `_day_windows`. -/
def dayWindow (part : String) : Py (ClockTime × ClockTime) :=
  match cutAt '-' part with
  | none => .error (.valueError s!"Unsupported RouterOS Kid Control window '{part}'")
  | some (startRaw,endRaw) => do
    let start ← routerClock rt (strip startRaw)
    let stop ← routerClock rt (strip endRaw)
    refuse (start=stop) s!"Kid Control window '{part}' has identical start and end"
    refuse (stop < start) (s!"Overnight Kid Control window '{part}' requires manual review; " ++
      "ZEN will not guess cross-day semantics")
    pure (start,stop)

/-- The loop of `_day_windows`. -/
def dayRanges : List String → Py (List (ClockTime × ClockTime))
  | [] => .ok []
  | part::parts => do
    let window ← dayWindow rt part
    let rest ← dayRanges parts
    pure (window::rest)

/-- `_day_windows`. -/
def dayWindows (raw : String) : Py (List (ClockTime × ClockTime)) := dayRanges rt (windowParts raw)

/-- A window as it is spelled, in seconds. -/
def spelledWindow (part : String) : Option (ℕ × ℕ) :=
  (cutAt '-' part).map fun (startRaw,endRaw) =>
    (clockSecond rt (strip startRaw),clockSecond rt (strip endRaw))

/-- The windows of a day as they are spelled. -/
def spelledWindows (raw : String) : List (ℕ × ℕ) :=
  (windowParts raw).filterMap (spelledWindow rt)

end Windows

section Profiles
variable (rt : Runtime)

/-- A profile of the legacy snapshot. -/
structure KidProfile where
  name : String
  disabled : Bool := false
  rateLimit : String := ""
  windows : Weekday → String
  unlimited : Weekday → String := fun _ => ""

/-- An entry of a proposed schedule. -/
structure ScheduleEvent where
  days : List Weekday
  time : String
  mode : Mode
  deriving DecidableEq, Repr

/-- The `proposed` profile of a translation. -/
structure ProposedProfile where
  name : String
  desiredMode : Mode := .blocked
  bandwidthPreset : String := "normal"
  blockedServices : List String := []
  dailyQuotaMb : ℤ := 0
  dailyQuotaAction : QuotaAction := .blocked
  serviceQuotas : List (String × ℤ) := []
  notes : String := ""
  schedule : List ScheduleEvent
  deriving DecidableEq, Repr

/-- What `_translate_profile` returns. -/
structure Translation where
  legacyName : String
  legacyDisabled : Bool
  legacyRateLimit : String
  legacyUnlimitedWindows : List (Weekday × String)
  warnings : List String
  notices : List String
  proposed : ProposedProfile
  deriving DecidableEq, Repr

/-- `DAYS`. -/
def days : List Weekday := [.mon,.tue,.wed,.thu,.fri,.sat,.sun]

/-- The slots of a schedule, by time and mode, with their days. -/
abbrev Slots := List ((ClockTime × Mode) × List Weekday)

/-- `slots.setdefault(key, []).append(day)`. -/
def addDay (slots : Slots) (key : ClockTime × Mode) (day : Weekday) : Slots :=
  if slots.any fun e => e.1=key then slots.map fun e => if e.1=key then (e.1,e.2 ++ [day]) else e
  else slots ++ [(key,[day])]

/-- The slots of the windows of one day. -/
def addWindows (day : Weekday) (slots : Slots) (windows : List (ClockTime × ClockTime)) : Slots :=
  windows.foldl (fun slots w => addDay (addDay slots (w.1,.normal) day) (w.2,.blocked) day) slots

/-- The text of an exception. -/
def errorText : StoreError → String
  | .valueError message => message
  | _ => ""

/-- The loop over the days: the slots and the warnings. -/
def collectDays (raw : KidProfile) : List Weekday → Slots → List String → Slots × List String
  | [],slots,warnings => (slots,warnings)
  | day::rest,slots,warnings =>
    match dayWindows rt (raw.windows day) with
    | .ok windows => collectDays raw rest (addWindows day slots windows) warnings
    | .error e =>
      let name := upper day.text
      let text := errorText e
      collectDays raw rest slots
        (warnings ++ [s!"{name} schedule requires manual review: {text}"])

/-- The order of the slots: by time, opening before closing. -/
def slotBefore (a b : (ClockTime × Mode) × List Weekday) : Prop :=
  a.1.1 < b.1.1 ∨ (a.1.1=b.1.1 ∧ (a.1.2≠.normal → b.1.2≠.normal))

instance : DecidableRel slotBefore := fun a b => by unfold slotBefore; infer_instance

/-- The schedule of some slots. -/
def scheduleOf (slots : Slots) : List ScheduleEvent :=
  (slots.insertionSort slotBefore).map fun ((time,mode),found) =>
    { days := days.filter fun day => day ∈ found, time := clockText time, mode := mode }

/-- `_translate_profile`. -/
def translateProfile (raw : KidProfile) : Translation :=
  let (slots,dayWarnings) := collectDays rt raw days [] []
  let rateLimit := strip raw.rateLimit
  let rateWarnings := if rateLimit="" then [] else
    [s!"Legacy rate-limit '{rateLimit}' requires manual bandwidth mapping; " ++
      "ZEN did not guess a preset."]
  let unlimited := (days.filter fun day => strip (raw.unlimited day)≠"").map fun day =>
    (day,strip (raw.unlimited day))
  let unlimitedWarnings := if unlimited=[] then [] else
    ["Legacy unlimited-rate (tur-*) windows require manual review; " ++
      "ZEN did not invent a bandwidth schedule."]
  { legacyName := raw.name, legacyDisabled := raw.disabled, legacyRateLimit := rateLimit,
    legacyUnlimitedWindows := unlimited,
    warnings := dayWarnings ++ rateWarnings ++ unlimitedWarnings,
    notices := if raw.disabled then
      ["Legacy Kid Control profile is currently disabled. Its retained configuration may " ++
        "be the expected rollback copy after authority transfer."] else [],
    proposed :=
      { name := raw.name,
        notes := "Staged from MikroTik Kid Control; not active until explicit cutover.",
        schedule := scheduleOf slots } }

end Profiles
section ClockTexts

/-- The character of a decimal digit. -/
def digitChar (n : ℕ) : Char := Char.ofNat (48+n)

lemma padded_digits (n : Fin 60) :
    padded 2 (n.val : ℕ)=String.ofList [digitChar (n.val/10),digitChar (n.val%10)] := by
  revert n
  decide

lemma pyInt_padded (n : Fin 60) : pyInt (padded 2 (n.val : ℕ))=some (n.val : ℤ) := by
  revert n
  decide

lemma digitChar_plain (n : Fin 10) :
    isSpace (digitChar n.val)=false ∧ digitChar n.val≠ ':' := by
  revert n
  decide

/-- The hour and the minute of a clock time. -/
def hourPart (t : ClockTime) : Fin 24 := ⟨t.val/60,by omega⟩
def minutePart (t : ClockTime) : Fin 60 := ⟨t.val%60,by omega⟩

lemma clockText_eq (t : ClockTime) :
    clockText t=padded 2 ((hourPart t).val : ℕ) ++ ":" ++ padded 2 ((minutePart t).val : ℕ) := rfl

lemma clockText_chars (t : ClockTime) :
    (clockText t).toList=[digitChar ((hourPart t).val/10),digitChar ((hourPart t).val%10),':',
      digitChar ((minutePart t).val/10),digitChar ((minutePart t).val%10)] := by
  have hh := padded_digits ⟨(hourPart t).val,by omega⟩
  have hm := padded_digits (minutePart t)
  rw [clockText_eq,hh,hm]
  simp

lemma clockText_strip (t : ClockTime) : strip (clockText t)=clockText t := by
  have ha := (digitChar_plain ⟨(hourPart t).val/10,by omega⟩).1
  have hd := (digitChar_plain ⟨(minutePart t).val%10,by omega⟩).1
  rw [strip,clockText_chars,← String.toList_inj]
  simp only [List.dropWhile,ha,List.reverse_cons,List.reverse_nil,List.nil_append,
    List.cons_append,hd,String.toList_ofList,clockText_chars]

/-- The resolver reads a clock text as the time it was written from. -/
lemma parseClock_clockText (t : ClockTime) :
    parseClock (clockText t)=some (((hourPart t).val : ℤ),((minutePart t).val : ℤ)) := by
  have ha := (digitChar_plain ⟨(hourPart t).val/10,by omega⟩).2
  have hb := (digitChar_plain ⟨(hourPart t).val%10,by omega⟩).2
  have hh := padded_digits ⟨(hourPart t).val,by omega⟩
  have hm := padded_digits (minutePart t)
  have hcut : cutAt ':' (clockText t)=
      some (padded 2 ((hourPart t).val : ℕ),padded 2 ((minutePart t).val : ℕ)) := by
    simp only at hh hm ha hb
    simp [cutAt,clockText_chars,ha,hb,hh,hm]
  have hph := pyInt_padded ⟨(hourPart t).val,by omega⟩
  have hpm := pyInt_padded (minutePart t)
  simp only at hph
  simp [parseClock,hcut,hph,hpm]

lemma clockText_injective {t u : ClockTime} (h : clockText t=clockText u) : t=u := by
  have hp := parseClock_clockText t
  rw [h,parseClock_clockText u] at hp
  simp only [Option.some.injEq,Prod.mk.injEq,hourPart,minutePart] at hp
  exact Fin.ext (by omega)

end ClockTexts

section Spelling
variable {rt : Runtime}

lemma finOf_val {bound n : ℕ} {x : Fin bound} (h : finOf bound n=some x) : x.val=n := by
  unfold finOf at h
  split_ifs at h
  rw [← Option.some.inj h]

/-- The stored time of a clock is its spelled one without the seconds. -/
lemma routerClock_second {value : String} {t : ClockTime} (h : routerClock rt value=.ok t) :
    t.val=clockSecond rt value/60 := by
  unfold routerClock at h
  unfold clockSecond
  cases hcolon : colonClock (rt.lower (strip value)) with
  | some clock =>
    simp only [hcolon] at h ⊢
    rw [← Except.ok.inj h]
    simp only [clockTime]
    omega
  | none =>
    simp only [hcolon] at h ⊢
    cases hunit : unitClock (rt.lower (strip value)) with
    | none => rw [hunit] at h; cases h
    | some clock =>
      simp only [hunit] at h ⊢
      split at h
      · next hour minute second hhour hminute hsecond =>
        split_ifs at h with hs
        rw [← Except.ok.inj h]
        have h1 := finOf_val hhour
        have h2 := finOf_val hminute
        have h3 := finOf_val hsecond
        have h0 : second.val=0 := by
          rw [not_not.mp hs]
          rfl
        simp only [clockTime]
        omega
      · cases h

/-- An accepted window opens before it closes, and is its spelling without the seconds. -/
def Accepted (w : ClockTime × ClockTime) (spelled : ℕ × ℕ) : Prop :=
  w.1.val=spelled.1/60 ∧ w.2.val=spelled.2/60 ∧ w.1 < w.2

lemma dayWindow_accepted {part : String} {w : ClockTime × ClockTime}
    (h : dayWindow rt part=.ok w) :
    ∃ spelled, spelledWindow rt part=some spelled ∧ Accepted w spelled := by
  unfold dayWindow at h
  split at h
  · cases h
  · next a b hcut =>
    obtain ⟨start,hstart,h⟩ := bind_ok h
    obtain ⟨stop,hstop,h⟩ := bind_ok h
    obtain ⟨_,hne,h⟩ := bind_ok h
    obtain ⟨_,hlt,h⟩ := bind_ok h
    obtain rfl := Except.ok.inj h
    refine ⟨_,by rw [spelledWindow,hcut]; rfl,routerClock_second hstart,routerClock_second hstop,?_⟩
    exact lt_of_le_of_ne (not_lt.mp (refuse_ok hlt)) (refuse_ok hne)

lemma dayRanges_accepted {parts : List String} {ws : List (ClockTime × ClockTime)}
    (h : dayRanges rt parts=.ok ws) :
    List.Forall₂ Accepted ws (parts.filterMap (spelledWindow rt)) := by
  induction parts generalizing ws with
  | nil =>
    obtain rfl : []=ws := Except.ok.inj h
    exact .nil
  | cons part parts ih =>
    rw [dayRanges] at h
    obtain ⟨w,hw,h⟩ := bind_ok h
    obtain ⟨rest,hrest,h⟩ := bind_ok h
    obtain rfl : w::rest=ws := Except.ok.inj h
    obtain ⟨spelled,hspelled,hacc⟩ := dayWindow_accepted hw
    rw [List.filterMap_cons_some hspelled]
    exact .cons hacc (ih hrest)

/-- The accepted windows of a day are those that are spelled. -/
theorem dayWindows_accepted {raw : String} {ws : List (ClockTime × ClockTime)}
    (h : dayWindows rt raw=.ok ws) : List.Forall₂ Accepted ws (spelledWindows rt raw) :=
  dayRanges_accepted h

end Spelling

section Schedules
variable {rt : Runtime}

/-- The slots have the day under the key. -/
def Slots.Has (slots : Slots) (key : ClockTime × Mode) (day : Weekday) : Prop :=
  ∃ found, (key,found) ∈ slots ∧ day ∈ found

lemma addDay_has (slots : Slots) (key k : ClockTime × Mode) (day d : Weekday) :
    (addDay slots key day).Has k d ↔ slots.Has k d ∨ (k=key ∧ d=day) := by
  unfold addDay Slots.Has
  split_ifs with hany
  · simp only [List.any_eq_true,decide_eq_true_eq] at hany
    obtain ⟨⟨key',old⟩,hold,hkey⟩ := hany
    obtain rfl : key=key' := hkey.symm
    constructor
    · rintro ⟨found,hfound,hd⟩
      obtain ⟨⟨k',f'⟩,he,heq⟩ := List.mem_map.mp hfound
      dsimp only at heq
      split_ifs at heq with hk
      · obtain ⟨rfl,rfl⟩ := Prod.mk.inj heq
        rcases List.mem_append.mp hd with hd | hd
        · exact .inl ⟨f',he,hd⟩
        · exact .inr ⟨hk,List.mem_singleton.mp hd⟩
      · obtain ⟨rfl,rfl⟩ := Prod.mk.inj heq
        exact .inl ⟨f',he,hd⟩
    · rintro (⟨found,hfound,hd⟩ | ⟨rfl,rfl⟩)
      · by_cases hk : k=key
        · refine ⟨found ++ [day],List.mem_map.mpr ⟨(k,found),hfound,?_⟩,
            List.mem_append_left _ hd⟩
          simp [hk]
        · refine ⟨found,List.mem_map.mpr ⟨(k,found),hfound,?_⟩,hd⟩
          simp [hk]
      · exact ⟨old ++ [d],List.mem_map.mpr ⟨_,hold,by simp⟩,by simp⟩
  · simp only [List.mem_append,List.mem_singleton,Prod.mk.injEq]
    constructor
    · rintro ⟨found,hfound | ⟨rfl,rfl⟩,hd⟩
      · exact .inl ⟨found,hfound,hd⟩
      · exact .inr ⟨rfl,List.mem_singleton.mp hd⟩
    · rintro (⟨found,hfound,hd⟩ | ⟨rfl,rfl⟩)
      · exact ⟨found,.inl hfound,hd⟩
      · exact ⟨[d],.inr ⟨rfl,rfl⟩,by simp⟩

lemma addWindows_has (day : Weekday) (slots : Slots) (ws : List (ClockTime × ClockTime))
    (k : ClockTime × Mode) (d : Weekday) :
    (addWindows day slots ws).Has k d ↔
      slots.Has k d ∨ (d=day ∧ ∃ w ∈ ws, k=(w.1,.normal) ∨ k=(w.2,.blocked)) := by
  unfold addWindows
  induction ws generalizing slots with
  | nil => simp
  | cons w ws ih =>
    rw [List.foldl_cons,ih]
    simp only [addDay_has,List.mem_cons,exists_eq_or_imp]
    grind

/-- Where no day is left for review, the slots are the openings and closings of its windows. -/
lemma collectDays_has {raw : KidProfile} {ds : List Weekday} {slots result : Slots}
    {warnings : List String} (h : collectDays rt raw ds slots warnings=(result,[]))
    (k : ClockTime × Mode) (d : Weekday) :
    warnings=[] ∧ (d ∈ ds → ∃ ws, dayWindows rt (raw.windows d)=.ok ws) ∧
      (result.Has k d ↔ slots.Has k d ∨ (d ∈ ds ∧ ∃ ws, dayWindows rt (raw.windows d)=.ok ws ∧
        ∃ w ∈ ws, k=(w.1,.normal) ∨ k=(w.2,.blocked))) := by
  induction ds generalizing slots warnings with
  | nil =>
    obtain ⟨rfl,rfl⟩ := Prod.mk.inj h
    simp
  | cons day rest ih =>
    unfold collectDays at h
    cases hw : dayWindows rt (raw.windows day) with
    | error e =>
      rw [hw] at h
      have := (ih h).1
      simp at this
    | ok ws =>
      rw [hw] at h
      obtain ⟨hwarn,hok,hhas⟩ := ih h
      refine ⟨hwarn,fun hd => ?_,?_⟩
      · rcases List.mem_cons.mp hd with rfl | hd
        · exact ⟨ws,hw⟩
        · exact hok hd
      · rw [hhas,addWindows_has]
        constructor
        · rintro ((hs | ⟨rfl,hex⟩) | ⟨hd,hex⟩)
          · exact .inl hs
          · exact .inr ⟨List.mem_cons_self,ws,hw,hex⟩
          · exact .inr ⟨List.mem_cons_of_mem _ hd,hex⟩
        · rintro (hs | ⟨hd,ws',hw',hex⟩)
          · exact .inl (.inl hs)
          · rcases List.mem_cons.mp hd with rfl | hd
            · obtain rfl := Except.ok.inj (hw.symm.trans hw')
              exact .inl (.inr ⟨rfl,hex⟩)
            · exact .inr ⟨hd,ws',hw',hex⟩

/-- A schedule sets the mode at the time of a day. -/
def Says (events : List ScheduleEvent) (t : ClockTime) (mode : Mode) (d : Weekday) : Prop :=
  ∃ event ∈ events, event.time=clockText t ∧ event.mode=mode ∧ d ∈ event.days

lemma mem_scheduleOf {slots : Slots} {event : ScheduleEvent} :
    event ∈ scheduleOf slots ↔ ∃ t mode found, ((t,mode),found) ∈ slots ∧
      event={ days := days.filter fun day => day ∈ found, time := clockText t, mode := mode } := by
  unfold scheduleOf
  rw [List.mem_map]
  constructor
  · rintro ⟨⟨⟨t,mode⟩,found⟩,hmem,rfl⟩
    exact ⟨t,mode,found,(List.mem_insertionSort _).mp hmem,rfl⟩
  · rintro ⟨t,mode,found,hmem,rfl⟩
    exact ⟨((t,mode),found),(List.mem_insertionSort _).mpr hmem,rfl⟩

lemma mem_days (d : Weekday) : d ∈ days := by cases d <;> decide

lemma scheduleOf_sets (slots : Slots) (t : ClockTime) (mode : Mode) (d : Weekday) :
    Says (scheduleOf slots) t mode d ↔ slots.Has (t,mode) d := by
  constructor
  · rintro ⟨event,hevent,htime,hmode,hd⟩
    obtain ⟨t',mode',found,hmem,rfl⟩ := mem_scheduleOf.mp hevent
    obtain rfl := clockText_injective htime
    obtain rfl : mode'=mode := hmode
    exact ⟨found,hmem,by simpa using (List.mem_filter.mp hd).2⟩
  · rintro ⟨found,hmem,hd⟩
    exact ⟨_,mem_scheduleOf.mpr ⟨t,mode,found,hmem,rfl⟩,rfl,rfl,
      List.mem_filter.mpr ⟨mem_days d,by simpa using hd⟩⟩

/-- The windows of a day open and close at these minutes. -/
def Opens (spelled : List (ℕ × ℕ)) (t : ℕ) : Prop := ∃ w ∈ spelled, w.1/60=t
def Closes (spelled : List (ℕ × ℕ)) (t : ℕ) : Prop := ∃ w ∈ spelled, w.2/60=t

lemma accepted_mem {ws : List (ClockTime × ClockTime)} {spelled : List (ℕ × ℕ)}
    (h : List.Forall₂ Accepted ws spelled) :
    (∀ w ∈ ws, ∃ x ∈ spelled, Accepted w x) ∧ ∀ x ∈ spelled, ∃ w ∈ ws, Accepted w x := by
  induction h with
  | nil => simp
  | cons hacc _ ih =>
    constructor
    · rintro w (_ | ⟨_,hw⟩)
      · exact ⟨_,List.mem_cons_self,hacc⟩
      · obtain ⟨x,hx,ha⟩ := ih.1 w hw
        exact ⟨x,List.mem_cons_of_mem _ hx,ha⟩
    · rintro x (_ | ⟨_,hx⟩)
      · exact ⟨_,List.mem_cons_self,hacc⟩
      · obtain ⟨w,hw,ha⟩ := ih.2 x hx
        exact ⟨w,List.mem_cons_of_mem _ hw,ha⟩

/-- A translation without warnings opens and closes where the spelled windows do, up to the
seconds, and every window opens before it closes. -/
theorem translateProfile_sets {raw : KidProfile} (h : (translateProfile rt raw).warnings=[])
    (d : Weekday) :
    (∀ w ∈ spelledWindows rt (raw.windows d), w.1/60 < w.2/60 ∧ w.2/60 < 1440) ∧
      ∀ t : ClockTime,
        (Says (translateProfile rt raw).proposed.schedule t .normal d ↔
          Opens (spelledWindows rt (raw.windows d)) t) ∧
        (Says (translateProfile rt raw).proposed.schedule t .blocked d ↔
          Closes (spelledWindows rt (raw.windows d)) t) ∧
        ¬Says (translateProfile rt raw).proposed.schedule t .slow d := by
  rcases hc : collectDays rt raw days [] [] with ⟨slots,dayWarnings⟩
  have hwarn : dayWarnings=[] := by
    simp only [translateProfile,hc,List.append_eq_nil_iff] at h
    exact h.1.1
  subst hwarn
  have hschedule : (translateProfile rt raw).proposed.schedule=scheduleOf slots := by
    simp only [translateProfile,hc]
  obtain ⟨ws,hws⟩ := (collectDays_has hc (0,.normal) d).2.1 (mem_days d)
  have hhas (k : ClockTime × Mode) :
      slots.Has k d ↔ ∃ w ∈ ws, k=(w.1,.normal) ∨ k=(w.2,.blocked) := by
    rw [(collectDays_has hc k d).2.2]
    simp [Slots.Has,mem_days,hws]
  obtain ⟨hfrom,hto⟩ := accepted_mem (dayWindows_accepted hws)
  refine ⟨fun x hx => ?_,fun t => ?_⟩
  · obtain ⟨w,-,h1,h2,hlt⟩ := hto x hx
    have := w.2.isLt
    have := Fin.lt_def.mp hlt
    omega
  rw [hschedule]
  simp only [scheduleOf_sets,hhas,Prod.mk.injEq,and_true,and_false,or_false,false_or,
    reduceCtorEq,or_self,exists_false]
  refine ⟨⟨?_,?_⟩,⟨?_,?_⟩,?_⟩
  · rintro ⟨w,hw,rfl⟩
    obtain ⟨x,hx,h1,-,-⟩ := hfrom w hw
    exact ⟨x,hx,h1.symm⟩
  · rintro ⟨x,hx,ht⟩
    obtain ⟨w,hw,h1,-,-⟩ := hto x hx
    exact ⟨w,hw,Fin.ext (ht.symm.trans h1.symm)⟩
  · rintro ⟨w,hw,rfl⟩
    obtain ⟨x,hx,-,h2,-⟩ := hfrom w hw
    exact ⟨x,hx,h2.symm⟩
  · rintro ⟨x,hx,ht⟩
    obtain ⟨w,hw,-,h2,-⟩ := hto x hx
    exact ⟨w,hw,Fin.ext (ht.symm.trans h2.symm)⟩
  · simp

end Schedules
end ZenControl.KidControl
