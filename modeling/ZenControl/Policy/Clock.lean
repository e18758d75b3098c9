import ZenControl.Store.Tables

/-! Household wall-clock time. Local times and instants are counted in microseconds; a zone
gives the offset of a local time, whose fold tells its two readings apart, and the local time
of an instant. -/
namespace ZenControl

def minuteUs : ℤ := 60000000
def hourUs : ℤ := 3600000000
def dayUs : ℤ := 86400000000

/-- A local time, in microseconds since midnight of the day with ordinal 0. -/
abbrev Wall := ℤ

/-- A local time of a zone. -/
structure Moment where
  wall : Wall
  fold : Bool := false
  deriving DecidableEq, Repr

/-- What the policy uses of a `ZoneInfo`. -/
structure Zone where
  key : String
  utcoffset : Wall → Bool → ℤ
  fromutc : ℤ → Moment

/-- `utc_instant`. -/
def Zone.instant (zone : Zone) (m : Moment) : ℤ := m.wall-zone.utcoffset m.wall m.fold

/-- The day of a local time. -/
def Moment.day (m : Moment) : Day := m.wall/dayUs

/-- The time of the day of a local time. -/
def Moment.timeOfDay (m : Moment) : ℤ := m.wall%dayUs

/-- `datetime.combine(day, time(hour, minute))`. -/
def combine (day : Day) (hour minute : ℤ) : Wall := day*dayUs+hour*hourUs+minute*minuteUs

/-- `day.weekday()` as the code of `_weekday_code`. -/
def weekdayCode (day : Day) : Weekday :=
  match (day+6)%7 with
  | 0 => .mon
  | 1 => .tue
  | 2 => .wed
  | 3 => .thu
  | 4 => .fri
  | 5 => .sat
  | _ => .sun

section Text

/-- A number with leading zeros. -/
def padded (width : ℕ) (n : ℤ) : String :=
  let digits := (toString n).toList
  String.ofList (List.replicate (width-digits.length) '0' ++ digits)

/-- Year, month and day of an ordinal. -/
def civil (day : Day) : ℤ × ℤ × ℤ :=
  let z := day+305
  let era := z/146097
  let doe := z%146097
  let yoe := (doe-doe/1460+doe/36524-doe/146096)/365
  let doy := doe-(365*yoe+yoe/4-yoe/100)
  let mp := (5*doy+2)/153
  let month := if mp<10 then mp+3 else mp-9
  (yoe+era*400+(if month≤2 then 1 else 0),month,doy-(153*mp+2)/5+1)

/-- The ordinal of a date. -/
def ordinal (year month day : ℤ) : Day :=
  let y := if month ≤ 2 then year-1 else year
  let era := y/400
  let yoe := y%400
  let mp := (month+9)%12
  era*146097+(yoe*365+yoe/4-yoe/100+(153*mp+2)/5+day-1)-305

def leapYear (year : ℤ) : Bool := year%4=0 && (year%100≠0 || year%400=0)

def daysInMonth (year month : ℤ) : ℤ :=
  if month=2 then if leapYear year then 29 else 28
  else if month=4 ∨ month=6 ∨ month=9 ∨ month=11 then 30 else 31

/-- `date.fromisoformat` on a text of the pattern `\d{4}-\d{2}-\d{2}`. -/
def fromIsoformat (text : String) : Option Day :=
  let ascii (cs : List Char) : Option ℤ :=
    if cs.all Char.isDigit then some (cs.foldl (fun n c => 10*n+(c.toNat-48 : ℕ)) 0) else none
  match text.toList with
  | [a,b,c,d,'-',e,f,'-',g,h] =>
    (ascii [a,b,c,d]).bind fun year => (ascii [e,f]).bind fun month => (ascii [g,h]).bind fun day =>
      if 1 ≤ year ∧ 1 ≤ month ∧ month ≤ 12 ∧ 1 ≤ day ∧ day ≤ daysInMonth year month then
        some (ordinal year month day)
      else none
  | _ => none

/-- `day.isoformat()`. -/
def isoDay (day : Day) : String :=
  let (y,m,d) := civil day
  padded 4 y ++ "-" ++ padded 2 m ++ "-" ++ padded 2 d

/-- `strftime("%H:%M")`. -/
def hourMinute (wall : Wall) : String :=
  let t := wall%dayUs
  padded 2 (t/hourUs) ++ ":" ++ padded 2 (t%hourUs/minuteUs)

/-- `isoformat(timespec="minutes")` of a naive time. -/
def isoMinutes (wall : Wall) : String := isoDay (wall/dayUs) ++ "T" ++ hourMinute wall

/-- The offset in `isoformat`, with its seconds where it has any. -/
def offsetText (offset : ℤ) : String :=
  let sign := if offset<0 then "-" else "+"
  let o : ℤ := offset.natAbs
  let seconds := o%minuteUs/1000000
  let micros := o%1000000
  sign ++ padded 2 (o/hourUs) ++ ":" ++ padded 2 (o%hourUs/minuteUs) ++
    (if seconds=0 ∧ micros=0 then "" else ":" ++ padded 2 seconds) ++
    (if micros=0 then "" else "." ++ padded 6 micros)

/-- `isoformat(timespec="minutes")` of an aware time. -/
def Zone.isoMinutes (zone : Zone) (m : Moment) : String :=
  ZenControl.isoMinutes m.wall ++ offsetText (zone.utcoffset m.wall m.fold)

/-- `strftime("%a %H:%M")`. -/
def weekdayMinute (wall : Wall) : String :=
  let name := match weekdayCode (wall/dayUs) with
    | .mon => "Mon" | .tue => "Tue" | .wed => "Wed" | .thu => "Thu"
    | .fri => "Fri" | .sat => "Sat" | .sun => "Sun"
  name ++ " " ++ hourMinute wall

example : fromIsoformat "2023-12-31"=some 738885 := by decide

example : isoMinutes (combine 738885 9 5)="2023-12-31T09:05" := by decide

end Text

/-- The metadata that comes with a resolved local time. -/
structure WallResolution where
  requestedLocal : String
  resolvedLocal : String
  adjusted : Bool
  kind : String
  ambiguous : Bool
  nonexistent : Bool
  shiftMinutes : Option ℕ := none
  deriving DecidableEq, Repr

/-- `_valid_wall_candidates`: the readings of a local time that exist, earliest first. -/
def validWallCandidates (zone : Zone) (naive : Wall) : List Moment :=
  let real (fold : Bool) : Bool :=
    decide ((zone.fromutc (zone.instant ⟨naive,fold⟩)).wall=naive)
  let first := zone.instant ⟨naive,false⟩
  let second := zone.instant ⟨naive,true⟩
  match real false, real true with
  | true, true =>
    if second=first then [⟨naive,false⟩]
    else if second<first then [⟨naive,true⟩,⟨naive,false⟩]
    else [⟨naive,false⟩,⟨naive,true⟩]
  | true, false => [⟨naive,false⟩]
  | false, true => [⟨naive,true⟩]
  | false, false => []

/-- The search for the first local time after a gap. -/
def afterGap (zone : Zone) (naive : Wall) : ℕ → ℕ → Except StoreError (Moment × WallResolution)
  | 0, _ =>
    let requested := isoMinutes naive
    let key := zone.key
    .error (.valueError s!"Unable to resolve local policy time {requested} in timezone {key}")
  | left+1, minutes =>
    match validWallCandidates zone (naive+minutes*minuteUs) with
    | chosen::_ => .ok (chosen,
        { requestedLocal := isoMinutes naive, resolvedLocal := zone.isoMinutes chosen,
          adjusted := true, kind := "nonexistent_forward", ambiguous := false,
          nonexistent := true, shiftMinutes := some minutes })
    | [] => afterGap zone naive left (minutes+1)

/-- `resolve_local_wall_time`. -/
def resolveLocalWallTime (zone : Zone) (naive : Wall) :
    Except StoreError (Moment × WallResolution) :=
  match validWallCandidates zone naive with
  | chosen::rest =>
    let ambiguous := !rest.isEmpty
    .ok (chosen,
      { requestedLocal := isoMinutes naive, resolvedLocal := zone.isoMinutes chosen,
        adjusted := false, kind := if ambiguous then "ambiguous_first" else "exact",
        ambiguous := ambiguous, nonexistent := false })
  | [] => afterGap zone naive 180 1

/-- `local_midnight`. -/
def localMidnight (zone : Zone) (day : Day) : Except StoreError (Moment × WallResolution) :=
  resolveLocalWallTime zone (combine day 0 0)

/-- The `at` of a policy question: the clock reading, a naive or an aware time, or something
that is neither a time nor an ISO text of one. -/
inductive PolicyAt
  | current (instant : ℤ)
  | naive (wall : Wall)
  | aware (instant : ℤ)
  | malformed
  | unsupported
  deriving DecidableEq, Repr

/-- `normalize_policy_datetime`, and the clock where no time is given. -/
def normalizePolicyDatetime (zone : Zone) :
    PolicyAt → Except StoreError (Moment × WallResolution)
  | .current instant =>
    let value := zone.fromutc instant
    .ok (value,
      { requestedLocal := isoMinutes value.wall, resolvedLocal := zone.isoMinutes value,
        adjusted := false, kind := "current", ambiguous := value.fold, nonexistent := false })
  | .naive wall => resolveLocalWallTime zone wall
  | .aware instant =>
    let value := zone.fromutc instant
    .ok (value,
      { requestedLocal := isoMinutes value.wall, resolvedLocal := zone.isoMinutes value,
        adjusted := false, kind := "absolute", ambiguous := value.fold, nonexistent := false })
  | .malformed => .error (.valueError "Policy date/time must be ISO formatted")
  | .unsupported => .error (.valueError "Unsupported policy date/time value")

section FixedOffset
variable {zone : Zone} {offset : ℤ}

/-- No transition of the zone is near the local time. -/
def Zone.FixedAt (zone : Zone) (offset : ℤ) (naive : Wall) : Prop :=
  (∀ fold, zone.utcoffset naive fold=offset) ∧ zone.fromutc (naive-offset)=⟨naive,false⟩

lemma validWallCandidates_fixed {naive : Wall} (h : zone.FixedAt offset naive) :
    validWallCandidates zone naive=[⟨naive,false⟩] := by
  have hinstant : ∀ fold, zone.instant ⟨naive,fold⟩=naive-offset := fun fold => by
    rw [Zone.instant,h.1]
  simp [validWallCandidates,hinstant,h.2]

/-- Away from transitions a local time is what it says. -/
theorem resolveLocalWallTime_fixed {naive : Wall} (h : zone.FixedAt offset naive) :
    ∃ resolution, resolveLocalWallTime zone naive=.ok (⟨naive,false⟩,resolution) := by
  unfold resolveLocalWallTime
  rw [validWallCandidates_fixed h]
  exact ⟨_,rfl⟩

lemma instant_fixed {naive : Wall} (h : zone.FixedAt offset naive) :
    zone.instant ⟨naive,false⟩=naive-offset := by
  rw [Zone.instant,h.1]

end FixedOffset
end ZenControl
