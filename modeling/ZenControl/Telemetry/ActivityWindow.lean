import ZenControl.Policy.Catalog

/-! The window of an activity report: a preset or a range of days, read in the household timezone,
with the window of the same length before it. -/
namespace ZenControl.Telemetry

/-- The rounded figures of a report, from times in microseconds: hours in hundredths, minutes and
percentages in tenths. -/
structure Rounding where
  hours : ℤ → ℤ
  minutes : ℤ → ℤ
  percent : ℤ → ℤ → ℤ

section Dates

/-- `%Y`: four digits. -/
def yearValue (digits : List Char) : Option ℤ :=
  (digits.mapM digitValue).map fun ds => ((ds.foldl (fun n d => 10*n+d) 0 : ℕ) : ℤ)

/-- A digit that is not zero. -/
def positiveDigit (c : Char) : Option ℤ :=
  if '1' ≤ c && c ≤ '9' then some ((c.toNat-48 : ℕ) : ℤ) else none

/-- `%m` up to the hyphen, and what follows it. -/
def monthValue : List Char → Option (ℤ × List Char)
  | '1' :: c :: '-' :: rest =>
    if '0' ≤ c && c ≤ '2' then some (10+((c.toNat-48 : ℕ) : ℤ),rest) else none
  | '0' :: c :: '-' :: rest => (positiveDigit c).map fun n => (n,rest)
  | c :: '-' :: rest => (positiveDigit c).map fun n => (n,rest)
  | _ => none

/-- `%d` to the end of the text. -/
def dayValue : List Char → Option ℤ
  | ['3',c] => if c= '0' then some 30 else if c= '1' then some 31 else none
  | ['1',c] => (digitValue c).map fun n => 10+(n : ℤ)
  | ['2',c] => (digitValue c).map fun n => 20+(n : ℤ)
  | ['0',c] => positiveDigit c
  | [' ',c] => positiveDigit c
  | [c] => positiveDigit c
  | _ => none

/-- `datetime.strptime(text, "%Y-%m-%d").date()`. -/
def strptimeDay (text : String) : Option Day :=
  match text.toList with
  | a :: b :: c :: d :: '-' :: rest =>
    (yearValue [a,b,c,d]).bind fun year => (monthValue rest).bind fun month =>
      (dayValue month.2).bind fun day =>
        if 1 ≤ year ∧ day ≤ daysInMonth year month.1 then some (ordinal year month.1 day) else none
  | _ => none

example : strptimeDay "2024-2-29"=fromIsoformat "2024-02-29" := by decide

/-- `_parse_iso_date`. -/
def parseIsoDate (value : String) : Py (Option Day) :=
  let value := strip value
  if value="" then .ok none
  else match strptimeDay value with
    | none => .error (.valueError "Dates must use YYYY-MM-DD")
    | some day => .ok (some day)

/-- The days of a custom range. -/
def customDays (start stop : String) : Py (Day × Day) := do
  let startDay ← parseIsoDate start
  let stopDay ← parseIsoDate stop
  match startDay, stopDay with
  | some startDay, some stopDay =>
    if stopDay < startDay then
      .error (.valueError "Custom activity end date cannot be before the start date")
    else if 30 < stopDay-startDay then
      .error (.valueError "Custom activity ranges are limited to 31 days")
    else .ok (startDay,stopDay)
  | _, _ => .error (.valueError "Custom activity range requires start and end dates")

end Dates

section Windows

/-- What `resolve_activity_window` returns, with instants for its UTC times. -/
structure ActivityWindow where
  preset : String
  label : String
  timezone : String
  start : ℤ
  stop : ℤ
  previousStart : ℤ
  previousStop : ℤ
  startDate : String
  endDate : String
  durationHours : ℤ
  deriving DecidableEq, Repr

/-- The local times at which a window begins and ends, and its label. -/
def windowBounds (zone : Zone) (localNow : Moment) (preset start stop : String) :
    Py (Moment × Moment × String) :=
  let today := localNow.day
  if preset="custom" then do
    let (startDay,stopDay) ← customDays start stop
    let (startLocal,_) ← localMidnight zone startDay
    let (stopLocal,_) ← localMidnight zone (stopDay+1)
    pure (startLocal,stopLocal,isoDay startDay ++ " to " ++ isoDay stopDay)
  else if preset="today" then do
    let (startLocal,_) ← localMidnight zone today
    pure (startLocal,localNow,"Today")
  else if preset="yesterday" then do
    let (stopLocal,_) ← localMidnight zone today
    let (startLocal,_) ← localMidnight zone (today-1)
    pure (startLocal,stopLocal,"Yesterday")
  else if preset="7d" || preset="30d" then do
    let days : ℤ := if preset="7d" then 7 else 30
    let (startLocal,_) ← localMidnight zone (today-(days-1))
    pure (startLocal,localNow,s!"Last {days} days")
  else .error (.valueError "Activity period must be today, yesterday, 7d, 30d or custom")

variable (rt : Runtime) (rounding : Rounding) (now : ℤ)

/-- `resolve_activity_window`. -/
def resolveActivityWindow (preset timezoneName start stop : String) : Py ActivityWindow :=
  match rt.zone (orElse timezoneName "Europe/London") with
  | none => .error (.valueError s!"Unknown timezone: {timezoneName}")
  | some zone => do
    let preset := rt.lower (strip (orElse preset "7d"))
    let (startLocal,stopLocal,label) ← windowBounds zone (zone.fromutc now) preset start stop
    let duration := zone.instant stopLocal-zone.instant startLocal
    pure
      { preset := preset, label := label, timezone := zone.key
        start := zone.instant startLocal, stop := zone.instant stopLocal
        previousStart := zone.instant startLocal-duration
        previousStop := zone.instant startLocal
        startDate := isoDay startLocal.day, endDate := isoDay ((stopLocal.wall-1)/dayUs)
        durationHours := rounding.hours duration }

end Windows
end ZenControl.Telemetry
