import ZenControl.PolicyHistory.Checkpoints

/-! `build_policy_intervals`: checkpoints in their order are turned into consecutive intervals
of a report window, each with the state in force or with the reason of a gap. -/
namespace ZenControl.PolicyHistory

inductive GapReason
  | identityUnproven | policyUnobserved
  deriving DecidableEq, Repr

/-- An interval of a report; `state` is there exactly when it is known. -/
structure PolicyInterval where
  start : ℤ
  stop : ℤ
  identityKnown : Bool := true
  gapReason : Option GapReason := none
  state : Option Checkpoint := none

/-- What the reports of two histories are compared by. -/
structure IntervalView where
  start : ℤ
  stop : ℤ
  known : Bool
  stateHash : String
  deriving DecidableEq, Repr

def PolicyInterval.view (i : PolicyInterval) : IntervalView where
  start := i.start
  stop := i.stop
  known := i.state.isSome
  stateHash := (i.state.map Checkpoint.stateHash).getD ""

/-- The instant of a stored checkpoint. -/
def Checkpoint.instant (r : Checkpoint) : ℤ := r.capturedAt*microsecond

/-- The loop over the changes inside the window, and the interval after the last one. -/
def intervalsFrom (cursor stop : ℤ) (active : Checkpoint) : List Checkpoint → List PolicyInterval
  | [] => if cursor < stop then [{ start := cursor, stop := stop, state := some active }] else []
  | change::changes =>
    if cursor < change.instant then
      { start := cursor, stop := change.instant, state := some active }::
        intervalsFrom change.instant stop change changes
    else intervalsFrom change.instant stop change changes

/-- The intervals from the start of the observed policy on. -/
def policyIntervals (policyStart stop : ℤ) (ordered : List Checkpoint) : List PolicyInterval :=
  let before := ordered.filter fun r => r.instant ≤ policyStart
  let inside := ordered.filter fun r => policyStart < r.instant && r.instant < stop
  match before.getLast?, inside with
  | some active, inside => intervalsFrom policyStart stop active inside
  | none, [] =>
    [{ start := policyStart, stop := stop, gapReason := some .policyUnobserved }]
  | none, first::inside =>
    (if policyStart < first.instant then
      [{ start := policyStart, stop := first.instant, gapReason := some .policyUnobserved }]
    else []) ++ intervalsFrom first.instant stop first inside

/-- `build_policy_intervals`. -/
def buildPolicyIntervals (history : List (ℕ × Checkpoint)) (start stop : ℤ)
    (identityStart : Option ℤ) : Py (List PolicyInterval) :=
  if stop ≤ start then .error (.valueError "Policy correlation end must be after start")
  else
    let ordered := (history.mergeSort byInstant).map Prod.snd
    match identityStart.filter fun t => start < t with
    | none => .ok (policyIntervals start stop ordered)
    | some identityStart =>
      let gap : PolicyInterval :=
        { start := start, stop := min identityStart stop, identityKnown := false,
          gapReason := some .identityUnproven }
      if stop ≤ identityStart then .ok [gap]
      else .ok (gap::policyIntervals identityStart stop ordered)

end ZenControl.PolicyHistory
