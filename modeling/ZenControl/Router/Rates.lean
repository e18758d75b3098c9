import ZenControl.Library.Decimals
import ZenControl.Text

/-! Bandwidth rates: RouterOS labels such as `128k` or `2M`, read as decimals of 28 digits, and
the `max-limit` of a queue. -/
namespace ZenControl.Router

/-- A non-empty run of decimal digits. -/
def decimalDigits (cs : List Char) : Option ℕ :=
  if cs.isEmpty then none
  else cs.foldl (fun n c => n.bind fun n => (digitValue c).map fun d => 10*n+d) (some 0)

/-- `\d+(?:\.\d+)?` as a coefficient and the number of digits behind the point. -/
def decimalNumber (cs : List Char) : Option (ℕ × ℕ) :=
  match splitChars (fun c => c= '.') cs with
  | [whole] => (decimalDigits whole).map fun n => (n,0)
  | [whole,fraction] =>
    (decimalDigits whole).bind fun _ => (decimalDigits fraction).bind fun _ =>
      (decimalDigits (whole ++ fraction)).map fun n => (n,fraction.length)
  | _ => none

/-- `_RATE_FACTORS`. -/
def rateFactor (suffix : Char) : Option ℕ :=
  match suffix with
  | 'k' | 'K' => some 1000
  | 'm' | 'M' => some 1000000
  | 'g' | 'G' => some 1000000000
  | _ => none

/-- The number of a rate and the factor of its suffix. -/
def rateParts (cs : List Char) : Option ((ℕ × ℕ) × ℕ) :=
  match cs.getLast?.bind rateFactor with
  | some factor => (decimalNumber cs.dropLast).map fun number => (number,factor)
  | none => (decimalNumber cs).map fun number => (number,1)

/-- The default context of `decimal`: 28 digits and exponents from -999999 to 999999. -/
def decimalContext : Decimals.Context := ⟨28,1000026,1000000,by decide⟩

/-- A `BandwidthRateError` with its text, the `Overflow` of a product that has too many digits, or
the `ValueError` of a number that `str` does not print. -/
inductive RateError
  | rate (message : String)
  | overflow
  | digitLimit
  deriving DecidableEq, Repr

def RateError.text : RateError → String
  | rate message => message
  | overflow => "[<class 'decimal.Overflow'>]"
  | digitLimit =>
    "Exceeds the limit (4300 digits) for integer string conversion; use " ++
    "sys.set_int_max_str_digits() to increase the limit"

/-- `parse_rate_bps`. -/
def Rate.parseBps (value : String) : Except RateError ℕ :=
  let raw := strip value
  match rateParts raw.toList with
  | none => .error (.rate
      s!"Invalid bandwidth rate '{raw}'. Use values such as 128k, 2M or 100M.")
  | some ((coefficient,fraction),factor) =>
    if coefficient=0 then .error (.rate "Bandwidth rates must be greater than zero")
    else
      let bps := decimalContext.rounded (coefficient*factor) fraction
      if decimalContext.overflows bps fraction then .error .overflow
      else if bps%10^fraction≠0 then .error (.rate
        s!"Bandwidth rate '{raw}' does not resolve to a whole bit-per-second value")
      else .ok (bps/10^fraction)

/-- `parse_rate_bps`, with its error as a text. -/
def parseRateBps (value : String) : Except String ℕ :=
  (Rate.parseBps value).mapError RateError.text

/-- The unit of the compact label of a rate, with its factor. -/
def labelUnit (bps : ℕ) : String × ℕ :=
  if 1000000000 ≤ bps ∧ bps%1000000000=0 then ("G",1000000000)
  else if 1000000 ≤ bps ∧ bps%1000000=0 then ("M",1000000)
  else if 1000 ≤ bps ∧ bps%1000=0 then ("k",1000)
  else ("",1)

/-- The compact label of a rate. -/
def rateLabel (bps : ℕ) : String := toString (bps/(labelUnit bps).2) ++ (labelUnit bps).1

/-- `normalize_rate`. -/
def Rate.normalize (value : String) : Except RateError String :=
  match Rate.parseBps value with
  | .error e => .error e
  | .ok bps =>
    if 4300<Decimals.digits (bps/(labelUnit bps).2) then .error .digitLimit
    else .ok (rateLabel bps)

/-- `normalize_rate`, with its error as a text. -/
def normalizeRate (value : String) : Except String String :=
  (Rate.normalize value).mapError RateError.text

/-- `build_max_limit`. -/
def buildMaxLimit (upload download : String) : Except String String := do
  let upload ← normalizeRate upload
  let download ← normalizeRate download
  return upload ++ "/" ++ download

/-- `parse_max_limit`. -/
def Rate.parseMaxLimit (value : String) : Except RateError (ℕ × ℕ) :=
  let raw := strip value
  match splitChars (fun c => c= '/') raw.toList with
  | [upload,download] => do
    let upload ← Rate.parseBps (String.ofList upload)
    let download ← Rate.parseBps (String.ofList download)
    return (upload,download)
  | _ => .error (.rate s!"Invalid RouterOS max-limit '{raw}'; expected upload/download")

/-- `parse_max_limit`, with its error as a text. -/
def parseMaxLimit (value : String) : Except String (ℕ × ℕ) :=
  (Rate.parseMaxLimit value).mapError RateError.text

/-- `limits_equal`; an `Overflow` is not caught. -/
def Rate.limitsEqual (left right : Option String) : Except RateError Bool :=
  if left.getD ""="" || right.getD ""="" then .ok (left=right)
  else match Rate.parseMaxLimit (left.getD "") with
    | .error (.rate _) => .ok false
    | .error e => .error e
    | .ok l => match Rate.parseMaxLimit (right.getD "") with
      | .error (.rate _) => .ok false
      | .error e => .error e
      | .ok r => .ok (l=r)

/-- `limits_equal`, where a blank limit stands for none. -/
def limitsEqual (left right : String) : Bool :=
  if left="" || right="" then left=right
  else match parseMaxLimit left, parseMaxLimit right with
    | .ok l, .ok r => l=r
    | _, _ => false

example : normalizeRate "0128.0k" = .ok "128k" := by decide

end ZenControl.Router
