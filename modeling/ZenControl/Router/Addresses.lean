import ZenControl.Lines
import ZenControl.Router.System

/-! The IPv4 addresses of managed devices and the names that RouterOS resources carry for them. -/
namespace ZenControl.Router

/-- A decimal octet as `ipaddress` accepts it: ASCII digits without a leading zero, up to 255. -/
def isOctet (cs : List Char) : Bool :=
  !cs.isEmpty && cs.length ≤ 3 && cs.all (fun c => '0' ≤ c && c ≤ '9') &&
    (cs.length=1 || cs.head?≠some '0') && (naturalValue cs).any fun n => n ≤ 255

/-- Whether `ipaddress.ip_address` reads a text as an IPv4 address. -/
def isIpv4 (text : String) : Bool :=
  let parts := text.toList.splitOn '.'
  parts.length=4 && parts.all isOctet

/-- An address that `_validate_ipv4` returned. -/
structure Ipv4 where
  text : String
  valid : isIpv4 text
  deriving DecidableEq

section Octets
variable {c : Char} {part : List Char}

lemma isOctet_digits (h : isOctet part) :
    0 < part.length ∧ part.length ≤ 3 ∧ ∀ c ∈ part, c.isDigit := by
  simp only [isOctet,Bool.and_eq_true,Bool.not_eq_true',List.isEmpty_eq_false_iff,
    decide_eq_true_eq,List.all_eq_true] at h
  refine ⟨List.length_pos_iff.mpr h.1.1.1.1,h.1.1.1.2,fun c hc => ?_⟩
  simpa [Char.isDigit,Char.le_def] using h.1.1.2 c hc

namespace Ipv4
variable (address : Ipv4)

def octets : List (List Char) := splitChars (fun c => c= '.') address.text.toList

lemma octets_valid : address.octets.length=4 ∧ ∀ part ∈ address.octets, isOctet part := by
  have hvalid := address.valid
  simp only [isIpv4,← splitChars_eq_splitOn,Bool.and_eq_true,decide_eq_true_eq,
    List.all_eq_true] at hvalid
  exact hvalid

/-- An address consists of digits and dots. -/
lemma mem_text (hc : c ∈ address.text.toList) : c= '.' ∨ c.isDigit := by
  rcases @mem_of_mem_splitChars (fun c => c= '.') _ c hc with hdot | ⟨part,hpart,hc⟩
  · exact .inl (of_decide_eq_true hdot)
  · exact .inr ((isOctet_digits (address.octets_valid.2 part hpart)).2.2 c hc)

lemma text_ne_nil : address.text.toList≠[] := by
  intro hnil
  have hlength := address.octets_valid.1
  rw [octets,hnil] at hlength
  cases hlength

end Ipv4
end Octets

/-- What the adapter takes from its environment: the texts that `ipaddress` reads as IPv6
addresses and `MIKROTIK_DEVICE_SLOW_LIMIT`. -/
structure Environment where
  isIpv6 : String → Bool := fun _ => false
  deviceSlowLimit : String := "128k/256k"

/-- `_validate_ipv4`. -/
def validateIpv4 (env : Environment) (address : String) : Except Failure Ipv4 :=
  if h : isIpv4 (strip address) then .ok ⟨strip address,h⟩
  else if env.isIpv6 (strip address) then
    .error (.router "Only IPv4 restricted devices are supported for now")
  else .error (.router s!"Invalid IP address: {address}")

/-- `address.replace(".", "-")`. -/
def Ipv4.dashed (address : Ipv4) : String :=
  String.ofList (address.text.toList.map fun c => if c= '.' then '-' else c)

def restrictedList : String := "Restricted_Devices"
def deviceBlockList : String := "MC_Mode_Blocked"
def deviceSlowList : String := "MC_Mode_Slow"
def deviceBlockRuleComment : String := "MC - Per Device Block"
def masterRuleComment : String := "MASTER - Block Restricted Internet"
def slowQueueName : String := "Restricted Slow Internet"

namespace Ipv4
variable (address : Ipv4)

/-- `_device_slow_queue_name`. -/
def deviceSlowQueueName : String := "MC-SLOW-" ++ address.dashed

/-- `_device_bandwidth_queue_name`. -/
def deviceBandwidthQueueName : String := "MC-BW-" ++ address.dashed

/-- `_device_temp_scheduler_name`. -/
def deviceTempSchedulerName : String := "MC-TEMP-DEV-" ++ address.dashed

/-- `_device_temp_script_name`. -/
def deviceTempScriptName : String := "MC-TEMP-RESTORE-DEV-" ++ address.dashed

end Ipv4
end ZenControl.Router
