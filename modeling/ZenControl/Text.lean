import Mathlib.Data.List.TakeWhile
import Mathlib.Tactic.Common
import Mathlib.Data.Int.Notation
import Mathlib.Data.Nat.Notation

/-! The text operations of Python's strings that the program relies on. Strings are
sequences of code points on both sides, so lengths and slices agree. -/
namespace ZenControl

/-- The characters that `str.strip` removes. -/
def isSpace (c : Char) : Bool :=
  let n := c.toNat
  (0x09 ≤ n && n ≤ 0x0D) || (0x1C ≤ n && n ≤ 0x20) || n = 0x85 || n = 0xA0 || n = 0x1680 ||
    (0x2000 ≤ n && n ≤ 0x200A) || n = 0x2028 || n = 0x2029 || n = 0x202F || n = 0x205F ||
    n = 0x3000

/-- `str.strip()`. -/
def strip (s : String) : String :=
  String.ofList ((s.toList.dropWhile isSpace).reverse.dropWhile isSpace).reverse

/-- The lower case of ASCII letters only, which is also the key of `COLLATE NOCASE`. -/
def nocase (s : String) : String := String.ofList (s.toList.map Char.toLower)

/-- The upper case of a text of ASCII letters. -/
def upper (s : String) : String := String.ofList (s.toList.map Char.toUpper)

/-- `s[:n]`. -/
def clip (s : String) (n : ℕ) : String := String.ofList (s.toList.take n)

/-- `str(value or default)` on a string. -/
def orElse (value default : String) : String := if value="" then default else value

/-- The zeros of the decimal digit blocks of Unicode, each followed by its other nine. -/
def zeroDigits : List ℕ :=
  [0x30,0x660,0x6F0,0x7C0,0x966,0x9E6,0xA66,0xAE6,0xB66,0xBE6,0xC66,0xCE6,0xD66,0xDE6,0xE50,
   0xED0,0xF20,0x1040,0x1090,0x17E0,0x1810,0x1946,0x19D0,0x1A80,0x1A90,0x1B50,0x1BB0,0x1C40,
   0x1C50,0xA620,0xA8D0,0xA900,0xA9D0,0xA9F0,0xAA50,0xABF0,0xFF10,0x104A0,0x10D30,0x11066,
   0x110F0,0x11136,0x111D0,0x112F0,0x11450,0x114D0,0x11650,0x116C0,0x11730,0x118E0,0x11950,
   0x11C50,0x11D50,0x11DA0,0x16A60,0x16AC0,0x16B50,0x1D7CE,0x1D7D8,0x1D7E2,0x1D7EC,0x1D7F6,
   0x1E140,0x1E2F0,0x1E950,0x1FBF0]

/-- The value of a character that `\d` matches. -/
def digitValue (c : Char) : Option ℕ :=
  (zeroDigits.find? fun z => z ≤ c.toNat && c.toNat < z+10).map fun z => c.toNat-z

/-- Digits that may be separated by single underscores, read on from `acc`. -/
def digitsValue (acc : ℕ) : List Char → Option ℕ
  | [] => some acc
  | '_'::c::cs => (digitValue c).bind fun d => digitsValue (10*acc+d) cs
  | c::cs => (digitValue c).bind fun d => digitsValue (10*acc+d) cs

/-- A non-empty run of digits that starts with one. -/
def naturalValue : List Char → Option ℕ
  | [] => none
  | c::cs => (digitValue c).bind fun d => digitsValue d cs

/-- `int(text)`. -/
def pyInt (text : String) : Option ℤ :=
  match (strip text).toList with
  | '-'::cs => (naturalValue cs).map fun n => -(n : ℤ)
  | '+'::cs => (naturalValue cs).map fun n => (n : ℤ)
  | cs => (naturalValue cs).map fun n => (n : ℤ)

/-- `text.split(sep, 1)` in two; there is no second part without a separator. -/
def cutAt (sep : Char) (text : String) : Option (String × String) :=
  let cs := text.toList
  match cs.dropWhile (· ≠ sep) with
  | [] => none
  | _::rest => some (String.ofList (cs.takeWhile (· ≠ sep)),String.ofList rest)

/-- Text split at every separator. -/
def splitChars (sep : Char → Bool) : List Char → List (List Char)
  | [] => [[]]
  | c::cs =>
    if sep c then []::splitChars sep cs
    else match splitChars sep cs with
      | [] => [[c]]
      | part::parts => (c::part)::parts

/-- A number below a bound. -/
def finOf (bound n : ℕ) : Option (Fin bound) :=
  if h : n < bound then some ⟨n,h⟩ else none

/-- The pattern `(?:[01]\d|2[0-3]):[0-5]\d`. -/
def isClock (text : String) : Bool :=
  match text.toList with
  | [a,b,':',c,d] =>
    (((a= '0' || a= '1') && (digitValue b).isSome) || (a= '2' && '0' ≤ b && b ≤ '3')) &&
      '0' ≤ c && c ≤ '5' && (digitValue d).isSome
  | _ => false

/-- The pattern `\d{4}-\d{2}-\d{2}`. -/
def isDateText (text : String) : Bool :=
  match text.toList with
  | [a,b,c,d,'-',e,f,'-',g,h] => [a,b,c,d,e,f,g,h].all fun x => (digitValue x).isSome
  | _ => false

example : pyInt " -1_05 " = some (-105) := by decide

lemma clip_of_length_le {s : String} {n : ℕ} (h : s.length ≤ n) : clip s n=s := by
  unfold clip
  rw [List.take_of_length_le (String.length_toList ▸ h),String.ofList_toList]

lemma clip_length_le (s : String) (n : ℕ) : (clip s n).length ≤ n := by
  rw [clip,String.length_ofList]
  exact List.length_take_le n s.toList

lemma clip_eq_self_of_lt {s : String} {n : ℕ} (h : (clip s n).length < n) : clip s n=s := by
  refine clip_of_length_le ?_
  rw [clip,String.length_ofList,List.length_take,String.length_toList] at h
  omega

/-- A text without a space at its ends is what `strip` leaves. -/
lemma strip_eq_self {s : String} (hfirst : ∀ c ∈ s.toList.head?, isSpace c=false)
    (hlast : ∀ c ∈ s.toList.getLast?, isSpace c=false) : strip s=s := by
  have drop (cs : List Char) (h : ∀ c ∈ cs.head?, isSpace c=false) :
      cs.dropWhile isSpace=cs := by
    cases cs with
    | nil => rfl
    | cons c cs => rw [List.dropWhile_cons_of_neg (by simpa using h c rfl)]
  unfold strip
  rw [drop _ hfirst,drop _ (by simpa using hlast),List.reverse_reverse,String.ofList_toList]

lemma strip_getLast (s : String) : ∀ c ∈ (strip s).toList.getLast?, isSpace c=false := by
  intro c hc
  simp only [strip,String.toList_ofList,List.getLast?_reverse] at hc
  have hhead := List.head?_dropWhile_not isSpace
    (s.toList.dropWhile isSpace).reverse
  rw [hc] at hhead
  simpa using hhead

lemma strip_head (s : String) : ∀ c ∈ (strip s).toList.head?, isSpace c=false := by
  intro c hc
  have hprefix : (strip s).toList <+: s.toList.dropWhile isSpace := by
    rw [strip,String.toList_ofList]
    refine List.reverse_suffix.mp ?_
    rw [List.reverse_reverse]
    exact List.dropWhile_suffix _
  have hhead := List.head?_dropWhile_not isSpace s.toList
  obtain ⟨rest,hrest⟩ := hprefix
  rw [← hrest] at hhead
  cases hlist : (strip s).toList with
  | nil => rw [hlist] at hc; cases hc
  | cons d ds =>
    rw [hlist] at hc hhead
    obtain rfl : d=c := Option.some.inj hc
    simpa using hhead

lemma strip_strip (s : String) : strip (strip s)=strip s :=
  strip_eq_self (strip_head s) (strip_getLast s)

lemma nat_repr_injective {m n : ℕ} (h : m.repr=n.repr) : m=n := by
  have hd : Nat.toDigits 10 m=Nat.toDigits 10 n := by
    rw [← Nat.toList_repr,← Nat.toList_repr,h]
  rw [← Nat.ofDigitChars_ten_toDigits (n:=m),hd,Nat.ofDigitChars_ten_toDigits]

lemma nat_repr_ne_neg (m : ℕ) (s : String) : m.repr≠"-" ++ s := by
  intro h
  have hd : '-' ∈ m.repr.toList := by rw [h]; simp
  rw [Nat.toList_repr] at hd
  exact absurd (Nat.isDigit_of_mem_toDigits (by omega) (by omega) hd) (by decide)

lemma int_repr_injective {m n : ℤ} (h : toString m=toString n) : m=n := by
  simp only [Int.toString_eq_repr,Int.repr_eq_if] at h
  split_ifs at h
  · have := nat_repr_injective h
    omega
  · exact (nat_repr_ne_neg _ _ h).elim
  · exact (nat_repr_ne_neg _ _ h.symm).elim
  · have := nat_repr_injective (String.append_right_inj _ |>.mp h)
    omega

lemma strip_ne_empty {s : String} {c : Char} (h : c ∈ s.toList) (hc : isSpace c=false) :
    strip s≠"" := by
  intro hempty
  have hlist : ((s.toList.dropWhile isSpace).reverse.dropWhile isSpace).reverse=[] := by
    have htext := congrArg String.toList hempty
    simpa only [strip,String.toList_ofList,String.toList_empty] using htext
  have hrest : ∀ d ∈ s.toList.dropWhile isSpace, isSpace d := by
    intro d hd
    exact List.dropWhile_eq_nil_iff.mp (List.reverse_eq_nil_iff.mp hlist) d
      (List.mem_reverse.mpr hd)
  have hnil : s.toList.dropWhile isSpace=[] := by
    cases hd : s.toList.dropWhile isSpace with
    | nil => rfl
    | cons d ds =>
      have hhead := List.head_dropWhile_not isSpace (l:=s.toList) (by simp [hd])
      simp only [hd,List.head_cons] at hhead
      rw [hrest d (by simp [hd])] at hhead
      cases hhead
  have hspace := List.dropWhile_eq_nil_iff.mp hnil c h
  rw [hc] at hspace
  cases hspace

lemma clip_ne_empty {s : String} {n : ℕ} (h : s≠"") (hn : n≠0) : clip s n≠"" := by
  intro hempty
  have htake : s.toList.take n=[] := by
    have htext := congrArg String.toList hempty
    simpa only [clip,String.toList_ofList,String.toList_empty] using htext
  rcases List.take_eq_nil_iff.mp htake with hzero | hnil
  · exact hn hzero
  · exact h (String.toList_injective hnil)

lemma toNat_toLower (c : Char) :
    c.toLower.toNat=if 65 ≤ c.toNat ∧ c.toNat ≤ 90 then c.toNat+32 else c.toNat := by
  unfold Char.toLower
  split
  · rename_i hupper
    simp only [ge_iff_le,UInt32.le_iff_toNat_le] at hupper
    have hrange : 65 ≤ c.toNat ∧ c.toNat ≤ 90 := hupper
    rw [if_pos hrange]
    change (c.val+( 'a'.val - 'A'.val)).toNat=c.toNat+32
    rw [UInt32.toNat_add,show ( 'a'.val - 'A'.val).toNat=32 from rfl]
    change (c.toNat+32)%2^32=c.toNat+32
    exact Nat.mod_eq_of_lt (by omega)
  · rename_i hupper
    refine (if_neg fun hrange => hupper ?_).symm
    simp only [ge_iff_le,UInt32.le_iff_toNat_le]
    exact hrange

lemma toLower_toLower (c : Char) : c.toLower.toLower=c.toLower := by
  refine Char.toNat_inj.mp ?_
  rw [toNat_toLower c.toLower,toNat_toLower]
  split_ifs <;> omega

/-- No letter of either case is a space. -/
lemma isSpace_letter {c : Char} (h : 65 ≤ c.toNat ∧ c.toNat ≤ 122) : isSpace c=false := by
  simp only [isSpace,Bool.or_eq_false_iff,Bool.and_eq_false_iff,decide_eq_false_iff_not]
  omega

lemma isSpace_toLower (c : Char) : isSpace c.toLower=isSpace c := by
  have hnat := toNat_toLower c
  split_ifs at hnat with hupper
  · rw [isSpace_letter (by omega),isSpace_letter (by omega)]
  · rw [Char.toNat_inj.mp hnat]

lemma nocase_nocase (s : String) : nocase (nocase s)=nocase s := by
  unfold nocase
  rw [String.toList_ofList,List.map_map]
  exact congrArg String.ofList (List.map_congr_left fun c _ => toLower_toLower c)

lemma strip_nocase (s : String) : strip (nocase s)=nocase (strip s) := by
  have hspace : isSpace ∘ Char.toLower=isSpace := funext isSpace_toLower
  unfold strip nocase
  simp only [String.toList_ofList,List.dropWhile_map,← List.map_reverse,hspace]

end ZenControl
