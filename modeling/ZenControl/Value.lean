import ZenControl.Store.ConfigWrite
import Mathlib.Data.List.Sort
import Mathlib.Data.List.Dedup

/-! The dynamically typed values that forms and restored JSON hand to the store, and what the
built-in operations of Python make of them. -/
namespace ZenControl

/-- A float by its text and by the number it stands for, when it is finite. -/
structure PyFloat where
  text : String
  finite : Option (ℤ × ℕ)
  nan : Bool := false
  deriving DecidableEq, Repr

/-- A value of parsed JSON. The keys of an object are distinct. -/
inductive PyVal
  | none
  | bool (b : Bool)
  | int (n : ℤ)
  | float (f : PyFloat)
  | str (s : String)
  | list (items : List PyVal)
  | dict (entries : List (String × PyVal))
  deriving Repr

/-- What the program takes from Python and its environment: the lower case and the case fold
of a text and the text of a container. -/
structure PyRuntime where
  lower : String → String
  lower_ascii : ∀ s : String, (∀ c ∈ s.toList, c.toNat < 128) → lower s=nocase s
  casefold : String → String
  containerText : PyVal → String

lemma nocase_ascii (s : String) (_ : ∀ c ∈ s.toList, c.toNat < 128) : nocase s=nocase s := rfl

abbrev Py := Except StoreError

namespace PyVal

/-- `bool(value)`. -/
def truthy : PyVal → Bool
  | none => false
  | bool b => b
  | int n => n≠0
  | float f => match f.finite with
    | some (n,_) => n≠0
    | Option.none => true
  | str s => s≠""
  | list items => !items.isEmpty
  | dict entries => !entries.isEmpty

/-- `value or default`. -/
def or (value default : PyVal) : PyVal := if value.truthy then value else default

/-- `str(value)`. -/
def text (py : PyRuntime) : PyVal → String
  | none => "None"
  | bool b => if b then "True" else "False"
  | int n => toString n
  | float f => f.text
  | str s => s
  | value => py.containerText value

/-- `str(value or default)`. -/
def textOr (py : PyRuntime) (value : PyVal) (default : String := "") : String :=
  (value.or (.str default)).text py

/-- `int(value)`. -/
def toInt : PyVal → Py ℤ
  | bool b => .ok (if b then 1 else 0)
  | int n => .ok n
  | float f => match f.finite with
    | some (n,d) => .ok (n.tdiv d)
    | Option.none => if f.nan then .error (.valueError "cannot convert float NaN to integer")
      else .error .overflowError
  | str s => match pyInt s with
    | some n => .ok n
    | Option.none => .error (.valueError "invalid literal for int()")
  | _ => .error .typeError

/-- `value == n`. -/
def eqInt (n : ℤ) : PyVal → Bool
  | bool b => n=(if b then 1 else 0)
  | int m => m=n
  | float f => match f.finite with
    | some (m,d) => m=n*d
    | Option.none => false
  | _ => false

/-- `value in (None, "", 0, "0")`. -/
def blank : PyVal → Bool
  | none => true
  | str s => s="" || s="0"
  | value => value.eqInt 0

/-- `value in {...}` for a set of texts; a list or an object cannot be hashed. -/
def inTexts (texts : List String) : PyVal → Py Bool
  | str s => .ok (s ∈ texts)
  | list _ => .error .typeError
  | dict _ => .error .typeError
  | _ => .ok false

/-- A method of `str`. -/
def asText : PyVal → Py String
  | str s => .ok s
  | _ => .error .attributeError

/-- `value.strip()`. -/
def stripped (value : PyVal) : Py String := value.asText.map strip

/-- `for item in value`. -/
def iterate : PyVal → Py (List PyVal)
  | list items => .ok items
  | dict entries => .ok (entries.map fun e => str e.1)
  | str s => .ok (s.toList.map fun c => str (String.ofList [c]))
  | _ => .error .typeError

/-- `value.items()`. -/
def items : PyVal → Py (List (String × PyVal))
  | dict entries => .ok entries
  | _ => .error .attributeError

/-- `value.get(key, default)`. -/
def get (value : PyVal) (key : String) (default : PyVal := none) : Py PyVal :=
  value.items.map fun entries => (entries.lookup key).getD default

/-- `value[key]` of an object. -/
def item (value : PyVal) (key : String) : Py PyVal :=
  match value with
  | dict entries => match entries.lookup key with
    | some v => .ok v
    | Option.none => .error .keyError
  | _ => .error .typeError

def isList : PyVal → Bool
  | list _ => true
  | _ => false

def isDict : PyVal → Bool
  | dict _ => true
  | _ => false

end PyVal

/-- `sorted(set(values))`. -/
def sortedSet (values : List String) : List String :=
  values.dedup.insertionSort fun a b => ¬ b < a

lemma mem_sortedSet {values : List String} {v : String} : v ∈ sortedSet values ↔ v ∈ values := by
  rw [sortedSet,List.mem_insertionSort,List.mem_dedup]

/-- `d[key] = value`. -/
def dictSet {α : Type} (d : List (String × α)) (key : String) (value : α) :
    List (String × α) :=
  if d.any (fun e => e.1=key) then d.map fun e => if e.1=key then (key,value) else e
  else d ++ [(key,value)]

lemma dictSet_fresh {α : Type} {d : List (String × α)} {key : String} (value : α)
    (h : key ∉ d.map Prod.fst) : dictSet d key value=d ++ [(key,value)] := by
  refine if_neg fun hany => h ?_
  obtain ⟨e,he,hkey⟩ := List.any_eq_true.mp hany
  exact List.mem_map.mpr ⟨e,he,of_decide_eq_true hkey⟩

lemma lookup_entry {α : Type} (e : String × α) (d : List (String × α)) (k : String) :
    (e::d).lookup k=if k=e.1 then some e.2 else d.lookup k := by
  rcases e with ⟨a,b⟩
  rw [List.lookup_cons]
  by_cases h : k=a
  · rw [if_pos h,beq_iff_eq.mpr h]
  · rw [if_neg h,beq_eq_false_iff_ne.mpr h]

lemma lookup_dictSet {α : Type} (d : List (String × α)) (key : String) (value : α) (k : String) :
    (dictSet d key value).lookup k=if k=key then some value else d.lookup k := by
  unfold dictSet
  split_ifs with hany hk hk
  · subst hk
    induction d with
    | nil => simp at hany
    | cons e d ih =>
      rw [List.map_cons,lookup_entry]
      by_cases he : e.1=k
      · simp [he]
      · have hany' : (d.any fun e => decide (e.1=k))=true := by simpa [he] using hany
        rw [if_neg he,if_neg fun h => he h.symm]
        exact ih hany'
  · clear hany
    induction d with
    | nil => rfl
    | cons e d ih =>
      rw [List.map_cons,lookup_entry,lookup_entry,ih]
      by_cases he : e.1=key
      · simp [he,hk]
      · rw [if_neg he]
  · subst hk
    have hnone : d.lookup k=none := by
      rw [List.lookup_eq_none_iff]
      simp only [List.any_eq_true,decide_eq_true_eq,not_exists,not_and] at hany
      exact fun e he => bne_iff_ne.mpr fun h => hany e he h.symm
    rw [List.lookup_append,hnone,lookup_entry,if_pos rfl]
    rfl
  · rw [List.lookup_append,lookup_entry,if_neg hk,List.lookup_nil,Option.or_none]

/-- The entries of a dictionary are found under their keys. -/
lemma lookup_of_mem {α : Type} {d : List (String × α)} (h : (d.map Prod.fst).Nodup)
    {key : String} {value : α} : (key,value) ∈ d ↔ d.lookup key=some value := by
  induction d with
  | nil => simp
  | cons e d ih =>
    obtain ⟨hnew,hrest⟩ := List.nodup_cons.mp h
    rw [lookup_entry,List.mem_cons]
    by_cases hkey : key=e.1
    · rw [if_pos hkey]
      constructor
      · rintro (rfl | hin)
        · rfl
        · exact absurd (hkey ▸ List.mem_map_of_mem hin) hnew
      · intro hvalue
        exact .inl (Prod.ext hkey (Option.some.inj hvalue).symm)
    · rw [if_neg hkey,← ih hrest]
      exact or_iff_right fun heq => hkey (congrArg Prod.fst heq)

end ZenControl
