import ZenControl.Value
import ZenControl.Library.Occurrences

/-! `str.lower` over Unicode's tables: every character has its own lower case, except that a
capital sigma at the end of a word becomes a final one. -/
namespace ZenControl
open Occurrences

/-- What Unicode's tables say about single characters. -/
structure CharTables where
  lowerChar : Char → List Char
  cased : Char → Bool
  ignorable : Char → Bool
  /-- The characters that `\w` matches. -/
  word : Char → Bool
  lowerChar_ascii : ∀ c, c.toNat < 128 → lowerChar c=[c.toLower]
  lowerChar_ne_nil : ∀ c, lowerChar c≠[]
  /-- The lower case of a character outside ASCII may have an ASCII letter, as that of the Kelvin
  sign. -/
  lowerChar_other : ∀ c, 128 ≤ c.toNat → ∀ d ∈ lowerChar c, 97 ≤ d.toNat
  cased_space : cased ' ' = false
  ignorable_space : ignorable ' ' = false
  word_ascii : ∀ c, c.toNat < 128 → word c=(c.isAlphanum || c= '_')

namespace CharTables
variable (t : CharTables)

/-- A letter, apart from characters without a case of their own, comes next. -/
def casedNext (text : List Char) : Bool := (text.dropWhile t.ignorable).head?.any t.cased

/-- A capital sigma ends a word. -/
def finalSigma (before after : List Char) : Bool := t.casedNext before && !t.casedNext after

/-- The lower case of a character between what stands before it, the nearest first, and what
stands after it. -/
def lowerAt (before : List Char) (c : Char) (after : List Char) : List Char :=
  if c= 'Σ' then [if t.finalSigma before after then 'ς' else 'σ'] else t.lowerChar c

/-- The characters of `text.lower()`. -/
def lowerChars (text : List Char) : List Char := respell t.lowerAt [] text

/-- `text.lower()`. -/
def lower (text : String) : String := String.ofList (t.lowerChars text.toList)

@[simp] lemma toList_lower (text : String) : (t.lower text).toList=t.lowerChars text.toList :=
  String.toList_ofList

lemma lowerAt_ascii {c : Char} (h : c.toNat < 128) (before after : List Char) :
    t.lowerAt before c after=[c.toLower] := by
  have hsigma : ¬c= 'Σ' := by
    rintro rfl
    exact absurd h (by decide)
  rw [lowerAt,if_neg hsigma,t.lowerChar_ascii c h]

lemma lower_ascii (s : String) (h : ∀ c ∈ s.toList, c.toNat < 128) : t.lower s=nocase s := by
  have hchars (text before : List Char) (h : ∀ c ∈ text, c.toNat < 128) :
      respell t.lowerAt before text=text.map Char.toLower := by
    induction text generalizing before with
    | nil => rfl
    | cons c text ih =>
      rw [respell,t.lowerAt_ascii (h c List.mem_cons_self),
        ih _ fun d hd => h d (List.mem_cons_of_mem _ hd),List.map_cons,List.singleton_append]
  exact congrArg String.ofList (hchars s.toList [] h)

lemma casedNext_space (text rest : List Char) :
    t.casedNext (text ++ ' ' :: rest)=t.casedNext text := by
  unfold casedNext
  rw [List.dropWhile_append]
  cases htext : text.dropWhile t.ignorable with
  | nil =>
    rw [List.isEmpty_nil,if_pos rfl,List.dropWhile_cons_of_neg (by simp [t.ignorable_space])]
    simp [t.cased_space]
  | cons c cs => rfl

lemma lowerAt_space (before : List Char) (c : Char) (after front back : List Char) :
    t.lowerAt (before ++ ' ' :: front) c after=t.lowerAt before c after ∧
      t.lowerAt before c (after ++ ' ' :: back)=t.lowerAt before c after := by
  unfold lowerAt finalSigma
  rw [casedNext_space,casedNext_space]
  exact ⟨rfl,rfl⟩

/-- No word reaches over a blank. -/
lemma lowerChars_space (front back : List Char) :
    t.lowerChars (front ++ ' ' :: back)=t.lowerChars front ++ ' ' :: t.lowerChars back := by
  have hfront : respell (fun b c a => t.lowerAt b c (a ++ ' ' :: back)) [] front=
      respell t.lowerAt [] front :=
    respell_congr fun earlier c later _ => (t.lowerAt_space _ c later [] back).2
  have hback (text before : List Char) : respell t.lowerAt (before ++ ' ' :: front.reverse) text=
      respell t.lowerAt before text := by
    induction text generalizing before with
    | nil => rfl
    | cons c text ih =>
      rw [respell,respell,(t.lowerAt_space before c text front.reverse []).1,
        ← List.cons_append,ih]
  unfold lowerChars
  rw [respell_append,hfront,List.append_nil,respell,t.lowerAt_ascii (by decide),
    show Char.toLower ' ' = ' ' from rfl,List.singleton_append]
  exact congrArg (fun cs => _ ++ ' ' :: cs) (hback back [])

lemma lowerChars_joined {texts : List (List Char)} :
    t.lowerChars (joined ' ' texts)=joined ' ' (texts.map t.lowerChars) := by
  induction texts with
  | nil => rfl
  | cons text texts ih =>
    by_cases hnil : texts=[]
    · subst hnil
      rw [List.map_singleton,joined,joined,List.intercalate_singleton,List.intercalate_singleton]
    · rw [joined_cons text hnil,List.map_cons,joined_cons _ (by simpa using hnil),← ih,
        lowerChars_space]

/-- The characters before the letters stay as they are, and no other character becomes one of
them. -/
lemma lowerAt_keeps : Keeps t.lowerAt fun c => c.toNat < 65 where
  kept := by
    intro before c after hc
    have hlower : c.toLower=c := by
      apply Char.toNat_inj.mp
      rw [toNat_toLower,if_neg (by omega)]
    rw [t.lowerAt_ascii (by omega),hlower]
  nonempty := by
    intro before c after
    unfold lowerAt
    split_ifs
    · exact List.cons_ne_nil _ _
    · exact List.cons_ne_nil _ _
    · exact t.lowerChar_ne_nil c
  fresh := by
    intro before c after hc d hd
    by_cases hascii : c.toNat < 128
    · rw [t.lowerAt_ascii hascii,List.mem_singleton] at hd
      rw [hd,toNat_toLower]
      split_ifs <;> omega
    · unfold lowerAt at hd
      split_ifs at hd
      · rw [List.mem_singleton.mp hd]
        decide
      · rw [List.mem_singleton.mp hd]
        decide
      · have := t.lowerChar_other c (by omega) d hd
        omega

end CharTables

/-- Python over some tables. -/
structure TextRuntime extends PyRuntime where
  tables : CharTables
  lower_tables : lower=tables.lower

end ZenControl
