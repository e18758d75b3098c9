import Mathlib.Data.List.Infix
import Mathlib.Data.List.Basic
import Mathlib.Tactic.Common
import Mathlib.Data.Nat.Notation

/-! Where a part occurs in a text, what stands around it there, and what joining texts and
replacing their elements one by one does to its occurrences. -/
namespace Occurrences
variable {α β : Type}

section Around
variable {part text : List α} {P Q : List α → List α → Prop}

/-- Some occurrence of a part in a text has the given kind of text before and after it. -/
def OccursWhere (part text : List α) (P : List α → List α → Prop) : Prop :=
  ∃ before after, text=before ++ part ++ after ∧ P before after

lemma OccursWhere.occurs (h : OccursWhere part text P) : part <:+: text := by
  obtain ⟨before,after,rfl,_⟩ := h
  exact List.infix_append before part after

lemma occursWhere_or_not (P : List α → List α → Prop) (h : part <:+: text) :
    OccursWhere part text P ∨ OccursWhere part text fun before after => ¬P before after := by
  obtain ⟨before,after,htext⟩ := h
  by_cases hP : P before after
  · exact .inl ⟨before,after,htext.symm,hP⟩
  · exact .inr ⟨before,after,htext.symm,hP⟩

/-- The occurrences of a part are among the places where the text could be cut. -/
lemma occursWhere_iff_take :
    OccursWhere part text P ↔ ∃ i < text.length+1,
      part <+: text.drop i ∧ P (text.take i) (text.drop (i+part.length)) := by
  constructor
  · rintro ⟨before,after,rfl,hP⟩
    refine ⟨before.length,?_,?_,?_⟩
    · simp only [List.length_append]
      omega
    · rw [List.append_assoc,List.drop_left]
      exact List.prefix_append part after
    · rw [← List.length_append,List.drop_left,List.append_assoc,List.take_left]
      exact hP
  · rintro ⟨i,_,⟨after,hafter⟩,hP⟩
    refine ⟨text.take i,after,?_,?_⟩
    · rw [List.append_assoc,hafter,List.take_append_drop]
    · rw [← List.drop_drop,← hafter,List.drop_left] at hP
      exact hP

instance [DecidableEq α] [∀ before after, Decidable (P before after)] :
    Decidable (OccursWhere part text P) :=
  decidable_of_iff _ occursWhere_iff_take.symm

end Around

section Joined
variable {sep : α} {part : List α}

/-- Texts joined by a separator. -/
abbrev joined (sep : α) (texts : List (List α)) : List α := [sep].intercalate texts

/-- An occurrence in the joined texts that runs over a border between two of them. -/
def Crosses (sep : α) (part : List α) (texts : List (List α)) : Prop :=
  ∃ earlier later front back, texts=earlier ++ later ∧ earlier≠[] ∧ later≠[] ∧
    part=front ++ sep::back ∧ front <:+ joined sep earlier ∧ back <+: joined sep later

lemma joined_cons (text : List α) {texts : List (List α)} (h : texts≠[]) :
    joined sep (text::texts)=text ++ sep::joined sep texts := by
  rw [joined,List.intercalate_cons_of_ne_nil h,List.append_assoc,List.singleton_append]

lemma joined_append {earlier later : List (List α)} (hearlier : earlier≠[]) (hlater : later≠[]) :
    joined sep (earlier ++ later)=joined sep earlier ++ sep::joined sep later := by
  induction earlier with
  | nil => exact absurd rfl hearlier
  | cons text earlier ih =>
    by_cases hnil : earlier=[]
    · subst hnil
      rw [List.singleton_append,joined_cons text hlater,joined,joined,List.intercalate_singleton]
    · rw [List.cons_append,joined_cons text (List.append_ne_nil_of_left_ne_nil hnil later),
        joined_cons text hnil,ih hnil,List.append_assoc,List.cons_append]

lemma infix_joined_of_mem {texts : List (List α)} {text : List α} (h : text ∈ texts) :
    text <:+: joined sep texts := by
  induction texts with
  | nil => cases h
  | cons first texts ih =>
    by_cases hnil : texts=[]
    · subst hnil
      rw [List.mem_singleton.mp h,joined,List.intercalate_singleton]
    · rw [joined_cons first hnil]
      rcases List.mem_cons.mp h with rfl | h
      · exact List.infix_append_left
      · exact List.infix_append_of_infix_right (List.infix_cons (ih h))

lemma Crosses.occurs {texts : List (List α)} (h : Crosses sep part texts) :
    part <:+: joined sep texts := by
  obtain ⟨earlier,later,front,back,rfl,hearlier,hlater,rfl,⟨s,hs⟩,⟨t,ht⟩⟩ := h
  rw [joined_append hearlier hlater,← hs,← ht]
  exact ⟨s,t,by simp⟩

lemma Crosses.sep_mem {texts : List (List α)} (h : Crosses sep part texts) : sep ∈ part := by
  obtain ⟨_,_,front,back,_,_,_,rfl,_,_⟩ := h
  simp

/-- A part of joined texts is part of one of them or runs over a border. -/
lemma infix_joined (hpart : part≠[]) (texts : List (List α)) :
    part <:+: joined sep texts ↔ (∃ text ∈ texts, part <:+: text) ∨ Crosses sep part texts := by
  constructor
  · intro h
    induction texts with
    | nil => exact absurd (List.infix_nil.mp h) hpart
    | cons text texts ih =>
      by_cases hnil : texts=[]
      · subst hnil
        rw [joined,List.intercalate_singleton] at h
        exact .inl ⟨text,List.mem_cons_self,h⟩
      -- an occurrence that starts in the first text ends in it or runs over its border
      rw [joined_cons text hnil,List.infix_append_iff] at h
      have inner (h : part <:+: joined sep texts) :
          (∃ t ∈ text::texts, part <:+: t) ∨ Crosses sep part (text::texts) := by
        rcases ih h with ⟨t,ht,hinner⟩ | hcross
        · exact .inl ⟨t,List.mem_cons_of_mem _ ht,hinner⟩
        · obtain ⟨earlier,later,front,back,rfl,hearlier,hlater,hsplit,hfront,hback⟩ := hcross
          refine .inr ⟨text::earlier,later,front,back,rfl,List.cons_ne_nil _ _,hlater,hsplit,?_,
            hback⟩
          rw [joined_cons text hearlier]
          exact hfront.trans ((List.suffix_cons _ _).trans (List.suffix_append _ _))
      rcases h with h | h | ⟨front,rest,hsplit,hfront,hrest⟩
      · exact .inl ⟨text,List.mem_cons_self,h⟩
      · rcases List.infix_cons_iff.mp h with h | h
        · cases part with
          | nil => exact absurd rfl hpart
          | cons c back =>
            obtain ⟨rfl,hback⟩ := List.cons_prefix_cons.mp h
            exact .inr ⟨[text],texts,[],back,rfl,List.cons_ne_nil _ _,hnil,rfl,
              List.nil_suffix,hback⟩
        · exact inner h
      · cases rest with
        | nil =>
          rw [List.append_nil] at hsplit
          exact .inl ⟨text,List.mem_cons_self,hsplit ▸ hfront.isInfix⟩
        | cons c back =>
          obtain ⟨rfl,hback⟩ := List.cons_prefix_cons.mp hrest
          refine .inr ⟨[text],texts,front,back,rfl,List.cons_ne_nil _ _,hnil,hsplit,?_,hback⟩
          rw [joined,List.intercalate_singleton]
          exact hfront
  · rintro (⟨text,htext,h⟩ | h)
    · exact h.trans (infix_joined_of_mem htext)
    · exact h.occurs

end Joined

section Respelling
variable {f : List α → α → List α → List β} {before text part : List α}

/-- Every element is replaced by a block that may depend on what stands before it, the nearest
first, and after it. -/
def respell (f : List α → α → List α → List β) : List α → List α → List β
  | _,[] => []
  | before,x::text => f before x text ++ respell f (x::before) text

lemma respell_congr {g : List α → α → List α → List β}
    (h : ∀ earlier x later, text=earlier ++ x::later →
      f (earlier.reverse ++ before) x later=g (earlier.reverse ++ before) x later) :
    respell f before text=respell g before text := by
  induction text generalizing before with
  | nil => rfl
  | cons x text ih =>
    have hx := h [] x text rfl
    rw [List.reverse_nil,List.nil_append] at hx
    rw [respell,respell,hx,ih fun earlier y later hsplit => ?_]
    have hy := h (x::earlier) y later (by rw [hsplit,List.cons_append])
    simpa using hy

lemma respell_append (earlier later : List α) :
    respell f before (earlier ++ later)=
      respell (fun b x a => f b x (a ++ later)) before earlier ++
        respell f (earlier.reverse ++ before) later := by
  induction earlier generalizing before with
  | nil => rfl
  | cons x earlier ih =>
    rw [List.cons_append,respell,respell,ih,List.append_assoc,List.reverse_cons,
      List.append_assoc,List.singleton_append]

/-- A condition whose elements stay as they are, while no block of another element has one. -/
structure Keeps (f : List α → α → List α → List α) (p : α → Prop) : Prop where
  kept : ∀ before x after, p x → f before x after=[x]
  nonempty : ∀ before x after, f before x after≠[]
  fresh : ∀ before x after, ¬p x → ∀ y ∈ f before x after, ¬p y

section Kept
variable {f : List α → α → List α → List α} {p : α → Prop}

lemma respell_kept (h : Keeps f p) (htext : ∀ x ∈ text, p x) : respell f before text=text := by
  induction text generalizing before with
  | nil => rfl
  | cons x text ih =>
    rw [respell,h.kept before x text (htext x List.mem_cons_self),List.singleton_append,
      ih fun y hy => htext y (List.mem_cons_of_mem _ hy)]

lemma prefix_respell (h : Keeps f p) (hpart : ∀ x ∈ part, p x) :
    part <+: respell f before text ↔ part <+: text := by
  induction text generalizing before part with
  | nil => rfl
  | cons x text ih =>
    cases part with
    | nil => simp
    | cons y part =>
      have hy := hpart y List.mem_cons_self
      rw [respell]
      by_cases hx : p x
      · rw [h.kept before x text hx,List.singleton_append,List.cons_prefix_cons,
          List.cons_prefix_cons,ih fun z hz => hpart z (List.mem_cons_of_mem _ hz)]
      · obtain ⟨z,block,hblock⟩ := List.exists_cons_of_ne_nil (h.nonempty before x text)
        have hz : ¬p z := h.fresh before x text hx z (hblock ▸ List.mem_cons_self)
        rw [hblock,List.cons_append,List.cons_prefix_cons,List.cons_prefix_cons]
        exact iff_of_false (fun hyz => hz (hyz.1 ▸ hy)) fun hyx => hx (hyx.1 ▸ hy)

/-- A part whose elements all stay as they are occurs exactly where it did. -/
lemma infix_respell (h : Keeps f p) (hpart : ∀ x ∈ part, p x) (hne : part≠[]) :
    part <:+: respell f before text ↔ part <:+: text := by
  obtain ⟨y,rest,rfl⟩ := List.exists_cons_of_ne_nil hne
  have hy := hpart y List.mem_cons_self
  induction text generalizing before with
  | nil => rfl
  | cons x text ih =>
    have hrest : y::rest <:+: respell f (x::before) text ↔ y::rest <:+: text := ih
    by_cases hx : p x
    · have hfirst : y::rest <+: respell f before (x::text) ↔ y::rest <+: x::text :=
        prefix_respell h hpart
      rw [respell,h.kept before x text hx,List.singleton_append] at hfirst ⊢
      rw [List.infix_cons_iff,List.infix_cons_iff,hfirst,hrest]
    · have hblock := h.fresh before x text hx
      rw [respell,List.infix_append_iff]
      constructor
      · rintro (hin | hin | ⟨front,back,hsplit,hfront,hback⟩)
        · exact absurd hy (hblock y (hin.subset List.mem_cons_self))
        · exact List.infix_cons (hrest.mp hin)
        · cases front with
          | nil =>
            rw [List.nil_append] at hsplit
            exact List.infix_cons (hrest.mp (hsplit ▸ hback.isInfix))
          | cons z front =>
            obtain ⟨rfl,_⟩ := List.cons.inj hsplit
            exact absurd hy (hblock y (hfront.subset List.mem_cons_self))
      · intro hin
        rcases List.infix_cons_iff.mp hin with hin | hin
        · exact absurd ((List.cons_prefix_cons.mp hin).1 ▸ hy) hx
        · exact .inr (.inl (hrest.mpr hin))

end Kept
end Respelling
end Occurrences
