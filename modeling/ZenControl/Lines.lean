import Mathlib.Data.List.Infix
import ZenControl.Text

/-! The lines and parts of a text, as Python's strings have them. -/
namespace ZenControl

/-- The characters at which `str.splitlines` ends a line. -/
def isLineBreak (c : Char) : Bool :=
  let n := c.toNat
  (0x0A ≤ n && n ≤ 0x0D) || (0x1C ≤ n && n ≤ 0x1E) || n = 0x85 || n = 0x2028 || n = 0x2029

/-- `text.splitlines(keepends=True)`; a carriage return and a line feed end one line. -/
def keepLines : List Char → List (List Char)
  | [] => []
  | c::cs =>
    match keepLines cs with
    | [] => [[c]]
    | line::lines =>
      if isLineBreak c ∧ ¬(c= '\r' ∧ line.head?=some '\n') then [c]::line::lines
      else (c::line)::lines

/-- `text.splitlines()`. -/
def splitLines (text : List Char) : List (List Char) :=
  (keepLines text).map (·.takeWhile fun c => !isLineBreak c)

/-- `line.rstrip()`. -/
def rstrip (line : List Char) : List Char := (line.reverse.dropWhile isSpace).reverse

/-- `text.startswith(start)`. -/
def startsWith (text start : String) : Bool := start.toList.isPrefixOf text.toList

/-- `text.endswith(tail)`. -/
def endsWith (text tail : String) : Bool := tail.toList.isSuffixOf text.toList

/-- `part in text`. -/
def occursIn (part text : String) : Bool := text.toList.tails.any part.toList.isPrefixOf

/-- `text.split(sep)` for a separator of one character. -/
def splitText (sep : Char) (text : String) : List String :=
  (splitChars (· = sep) text.toList).map String.ofList

attribute [grind =] splitChars keepLines

section Split
variable {sep : Char → Bool} {cs : List Char} {c : Char}

lemma splitChars_ne_nil (sep : Char → Bool) (cs : List Char) : splitChars sep cs≠[] := by
  cases cs with
  | nil => exact List.cons_ne_nil _ _
  | cons c cs =>
    rw [splitChars]
    split_ifs
    · exact List.cons_ne_nil _ _
    · cases splitChars sep cs <;> exact List.cons_ne_nil _ _

lemma splitChars_cons (h : sep c=false) :
    ∃ part parts,splitChars sep cs=part::parts ∧ splitChars sep (c::cs)=(c::part)::parts := by
  obtain ⟨part,parts,hparts⟩ := List.exists_cons_of_ne_nil (splitChars_ne_nil sep cs)
  refine ⟨part,parts,hparts,?_⟩
  rw [splitChars,if_neg (by simp [h]),hparts]

lemma splitChars_snoc (h : sep c=false) :
    ∃ parts part,splitChars sep cs=parts ++ [part] ∧
      splitChars sep (cs ++ [c])=parts ++ [part ++ [c]] := by
  induction cs with
  | nil => exact ⟨[],[],rfl,by simp [splitChars,h]⟩
  | cons d cs ih =>
    obtain ⟨parts,part,hparts,hsnoc⟩ := ih
    by_cases hd : sep d=true
    · refine ⟨[]::parts,part,?_,?_⟩
      · rw [splitChars,if_pos hd,hparts,List.cons_append]
      · rw [List.cons_append,splitChars,if_pos hd,hsnoc,List.cons_append]
    · rw [List.cons_append,splitChars,splitChars,if_neg hd,if_neg hd,hparts,hsnoc]
      cases parts with
      | nil => exact ⟨[],d::part,rfl,rfl⟩
      | cons first parts => exact ⟨(d::first)::parts,part,rfl,rfl⟩

lemma mem_of_mem_splitChars (h : c ∈ cs) :
    sep c=true ∨ ∃ part ∈ splitChars sep cs,c ∈ part := by
  induction cs with
  | nil => cases h
  | cons d cs ih =>
    by_cases hd : sep d=true
    · rcases List.mem_cons.mp h with rfl | h
      · exact .inl hd
      · rcases ih h with hsep | ⟨part,hpart,hc⟩
        · exact .inl hsep
        · rw [splitChars,if_pos hd]
          exact .inr ⟨part,List.mem_cons_of_mem _ hpart,hc⟩
    · obtain ⟨part,parts,hparts,hcons⟩ := @splitChars_cons sep cs d (by simpa using hd)
      rw [hcons]
      rcases List.mem_cons.mp h with rfl | h
      · exact .inr ⟨_,List.mem_cons_self,List.mem_cons_self⟩
      · rcases ih h with hsep | ⟨other,hother,hc⟩
        · exact .inl hsep
        · rw [hparts] at hother
          rcases List.mem_cons.mp hother with rfl | hother
          · exact .inr ⟨_,List.mem_cons_self,List.mem_cons_of_mem _ hc⟩
          · exact .inr ⟨other,List.mem_cons_of_mem _ hother,hc⟩

lemma splitChars_eq_splitOn (c : Char) (cs : List Char) :
    splitChars (fun d => d=c) cs=cs.splitOn c := by
  induction cs with
  | nil => rfl
  | cons d ds ih =>
    rw [List.splitOn_cons_eq_if_modifyHead,splitChars,ih]
    by_cases hd : d=c
    · simp [hd]
    · rw [if_neg (by simpa using hd),if_neg (by simpa using hd)]
      cases hparts : ds.splitOn c with
      | nil => exact absurd hparts (List.splitOn_ne_nil c ds)
      | cons part parts => rfl

lemma splitChars_congr {sep' : Char → Bool} (h : ∀ c ∈ cs, sep c=sep' c) :
    splitChars sep cs=splitChars sep' cs := by
  induction cs with
  | nil => rfl
  | cons c cs ih =>
    rw [splitChars,splitChars,h c List.mem_cons_self,
      ih fun d hd => h d (List.mem_cons_of_mem c hd)]

lemma splitChars_map (sep : Char → Bool) (f : Char → Char) (cs : List Char) :
    splitChars sep (cs.map f)=(splitChars (fun c => sep (f c)) cs).map (List.map f) := by
  induction cs with
  | nil => rfl
  | cons c cs ih =>
    rw [List.map_cons,splitChars,splitChars,ih]
    split_ifs
    · rfl
    · cases splitChars (fun c => sep (f c)) cs <;> rfl

lemma splitChars_append {rest : List Char} (h : ∀ d ∈ cs, sep d=false) (hc : sep c=true) :
    splitChars sep (cs ++ c::rest)=cs::splitChars sep rest := by
  induction cs with
  | nil => rw [List.nil_append,splitChars,if_pos hc]
  | cons d ds ih =>
    rw [List.cons_append,splitChars,if_neg (by simp [h d List.mem_cons_self]),
      ih fun e he => h e (List.mem_cons_of_mem d he)]

lemma strip_space_cons (hc : isSpace c=true) :
    strip (String.ofList (c::cs))=strip (String.ofList cs) := by
  rw [strip,strip,String.toList_ofList,String.toList_ofList,List.dropWhile_cons_of_pos hc]

lemma strip_snoc_space (hc : isSpace c=true) :
    strip (String.ofList (cs ++ [c]))=strip (String.ofList cs) := by
  rw [strip,strip,String.toList_ofList,String.toList_ofList,List.dropWhile_append]
  cases hcs : cs.dropWhile isSpace with
  | nil => simp [hc]
  | cons d ds =>
    have hback : (d::ds ++ [c]).reverse.dropWhile isSpace=(d::ds).reverse.dropWhile isSpace := by
      rw [List.reverse_append,List.reverse_singleton,List.singleton_append,
        List.dropWhile_cons_of_pos hc]
    rw [if_neg (by simp),hback]

lemma strip_head_of {text : String} {c : Char} (h : text.toList.head?=some c)
    (hc : isSpace c=false) : (strip text).toList.head?=some c := by
  obtain ⟨rest,hrest⟩ : ∃ rest,text.toList=c::rest := by
    cases htext : text.toList with
    | nil => rw [htext] at h; cases h
    | cons d rest =>
      rw [htext] at h
      exact ⟨rest,by rw [Option.some.inj h]⟩
  rw [strip,String.toList_ofList,hrest,List.dropWhile_cons_of_neg (by simp [hc]),
    List.reverse_cons,List.dropWhile_append]
  split_ifs
  · simp [hc]
  · simp

/-- The parts of a text without its outer spaces are, up to outer spaces, parts of the text. -/
lemma splitText_strip {sep : Char} (hsep : isSpace sep=false) {text part : String}
    (h : part ∈ splitText sep (strip text)) :
    ∃ other ∈ splitText sep text,strip other=strip part := by
  have hspace {c : Char} (hc : isSpace c=true) : (fun d : Char => decide (d=sep)) c=false := by
    refine decide_eq_false fun heq => ?_
    rw [heq,hsep] at hc
    cases hc
  have front (cs : List Char) : ∀ i ∈ splitChars (· = sep) (cs.dropWhile isSpace),
      ∃ j ∈ splitChars (· = sep) cs,strip (String.ofList j)=strip (String.ofList i) := by
    induction cs with
    | nil => exact fun i hi => ⟨i,hi,rfl⟩
    | cons c cs ih =>
      intro i hi
      by_cases hc : isSpace c=true
      · rw [List.dropWhile_cons_of_pos hc] at hi
        obtain ⟨j,hj,hji⟩ := ih i hi
        obtain ⟨first,parts,hparts,hcons⟩ := @splitChars_cons (· = sep) cs c (hspace hc)
        rw [hparts] at hj
        rw [hcons]
        rcases List.mem_cons.mp hj with rfl | hj
        · exact ⟨_,List.mem_cons_self,(strip_space_cons hc).trans hji⟩
        · exact ⟨j,List.mem_cons_of_mem _ hj,hji⟩
      · rw [List.dropWhile_cons_of_neg hc] at hi
        exact ⟨i,hi,rfl⟩
  have back (cs : List Char) : ∀ i ∈ splitChars (· = sep) (cs.dropWhile isSpace).reverse,
      ∃ j ∈ splitChars (· = sep) cs.reverse,strip (String.ofList j)=strip (String.ofList i) := by
    induction cs with
    | nil => exact fun i hi => ⟨i,hi,rfl⟩
    | cons c cs ih =>
      intro i hi
      by_cases hc : isSpace c=true
      · rw [List.dropWhile_cons_of_pos hc] at hi
        obtain ⟨j,hj,hji⟩ := ih i hi
        obtain ⟨parts,last,hparts,hsnoc⟩ :=
          @splitChars_snoc (· = sep) cs.reverse c (hspace hc)
        rw [hparts] at hj
        rw [List.reverse_cons,hsnoc]
        rcases List.mem_append.mp hj with hj | hj
        · exact ⟨j,List.mem_append_left _ hj,hji⟩
        · rw [List.mem_singleton.mp hj] at hji
          exact ⟨_,List.mem_append_right _ (List.mem_singleton_self _),
            (strip_snoc_space hc).trans hji⟩
      · rw [List.dropWhile_cons_of_neg hc] at hi
        exact ⟨i,hi,rfl⟩
  obtain ⟨i,hi,rfl⟩ := List.mem_map.mp h
  rw [strip,String.toList_ofList] at hi
  obtain ⟨j,hj,hji⟩ := back _ i hi
  rw [List.reverse_reverse] at hj
  obtain ⟨k,hk,hkj⟩ := front text.toList j hj
  exact ⟨String.ofList k,List.mem_map_of_mem hk,hkj.trans hji⟩

end Split

lemma occursIn_iff {part text : String} :
    occursIn part text=true ↔ part.toList <:+: text.toList := by
  rw [occursIn,List.any_eq_true,List.infix_iff_prefix_suffix]
  simp only [List.mem_tails,List.isPrefixOf_iff_prefix,and_comm]

@[simp] lemma flatten_keepLines (text : List Char) : (keepLines text).flatten=text := by
  induction text with
  | nil => rfl
  | cons c cs ih =>
    rw [keepLines]
    cases hlines : keepLines cs with
    | nil =>
      rw [hlines] at ih
      rw [← ih]
      rfl
    | cons line lines =>
      rw [hlines] at ih
      dsimp only
      split_ifs <;> simp [← ih]

lemma keepLines_newline (rest : List Char) :
    keepLines ('\n' :: rest)=['\n']::keepLines rest := by
  rw [keepLines]
  cases keepLines rest with
  | nil => rfl
  | cons line lines =>
    exact if_pos ⟨by decide,fun h => absurd h.1 (by decide)⟩

lemma keepLines_append {line : List Char} (h : ∀ c ∈ line, isLineBreak c=false)
    (rest : List Char) : keepLines (line ++ '\n' :: rest)=(line ++ ['\n'])::keepLines rest := by
  induction line with
  | nil => exact keepLines_newline rest
  | cons c line ih =>
    rw [List.cons_append,keepLines,ih fun d hd => h d (List.mem_cons_of_mem _ hd)]
    have hc := h c List.mem_cons_self
    exact if_neg fun hbreak => by simp [hc] at hbreak

/-- A text of lines without breaks is split into them. -/
lemma splitLines_flatMap {lines : List (List Char)}
    (h : ∀ line ∈ lines, ∀ c ∈ line, isLineBreak c=false) :
    splitLines (lines.flatMap fun line => line ++ ['\n'])=lines := by
  induction lines with
  | nil => rfl
  | cons line lines ih =>
    have hline := h line List.mem_cons_self
    have hrest := ih fun l hl => h l (List.mem_cons_of_mem _ hl)
    have hkeep : (line ++ ['\n']).takeWhile (fun c => !isLineBreak c)=line := by
      rw [List.takeWhile_append_of_pos fun c hc => by simp [hline c hc]]
      simp [isLineBreak]
    rw [List.flatMap_cons,List.append_assoc,List.singleton_append,splitLines,
      keepLines_append hline,List.map_cons,hkeep]
    exact congrArg (line::·) hrest

end ZenControl
