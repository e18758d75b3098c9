import ZenControl.Release.Rebuild

/-! The rebuild plan misses no service that the released changes affect, except through the
changes that it does not look at. -/
namespace ZenControl.Rebuild

/-- A service owns the paths of its rules. -/
def Owns (service path : String) : Prop :=
  ∃ rule ∈ servicePathRules,rule.1=service ∧ ∃ pattern ∈ rule.2,
    if isDirectory pattern then pattern.toList <+: path.toList else path=pattern

/-- The part of a compose file that a line belongs to: the text around the services, the lines of
their section before the first of them, or the block of a service. -/
inductive Place
  | outside
  | head
  | block (service : String)
  deriving DecidableEq

/-- A comment does not end the section of the services. -/
def endsMapping (line : Line) : Bool := endsServices line && line.head?≠some '#'

/-- The places of the lines of the services' section and of those after it. -/
def placesFrom : Place → List Line → List (Place × Line)
  | _,[] => []
  | place,line::rest =>
    if endsMapping line then (line::rest).map fun l => (.outside,l)
    else match serviceHeader line with
      | some service => (.block service,line)::placesFrom (.block service) rest
      | none => (place,line)::placesFrom place rest

/-- Every line of a compose file with its place. -/
def places (text : String) : List (Place × Line) :=
  let lines := keepLines text.toList
  match lines.dropWhile (!opensServices ·) with
  | [] => lines.map fun l => (.outside,l)
  | services::rest =>
    (lines.takeWhile (!opensServices ·) ++ [services]).map (fun l => (.outside,l)) ++
      placesFrom .head rest

def linesOf (place : Place) (placed : List (Place × Line)) : List Line :=
  (placed.filter fun l => l.1=place).map Prod.snd

/-- The lines at one place of a compose file, of none if there is no file. -/
def linesAt (place : Place) (text : Option String) : List Line :=
  linesOf place (places (text.getD ""))

def textAt (place : Place) (text : Option String) : List Char := (linesAt place text).flatten

def HasService (text : Option String) (service : String) : Prop :=
  linesAt (.block service) text≠[]

/-- A compose service whose block, or text that surrounds the blocks, changed. -/
def ComposeAffected (before after : Option String) (service : String) : Prop :=
  (HasService before service ∨ HasService after service) ∧
    ∃ place ∈ [Place.block service,.outside,.head],textAt place before≠textAt place after

/-- No service is named twice, and no comment at the start of a line stands between them. -/
def plainFrom (seen : List String) : List Line → Bool
  | [] => true
  | line::rest =>
    if endsServices line then line.head?≠some '#'
    else match serviceHeader line with
      | some service => service ∉ seen && plainFrom (service::seen) rest
      | none => plainFrom seen rest

def plain (text : Option String) : Bool :=
  match (keepLines (text.getD "").toList).dropWhile (!opensServices ·) with
  | [] => true
  | _::rest => plainFrom [] rest

section Fold
variable {s : Splitting} {seen : List String} {rest : List Line} {service : String}

/-- The block of a service once the lines of its block that follow are added to it. -/
def extended (rows : Option (List Line)) : List Line → Option (List Line)
  | [] => rows
  | lines => some (rows.getD [] ++ lines)

lemma extended_extended (rows : Option (List Line)) (line : Line) (lines : List Line) :
    extended (some (rows.getD [] ++ [line])) lines=extended rows (line::lines) := by
  cases lines with
  | nil => rfl
  | cons => simp [extended]

@[simp] lemma linesOf_nil (place : Place) : linesOf place []=[] := rfl

@[simp] lemma linesOf_append (place : Place) (l r : List (Place × Line)) :
    linesOf place (l ++ r)=linesOf place l ++ linesOf place r := by simp [linesOf]

@[simp] lemma linesOf_cons (place p : Place) (line : Line) (placed : List (Place × Line)) :
    linesOf place ((p,line)::placed)=
      if p=place then line::linesOf place placed else linesOf place placed := by
  by_cases h : p=place <;> simp [linesOf,h]

@[simp] lemma linesOf_outside (lines : List Line) :
    linesOf .outside (lines.map fun l => (.outside,l))=lines := by
  induction lines with
  | nil => rfl
  | cons line lines ih => rw [List.map_cons,linesOf_cons,if_pos rfl,ih]

@[simp] lemma linesOf_block_outside (lines : List Line) :
    linesOf (.block service) (lines.map fun l => (.outside,l))=[] := by
  induction lines with
  | nil => rfl
  | cons line lines ih => rw [List.map_cons,linesOf_cons,if_neg (by simp),ih]

/-- The place of a line that starts no block. -/
def Splitting.place (s : Splitting) : Place := s.current.elim .head .block

/-- The loop is in the section of the services and has seen the names of its blocks. -/
structure Splitting.Seen (s : Splitting) (seen : List String) : Prop where
  inside : s.serviceSection=true
  blocks : ∀ service,service ∈ seen ↔ (s.blocks.lookup service).isSome
  current : ∀ service,s.current=some service → service ∈ seen

lemma foldl_closed (h : s.serviceSection=false) :
    (rest.foldl Splitting.turn s).blocks=s.blocks ∧
      (rest.foldl Splitting.turn s).suffix=s.suffix ++ rest := by
  induction rest generalizing s with
  | nil => exact ⟨rfl,(List.append_nil _).symm⟩
  | cons line rest ih =>
    have hturn : s.turn line={ s with suffix := s.suffix ++ [line] } := by
      simp [Splitting.turn,h]
    rw [List.foldl_cons,hturn]
    obtain ⟨hblocks,hsuffix⟩ := ih (s:={ s with suffix := s.suffix ++ [line] }) h
    exact ⟨hblocks,by rw [hsuffix]; simp⟩

/-- On a plain text the loop puts every line in the block or in the suffix it belongs to. -/
lemma Splitting.Seen.foldl (h : s.Seen seen) (hplain : plainFrom seen rest=true) :
    (∀ service,(rest.foldl Splitting.turn s).blocks.lookup service=
      extended (s.blocks.lookup service) (linesOf (.block service) (placesFrom s.place rest))) ∧
    (rest.foldl Splitting.turn s).suffix=
      s.suffix ++ linesOf .outside (placesFrom s.place rest) := by
  induction rest generalizing s seen with
  | nil => exact ⟨fun _ => rfl,(List.append_nil _).symm⟩
  | cons line rest ih =>
    rw [plainFrom] at hplain
    rw [placesFrom,List.foldl_cons]
    by_cases hends : endsServices line=true
    · rw [if_pos hends] at hplain
      have hmapping : endsMapping line=true := by simp [endsMapping,hends,hplain]
      have hturn : s.turn line={ s with
          serviceSection := false, current := none, suffix := s.suffix ++ [line] } := by
        simp [Splitting.turn,h.inside,hends]
      rw [if_pos hmapping,hturn]
      obtain ⟨hblocks,hsuffix⟩ := @foldl_closed { s with
        serviceSection := false, current := none, suffix := s.suffix ++ [line] } rest rfl
      refine ⟨fun service => ?_,?_⟩
      · rw [hblocks,linesOf_block_outside]
        rfl
      · rw [hsuffix,linesOf_outside]
        simp
    · rw [if_neg hends] at hplain
      have hmapping : ¬endsMapping line=true := by simp [endsMapping,hends]
      rw [if_neg hmapping]
      cases hheader : serviceHeader line with
      | some name =>
        rw [hheader] at hplain
        obtain ⟨hnew,hrest⟩ : name ∉ seen ∧ plainFrom (name::seen) rest=true := by
          simpa using hplain
        have hfresh : s.blocks.lookup name=none := by
          rw [← Option.not_isSome_iff_eq_none,← h.blocks]
          exact hnew
        have hturn : s.turn line={ s with
            current := some name, blocks := dictSet s.blocks name [line] } := by
          simp [Splitting.turn,h.inside,hends,hheader]
        rw [hturn]
        obtain ⟨hblocks,hsuffix⟩ := ih (s:={ s with
            current := some name, blocks := dictSet s.blocks name [line] })
          ⟨h.inside,fun n => by
            rw [lookup_dictSet,List.mem_cons,h.blocks]
            split_ifs with hn <;> simp [hn],
          fun n hn => by
            obtain rfl : name=n := by simpa using hn
            exact List.mem_cons_self⟩ hrest
        refine ⟨fun n => ?_,?_⟩
        · rw [hblocks,lookup_dictSet,linesOf_cons]
          by_cases hn : n=name
          · subst hn
            rw [if_pos rfl,if_pos rfl,hfresh,← extended_extended]
            rfl
          · rw [if_neg hn,if_neg (by simpa using fun he => hn he.symm)]
            rfl
        · rw [hsuffix,linesOf_cons,if_neg (by simp)]
          rfl
      | none =>
        rw [hheader] at hplain
        cases hcurrent : s.current with
        | none =>
          have hturn : s.turn line=s := by
            simp [Splitting.turn,h.inside,hends,hheader,hcurrent]
          have hplace : s.place=.head := by rw [Splitting.place,hcurrent]; rfl
          rw [hturn]
          obtain ⟨hblocks,hsuffix⟩ := ih h hplain
          rw [hplace] at hblocks hsuffix ⊢
          refine ⟨fun n => ?_,?_⟩
          · rw [hblocks,linesOf_cons,if_neg (by simp)]
          · rw [hsuffix,linesOf_cons,if_neg (by simp)]
        | some name =>
          have hturn : s.turn line={ s with
              blocks := dictSet s.blocks name ((s.blocks.lookup name).getD [] ++ [line]) } := by
            simp [Splitting.turn,h.inside,hends,hheader,hcurrent]
          have hplace : s.place=.block name := by rw [Splitting.place,hcurrent]; rfl
          rw [hturn]
          obtain ⟨hblocks,hsuffix⟩ := ih (s:={ s with
              blocks := dictSet s.blocks name ((s.blocks.lookup name).getD [] ++ [line]) })
            ⟨h.inside,fun n => by
              rw [lookup_dictSet,h.blocks]
              split_ifs with hn
              · subst hn
                exact iff_of_true ((h.blocks n).mp (h.current n hcurrent)) rfl
              · rfl,h.current⟩ hplain
          change (∀ n,_=extended _ (linesOf _ (placesFrom s.place rest))) at hblocks
          change _=_ ++ linesOf _ (placesFrom s.place rest) at hsuffix
          rw [hplace] at hblocks hsuffix ⊢
          refine ⟨fun n => ?_,?_⟩
          · rw [hblocks,lookup_dictSet,linesOf_cons]
            by_cases hn : n=name
            · subst hn
              rw [if_pos rfl,if_pos rfl,extended_extended]
            · rw [if_neg hn,if_neg (by simpa using fun he => hn he.symm)]
          · rw [hsuffix,linesOf_cons,if_neg (by simp)]

end Fold

section Compose
variable {text : String} {service : String}

lemma lookup_map {α β : Type} (f : α → β) (d : List (String × α)) (k : String) :
    (d.map fun e => (e.1,f e.2)).lookup k=(d.lookup k).map f := by
  induction d with
  | nil => rfl
  | cons e d ih =>
    rw [List.map_cons,lookup_entry,lookup_entry,ih]
    split_ifs <;> rfl

lemma mem_names {α : Type} {d : List (String × α)} {k : String} :
    k ∈ d.map Prod.fst ↔ d.lookup k≠none := by
  rw [ne_eq,List.lookup_eq_none_iff]
  simp

/-- On a plain text the blocks and the outer text are what the places of its lines say. -/
lemma composeBlocks_plain (h : plain (some text)=true) :
    (∀ service,(composeBlocks text).1.lookup service=
      (extended none (linesAt (.block service) (some text))).map List.flatten) ∧
    (composeBlocks text).2=textAt .outside (some text) := by
  simp only [plain,Option.getD_some] at h
  simp only [composeBlocks,textAt,linesAt,places,Option.getD_some]
  cases hlines : (keepLines text.toList).dropWhile (!opensServices ·) with
  | nil =>
    simp only [linesOf_block_outside,linesOf_outside,flatten_keepLines]
    exact ⟨fun _ => rfl,trivial⟩
  | cons services rest =>
    rw [hlines] at h
    have hstart : ({} : Splitting).Seen [] :=
      ⟨rfl,fun n => by simp,fun n hn => by cases hn⟩
    obtain ⟨hblocks,hsuffix⟩ := hstart.foldl h
    simp only [linesOf_append,linesOf_block_outside,linesOf_outside,List.nil_append]
    refine ⟨fun n => ?_,?_⟩
    · rw [lookup_map,hblocks]
      rfl
    · rw [hsuffix]
      rfl

/-- What the plan sees of a service in the two texts of the compose file. -/
def SeenInCompose (before after : Option String) (service : String) : Prop :=
  let b := composeBlocks (before.getD "")
  let a := composeBlocks (after.getD "")
  b.1.lookup service≠a.1.lookup service ∨ (b.2≠a.2 ∧ a.1.lookup service≠none)

lemma mem_changedComposeServices {before : Option String} {after : String} :
    service ∈ changedComposeServices before after ↔
      SeenInCompose before (some after) service := by
  unfold changedComposeServices SeenInCompose
  cases before with
  | none =>
    rw [mem_names]
    have hnone : (composeBlocks "").1.lookup service=none := rfl
    simp only [Option.getD_none,Option.getD_some,hnone]
    exact ⟨fun h => .inl (Ne.symm h),fun h => h.elim Ne.symm And.right⟩
  | some before =>
    simp only [Option.getD_some]
    have hchanged : service ∈ ((composeBlocks before).1.map Prod.fst ++
        (composeBlocks after).1.map Prod.fst).filter (fun name =>
          (composeBlocks before).1.lookup name≠(composeBlocks after).1.lookup name) ↔
        (composeBlocks before).1.lookup service≠(composeBlocks after).1.lookup service := by
      rw [List.mem_filter,List.mem_append,mem_names,mem_names,decide_eq_true_iff]
      refine and_iff_right_of_imp fun h => ?_
      by_contra hnone
      push Not at hnone
      exact h (hnone.1.trans hnone.2.symm)
    split_ifs with houter
    · rw [List.mem_append,hchanged,mem_names]
      exact or_congr_right (and_iff_right houter).symm
    · rw [hchanged]
      exact ⟨.inl,fun h => h.elim id fun h => absurd h.1 houter⟩

/-- On plain texts the plan sees every change but those before the first block. -/
lemma seen_of_affected {before after : Option String} (hbefore : plain before=true)
    (hafter : plain after=true) (hhead : textAt .head before=textAt .head after)
    (h : ComposeAffected before after service) : SeenInCompose before after service := by
  obtain ⟨hblocks,houter⟩ := @composeBlocks_plain (before.getD "") hbefore
  obtain ⟨hblocks',houter'⟩ := @composeBlocks_plain (after.getD "") hafter
  obtain ⟨hhas,place,hplace,hdiffers⟩ := h
  unfold SeenInCompose
  dsimp only
  rw [hblocks,hblocks',houter,houter']
  change (extended none (linesAt (.block service) before)).map List.flatten≠
      (extended none (linesAt (.block service) after)).map List.flatten ∨
    (textAt .outside before≠textAt .outside after ∧
      (extended none (linesAt (.block service) after)).map List.flatten≠none)
  simp only [List.mem_cons,List.not_mem_nil,or_false] at hplace
  by_cases hsame : (extended none (linesAt (.block service) before)).map List.flatten=
      (extended none (linesAt (.block service) after)).map List.flatten
  · refine .inr ?_
    have hnone {lines : List Line} :
        (extended none lines).map List.flatten=none ↔ lines=[] := by
      cases lines <;> simp [extended]
    have hthere : (extended none (linesAt (.block service) after)).map List.flatten≠none := by
      rcases hhas with hhas | hhas
      · rw [← hsame]
        exact fun h => hhas (hnone.mp h)
      · exact fun h => hhas (hnone.mp h)
    rcases hplace with rfl | rfl | rfl
    · refine absurd ?_ hdiffers
      unfold textAt
      cases hb : linesAt (.block service) before <;> cases ha : linesAt (.block service) after <;>
        simp_all [extended]
    · exact ⟨hdiffers,hthere⟩
    · exact absurd hhead hdiffers
  · exact .inl hsame

end Compose

section Paths

/-- The paths of the release, with the old ones of renamed files. -/
def Delta.changed (d : Delta) : List String := d.changes.flatMap Change.paths ++ d.newFiles

/-- The paths that the two commands report: none of a deleted file, and the new one of a renamed
file. -/
def Delta.reported (d : Delta) : List String :=
  ((d.changes.filter fun change => change.status≠ 'D').map Change.name) ++ d.newFiles

/-- The reported paths that can be read off the commands' output. -/
def Delta.names (d : Delta) : List String := (d.reported.filter usual).map strip

variable {git : Git} {d : Delta} {path pattern service : String}

lemma isLineBreak_usual {c : Char} (h : 0x20 ≤ c.toNat ∧ c.toNat < 0x7F) :
    isLineBreak c=false := by
  simp only [isLineBreak,Bool.or_eq_false_iff,Bool.and_eq_false_iff,decide_eq_false_iff_not]
  omega

lemma shown_line (git : Git) (path : String) :
    ∀ c ∈ (git.shown path).toList, isLineBreak c=false := by
  unfold Git.shown
  split_ifs with h
  · intro c hc
    have hchar := List.all_eq_true.mp h c hc
    simp only [Bool.and_eq_true,decide_eq_true_eq] at hchar
    exact isLineBreak_usual hchar.1.1
  · exact git.quoted_line path

lemma mem_listedPaths {paths : List String} : path ∈ listedPaths (git.listing paths) ↔
    path≠"" ∧ ∃ p ∈ paths,strip (git.shown p)=path := by
  have hlines : splitLines (git.listing paths)=
      paths.map fun p => (git.shown p).toList := by
    refine splitLines_flatMap fun line hline => ?_
    obtain ⟨p,-,rfl⟩ := List.mem_map.mp hline
    exact shown_line git p
  rw [listedPaths,hlines,List.map_map,List.mem_filter,List.mem_map,and_comm]
  simp

lemma mem_changedPathsSince : path ∈ changedPathsSince git d ↔
    path≠"" ∧ ∃ p ∈ d.reported,strip (git.shown p)=path := by
  have hletters (change : Change) :
      decide (change.status ∈ "ACMRTUXB".toList)=decide (change.status≠ 'D') := by
    cases change <;> rfl
  rw [changedPathsSince,mem_sortedSet,List.mem_append,Git.diffNames,mem_listedPaths,
    mem_listedPaths,← and_or_left,Delta.reported]
  simp only [hletters,List.mem_append,or_and_right,exists_or]

/-- Of the paths that the plan reads only those that stand for themselves can tell it anything. -/
lemma exists_read {R : String → Prop} (hempty : ¬R "")
    (hquoted : ∀ p : String,p.toList.head?=some '"' → ¬R p) :
    (∃ p ∈ sortedSet (((changedPathsSince git d).map strip).filter (· ≠ "")),R p) ↔
      ∃ p ∈ d.names,R p := by
  simp only [mem_sortedSet,List.mem_filter,List.mem_map,mem_changedPathsSince,Delta.names]
  constructor
  · rintro ⟨p,⟨⟨q,⟨-,r,hr,rfl⟩,rfl⟩,-⟩,hp⟩
    rw [strip_strip] at hp
    by_cases husual : usual r=true
    · rw [Git.shown,if_pos husual] at hp
      exact ⟨_,⟨r,⟨hr,husual⟩,rfl⟩,hp⟩
    · rw [Git.shown,if_neg husual] at hp
      exact absurd hp (hquoted _ (strip_head_of (git.quoted_opens r) (by decide)))
  · rintro ⟨p,⟨r,⟨hr,husual⟩,rfl⟩,hp⟩
    have hne : strip r≠"" := fun h => hempty (h ▸ hp)
    have hshown : strip (git.shown r)=strip r := by rw [Git.shown,if_pos husual]
    exact ⟨strip r,⟨⟨strip r,⟨hne,r,hr,hshown⟩,strip_strip r⟩,by simpa using hne⟩,hp⟩

/-- What the rules need of their patterns: a first character that no text loses at its start, and
a last one that is no space. -/
lemma pattern_ends {rule : String × List String} (hrule : rule ∈ servicePathRules)
    (hpattern : pattern ∈ rule.2) : ∃ c cs d ds,pattern.toList=c::cs ∧
      pattern.toList.reverse=d::ds ∧ isSpace c=false ∧ c≠ '.' ∧ c≠ '/' ∧ c≠ '"' ∧
        isSpace d=false := by
  have h : ∀ rule ∈ servicePathRules,∀ pattern ∈ rule.2,
      (pattern.toList.head?.any fun c => !isSpace c && c≠ '.' && c≠ '/' && c≠ '"') &&
        (pattern.toList.reverse.head?.any fun d => !isSpace d) := by decide
  have hends := h rule hrule pattern hpattern
  cases hlist : pattern.toList with
  | nil => rw [hlist] at hends; cases hends
  | cons c cs =>
    cases hreverse : pattern.toList.reverse with
    | nil => simp [hlist] at hreverse
    | cons d ds =>
      rw [hreverse,hlist] at hends
      rw [← hlist,hreverse]
      simp only [List.head?_cons,Option.any_some,Bool.and_eq_true,Bool.not_eq_true',
        decide_eq_true_eq] at hends
      exact ⟨c,cs,d,ds,hlist,rfl,hends.1.1.1.1,hends.1.1.1.2,hends.1.1.2,hends.1.2,hends.2⟩

lemma strip_keeps {pattern path : String} {c d : Char} {cs ds : List Char}
    (hc : pattern.toList=c::cs) (hd : pattern.toList.reverse=d::ds) (hcspace : isSpace c=false)
    (hdspace : isSpace d=false) (h : pattern.toList <+: path.toList) :
    pattern.toList <+: (strip path).toList := by
  obtain ⟨rest,hrest⟩ := h
  have hfront : path.toList.dropWhile isSpace=pattern.toList ++ rest := by
    rw [← hrest,hc,List.cons_append,List.dropWhile_cons_of_neg (by simp [hcspace])]
  have hback : pattern.toList.reverse.dropWhile isSpace=pattern.toList.reverse := by
    rw [hd,List.dropWhile_cons_of_neg (by simp [hdspace])]
  rw [strip,String.toList_ofList,hfront,List.reverse_append,List.dropWhile_append]
  split_ifs
  · exact ⟨[],by rw [List.append_nil,hback,List.reverse_reverse]⟩
  · rw [List.reverse_append,List.reverse_reverse]
    exact List.prefix_append _ _

/-- A rule matches what is read of a path that its service owns. -/
lemma servicePathMatches_strip {rule : String × List String} (hrule : rule ∈ servicePathRules)
    (hpattern : pattern ∈ rule.2)
    (h : if isDirectory pattern then pattern.toList <+: path.toList else path=pattern) :
    servicePathMatches (strip path) pattern=true := by
  obtain ⟨c,cs,d,ds,hc,hd,hcspace,hdot,hslash,-,hdspace⟩ := pattern_ends hrule hpattern
  have hstarts : pattern.toList <+: path.toList := by
    split_ifs at h with hdirectory
    · exact h
    · exact h ▸ List.prefix_refl _
  obtain ⟨rest,hrest⟩ := strip_keeps hc hd hcspace hdspace hstarts
  have hleft : (strip path).toList.dropWhile (fun c => c= '.' || c= '/')=(strip path).toList := by
    rw [← hrest,hc,List.cons_append,List.dropWhile_cons_of_neg (by simp [hdot,hslash])]
  unfold servicePathMatches
  rw [hleft,String.ofList_toList]
  split_ifs at h ⊢ with hdirectory
  · exact List.isPrefixOf_iff_prefix.mpr ⟨rest,hrest⟩
  · subst h
    refine decide_eq_true (strip_eq_self ?_ ?_)
    · simpa [hc] using hcspace
    · rw [List.getLast?_eq_head?_reverse,hd]
      simpa using hdspace

/-- No rule matches the empty text or a quoted path. -/
lemma not_matches_of_head {rule : String × List String} (hrule : rule ∈ servicePathRules)
    (h : path.toList=[] ∨ path.toList.head?=some '"') :
    ¬∃ pattern ∈ rule.2,servicePathMatches path pattern=true := by
  rintro ⟨pattern,hpattern,hmatches⟩
  obtain ⟨c,cs,-,-,hc,-,-,-,-,hquote,-⟩ := pattern_ends hrule hpattern
  have hleft : path.toList.dropWhile (fun c => c= '.' || c= '/')=path.toList := by
    rcases h with h | h
    · rw [h]; rfl
    · cases htext : path.toList with
      | nil => rfl
      | cons d ds =>
        rw [htext,List.head?_cons,Option.some.injEq] at h
        rw [h,List.dropWhile_cons_of_neg (by decide)]
  unfold servicePathMatches at hmatches
  rw [hleft,String.ofList_toList] at hmatches
  have hstarts : pattern.toList <+: path.toList := by
    split_ifs at hmatches
    · exact List.isPrefixOf_iff_prefix.mp hmatches
    · exact of_decide_eq_true hmatches ▸ List.prefix_refl _
  obtain ⟨rest,hrest⟩ := hstarts
  rw [← hrest,hc] at h
  rcases h with h | h
  · cases h
  · exact hquote (Option.some.inj h)

end Paths

section Plan
variable {git : Git} {d : Delta} {service : String}

/-- A changed path that the plan reads, or a change that it sees of the compose file, makes it
recreate a service. -/
def Seen (d : Delta) (service : String) : Prop :=
  (∃ rule ∈ servicePathRules,rule.1=service ∧
    ∃ path ∈ d.names,∃ pattern ∈ rule.2,servicePathMatches path pattern=true) ∨
  (composePath ∈ d.names ∧ SeenInCompose d.before d.after service)

/-- Nothing that the plan reads needs a migration, and the compose file is there if it does. -/
def Plannable (d : Delta) : Prop :=
  (∀ path ∈ d.names,startsWith path postgresPath=false) ∧ (composePath ∈ d.names → d.after≠none)

lemma autoServices_eq (git : Git) (d : Delta) :
    autoServices git d=affectedServices (changedPathsSince git d) d.before d.after := by
  unfold autoServices
  dsimp only
  split_ifs with h
  · rfl
  · rw [not_not.mp h]
    rfl

lemma quoted_not (text : String) {path : String} (h : path.toList.head?=some '"')
    (hne : text.toList.head?≠some '"') : path≠text := fun heq => hne (heq ▸ h)

/-- The paths of the plan that a rule matches, and the compose file among them. -/
lemma exists_matching {rule : String × List String} (hrule : rule ∈ servicePathRules) :
    (∃ p ∈ sortedSet (((changedPathsSince git d).map strip).filter (· ≠ "")),
      ∃ pattern ∈ rule.2,servicePathMatches p pattern=true) ↔
    ∃ p ∈ d.names,∃ pattern ∈ rule.2,servicePathMatches p pattern=true :=
  exists_read (not_matches_of_head hrule (.inl rfl)) fun _ h =>
    not_matches_of_head hrule (.inr h)

lemma composePath_read :
    composePath ∈ sortedSet (((changedPathsSince git d).map strip).filter (· ≠ "")) ↔
      composePath ∈ d.names := by
  have h := @exists_read git d (· = composePath) (by decide) fun p hp =>
    quoted_not composePath hp (by decide)
  simpa using h

lemma postgres_read :
    (sortedSet (((changedPathsSince git d).map strip).filter (· ≠ ""))).any
      (startsWith · postgresPath)=true ↔ ∃ path ∈ d.names,startsWith path postgresPath=true := by
  rw [List.any_eq_true]
  refine exists_read (R:=fun path => startsWith path postgresPath=true) (by decide)
    fun p hp h => ?_
  obtain ⟨rest,hrest⟩ := List.isPrefixOf_iff_prefix.mp h
  have hhead : p.toList.head?=some 't' := by rw [← hrest]; rfl
  rw [hp] at hhead
  exact absurd hhead (by decide)

lemma autoServices_ok (hplan : Plannable d) :
    ∃ services,autoServices git d=.ok services ∧ ∀ s,s ∈ services ↔ Seen d s := by
  obtain ⟨hpostgres,hthere⟩ := hplan
  have hnone : ¬(sortedSet (((changedPathsSince git d).map strip).filter (· ≠ ""))).any
      (startsWith · postgresPath)=true := by
    rw [postgres_read]
    rintro ⟨path,hpath,h⟩
    rw [hpostgres path hpath] at h
    cases h
  have hrules (s : String) : s ∈ (servicePathRules.filter fun rule =>
      (sortedSet (((changedPathsSince git d).map strip).filter (· ≠ ""))).any fun path =>
        rule.2.any (servicePathMatches path)).map Prod.fst ↔
      ∃ rule ∈ servicePathRules,rule.1=s ∧
        ∃ path ∈ d.names,∃ pattern ∈ rule.2,servicePathMatches path pattern=true := by
    simp only [List.mem_map,List.mem_filter,List.any_eq_true]
    constructor
    · rintro ⟨rule,⟨hrule,h⟩,rfl⟩
      exact ⟨rule,hrule,rfl,(exists_matching hrule).mp h⟩
    · rintro ⟨rule,hrule,rfl,h⟩
      exact ⟨rule,⟨hrule,(exists_matching hrule).mpr h⟩,rfl⟩
  rw [autoServices_eq]
  unfold affectedServices
  dsimp only
  by_cases hcompose : composePath ∈ d.names
  · obtain ⟨after,hafter⟩ := Option.ne_none_iff_exists'.mp (hthere hcompose)
    simp only [composePath_read,hcompose,if_true,hafter,bind,Except.bind,if_neg hnone]
    refine ⟨_,rfl,fun s => ?_⟩
    rw [mem_sortedSet,List.mem_append,hrules,mem_changedComposeServices,Seen,hafter]
    exact or_congr_right (and_iff_right hcompose).symm
  · simp only [composePath_read,hcompose,if_false,bind,Except.bind,if_neg hnone]
    refine ⟨_,rfl,fun s => ?_⟩
    rw [mem_sortedSet,List.append_nil,hrules,Seen]
    exact (or_iff_left fun h => hcompose h.1).symm

lemma autoServices_error (hplan : ¬Plannable d) : ∃ e,autoServices git d=.error e := by
  rw [autoServices_eq]
  unfold affectedServices
  dsimp only
  rw [Plannable,not_and_or] at hplan
  by_cases hmissing : composePath ∈ d.names ∧ d.after=none
  · obtain ⟨hcompose,hafter⟩ := hmissing
    simp only [composePath_read,hcompose,if_true,hafter,bind,Except.bind]
    exact ⟨_,rfl⟩
  · have hpostgres : (sortedSet (((changedPathsSince git d).map strip).filter
        (· ≠ ""))).any (startsWith · postgresPath)=true := by
      rw [postgres_read]
      rcases hplan with h | h
      · simpa using h
      · exact absurd (by simpa using h) hmissing
    by_cases hcompose : composePath ∈ d.names
    · cases hafter : d.after with
      | none => exact absurd ⟨hcompose,hafter⟩ hmissing
      | some after =>
        simp only [composePath_read,hcompose,if_true,bind,Except.bind,if_pos hpostgres]
        exact ⟨_,rfl⟩
    · simp only [composePath_read,hcompose,if_false,bind,Except.bind,if_pos hpostgres]
      exact ⟨_,rfl⟩

/-- A service that a change of the release affects. -/
def Affected (d : Delta) (service : String) : Prop :=
  (∃ path ∈ d.changed,Owns service path) ∨ ComposeAffected d.before d.after service

/-- A service affected by a change that the plan does not look at: of a deleted file or the old
path of a renamed one, of a path that is printed quoted, of a compose file that is no more, of its
lines before the first block, or of one that names a service twice or has a comment at the start of
a line between them. -/
def Overlooked (d : Delta) (service : String) : Prop :=
  (∃ path ∈ d.changed,Owns service path ∧ (path ∉ d.reported ∨ usual path=false)) ∨
  (ComposeAffected d.before d.after service ∧
    (composePath ∉ d.names ∨ textAt .head d.before≠textAt .head d.after ∨
      plain d.before=false ∨ plain d.after=false))

/-- The plan is made and names every service that the release affects. -/
def MissesNone (git : Git) (d : Delta) : Prop :=
  ∃ services,autoServices git d=.ok services ∧ ∀ service,Affected d service → service ∈ services

lemma seen_or_overlooked (h : Affected d service) : Seen d service ∨ Overlooked d service := by
  rcases h with ⟨path,hpath,howns⟩ | h
  · by_cases hread : path ∈ d.reported ∧ usual path=true
    · obtain ⟨rule,hrule,hservice,pattern,hpattern,hmatch⟩ := howns
      exact .inl (.inl ⟨rule,hrule,hservice,strip path,
        List.mem_map_of_mem (List.mem_filter.mpr hread),pattern,hpattern,
        servicePathMatches_strip hrule hpattern hmatch⟩)
    · refine .inr (.inl ⟨path,hpath,howns,?_⟩)
      rwa [not_and_or,Bool.not_eq_true] at hread
  · by_cases hsees : composePath ∈ d.names ∧ textAt .head d.before=textAt .head d.after ∧
        plain d.before=true ∧ plain d.after=true
    · obtain ⟨hread,hhead,hbefore,hafter⟩ := hsees
      exact .inl (.inr ⟨hread,seen_of_affected hbefore hafter hhead h⟩)
    · refine .inr (.inr ⟨h,?_⟩)
      simpa only [not_and_or,Bool.not_eq_true] using hsees

end Plan

section Example

/-- One byte of a quoted path. -/
def octal (byte : ℕ) : List Char :=
  let digit (n : ℕ) : Char := Char.ofNat (48+n%8)
  ['\\',digit (byte/64),digit (byte/8),digit byte]

/-- One character of a quoted path. -/
def quotedChar (c : Char) : List Char :=
  let letters : List (ℕ × Char) :=
    [(0x07, 'a'),(0x08, 'b'),(0x09, 't'),(0x0A, 'n'),(0x0B, 'v'),(0x0C, 'f'),(0x0D, 'r'),
     (0x22, '"'),(0x5C, '\\')]
  match letters.lookup c.toNat with
  | some letter => ['\\',letter]
  | none =>
    if 0x20 ≤ c.toNat ∧ c.toNat < 0x7F then [c]
    else (String.utf8EncodeChar c).flatMap fun byte => octal byte.toNat

lemma octal_line (byte : ℕ) : ∀ c ∈ octal byte,isLineBreak c=false := by
  have digits : ∀ n : Fin 8,isLineBreak (Char.ofNat (48+n))=false := by decide
  have digit (n : ℕ) : isLineBreak (Char.ofNat (48+n%8))=false :=
    digits ⟨n%8,Nat.mod_lt n (by decide)⟩
  simp only [octal,List.forall_mem_cons,List.not_mem_nil,false_implies,implies_true,and_true]
  exact ⟨by decide,digit _,digit _,digit _⟩

lemma quotedChar_line (c : Char) : ∀ d ∈ quotedChar c,isLineBreak d=false := by
  intro d hd
  unfold quotedChar at hd
  dsimp only at hd
  split at hd
  · rename_i letter hletter
    have hletters : ∀ e ∈ [(0x07, 'a'),(0x08, 'b'),(0x09, 't'),(0x0A, 'n'),(0x0B, 'v'),
        (0x0C, 'f'),(0x0D, 'r'),(0x22, '"'),((0x5C : ℕ), '\\')],isLineBreak e.2=false := by decide
    obtain ⟨before,after,hsplit,-⟩ := List.lookup_eq_some_iff.mp hletter
    rcases List.mem_cons.mp hd with rfl | hd
    · decide
    · rw [List.mem_singleton.mp hd]
      refine hletters (c.toNat,letter) ?_
      rw [hsplit]
      exact List.mem_append_right _ List.mem_cons_self
  · split_ifs at hd with hplain
    · rw [List.mem_singleton.mp hd]
      exact isLineBreak_usual hplain
    · obtain ⟨byte,-,hbyte⟩ := List.mem_flatMap.mp hd
      exact octal_line _ d hbyte

/-- `git` as it quotes paths by default. -/
def defaultGit : Git where
  quoted path := String.ofList ('"' :: path.toList.flatMap quotedChar ++ ['"'])
  quoted_opens path := by rw [String.toList_ofList]; rfl
  quoted_line path c hc := by
    rw [String.toList_ofList,List.cons_append,List.mem_cons,List.mem_append,
      List.mem_singleton] at hc
    rcases hc with rfl | hc | rfl
    · decide
    · obtain ⟨d,-,hd⟩ := List.mem_flatMap.mp hc
      exact quotedChar_line d c hd
    · decide

/-- A release that deletes a file of the application and changes nothing else. -/
def withoutModule : Delta where
  changes := [.deleted "app/summary_delivery.py"]
  untracked := []
  includeWorktree := true
  before := some "services:\n\n  mikrotik-control:\n    build: .\n"
  after := some "services:\n\n  mikrotik-control:\n    build: .\n"

end Example

end ZenControl.Rebuild
