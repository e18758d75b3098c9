import ZenControl.Lines
import ZenControl.Router.Rates
import Mathlib.Algebra.Field.Rat
import Mathlib.Tactic.FieldSimp
import Mathlib.Tactic.NormNum

/-! Which bandwidth rates survive their way through 28-digit decimals: what a rate denotes, what
its reading and its label make of it, and when two limits that are read alike are alike. -/
namespace ZenControl.Router
open Decimals

section Labels
variable {n : ℕ} {c : Char}

lemma digitValue_digit (h : c.isDigit) : digitValue c=some (c.toNat-48) := by
  have hrange : 48 ≤ c.toNat ∧ c.toNat<58 := by
    simp only [Char.isDigit,Bool.and_eq_true,decide_eq_true_eq] at h
    exact ⟨h.1,Nat.lt_succ_of_le h.2⟩
  have hfind : zeroDigits.find? (fun z => z ≤ c.toNat && c.toNat < z+10)=some 48 :=
    List.find?_cons_of_pos (by simpa using hrange)
  rw [digitValue,hfind]
  rfl

lemma decimalDigits_label (n : ℕ) : decimalDigits (Nat.toDigits 10 n)=some n := by
  have hfold (cs : List Char) (h : ∀ c ∈ cs, c.isDigit) (start : ℕ) :
      cs.foldl (fun n c => n.bind fun n => (digitValue c).map fun d => 10*n+d) (some start)=
        some (Nat.ofDigitChars 10 cs start) := by
    induction cs generalizing start with
    | nil => rfl
    | cons c cs ih =>
      rw [List.foldl_cons,Option.bind_some,digitValue_digit (h c List.mem_cons_self)]
      exact ih (fun d hd => h d (List.mem_cons_of_mem c hd)) _
  have hdigits : ∀ c ∈ Nat.toDigits 10 n, c.isDigit := fun c hc =>
    Nat.isDigit_of_mem_toDigits (by decide) (by decide) hc
  unfold decimalDigits
  rw [if_neg (by simp),hfold _ hdigits,Nat.ofDigitChars_ten_toDigits]

lemma decimalNumber_label (n : ℕ) : decimalNumber (Nat.toDigits 10 n)=some (n,0) := by
  have hsplit (cs : List Char) (h : ∀ c ∈ cs, c≠ '.') :
      splitChars (fun c => c= '.') cs=[cs] := by
    induction cs with
    | nil => rfl
    | cons c cs ih =>
      rw [splitChars,if_neg (by simpa using h c List.mem_cons_self),
        ih fun d hd => h d (List.mem_cons_of_mem c hd)]
  have hpoint : ∀ c ∈ Nat.toDigits 10 n, c≠ '.' := by
    rintro c hc rfl
    exact absurd (Nat.isDigit_of_mem_toDigits (by decide) (by decide) hc) (by decide)
  rw [decimalNumber,hsplit _ hpoint]
  simp only [decimalDigits_label,Option.map_some]

/-- The units of labels with their factors. -/
inductive IsUnit : String → ℕ → Prop
  | giga : IsUnit "G" 1000000000
  | mega : IsUnit "M" 1000000
  | kilo : IsUnit "k" 1000
  | one : IsUnit "" 1

lemma isUnit_labelUnit (bps : ℕ) : IsUnit (labelUnit bps).1 (labelUnit bps).2 := by
  unfold labelUnit
  split_ifs
  · exact .giga
  · exact .mega
  · exact .kilo
  · exact .one

/-- The unit of a label divides its rate. -/
lemma labelUnit_mul (bps : ℕ) : bps/(labelUnit bps).2*(labelUnit bps).2=bps := by
  refine Nat.div_mul_cancel (Nat.dvd_of_mod_eq_zero ?_)
  unfold labelUnit
  split_ifs with hgiga hmega hkilo
  · exact hgiga.2
  · exact hmega.2
  · exact hkilo.2
  · exact Nat.mod_one bps

lemma digit_of_mem {c : Char} (h : c ∈ Nat.toDigits 10 n) : c.isDigit :=
  Nat.isDigit_of_mem_toDigits (by decide) (by decide) h

lemma toList_label (n : ℕ) (unit : String) :
    (toString n ++ unit).toList=Nat.toDigits 10 n ++ unit.toList := by
  rw [String.toList_append,Nat.toString_eq_repr,Nat.toList_repr]

lemma rateParts_label {unit : String} {factor : ℕ} (h : IsUnit unit factor) (n : ℕ) :
    rateParts (toString n ++ unit).toList=some ((n,0),factor) := by
  have hlast : (Nat.toDigits 10 n).getLast?.bind rateFactor=none := by
    cases hget : (Nat.toDigits 10 n).getLast? with
    | none => rfl
    | some c =>
      have hc := digit_of_mem (List.mem_of_getLast? hget)
      rw [Option.bind_some]
      unfold rateFactor
      split <;> first | rfl | exact absurd hc (by decide)
  have hunit (c : Char) (hc : rateFactor c=some factor) :
      rateParts (Nat.toDigits 10 n ++ [c])=some ((n,0),factor) := by
    unfold rateParts
    rw [List.getLast?_concat,Option.bind_some,hc,List.dropLast_concat]
    simp only [decimalNumber_label,Option.map_some]
  rw [toList_label]
  cases h with
  | giga => exact hunit 'G' rfl
  | mega => exact hunit 'M' rfl
  | kilo => exact hunit 'k' rfl
  | one =>
    unfold rateParts
    simp only [String.toList_empty,List.append_nil,hlast,decimalNumber_label,Option.map_some]

lemma isSpace_digit (h : c.isDigit) : isSpace c=false := by
  have hrange : 48 ≤ c.toNat ∧ c.toNat<58 := by
    simp only [Char.isDigit,Bool.and_eq_true,decide_eq_true_eq] at h
    exact ⟨h.1,Nat.lt_succ_of_le h.2⟩
  unfold isSpace
  simp only [Bool.or_eq_false_iff,Bool.and_eq_false_iff,decide_eq_false_iff_not]
  omega

lemma strip_label {unit : String} {factor : ℕ} (h : IsUnit unit factor) (n : ℕ) :
    strip (toString n ++ unit)=toString n ++ unit := by
  have hunit : ∀ c ∈ unit.toList, isSpace c=false := by
    cases h with
    | giga => exact List.forall_mem_singleton.mpr rfl
    | mega => exact List.forall_mem_singleton.mpr rfl
    | kilo => exact List.forall_mem_singleton.mpr rfl
    | one => nofun
  have hall : ∀ c ∈ (toString n ++ unit).toList, isSpace c=false := by
    intro c hc
    rw [toList_label] at hc
    rcases List.mem_append.mp hc with hc | hc
    · exact isSpace_digit (digit_of_mem hc)
    · exact hunit c hc
  exact strip_eq_self (fun c hc => hall c (List.mem_of_mem_head? hc))
    fun c hc => hall c (List.mem_of_getLast? hc)

end Labels

section Values

/-- The rate that a text denotes, as far as it has the form of one. -/
def denoted (value : String) : Option ℚ :=
  (rateParts (strip value).toList).map fun p => (p.1.1*p.2 : ℚ)/10^p.1.2

/-- Both rates of a limit. -/
def denotedLimit (value : String) : Option (Option ℚ × Option ℚ) :=
  match splitChars (fun c => c= '/') (strip value).toList with
  | [upload,download] => some (denoted (String.ofList upload),denoted (String.ofList download))
  | _ => none

/-- A rate is exact: what is read is what is denoted, so no text of a fraction is accepted, and
the label of what is read denotes the same and is its own label. -/
structure ExactRate (value : String) : Prop where
  exact : ∀ bps, Rate.parseBps value=.ok bps → denoted value=some (bps : ℚ)
  normalized : ∀ bps, Rate.parseBps value=.ok bps → ∃ label, Rate.normalize value=.ok label ∧
    Rate.parseBps label=.ok bps ∧ Rate.normalize label=.ok label

/-- Two well-formed limits are equal exactly where they denote the same rates. -/
def ExactLimits (left right : String) : Prop :=
  ∀ l r, Rate.parseMaxLimit left=.ok l → Rate.parseMaxLimit right=.ok r →
    (Rate.limitsEqual (some left) (some right)=.ok true ↔ denotedLimit left=denotedLimit right)

/-- The number of a rate times its unit, in units of its last place. -/
def product (p : (ℕ × ℕ) × ℕ) : ℕ := p.1.1*p.2

/-- The product after rounding to 28 digits. -/
def roundedProduct (p : (ℕ × ℕ) × ℕ) : ℕ := decimalContext.rounded (product p) p.1.2

/-- A rate is safe: unless its product is zero, rounding leaves a fraction or too many digits, no
digit other than zero is dropped from the product, and the number of its label has at most 4300
digits. -/
def SafeRate (value : String) : Prop :=
  ∀ p, rateParts (strip value).toList=some p → product p≠0 →
    ¬10^p.1.2 ∣ roundedProduct p ∨ decimalContext.overflows (roundedProduct p) p.1.2 ∨
    (10^decimalContext.dropped (product p) p.1.2 ∣ product p ∧
      digits (product p/10^p.1.2/(labelUnit (product p/10^p.1.2)).2) ≤ 4300)

/-- Two products have the same value, and the same one after rounding. -/
def SameValue (p q : (ℕ × ℕ) × ℕ) : Prop := product p*10^q.1.2=product q*10^p.1.2
def RoundedAlike (p q : (ℕ × ℕ) × ℕ) : Prop :=
  roundedProduct p*10^q.1.2=roundedProduct q*10^p.1.2

/-- Both rates of a limit as their parts. -/
def limitParts (value : String) : Option (((ℕ × ℕ) × ℕ) × ((ℕ × ℕ) × ℕ)) :=
  match splitChars (fun c => c= '/') (strip value).toList with
  | [upload,download] =>
    (rateParts (strip (String.ofList upload)).toList).bind fun u =>
    (rateParts (strip (String.ofList download)).toList).map fun d => (u,d)
  | _ => none

/-- Two limits are safe: unless one of them is not accepted, their rates are rounded alike, upload
and download, only where they have the same values. -/
def SafeLimits (left right : String) : Prop :=
  (Rate.parseMaxLimit left).isOk → (Rate.parseMaxLimit right).isOk →
  ∀ u d u' d', limitParts left=some (u,d) → limitParts right=some (u',d') →
    RoundedAlike u u' → RoundedAlike d d' → SameValue u u' ∧ SameValue d d'

end Values

section Exactness
variable {value : String} {bps : ℕ} {p q : (ℕ × ℕ) × ℕ}

lemma rateFactor_pos {c : Char} {factor : ℕ} (h : rateFactor c=some factor) : 0<factor := by
  unfold rateFactor at h
  split at h <;> cases h <;> decide

lemma rateParts_pos {cs : List Char} (h : rateParts cs=some p) : 0<p.2 := by
  unfold rateParts at h
  split at h
  · rename_i factor hfactor
    obtain ⟨c,_,hc⟩ := Option.bind_eq_some_iff.mp hfactor
    obtain ⟨number,_,rfl⟩ := Option.map_eq_some_iff.mp h
    exact rateFactor_pos hc
  · obtain ⟨number,_,rfl⟩ := Option.map_eq_some_iff.mp h
    exact Nat.one_pos

/-- A rate is accepted where its rounded product is whole and not too long. -/
lemma parseBps_eq_ok :
    Rate.parseBps value=.ok bps ↔ ∃ p, rateParts (strip value).toList=some p ∧ product p≠0 ∧
      decimalContext.overflows (roundedProduct p) p.1.2=false ∧
      roundedProduct p=bps*10^p.1.2 := by
  unfold Rate.parseBps
  dsimp only
  cases hparts : rateParts (strip value).toList with
  | none => simp
  | some p =>
    obtain ⟨⟨coefficient,fraction⟩,factor⟩ := p
    have hpos : 0<factor := rateParts_pos hparts
    have hpow : 0<10^fraction := Nat.pow_pos (by decide)
    have hzero : product ((coefficient,fraction),factor)=0 ↔ coefficient=0 := by
      simp [product,Nat.ne_of_gt hpos]
    simp only [Option.some.injEq,exists_eq_left']
    rw [show product ((coefficient,fraction),factor)≠0 ↔ coefficient≠0 from hzero.not]
    change (if coefficient=0 then _ else if decimalContext.overflows
      (roundedProduct ((coefficient,fraction),factor)) fraction then _
      else if roundedProduct ((coefficient,fraction),factor)%10^fraction≠0 then _
      else Except.ok (roundedProduct ((coefficient,fraction),factor)/10^fraction))=_ ↔ _
    generalize roundedProduct ((coefficient,fraction),factor)=rounded
    split_ifs with hnone hover hrest
    · simp [hnone]
    · simp [hover]
    · refine iff_of_false (by simp) fun h => hrest ?_
      rw [h.2.2,Nat.mul_mod_left]
    · have hdvd : 10^fraction ∣ rounded := Nat.dvd_of_mod_eq_zero (not_not.mp hrest)
      rw [Except.ok.injEq,Nat.div_eq_iff_eq_mul_left hpow hdvd]
      simp [hnone,hover]

lemma denoted_eq (hparts : rateParts (strip value).toList=some p) :
    denoted value=some (bps : ℚ) ↔ product p=bps*10^p.1.2 := by
  have hpow : (10 : ℚ)^p.1.2≠0 := pow_ne_zero _ (by norm_num)
  rw [denoted,hparts,Option.map_some,Option.some.injEq,div_eq_iff hpow,product]
  exact_mod_cast Iff.rfl

/-- A label of a rate that fits and has not too many digits is read as that rate. -/
lemma parseBps_label (hbps : bps≠0) (hfits : Fits 28 bps) (hdigits : digits bps ≤ 1000000) :
    Rate.parseBps (rateLabel bps)=.ok bps := by
  have hunit := isUnit_labelUnit bps
  have hmul := labelUnit_mul bps
  have hrounded : roundedProduct ((bps/(labelUnit bps).2,0),(labelUnit bps).2)=bps := by
    unfold roundedProduct product
    rw [hmul]
    exact rounded_of_fits hfits
  refine parseBps_eq_ok.mpr ⟨((bps/(labelUnit bps).2,0),(labelUnit bps).2),?_,?_,?_,?_⟩
  · rw [rateLabel,strip_label hunit]
    exact rateParts_label hunit _
  · rw [product,hmul]
    exact hbps
  · rw [hrounded]
    exact decide_eq_false (by simpa [decimalContext] using hdigits)
  · rw [hrounded,Nat.pow_zero,Nat.mul_one]

lemma normalize_eq_ok {label : String} (h : Rate.parseBps value=.ok bps) :
    Rate.normalize value=.ok label ↔
      digits (bps/(labelUnit bps).2) ≤ 4300 ∧ label=rateLabel bps := by
  unfold Rate.normalize
  simp only [h]
  split_ifs with hlong
  · exact iff_of_false (by simp) (by omega)
  · rw [Except.ok.injEq,eq_comm]
    exact ⟨fun h => ⟨by omega,h⟩,fun h => h.2⟩

/-- A rate is exact exactly where it is safe. -/
theorem exactRate_iff (value : String) : ExactRate value ↔ SafeRate value := by
  constructor
  · rintro h p hparts hproduct
    by_cases hwhole : 10^p.1.2 ∣ roundedProduct p
    · by_cases hover : decimalContext.overflows (roundedProduct p) p.1.2
      · exact .inr (.inl hover)
      · obtain ⟨bps,hbps⟩ := hwhole
        rw [Nat.mul_comm] at hbps
        have hparsed := parseBps_eq_ok.mpr ⟨p,hparts,hproduct,by simpa using hover,hbps⟩
        have hdenoted := (denoted_eq hparts).mp (h.exact bps hparsed)
        have hself : roundedProduct p=product p := hbps.trans hdenoted.symm
        obtain ⟨label,hlabel,_⟩ := h.normalized bps hparsed
        have hquotient : product p/10^p.1.2=bps := by
          rw [hdenoted,Nat.mul_div_cancel _ (Nat.pow_pos (by decide))]
        refine .inr (.inr ⟨(rounded_eq_self_iff decimalContext _ _).mp hself,?_⟩)
        rw [hquotient]
        exact ((normalize_eq_ok hparsed).mp hlabel).1
    · exact .inl hwhole
  · intro h
    have hsafe : ∀ bps, Rate.parseBps value=.ok bps → bps≠0 ∧ digits bps ≤ 1000000 ∧
        Fits 28 bps ∧ denoted value=some (bps : ℚ) ∧ digits (bps/(labelUnit bps).2) ≤ 4300 := by
      intro bps hparsed
      obtain ⟨p,hparts,hproduct,hover,hrounded⟩ := parseBps_eq_ok.mp hparsed
      rcases h p hparts hproduct with hfraction | hlong | ⟨hdropped,hlabel⟩
      · exact absurd (hrounded ▸ Dvd.intro_left _ rfl) hfraction
      · rw [hover] at hlong
        cases hlong
      · have hself : product p=bps*10^p.1.2 :=
          ((rounded_eq_self_iff decimalContext _ _).mpr hdropped).symm.trans hrounded
        have hne : bps≠0 := by
          rintro rfl
          exact hproduct (hself.trans (Nat.zero_mul _))
        have hdigits := digits_scale (Nat.pos_of_ne_zero hne) p.1.2
        rw [Nat.mul_comm,← hrounded] at hdigits
        have hwhole : digits (roundedProduct p) ≤ 1000000+p.1.2 :=
          Nat.not_lt.mp (of_decide_eq_false hover)
        rw [hself,Nat.mul_div_cancel _ (Nat.pow_pos (by decide))] at hlabel
        exact ⟨hne,by omega,fits_of_rounded hrounded,(denoted_eq hparts).mpr hself,hlabel⟩
    refine ⟨fun bps hparsed => (hsafe bps hparsed).2.2.2.1,fun bps hparsed => ?_⟩
    obtain ⟨hne,hdigits,hfits,_,hlabel⟩ := hsafe bps hparsed
    have hagain := parseBps_label hne hfits hdigits
    exact ⟨_,(normalize_eq_ok hparsed).mpr ⟨hlabel,rfl⟩,hagain,
      (normalize_eq_ok hagain).mpr ⟨hlabel,rfl⟩⟩

end Exactness

section Limits
variable {v w left right : String} {a b : ℕ} {p q : (ℕ × ℕ) × ℕ} {l r : ℕ × ℕ}

/-- Two accepted rates are rounded alike where they are read as the same. -/
lemma roundedAlike_iff (hv : Rate.parseBps v=.ok a) (hw : Rate.parseBps w=.ok b)
    (hp : rateParts (strip v).toList=some p) (hq : rateParts (strip w).toList=some q) :
    RoundedAlike p q ↔ a=b := by
  obtain ⟨_,hparts,_,_,hrounded⟩ := parseBps_eq_ok.mp hv
  obtain rfl := Option.some.inj (hp.symm.trans hparts)
  obtain ⟨_,hparts',_,_,hrounded'⟩ := parseBps_eq_ok.mp hw
  obtain rfl := Option.some.inj (hq.symm.trans hparts')
  have hpow : 0<10^p.1.2*10^q.1.2 := Nat.mul_pos (Nat.pow_pos (by decide)) (Nat.pow_pos (by decide))
  have hright : b*10^q.1.2*10^p.1.2=b*(10^p.1.2*10^q.1.2) := by ring
  rw [RoundedAlike,hrounded,hrounded',Nat.mul_assoc,hright]
  exact ⟨fun h => Nat.eq_of_mul_eq_mul_right hpow h,fun h => by rw [h]⟩

/-- Rates of the same value are rounded alike. -/
lemma SameValue.roundedAlike (h : SameValue p q) (hp : product p≠0) (hq : product q≠0) :
    RoundedAlike p q :=
  rounded_eq decimalContext (Nat.pos_of_ne_zero hp) (Nat.pos_of_ne_zero hq) h

lemma sameValue_iff (hp : rateParts (strip v).toList=some p)
    (hq : rateParts (strip w).toList=some q) : SameValue p q ↔ denoted v=denoted w := by
  have hpow (k : ℕ) : (10 : ℚ)^k≠0 := pow_ne_zero _ (by norm_num)
  rw [denoted,denoted,hp,hq,Option.map_some,Option.map_some,Option.some.injEq,
    div_eq_div_iff (hpow _) (hpow _),SameValue,product,product]
  exact_mod_cast Iff.rfl

/-- An accepted limit has two accepted rates. -/
lemma parseMaxLimit_eq_ok : Rate.parseMaxLimit left=.ok l ↔ ∃ upload download,
    splitChars (fun c => c= '/') (strip left).toList=[upload,download] ∧
    Rate.parseBps (String.ofList upload)=.ok l.1 ∧
    Rate.parseBps (String.ofList download)=.ok l.2 := by
  unfold Rate.parseMaxLimit
  dsimp only
  split
  · rename_i upload download hsplit
    constructor
    · intro h
      refine ⟨upload,download,hsplit,?_⟩
      cases hupload : Rate.parseBps (String.ofList upload) with
      | error e => rw [hupload] at h; cases h
      | ok a =>
        cases hdownload : Rate.parseBps (String.ofList download) with
        | error e => rw [hupload,hdownload] at h; cases h
        | ok b =>
          rw [hupload,hdownload] at h
          cases h
          exact ⟨rfl,rfl⟩
    · rintro ⟨_,_,hparts,hupload,hdownload⟩
      obtain ⟨rfl,hrest⟩ := List.cons.inj (hsplit.symm.trans hparts)
      obtain rfl := List.singleton_inj.mp hrest
      rw [hupload,hdownload]
      rfl
  · rename_i hother
    exact iff_of_false (by simp) fun ⟨_,_,hsplit,_⟩ => hother _ _ hsplit

lemma limitsEqual_of_ok (hl : Rate.parseMaxLimit left=.ok l) (hr : Rate.parseMaxLimit right=.ok r) :
    Rate.limitsEqual (some left) (some right)=.ok (decide (l=r)) := by
  have hne (text : String) (limit : ℕ × ℕ) (h : Rate.parseMaxLimit text=.ok limit) : text≠"" := by
    rintro rfl
    cases h
  unfold Rate.limitsEqual
  simp only [Option.getD_some,hne left l hl,hne right r hr,decide_false,Bool.or_false,
    Bool.false_eq_true,if_false,hl,hr]

/-- Two limits are compared exactly where they are safe to compare. -/
theorem exactLimits_iff (left right : String) : ExactLimits left right ↔ SafeLimits left right := by
  have hcompare : ∀ l r, Rate.parseMaxLimit left=.ok l → Rate.parseMaxLimit right=.ok r →
      ∃ u d u' d', limitParts left=some (u,d) ∧ limitParts right=some (u',d') ∧
      product u≠0 ∧ product d≠0 ∧ product u'≠0 ∧ product d'≠0 ∧
      (RoundedAlike u u' ∧ RoundedAlike d d' ↔ l=r) ∧
      (SameValue u u' ∧ SameValue d d' ↔ denotedLimit left=denotedLimit right) := by
    intro l r hl hr
    obtain ⟨upload,download,hsplit,hupload,hdownload⟩ := parseMaxLimit_eq_ok.mp hl
    obtain ⟨upload',download',hsplit',hupload',hdownload'⟩ := parseMaxLimit_eq_ok.mp hr
    obtain ⟨u,hu,hune,_⟩ := parseBps_eq_ok.mp hupload
    obtain ⟨d,hd,hdne,_⟩ := parseBps_eq_ok.mp hdownload
    obtain ⟨u',hu',hune',_⟩ := parseBps_eq_ok.mp hupload'
    obtain ⟨d',hd',hdne',_⟩ := parseBps_eq_ok.mp hdownload'
    refine ⟨u,d,u',d',?_,?_,hune,hdne,hune',hdne',?_,?_⟩
    · simp only [limitParts,hsplit,hu,hd,Option.bind_some,Option.map_some]
    · simp only [limitParts,hsplit',hu',hd',Option.bind_some,Option.map_some]
    · rw [roundedAlike_iff hupload hupload' hu hu',roundedAlike_iff hdownload hdownload' hd hd',
        Prod.ext_iff]
    · rw [sameValue_iff hu hu',sameValue_iff hd hd',denotedLimit,denotedLimit,hsplit,hsplit',
        Option.some.injEq,Prod.mk.injEq]
  constructor
  · rintro h hl hr u d u' d' hparts hparts' hup hdown
    obtain ⟨l,hl⟩ : ∃ l, Rate.parseMaxLimit left=.ok l := by
      cases hparsed : Rate.parseMaxLimit left with
      | error e => rw [hparsed] at hl; cases hl
      | ok l => exact ⟨l,rfl⟩
    obtain ⟨r,hr⟩ : ∃ r, Rate.parseMaxLimit right=.ok r := by
      cases hparsed : Rate.parseMaxLimit right with
      | error e => rw [hparsed] at hr; cases hr
      | ok r => exact ⟨r,rfl⟩
    obtain ⟨_,_,_,_,hleft,hright,_,_,_,_,halike,hsame⟩ := hcompare l r hl hr
    obtain ⟨rfl,rfl⟩ := Prod.mk.inj (Option.some.inj (hparts.symm.trans hleft))
    obtain ⟨rfl,rfl⟩ := Prod.mk.inj (Option.some.inj (hparts'.symm.trans hright))
    refine hsame.mpr ((h l r hl hr).mp ?_)
    rw [limitsEqual_of_ok hl hr,decide_eq_true (halike.mp ⟨hup,hdown⟩)]
  · intro h l r hl hr
    obtain ⟨u,d,u',d',hleft,hright,hune,hdne,hune',hdne',halike,hsame⟩ := hcompare l r hl hr
    rw [limitsEqual_of_ok hl hr,Except.ok.injEq,decide_eq_true_eq,← halike,← hsame]
    constructor
    · rintro ⟨hup,hdown⟩
      exact h (by rw [hl]; rfl) (by rw [hr]; rfl) u d u' d' hleft hright hup hdown
    · rintro ⟨hup,hdown⟩
      exact ⟨hup.roundedAlike hune hune',hdown.roundedAlike hdne hdne'⟩

end Limits

section Results

/-- Rates are exact, and limits are compared, exactly where they are safe. -/
theorem exactRates_iff (value left right : String) :
    (ExactRate value ↔ SafeRate value) ∧ (ExactLimits left right ↔ SafeLimits left right) :=
  ⟨exactRate_iff value,exactLimits_iff left right⟩

/-- A rate of one bit and a fraction in its thirtieth digit. -/
def fractionalRate : String := "1.00000000000000000000000000001"

/-- It is accepted as a rate of one bit. -/
theorem fractionalRate_accepted :
    ¬((∀ value, ExactRate value) ∧ ∀ left right, ExactLimits left right) := by
  rintro ⟨h,_⟩
  have hparsed : Rate.parseBps fractionalRate=.ok 1 := by decide
  have hparts : rateParts (strip fractionalRate).toList=
      some ((100000000000000000000000000001,29),1) := by decide
  have hvalue := (denoted_eq hparts).mp ((h fractionalRate).exact 1 hparsed)
  exact absurd hvalue (by decide)

end Results
end ZenControl.Router
