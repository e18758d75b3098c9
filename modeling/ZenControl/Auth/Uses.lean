import ZenControl.Auth.Calls

/-! What the calls have accepted and what the tables know of it: the statements that accept a
code, made while its check stands, keep every code used once. -/
namespace ZenControl.Auth
open Calls Rows

section Uses
variable {ι : Type}

/-- The counters accepted for a secret, in their order. -/
def countersOf (secret : String) (uses : List (ι × Use)) : List ℤ :=
  uses.filterMap fun u => match u.2 with
    | .counter secret' counter => if secret'=secret then some counter else none
    | _ => none

/-- The recovery codes accepted. -/
def codesOf (uses : List (ι × Use)) : List ℕ :=
  uses.filterMap fun u => match u.2 with
    | .recoveryCode id => some id
    | _ => none

/-- The enrolments that have become authenticators. -/
def enrollmentsOf (uses : List (ι × Use)) : List String :=
  uses.filterMap fun u => match u.2 with
    | .enrollment tokenHash => some tokenHash
    | _ => none

/-- Accepted counters rise, and no code and no enrolment comes twice. -/
structure UsedOnce (uses : List (ι × Use)) : Prop where
  counters : ∀ secret, (countersOf secret uses).Pairwise fun c c' => c < c'
  codes : (codesOf uses).Nodup
  enrollments : (enrollmentsOf uses).Nodup

lemma UsedOnce.nil : UsedOnce ([] : List (ι × Use)) := ⟨fun _ => .nil,.nil,.nil⟩

lemma mem_countersOf {secret : String} {uses : List (ι × Use)} {c : ℤ} :
    c ∈ countersOf secret uses ↔ ∃ j, (j,Use.counter secret c) ∈ uses := by
  unfold countersOf
  rw [List.mem_filterMap]
  constructor
  · rintro ⟨⟨j,u⟩,hu,h⟩
    cases u with
    | counter secret' c' =>
      dsimp only at h
      split_ifs at h with hsecret
      cases h
      exact ⟨j,hsecret ▸ hu⟩
    | recoveryCode id => cases h
    | enrollment tokenHash => cases h
  · rintro ⟨j,hj⟩
    exact ⟨_,hj,by simp⟩

lemma mem_codesOf {uses : List (ι × Use)} {id : ℕ} :
    id ∈ codesOf uses ↔ ∃ j, (j,Use.recoveryCode id) ∈ uses := by
  unfold codesOf
  rw [List.mem_filterMap]
  constructor
  · rintro ⟨⟨j,u⟩,hu,h⟩
    cases u with
    | counter secret c => cases h
    | recoveryCode id' => cases h; exact ⟨j,hu⟩
    | enrollment tokenHash => cases h
  · rintro ⟨j,hj⟩
    exact ⟨_,hj,rfl⟩

lemma mem_enrollmentsOf {uses : List (ι × Use)} {tokenHash : String} :
    tokenHash ∈ enrollmentsOf uses ↔ ∃ j, (j,Use.enrollment tokenHash) ∈ uses := by
  unfold enrollmentsOf
  rw [List.mem_filterMap]
  constructor
  · rintro ⟨⟨j,u⟩,hu,h⟩
    cases u with
    | counter secret c => cases h
    | recoveryCode id => cases h
    | enrollment tokenHash' => cases h; exact ⟨j,hu⟩
  · rintro ⟨j,hj⟩
    exact ⟨_,hj,rfl⟩

variable {uses : List (ι × Use)} {i : ι}

/-- A counter above all those accepted before. -/
lemma UsedOnce.counter (h : UsedOnce uses) {secret : String} {c : ℤ}
    (hc : ∀ j c', (j,Use.counter secret c') ∈ uses → c' < c) :
    UsedOnce (uses ++ [(i,.counter secret c)]) := by
  refine ⟨fun secret' => ?_,?_,?_⟩
  · unfold countersOf
    rw [List.filterMap_append]
    refine List.pairwise_append.mpr ⟨h.counters secret',?_,fun c' hc' c'' hc'' => ?_⟩
    · by_cases hsecret : secret=secret' <;> simp [hsecret]
    · by_cases hsecret : secret=secret'
      · subst hsecret
        obtain ⟨j,hj⟩ := mem_countersOf.mp hc'
        have hc'' : c''=c := by simpa using hc''
        exact hc'' ▸ hc j c' hj
      · simp [hsecret] at hc''
  · simpa [codesOf] using h.codes
  · simpa [enrollmentsOf] using h.enrollments

/-- A recovery code that was not accepted before. -/
lemma UsedOnce.code (h : UsedOnce uses) {id : ℕ} (hid : ∀ j, (j,Use.recoveryCode id) ∉ uses) :
    UsedOnce (uses ++ [(i,.recoveryCode id)]) := by
  refine ⟨fun secret => ?_,?_,?_⟩
  · simpa [countersOf] using h.counters secret
  · unfold codesOf
    rw [List.filterMap_append]
    refine h.codes.append (by simp) fun id' hid' hlast => ?_
    obtain ⟨j,hj⟩ := mem_codesOf.mp hid'
    have hlast : id'=id := by simpa using hlast
    exact hid j (hlast ▸ hj)
  · simpa [enrollmentsOf] using h.enrollments

/-- An enrolment that was not accepted before. -/
lemma UsedOnce.enrollment (h : UsedOnce uses) {tokenHash : String}
    (htoken : ∀ j, (j,Use.enrollment tokenHash) ∉ uses) :
    UsedOnce (uses ++ [(i,.enrollment tokenHash)]) := by
  refine ⟨fun secret => ?_,?_,?_⟩
  · simpa [countersOf] using h.counters secret
  · simpa [codesOf] using h.codes
  · unfold enrollmentsOf
    rw [List.filterMap_append]
    refine h.enrollments.append (by simp) fun tokenHash' hmem hlast => ?_
    obtain ⟨j,hj⟩ := mem_enrollmentsOf.mp hmem
    have hlast : tokenHash'=tokenHash := by simpa using hlast
    exact htoken j (hlast ▸ hj)

end Uses

section Invariant
variable {ι : Type} (env : AuthEnv)

/-- No two enrolments have the same token or, confirmed or not, the same secret. -/
structure Distinct (db : AuthDb) : Prop where
  tokens : ∀ e ∈ db.enrollments, ∀ e' ∈ db.enrollments, e.tokenHash=e'.tokenHash → e=e'
  totpDevices : ∀ id d id' d' secret, db.totpDevices.find id=some d →
    db.totpDevices.find id'=some d' → env.decrypt d.secretEnc=some secret →
    env.decrypt d'.secretEnc=some secret → id=id'
  enrollments : ∀ e ∈ db.enrollments, ∀ e' ∈ db.enrollments, ∀ secret,
    env.decrypt e.secretEnc=some secret → env.decrypt e'.secretEnc=some secret → e=e'
  apart : ∀ id d, db.totpDevices.find id=some d → ∀ e ∈ db.enrollments, ∀ secret,
    env.decrypt d.secretEnc=some secret → env.decrypt e.secretEnc≠some secret

/-- The tables know every code that was accepted: a counter is not above the one stored, a
recovery code is marked or replaced, and an enrolment is gone. -/
structure Sound (s : AuthState ι) : Prop where
  distinct : Distinct env s.db
  once : UsedOnce s.uses
  counter : ∀ j secret c, (j,Use.counter secret c) ∈ s.uses → ∃ id d,
    s.db.totpDevices.find id=some d ∧ env.decrypt d.secretEnc=some secret ∧
      c ≤ d.lastUsedCounter
  code : ∀ j id, (j,Use.recoveryCode id) ∈ s.uses → id ≤ s.db.recoveryCodes.last ∧
    ∀ c, s.db.recoveryCodes.find id=some c → c.usedAt.isSome
  enrollment : ∀ j tokenHash, (j,Use.enrollment tokenHash) ∈ s.uses →
    ∀ e ∈ s.db.enrollments, e.tokenHash≠tokenHash

/-- What no call takes back: an authenticator and its secret, the absence of an enrolment and
what was accepted. -/
structure Later (s t : AuthState ι) : Prop where
  totpDevices : ∀ id d, s.db.totpDevices.find id=some d →
    ∃ d', t.db.totpDevices.find id=some d' ∧ d'.secretEnc=d.secretEnc
  enrollments : t.db.enrollments ⊆ s.db.enrollments
  uses : s.uses ⊆ t.uses

lemma Later.refl (s : AuthState ι) : Later s s :=
  ⟨fun _ d h => ⟨d,h,rfl⟩,List.Subset.refl _,List.Subset.refl _⟩

lemma Later.trans (s t u : AuthState ι) (h : Later s t) (h' : Later t u) : Later s u := by
  refine ⟨fun id d hd => ?_,List.Subset.trans h'.enrollments h.enrollments,
    List.Subset.trans h.uses h'.uses⟩
  obtain ⟨d',hd',hsecret⟩ := h.totpDevices id d hd
  obtain ⟨d'',hd'',hsecret'⟩ := h'.totpDevices id d' hd'
  exact ⟨d'',hd'',hsecret'.trans hsecret⟩

variable {env} {s s' : AuthState ι}

/-- Enrolments that are dropped and recovery codes that are replaced change nothing else. -/
lemma Sound.quiet (h : Sound env s) (hdevices : s'.db.totpDevices=s.db.totpDevices)
    (huses : s'.uses=s.uses) (henrollments : s'.db.enrollments ⊆ s.db.enrollments)
    (hlast : s.db.recoveryCodes.last ≤ s'.db.recoveryCodes.last)
    (hcodes : ∀ id c, id ≤ s.db.recoveryCodes.last → s'.db.recoveryCodes.find id=some c →
      s.db.recoveryCodes.find id=some c) : Sound env s' ∧ Later s s' := by
  refine ⟨⟨⟨?_,?_,?_,?_⟩,huses ▸ h.once,?_,?_,?_⟩,?_,henrollments,?_⟩
  · exact fun e he e' he' => h.distinct.tokens e (henrollments he) e' (henrollments he')
  · rw [hdevices]
    exact h.distinct.totpDevices
  · exact fun e he e' he' => h.distinct.enrollments e (henrollments he) e' (henrollments he')
  · rw [hdevices]
    exact fun id d hd e he => h.distinct.apart id d hd e (henrollments he)
  · rw [hdevices,huses]
    exact h.counter
  · rw [huses]
    intro j id hj
    obtain ⟨hle,hused⟩ := h.code j id hj
    exact ⟨hle.trans hlast,fun c hc => hused c (hcodes id c hle hc)⟩
  · rw [huses]
    exact fun j tokenHash hj e he => h.enrollment j tokenHash hj e (henrollments he)
  · rw [hdevices]
    exact fun id d hd => ⟨d,hd,rfl⟩
  · rw [huses]
    exact List.Subset.refl _

/-- The statements that neither accept a code nor begin or change an enrolment. -/
def Statement.Quiet : Statement → Prop
  | .insertTotpDevice .. | .useCounter .. | .useCode .. | .insertEnrollment .. => False
  | .revokeTotpDevice .. => False
  | _ => True

lemma insertCodes_quiet {username : String} {now : ℤ} {digests : List String} {db db' : AuthDb}
    (h : db.insertCodes username now digests=.ok db') :
    db'.totpDevices=db.totpDevices ∧ db'.enrollments=db.enrollments ∧
      db.recoveryCodes.last ≤ db'.recoveryCodes.last ∧ ∀ id c, id ≤ db.recoveryCodes.last →
        db'.recoveryCodes.find id=some c → db.recoveryCodes.find id=some c := by
  induction digests generalizing db with
  | nil =>
    cases h
    exact ⟨rfl,rfl,le_refl _,fun _ _ _ hc => hc⟩
  | cons digest digests ih =>
    unfold AuthDb.insertCodes at h
    split_ifs at h
    obtain ⟨hdevices,henrollments,hlast,hcodes⟩ := ih h
    refine ⟨hdevices,henrollments,(Nat.le_succ _).trans hlast,fun id c hid hc => ?_⟩
    rcases Table.find_insert_cases (hcodes id c (Nat.le_succ_of_le hid) hc) with hc | ⟨rfl,-⟩
    · exact hc
    · exact absurd hid (Nat.not_succ_le_self _)

lemma Sound.perform_quiet (h : Sound env s) {i : ι} {statement : Statement}
    (hs : s.perform i statement=.ok s') (hquiet : statement.Quiet) :
    Sound env s' ∧ Later s s' := by
  obtain ⟨db,hrun,rfl⟩ : ∃ db, statement.run s.db=.ok db ∧
      s'={ db := db, uses := s.uses ++ statement.uses.map fun u => (i,u) } := by
    unfold AuthState.perform at hs
    cases hrun : statement.run s.db with
    | error e => rw [hrun] at hs; cases hs
    | ok db => rw [hrun] at hs; cases hs; exact ⟨db,rfl,rfl⟩
  cases statement with
  | insertAccount username now =>
    cases hrun
    refine h.quiet ?_ (List.append_nil _) ?_ ?_ ?_
    all_goals dsimp only; split_ifs
    all_goals simp
  | saveSettings username loginMode sharedDisplayMode unlockMinutes now =>
    cases hrun
    exact h.quiet rfl (List.append_nil _) (List.Subset.refl _) (le_refl _) fun _ _ _ hc => hc
  | clearEnrollments username now =>
    cases hrun
    exact h.quiet rfl (List.append_nil _) (List.filter_subset_self _) (le_refl _) fun _ _ _ hc => hc
  | insertEnrollment row => exact hquiet.elim
  | cancelEnrollment tokenHash username =>
    cases hrun
    exact h.quiet rfl (List.append_nil _) (List.filter_subset_self _) (le_refl _) fun _ _ _ hc => hc
  | insertTotpDevice tokenHash secret row => exact hquiet.elim
  | deleteEnrollment tokenHash =>
    cases hrun
    exact h.quiet rfl (List.append_nil _) (List.filter_subset_self _) (le_refl _) fun _ _ _ hc => hc
  | useCounter id secret counter now => exact hquiet.elim
  | revokeTotpDevice username id now => exact hquiet.elim
  | clearCodes username =>
    cases hrun
    refine h.quiet rfl (List.append_nil _) (List.Subset.refl _) (le_refl _) fun id c _ hc => ?_
    rw [Table.find_delete,Option.filter_eq_some_iff] at hc
    exact hc.1
  | insertCodes username digests now =>
    obtain ⟨hdevices,henrollments,hlast,hcodes⟩ := insertCodes_quiet hrun
    exact h.quiet hdevices (List.append_nil _) (henrollments ▸ List.Subset.refl _) hlast hcodes
  | useCode id now => exact hquiet.elim

section Counter
variable {id : ℕ} {d : TotpDevice} {c now : ℤ}

/-- An accepted counter leaves the secret of every row. -/
lemma find_used {t : Table TotpDevice} {k : ℕ} {e : TotpDevice}
    (h : (t.modify id fun d => d.used c now).find k=some e) :
    ∃ e', t.find k=some e' ∧ e'.secretEnc=e.secretEnc := by
  rw [Table.find_modify] at h
  split_ifs at h with hk
  · obtain ⟨e',he',rfl⟩ := Option.map_eq_some_iff.mp h
    exact ⟨e',he',rfl⟩
  · exact ⟨e,h,rfl⟩

/-- A counter that is not below the one of its row raises it, and leaves the other rows. -/
lemma used_find {t : Table TotpDevice} {k : ℕ} {e : TotpDevice} (hd : t.find id=some d)
    (hc : d.lastUsedCounter ≤ c) (h : t.find k=some e) :
    ∃ e', (t.modify id fun d => d.used c now).find k=some e' ∧ e'.secretEnc=e.secretEnc ∧
      e.lastUsedCounter ≤ e'.lastUsedCounter := by
  rw [Table.find_modify,h]
  split_ifs with hk
  · subst hk
    obtain rfl := Option.some.inj (hd.symm.trans h)
    exact ⟨d.used c now,rfl,rfl,hc⟩
  · exact ⟨e,rfl,rfl,le_refl _⟩

lemma Distinct.useCounter {db : AuthDb} (h : Distinct env db) :
    Distinct env { db with totpDevices := db.totpDevices.modify id fun d => d.used c now } := by
  refine ⟨h.tokens,fun k e k' e' secret he he' hes hes' => ?_,h.enrollments,
    fun k e he e' he' secret hes => ?_⟩
  · obtain ⟨e₀,he₀,heq⟩ := find_used he
    obtain ⟨e₀',he₀',heq'⟩ := find_used he'
    exact h.totpDevices k e₀ k' e₀' secret he₀ he₀' (heq ▸ hes) (heq' ▸ hes')
  · obtain ⟨e₀,he₀,heq⟩ := find_used he
    exact h.apart k e₀ he₀ e' he' secret (heq ▸ hes)

/-- A counter is accepted above the one that its authenticator has stored. -/
lemma Sound.useCounter (h : Sound env s) {i : ι} {secret : String}
    (hd : s.db.totpDevices.find id=some d) (hsecret : env.decrypt d.secretEnc=some secret)
    (hc : d.lastUsedCounter < c) (hs : s.perform i (.useCounter id secret c now)=.ok s') :
    Sound env s' ∧ Later s s' ∧ (i,Use.counter secret c) ∈ s'.uses := by
  cases hs
  have hbelow : ∀ j c', (j,Use.counter secret c') ∈ s.uses → c' < c := by
    intro j c' hj
    obtain ⟨k,e,he,hesecret,hle⟩ := h.counter j secret c' hj
    obtain rfl := h.distinct.totpDevices k e id d secret he hd hesecret hsecret
    obtain rfl := Option.some.inj (he.symm.trans hd)
    omega
  refine ⟨⟨h.distinct.useCounter,h.once.counter hbelow,fun j secret' c' hj => ?_,
    fun j k hj => ?_,fun j tokenHash hj => ?_⟩,⟨fun k e he => ?_,List.Subset.refl _,
    List.subset_append_left _ _⟩,List.mem_append_right _ (by simp [Statement.uses])⟩
  · rcases List.mem_append.mp hj with hj | hj
    · obtain ⟨k,e,he,hes,hle⟩ := h.counter j secret' c' hj
      obtain ⟨e',he',heq,hle'⟩ := used_find hd hc.le he
      exact ⟨k,e',he',heq ▸ hes,hle.trans hle'⟩
    · simp only [Statement.uses,List.map_cons,List.map_nil,List.mem_singleton,Prod.mk.injEq,
        Use.counter.injEq] at hj
      obtain ⟨-,rfl,rfl⟩ := hj
      refine ⟨id,d.used c' now,?_,hsecret,le_refl _⟩
      rw [Table.find_modify,if_pos rfl,hd,Option.map_some]
  · rcases List.mem_append.mp hj with hj | hj
    · exact h.code j k hj
    · simp [Statement.uses] at hj
  · rcases List.mem_append.mp hj with hj | hj
    · exact h.enrollment j tokenHash hj
    · simp [Statement.uses] at hj
  · obtain ⟨e',he',heq,-⟩ := used_find hd hc.le he
    exact ⟨e',he',heq⟩

end Counter

/-- A recovery code that is there and unused is accepted. -/
lemma Sound.useCode (h : Sound env s) {i : ι} {id : ℕ} {c : RecoveryCode} {now : ℤ}
    (hc : s.db.recoveryCodes.find id=some c) (hunused : c.usedAt=none)
    (hs : s.perform i (.useCode id now)=.ok s') :
    Sound env s' ∧ Later s s' ∧ (i,Use.recoveryCode id) ∈ s'.uses := by
  cases hs
  have hnew : ∀ j, (j,Use.recoveryCode id) ∉ s.uses := fun j hj => by
    have hused := (h.code j id hj).2 c hc
    rw [hunused] at hused
    cases hused
  refine ⟨⟨⟨h.distinct.tokens,h.distinct.totpDevices,h.distinct.enrollments,h.distinct.apart⟩,
    h.once.code hnew,fun j secret c' hj => ?_,fun j k hj => ?_,
    fun j tokenHash hj => ?_⟩,⟨fun k e he => ⟨e,he,rfl⟩,List.Subset.refl _,
    List.subset_append_left _ _⟩,List.mem_append_right _ (by simp [Statement.uses])⟩
  · rcases List.mem_append.mp hj with hj | hj
    · exact h.counter j secret c' hj
    · simp [Statement.uses] at hj
  · dsimp only
    rcases List.mem_append.mp hj with hj | hj
    · obtain ⟨hle,hused⟩ := h.code j k hj
      refine ⟨hle,fun c' hc' => ?_⟩
      rw [Table.find_modify] at hc'
      split_ifs at hc'
      · obtain ⟨c'',-,rfl⟩ := Option.map_eq_some_iff.mp hc'
        rfl
      · exact hused c' hc'
    · simp only [Statement.uses,List.map_cons,List.map_nil,List.mem_singleton,Prod.mk.injEq,
        Use.recoveryCode.injEq] at hj
      obtain ⟨-,rfl⟩ := hj
      refine ⟨show k ≤ s.db.recoveryCodes.last from Table.find_le hc,fun c' hc' => ?_⟩
      rw [Table.find_modify,if_pos rfl,hc] at hc'
      cases hc'
      rfl
  · rcases List.mem_append.mp hj with hj | hj
    · exact h.enrollment j tokenHash hj
    · simp [Statement.uses] at hj

/-- An enrolment that is there becomes an authenticator with its secret and is gone. -/
lemma Sound.enrol (h : Sound env s) {i : ι} {e : Enrollment} {secret : String}
    {row : TotpDevice} {t : AuthState ι} (he : e ∈ s.db.enrollments)
    (hsecret : env.decrypt e.secretEnc=some secret)
    (hrow : env.decrypt row.secretEnc=some secret)
    (ht : s.perform i (.insertTotpDevice e.tokenHash secret row)=.ok t)
    (hs : t.perform i (.deleteEnrollment e.tokenHash)=.ok s') :
    Sound env s' ∧ Later s s' ∧ (i,Use.counter secret row.lastUsedCounter) ∈ s'.uses ∧
      (i,Use.enrollment e.tokenHash) ∈ s'.uses := by
  cases ht
  cases hs
  have hleft : ∀ e' ∈ Rows.drop Enrollment.tokenHash e.tokenHash s.db.enrollments,
      e' ∈ s.db.enrollments ∧ e'≠e := fun e' he' => by
    obtain ⟨hmem,hne⟩ := List.mem_filter.mp he'
    exact ⟨hmem,fun heq => of_decide_eq_true hne (heq ▸ rfl)⟩
  have hnoCounter : ∀ j c, (j,Use.counter secret c) ∉ s.uses := fun j c hj => by
    obtain ⟨k,d,hd,hds,-⟩ := h.counter j secret c hj
    exact h.distinct.apart k d hd e he secret hds hsecret
  have hnoEnrollment : ∀ j, (j,Use.enrollment e.tokenHash) ∉ s.uses ++
      [(i,Use.counter secret row.lastUsedCounter)] := fun j hj => by
    rcases List.mem_append.mp hj with hj | hj
    · exact h.enrollment j _ hj e he rfl
    · simp at hj
  have huses : s.uses ++ [(i,Use.counter secret row.lastUsedCounter),(i,Use.enrollment e.tokenHash)]=
      (s.uses ++ [(i,Use.counter secret row.lastUsedCounter)]) ++
        [(i,Use.enrollment e.tokenHash)] := by simp
  simp only [Statement.uses,List.map_cons,List.map_nil,List.append_nil]
  refine ⟨⟨⟨fun e₁ h₁ e₂ h₂ => ?_,fun k d k' d' secret' hd hd' hs hs' => ?_,
    fun e₁ h₁ e₂ h₂ => ?_,fun k d hd e' he' secret' hs => ?_⟩,?_,fun j secret' c hj => ?_,
    fun j k hj => ?_,fun j tokenHash hj e' he' => ?_⟩,⟨fun k d hd => ?_,fun e' he' => ?_,
    List.subset_append_left _ _⟩,by simp,by simp⟩
  · exact h.distinct.tokens e₁ (hleft e₁ h₁).1 e₂ (hleft e₂ h₂).1
  · rcases Table.find_insert_cases hd with hold | ⟨rfl,rfl⟩
    · rcases Table.find_insert_cases hd' with hold' | ⟨rfl,rfl⟩
      · exact h.distinct.totpDevices k d k' d' secret' hold hold' hs hs'
      · obtain rfl := Option.some.inj (hrow.symm.trans hs')
        exact absurd hsecret (h.distinct.apart k d hold e he secret hs)
    · rcases Table.find_insert_cases hd' with hold' | ⟨rfl,rfl⟩
      · obtain rfl := Option.some.inj (hrow.symm.trans hs)
        exact absurd hsecret (h.distinct.apart k' d' hold' e he secret hs')
      · rfl
  · exact h.distinct.enrollments e₁ (hleft e₁ h₁).1 e₂ (hleft e₂ h₂).1
  · obtain ⟨hmem,hne⟩ := hleft e' he'
    rcases Table.find_insert_cases hd with hold | ⟨rfl,rfl⟩
    · exact h.distinct.apart k d hold e' hmem secret' hs
    · obtain rfl := Option.some.inj (hrow.symm.trans hs)
      exact fun hs' => hne (h.distinct.enrollments e' hmem e he secret hs' hsecret)
  · rw [huses]
    exact (h.once.counter fun j c hj => absurd hj (hnoCounter j c)).enrollment hnoEnrollment
  · rcases List.mem_append.mp hj with hj | hj
    · obtain ⟨k,d,hd,hs,hle⟩ := h.counter j secret' c hj
      exact ⟨k,d,Table.find_insert_of_find hd,hs,hle⟩
    · simp only [List.mem_cons,Prod.mk.injEq,Use.counter.injEq,reduceCtorEq,and_false,
        List.not_mem_nil,or_false] at hj
      obtain ⟨-,rfl,rfl⟩ := hj
      exact ⟨s.db.totpDevices.next,row,by simp [Table.find_insert],hrow,le_refl _⟩
  · rcases List.mem_append.mp hj with hj | hj
    · exact h.code j k hj
    · simp at hj
  · obtain ⟨hmem,hne⟩ := hleft e' he'
    rcases List.mem_append.mp hj with hj | hj
    · exact h.enrollment j tokenHash hj e' hmem
    · simp only [List.mem_cons,Prod.mk.injEq,Use.enrollment.injEq,reduceCtorEq,and_false,
        List.not_mem_nil,or_false,false_or] at hj
      obtain ⟨-,rfl⟩ := hj
      exact of_decide_eq_true (List.mem_filter.mp he').2
  · exact ⟨d,Table.find_insert_of_find hd,rfl⟩
  · exact (hleft e' he').1

end Invariant

end ZenControl.Auth
