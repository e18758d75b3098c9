import ZenControl.Router.ExactRates
import ZenControl.Router.Switching

/-! The integrity of what the application owns on RouterOS: every write of the adapter keeps it, so
the gate that was open before a write is open behind it. -/
namespace ZenControl.Router
open Calls Requests Rows

section Names

lemma digit_ne {c d : Char} (h : c.isDigit) (hd : d.isDigit=false) : c≠d := by
  rintro rfl
  rw [h] at hd
  cases hd

namespace Ipv4
variable (address : Ipv4)

lemma text_ne {c d : Char} (hc : c ∈ address.text.toList) (hdot : d≠ '.')
    (hd : d.isDigit=false) : c≠d := by
  rcases address.mem_text hc with rfl | hdigit
  · exact hdot.symm
  · exact digit_ne hdigit hd

/-- Behind the replacement of dots only they are dashes. -/
lemma dash_iff {c : Char} (hc : c ∈ address.text.toList) :
    (if c= '.' then '-' else c)= '-' ↔ c= '.' := by
  split_ifs with hdot
  · exact iff_of_true rfl hdot
  · exact iff_of_false (address.text_ne hc (by decide) rfl) hdot

lemma startsWith_append (lead name : String) : (lead ++ name).startsWith lead=true := by
  rw [String.startsWith_string_iff,String.toList_append]
  exact List.prefix_append _ _

/-- The dashed address behind a prefix of names is read as the address. -/
lemma encodedIpv4_dashed (lead : String) :
    encodedIpv4 lead (lead ++ address.dashed)=some address.text := by
  obtain ⟨hlength,hoctets⟩ := address.octets_valid
  have hsuffix : (lead ++ address.dashed).toList.drop lead.length=
      address.text.toList.map fun c => if c= '.' then '-' else c := by
    rw [String.toList_append,← String.length_toList,List.drop_left,Ipv4.dashed,
      String.toList_ofList]
  have hdots : splitChars (fun c => (if c= '.' then '-' else c)= '-') address.text.toList=
      address.octets :=
    splitChars_congr fun c hc => decide_eq_decide.mpr (address.dash_iff hc)
  have hparts : splitChars (fun c => c= '-') (address.text.toList.map
      fun c => if c= '.' then '-' else c)=address.octets := by
    rw [splitChars_map,hdots]
    refine (List.map_congr_left fun part hpart => ?_).trans (List.map_id _)
    refine (List.map_congr_left fun c hc => ?_).trans (List.map_id _)
    exact if_neg (digit_ne ((isOctet_digits (hoctets part hpart)).2.2 c hc) rfl)
  have hback : String.ofList ((address.text.toList.map fun c => if c= '.' then '-' else c).map
      fun c => if c= '-' then '.' else c)=address.text := by
    rw [List.map_map]
    refine (congrArg String.ofList ((List.map_congr_left fun c hc => ?_).trans
      (List.map_id address.text.toList))).trans String.ofList_toList
    dsimp only [Function.comp_apply]
    rw [if_congr (address.dash_iff hc) rfl rfl]
    split_ifs with hdot
    · exact hdot.symm
    · rfl
  have hdigits : (address.octets.length=4 && address.octets.all fun part =>
      0 < part.length && part.length ≤ 3 && part.all fun c => (digitValue c).isSome)=true := by
    simp only [hlength,decide_true,Bool.true_and,List.all_eq_true,Bool.and_eq_true,
      decide_eq_true_eq]
    intro part hpart
    obtain ⟨hpos,hshort,hdigits⟩ := isOctet_digits (hoctets part hpart)
    exact ⟨⟨hpos,hshort⟩,fun c hc => by rw [digitValue_digit (hdigits c hc)]; rfl⟩
  unfold encodedIpv4
  rw [if_pos (startsWith_append lead _),hsuffix]
  dsimp only
  rw [hparts,if_pos hdigits,hback,if_pos address.valid]

lemma queueIpv4_slow : queueIpv4 address.deviceSlowQueueName=some address.text := by
  have hstart : address.deviceSlowQueueName.startsWith "MC-SLOW-"=true := startsWith_append _ _
  unfold queueIpv4
  rw [if_pos hstart]
  exact address.encodedIpv4_dashed _

lemma queueIpv4_bandwidth : queueIpv4 address.deviceBandwidthQueueName=some address.text := by
  unfold queueIpv4
  have hother : address.deviceBandwidthQueueName.startsWith "MC-SLOW-"=false := by
    rw [Bool.eq_false_iff,ne_eq,String.startsWith_string_iff]
    intro h
    have hthird := List.prefix_iff_eq_take.mp h
    simp [deviceBandwidthQueueName,String.toList_append] at hthird
  rw [if_neg (by simp [hother])]
  exact address.encodedIpv4_dashed _

/-- The target that the writers of queues set is read as the address. -/
lemma queueTargetIpv4_text : queueTargetIpv4 (address.text ++ "/32")=some address.text := by
  have htext : (address.text ++ "/32").toList=address.text.toList ++ ['/','3','2'] := by
    rw [String.toList_append]
    rfl
  have hstrip : strip (address.text ++ "/32")=address.text ++ "/32" := by
    refine strip_eq_self (fun c hc => ?_) fun c hc => ?_
    · rw [htext] at hc
      have hmem : c ∈ address.text.toList := by
        obtain ⟨d,ds,hds⟩ := List.exists_cons_of_ne_nil address.text_ne_nil
        rw [hds,List.cons_append,List.head?_cons,Option.mem_some_iff] at hc
        rw [hds,← hc]
        exact List.mem_cons_self
      rcases address.mem_text hmem with rfl | hdigit
      · decide
      · exact isSpace_digit hdigit
    · rw [htext,List.getLast?_append] at hc
      obtain rfl : c= '2' := by simpa using hc.symm
      decide
  unfold queueTargetIpv4
  rw [hstrip]
  dsimp only
  rw [htext]
  have hcomma : ¬(address.text.toList ++ ['/','3','2']).contains ',' := by
    rw [List.contains_iff_mem]
    intro hmem
    rcases List.mem_append.mp hmem with hmem | hmem
    · exact address.text_ne hmem (by decide) rfl rfl
    · revert hmem
      decide
  rw [if_neg hcomma,splitChars_append (fun d hd => ?_) (by decide)]
  · rw [show splitChars (fun c => c= '/') ['3','2']=[['3','2']] from by decide]
    dsimp only
    rw [String.ofList_toList,address.valid]
    rfl
  · exact decide_eq_false (address.text_ne hd (by decide) rfl)

end Ipv4
end Names

section Tables
variable {env : Environment} {address : Ipv4}

lemma addressListIntegrity_iff (rows : List AddressEntry) : addressListIntegrity env rows=true ↔
    ∀ e ∈ rows, isManagedList e.list=true → isAddress env e.address=true ∧
      rows.countP (fun e' => e'.list=e.list && e'.address=e.address) ≤ 1 := by
  unfold addressListIntegrity
  simp only [List.all_eq_true,List.mem_filter,and_imp,Bool.and_eq_true,decide_eq_true_eq,
    List.countP_filter]
  refine forall₃_congr fun e _ hmanaged => and_congr_right fun _ => ?_
  have hcount : (rows.countP fun e' => (decide (e'.list=e.list) &&
      decide (e'.address=e.address)) && isManagedList e'.list)=
      rows.countP fun e' => e'.list=e.list && e'.address=e.address := by
    refine List.countP_congr fun e' _ => ?_
    simp only [Bool.and_eq_true,decide_eq_true_eq,and_iff_left_iff_imp]
    rintro ⟨hlist,-⟩
    rw [hlist]
    exact hmanaged
  rw [hcount]

lemma queueIntegrity_iff (rows : List SimpleQueue) : queueIntegrity rows=true ↔
    ∀ q ∈ rows, isManagedQueue q.name=true → (queueIpv4 q.name).isSome=true ∧
      queueIpv4 q.name=queueTargetIpv4 q.target ∧ rows.countP (fun q' => q'.name=q.name) ≤ 1 := by
  unfold queueIntegrity
  simp only [List.all_eq_true,List.mem_filter,and_imp,Bool.and_eq_true,decide_eq_true_eq,
    List.countP_filter,and_assoc]
  refine forall₃_congr fun q _ hmanaged => and_congr_right fun _ => and_congr_right fun _ => ?_
  have hcount : (rows.countP fun q' => decide (q'.name=q.name) && isManagedQueue q'.name)=
      rows.countP fun q' => q'.name=q.name := by
    refine List.countP_congr fun q' _ => ?_
    simp only [Bool.and_eq_true,decide_eq_true_eq,and_iff_left_iff_imp]
    intro hname
    rw [hname]
    exact hmanaged
  rw [hcount]

lemma addressListIntegrity_sublist {rows rows' : List AddressEntry} (h : rows'.Sublist rows)
    (hrows : addressListIntegrity env rows=true) : addressListIntegrity env rows'=true := by
  rw [addressListIntegrity_iff] at hrows ⊢
  intro e he hmanaged
  obtain ⟨haddress,hcount⟩ := hrows e (h.subset he) hmanaged
  exact ⟨haddress,h.countP_le.trans hcount⟩

/-- A first entry of a device in a list may be added. -/
lemma addressListIntegrity_append {rows : List AddressEntry} {e : AddressEntry}
    (hrows : addressListIntegrity env rows=true) (haddress : isIpv4 e.address)
    (hfirst : ∀ e' ∈ rows, ¬(e'.list=e.list ∧ e'.address=e.address)) :
    addressListIntegrity env (rows ++ [e])=true := by
  rw [addressListIntegrity_iff] at hrows ⊢
  intro e' he' hmanaged
  rw [List.countP_append,List.countP_singleton]
  rcases List.mem_append.mp he' with he' | he'
  · obtain ⟨haddress',hcount⟩ := hrows e' he' hmanaged
    have hother : ¬(e.list=e'.list && e.address=e'.address)=true := by
      rw [Bool.and_eq_true_iff,decide_eq_true_iff,decide_eq_true_iff]
      exact fun h => hfirst e' he' ⟨h.1.symm,h.2.symm⟩
    refine ⟨haddress',?_⟩
    rw [if_neg hother]
    exact hcount
  · rw [List.mem_singleton.mp he']
    have hnone : (rows.countP fun e' => e'.list=e.list && e'.address=e.address)=0 :=
      List.countP_eq_zero.mpr fun e' he' => by simpa using hfirst e' he'
    refine ⟨Bool.or_eq_true_iff.mpr (.inl haddress),?_⟩
    rw [hnone]
    split_ifs <;> omega

lemma queueIntegrity_sublist {rows rows' : List SimpleQueue} (h : rows'.Sublist rows)
    (hrows : queueIntegrity rows=true) : queueIntegrity rows'=true := by
  rw [queueIntegrity_iff] at hrows ⊢
  intro q hq hmanaged
  obtain ⟨hnamed,htarget,hcount⟩ := hrows q (h.subset hq) hmanaged
  exact ⟨hnamed,htarget,h.countP_le.trans hcount⟩

/-- A first queue with the address of its target in its name may be added. -/
lemma queueIntegrity_append {rows : List SimpleQueue} {q : SimpleQueue}
    (hrows : queueIntegrity rows=true) (hnamed : queueIpv4 q.name=some address.text)
    (htarget : queueTargetIpv4 q.target=some address.text)
    (hfirst : ∀ q' ∈ rows, q'.name≠q.name) : queueIntegrity (rows ++ [q])=true := by
  rw [queueIntegrity_iff] at hrows ⊢
  intro q' hq' hmanaged
  rw [List.countP_append,List.countP_singleton]
  rcases List.mem_append.mp hq' with hq' | hq'
  · obtain ⟨hnamed',htarget',hcount⟩ := hrows q' hq' hmanaged
    refine ⟨hnamed',htarget',?_⟩
    rw [if_neg fun h => hfirst q' hq' (of_decide_eq_true h).symm]
    exact hcount
  · rw [List.mem_singleton.mp hq']
    have hnone : (rows.countP fun q' => q'.name=q.name)=0 :=
      List.countP_eq_zero.mpr fun q' hq' => by simpa using hfirst q' hq'
    refine ⟨by rw [hnamed]; rfl,hnamed.trans htarget.symm,?_⟩
    rw [hnone]
    split_ifs <;> omega

/-- Queues may get other fields, with the address of their name as the target. -/
lemma queueIntegrity_map {α : Type} {rows : List α} {f g : α → SimpleQueue}
    (hrows : queueIntegrity (rows.map f)=true) (hname : ∀ r ∈ rows, (g r).name=(f r).name)
    (htarget : ∀ r ∈ rows, g r=f r ∨ queueIpv4 (g r).name=queueTargetIpv4 (g r).target) :
    queueIntegrity (rows.map g)=true := by
  rw [queueIntegrity_iff] at hrows ⊢
  intro q hq hmanaged
  obtain ⟨r,hr,rfl⟩ := List.mem_map.mp hq
  rw [hname r hr] at hmanaged
  obtain ⟨hnamed,hfits,hcount⟩ := hrows (f r) (List.mem_map_of_mem hr) hmanaged
  refine ⟨hname r hr ▸ hnamed,?_,?_⟩
  · rcases htarget r hr with hsame | hset
    · rw [hsame]
      exact hfits
    · exact hset
  · rw [List.countP_map] at hcount ⊢
    refine (List.countP_congr fun r' hr' => ?_).trans_le hcount
    rw [Function.comp_apply,Function.comp_apply,hname r' hr',hname r hr]

/-- A name with an address in it is the prefix and the dashed address. -/
lemma encodedIpv4_name {lead name text : String} (h : encodedIpv4 lead name=some text) :
    name.toList=lead.toList ++ text.toList.map fun c => if c= '.' then '-' else c := by
  unfold encodedIpv4 at h
  by_cases hstart : name.startsWith lead=true
  swap
  · rw [if_neg hstart] at h
    cases h
  rw [if_pos hstart] at h
  dsimp only at h
  split_ifs at h with hparts hvalid
  obtain rfl := Option.some.inj h
  obtain ⟨suffix,hsuffix⟩ := String.startsWith_string_iff.mp hstart
  have hdrop : name.toList.drop lead.length=suffix := by
    rw [← hsuffix,← String.length_toList,List.drop_left]
  rw [hdrop] at hparts ⊢
  rw [← hsuffix,String.toList_ofList,List.map_map]
  refine congrArg _ (((List.map_congr_left fun c hc => ?_).trans (List.map_id suffix)).symm)
  have hdot : c≠ '.' := by
    rintro rfl
    simp only [Bool.and_eq_true,List.all_eq_true] at hparts
    rcases @mem_of_mem_splitChars (fun c => c= '-') _ _ hc with hdash | ⟨part,hpart,hmem⟩
    · revert hdash
      decide
    · have hdigit := (hparts.2 part hpart).2 _ hmem
      revert hdigit
      decide
  by_cases hdash : c= '-'
  · simp [hdash]
  · simp [hdash,hdot]

/-- The script that a scheduler runs, by the address in its name. -/
def scriptOf (text : String) : String :=
  "MC-TEMP-RESTORE-DEV-" ++ String.ofList (text.toList.map fun c => if c= '.' then '-' else c)

lemma temporaryIntegrity_iff (schedulers scripts : List String) :
    temporaryIntegrity schedulers scripts=true ↔
      (∀ name ∈ schedulers, name.startsWith "MC-TEMP-DEV-"=true →
        ∃ text, encodedIpv4 "MC-TEMP-DEV-" name=some text ∧ scriptOf text ∈ scripts) ∧
      ∀ name ∈ scripts, name.startsWith "MC-TEMP-RESTORE-DEV-"=true →
        (encodedIpv4 "MC-TEMP-RESTORE-DEV-" name).isSome=true := by
  unfold temporaryIntegrity
  rw [Bool.and_eq_true_iff,List.all_eq_true,List.all_eq_true]
  have himp (a b : Bool) : (!a || b)=true ↔ (a=true → b=true) := by cases a <;> simp
  refine and_congr (forall₂_congr fun name _ => (himp _ _).trans (imp_congr_right fun _ => ?_))
    (forall₂_congr fun name _ => himp _ _)
  cases encodedIpv4 "MC-TEMP-DEV-" name with
  | none => exact iff_of_false nofun nofun
  | some text =>
    change scripts.contains (scriptOf text)=true ↔ _
    rw [List.contains_iff_mem]
    exact ⟨fun h => ⟨text,rfl,h⟩,fun ⟨_,hsome,h⟩ => Option.some.inj hsome ▸ h⟩

/-- Without the scheduler and the script of a device every other scheduler has its script. -/
lemma scriptOf_eq {name text : String} (hencoded : encodedIpv4 "MC-TEMP-DEV-" name=some text)
    (hsame : scriptOf text=address.deviceTempScriptName) : name=address.deviceTempSchedulerName := by
  have happend := (String.toList_append ..).symm.trans
    ((congrArg String.toList hsame).trans (String.toList_append ..))
  have hdashed := List.append_cancel_left happend
  have hname := encodedIpv4_name hencoded
  rw [String.toList_ofList] at hdashed
  rw [hdashed] at hname
  exact String.toList_inj.mp (hname.trans (String.toList_append ..).symm)

lemma temporaryIntegrity_without {schedulers scripts : List String}
    (h : temporaryIntegrity schedulers scripts=true) :
    temporaryIntegrity (schedulers.filter fun name => name≠address.deviceTempSchedulerName)
      (scripts.filter fun name => name≠address.deviceTempScriptName)=true := by
  rw [temporaryIntegrity_iff] at h ⊢
  constructor
  · intro name hname hstart
    obtain ⟨hname,hother⟩ := List.mem_filter.mp hname
    obtain ⟨text,hencoded,hscript⟩ := h.1 name hname hstart
    refine ⟨text,hencoded,List.mem_filter.mpr ⟨hscript,decide_eq_true fun hsame => ?_⟩⟩
    exact of_decide_eq_true hother (scriptOf_eq hencoded hsame)
  · exact fun name hname => h.2 name (List.mem_of_mem_filter hname)

end Tables

section Kept
variable {env : Environment} {address : Ipv4} {t t' t'' : TableFamily Row}

/-- The rows of a table. -/
def allRows (t : TableFamily Row) (k : Resource) : List (Row k) :=
  (t.rows k fun _ => true).map Prod.snd

/-- What the application owns is well formed. -/
def Integral (env : Environment) (t : TableFamily Row) : Prop :=
  managedIntegrity env (allRows t .addressList) (allRows t .queue) (allRows t .scheduler)
    (allRows t .script)=true

lemma integral_iff : Integral env t ↔ addressListIntegrity env (allRows t .addressList)=true ∧
    queueIntegrity (allRows t .queue)=true ∧
    temporaryIntegrity ((allRows t .scheduler).map Scheduler.name)
      ((allRows t .script).map Script.name)=true := by
  unfold Integral managedIntegrity
  rw [Bool.and_eq_true_iff,Bool.and_eq_true_iff,and_assoc]

/-- A write that leaves the gate open: the global slow queue stays as it is, and what the
application owns stays well formed. -/
structure Kept (env : Environment) (t t' : TableFamily Row) : Prop where
  slow : (queuesIn t' slowQueueName).map Prod.snd=(queuesIn t slowQueueName).map Prod.snd
  integral : Integral env t → Integral env t'

lemma Kept.refl (env : Environment) (t : TableFamily Row) : Kept env t t := ⟨rfl,id⟩

lemma Kept.trans (h : Kept env t t') (h' : Kept env t' t'') : Kept env t t'' :=
  ⟨h'.slow.trans h.slow,h'.integral ∘ h.integral⟩

lemma allRows_congr {k : Resource} (h : t' k=t k) : allRows t' k=allRows t k :=
  congrArg (List.map Prod.snd) (TableFamily.rows_congr h _)

lemma allRows_without (k : Resource) (query : Row k → Bool) :
    allRows (t.without k query) k=(allRows t k).filter fun row => !query row := by
  unfold allRows
  rw [TableFamily.rows_without,List.filter_map]
  rfl

lemma allRows_adding (k : Resource) (row : Row k) :
    allRows (t.adding k row) k=allRows t k ++ [row] := by
  unfold allRows
  rw [TableFamily.rows_adding,if_pos rfl,List.map_append]
  rfl

lemma mem_allRows {k : Resource} {row : Row k} {query : Row k → Bool} (h : row ∈ allRows t k)
    (hquery : query row=true) : t.rows k query≠[] := by
  obtain ⟨r,hr,rfl⟩ := List.mem_map.mp h
  exact List.ne_nil_of_mem (List.mem_filter.mpr ⟨(List.mem_filter.mp hr).1,hquery⟩)

lemma allRows_changing (k : Resource) (id : ℕ) (change : Row k → Row k) :
    allRows (t.changing k id change) k=
      (t.rows k fun _ => true).map fun r => if r.1=id then change r.2 else r.2 := by
  unfold allRows
  rw [@TableFamily.rows_changing Resource Row _ t k id change (fun _ => true) fun _ => rfl,
    List.map_map]
  rfl

/-- Removing entries of address lists. -/
lemma kept_without_addressList (query : AddressEntry → Bool) :
    Kept env t (t.without .addressList query) where
  slow := congrArg _ (queuesIn_without_addressList query slowQueueName)
  integral := by
    rw [integral_iff,integral_iff,allRows_without,
      allRows_congr (TableFamily.without_of_ne (show Resource.queue≠.addressList by decide) query),
      allRows_congr (TableFamily.without_of_ne (show Resource.scheduler≠.addressList by decide) query),
      allRows_congr (TableFamily.without_of_ne (show Resource.script≠.addressList by decide) query)]
    exact And.imp_left (addressListIntegrity_sublist List.filter_sublist)

/-- Adding the first entry of the device in a list. -/
lemma kept_adding_addressList {e : AddressEntry} (haddress : e.address=address.text)
    (h : listedIn t e.list address=[]) : Kept env t (t.adding .addressList e) where
  slow := congrArg (List.map Prod.snd) (TableFamily.rows_congr
    (TableFamily.adding_of_ne (show Resource.queue≠.addressList by decide) e) _)
  integral := by
    rw [integral_iff,integral_iff,allRows_adding,
      allRows_congr (TableFamily.adding_of_ne (show Resource.queue≠.addressList by decide) e),
      allRows_congr (TableFamily.adding_of_ne (show Resource.scheduler≠.addressList by decide) e),
      allRows_congr (TableFamily.adding_of_ne (show Resource.script≠.addressList by decide) e)]
    refine And.imp_left fun hrows => addressListIntegrity_append hrows (haddress ▸ address.valid)
      fun e' he' hsame => ?_
    refine @mem_allRows _ .addressList e' (inList e.list address) he' ?_ h
    rw [inList,Bool.and_eq_true_iff,decide_eq_true_iff,decide_eq_true_iff]
    exact ⟨hsame.1,hsame.2.trans haddress⟩

/-- Removing queues of the device. -/
lemma kept_without_queue {name : String} (hname : name≠slowQueueName) :
    Kept env t (t.without .queue (isQueue name)) where
  slow := congrArg _ (queuesIn_without_ne hname.symm)
  integral := by
    rw [integral_iff,integral_iff,allRows_without,
      allRows_congr (TableFamily.without_of_ne (show Resource.addressList≠.queue by decide) _),
      allRows_congr (TableFamily.without_of_ne (show Resource.scheduler≠.queue by decide) _),
      allRows_congr (TableFamily.without_of_ne (show Resource.script≠.queue by decide) _)]
    exact And.imp_right (And.imp_left (queueIntegrity_sublist List.filter_sublist))

/-- Setting or replacing the queue of a name that carries the address of the device. -/
lemma kept_queueEstablished {name maxLimit comment : String} (hname : name≠slowQueueName)
    (hnamed : queueIpv4 name=some address.text) :
    Kept env t (queueEstablished address name maxLimit comment t) where
  slow := congrArg _ (rows_queueEstablished_of_ne hname.symm)
  integral := by
    rw [integral_iff,integral_iff,allRows_congr (queueEstablished_of_ne (by decide)),
      allRows_congr (k:=.scheduler) (queueEstablished_of_ne (by decide)),
      allRows_congr (k:=.script) (queueEstablished_of_ne (by decide))]
    refine And.imp_right (And.imp_left fun hrows => ?_)
    have htarget : queueIpv4 name=queueTargetIpv4 (address.text ++ "/32") :=
      hnamed.trans address.queueTargetIpv4_text.symm
    have hadded : queueIntegrity (allRows ((t.without .queue (isQueue name)).adding .queue
        (deviceQueue address name maxLimit comment)) .queue)=true := by
      rw [allRows_adding,allRows_without]
      refine queueIntegrity_append (queueIntegrity_sublist List.filter_sublist hrows) hnamed
        address.queueTargetIpv4_text fun q hq hsame => ?_
      have hnot := (List.mem_filter.mp hq).2
      rw [isQueue,decide_eq_true (show q.name=name from hsame)] at hnot
      cases hnot
    unfold queueEstablished
    split
    · next id queue hfound =>
      rw [allRows_changing]
      refine queueIntegrity_map hrows (fun r hr => ?_) fun r hr => ?_
      · split_ifs <;> rfl
      · by_cases hid : r.1=id
        · refine .inr ?_
          rw [if_pos hid]
          have hqueue : (id,queue) ∈ t.rows .queue (isQueue name) := by
            rw [hfound]
            exact List.mem_cons_self
          obtain ⟨hfind,hquery⟩ := Table.mem_select.mp hqueue
          have hsame : r.2=queue := by
            have hstored : (t .queue).find r.1=some r.2 :=
              ((Table.mem_select (t:=t .queue)).mp hr).1
            exact Option.some.inj (hstored.symm.trans (hid ▸ hfind))
          have hqname : r.2.name=name := hsame ▸ of_decide_eq_true hquery
          dsimp only [deviceQueue]
          rw [hqname]
          exact htarget
        · rw [if_neg hid]
          exact .inl rfl
    · exact hadded

lemma kept_entryEstablished (list comment : String) :
    Kept env t (entryEstablished address list comment t) := by
  unfold entryEstablished
  split_ifs
  · exact Kept.refl env t
  · exact (kept_without_addressList _).trans
      (kept_adding_addressList rfl (listedIn_without_self list))

lemma slowQueueName_ne_slow (address : Ipv4) : address.deviceSlowQueueName≠slowQueueName := by
  intro h
  have hchars := congrArg String.toList h
  simp [Ipv4.deviceSlowQueueName,slowQueueName,String.toList_append] at hchars

lemma slowQueueName_ne_bandwidth (address : Ipv4) :
    address.deviceBandwidthQueueName≠slowQueueName := by
  intro h
  have hchars := congrArg String.toList h
  simp [Ipv4.deviceBandwidthQueueName,slowQueueName,String.toList_append] at hchars

lemma kept_modeWritten (description : String) (mode : Mode) :
    Kept env t (modeWritten env address description t mode) := by
  have hslow := slowQueueName_ne_slow address
  have hbandwidth := slowQueueName_ne_bandwidth address
  unfold modeWritten
  cases mode with
  | normal =>
    exact ((kept_without_addressList _).trans (kept_without_addressList _)).trans
      (kept_without_queue hslow)
  | blocked =>
    exact (((kept_entryEstablished _ _).trans (kept_without_addressList _)).trans
      (kept_without_queue hslow)).trans (kept_without_queue hbandwidth)
  | slow =>
    exact (((kept_queueEstablished hslow address.queueIpv4_slow).trans
      (kept_entryEstablished _ _)).trans (kept_without_queue hbandwidth)).trans
      (kept_without_addressList _)

/-- A table that the gate does not look at may change. -/
lemma kept_of_others (h : ∀ k, k≠.connection → t' k=t k) : Kept env t t' where
  slow := congrArg (List.map Prod.snd) (TableFamily.rows_congr (h .queue (by decide)) _)
  integral := by
    rw [integral_iff,integral_iff,allRows_congr (h .addressList (by decide)),
      allRows_congr (h .queue (by decide)),allRows_congr (h .scheduler (by decide)),
      allRows_congr (h .script (by decide))]
    exact id

/-- The cleanup of the temporary access of a device. -/
lemma kept_cleanedUp (r : RouterOS) (address : Ipv4) :
    Kept env r.tables (r.cleanedUp address).tables where
  slow := rfl
  integral := by
    rw [integral_iff,integral_iff]
    refine And.imp_right (And.imp_right fun h => ?_)
    have hnames {k : Resource} (name : Row k → String) (dropped : String) (t : TableFamily Row) :
        (allRows (Function.update t k ((t k).delete fun _ row => name row=dropped)) k).map name=
          ((allRows t k).map name).filter fun n => n≠dropped := by
      rw [show allRows (Function.update t k ((t k).delete fun _ row => name row=dropped)) k=_
        from allRows_without k fun row => name row=dropped,List.filter_map]
      exact congrArg (List.map name) (List.filter_congr fun row _ => (decide_not ..).symm)
    have hschedulers : (allRows (r.cleanedUp address).tables .scheduler).map Scheduler.name=
        ((allRows r.tables .scheduler).map Scheduler.name).filter
          fun name => name≠address.deviceTempSchedulerName := hnames (k:=.scheduler) _ _ r.tables
    have hscripts : (allRows (r.cleanedUp address).tables .script).map Script.name=
        ((allRows r.tables .script).map Script.name).filter
          fun name => name≠address.deviceTempScriptName := hnames (k:=.script) _ _ _
    rw [hschedulers,hscripts]
    exact temporaryIntegrity_without h

lemma failedChecks_iff (r : RouterOS) : r.failedChecks env=[] ↔
    failedRuleChecks ((r.rules fun _ => true).map Prod.snd)
      ((queuesIn r.tables slowQueueName).map Prod.snd)=[] ∧
    (∀ key ∈ serviceEnforcement.keys, r.contractFailure serviceEnforcement key=none) ∧
    Integral env r.tables := by
  have hslow : ((r.tables.rows .queue fun _ => true).map Prod.snd).filter
      (fun q => q.name=slowQueueName)=(queuesIn r.tables slowQueueName).map Prod.snd := by
    rw [List.filter_map]
    refine congrArg (List.map Prod.snd) ?_
    unfold TableFamily.rows Table.select
    rw [List.filter_filter]
    exact List.filter_congr fun q _ => Bool.and_true _
  have hunless (name : String) (ok : Bool) : failsUnless name ok=[] ↔ ok=true := by
    cases ok <;> simp [failsUnless]
  unfold RouterOS.failedChecks
  dsimp only
  rw [List.append_eq_nil_iff,List.append_eq_nil_iff,hslow,hunless,hunless,List.all_eq_true,
    and_assoc]
  simp only [Option.isNone_iff_eq_none]
  rfl

/-- The gate stays open. -/
lemma System.PassesGate.kept {s s' : System} (h : s.PassesGate env)
    (hsession : s.session.any Session.proven → s'.session.any Session.proven)
    (hfilter : s'.router.filter=s.router.filter) (hkept : Kept env s.router.tables s'.router.tables) :
    s'.PassesGate env := by
  refine h.imp hsession fun hnone => ?_
  rw [failedChecks_iff] at hnone ⊢
  refine ⟨?_,fun key hkey => ?_,hkept.integral hnone.2.2⟩
  · rw [hkept.slow,RouterOS.rules,hfilter]
    exact hnone.1
  · rw [contractFailure_congr hfilter]
    exact hnone.2.1 key hkey

end Kept
end ZenControl.Router
