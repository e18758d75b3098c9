import ZenControl.Router.Frames

/-! Which services a device is blocked from in every state that `set_device_services` passes
through, whatever the catalogue and the number of entries and whichever API call fails. -/
namespace ZenControl.Router
open Calls Requests Rows

section Plan
variable (catalog : Catalog) (address : Ipv4) (desired : List String) (t : TableFamily Row)

/-- In a state `t` on the way every service that shall be blocked and was stays blocked, and
another one is released only when each service that shall be blocked has its one entry. -/
structure ServicesKept (before t : TableFamily Row) : Prop where
  blocked : ∀ s ∈ catalog, s.1 ∈ desired → listedIn before s.2.sourceList address≠[] →
    listedIn t s.2.sourceList address≠[]
  released : ∀ s ∈ catalog, s.1 ∉ desired → listedIn before s.2.sourceList address≠[] →
    listedIn t s.2.sourceList address=[] →
    ∀ d ∈ catalog, d.1 ∈ desired → (listedIn t d.2.sourceList address).length=1

def needsChange (s : String × Service) : Bool :=
  (listedIn t s.2.sourceList address).length≠if desired.contains s.1 then 1 else 0

/-- The services that are blocked anew. -/
def blocking : Catalog :=
  catalog.filter fun s => desired.contains s.1 && needsChange address desired t s

/-- The services that are released. -/
def releasing : Catalog :=
  catalog.filter fun s => !desired.contains s.1 && needsChange address desired t s

/-- A service with the entries that are found for it. -/
def plannedService (s : String × Service) : PlannedService where
  key := s.1
  service := s.2
  entries := listedIn t s.2.sourceList address
  shouldBlock := desired.contains s.1

/-- The contracts of all services that have to change are valid. -/
def RouterOS.PlanValid (r : RouterOS) : Prop :=
  ∀ s ∈ catalog, needsChange address desired r.tables s=true → r.contractFailure catalog s.1=none

end Plan

section Planning
variable {catalog : Catalog} {address : Ipv4} {desired : List String} {s : System}

lemma exec_planService (x : String × Service) :
    exec (planService catalog address desired x) s=
      (if needsChange address desired s.router.tables x then
        match s.router.contractFailure catalog x.1 with
        | none => .ok (some (plannedService address desired s.router.tables x))
        | some m => .error (.router m)
      else .ok none,s) := by
  refine (exec_bind_ok (exec_entries _ _ s)).trans ?_
  unfold needsChange
  dsimp only
  by_cases hsame : (listedIn s.router.tables x.2.sourceList address).length=
      if desired.contains x.1 then 1 else 0
  · rw [if_pos hsame,if_neg (by simpa using hsame)]
    rfl
  · rw [if_neg hsame,if_pos (by simpa using hsame)]
    have hvalidate := exec_validateServicePrimitive catalog x.1 s
    cases hfailure : s.router.contractFailure catalog x.1 with
    | none =>
      rw [hfailure] at hvalidate
      exact exec_bind_ok hvalidate
    | some m =>
      rw [hfailure] at hvalidate
      exact exec_bind_error hvalidate

/-- The plan has the services that have to change, or the planning is refused. -/
lemma exec_planning (items : Catalog) :
    ((∀ x ∈ items, needsChange address desired s.router.tables x=true →
        s.router.contractFailure catalog x.1=none) →
      exec (Prog.collect items (planService catalog address desired)) s=
        (.ok (items.map fun x => if needsChange address desired s.router.tables x then
          some (plannedService address desired s.router.tables x) else none),s)) ∧
    (¬(∀ x ∈ items, needsChange address desired s.router.tables x=true →
        s.router.contractFailure catalog x.1=none) →
      ∃ m, exec (Prog.collect items (planService catalog address desired)) s=
        (.error (.router m),s)) := by
  induction items with
  | nil => exact ⟨fun _ => rfl,fun h => absurd (fun x hx => absurd hx List.not_mem_nil) h⟩
  | cons x items ih =>
    have hx := @exec_planService catalog address desired s x
    by_cases hvalid : needsChange address desired s.router.tables x=true →
        s.router.contractFailure catalog x.1=none
    · have hone : exec (planService catalog address desired x) s=
          (.ok (if needsChange address desired s.router.tables x then
            some (plannedService address desired s.router.tables x) else none),s) := by
        rw [hx]
        split_ifs with hneeds
        · rw [hvalid hneeds]
        · rfl
      rw [List.forall_mem_cons,Prog.collect,exec_bind_ok hone]
      constructor
      · rintro ⟨-,hrest⟩
        rw [exec_bind_ok (ih.1 hrest)]
        rfl
      · intro hnot
        obtain ⟨m,hm⟩ := ih.2 fun hrest => hnot ⟨hvalid,hrest⟩
        exact ⟨m,exec_bind_error hm⟩
    · push Not at hvalid
      obtain ⟨hneeds,hfailure⟩ := hvalid
      obtain ⟨m,hm⟩ := Option.ne_none_iff_exists'.mp hfailure
      rw [hneeds,if_pos rfl,hm] at hx
      refine ⟨fun h => absurd (h x List.mem_cons_self hneeds) hfailure,fun _ => ⟨m,?_⟩⟩
      rw [Prog.collect]
      exact exec_bind_error hx

lemma plan_services (items : Catalog) (t : TableFamily Row) :
    (items.map fun x => if needsChange address desired t x then
      some (plannedService address desired t x) else none).reduceOption=
      (items.filter (needsChange address desired t)).map (plannedService address desired t) := by
  induction items with
  | nil => rfl
  | cons x items ih =>
    cases hneeds : needsChange address desired t x with
    | false =>
      rw [List.map_cons,hneeds,if_neg Bool.false_ne_true,List.reduceOption_cons_of_none,ih,
        List.filter_cons_of_neg (by simp [hneeds])]
    | true =>
      rw [List.map_cons,hneeds,if_pos rfl,List.reduceOption_cons_of_some,ih,
        List.filter_cons_of_pos hneeds,List.map_cons]

/-- The services of a plan that are blocked, and those that are released. -/
lemma plan_parts (catalog : Catalog) (t : TableFamily Row) :
    (((catalog.filter (needsChange address desired t)).map
        (plannedService address desired t)).filter fun p => p.shouldBlock)=
      (blocking catalog address desired t).map (plannedService address desired t) ∧
    (((catalog.filter (needsChange address desired t)).map
        (plannedService address desired t)).filter fun p => !p.shouldBlock)=
      (releasing catalog address desired t).map (plannedService address desired t) := by
  rw [List.filter_map,List.filter_map,List.filter_filter,List.filter_filter]
  exact ⟨rfl,rfl⟩

end Planning

section States
variable {address : Ipv4} {desired : List String} {s : System} {description : String}
  {t : TableFamily Row} {n : ℕ} {I : System → Prop}

/-- The entry by which a service is blocked. -/
def blockEntry (address : Ipv4) (description : String) (x : String × Service) : AddressEntry :=
  { list := x.2.sourceList, address := address.text,
    comment := described description ("MC - Block " ++ x.2.name) }

/-- The state with an entry for each of some services. -/
def System.established (s : System) (address : Ipv4) (description : String) (xs : Catalog) :
    System :=
  xs.foldl (fun s x => s.withTables
    (s.router.tables.adding .addressList (blockEntry address description x))) s

/-- The entries for services stand behind those that were there. -/
lemma listedIn_established (xs : Catalog) (list : String) :
    ∃ added, listedIn (s.established address description xs).router.tables list address=
        listedIn s.router.tables list address ++ added ∧
      added.length=xs.countP fun x => x.2.sourceList=list := by
  induction xs generalizing s with
  | nil => exact ⟨[],(List.append_nil _).symm,rfl⟩
  | cons x xs ih =>
    obtain ⟨added,hadded,hlength⟩ := @ih (s.withTables
      (s.router.tables.adding .addressList (blockEntry address description x)))
    have hfirst := @TableFamily.rows_adding _ _ _ s.router.tables Resource.addressList
      (blockEntry address description x) (inList list address)
    have hquery : inList list address (blockEntry address description x)=
        decide (x.2.sourceList=list) := by
      have haddress : decide ((blockEntry address description x).address=address.text)=true :=
        decide_eq_true rfl
      unfold inList
      rw [haddress,Bool.and_true]
      rfl
    rw [hquery] at hfirst
    refine ⟨_,(hadded.trans (congrArg (fun rows => rows ++ added) hfirst)).trans
      (List.append_assoc _ _ _),?_⟩
    rw [List.length_append,hlength,List.countP_cons,Nat.add_comm]
    by_cases hlist : x.2.sourceList=list <;> simp [hlist]

/-- What was found before is still found under its number. -/
lemma find_established {xs : Catalog} {id : ℕ} {row : AddressEntry}
    (h : (s.router.tables .addressList).find id=some row) :
    ((s.established address description xs).router.tables .addressList).find id=some row := by
  induction xs generalizing s with
  | nil => exact h
  | cons x xs ih =>
    refine ih ?_
    rw [System.withTables_tables,TableFamily.adding_self]
    exact Table.find_insert_of_find h

lemma mem_listedIn_established {xs : Catalog} {list : String} {r : ℕ × AddressEntry}
    (h : r ∈ listedIn s.router.tables list address) :
    r ∈ listedIn (s.established address description xs).router.tables list address :=
  Table.mem_select.mpr ⟨find_established (Table.mem_select.mp h).1,(Table.mem_select.mp h).2⟩

/-- Without the rows of some numbers the others are found. -/
lemma listedIn_removed (s : System) (numbers : List ℕ) (list : String) (address : Ipv4) :
    listedIn (s.removed .addressList numbers).router.tables list address=
      (listedIn s.router.tables list address).filter fun r => !numbers.contains r.1 := by
  unfold listedIn TableFamily.rows System.removed System.dropping
  rw [System.withTables_tables,Function.update_self]
  unfold Table.select Table.delete
  rw [List.filter_filter,List.filter_filter]
  exact List.filter_congr fun r _ => Bool.and_comm _ _

/-- A number belongs to one list. -/
lemma listedIn_list {list list' : String} {r r' : ℕ × AddressEntry}
    (h : r ∈ listedIn t list address) (h' : r' ∈ listedIn t list' address) (hid : r.1=r'.1) :
    list=list' := by
  obtain ⟨hfind,hlist⟩ := Table.mem_select.mp h
  obtain ⟨hfind',hlist'⟩ := Table.mem_select.mp h'
  rw [hid,hfind'] at hfind
  rw [← Option.some.inj hfind] at hlist
  simp only [inList,Bool.and_eq_true,decide_eq_true_eq] at hlist hlist'
  exact hlist.1.symm.trans hlist'.1

/-- Blocking a service without entries is the addition of one. -/
lemma blockService_of_none {x : String × Service} (h : listedIn t x.2.sourceList address=[]) :
    blockService address description (plannedService address desired t x)=
      add .addressList (blockEntry address description x) := by
  unfold blockService plannedService removeEntries
  rw [h]
  rfl

/-- Blocking services that have no entry yet adds one entry after the other. -/
lemma withstands_blocking {xs : Catalog}
    (hnone : ∀ x ∈ xs, listedIn t x.2.sourceList address=[])
    (keep : ∀ done, done <+: xs → I (s.established address description done))
    {Q : Except Failure Unit → ℕ → System → Prop}
    (served : Q (.ok ()) n (s.established address description xs))
    (failed : ∀ e m u, Q (.error e) m u) :
    (Prog.forEach (xs.map (plannedService address desired t)) (blockService address
      description)).Withstands router I n s Q := by
  refine Prog.withstands_forEach (fun rest m u => m=n ∧ ∃ done todo, done ++ todo=xs ∧
    rest=todo.map (plannedService address desired t) ∧ u=s.established address description done)
    ⟨rfl,[],xs,rfl,rfl,rfl⟩ (keep [] List.nil_prefix) (fun p rest m u hu hJ => ?_)
    fun m u hu hJ => ?_
  · obtain ⟨rfl,done,todo,hsplit,hrest,rfl⟩ := hJ
    cases todo with
    | nil => cases hrest
    | cons x todo =>
      obtain ⟨rfl,rfl⟩ := List.cons.inj hrest
      have hx : x ∈ xs := by rw [← hsplit]; simp
      have hnext : done ++ [x] <+: xs := ⟨todo,by rw [← hsplit]; simp⟩
      have hestablished : System.withTables (s.established address description done)
          ((s.established address description done).router.tables.adding .addressList
            (blockEntry address description x))=
          s.established address description (done ++ [x]) := by
        unfold System.established
        rw [List.foldl_append]
        rfl
      rw [blockService_of_none (hnone x hx)]
      refine withstands_add hu ?_ fun e m _ => ⟨failed e m _,failed e m _⟩
      rw [hestablished]
      exact ⟨keep _ hnext,rfl,done ++ [x],todo,by rw [← hsplit]; simp,rfl,rfl⟩
  · obtain ⟨rfl,done,todo,hsplit,hrest,rfl⟩ := hJ
    obtain rfl : todo=[] := List.map_eq_nil_iff.mp hrest.symm
    rw [List.append_nil] at hsplit
    exact hsplit ▸ served

/-- Removing rows one after the other; a number that is removed again ends the loop. -/
lemma withstands_removing {rows : List (ℕ × AddressEntry)}
    (hfind : ∀ r ∈ rows, ((s.router.tables .addressList).find r.1).isSome)
    (keep : ∀ gone, gone <+: rows.map Prod.fst → gone.Nodup → I (s.removed .addressList gone)) :
    (Prog.forEach rows fun r => remove .addressList r.1).Withstands router I n s
      fun _ _ _ => True := by
  have hstart : I s := removed_nil s .addressList ▸ keep [] List.nil_prefix List.nodup_nil
  refine Prog.withstands_forEach (fun rest m u => ∃ gone, gone ++ rest.map Prod.fst=
      rows.map Prod.fst ∧ gone.Nodup ∧ u=s.removed .addressList gone)
    ⟨[],rfl,List.nodup_nil,(removed_nil s .addressList).symm⟩ hstart
    (fun r rest m u hu hJ => ?_) fun m u hu hJ => trivial
  obtain ⟨gone,hgone,hnodup,rfl⟩ := hJ
  have hr : r.1 ∈ rows.map Prod.fst := by rw [← hgone]; simp
  obtain ⟨r',hr',hid⟩ := List.mem_map.mp hr
  obtain ⟨row,hrow⟩ := Option.isSome_iff_exists.mp (hid ▸ hfind r' hr')
  have hstored : ((s.removed .addressList gone).router.tables .addressList).find r.1=
      if r.1 ∈ gone then none else some row := by
    unfold System.removed System.dropping
    rw [System.withTables_tables,Function.update_self,Table.find_delete,hrow]
    by_cases hmem : r.1 ∈ gone <;> simp [hmem]
  by_cases hmem : r.1 ∈ gone
  · rw [if_pos hmem] at hstored
    have hserve : router.serve (.request (.remove .addressList r.1))
        (s.removed .addressList gone)=
          (.error (.api "no such item"),s.removed .addressList gone) := by
      simp only [RouterCall.serve,Request.perform,hstored]
      rfl
    refine Prog.withstands_issue hu ?_ fun e m _ _ => ⟨trivial,trivial⟩
    rw [hserve]
    exact ⟨hu,trivial⟩
  · rw [if_neg hmem] at hstored
    have hnodup' : (gone ++ [r.1]).Nodup := by
      refine List.nodup_append.mpr ⟨hnodup,List.nodup_singleton _,fun a ha b hb => ?_⟩
      rw [List.mem_singleton.mp hb]
      rintro rfl
      exact hmem ha
    refine withstands_remove (by rw [hstored]; rfl) hu ?_ fun e m _ => ⟨trivial,trivial⟩
    rw [removed_snoc]
    refine ⟨keep _ ⟨rest.map Prod.fst,by rw [← hgone]; simp⟩ hnodup',gone ++ [r.1],?_,hnodup',rfl⟩
    rw [← hgone]
    simp

end States

section Condition
variable (catalog : Catalog) (address : Ipv4) (desired : List String) (t : TableFamily Row)

/-- A service that shall be blocked has several entries, which are replaced. -/
def Doubled : Prop :=
  ∃ x ∈ catalog, x.1 ∈ desired ∧ 2 ≤ (listedIn t x.2.sourceList address).length

/-- A service that is released has its list in common with one that shall be blocked; the loop
gets to it, since no list stands there twice up to it. -/
def ReleasesShared : Prop :=
  ∃ done u todo, releasing catalog address desired t=done ++ u::todo ∧
    ((done ++ [u]).map fun x => x.2.sourceList).Nodup ∧
    ∃ d ∈ catalog, d.1 ∈ desired ∧ d.2.sourceList=u.2.sourceList

/-- Two services that are blocked anew have one list, and some service is released. -/
def BlocksShared : Prop :=
  releasing catalog address desired t≠[] ∧
    ¬((blocking catalog address desired t).map fun x => x.2.sourceList).Nodup

def FailsOpen : Prop :=
  Doubled catalog address desired t ∨ ReleasesShared catalog address desired t ∨
    BlocksShared catalog address desired t

variable {catalog address desired t} {t' : TableFamily Row} {s : System} {description : String}

lemma mem_blocking {x : String × Service} : x ∈ blocking catalog address desired t ↔
    x ∈ catalog ∧ x.1 ∈ desired ∧ (listedIn t x.2.sourceList address).length≠1 := by
  simp only [blocking,List.mem_filter,needsChange,Bool.and_eq_true,List.contains_iff_mem,
    decide_eq_true_eq]
  refine and_congr_right fun _ => and_congr_right fun hdesired => ?_
  rw [if_pos hdesired]

lemma mem_releasing {x : String × Service} : x ∈ releasing catalog address desired t ↔
    x ∈ catalog ∧ x.1 ∉ desired ∧ listedIn t x.2.sourceList address≠[] := by
  simp only [releasing,List.mem_filter,needsChange,Bool.and_eq_true,Bool.not_eq_true',
    decide_eq_true_eq,List.contains_iff_mem,← Bool.not_eq_true]
  refine and_congr_right fun _ => and_congr_right fun hdesired => ?_
  rw [if_neg hdesired,ne_eq,List.length_eq_zero_iff]

/-- Where no list loses all its entries nothing is released. -/
lemma servicesKept_of_grown
    (h : ∀ list, listedIn t list address≠[] → listedIn t' list address≠[]) :
    ServicesKept catalog address desired t t' :=
  ⟨fun _ _ _ hx => h _ hx,fun _ _ _ hx hnone => absurd hnone (h _ hx)⟩

lemma servicesKept_established (xs : Catalog) : ServicesKept catalog address desired
    s.router.tables (s.established address description xs).router.tables := by
  refine servicesKept_of_grown fun list hlist hnone => hlist ?_
  obtain ⟨added,hadded,-⟩ := @listedIn_established address s description xs list
  rw [hadded] at hnone
  exact (List.append_eq_nil_iff.mp hnone).1

/-- Without several entries there are none for the services that are blocked anew. -/
lemma blocking_none (h : ¬Doubled catalog address desired t) :
    ∀ x ∈ blocking catalog address desired t, listedIn t x.2.sourceList address=[] := by
  intro x hx
  obtain ⟨hin,hdesired,hlength⟩ := mem_blocking.mp hx
  have hfew : ¬2 ≤ (listedIn t x.2.sourceList address).length := fun hmany =>
    h ⟨x,hin,hdesired,hmany⟩
  exact List.length_eq_zero_iff.mp (by omega)

/-- Behind the blocks a list has one entry more for each service with it. -/
lemma length_listedIn_established (s : System) (xs : Catalog) (list : String) :
    (listedIn (s.established address description xs).router.tables list address).length=
      (listedIn s.router.tables list address).length+
        (xs.map fun x => x.2.sourceList).count list := by
  obtain ⟨added,hadded,hlength⟩ := @listedIn_established address s description xs list
  rw [hadded,List.length_append,hlength,List.count,List.countP_map]
  exact congrArg _ (List.countP_congr fun x _ => by simp)

/-- Behind the blocks each service that shall be blocked has one entry. -/
lemma length_established (h : ¬Doubled catalog address desired s.router.tables)
    (hnodup : ((blocking catalog address desired s.router.tables).map
      fun x => x.2.sourceList).Nodup) {d : String × Service} (hd : d ∈ catalog)
    (hdesired : d.1 ∈ desired) :
    (listedIn (s.established address description
      (blocking catalog address desired s.router.tables)).router.tables
        d.2.sourceList address).length=1 := by
  rw [length_listedIn_established]
  by_cases hone : (listedIn s.router.tables d.2.sourceList address).length=1
  · rw [hone,List.count_eq_zero_of_not_mem]
    intro hmem
    obtain ⟨x,hx,hlist⟩ := List.mem_map.mp hmem
    have hnone := blocking_none h x hx
    rw [hlist] at hnone
    rw [hnone] at hone
    cases hone
  · have hblocking := mem_blocking.mpr ⟨hd,hdesired,hone⟩
    rw [blocking_none h d hblocking,List.count_eq_one_of_mem hnodup
      (List.mem_map.mpr ⟨d,hblocking,rfl⟩)]
    rfl

/-- The numbers that are removed before one comes again belong to services up to which no list
stands twice. -/
lemma released_before_repeat {rows : String → List ℕ} {xs done : Catalog} {gone seen : List ℕ}
    {i : ℕ} (hrows : ∀ x ∈ xs, rows x.2.sourceList≠[])
    (hdone : (done.map fun x => x.2.sourceList).Nodup)
    (hseen : ∀ x ∈ done, ∀ i ∈ rows x.2.sourceList, i ∈ seen)
    (hgone : gone <+: xs.flatMap fun x => rows x.2.sourceList) (hnodup : (seen ++ gone).Nodup)
    (hi : i ∈ gone) : ∃ before u todo, xs=before ++ u::todo ∧
      ((done ++ before ++ [u]).map fun x => x.2.sourceList).Nodup ∧ i ∈ rows u.2.sourceList := by
  induction xs generalizing done gone seen with
  | nil =>
    rw [List.flatMap_nil,List.prefix_nil] at hgone
    rw [hgone] at hi
    cases hi
  | cons x xs ih =>
    rw [List.flatMap_cons] at hgone
    -- the first number that is removed now is one of this service
    have hfresh : x.2.sourceList ∉ done.map fun x => x.2.sourceList := by
      intro hmem
      obtain ⟨y,hy,hlist⟩ := List.mem_map.mp hmem
      obtain ⟨j,js,hjs⟩ := List.exists_cons_of_ne_nil (hrows x List.mem_cons_self)
      obtain ⟨k,ks,hks⟩ := List.exists_cons_of_ne_nil (List.ne_nil_of_mem hi)
      have hhead : k=j := by
        rw [hks,hjs,List.cons_append] at hgone
        exact (List.cons_prefix_cons.mp hgone).1
      have hj : j ∈ seen := hseen y hy j (by rw [hlist,hjs]; exact List.mem_cons_self)
      exact (List.nodup_append.mp hnodup).2.2 j hj k (hks ▸ List.mem_cons_self) hhead.symm
    have hnext : ((done ++ [x]).map fun x => x.2.sourceList).Nodup := by
      rw [List.map_append,List.nodup_append]
      refine ⟨hdone,List.nodup_singleton _,fun a ha b hb => ?_⟩
      rw [List.mem_singleton.mp hb]
      rintro rfl
      exact hfresh ha
    by_cases hmem : i ∈ rows x.2.sourceList
    · exact ⟨[],x,xs,rfl,by rwa [List.append_nil],hmem⟩
    · rcases List.prefix_or_prefix_of_prefix hgone (List.prefix_append _ _) with hshort | hlong
      · exact absurd (hshort.subset hi) hmem
      · obtain ⟨gone',rfl⟩ := hlong
        have hi' : i ∈ gone' := (List.mem_append.mp hi).resolve_left hmem
        have hmore : ∀ y ∈ done ++ [x], ∀ j ∈ rows y.2.sourceList,
            j ∈ seen ++ rows x.2.sourceList := by
          intro y hy j hj
          rcases List.mem_append.mp hy with hy | hy
          · exact List.mem_append_left _ (hseen y hy j hj)
          · rw [List.mem_singleton.mp hy] at hj
            exact List.mem_append_right _ hj
        obtain ⟨before,u,todo,rfl,hlists,hu⟩ := @ih (done ++ [x]) gone'
          (seen ++ rows x.2.sourceList) (fun y hy => hrows y (List.mem_cons_of_mem x hy)) hnext
          hmore ((List.prefix_append_right_inj _).mp hgone) (by rwa [List.append_assoc]) hi'
        exact ⟨x::before,u,todo,rfl,by simpa using hlists,hu⟩

/-- The rows that the second loop removes. -/
def releasedRows (catalog : Catalog) (address : Ipv4) (desired : List String)
    (t : TableFamily Row) : List (ℕ × AddressEntry) :=
  (releasing catalog address desired t).flatMap fun x => listedIn t x.2.sourceList address

/-- Unless the transition fails open, the releases keep what is asked for. -/
lemma servicesKept_removed (h : ¬FailsOpen catalog address desired s.router.tables)
    {gone : List ℕ}
    (hgone : gone <+: (releasedRows catalog address desired s.router.tables).map Prod.fst)
    (hnodup : gone.Nodup) :
    ServicesKept catalog address desired s.router.tables (System.removed
      (s.established address description (blocking catalog address desired s.router.tables))
        .addressList gone).router.tables := by
  unfold FailsOpen at h
  push Not at h
  obtain ⟨hdoubled,hreleases,hblocks⟩ := h
  by_cases hnil : gone=[]
  · rw [hnil,removed_nil]
    exact servicesKept_established _
  have hreleasing : releasing catalog address desired s.router.tables≠[] := by
    intro hnone
    rw [releasedRows,hnone] at hgone
    exact hnil (List.prefix_nil.mp hgone)
  have hlists : ((blocking catalog address desired s.router.tables).map
      fun x => x.2.sourceList).Nodup := by
    by_contra hrepeat
    exact hblocks ⟨hreleasing,hrepeat⟩
  -- no entry of a service that shall be blocked is removed
  have hone : ∀ d ∈ catalog, d.1 ∈ desired → (listedIn (System.removed (s.established address
      description (blocking catalog address desired s.router.tables)) .addressList
        gone).router.tables d.2.sourceList address).length=1 := by
    intro d hd hdesired
    rw [listedIn_removed,List.filter_eq_self.mpr fun r hr => ?_]
    · exact length_established hdoubled hlists hd hdesired
    · by_contra hcontains
      have hmem : r.1 ∈ gone := by simpa using hcontains
      rw [releasedRows,List.map_flatMap] at hgone
      obtain ⟨before,u,todo,hsplit,hupTo,hu⟩ := @released_before_repeat
        (fun list => (listedIn s.router.tables list address).map Prod.fst) _ [] gone [] r.1
        (fun x hx hnone => (mem_releasing.mp hx).2.2 (List.map_eq_nil_iff.mp hnone))
        List.nodup_nil (fun x hx => absurd hx List.not_mem_nil) hgone hnodup hmem
      obtain ⟨r',hr',hid⟩ := List.mem_map.mp hu
      exact hreleases ⟨before,u,todo,hsplit,hupTo,d,hd,hdesired,
        listedIn_list hr (mem_listedIn_established hr') hid.symm⟩
  exact ⟨fun x hx hdesired _ hnone => absurd (hone x hx hdesired) (by rw [hnone]; decide),
    fun x _ _ _ _ => hone⟩

end Condition

section Setting
variable {env : Environment} {catalog : Catalog} {address : Ipv4} {description : String}
  {desired : List String} {s : System} {n : ℕ}

/-- The writes behind the plan. -/
def plannedWrites (catalog : Catalog) (address : Ipv4) (desired : List String)
    (description : String) (t : TableFamily Row) : RouterProg ℕ :=
  (Prog.forEach ((blocking catalog address desired t).map (plannedService address desired t))
    (blockService address description)).bind fun _ =>
  (Prog.forEach (releasedRows catalog address desired t) fun r =>
    remove .addressList r.1).bind fun _ =>
  terminateServiceConnections address (((blocking catalog address desired t).map
    (plannedService address desired t)).map PlannedService.service)

/-- What follows on the plan is its writes. -/
lemma plannedWrites_eq (catalog : Catalog) (t : TableFamily Row) :
    (let planned := (catalog.map fun x => if needsChange address desired t x then
        some (plannedService address desired t x) else none).reduceOption
      let blocking := planned.filter fun p => p.shouldBlock
      (Prog.forEach blocking (blockService address description)).bind fun _ =>
      (Prog.forEach (planned.filter fun p => !p.shouldBlock) fun p =>
        removeEntries p.entries).bind fun _ =>
      terminateServiceConnections address (blocking.map PlannedService.service))=
      plannedWrites catalog address desired description t := by
  dsimp only
  rw [plan_services,(plan_parts catalog t).1,(plan_parts catalog t).2]
  have hrows : (Prog.forEach ((releasing catalog address desired t).map
      (plannedService address desired t)) fun p => removeEntries p.entries)=
      Prog.forEach (releasedRows catalog address desired t) fun r =>
        remove .addressList r.1 := by
    unfold removeEntries
    rw [Prog.forEach_flatMap,List.flatMap_map]
    rfl
  rw [hrows]
  rfl

lemma writeServices_planned {I : System → Prop} {Q : Except Failure ℕ → ℕ → System → Prop}
    (start : I s) (refused : ∀ e m, Q (.error e) m s)
    (valid : s.router.PlanValid catalog address desired →
      (plannedWrites catalog address desired description s.router.tables).Withstands
        router I n s Q) :
    (writeServices catalog address desired description).Withstands router I n s Q := by
  have hreads : Reads Failure.IsApi
      (Prog.collect catalog (planService catalog address desired)) := by
    refine reads_collect fun x => reads_bind (reads_call rfl trivial) fun found => ?_
    dsimp only
    by_cases hsame : found.length=if desired.contains x.1 then 1 else 0
    · rw [if_pos hsame]
      exact reads_ret _
    · rw [if_neg hsame]
      exact reads_bind (reads_validateServicePrimitive catalog x.1) fun _ => reads_ret _
  refine Prog.withstands_bind (hreads.withstands start ?_ fun e m _ => refused e m)
  by_cases hvalid : s.router.PlanValid catalog address desired
  · rw [(exec_planning catalog).1 hvalid]
    have hwrites := valid hvalid
    rwa [← plannedWrites_eq] at hwrites
  · obtain ⟨m,hm⟩ := (exec_planning catalog).2 hvalid
    rw [hm]
    exact refused _ n

/-- Resetting connections leaves the entries alone. -/
lemma spares_terminateServiceConnections (address : Ipv4) (services : List Service) :
    Spares .addressList (terminateServiceConnections address services) := by
  have hreset : ∀ (connections : List (ℕ × Connection)) (removed : ℕ),
      Spares .addressList (resetConnections connections removed) := by
    intro connections
    induction connections with
    | nil => exact fun _ => trivial
    | cons c connections ih =>
      intro removed
      refine Prog.only_bind (Prog.only_rescue (Prog.only_bind
        (spares_call (decide_eq_false (show ¬Resource.connection=.addressList by decide)))
          fun _ => trivial) fun _ => trivial)
        fun done => ?_
      cases done with
      | false => trivial
      | true => exact ih _
  unfold terminateServiceConnections
  split_ifs
  · trivial
  · refine Prog.only_bind (Prog.only_bind (Prog.only_collect fun rule _ =>
      (readOnly_entries _ _).spares _) fun _ => trivial) fun detected => ?_
    split_ifs
    · trivial
    · exact Prog.only_bind (Prog.only_rescue ((readOnly_entries _ _).spares _) fun _ => trivial)
        fun connections => hreset _ 0

/-- What needs to hold for the transition to be carried out. -/
def System.CanSetServices (env : Environment) (catalog : Catalog) (address : Ipv4)
    (desired : List String) (s : System) : Prop :=
  (∀ key ∈ desired, key ∈ catalog.keys) ∧ s.PassesGate env ∧ s.router.Managed address ∧
    s.router.PlanValid catalog address desired

/-- The services that are asked for. -/
def desiredKeys (blockedServices : List String) : List String :=
  (blockedServices.map fun key => nocase (strip key)).dedup

lemma servicesKept_congr {before t t' : TableFamily Row}
    (h : t' Resource.addressList=t Resource.addressList)
    (hkept : ServicesKept catalog address desired before t) :
    ServicesKept catalog address desired before t' := by
  have hlisted : ∀ list, listedIn t' list address=listedIn t list address := fun list =>
    TableFamily.rows_congr h _
  constructor
  · intro x hx hdesired hbefore
    rw [hlisted]
    exact hkept.blocked x hx hdesired hbefore
  · intro x hx hdesired hbefore hnone d hd hd'
    rw [hlisted] at hnone ⊢
    exact hkept.released x hx hdesired hbefore hnone d hd hd'

/-- A transition that does not fail open keeps what is asked for, whatever fails. -/
lemma withstands_setDeviceServices {blockedServices : List String}
    (h : s.CanSetServices env catalog address (desiredKeys blockedServices) →
      ¬FailsOpen catalog address (desiredKeys blockedServices) s.router.tables) :
    (setDeviceServices env catalog address blockedServices description).Withstands router
      (fun t => ServicesKept catalog address (desiredKeys blockedServices) s.router.tables
        t.router.tables) n s fun _ _ _ => True := by
  let desired := desiredKeys blockedServices
  let J : RouterOS → Prop := fun r => ServicesKept catalog address desired s.router.tables r.tables
  have start : J s.router := servicesKept_of_grown fun _ => id
  refine @withstands_serialized _ _ _ _ J (fun _ _ _ => True) ?_
  change Prog.Withstands _ _ (if _ then _ else _) _ _ _
  split_ifs with hunsupported
  · exact ⟨start,trivial⟩
  have hkeys : ∀ key ∈ desired, key ∈ catalog.keys := by
    intro key hkey
    by_contra hnot
    have hmem : key ∈ desired.filter fun key => !catalog.keys.contains key :=
      List.mem_filter.mpr ⟨hkey,by simpa using hnot⟩
    rw [Bool.not_eq_true,Bool.not_eq_false',List.isEmpty_iff] at hunsupported
    exact absurd (hunsupported ▸ hmem) List.not_mem_nil
  refine Prog.withstands_bind (@withstands_requirePolicyWriteGate _ _ J _ _ start (fun hgate => ?_)
    fun _ _ _ _ => trivial)
  refine Prog.withstands_bind (reads_connect.withstands start ?_ fun _ _ _ => trivial)
  rw [show exec connect _=_ from exec_connect _]
  refine Prog.withstands_bind (withstands_explained (Prog.withstands_bind
    ((reads_validateRestrictedDevice address).withstands start ?_ fun e m _ => by
      cases e <;> trivial)))
  by_cases hmanaged : s.router.Managed address
  · have hmanaged' : (System.passed { s with lane := s.lane+1 }).router.Managed address := hmanaged
    rw [exec_validateRestrictedDevice hmanaged']
    refine writeServices_planned start (fun e m => by cases e <;> trivial) fun hvalid => ?_
    have hopen := h ⟨hkeys,hgate,hmanaged,hvalid⟩
    let inside : System := System.passed { s with lane := s.lane+1 }
    have hblocked := blocking_none fun hdoubled => hopen (.inl hdoubled)
    refine Prog.withstands_bind (@withstands_blocking address desired inside _ _ n _ _ hblocked
      (fun done _ => @servicesKept_established catalog address desired inside _ done) _ ?_
        fun e m u => by cases e <;> trivial)
    have hfind : ∀ r ∈ releasedRows catalog address desired s.router.tables,
        (((inside.established address (clip (strip description) 60)
          (blocking catalog address desired s.router.tables)).router.tables
            .addressList).find r.1).isSome := by
      intro r hr
      obtain ⟨x,_,hrow⟩ := List.mem_flatMap.mp hr
      have hstored : (inside.router.tables .addressList).find r.1=some r.2 :=
        (Table.mem_select.mp hrow).1
      rw [find_established hstored]
      rfl
    refine Prog.withstands_bind ((withstands_removing hfind fun gone hgone hnodup =>
      servicesKept_removed (s:=inside) hopen hgone hnodup).mono fun o m t _ ht _ => ?_)
    cases o with
    | error e => cases e <;> trivial
    | ok _ =>
      refine ((spares_terminateServiceConnections address _).withstands t m).mono
        (fun o m u _ hu _ => ?_) |>.weaken fun u hu => servicesKept_congr hu ht
      have hkept := servicesKept_congr hu ht
      cases o with
      | error e => cases e <;> trivial
      | ok terminated =>
        refine Prog.withstands_bind (((readOnly_getDeviceServiceEnforcement catalog
          address).withstands (r:=u.router) rfl m).mono (fun o m v _ hv _ => ?_) |>.weaken
            fun v hv => (show J v.router from (show v.router=u.router from hv) ▸ hkept))
        have hJ : J v.router := (show v.router=u.router from hv) ▸ hkept
        cases o with
        | error e => trivial
        | ok result =>
          dsimp only
          split_ifs <;> exact ⟨hJ,trivial⟩
  · have hmanaged' : ¬(System.passed { s with lane := s.lane+1 }).router.Managed address := hmanaged
    obtain ⟨m,hm⟩ := exec_validateRestrictedDevice_of_not hmanaged'
    rw [hm]
    trivial

end Setting

section Violations
variable {env : Environment} {catalog : Catalog} {address : Ipv4} {description : String}
  {desired : List String} {s : System} {t : TableFamily Row} {n : ℕ}

lemma exec_blocking {xs : Catalog} (hnone : ∀ x ∈ xs, listedIn t x.2.sourceList address=[]) :
    exec (Prog.forEach (xs.map (plannedService address desired t))
      (blockService address description)) s=(.ok (),s.established address description xs) := by
  induction xs generalizing s with
  | nil => rfl
  | cons x xs ih =>
    rw [List.map_cons,Prog.forEach,blockService_of_none (hnone x List.mem_cons_self),
      exec_bind_ok (exec_adding _ _ s)]
    exact ih fun y hy => hnone y (List.mem_cons_of_mem x hy)

/-- Behind the blocks the entries of a service that had some are those that it had. -/
lemma listedIn_established_eq {xs : Catalog} {list : String}
    (hnone : ∀ x ∈ xs, listedIn s.router.tables x.2.sourceList address=[])
    (hsome : listedIn s.router.tables list address≠[]) :
    listedIn (s.established address description xs).router.tables list address=
      listedIn s.router.tables list address := by
  obtain ⟨added,hadded,hlength⟩ := @listedIn_established address s description xs list
  have hzero : (xs.countP fun x => x.2.sourceList=list)=0 := by
    refine List.countP_eq_zero.mpr fun x hx heq => hsome ?_
    rw [← of_decide_eq_true heq]
    exact hnone x hx
  rw [hzero,List.length_eq_zero_iff] at hlength
  rw [hadded,hlength,List.append_nil]

/-- Removing the rows of services with different lists removes all of them. -/
lemma exec_releasing {xs done : Catalog} (hlists : (xs.map fun x => x.2.sourceList).Nodup) :
    exec (Prog.forEach (xs.flatMap fun x => listedIn s.router.tables x.2.sourceList address)
      fun r => remove .addressList r.1) (s.established address description done)=
      (.ok (),(s.established address description done).removed .addressList
        ((xs.flatMap fun x => listedIn s.router.tables x.2.sourceList address).map Prod.fst)) := by
  have hfind : ∀ r ∈ xs.flatMap fun x => listedIn s.router.tables x.2.sourceList address,
      (((s.established address description done).router.tables .addressList).find r.1).isSome := by
    intro r hr
    obtain ⟨x,_,hrow⟩ := List.mem_flatMap.mp hr
    rw [find_established (Table.mem_select.mp hrow).1]
    rfl
  have hnodup : ((xs.flatMap fun x => listedIn s.router.tables x.2.sourceList address).map
      Prod.fst).Nodup := by
    rw [List.map_flatMap,List.nodup_flatMap]
    refine ⟨fun x _ => select_numbers_nodup _ _,(List.pairwise_map.mp hlists).imp ?_⟩
    rintro x y hne i hi hi'
    obtain ⟨r,hr,hid⟩ := List.mem_map.mp hi
    obtain ⟨r',hr',hid'⟩ := List.mem_map.mp hi'
    exact hne (listedIn_list hr hr' (hid.trans hid'.symm))
  have hremoved := @exec_removeEach (s.established address description done) .addressList _ hfind
    hnodup
  exact hremoved

/-- The entries of a service are gone when its numbers are removed. -/
lemma listedIn_removed_nil {numbers : List ℕ} {list : String}
    (h : ∀ r ∈ listedIn s.router.tables list address, r.1 ∈ numbers) :
    listedIn (s.removed .addressList numbers).router.tables list address=[] := by
  rw [listedIn_removed]
  refine List.filter_eq_nil_iff.mpr fun r hr => ?_
  simpa using h r hr

variable {I : System → Prop} {Q : Except Failure ℕ → ℕ → System → Prop} {f : Unit → RouterProg ℕ}

/-- Where a service has several entries, they are all removed before one takes their place. -/
lemma not_doubled (hI : ∀ u, I u → ServicesKept catalog address desired s.router.tables
      u.router.tables)
    (h : ((Prog.forEach ((blocking catalog address desired s.router.tables).map (plannedService
      address desired s.router.tables)) (blockService address description)).bind f).Withstands
        router I n s Q) : ¬Doubled catalog address desired s.router.tables := by
  rintro ⟨d,hd,hdesired,hmany⟩
  let several : String × Service → Bool := fun x =>
    2 ≤ (listedIn s.router.tables x.2.sourceList address).length
  have hsome : ((blocking catalog address desired s.router.tables).find? several).isSome := by
    rw [List.find?_isSome]
    exact ⟨d,mem_blocking.mpr ⟨hd,hdesired,by omega⟩,decide_eq_true hmany⟩
  obtain ⟨x,hx⟩ := Option.isSome_iff_exists.mp hsome
  obtain ⟨hseveral,done,todo,hsplit,hfew⟩ := List.find?_eq_some_iff_append.mp hx
  replace hseveral : 2 ≤ (listedIn s.router.tables x.2.sourceList address).length :=
    of_decide_eq_true hseveral
  have hne : listedIn s.router.tables x.2.sourceList address≠[] := by
    intro hnone
    rw [hnone] at hseveral
    cases hseveral
  have hdone : ∀ y ∈ done, listedIn s.router.tables y.2.sourceList address=[] := by
    intro y hy
    obtain ⟨_,_,hlength⟩ := mem_blocking.mp (hsplit ▸ List.mem_append_left (x::todo) hy :
      y ∈ blocking catalog address desired s.router.tables)
    have hfew : ¬2 ≤ (listedIn s.router.tables y.2.sourceList address).length := by
      simpa [several] using hfew y hy
    exact List.length_eq_zero_iff.mp (by omega)
  rw [hsplit,List.map_append,Prog.forEach_append,Prog.bind_assoc] at h
  have hblock := h.follow (exec_blocking hdone)
  rw [List.map_cons,Prog.forEach,Prog.bind_assoc] at hblock
  unfold blockService at hblock
  rw [Prog.bind_assoc] at hblock
  have hremove := @exec_releasing address description s [x] done (List.nodup_singleton _)
  rw [List.flatMap_cons,List.flatMap_nil,List.append_nil] at hremove
  have hgone := (hblock.follow hremove).start
  obtain ⟨hin,hdesired',-⟩ := mem_blocking.mp (hsplit ▸
    List.mem_append_right done List.mem_cons_self :
      x ∈ blocking catalog address desired s.router.tables)
  refine (hI _ hgone).blocked x hin hdesired' hne (listedIn_removed_nil fun r hr => ?_)
  rw [listedIn_established_eq hdone hne] at hr
  exact List.mem_map_of_mem hr

/-- Where nothing has several entries, the blocks succeed and the releases follow. -/
lemma not_shared (hI : ∀ u, I u → ServicesKept catalog address desired s.router.tables
      u.router.tables) (hdoubled : ¬Doubled catalog address desired s.router.tables)
    (h : ((Prog.forEach ((blocking catalog address desired s.router.tables).map (plannedService
      address desired s.router.tables)) (blockService address description)).bind fun _ =>
        (Prog.forEach (releasedRows catalog address desired s.router.tables) fun r =>
          remove .addressList r.1).bind f).Withstands router I n s Q) :
    ¬ReleasesShared catalog address desired s.router.tables ∧
      ¬BlocksShared catalog address desired s.router.tables := by
  have hnone := blocking_none hdoubled
  have hreleases := h.follow (exec_blocking hnone)
  -- the state behind the release of the first services
  have hstate : ∀ {before : Catalog} {u : String × Service} {todo : Catalog},
      releasing catalog address desired s.router.tables=before ++ u::todo →
      ((before ++ [u]).map fun x => x.2.sourceList).Nodup →
      ServicesKept catalog address desired s.router.tables (System.removed (s.established address
        description (blocking catalog address desired s.router.tables)) .addressList
          (((before ++ [u]).flatMap fun x => listedIn s.router.tables x.2.sourceList
            address).map Prod.fst)).router.tables ∧
      listedIn (System.removed (s.established address description
        (blocking catalog address desired s.router.tables)) .addressList
          (((before ++ [u]).flatMap fun x => listedIn s.router.tables x.2.sourceList
            address).map Prod.fst)).router.tables u.2.sourceList address=[] := by
    intro before u todo hsplit hlists
    have hrows : releasedRows catalog address desired s.router.tables=
        ((before ++ [u]).flatMap fun x => listedIn s.router.tables x.2.sourceList address) ++
          todo.flatMap fun x => listedIn s.router.tables x.2.sourceList address := by
      rw [releasedRows,hsplit,← List.flatMap_append,List.append_assoc,List.singleton_append]
    rw [hrows,Prog.forEach_append,Prog.bind_assoc] at hreleases
    refine ⟨hI _ (hreleases.follow (exec_releasing hlists)).start,
      listedIn_removed_nil fun r hr => ?_⟩
    have hu : u ∈ releasing catalog address desired s.router.tables := by rw [hsplit]; simp
    rw [listedIn_established_eq hnone (mem_releasing.mp hu).2.2] at hr
    exact List.mem_map_of_mem (List.mem_flatMap.mpr ⟨u,by simp,hr⟩)
  constructor
  · rintro ⟨before,u,todo,hsplit,hlists,d,hd,hdesired,hlist⟩
    obtain ⟨hkept,hgone⟩ := hstate hsplit hlists
    have hu : u ∈ releasing catalog address desired s.router.tables := by rw [hsplit]; simp
    rw [← hlist] at hgone
    exact hkept.blocked d hd hdesired (hlist ▸ (mem_releasing.mp hu).2.2) hgone
  · rintro ⟨hsome,hrepeat⟩
    obtain ⟨u,todo,hsplit⟩ := List.exists_cons_of_ne_nil hsome
    obtain ⟨hkept,hgone⟩ := @hstate [] u todo hsplit (List.nodup_singleton _)
    have hu : u ∈ releasing catalog address desired s.router.tables := by
      rw [hsplit]
      exact List.mem_cons_self
    obtain ⟨hin,hundesired,hentries⟩ := mem_releasing.mp hu
    obtain ⟨list,hlist⟩ : ∃ list, 1 < ((blocking catalog address desired s.router.tables).map
        fun x => x.2.sourceList).count list := by
      by_contra hall
      push Not at hall
      exact hrepeat (List.nodup_iff_count_le_one.mpr hall)
    obtain ⟨d,hd,rfl⟩ := List.mem_map.mp (List.count_pos_iff.mp (by omega : 0 <
      ((blocking catalog address desired s.router.tables).map fun x => x.2.sourceList).count list))
    obtain ⟨hdin,hdesired,-⟩ := mem_blocking.mp hd
    have hone := hkept.released u hin hundesired hentries hgone d hdin hdesired
    rw [listedIn_removed,List.filter_eq_self.mpr fun r hr => ?_,length_listedIn_established,
      hnone d hd,List.length_nil] at hone
    · omega
    · by_contra hcontains
      obtain ⟨r',hr',hid⟩ := List.mem_map.mp (by simpa using hcontains :
        r.1 ∈ (listedIn s.router.tables u.2.sourceList address).map Prod.fst)
      have hsame := listedIn_list hr (mem_listedIn_established hr') hid.symm
      exact hentries (hsame ▸ hnone d hd)

/-- The writes of a transition that is carried out. -/
lemma withstands_plannedWrites {I : System → Prop} {blockedServices : List String}
    (hcan : s.CanSetServices env catalog address (desiredKeys blockedServices))
    (h : (setDeviceServices env catalog address blockedServices description).Withstands router I n
      s fun _ _ _ => True) :
    ∃ Q : Except Failure ℕ → ℕ → System → Prop,
      (plannedWrites catalog address (desiredKeys blockedServices)
        (clip (strip description) 60) s.router.tables).Withstands router I n
          (System.passed { s with lane := s.lane+1 }) Q := by
  obtain ⟨hkeys,hgate,hmanaged,hvalid⟩ := hcan
  let inside := System.passed { s with lane := s.lane+1 }
  have hgate' : System.PassesGate env { s with lane := s.lane+1 } := hgate
  have hmanaged' : inside.router.Managed address := hmanaged
  have hvalid' : inside.router.PlanValid catalog address (desiredKeys blockedServices) := hvalid
  have hsupported : ((desiredKeys blockedServices).filter fun key =>
      !catalog.keys.contains key)=[] :=
    List.filter_eq_nil_iff.mpr fun key hkey => by simpa using hkeys key hkey
  unfold setDeviceServices at h
  have hinside := @withstands_of_serialized _ _ _ _ (fun _ _ _ => True) I h
  rw [show ((blockedServices.map fun key => nocase (strip key)).dedup.filter fun key =>
    !catalog.keys.contains key)=[] from hsupported] at hinside
  have hbody := hinside.follow (exec_requirePolicyWriteGate hgate')
  have hwrites := Prog.withstands_rescue_iff.mp (Prog.withstands_bind_iff.mp
    (hbody.follow (exec_connect inside)))
  have hplanned := (hwrites.follow (exec_validateRestrictedDevice hmanaged')).follow
    ((exec_planning catalog).1 hvalid')
  rw [plannedWrites_eq] at hplanned
  exact ⟨_,hplanned⟩

theorem withstands_setDeviceServices_iff {blockedServices : List String} :
    (setDeviceServices env catalog address blockedServices description).Withstands router
      (fun t => ServicesKept catalog address (desiredKeys blockedServices) s.router.tables
        t.router.tables) n s (fun _ _ _ => True) ↔
      (s.CanSetServices env catalog address (desiredKeys blockedServices) →
        ¬FailsOpen catalog address (desiredKeys blockedServices) s.router.tables) := by
  refine ⟨fun h hcan => ?_,withstands_setDeviceServices⟩
  obtain ⟨Q,hwrites⟩ := withstands_plannedWrites hcan h
  let inside := System.passed { s with lane := s.lane+1 }
  have hdoubled := @not_doubled catalog address _ _ inside n _ _ _ (fun u hu => hu) hwrites
  obtain ⟨hreleases,hblocks⟩ := @not_shared catalog address _ _ inside n _ _ _ (fun u hu => hu)
    hdoubled hwrites
  rintro (hopen | hopen | hopen)
  · exact hdoubled hopen
  · exact hreleases hopen
  · exact hblocks hopen

/-- Every service that is asked for keeps an entry and nothing else is released too early, in every
state on the way and whatever calls fail, if and only if the transition does not fail open. -/
theorem setDeviceServices_fails_restrictive (env : Environment) (catalog : Catalog)
    (address : Ipv4) (blockedServices : List String) (description : String) (s : System) (n : ℕ) :
    (∀ faults,failures faults ≤ n →
      ∀ t ∈ (setDeviceServices env catalog address blockedServices description).visited
        router.faulty (s,faults), ServicesKept catalog address (desiredKeys blockedServices)
          s.router.tables t.1.router.tables) ↔
      (s.CanSetServices env catalog address (desiredKeys blockedServices) →
        ¬FailsOpen catalog address (desiredKeys blockedServices) s.router.tables) := by
  rw [← @withstands_setDeviceServices_iff env catalog address description s n]
  rw [Prog.withstands_iff_runs (Q:=fun _ _ => True)]
  refine forall₂_congr fun faults hn => ?_
  rw [and_true]

end Violations

section Examples

lemma isIpv4_listed : isIpv4 "192.168.88.20" := by decide

def listedAddress : Ipv4 := ⟨"192.168.88.20",isIpv4_listed⟩

/-- A managed device with two entries in the list of YouTube. -/
def doublyListedRouter : RouterOS where
  filter := readyRouter.filter
  tables
    | .addressList =>
      let managed := Table.empty.insert { list := restrictedList, address := "192.168.88.20" }
      let listed := managed.insert
        { list := "MC_Block_YouTube", address := "192.168.88.20", dynamic := true }
      listed.insert { list := "MC_Block_YouTube", address := "192.168.88.20" }
    | k => readyRouter.tables k

/-- Blocking YouTube while the authority was proven in its session, without any failure. -/
theorem setDeviceServices_releases : ¬∀ (env : Environment) (catalog : Catalog) (address : Ipv4)
    (blockedServices : List String) (description : String) (s : System) (faults : List Fault),
    failures faults ≤ 1 →
      ∀ t ∈ (setDeviceServices env catalog address blockedServices description).visited
        router.faulty (s,faults), ServicesKept catalog address (desiredKeys blockedServices)
          s.router.tables t.1.router.tables := by
  intro h
  have hall := fun t ht => (h {} serviceEnforcement listedAddress ["youtube"] ""
    { router := doublyListedRouter, session := some ⟨true⟩ } [] (Nat.zero_le 1) t ht).blocked
  revert hall
  decide +kernel

end Examples

end ZenControl.Router
