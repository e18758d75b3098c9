import ZenControl.Library.Interleaving
import ZenControl.Telemetry.Blocking

/-! The DNS worker: polls of the Pi-hole database, the transactions that store what they return,
and the position in the state file. -/
namespace ZenControl.Telemetry
open Calls

section Rows

/-- A row of the Pi-hole `queries` table. SQLite columns hold values of any type. -/
structure PiholeRow where
  id : ℤ
  timestamp : PyVal
  queryType : PyVal
  status : PyVal
  domain : PyVal
  client : PyVal
  replyType : PyVal
  replyTime : PyVal

/-- A row of `dns_queries`. -/
structure DnsRow where
  piholeId : ℤ
  eventTime : ℤ
  clientIp : String
  clientName : String
  domain : String
  queryType : ℤ
  status : ℤ
  blocked : Bool
  replyType : ℤ
  replyTime : PyFloat
  service : String

/-- `BLOCKED_STATUSES`. -/
def blockedStatuses : List ℤ := [1,4,5,6,7,8,9,10,11,15,16,18]

/-- The row that the worker makes of a Pi-hole row. -/
def outgoingRow (env : IngestEnv) (compiled : Compiled) (row : PiholeRow) : Py DnsRow := do
  let text ← (row.domain.or (.str "")).asText
  let domain := dropDots (env.lower text)
  let status ← (row.status.or (.int 0)).toInt
  let eventTime ← row.timestamp.toInt >>= env.fromSeconds
  let queryType ← (row.queryType.or (.int 0)).toInt
  let replyType ← (row.replyType.or (.int 0)).toInt
  let replyTime ← env.toFloat (row.replyTime.or (.int 0))
  pure
    { piholeId := row.id, eventTime := eventTime, clientIp := normalizeIp env row.client,
      clientName := "", domain := domain, queryType := queryType, status := status,
      blocked := blockedStatuses.contains status, replyType := replyType,
      replyTime := replyTime,
      service := classifyDomain env.toPyRuntime compiled (.str domain) }

/-- `INSERT INTO dns_queries ... ON CONFLICT(pihole_id) DO NOTHING` for every row. -/
def insertQueries (outgoing table : List DnsRow) : List DnsRow :=
  outgoing.foldl (fun table row =>
    if table.any fun old => old.piholeId=row.piholeId then table else table ++ [row]) table

/-- Whether the table holds the query with an id. -/
def Stored (table : List DnsRow) (id : ℤ) : Prop := ∃ row ∈ table, row.piholeId=id

/-- What one poll returns: the first 5000 rows behind the position. -/
def polled (pihole : List PiholeRow) (lastId : ℤ) : List PiholeRow :=
  (pihole.filter fun row => lastId < row.id).take 5000

end Rows

section Worker

/-- Where the worker is: between polls, at the rows of a poll that it has still to process with
those that it has processed, or behind the transaction. -/
inductive DnsPhase
  | idle
  | processing (todo : List PiholeRow) (outgoing : List DnsRow)
  | saving

/-- The Pi-hole database, the table, the state file and the worker. `returned` are the ids that
polls have returned so far; `passed` records that this process has moved its position over rows
of a poll that failed before its transaction committed. The program keeps neither. -/
structure DnsWorld where
  pihole : List PiholeRow := []
  dnsQueries : List DnsRow := []
  stateFile : Option ℤ := none
  lastId : ℤ := 0
  phase : DnsPhase := .idle
  returned : List ℤ := []
  passed : Bool := false

/-- The position that `load_state` gives. -/
def DnsWorld.loaded (w : DnsWorld) : ℤ := w.stateFile.getD 0

inductive DnsAction
  | source
  | read
  | row
  | rowFails
  | commit
  | commitFails
  | save
  | saveFails
  | crash
  deriving DecidableEq

/-- The steps of the worker and of its surroundings. A poll that fails to read its source, or
that finds nothing new, changes nothing. Rows that were returned stay in the source. -/
inductive DnsStep : DnsAction → DnsWorld → DnsWorld → Prop
  | source (w : DnsWorld) (rows : List PiholeRow)
      (sorted : (rows.map PiholeRow.id).Pairwise (· < ·))
      (kept : ∀ id ∈ w.returned, id ∈ rows.map PiholeRow.id) :
      DnsStep .source w { w with pihole := rows }
  | read (w : DnsWorld) (hphase : w.phase=.idle) (hrows : polled w.pihole w.lastId≠[]) :
      DnsStep .read w { w with
        phase := .processing (polled w.pihole w.lastId) []
        returned := w.returned ++ (polled w.pihole w.lastId).map PiholeRow.id }
  | row (w : DnsWorld) (env : IngestEnv) (compiled : Compiled) (r : PiholeRow)
      (todo : List PiholeRow) (outgoing : List DnsRow) (d : DnsRow)
      (hphase : w.phase=.processing (r::todo) outgoing) (hrow : outgoingRow env compiled r=.ok d) :
      DnsStep .row w { w with
        phase := .processing todo (outgoing ++ [d])
        lastId := max w.lastId r.id }
  | rowFails (w : DnsWorld) (r : PiholeRow) (todo : List PiholeRow) (outgoing : List DnsRow)
      (hphase : w.phase=.processing (r::todo) outgoing) :
      DnsStep .rowFails w { w with phase := .idle, passed := w.passed || !outgoing.isEmpty }
  | commit (w : DnsWorld) (outgoing : List DnsRow) (hphase : w.phase=.processing [] outgoing) :
      DnsStep .commit w { w with
        phase := .saving
        dnsQueries := insertQueries outgoing w.dnsQueries }
  | commitFails (w : DnsWorld) (outgoing : List DnsRow)
      (hphase : w.phase=.processing [] outgoing) :
      DnsStep .commitFails w { w with phase := .idle, passed := true }
  | save (w : DnsWorld) (hphase : w.phase=.saving) :
      DnsStep .save w { w with phase := .idle, stateFile := some w.lastId }
  | saveFails (w : DnsWorld) (hphase : w.phase=.saving) :
      DnsStep .saveFails w { w with phase := .idle }
  | crash (w : DnsWorld) :
      DnsStep .crash w { w with phase := .idle, lastId := w.loaded, passed := false }

/-- Every row that was returned and lies at or below the stored position is in the table. -/
def NothingSkipped (w : DnsWorld) : Prop :=
  ∀ stored ∈ w.stateFile, ∀ id ∈ w.returned, id ≤ stored → Stored w.dnsQueries id

/-- A position is saved only by a process that has not moved over rows it did not store. -/
def SavesOnlyStored (action : DnsAction) (w : DnsWorld) : Prop := action=.save → w.passed=false

end Worker

section Invariant
variable {w w' : DnsWorld}

lemma stored_insertQueries {outgoing table : List DnsRow} {id : ℤ} :
    Stored (insertQueries outgoing table) id ↔
      Stored table id ∨ id ∈ outgoing.map DnsRow.piholeId := by
  induction outgoing generalizing table with
  | nil => simp [insertQueries]
  | cons d outgoing ih =>
    have hone : Stored (if table.any fun old => old.piholeId=d.piholeId then table
        else table ++ [d]) id ↔ Stored table id ∨ id=d.piholeId := by
      split_ifs with hany
      · refine ⟨.inl,fun h => h.elim (fun hstored => hstored) fun hid => ?_⟩
        obtain ⟨old,hold,hsame⟩ := List.any_eq_true.mp hany
        exact ⟨old,hold,(of_decide_eq_true hsame).trans hid.symm⟩
      · constructor
        · rintro ⟨row,hrow,rfl⟩
          rcases List.mem_append.mp hrow with hrow | hrow
          · exact .inl ⟨row,hrow,rfl⟩
          · rw [List.mem_singleton.mp hrow]
            exact .inr rfl
        · rintro (⟨row,hrow,rfl⟩ | rfl)
          · exact ⟨row,List.mem_append_left _ hrow,rfl⟩
          · exact ⟨d,List.mem_append_right _ (List.mem_singleton_self d),rfl⟩
    rw [insertQueries,List.foldl_cons,← insertQueries,ih,hone,List.map_cons,List.mem_cons,
      or_assoc]

/-- The first values of an increasing list are the least. -/
lemma mem_take_or_above {xs : List PiholeRow} (h : (xs.map PiholeRow.id).Pairwise (· < ·)) (n : ℕ)
    {id : ℤ} (hid : id ∈ xs.map PiholeRow.id) :
    id ∈ (xs.take n).map PiholeRow.id ∨ ∀ row ∈ xs.take n, row.id < id := by
  rw [← List.take_append_drop n xs,List.map_append] at hid h
  rcases List.mem_append.mp hid with hid | hid
  · exact .inl hid
  · refine .inr fun row hrow => ?_
    exact (List.pairwise_append.mp h).2.2 _ (List.mem_map_of_mem hrow) _ hid

/-- What the rows of a poll that are still to process leave below them. -/
structure Ahead (returned : List ℤ) (lastId : ℤ) (todo : List PiholeRow) : Prop where
  sorted : (todo.map PiholeRow.id).Pairwise (· < ·)
  split : ∀ id ∈ returned,
    id ≤ lastId ∨ id ∈ todo.map PiholeRow.id ∨ ∀ row ∈ todo, row.id < id

/-- The rows that this process holds between the two ends of its poll. -/
def DnsPhase.held : DnsPhase → List DnsRow
  | processing _ outgoing => outgoing
  | _ => []

/-- The invariant of all runs that save only stored positions. -/
structure Followed (w : DnsWorld) : Prop where
  source : (w.pihole.map PiholeRow.id).Pairwise (· < ·)
  kept : ∀ id ∈ w.returned, id ∈ w.pihole.map PiholeRow.id
  positive : ∀ id ∈ w.returned, 0 < id
  loaded : 0 ≤ w.loaded
  position : w.loaded ≤ w.lastId
  file : ∀ id ∈ w.returned, id ≤ w.loaded → Stored w.dnsQueries id
  memory : w.passed=false → ∀ id ∈ w.returned, id ≤ w.lastId →
    Stored w.dnsQueries id ∨ id ∈ w.phase.held.map DnsRow.piholeId
  ahead : ∀ todo outgoing, w.phase=.processing todo outgoing → Ahead w.returned w.lastId todo

lemma Followed.nothingSkipped (h : Followed w) : NothingSkipped w := by
  intro stored hstored id hid hle
  refine h.file id hid ?_
  rw [DnsWorld.loaded,hstored]
  exact hle

lemma polled_id {w : DnsWorld} {id : ℤ}
    (hid : id ∈ (polled w.pihole w.lastId).map PiholeRow.id) :
    w.lastId < id ∧ id ∈ w.pihole.map PiholeRow.id := by
  obtain ⟨row,hrow,rfl⟩ := List.mem_map.mp hid
  obtain ⟨hmem,hlt⟩ := List.mem_filter.mp (List.mem_of_mem_take hrow)
  exact ⟨of_decide_eq_true hlt,List.mem_map_of_mem hmem⟩

lemma Followed.read (h : Followed w) :
    Ahead (w.returned ++ (polled w.pihole w.lastId).map PiholeRow.id) w.lastId
      (polled w.pihole w.lastId) := by
  have hbehind : ((w.pihole.filter fun row => w.lastId < row.id).map PiholeRow.id).Pairwise
      (· < ·) := h.source.sublist (List.filter_sublist.map _)
  refine ⟨hbehind.sublist ((List.take_sublist _ _).map _),fun id hid => ?_⟩
  rcases List.mem_append.mp hid with hold | hnew
  · by_cases hle : id ≤ w.lastId
    · exact .inl hle
    · obtain ⟨row,hrow,rfl⟩ := List.mem_map.mp (h.kept id hold)
      refine .inr (mem_take_or_above hbehind 5000 (List.mem_map_of_mem ?_))
      exact List.mem_filter.mpr ⟨hrow,decide_eq_true (by omega)⟩
  · exact .inr (.inl hnew)

lemma Ahead.next {returned : List ℤ} {lastId : ℤ} {r : PiholeRow} {todo : List PiholeRow}
    (h : Ahead returned lastId (r::todo)) : Ahead returned (max lastId r.id) todo := by
  obtain ⟨hfirst,hrest⟩ := List.pairwise_cons.mp h.sorted
  refine ⟨hrest,fun id hid => ?_⟩
  rcases h.split id hid with hle | hmem | habove
  · exact .inl (by omega)
  · rcases List.mem_cons.mp hmem with rfl | hmem
    · exact .inl (by omega)
    · exact .inr (.inl hmem)
  · exact .inr (.inr fun row hrow => habove row (List.mem_cons_of_mem _ hrow))

/-- A returned id that the position passes with a row is the id of that row. -/
lemma Ahead.passes {returned : List ℤ} {lastId id : ℤ} {r : PiholeRow} {todo : List PiholeRow}
    (h : Ahead returned lastId (r::todo)) (hid : id ∈ returned) (hle : id ≤ max lastId r.id) :
    id ≤ lastId ∨ id=r.id := by
  obtain ⟨hfirst,-⟩ := List.pairwise_cons.mp h.sorted
  rcases h.split id hid with hlow | hmem | habove
  · exact .inl hlow
  · rcases List.mem_cons.mp hmem with rfl | hmem
    · exact .inr rfl
    · have hlt := hfirst id hmem
      omega
  · have hlt := habove r List.mem_cons_self
    omega

lemma outgoingRow_id {env : IngestEnv} {compiled : Compiled} {row : PiholeRow} {d : DnsRow}
    (h : outgoingRow env compiled row=.ok d) : d.piholeId=row.id := by
  obtain ⟨_,-,h⟩ := bind_ok h
  obtain ⟨_,-,h⟩ := bind_ok h
  obtain ⟨_,-,h⟩ := bind_ok h
  obtain ⟨_,-,h⟩ := bind_ok h
  obtain ⟨_,-,h⟩ := bind_ok h
  obtain ⟨_,-,h⟩ := bind_ok h
  obtain rfl := Except.ok.inj h
  rfl

/-- One step that saves only a stored position keeps the invariant. -/
lemma Followed.step {action : DnsAction} (h : Followed w) (hok : SavesOnlyStored action w)
    (hstep : DnsStep action w w') : Followed w' := by
  have hloaded := h.loaded
  have hposition := h.position
  cases hstep with
  | source _ rows sorted kept =>
    exact { h with source := sorted, kept := kept }
  | read _ hphase hrows =>
    have hids {id : ℤ} (hid : id ∈ w.returned ++ (polled w.pihole w.lastId).map PiholeRow.id) :
        id ∈ w.returned ∨ w.lastId < id ∧ id ∈ w.pihole.map PiholeRow.id :=
      (List.mem_append.mp hid).imp_right polled_id
    refine { h with kept := ?_, positive := ?_, file := ?_, memory := ?_, ahead := ?_ }
    · exact fun id hid => (hids hid).elim (h.kept id) And.right
    · exact fun id hid => (hids hid).elim (h.positive id) fun hnew => by omega
    · intro id hid hle
      rcases hids hid with hold | hnew
      · exact h.file id hold hle
      · have : id ≤ w.loaded := hle
        omega
    · intro hpassed id hid hle
      rcases hids hid with hold | hnew
      · exact .inl ((h.memory hpassed id hold hle).resolve_right (by simp [hphase,DnsPhase.held]))
      · have : id ≤ w.lastId := hle
        omega
    · intro todo outgoing hprocessing
      obtain ⟨rfl,rfl⟩ := DnsPhase.processing.inj hprocessing
      exact h.read
  | row _ env compiled r todo outgoing d hphase hrow =>
    have hahead := h.ahead _ _ hphase
    refine { h with position := ?_, memory := ?_, ahead := ?_ }
    · exact hposition.trans (by dsimp only; omega)
    · intro hpassed id hid hle
      have hmemory := h.memory hpassed id hid
      rw [hphase] at hmemory
      simp only [DnsPhase.held,List.map_append,List.map_cons,List.map_nil,List.mem_append,
        List.mem_singleton,outgoingRow_id hrow] at hmemory ⊢
      rcases hahead.passes hid hle with hlow | hsame
      · exact (hmemory hlow).imp_right .inl
      · exact .inr (.inr hsame)
    · intro rest out hprocessing
      obtain ⟨rfl,rfl⟩ := DnsPhase.processing.inj hprocessing
      exact hahead.next
  | rowFails _ r todo outgoing hphase =>
    refine { h with memory := ?_, ahead := nofun }
    intro hpassed id hid hle
    obtain ⟨hpassed,hempty⟩ := Bool.or_eq_false_iff.mp hpassed
    have hnone : outgoing=[] := by simpa using hempty
    have hmemory := h.memory hpassed id hid hle
    rw [hphase,hnone] at hmemory
    exact hmemory
  | commit _ outgoing hphase =>
    refine { h with file := ?_, memory := ?_, ahead := nofun }
    · exact fun id hid hle => stored_insertQueries.mpr (.inl (h.file id hid hle))
    · intro hpassed id hid hle
      have hmemory := h.memory hpassed id hid hle
      rw [hphase] at hmemory
      exact .inl (stored_insertQueries.mpr hmemory)
  | commitFails _ outgoing hphase =>
    exact { h with memory := nofun, ahead := nofun }
  | save _ hphase =>
    refine { h with loaded := hloaded.trans hposition, position := le_rfl, file := ?_,
                    memory := ?_, ahead := nofun }
    · intro id hid hle
      exact (h.memory (hok rfl) id hid hle).resolve_right (by simp [hphase,DnsPhase.held])
    · intro hpassed id hid hle
      exact .inl ((h.memory hpassed id hid hle).resolve_right (by simp [hphase,DnsPhase.held]))
  | saveFails _ hphase =>
    refine { h with memory := ?_, ahead := nofun }
    intro hpassed id hid hle
    exact .inl ((h.memory hpassed id hid hle).resolve_right (by simp [hphase,DnsPhase.held]))
  | crash =>
    exact { h with position := le_rfl, memory := fun _ id hid hle => .inl (h.file id hid hle),
                   ahead := nofun }

/-- As long as a process that moved over rows without storing them ends before it saves a
position, no query that a poll returned is skipped. -/
theorem nothing_skipped (run : Run DnsStep SavesOnlyStored {} w) : NothingSkipped w := by
  have hstart : Followed {} :=
    ⟨List.Pairwise.nil,nofun,nofun,le_rfl,le_rfl,nofun,fun _ => nofun,nofun⟩
  exact (run.invariant (I := Followed) hstart fun h hok hstep => h.step hok hstep).nothingSkipped

end Invariant

section Skipping

def sampleQuery (id : ℤ) : PiholeRow :=
  { id := id, timestamp := .int 60, queryType := .int 1, status := .int 2, domain := .none,
    client := .none, replyType := .int 4, replyTime := .int 0 }

def sampleStored (id : ℤ) : DnsRow :=
  { piholeId := id, eventTime := 60000000, clientIp := "", clientName := "", domain := "",
    queryType := 1, status := 2, blocked := false, replyType := 4,
    replyTime := { text := "", finite := some (0,1) }, service := "" }

lemma outgoing_sample (id : ℤ) :
    outgoingRow homeEnv [] (sampleQuery id)=.ok (sampleStored id) := rfl

/-- The world in which a poll has returned the only row of the source. -/
def polledWorld : DnsWorld :=
  { pihole := [sampleQuery 1], phase := .processing [sampleQuery 1] [], returned := [1] }

/-- The world in which this row has been processed. -/
def processedWorld : DnsWorld :=
  { polledWorld with phase := .processing [] [sampleStored 1], lastId := 1 }

lemma processed_run : Run DnsStep SavesOnlyStored {} processedWorld := by
  have hsource : Run DnsStep SavesOnlyStored {} { pihole := [sampleQuery 1] } :=
    Run.refl.step (i := .source) nofun (.source {} [sampleQuery 1] (by simp) nofun)
  have hread : Run DnsStep SavesOnlyStored {} polledWorld :=
    hsource.step (i := .read) nofun (.read { pihole := [sampleQuery 1] } rfl (List.cons_ne_nil _ _))
  exact hread.step (i := .row) nofun
    (.row polledWorld homeEnv [] (sampleQuery 1) [] [] (sampleStored 1) rfl (outgoing_sample 1))

/-- The world in which the row is stored and its position saved. -/
def savedWorld : DnsWorld :=
  { pihole := [sampleQuery 1], dnsQueries := [sampleStored 1], stateFile := some 1, lastId := 1,
    returned := [1] }

/-- A query that is polled, stored and passed by the saved position. -/
theorem nothing_skipped_stored : NothingSkipped savedWorld :=
  nothing_skipped
    ((processed_run.step (i := .commit) nofun (.commit processedWorld [sampleStored 1] rfl)).step
      (i := .save) (fun _ => rfl)
      (.save { processedWorld with phase := .saving, dnsQueries := [sampleStored 1] } rfl))

/-- The world after the next poll, where the transaction of the first one failed. -/
def skippedWorld : DnsWorld :=
  { pihole := [sampleQuery 1,sampleQuery 2], dnsQueries := [sampleStored 2],
    stateFile := some 2, lastId := 2, returned := [1,2], passed := true }

/-- A query whose transaction failed is passed by the position of the next poll. -/
theorem failed_transaction_skips :
    ¬∀ w : DnsWorld, Run DnsStep anyStep {} w → NothingSkipped w := by
  intro h
  have hfailed := (processed_run.mono fun _ _ _ => trivial).step (i := .commitFails) trivial
    (.commitFails processedWorld [sampleStored 1] rfl)
  have hgrown := hfailed.step (i := .source) trivial
    (.source _ [sampleQuery 1,sampleQuery 2] (by simp [sampleQuery])
      (by simp [processedWorld,polledWorld,sampleQuery]))
  have hread := hgrown.step (i := .read) trivial (.read _ rfl (by exact List.cons_ne_nil _ _))
  have hrow := hread.step (i := .row) trivial
    (.row _ homeEnv [] (sampleQuery 2) [] [] (sampleStored 2) rfl (outgoing_sample 2))
  have hcommit := hrow.step (i := .commit) trivial (.commit _ [sampleStored 2] rfl)
  have hsave : Run DnsStep anyStep {} skippedWorld :=
    hcommit.step (i := .save) trivial (.save _ rfl)
  obtain ⟨row,hrow,hid⟩ := h skippedWorld hsave 2 rfl 1 (by simp [skippedWorld]) (by decide)
  rw [List.mem_singleton.mp hrow] at hid
  cases hid

end Skipping
end ZenControl.Telemetry
