import TableSql.Proofs.Entity.Add
import TableSql.Proofs.Entity.Blocks
import TableSql.Proofs.Statement.Shape

/-! Updates that are refused. Each chunk is looked at just before it would be sent, so that those
before it are written by then and stay so. -/

namespace TableSql

variable {σ : Type}

namespace Entity

def Changes (e : Entity) (row : Record) : Prop :=
  ∃ p ∈ e.properties, p.allows .update ∧ row.contains p.key

instance (e : Entity) (row : Record) : Decidable (e.Changes row) :=
  inferInstanceAs (Decidable (∃ p ∈ e.properties, p.allows .update ∧ row.contains p.key))

theorem changes_iff {e : Entity} {row : Record} :
    e.Changes row ↔ ∃ key ∈ e.registry.update.keys, row.contains key := by
  have hkeys : ∀ key, key ∈ e.registry.update.keys ↔
      ∃ p ∈ e.properties, p.key = key ∧ p.allows .update := fun key =>
    Registry.mem_keys_ofProperties (o := .update) Operation.noConfusion
  constructor
  · rintro ⟨p, hp, hallows, hcontains⟩
    exact ⟨p.key, (hkeys p.key).mpr ⟨p, hp, rfl, hallows⟩, hcontains⟩
  · rintro ⟨key, hkey, hcontains⟩
    obtain ⟨p, hp, rfl, hallows⟩ := (hkeys key).mp hkey
    exact ⟨p, hp, hallows, hcontains⟩

theorem isEmpty_assignedColumns_iff {e : Entity} {chunk : List Record} {row : Record}
    (hrow : chunk.head? = some row) (consumer : Option Consumer) :
    (e.assignedColumns chunk consumer).isEmpty ↔ consumer = none ∧ ¬ e.Changes row := by
  have hkeys : (e.registry.update.toList.filter fun column =>
      (some row).any (·.contains column.key)) = [] ↔ ¬ e.Changes row := by
    rw [changes_iff, List.filter_eq_nil_iff, Sql.Columns.toList, List.forall_mem_map]
    simp [Sql.Column.named]
  rw [assignedColumns, Statement.assignedColumns_eq, hrow, List.isEmpty_iff,
    List.append_eq_nil_iff, hkeys]
  cases consumer with
  | none => simp
  | some c => simp

def firstUpdates (e : Entity) (consumer : Option Consumer) (rows : List Record) (n : Nat) :
    List Statement :=
  (List.range n).map fun i =>
    e.updateStatement ((rows.drop (i * e.options.chunkSize.toNat)).take e.options.chunkSize.toNat)
      consumer

/-- An update is refused at chunk `n`: the first row of the chunk has nothing to change, and neither
that nor the client has stopped the update before. -/
structure RefusedAt (e : Entity) (client : Client σ) (consumer : Option Consumer)
    (rows : List Record) (state : σ) (n : Nat) : Prop where
  no_consumer : consumer = none
  first : ∃ row, rows[n * e.options.chunkSize.toNat]? = some row ∧ ¬ e.Changes row
  before : ∀ i < n, ∃ row, rows[i * e.options.chunkSize.toNat]? = some row ∧ e.Changes row
  answered : ∀ answer ∈ client.answers (e.firstUpdates consumer rows n) state,
    ∃ reply, answer = .ok reply

section Updating

variable {e : Entity} {client : Client σ} {consumer : Option Consumer} {rows : List Record}
  {state : σ}

/-- A chunk stops an update where it has nothing to change or the client fails on it. -/
theorem stop?_updating (chunk : List Record) (answer : Except Error Reply) :
    (e.updating consumer).stop? chunk answer =
      if (e.assignedColumns chunk consumer).isEmpty then
        some (.validation (.nothingToUpdate e.name))
      else
        match answer with
        | .error fault => some (.backend fault)
        | .ok _ => none := by
  split
  · next hempty =>
    have hrefusal : (e.updating consumer).refusal chunk =
        some (.validation (.nothingToUpdate e.name)) := if_pos hempty
    simp only [Writing.stop?, hrefusal]
  · next hassigned =>
    have hrefusal : (e.updating consumer).refusal chunk = none := if_neg hassigned
    cases answer with
    | error fault => simp only [Writing.stop?, hrefusal]
    | ok reply =>
      simp only [Writing.stop?, hrefusal]
      rfl

private theorem stop?_eq_validation_iff {chunk : List Record} {answer : Except Error Reply}
    {invalid : Invalid} :
    (e.updating consumer).stop? chunk answer = some (.validation invalid) ↔
      (e.assignedColumns chunk consumer).isEmpty ∧ invalid = .nothingToUpdate e.name := by
  rw [stop?_updating]
  split
  · next hempty => simp [hempty, eq_comm]
  · next hassigned => cases answer <;> simp [hassigned]

private theorem stop?_eq_none_iff {chunk : List Record} {answer : Except Error Reply} :
    (e.updating consumer).stop? chunk answer = none ↔
      ¬ (e.assignedColumns chunk consumer).isEmpty ∧ ∃ reply, answer = .ok reply := by
  rw [stop?_updating]
  split
  · next hempty => simp [hempty]
  · next hassigned => cases answer <;> simp [hassigned]

theorem getElem?_chunksOf_of_row {n : Nat} {row : Record}
    (hrow : rows[n * e.options.chunkSize.toNat]? = some row) :
    ∃ chunk, (e.chunksOf rows)[n]? = some chunk ∧ chunk.head? = some row := by
  have hlt := (List.getElem?_eq_some_iff.mp hrow).1
  refine ⟨_, (getElem?_chunks e.chunkSize_pos rows n).trans (if_pos hlt), ?_⟩
  rw [List.head?_take, if_neg (Nat.ne_of_gt e.chunkSize_pos), List.head?_drop, hrow]

private theorem exists_row_of_chunk {n : Nat} {chunk : List Record}
    (hchunk : (e.chunksOf rows)[n]? = some chunk) :
    ∃ row, rows[n * e.options.chunkSize.toNat]? = some row ∧ chunk.head? = some row := by
  rw [chunksOf, getElem?_chunks e.chunkSize_pos] at hchunk
  split at hchunk
  · next hlt =>
    refine ⟨_, List.getElem?_eq_getElem hlt, ?_⟩
    rw [← Option.some.inj hchunk, List.head?_take, if_neg (Nat.ne_of_gt e.chunkSize_pos),
      List.head?_drop, List.getElem?_eq_getElem hlt]
  · cases hchunk

private theorem answers_firstUpdates {n : Nat} {row : Record}
    (hrow : rows[n * e.options.chunkSize.toNat]? = some row) :
    (client.answers ((e.chunksOf rows).map (e.updating consumer).statement) state).take n =
      client.answers (e.firstUpdates consumer rows n) state := by
  have hle := Nat.le_of_lt (List.getElem?_eq_some_iff.mp hrow).1
  rw [← Client.answers_take, ← List.map_take, chunksOf, take_chunks e.chunkSize_pos rows hle,
    List.map_map]
  rfl

section Row

variable {n : Nat} {row : Record} (hrow : rows[n * e.options.chunkSize.toNat]? = some row)
include hrow

theorem stopAt_eq_validation_iff {invalid : Invalid} :
    (e.updating consumer).stopAt client (e.chunksOf rows) state n = some (.validation invalid) ↔
      (consumer = none ∧ ¬ e.Changes row) ∧ invalid = .nothingToUpdate e.name := by
  obtain ⟨chunk, hchunk, hhead⟩ := getElem?_chunksOf_of_row hrow
  obtain ⟨answer, -, hstop⟩ := (e.updating consumer).exists_answer client state hchunk
  rw [hstop, stop?_eq_validation_iff, isEmpty_assignedColumns_iff hhead]

theorem stopAt_eq_none_iff :
    (e.updating consumer).stopAt client (e.chunksOf rows) state n = none ↔
      ¬ (consumer = none ∧ ¬ e.Changes row) ∧ ∃ reply,
        (client.answers ((e.chunksOf rows).map (e.updating consumer).statement) state)[n]? =
          some (.ok reply) := by
  obtain ⟨chunk, hchunk, hhead⟩ := getElem?_chunksOf_of_row hrow
  obtain ⟨answer, hanswer, hstop⟩ := (e.updating consumer).exists_answer client state hchunk
  rw [hstop, stop?_eq_none_iff, isEmpty_assignedColumns_iff hhead, hanswer]
  simp only [Option.some.injEq]

theorem answered_iff :
    (∀ answer ∈ client.answers (e.firstUpdates consumer rows n) state,
        ∃ reply, answer = .ok reply) ↔
      ∀ i < n, ∃ reply,
        (client.answers ((e.chunksOf rows).map (e.updating consumer).statement) state)[i]? =
          some (.ok reply) := by
  obtain ⟨chunk, hchunk, -⟩ := getElem?_chunksOf_of_row hrow
  rw [← answers_firstUpdates hrow]
  constructor
  · intro hall i hi
    have hlength : i < (client.answers ((e.chunksOf rows).map
        (e.updating consumer).statement) state).length := by
      rw [Client.length_answers, List.length_map]
      exact Nat.lt_trans hi (List.getElem?_eq_some_iff.mp hchunk).1
    have hget := List.getElem?_eq_getElem hlength
    have hmem := List.mem_of_getElem? ((List.getElem?_take_of_lt hi).trans hget)
    obtain ⟨reply, hreply⟩ := hall _ hmem
    exact ⟨reply, hget.trans (congrArg some hreply)⟩
  · intro hall answer hanswer
    obtain ⟨i, hi⟩ := List.mem_iff_getElem?.mp hanswer
    rw [List.getElem?_take] at hi
    split at hi
    · next hlt =>
      obtain ⟨reply, hreply⟩ := hall i hlt
      exact ⟨reply, Option.some.inj (hi.symm.trans hreply)⟩
    · cases hi

end Row

/-- An update is refused at a chunk where that is the first to stop it, by having nothing to
change. -/
theorem refusedAt_iff {n : Nat} {invalid : Invalid} :
    ((e.updating consumer).stopAt client (e.chunksOf rows) state n = some (.validation invalid) ∧
      ∀ i < n, (e.updating consumer).stopAt client (e.chunksOf rows) state i = none) ↔
    invalid = .nothingToUpdate e.name ∧ e.RefusedAt client consumer rows state n := by
  have hearlier : ∀ {i row}, i < n → rows[n * e.options.chunkSize.toNat]? = some row →
      ∃ row, rows[i * e.options.chunkSize.toNat]? = some row := fun hi hrow =>
    ⟨_, List.getElem?_eq_getElem (Nat.lt_of_le_of_lt (Nat.mul_le_mul_right _ (Nat.le_of_lt hi))
      (List.getElem?_eq_some_iff.mp hrow).1)⟩
  constructor
  · rintro ⟨hstop, hbefore⟩
    obtain ⟨chunk, hchunk, -⟩ := Option.bind_eq_some_iff.mp hstop
    obtain ⟨row, hrow, -⟩ := exists_row_of_chunk hchunk
    obtain ⟨⟨hconsumer, hunchanged⟩, hinvalid⟩ := (stopAt_eq_validation_iff hrow).mp hstop
    refine ⟨hinvalid, hconsumer, ⟨row, hrow, hunchanged⟩, fun i hi => ?_, ?_⟩
    · obtain ⟨first, hfirst⟩ := hearlier hi hrow
      obtain ⟨hassigned, -⟩ := (stopAt_eq_none_iff hfirst).mp (hbefore i hi)
      exact ⟨first, hfirst, of_not_not fun h => hassigned ⟨hconsumer, h⟩⟩
    · refine (answered_iff hrow).mpr fun i hi => ?_
      obtain ⟨first, hfirst⟩ := hearlier hi hrow
      exact ((stopAt_eq_none_iff hfirst).mp (hbefore i hi)).2
  · rintro ⟨rfl, hconsumer, ⟨row, hrow, hunchanged⟩, hbefore, hanswered⟩
    refine ⟨(stopAt_eq_validation_iff hrow).mpr ⟨⟨hconsumer, hunchanged⟩, rfl⟩, fun i hi => ?_⟩
    obtain ⟨first, hfirst, hchanges⟩ := hbefore i hi
    exact (stopAt_eq_none_iff hfirst).mpr
      ⟨fun h => h.2 hchanges, (answered_iff hrow).mp hanswered i hi⟩

theorem sentUpTo_of_refusedAt {n : Nat} (h : e.RefusedAt client consumer rows state n) :
    (e.updating consumer).sentUpTo (e.chunksOf rows) n = e.firstUpdates consumer rows n := by
  obtain ⟨row, hrow, hunchanged⟩ := h.first
  obtain ⟨chunk, hchunk, hhead⟩ := getElem?_chunksOf_of_row hrow
  have hempty := (isEmpty_assignedColumns_iff hhead consumer).mpr ⟨h.no_consumer, hunchanged⟩
  have hrefusal : (e.updating consumer).refusal chunk =
      some (.validation (.nothingToUpdate e.name)) := if_pos hempty
  have hle := Nat.le_of_lt (List.getElem?_eq_some_iff.mp hrow).1
  rw [Writing.sentUpTo, hchunk]
  dsimp only
  rw [hrefusal, chunksOf, take_chunks e.chunkSize_pos rows hle, List.map_map]
  exact List.append_nil _

/-- A row without a column to change, at the beginning of a chunk that is reached, ends an update as
refused, after the chunks before it and before its own. -/
theorem run_update_of_refusedAt {n : Nat} (session : Session (σ × List Statement))
    (h : e.RefusedAt client consumer rows session.client.1 n) :
    let updated := (e.update client.recorded rows consumer).run session
    updated.1 = .error (.validation (.nothingToUpdate e.name)) ∧
      updated.2.client.2 = session.client.2 ++ e.firstUpdates consumer rows n ∧
      (n = 0 → updated.2.client = session.client) := by
  intro updated
  obtain ⟨hstop, hbefore⟩ := refusedAt_iff.mpr ⟨rfl, h⟩
  obtain ⟨houtcome, hsent⟩ := Writing.course_of_stopAt hstop hbefore
  rw [sentUpTo_of_refusedAt h] at hsent
  obtain ⟨log, hupdated⟩ := e.run_update_recorded client consumer rows session
  rw [houtcome, hsent] at hupdated
  unfold updated
  rw [hupdated]
  refine ⟨rfl, rfl, ?_⟩
  rintro rfl
  exact Prod.ext (Writing.after_of_sent_nil hsent) (List.append_nil _)

private theorem exists_refusedAt {invalid : Invalid} {session : Session (σ × List Statement)}
    (h : ((e.update client.recorded rows consumer).run session).1 =
      .error (.validation invalid)) :
    invalid = .nothingToUpdate e.name ∧
      ∃ n, e.RefusedAt client consumer rows session.client.1 n := by
  obtain ⟨log, hupdated⟩ := e.run_update_recorded client consumer rows session
  rw [hupdated] at h
  cases houtcome : ((e.updating consumer).course client (e.chunksOf rows)
    session.client.1).outcome with
  | ok replies =>
    rw [houtcome] at h
    cases h
  | error error =>
    rw [houtcome] at h
    obtain rfl := Except.error.inj h
    obtain ⟨n, hstop, hbefore, -⟩ := Writing.course_error houtcome
    obtain ⟨hname, hrefused⟩ := refusedAt_iff.mp ⟨hstop, hbefore⟩
    exact ⟨hname, n, hrefused⟩

theorem RefusedAt.eq_zero {n : Nat} (h : e.RefusedAt client consumer rows state n)
    (hrows : rows.length ≤ e.options.chunkSize.toNat) : n = 0 := by
  obtain ⟨row, hrow, -⟩ := h.first
  have hlt := (List.getElem?_eq_some_iff.mp hrow).1
  by_contra hpos
  have hle := Nat.le_mul_of_pos_left e.options.chunkSize.toNat (Nat.pos_of_ne_zero hpos)
  omega

end Updating

/-- An update is refused exactly where it reaches a chunk whose first row has nothing to change.
Nothing of that chunk has been sent then or of one after it, but the chunks before it have: the
client has been sent their statements and has answered each of them. It has been sent none where
the chunk is the first, which it is where all rows are in one chunk. -/
theorem refused_update_sent_first_chunks (e : Entity) (client : Client σ) (rows : List Record)
    (consumer : Option Consumer) (session : Session (σ × List Statement)) :
    let updated := (e.update client.recorded rows consumer).run session
    (∀ invalid, updated.1 = .error (.validation invalid) →
      invalid = .nothingToUpdate e.name ∧
      ∃ n, e.RefusedAt client consumer rows session.client.1 n) ∧
    ∀ n, e.RefusedAt client consumer rows session.client.1 n →
      updated.1 = .error (.validation (.nothingToUpdate e.name)) ∧
      updated.2.client.2 = session.client.2 ++ e.firstUpdates consumer rows n ∧
      (n = 0 → updated.2.client = session.client) ∧
      (rows.length ≤ e.options.chunkSize.toNat → n = 0) := by
  intro updated
  refine ⟨fun invalid h => exists_refusedAt h, fun n hrefused => ?_⟩
  obtain ⟨houtcome, hsent, hclient⟩ := run_update_of_refusedAt session hrefused
  exact ⟨houtcome, hsent, hclient, hrefused.eq_zero⟩

/-- Of these rows the first has a column of persons to change, and the second has none. -/
def nameThenColor : List Record :=
  [ Record.ofCells [("id", .int 1), ("name", .text "John")],
    Record.ofCells [("id", .int 2), ("color", .text "red")] ]

def changedOne : List (Except Error Reply) := [.ok ⟨[], some 1, []⟩]

theorem refusedAt_nameThenColor :
    (persons 1 (by decide)).RefusedAt Client.scripted none nameThenColor changedOne 1 where
  no_consumer := rfl
  first := ⟨_, rfl, by decide +kernel⟩
  before i hi := by
    obtain rfl : i = 0 := by omega
    exact ⟨_, rfl, by decide +kernel⟩
  answered answer hanswer := by
    obtain rfl := List.mem_singleton.mp hanswer
    exact ⟨_, rfl⟩

theorem refused_update_nameThenColor :
    (persons 1 (by decide)).RefusedAt Client.scripted none nameThenColor changedOne 1 ∧
    (((persons 1 (by decide)).update Client.scripted.recorded nameThenColor none).run
      ⟨(changedOne, []), []⟩).2.client.2 =
        [(persons 1 (by decide)).updateStatement (nameThenColor.take 1) none] := by
  obtain ⟨-, hrefused⟩ := refused_update_sent_first_chunks (persons 1 (by decide)) Client.scripted
    nameThenColor none ⟨(changedOne, []), []⟩
  obtain ⟨-, hsent, -⟩ := hrefused 1 refusedAt_nameThenColor
  exact ⟨refusedAt_nameThenColor, hsent⟩

/-- An update that is refused may have changed the table before. -/
theorem refused_update_not_untouched :
    let updated := ((persons 1 (by decide)).update Client.scripted.recorded nameThenColor none).run
      ⟨(changedOne, []), []⟩
    updated.1 = .error (.validation (.nothingToUpdate "persons")) ∧
    updated.2.client.2.map Statement.text =
      ["UPDATE persons SET name = CASE WHEN id = $1 THEN $2 ELSE name END WHERE id IN ($1)"] := by
  intro updated
  obtain ⟨houtcome, hsent, -⟩ :=
    run_update_of_refusedAt ⟨(changedOne, []), []⟩ refusedAt_nameThenColor
  refine ⟨houtcome, ?_⟩
  unfold updated
  rw [hsent]
  decide +kernel

end Entity

end TableSql
