import TableSql.Proofs.Client.Table
import TableSql.Proofs.Entity.Refusal
import TableSql.Proofs.Statement.Change

/-! Updates in chunks, row by row. Each row of a batch has a share in what becomes of a row of the
table: its chunk says which columns are written, and from which row for the id. Chunks can be told
only where they give a row another share. -/

namespace TableSql

variable {σ : Type}

namespace SameId

/-- Where the row stands that the chunk of row `i` has for an id: no other row for the id stands
before it in the chunk. -/
structure FirstAt (same : SameId) (id : Value) (size : Nat) (rows : List Record) (row : Record)
    (i k : Nat) : Prop where
  row_eq : rows[k]? = some row
  test : same.test id (row.get Sql.idColumn)
  chunk : k / size = i / size
  first : ∀ (j : Nat) (other : Record), rows[j]? = some other →
    same.test id (other.get Sql.idColumn) → j / size = i / size → k ≤ j

variable {same : SameId} {id : Value} {size : Nat} {rows : List Record}

/-- The chunk of a row for an id has a first row for it. -/
theorem exists_firstAt (hsize : 0 < size) {i : Nat} {given : Record}
    (hgiven : rows[i]? = some given) (htest : same.test id (given.get Sql.idColumn)) :
    ∃ k row, same.rowFor? id (chunkAt size rows i) = some row ∧
      same.FirstAt id size rows row i k := by
  cases hfound : same.rowFor? id (chunkAt size rows i) with
  | none =>
    have hmem := List.mem_of_getElem? ((getElem?_chunkAt hsize rows rfl).trans hgiven)
    exact absurd htest (rowFor?_eq_none_iff.mp hfound given hmem)
  | some row =>
    obtain ⟨hrow, p, hp, hget, hbefore⟩ := List.find?_eq_some_iff_getElem.mp hfound
    have hlt : p < size := by
      rw [chunkAt_eq hsize] at hp
      exact Nat.lt_of_lt_of_le hp (List.length_take_le _ _)
    have hchunk : (i / size * size + p) / size = i / size := by
      rw [Nat.mul_comm, Nat.mul_add_div hsize, Nat.div_eq_of_lt hlt, Nat.add_zero]
    have hplace : (i / size * size + p) % size = p := by
      rw [Nat.mul_comm, Nat.mul_add_mod, Nat.mod_eq_of_lt hlt]
    refine ⟨i / size * size + p, row, rfl, ?_, hrow, hchunk, fun j other hother hsame hj => ?_⟩
    · rw [← getElem?_chunkAt hsize rows hchunk, hplace, List.getElem?_eq_getElem hp, hget]
    · rw [← getElem?_chunkAt hsize rows hj] at hother
      have hle : p ≤ j % size := by
        by_contra hlater
        have hno := hbefore (j % size) (Nat.lt_of_not_le hlater)
        rw [(List.getElem?_eq_some_iff.mp hother).2, hsame] at hno
        cases hno
      have hdivision := Nat.div_add_mod' j size
      rw [hj] at hdivision
      omega

section FirstAt

variable {size' i k k' : Nat} {given row row' : Record} (hgiven : rows[i]? = some given)
  (htest : same.test id (given.get Sql.idColumn))
include hgiven htest

theorem FirstAt.le_of_shared (h : same.FirstAt id size rows row i k)
    (h' : same.FirstAt id size' rows row' i k')
    (hshared : k / size = k' / size → k / size' = k' / size') : k' ≤ k := by
  by_contra hlater
  -- a row between `k` and row `i` is in their chunk
  have hle := Nat.div_le_div_right (c := size) (Nat.le_of_not_le hlater)
  have hle' := Nat.div_le_div_right (c := size) (h'.first i given hgiven htest rfl)
  have hk : k / size = k' / size := Nat.le_antisymm hle (h.chunk ▸ hle')
  exact hlater (h'.first k row h.row_eq h.test ((hshared hk).trans h'.chunk))

/-- Where the first rows for an id share a chunk of the one division exactly if they share one of
the other, they are one row. -/
theorem FirstAt.eq_of_shared_iff (h : same.FirstAt id size rows row i k)
    (h' : same.FirstAt id size' rows row' i k')
    (hshared : k / size = k' / size ↔ k / size' = k' / size') : row = row' := by
  have hle := h.le_of_shared hgiven htest h' hshared.mp
  have hle' := h'.le_of_shared hgiven htest h fun heq => (hshared.mpr heq.symm).symm
  obtain rfl := Nat.le_antisymm hle hle'
  exact Option.some.inj (h.row_eq.symm.trans h'.row_eq)

end FirstAt

end SameId

namespace Entity

def columnsAt (e : Entity) (consumer : Option Consumer) (rows : List Record) (i : Nat) :
    List Sql.Column :=
  e.assignedColumns (chunkAt e.options.chunkSize.toNat rows i) consumer

/-- An update comes to row `i`: no row before it is in a chunk without a column to change. -/
def Reaches (e : Entity) (consumer : Option Consumer) (rows : List Record) (i : Nat) : Prop :=
  ∀ j < i, e.columnsAt consumer rows j ≠ []

/-- Rows that two entities divide into chunks so that an update cannot tell the one from the other.
The chunk of each row changes the same columns, and two rows for one id share a chunk of the one
entity exactly if they share one of the other, or change the columns to the same values. Rows that
the update does not come to may be any. -/
structure ChunkedAlike (e e' : Entity) (same : SameId) (consumer : Option Consumer)
    (rows : List Record) : Prop where
  columns : ∀ i < rows.length, e.Reaches consumer rows i →
    e'.columnsAt consumer rows i = e.columnsAt consumer rows i
  cells : ∀ (i j : Nat) (row other : Record) (id : Value),
    rows[i]? = some row → rows[j]? = some other →
    e.Reaches consumer rows i → e.Reaches consumer rows j →
    same.test id (row.get "id") → same.test id (other.get "id") →
    (i / e.options.chunkSize.toNat = j / e.options.chunkSize.toNat ↔
      i / e'.options.chunkSize.toNat = j / e'.options.chunkSize.toNat) ∨
    ∀ column ∈ e.columnsAt consumer rows i,
      Statement.updatedCell consumer column.key row =
        Statement.updatedCell consumer column.key other

section Share

variable (e : Entity) (consumer : Option Consumer) (same : SameId) (id : Value)

/-- What a row of a chunk has written into a row of the table with an id: the cells of the first row
of the chunk for it, if it is for the id itself. There is nothing where the chunk is refused. -/
def share? (chunk : List Record) (row : Record) : Option (List (String × Value)) :=
  if (e.assignedColumns chunk consumer).isEmpty then none
  else
    some <| if same.test id (row.get Sql.idColumn) then
      ((same.rowFor? id chunk).map
        (Statement.writtenCells (e.assignedColumns chunk consumer) consumer)).getD []
    else []

def shares (chunks : List (List Record)) : List (Option (List (String × Value))) :=
  chunks.flatMap fun chunk => chunk.map (e.share? consumer same id chunk)

variable {e consumer same id}

private theorem shares_congr {id' : Value} (h : ∀ v, same.test id' v = same.test id v)
    (chunks : List (List Record)) :
    e.shares consumer same id' chunks = e.shares consumer same id chunks := by
  unfold shares share?
  simp only [h, SameId.rowFor?_congr h]

theorem getElem?_shares (rows : List Record) (i : Nat) :
    (e.shares consumer same id (e.chunksOf rows))[i]? =
      rows[i]?.map (e.share? consumer same id (chunkAt e.options.chunkSize.toNat rows i)) :=
  getElem?_flatMap_chunks e.chunkSize_pos _ rows i

theorem share?_eq_none_iff {chunk : List Record} {row : Record} :
    e.share? consumer same id chunk row = none ↔ e.assignedColumns chunk consumer = [] := by
  rw [← List.isEmpty_iff, share?]
  split
  · next hempty => simp [hempty]
  · next hassigned => simp [hassigned]

/-- The shares of a chunk that is not refused come to what its statement does. -/
theorem writeLists_shares_cons {chunk : List Record} (h : e.assignedColumns chunk consumer ≠ [])
    (rest : List (List Record)) (target : Record) :
    target.writeLists (e.shares consumer same id (chunk :: rest)) =
      (Statement.overwritten (e.assignedColumns chunk consumer) consumer target
        (same.rowFor? id chunk)).writeLists (e.shares consumer same id rest) := by
  have hassigned : ¬ (e.assignedColumns chunk consumer).isEmpty := fun hempty =>
    h (List.isEmpty_iff.mp hempty)
  have hshares : chunk.map (e.share? consumer same id chunk) =
      (chunk.map fun row => if same.test id (row.get Sql.idColumn) then
        ((same.rowFor? id chunk).map
          (Statement.writtenCells (e.assignedColumns chunk consumer) consumer)).getD []
      else []).map some := by
    rw [List.map_map]
    exact List.map_congr_left fun row _ => if_neg hassigned
  rw [shares, List.flatMap_cons, hshares, Record.writeLists_append, List.foldl_map,
    Statement.foldl_write_rowFor?]
  rfl

theorem none_mem_shares_cons {chunk : List Record} (hchunk : chunk ≠ [])
    (rest : List (List Record)) :
    none ∈ e.shares consumer same id (chunk :: rest) ↔
      e.assignedColumns chunk consumer = [] ∨ none ∈ e.shares consumer same id rest := by
  have hfirst : none ∈ chunk.map (e.share? consumer same id chunk) ↔
      e.assignedColumns chunk consumer = [] := by
    simp only [List.mem_map, share?_eq_none_iff]
    obtain ⟨row, others, rfl⟩ := List.exists_cons_of_ne_nil hchunk
    exact ⟨fun ⟨_, _, h⟩ => h, fun h => ⟨row, List.mem_cons_self, h⟩⟩
  rw [shares, List.flatMap_cons, List.mem_append, hfirst]
  rfl

private theorem writeLists_shares_of_refused {chunk : List Record} (hchunk : chunk ≠ [])
    (h : e.assignedColumns chunk consumer = []) (rest : List (List Record)) (target : Record) :
    target.writeLists (e.shares consumer same id (chunk :: rest)) = target := by
  obtain ⟨row, others, rfl⟩ := List.exists_cons_of_ne_nil hchunk
  rw [shares, List.flatMap_cons, List.map_cons, share?_eq_none_iff.mpr h]
  rfl

end Share

section Runs

variable {client : Client σ} {same : SameId} {contents : σ → List Record} {e : Entity}
  {consumer : Option Consumer}

theorem run_updateChunk (hclient : client.RunsUpdates same e.table contents) {chunk : List Record}
    (hchunk : chunk ≠ []) (h : e.assignedColumns chunk consumer ≠ []) (session : Session σ) :
    ∃ n after log, (e.updateChunk client consumer chunk).run session = (.ok n, ⟨after, log⟩) ∧
      contents after = (contents session.client).map fun target =>
        Statement.overwritten (e.assignedColumns chunk consumer) consumer target
          (same.rowFor? (target.get Sql.idColumn) chunk) := by
  have hchanges : (e.updateStatement chunk consumer).ChangesRows _ :=
    Statement.changesRows_update e.table hchunk h rfl
  obtain ⟨reply, after, hquery, hcontents⟩ := hclient _ _ session.client hchanges rfl
  obtain ⟨log, hexecute⟩ := Statement.run_execute_ok e.options.trace session hquery
  refine ⟨(Response.ofReply reply).rowCount, after, log, ?_, ?_⟩
  · rw [updateChunk, if_neg fun hempty => h (List.isEmpty_iff.mp hempty)]
    exact Action.run_bind_ok hexecute
  · rw [hcontents]
    exact List.map_congr_left fun target _ =>
      Statement.apply_update e.registry.update e.table chunk consumer same rfl target

/-- Chunks leave in each row of the table the shares of their rows, up to the first that is
refused. -/
theorem run_updateChunks (hclient : client.RunsUpdates same e.table contents)
    (hsame : same.Lawful) {chunks : List (List Record)} (hchunks : ∀ chunk ∈ chunks, chunk ≠ [])
    (count : UInt64) (session : Session σ) :
    let updated := (e.updateChunks client consumer count chunks).run session
    (∀ id, (∃ n, updated.1 = .ok n) ↔ none ∉ e.shares consumer same id chunks) ∧
    contents updated.2.client = (contents session.client).map fun target =>
      target.writeLists (e.shares consumer same (target.get Sql.idColumn) chunks) := by
  intro updated
  induction chunks generalizing count session with
  | nil =>
    refine ⟨fun _ => ⟨fun _ => List.not_mem_nil, fun _ => ⟨count, rfl⟩⟩, ?_⟩
    exact (List.map_id' _).symm
  | cons chunk rest ih =>
    obtain ⟨hchunk, hrest⟩ := List.forall_mem_cons.mp hchunks
    by_cases hassigned : e.assignedColumns chunk consumer = []
    · have hupdated : updated = (.error (.validation (.nothingToUpdate e.name)), session) :=
        Action.run_bind_error
          (e.run_updateChunk_refused client consumer (List.isEmpty_iff.mpr hassigned) session)
      rw [hupdated]
      refine ⟨fun id => ⟨?_, fun h => ?_⟩, ?_⟩
      · rintro ⟨n, h⟩
        cases h
      · exact absurd ((none_mem_shares_cons hchunk rest).mpr (.inl hassigned)) h
      · simp only [writeLists_shares_of_refused hchunk hassigned, List.map_id']
    · obtain ⟨n, middle, log, hrun, hmiddle⟩ :=
        run_updateChunk hclient hchunk hassigned session
      have hupdated : updated = (e.updateChunks client consumer (count + n) rest).run
          ⟨middle, log⟩ := Action.run_bind_ok hrun
      obtain ⟨hok, hafter⟩ := ih hrest (count + n) ⟨middle, log⟩
      rw [hupdated]
      refine ⟨fun id => (hok id).trans (not_congr ?_), ?_⟩
      · rw [none_mem_shares_cons hchunk, or_iff_right hassigned]
      · rw [hafter, hmiddle, List.map_map]
        refine List.map_congr_left fun target _ => ?_
        -- the later chunks find their rows by the id that this one has written
        have hid := Statement.test_overwritten e.registry.update consumer hsame chunk.head? target
          chunk
        rw [Function.comp_apply, writeLists_shares_cons hassigned, assignedColumns,
          shares_congr hid]

theorem run_update (hclient : client.RunsUpdates same e.table contents) (hsame : same.Lawful)
    (rows : List Record) (consumer : Option Consumer) (session : Session σ) :
    let updated := (e.update client rows consumer).run session
    (∀ id, (∃ n, updated.1 = .ok n) ↔ none ∉ e.shares consumer same id (e.chunksOf rows)) ∧
    contents updated.2.client = (contents session.client).map fun target =>
      target.writeLists (e.shares consumer same (target.get Sql.idColumn) (e.chunksOf rows)) := by
  intro updated
  have hchunks : ∀ chunk ∈ e.chunksOf rows, chunk ≠ [] := fun _ => ne_nil_of_mem_chunks
  have hupdated : updated = (e.updateChunks client consumer 0 (e.chunksOf rows)).run _ :=
    Action.run_bind_ok (Action.run_log _ _)
  rw [hupdated]
  exact run_updateChunks hclient hsame hchunks 0 _

end Runs

section Alike

variable {e e' : Entity} {same : SameId} {consumer : Option Consumer} {rows : List Record}

private theorem reaches_of_shares {id : Value} {i : Nat} (hi : i < rows.length)
    (h : ∀ j < i, (e.shares consumer same id (e.chunksOf rows))[j]? ≠ some none) :
    e.Reaches consumer rows i := by
  intro j hj hnil
  refine h j hj ?_
  rw [getElem?_shares, List.getElem?_eq_getElem (Nat.lt_trans hj hi), Option.map_some,
    share?_eq_none_iff.mpr hnil]

theorem Reaches.of_le {i k : Nat} (h : e.Reaches consumer rows i) (hk : k ≤ i) :
    e.Reaches consumer rows k :=
  fun j hj => h j (Nat.lt_of_lt_of_le hj hk)

/-- Of rows that are divided alike, each that the update comes to has one share. -/
theorem ChunkedAlike.share?_eq (h : ChunkedAlike e e' same consumer rows) {id : Value} {i : Nat}
    {row : Record} (hrow : rows[i]? = some row) (hreached : e.Reaches consumer rows i) :
    e'.share? consumer same id (chunkAt e'.options.chunkSize.toNat rows i) row =
      e.share? consumer same id (chunkAt e.options.chunkSize.toNat rows i) row := by
  have hcolumns := h.columns i (List.getElem?_eq_some_iff.mp hrow).1 hreached
  unfold columnsAt at hcolumns
  rw [share?, share?, hcolumns]
  split
  · rfl
  split
  · next htest =>
    obtain ⟨k, first, hfirst, hk⟩ := SameId.exists_firstAt e.chunkSize_pos hrow htest
    obtain ⟨k', first', hfirst', hk'⟩ := SameId.exists_firstAt e'.chunkSize_pos hrow htest
    have hle := hk.first i row hrow htest rfl
    have hle' := hk'.first i row hrow htest rfl
    rw [hfirst, hfirst']
    rcases h.cells k k' first first' id hk.row_eq hk'.row_eq (hreached.of_le hle)
      (hreached.of_le hle') hk.test hk'.test with hshared | hcells
    · rw [hk.eq_of_shared_iff hrow htest hk' hshared]
    · rw [columnsAt, chunkAt_congr rows hk.chunk] at hcells
      have hwritten : Statement.writtenCells _ consumer first' =
          Statement.writtenCells _ consumer first :=
        List.map_congr_left fun column hcolumn => by rw [hcells column hcolumn]
      rw [Option.map_some, Option.map_some, hwritten]
  · rfl

theorem ChunkedAlike.getElem?_shares (h : ChunkedAlike e e' same consumer rows) (id : Value)
    (i : Nat) (hbefore : ∀ j < i, (e.shares consumer same id (e.chunksOf rows))[j]? ≠ some none) :
    (e'.shares consumer same id (e'.chunksOf rows))[i]? =
      (e.shares consumer same id (e.chunksOf rows))[i]? := by
  rw [Entity.getElem?_shares, Entity.getElem?_shares]
  cases hrow : rows[i]? with
  | none => rfl
  | some row =>
    have hreached := reaches_of_shares (List.getElem?_eq_some_iff.mp hrow).1 hbefore
    rw [Option.map_some, Option.map_some, h.share?_eq hrow hreached]

end Alike

/-- Two entities on one table change it alike, whatever the sizes of their chunks, where the chunk
of each row that they come to changes the same columns in both, and rows for one id that share a
chunk of only one of them change these columns to the same values. -/
theorem update_ignores_chunkSize {client : Client σ} {same : SameId}
    {contents : σ → List Record} (e e' : Entity) (htable : e'.table = e.table)
    (hclient : client.RunsUpdates same e.table contents) (hsame : same.Lawful)
    (rows : List Record) (consumer : Option Consumer)
    (halike : ChunkedAlike e e' same consumer rows) (session session' : Session σ)
    (hcontents : contents session'.client = contents session.client) :
    let updated := (e.update client rows consumer).run session
    let updated' := (e'.update client rows consumer).run session'
    ((∃ n, updated.1 = .ok n) ↔ ∃ n, updated'.1 = .ok n) ∧
    contents updated'.2.client = contents updated.2.client := by
  intro updated updated'
  obtain ⟨hok, hafter⟩ := run_update hclient hsame rows consumer session
  obtain ⟨hok', hafter'⟩ := run_update (htable ▸ hclient) hsame rows consumer session'
  have hshares := fun id target =>
    Record.writeLists_congr (halike.getElem?_shares id) target
  constructor
  · rw [hok .null, hok' .null, (hshares .null Record.empty).2]
  · rw [hafter, hafter', hcontents]
    exact List.map_congr_left fun target _ => (hshares _ target).1

def sameInteger : SameId where
  test
    | .int i, .int j => i = j
    | _, _ => false
  null_right v := by cases v <;> rfl

theorem test_sameInteger_iff {v : Value} {i : Int64} :
    sameInteger.test v (.int i) ↔ v = .int i := by
  cases v <;> simp [sameInteger]

private theorem lawful_sameInteger : sameInteger.Lawful := by
  intro v w x h
  cases w with
  | int i => rw [test_sameInteger_iff.mp h]
  | _ => cases v <;> cases h

/-- Of these rows all but the second are for one person. Only the last two have an age. -/
def johnAnnJack : List Record :=
  [ Record.ofCells [("id", .int 1), ("name", .text "John")],
    Record.ofCells [("id", .int 2), ("name", .text "Ann")],
    Record.ofCells [("id", .int 1), ("name", .text "Jack"), ("age", .int 40)],
    Record.ofCells [("id", .int 1), ("name", .text "Jack"), ("age", .int 40),
      ("color", .text "red")] ]

theorem columnsAt_johnAnnJack :
    ∀ i < johnAnnJack.length,
      let columns := if i < 2 then [.named "name"] else [.named "name", .named "age"]
      (persons 1 (by decide)).columnsAt none johnAnnJack i = columns ∧
        (persons 2 (by decide)).columnsAt none johnAnnJack i = columns := by
  decide +kernel

theorem updatedCell_jack {i : Nat} (hi : i < johnAnnJack.length) (hlast : ¬ i < 2) :
    ∀ column ∈ (persons 1 (by decide)).columnsAt none johnAnnJack i,
      Statement.updatedCell none column.key (johnAnnJack.getD 2 Record.empty) =
        Statement.updatedCell none column.key (johnAnnJack.getD 3 Record.empty) := by
  intro column hcolumn
  rw [(columnsAt_johnAnnJack i hi).1, if_neg hlast] at hcolumn
  rcases List.mem_cons.mp hcolumn with rfl | hage
  · rfl
  · obtain rfl := List.mem_singleton.mp hage
    rfl

/-- The first two rows are for different persons, and the last two are alike. -/
theorem chunkedAlike_johnAnnJack :
    ChunkedAlike (persons 1 (by decide)) (persons 2 (by decide)) sameInteger none johnAnnJack where
  columns i hi _ := (columnsAt_johnAnnJack i hi).2.trans (columnsAt_johnAnnJack i hi).1.symm
  cells i j row other id hrow hother _ _ hid hid' := by
    have hi : i < 4 := (List.getElem?_eq_some_iff.mp hrow).1
    have hj : j < 4 := (List.getElem?_eq_some_iff.mp hother).1
    have hshared : ∀ i < 4, ∀ j < 4, (i / 1 = j / 1 ↔ i / 2 = j / 2) ∨
        (i = 0 ∧ j = 1 ∨ i = 1 ∧ j = 0) ∨ i = 2 ∧ j = 3 ∨ i = 3 ∧ j = 2 := by
      decide
    rcases hshared i hi j hj with hiff | (⟨rfl, rfl⟩ | ⟨rfl, rfl⟩) | ⟨rfl, rfl⟩ | ⟨rfl, rfl⟩
    · exact .inl hiff
    · cases hrow
      cases hother
      cases (test_sameInteger_iff.mp hid).symm.trans (test_sameInteger_iff.mp hid')
    · cases hrow
      cases hother
      cases (test_sameInteger_iff.mp hid).symm.trans (test_sameInteger_iff.mp hid')
    · cases hrow
      cases hother
      exact .inr (updatedCell_jack hi (by decide))
    · cases hrow
      cases hother
      exact .inr fun column hcolumn => (updatedCell_jack hi (by decide) column hcolumn).symm

def jimAndEve : List Record :=
  [ Record.ofCells [("id", .int 1), ("name", .text "Jim"), ("age", .int 20)],
    Record.ofCells [("id", .int 2), ("name", .text "Eve"), ("age", .int 50)] ]

/-- What comes of an update of persons in chunks of a size, and the names after it. -/
def updatedNames (chunkSize : UInt64) (h : chunkSize ≠ 0) (rows : List Record) :
    Except Error UInt64 × List (Option String) :=
  let updated := ((persons chunkSize h).update (Client.updating sameInteger) rows none).run
    ⟨jimAndEve, []⟩
  (updated.1, updated.2.client.map fun person => (person.get "name").asText?)

theorem updatedNames_eq {chunkSize : UInt64} (h : chunkSize ≠ 0) {rows : List Record}
    {chunks : List (List Record)} (hchunks : (persons chunkSize h).chunksOf rows = chunks) :
    updatedNames chunkSize h rows =
      let updated := ((persons chunkSize h).updateChunks (Client.updating sameInteger) none 0
        chunks).run ⟨jimAndEve, [(persons chunkSize h).startLine "update" (rowFields rows none)]⟩
      (updated.1, updated.2.client.map fun person => (person.get "name").asText?) := by
  rw [← hchunks]
  rfl

theorem update_johnAnnJack_by_one_or_two :
    ChunkedAlike (persons 1 (by decide)) (persons 2 (by decide)) sameInteger none johnAnnJack ∧
    updatedNames 1 (by decide) johnAnnJack = (.ok 4, [some "Jack", some "Ann"]) ∧
    (((persons 2 (by decide)).update (Client.updating sameInteger) johnAnnJack none).run
      ⟨jimAndEve, []⟩).2.client =
    (((persons 1 (by decide)).update (Client.updating sameInteger) johnAnnJack none).run
      ⟨jimAndEve, []⟩).2.client := by
  have hchunks : (persons 1 (by decide)).chunksOf johnAnnJack = johnAnnJack.map ([·]) := by
    simp [chunksOf, persons, johnAnnJack, chunks_cons]
  obtain ⟨-, hcontents⟩ := update_ignores_chunkSize (persons 1 (by decide)) (persons 2 (by decide))
    rfl (Client.runsUpdates_updating sameInteger "persons") lawful_sameInteger johnAnnJack none
    chunkedAlike_johnAnnJack ⟨jimAndEve, []⟩ ⟨jimAndEve, []⟩ rfl
  exact ⟨chunkedAlike_johnAnnJack, updatedNames_eq _ hchunks, hcontents⟩

/-- Chunks can be told by an update: where the first row of one has no column to change, where it
has other columns than the first of all, and where rows for one id differ. -/
theorem update_not_ignores_chunkSize :
    let nameThenAge : List Record :=
      [ Record.ofCells [("id", .int 1), ("name", .text "John")],
        Record.ofCells [("id", .int 2), ("age", .int 30)] ]
    let johnThenJack : List Record :=
      [ Record.ofCells [("id", .int 1), ("name", .text "John")],
        Record.ofCells [("id", .int 1), ("name", .text "Jack")] ]
    updatedNames 1 (by decide) nameThenColor =
      (.error (.validation (.nothingToUpdate "persons")), [some "John", some "Eve"]) ∧
    updatedNames 2 (by decide) nameThenColor = (.ok 2, [some "John", none]) ∧
    updatedNames 1 (by decide) nameThenAge = (.ok 2, [some "John", some "Eve"]) ∧
    updatedNames 2 (by decide) nameThenAge = (.ok 2, [some "John", none]) ∧
    updatedNames 1 (by decide) johnThenJack = (.ok 2, [some "Jack", some "Eve"]) ∧
    updatedNames 2 (by decide) johnThenJack = (.ok 1, [some "John", some "Eve"]) := by
  intro nameThenAge johnThenJack
  have hone : ∀ a b, (persons 1 (by decide)).chunksOf [a, b] = [[a], [b]] := fun a b => by
    simp [chunksOf, persons, chunks_cons]
  have htwo : ∀ a b, (persons 2 (by decide)).chunksOf [a, b] = [[a, b]] := fun a b => by
    simp [chunksOf, persons, chunks_cons]
  exact ⟨updatedNames_eq _ (hone _ _), updatedNames_eq _ (htwo _ _),
    updatedNames_eq _ (hone _ _), updatedNames_eq _ (htwo _ _),
    updatedNames_eq _ (hone _ _), updatedNames_eq _ (htwo _ _)⟩

end Entity

end TableSql
