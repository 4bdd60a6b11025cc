import Standardize.Proofs.Table.Layouts
import Standardize.Table.Stored

/-!
Contract: stored columns stay aligned, whatever is pushed and written.

Owns:
- values that are stored one by one, which change neither the type nor the length of a
  column, and values that are looked up one by one;
- what a push and what a request can do to stored columns;
- `Reached` tables, made of pushes and requests, whose columns are all as long as the table
  says;
- every request carried out on such a table, which has the answer of `Columns`, and rows
  and columns as reads of the same values.

Does not own: what a column of one element type loses of another.
-/

set_option autoImplicit false

namespace Standardize

variable {S F T : Type}

/-! ## Columns -/

namespace Column

private theorem length_putFirst
    {α : Type}
    (store : T → α)
    (old : List α)
    (values : List T) :
    (putFirst store old values).length = old.length := by
  induction old generalizing values with
  | nil => rw [putFirst]
  | cons kept rest inductionHypothesis =>
      cases values with
      | nil => rw [putFirst]
      | cons value values =>
          rw [putFirst, List.length_cons, List.length_cons, inductionHypothesis]

/-- With a new value for each, all stored elements are replaced. -/
private theorem putFirst_eq_map
    {α : Type}
    (store : T → α)
    {old : List α}
    {values : List T}
    (fits : values.length = old.length) :
    putFirst store old values = values.map store := by
  induction old generalizing values with
  | nil => rw [putFirst, List.eq_nil_of_length_eq_zero fits, List.map_nil]
  | cons kept rest inductionHypothesis =>
      cases values with
      | nil => simp at fits
      | cons value values =>
          rw [putFirst, List.map_cons, inductionHypothesis (Nat.succ_inj.1 fits)]

variable [Element S F] [IntegerStorage F] [Element T F]

@[simp]
theorem storage_overwrite (column : Column S F) (values : Array T) :
    (column.overwrite values).storage = column.storage := by
  cases column <;> rfl

@[simp]
theorem size_overwrite (column : Column S F) (values : Array T) :
    (column.overwrite values).size = column.size := by
  cases column <;> simp [overwrite, size, length_putFirst]

private theorem overwrite_eq_write
    {column : Column S F}
    {values : Array T}
    (fits : values.size = column.size) :
    column.overwrite values = column.write values := by
  cases column with
  | integers old =>
      rw [overwrite, write, putFirst_eq_map _ fits, ← List.map_toArray]
  | singles old =>
      rw [overwrite, write, putFirst_eq_map _ fits, ← List.map_toArray]
  | doubles old =>
      rw [overwrite, write, putFirst_eq_map _ fits, ← List.map_toArray]

/-- Looking a value up and reading the column convert it alike. -/
theorem map_value? (column : Column S F) (row : Nat) :
    (column.value? row).map Element.narrow = (column.read : Array T)[row]? := by
  cases column <;> simp [value?, read, Function.comp_def]

end Column

namespace StoredColumns

/-! ## Layouts -/

/-- Every column is as long as the table says, which has no rows without columns. -/
structure Aligned (table : StoredColumns S F) : Prop where
  size_eq : ∀ column ∈ table.columns, column.size = table.rows
  rows_eq_zero : table.columns = #[] → table.rows = 0

private theorem aligned_empty : (empty : StoredColumns S F).Aligned where
  size_eq := by simp [empty]
  rows_eq_zero := fun _ => rfl

/-- Whether columns are aligned can be seen from their layout. -/
theorem Aligned.of_layout_eq
    {table next : StoredColumns S F}
    (aligned : table.Aligned)
    (same : next.layout = table.layout) :
    next.Aligned := by
  have rowsEq : next.rows = table.rows := congrArg Prod.fst same
  have columnsEq : next.columns.toList.map (fun column => (column.storage, column.size)) =
      table.columns.toList.map fun column => (column.storage, column.size) :=
    congrArg Prod.snd same
  constructor
  · intro column member
    have listed : (column.storage, column.size) ∈
        next.columns.toList.map fun column => (column.storage, column.size) :=
      List.mem_map.2 ⟨column, member.val, rfl⟩
    rw [columnsEq] at listed
    obtain ⟨old, oldMember, oldEq⟩ := List.mem_map.1 listed
    rw [rowsEq, ← aligned.size_eq old (Array.mem_toList_iff.1 oldMember)]
    exact (congrArg Prod.snd oldEq).symm
  · intro none
    rw [rowsEq]
    apply aligned.rows_eq_zero
    have length := congrArg List.length columnsEq
    rw [none, List.length_map, List.length_map] at length
    exact Array.eq_empty_of_size_eq_zero length.symm

/-- A column in the place of one of its type and length keeps the layout. -/
private theorem layout_setIfInBounds
    {table : StoredColumns S F}
    {index : Nat}
    {old new : Column S F}
    (found : table.columns[index]? = some old)
    (storageEq : new.storage = old.storage)
    (sizeEq : new.size = old.size) :
    layout ⟨table.rows, table.columns.setIfInBounds index new⟩ = table.layout := by
  obtain ⟨inside, rfl⟩ := Array.getElem?_eq_some_iff.1 found
  have listed : index <
      (table.columns.toList.map fun column => (column.storage, column.size)).length := by
    rwa [List.length_map, Array.length_toList]
  have entry : (table.columns[index].storage, table.columns[index].size) =
      (table.columns.toList.map fun column => (column.storage, column.size))[index] := by
    rw [List.getElem_map, Array.getElem_toList]
  unfold layout
  rw [Array.toList_setIfInBounds, List.map_set, storageEq, sizeEq, entry,
    List.set_getElem_self]

/-! ## Sizes -/

/-- Counting the values of columns of one length multiplies. -/
private theorem foldl_size_eq
    (columns : List (Column S F))
    {rows : Nat}
    (sizes : ∀ column ∈ columns, column.size = rows)
    (count : Nat) :
    columns.foldl (fun count column => count + column.size) count =
      count + rows * columns.length := by
  induction columns generalizing count with
  | nil => rfl
  | cons column rest inductionHypothesis =>
      have restSizes : ∀ other ∈ rest, other.size = rows :=
        fun other member => sizes other (List.mem_cons_of_mem _ member)
      rw [List.foldl_cons, sizes column List.mem_cons_self, inductionHypothesis restSizes,
        List.length_cons, Nat.mul_succ]
      omega

/-- Aligned columns hold a value for each row and column. -/
theorem Aligned.total_eq
    {table : StoredColumns S F}
    (aligned : table.Aligned) :
    table.total = table.rows * table.columns.size := by
  have sizes : ∀ column ∈ table.columns.toList, column.size = table.rows :=
    fun column member => aligned.size_eq column (Array.mem_toList_iff.1 member)
  rw [total, ← Array.foldl_toList, foldl_size_eq _ sizes, Nat.zero_add, Array.length_toList]

theorem Aligned.rows_lt
    {table : StoredColumns S F}
    (aligned : table.Aligned)
    (total : table.total < Size.limit) :
    table.rows < Size.limit := by
  by_cases none : table.columns = #[]
  · rw [aligned.rows_eq_zero none]
    decide
  · have some : 0 < table.columns.size := Array.size_pos_iff.2 none
    rw [aligned.total_eq] at total
    exact Nat.lt_of_le_of_lt (Nat.le_mul_of_pos_right _ some) total

/-! ## Pushes -/

/-- A push leaves the table as it is, or appends a column that fits. -/
theorem push_cases (table : StoredColumns S F) (column : Column S F) :
    (∃ error, table.push column = (.error error, table)) ∨
      ((table.columns = #[] ∨ column.size = table.rows) ∧
        table.push column = (.ok (), ⟨column.size, table.columns.push column⟩)) := by
  unfold push
  by_cases fresh : table.columns = #[]
  · -- The first column sets the number of rows, so that it fits whatever its length.
    refine .inr ⟨.inl fresh, ?_⟩
    rw [if_pos (Array.isEmpty_iff.2 fresh)]
  · rw [if_neg (by rwa [Array.isEmpty_iff])]
    by_cases fits : column.size = table.rows
    · refine .inr ⟨.inr fits, ?_⟩
      rw [if_pos fits, fits]
    · rw [if_neg fits]
      exact .inl ⟨_, rfl⟩

theorem Aligned.push
    {table : StoredColumns S F}
    (aligned : table.Aligned)
    (column : Column S F) :
    (table.push column).2.Aligned := by
  rcases table.push_cases column with ⟨error, refused⟩ | ⟨fits, pushed⟩
  · rw [refused]
    exact aligned
  · rw [pushed]
    constructor
    · intro other member
      rcases Array.mem_push.1 member with old | rfl
      · rcases fits with none | same
        · rw [none] at old
          exact absurd old (Array.not_mem_empty other)
        · exact (aligned.size_eq other old).trans same.symm
      · rfl
    · intro none
      exact absurd none (Array.push_ne_empty)

theorem Aligned.append
    {table next : StoredColumns S F}
    (aligned : table.Aligned)
    {column : Column S F}
    (appended : table.append column = .ok next) :
    next.Aligned := by
  have kept := aligned.push column
  unfold StoredColumns.append at appended
  split at appended
  · rename_i pushed result
    cases appended
    rw [result] at kept
    exact kept
  · cases appended

/-! ## Requests -/

section Requests

variable [Element S F] [IntegerStorage F] [Element T F]

/-- What a request can do: it leaves the session as it is, or refills the buffer, or
overwrites one column. -/
theorem step?_cases
    {session next : Session (StoredColumns S F) T}
    {request : Request T}
    {answer : Answer}
    (answered : step? session request = some (answer, next)) :
    next = session ∨
      (answer = .done ∧ ∃ values, next = ⟨session.table, values⟩) ∨
      answer = .done ∧ ∃ index values column,
        request = .writeColumn index values ∧ session.table.columns[index]? = some column ∧
          next = ⟨⟨session.table.rows,
            session.table.columns.setIfInBounds index (column.overwrite values)⟩,
            session.buffer⟩ := by
  cases request with
  | shape =>
      cases answered
      exact .inl rfl
  | readColumn index =>
      rw [step?] at answered
      split at answered
      · cases answered
        exact .inl rfl
      · obtain ⟨column, -, done⟩ := Option.bind_eq_some_iff.1 answered
        cases done
        exact .inr (.inl ⟨rfl, _, rfl⟩)
  | readRows start count =>
      rw [step?] at answered
      split at answered
      · cases answered
        exact .inl rfl
      · obtain ⟨cells, -, read⟩ := Option.bind_eq_some_iff.1 answered
        obtain ⟨values, -, done⟩ := Option.bind_eq_some_iff.1 read
        cases done
        exact .inr (.inl ⟨rfl, _, rfl⟩)
  | writeColumn index values =>
      rw [step?] at answered
      split at answered
      · cases answered
        exact .inl rfl
      · split at answered
        · cases answered
          exact .inl rfl
        · obtain ⟨column, found, done⟩ := Option.bind_eq_some_iff.1 answered
          cases done
          exact .inr (.inr ⟨rfl, index, values, column, rfl, found, rfl⟩)

/-- No request changes what the columns are stored as or how long they are. -/
theorem layout_of_step?
    {session next : Session (StoredColumns S F) T}
    {request : Request T}
    {answer : Answer}
    (answered : step? session request = some (answer, next)) :
    next.table.layout = session.table.layout := by
  rcases step?_cases answered with
    rfl | ⟨-, values, rfl⟩ | ⟨-, index, values, column, -, found, rfl⟩
  · rfl
  · rfl
  · exact layout_setIfInBounds found (column.storage_overwrite values)
      (column.size_overwrite values)

/-- A request that fails changes nothing. -/
theorem eq_of_step?_failed
    {session next : Session (StoredColumns S F) T}
    {request : Request T}
    {error : Error}
    (failed : step? session request = some (.failed error, next)) :
    next = session := by
  rcases step?_cases failed with same | ⟨done, -⟩ | ⟨done, -⟩
  · exact same
  · cases done
  · cases done

/-- A write changes no column but its own. -/
theorem getElem?_of_step?_writeColumn
    {session next : Session (StoredColumns S F) T}
    {index other : Nat}
    {values : Array T}
    {answer : Answer}
    (answered : step? session (.writeColumn index values) = some (answer, next))
    (elsewhere : other ≠ index) :
    next.table.columns[other]? = session.table.columns[other]? := by
  rcases step?_cases answered with
    rfl | ⟨-, buffer, rfl⟩ | ⟨-, place, written, column, same, -, rfl⟩
  · rfl
  · rfl
  · cases same
    exact Array.getElem?_setIfInBounds_ne elsewhere.symm

end Requests

/-! ## Reached tables -/

/-- Tables made of no columns by pushes and requests, with or without success, whose
elements may be of a different type each time. -/
inductive Reached [Element S F] [IntegerStorage F] : StoredColumns S F → Prop where
  | empty : Reached empty
  | push
      {table : StoredColumns S F}
      (reached : Reached table)
      (column : Column S F) :
      Reached (table.push column).2
  | append
      {table next : StoredColumns S F}
      {column : Column S F}
      (reached : Reached table)
      (appended : table.append column = .ok next) :
      Reached next
  | request
      {T : Type}
      [Element T F]
      {session next : Session (StoredColumns S F) T}
      {request : Request T}
      {answer : Answer}
      (reached : Reached session.table)
      (answered : step? session request = some (answer, next)) :
      Reached next.table

variable [Element S F] [IntegerStorage F]

theorem Reached.aligned
    {table : StoredColumns S F}
    (reached : table.Reached) :
    table.Aligned := by
  induction reached with
  | empty => exact aligned_empty
  | push _ column inductionHypothesis => exact inductionHypothesis.push column
  | append _ appended inductionHypothesis => exact inductionHypothesis.append appended
  | request _ answered inductionHypothesis =>
      -- Elements of any type leave the layout, which is all that alignment depends on.
      exact inductionHypothesis.of_layout_eq (layout_of_step? answered)

/-! ## Lookups -/

/-- A row that every column has is the row of what the columns are read as. -/
theorem row?_of_lt
    (T : Type)
    [Element T F]
    (columns : List (Column S F))
    {row : Nat}
    (inside : ∀ column ∈ columns, row < column.size) :
    ∃ values : List T, row? T columns row = some values ∧ values.length = columns.length ∧
      ∀ (index : Nat) (indexLt : index < columns.length),
        values[index]? = (columns[index].read : Array T)[row]? := by
  induction columns with
  | nil => exact ⟨[], rfl, rfl, fun index indexLt => absurd indexLt (Nat.not_lt_zero index)⟩
  | cons column rest inductionHypothesis =>
      obtain ⟨values, found, length, entries⟩ :=
        inductionHypothesis fun other member => inside other (List.mem_cons_of_mem _ member)
      have rowLt : row < (column.read : Array T).size := by
        rw [Column.size_read]
        exact inside column List.mem_cons_self
      have value := column.map_value? (T := T) row
      rw [Array.getElem?_eq_getElem rowLt] at value
      refine ⟨(column.read : Array T)[row] :: values, ?_, ?_, ?_⟩
      · unfold row? at found ⊢
        rw [List.mapM_cons, value, found]
        rfl
      · rw [List.length_cons, List.length_cons, length]
      · intro index indexLt
        cases index with
        | zero => simp
        | succ index => exact entries index (Nat.lt_of_succ_lt_succ indexLt)

/-- A block of rows that every column has lists those rows one after the other. -/
private theorem block?_of_le
    (T : Type)
    [Element T F]
    (columns : List (Column S F))
    {rows start count : Nat}
    (sizes : ∀ column ∈ columns, column.size = rows)
    (inside : start + count ≤ rows) :
    ∃ values : List T, block? T columns start count = some values ∧
      values.length = count * columns.length ∧
      ∀ row < count, ∀ (index : Nat) (indexLt : index < columns.length),
        values[row * columns.length + index]? =
          (columns[index].read : Array T)[start + row]? := by
  induction count generalizing start with
  | zero =>
      refine ⟨[], rfl, ?_, fun row rowLt => absurd rowLt (Nat.not_lt_zero row)⟩
      rw [Nat.zero_mul, List.length_nil]
  | succ count inductionHypothesis =>
      have startLt : ∀ column ∈ columns, start < column.size := by
        intro column member
        rw [sizes column member]
        omega
      have restInside : start + 1 + count ≤ rows := by omega
      obtain ⟨values, found, length, entries⟩ := row?_of_lt T columns startLt
      obtain ⟨rest, foundRest, lengthRest, entriesRest⟩ := inductionHypothesis restInside
      refine ⟨values ++ rest, ?_, ?_, ?_⟩
      · rw [block?, found, foundRest]
        rfl
      · rw [List.length_append, length, lengthRest, Nat.succ_mul, Nat.add_comm]
      · intro row rowLt index indexLt
        -- The first row stands in front of the others, whose places are later by one row.
        cases row with
        | zero =>
            rw [Nat.zero_mul, Nat.zero_add, List.getElem?_append_left (by rwa [length])]
            exact entries index indexLt
        | succ row =>
            have place : (row + 1) * columns.length + index - values.length =
                row * columns.length + index := by
              rw [length, Nat.succ_mul]
              omega
            have after : values.length ≤ (row + 1) * columns.length + index := by
              rw [length, Nat.succ_mul]
              omega
            rw [List.getElem?_append_right after, place,
              entriesRest row (Nat.lt_of_succ_lt_succ rowLt) index indexLt,
              Nat.add_right_comm, Nat.add_assoc]

end StoredColumns

/-! ## Stored columns of a table -/

namespace Columns

variable [Element S F] [IntegerStorage F]

/-- A value of a block is that of its row in its column. -/
private theorem getElem?_block
    [Element T F]
    (table : Columns S F)
    {start count row index : Nat}
    (inside : start + count ≤ table.rows)
    (rowLt : row < count)
    (indexLt : index < table.columns.size) :
    (table.block start count inside : Array T)[row * table.columns.size + index]? =
      (table.columns[index].read : Array T)[start + row]? := by
  obtain ⟨rowEq, indexEq⟩ := (Dense.place_eq_iff row indexLt).1 rfl
  have inColumn : start + row < table.columns[index].size := by
    rw [table.aligned index indexLt]
    omega
  rw [Column.getElem?_read, dif_pos inColumn]
  refine (Array.getElem?_ofFn.trans (dif_pos (Dense.place_lt rowLt indexLt))).trans ?_
  simp only [rowEq, indexEq, cell]

/-- Looking the rows of a block up one after the other lists the block. -/
theorem block?_eq
    [Element T F]
    (table : Columns S F)
    {start count : Nat}
    (inside : start + count ≤ table.rows) :
    StoredColumns.block? T table.columns.toList start count =
      some (table.block start count inside : Array T).toList := by
  have sizes : ∀ column ∈ table.columns.toList, column.size = table.rows := by
    intro column member
    obtain ⟨index, indexLt, rfl⟩ := Array.mem_iff_getElem.1 (Array.mem_toList_iff.1 member)
    exact table.aligned index indexLt
  obtain ⟨values, found, (length : values.length = count * table.columns.size), entries⟩ :=
    StoredColumns.block?_of_le T table.columns.toList sizes inside
  have size : (table.block start count inside : Array T).size = count * table.columns.size :=
    Array.size_ofFn
  rw [found, Option.some.injEq]
  refine List.ext_getElem? fun place => Eq.trans ?_ (Array.getElem?_toList ..).symm
  by_cases placeLt : place < count * table.columns.size
  · have rowLt := blockRow_lt placeLt
    have columnLt := blockColumn_lt placeLt
    rw [← (Dense.place_eq_iff _ columnLt).2 ⟨rfl, rfl⟩]
    exact (entries _ rowLt _ columnLt).trans (table.getElem?_block inside rowLt columnLt).symm
  · have beyond : count * table.columns.size ≤ place := Nat.le_of_not_lt placeLt
    rw [List.getElem?_eq_none (by rwa [length]), Array.getElem?_eq_none (by rwa [size])]

/-- What the columns of a table do when they are accessed as they are stored: they take or
refuse a push as the table does and answer every request as it does. -/
structure CarriedOut (table : Columns S F) : Prop where
  push :
    ∀ column : Column S F,
      (∃ next, table.push column = .ok next ∧
        table.stored.push column = (.ok (), next.stored)) ∨
      ∃ error, table.push column = .error error ∧
        table.stored.push column = (.error error, table.stored)
  step :
    ∀ (T : Type) [Element T F] (buffer : Array T) (request : Request T),
      StoredColumns.step? ⟨table.stored, buffer⟩ request =
        some (Prod.map id Session.stored (Session.step ⟨table, buffer⟩ request))

omit [Element S F] [IntegerStorage F] in
private theorem push_stored (table : Columns S F) (column : Column S F) :
    (∃ next, table.push column = .ok next ∧
      table.stored.push column = (.ok (), next.stored)) ∨
    ∃ error, table.push column = .error error ∧
      table.stored.push column = (.error error, table.stored) := by
  by_cases fits : table.columns.size = 0 ∨ column.size = table.rows
  · obtain ⟨next, pushed, rowsEq, columnsEq⟩ := table.push_of_fits column fits
    refine .inl ⟨next, pushed, ?_⟩
    unfold StoredColumns.push stored
    rw [rowsEq, columnsEq]
    by_cases fresh : table.columns.size = 0
    · rw [if_pos (Array.isEmpty_iff_size_eq_zero.2 fresh)]
    · have same := fits.resolve_left fresh
      rw [if_neg (by rwa [Array.isEmpty_iff_size_eq_zero]), if_pos same, same]
  · obtain ⟨some, different⟩ := not_or.1 fits
    refine .inr ⟨.single (.dimensionMismatch .columnLength table.rows column.size), ?_, ?_⟩
    · rw [push, dif_neg some, dif_neg different]
      rfl
    · unfold StoredColumns.push stored
      rw [if_neg (by rwa [Array.isEmpty_iff_size_eq_zero]), if_neg different]
      rfl

section Steps

variable [Element T F] (table : Columns S F) (buffer : Array T)

private theorem step?_stored_readColumn (index : Nat) :
    StoredColumns.step? ⟨table.stored, buffer⟩ (.readColumn index) =
      some (Prod.map id Session.stored (Session.step ⟨table, buffer⟩ (.readColumn index))) := by
  by_cases indexLt : index < table.columns.size
  · have checked : Table.checkColumn index table.columns.size = .ok () := if_pos indexLt
    have found : table.columns[index]? = some table.columns[index] :=
      Array.getElem?_eq_getElem indexLt
    have read : (TableAccess.readColumn table index : Except Error (Array T)) = _ :=
      readColumn_eq_ok_iff.2 ⟨indexLt, rfl⟩
    rw [StoredColumns.step?, Session.step, read]
    dsimp only [stored]
    rw [checked, found]
    rfl
  · have outside : table.columns.size ≤ index := Nat.le_of_not_lt indexLt
    have read : (TableAccess.readColumn table index : Except Error (Array T)) = _ :=
      table.readColumn_of_le outside
    rw [StoredColumns.step?, Session.step, read]
    dsimp only [stored]
    rw [Table.checkColumn_of_le outside]
    rfl

/-- Once a block of rows was accepted, its values are counted by a size and each of them is
found. -/
theorem step?_stored_readRows
    (cells : table.rows * table.columns.size < Size.limit)
    (start count : Nat) :
    StoredColumns.step? ⟨table.stored, buffer⟩ (.readRows start count) =
      some (Prod.map id Session.stored (Session.step ⟨table, buffer⟩ (.readRows start count))) := by
  cases checked : Table.checkRows start count table.rows with
  | error error =>
      have read : (TableAccess.readRows table start count : Except Error (Array T)) = _ :=
        table.readRows_of_error checked
      rw [StoredColumns.step?, Session.step, read]
      dsimp only [stored]
      rw [checked]
      rfl
  | ok nothing =>
      have inside := Table.le_of_checkRows checked
      have read : (TableAccess.readRows table start count : Except Error (Array T)) = _ :=
        table.readRows_of_ok checked
      have countLe : count ≤ table.rows := by omega
      have counted : count * table.columns.size < Size.limit :=
        Nat.lt_of_le_of_lt (Nat.mul_le_mul_right _ countLe) cells
      rw [StoredColumns.step?, Session.step, read]
      dsimp only [stored]
      rw [checked, Size.mul?_of_lt counted, table.block?_eq inside]
      rfl

/-- Once new values were accepted, there is one for each stored value. -/
theorem step?_stored_writeColumn (index : Nat) (values : Array T) :
    StoredColumns.step? ⟨table.stored, buffer⟩ (.writeColumn index values) =
      some (Prod.map id Session.stored
        (Session.step ⟨table, buffer⟩ (.writeColumn index values))) := by
  by_cases indexLt : index < table.columns.size
  · have checked : Table.checkColumn index table.columns.size = .ok () := if_pos indexLt
    by_cases fits : values.size = table.rows
    · have fitting : Table.checkBlock values.size table.rows = .ok () := if_pos fits
      have found : table.columns[index]? = some table.columns[index] :=
        Array.getElem?_eq_getElem indexLt
      have same : table.columns[index].overwrite values = table.columns[index].write values :=
        Column.overwrite_eq_write (fits.trans (table.aligned index indexLt).symm)
      have written : TableAccess.writeColumn table index values = _ :=
        table.writeColumn_of_ok indexLt fits
      rw [StoredColumns.step?, Session.step, written]
      dsimp only [stored]
      rw [checked, fitting, found, Option.bind_eq_bind, Option.bind_some, same,
        Array.setIfInBounds_def, dif_pos indexLt]
      rfl
    · have refused : Table.checkBlock values.size table.rows =
          .error (.single (.dimensionMismatch .columnBlock table.rows values.size)) :=
        if_neg fits
      have unwritten : TableAccess.writeColumn table index values = _ :=
        table.writeColumn_of_error (by rw [Table.checkWrite, checked]; exact refused)
      rw [StoredColumns.step?, Session.step, unwritten]
      dsimp only [stored]
      rw [checked, refused]
      rfl
  · have outside : table.columns.size ≤ index := Nat.le_of_not_lt indexLt
    have unwritten : TableAccess.writeColumn table index values = _ :=
      table.writeColumn_of_error (by rw [Table.checkWrite, Table.checkColumn_of_le outside])
    rw [StoredColumns.step?, Session.step, unwritten]
    dsimp only [stored]
    rw [Table.checkColumn_of_le outside]
    rfl

/-- A session on stored columns makes the step that the table makes. -/
theorem step?_stored
    (cells : table.rows * table.columns.size < Size.limit)
    (request : Request T) :
    StoredColumns.step? ⟨table.stored, buffer⟩ request =
      some (Prod.map id Session.stored (Session.step ⟨table, buffer⟩ request)) := by
  cases request with
  | shape => rfl
  | readColumn index => exact table.step?_stored_readColumn buffer index
  | readRows start count => exact table.step?_stored_readRows buffer cells start count
  | writeColumn index values => exact table.step?_stored_writeColumn buffer index values

end Steps

theorem carriedOut
    (table : Columns S F)
    (cells : table.rows * table.columns.size < Size.limit) :
    table.CarriedOut where
  push := table.push_stored
  step := fun _ _ buffer => table.step?_stored buffer cells

end Columns

/-! ## Requests to reached tables -/

namespace StoredColumns

variable [Element S F] [IntegerStorage F]

/-- Every request has an answer. One that fails changes nothing, none changes what the
columns are stored as or how long they are, and a write changes no column but its own. -/
structure RequestsSafe (T : Type) [Element T F] (table : StoredColumns S F) : Prop where
  answered :
    ∀ (buffer : Array T) (request : Request T),
      ∃ answer next, step? ⟨table, buffer⟩ request = some (answer, next)
  failed :
    ∀ (buffer : Array T) (request : Request T) error next,
      step? ⟨table, buffer⟩ request = some (.failed error, next) → next = ⟨table, buffer⟩
  layout :
    ∀ (buffer : Array T) (request : Request T) answer next,
      step? ⟨table, buffer⟩ request = some (answer, next) → next.table.layout = table.layout
  others :
    ∀ (buffer : Array T) index values answer next,
      step? ⟨table, buffer⟩ (.writeColumn index values) = some (answer, next) →
        ∀ other, other ≠ index → next.table.columns[other]? = table.columns[other]?

/-- Rows and columns are reads of the same values, and are as long as they should be. -/
structure ReadsAgree (T : Type) [Element T F] (table : StoredColumns S F) : Prop where
  column :
    ∀ (buffer : Array T), ∀ index < table.columns.size, ∃ values : Array T,
      step? ⟨table, buffer⟩ (.readColumn index) = some (.done, ⟨table, values⟩) ∧
        values.size = table.rows
  rows :
    ∀ (buffer : Array T) start count, start + count ≤ table.rows → ∃ block : Array T,
      step? ⟨table, buffer⟩ (.readRows start count) = some (.done, ⟨table, block⟩) ∧
        block.size = count * table.columns.size ∧
        ∀ row < count, ∀ index < table.columns.size, ∃ (values : Array T) (value : T),
          step? ⟨table, buffer⟩ (.readColumn index) = some (.done, ⟨table, values⟩) ∧
            block[row * table.columns.size + index]? = some value ∧
            values[start + row]? = some value

omit [Element S F] [IntegerStorage F] in
/-- Aligned columns are those of a table. -/
theorem Aligned.exists_columns
    {table : StoredColumns S F}
    (aligned : table.Aligned) :
    ∃ columns : Columns S F, columns.stored = table := by
  refine ⟨⟨table.rows, table.columns, ?_⟩, rfl⟩
  intro index inside
  exact aligned.size_eq _ (Array.getElem_mem inside)

theorem Aligned.readsAgree
    [Element T F]
    {table : StoredColumns S F}
    (aligned : table.Aligned)
    (total : table.total < Size.limit) :
    table.ReadsAgree T := by
  have rowsLt := aligned.rows_lt total
  rw [aligned.total_eq] at total
  obtain ⟨columns, rfl⟩ := aligned.exists_columns
  have read (buffer : Array T) {index : Nat} (indexLt : index < columns.columns.size) :
      step? ⟨columns.stored, buffer⟩ (.readColumn index) =
        some (.done, ⟨columns.stored, columns.columns[index].read⟩) := by
    have answer : (TableAccess.readColumn columns index : Except Error (Array T)) = _ :=
      Columns.readColumn_eq_ok_iff.2 ⟨indexLt, rfl⟩
    rw [columns.step?_stored buffer total, Session.step, answer]
    rfl
  constructor
  · intro buffer index indexLt
    refine ⟨_, read buffer indexLt, ?_⟩
    rw [Column.size_read]
    exact columns.aligned index indexLt
  · intro buffer start count inside
    have answer : (TableAccess.readRows columns start count : Except Error (Array T)) = _ :=
      columns.readRows_of_ok (Table.checkRows_of_le rowsLt inside)
    refine ⟨columns.block start count inside, ?_, Array.size_ofFn, ?_⟩
    · rw [columns.step?_stored buffer total, Session.step, answer]
      rfl
    · intro row rowLt index indexLt
      have inColumn : start + row < (columns.columns[index].read : Array T).size := by
        rw [Column.size_read, columns.aligned index indexLt]
        exact Nat.lt_of_lt_of_le (Nat.add_lt_add_left rowLt start) inside
      have entry := Array.getElem?_eq_getElem inColumn
      exact ⟨_, _, read buffer indexLt,
        (columns.getElem?_block inside rowLt indexLt).trans entry, entry⟩

theorem Aligned.requestsSafe
    [Element T F]
    {table : StoredColumns S F}
    (aligned : table.Aligned)
    (total : table.total < Size.limit) :
    table.RequestsSafe T where
  answered := by
    intro buffer request
    rw [aligned.total_eq] at total
    obtain ⟨columns, rfl⟩ := aligned.exists_columns
    exact ⟨_, _, columns.step?_stored buffer total request⟩
  failed := fun _ _ _ _ failed => eq_of_step?_failed failed
  layout := fun _ _ _ _ answered => layout_of_step? answered
  others := fun _ _ _ _ _ answered _ elsewhere =>
    getElem?_of_step?_writeColumn answered elsewhere

/-- **Stored columns stay aligned.** Whatever was pushed onto no columns and requested of
them, all columns are as long as the table says, and a push that fails changes nothing.
With fewer than `2 ^ 61` values, the columns are those of a table whose pushes and requests
are carried out on them. Every request then has an answer, for elements of any type. One
that fails leaves the table and the buffer as they were, a write changes neither the type
nor the length of a column nor any other column, and rows and columns are reads of the same
values. -/
theorem columns_stay_aligned
    (table : StoredColumns S F)
    (reached : table.Reached)
    (total : table.total < Nat.pow 2 61) :
    (∀ column ∈ table.columns, column.size = table.rows) ∧
      (∀ (column : Column S F) error next,
        table.push column = (.error error, next) → next = table) ∧
      (∃ columns : Columns S F, columns.stored = table ∧ columns.CarriedOut) ∧
      ∀ (T : Type) [Element T F], table.RequestsSafe T ∧ table.ReadsAgree T := by
  have aligned := reached.aligned
  have totalLt : table.total < Size.limit := Nat.lt_trans total (by decide)
  refine ⟨aligned.size_eq, ?_, ?_, fun T _ =>
    ⟨aligned.requestsSafe totalLt, aligned.readsAgree totalLt⟩⟩
  · intro column error next failed
    rcases table.push_cases column with ⟨other, refused⟩ | ⟨-, pushed⟩
    · cases failed.symm.trans refused
      rfl
    · cases failed.symm.trans pushed
  · rw [aligned.total_eq] at totalLt
    obtain ⟨columns, rfl⟩ := aligned.exists_columns
    exact ⟨columns, rfl, columns.carriedOut totalLt⟩

/-- Integers and wide numbers, which were pushed before and after a column of another
length was refused, and the wide ones then overwritten. Narrow reads of them agree, and one
that is refused leaves its buffer alone. -/
theorem columns_stay_aligned_of_integers_and_doubles :
    let table : StoredColumns Float32 Float := ⟨2, #[.integers #[1, 2], .doubles #[5, 6]]⟩
    let session : Session (StoredColumns Float32 Float) Float32 := ⟨table, #[9]⟩
    table.Reached ∧ table.total < Nat.pow 2 61 ∧
      (∀ column ∈ table.columns, column.size = 2) ∧
      step? session (.readRows 2 1) =
        some (.failed (.single (.invalidInput (.rowsOutOfRange 2 1 2))), session) ∧
      ∃ (block values : Array Float32) (value : Float32),
        step? session (.readRows 1 1) = some (.done, ⟨table, block⟩) ∧
          step? session (.readColumn 1) = some (.done, ⟨table, values⟩) ∧
          block.size = 1 * 2 ∧ block[0 * 2 + 1]? = some value ∧ values[1 + 0]? = some value := by
  intro table session
  have integers : (empty : StoredColumns Float32 Float).append (.integers #[1, 2]) =
      .ok ⟨2, #[.integers #[1, 2]]⟩ := rfl
  let both : Session (StoredColumns Float32 Float) Float :=
    ⟨⟨2, #[.integers #[1, 2], .doubles #[3, 4]]⟩, #[]⟩
  let written : Session (StoredColumns Float32 Float) Float := ⟨table, #[]⟩
  have pushed : both.table.Reached :=
    .push (.push (.append .empty integers) (.singles #[7])) (.doubles #[3, 4])
  have write : step? both (.writeColumn 1 #[5, 6]) = some (.done, written) := rfl
  have reached : table.Reached := pushed.request write
  have total : table.total < Nat.pow 2 61 := by decide
  obtain ⟨sizes, -, -, requests⟩ := columns_stay_aligned table reached total
  obtain ⟨safe, agree⟩ := requests Float32
  obtain ⟨block, readBlock, size, entries⟩ := agree.rows #[9] 1 1 (by decide)
  obtain ⟨values, value, readValues, inBlock, inColumn⟩ :=
    entries 0 (by decide) 1 (by decide)
  exact ⟨reached, total, sizes, rfl, block, values, value, readBlock, readValues, size, inBlock,
    inColumn⟩

end StoredColumns

end Standardize
