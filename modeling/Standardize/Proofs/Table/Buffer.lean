import Standardize.Proofs.Table.Replacement
import Standardize.Table.Buffer

/-!
Contract: the views of a dense table agree, and none of them leaves its buffer.

Owns:
- what a walk with a stride meets and replaces;
- `Sized` tables, whose shape and cells are counted by sizes, and `Obtained` ones, which
  were made by the library and then written; obtained tables are sized;
- rows, columns, blocks of rows and the buffer as views of the same cells;
- accesses outside a table, which are refused, and those carried out on its buffer, which
  all have an answer.

Does not own: the laws of writing columns.
-/

set_option autoImplicit false

namespace Standardize

variable {T F : Type}

/-! ## Walks -/

namespace Buffer

/-- A walk stops at every `stride`-th element from the first one on. -/
private theorem getElem?_strided
    {stride : Nat}
    (positive : 0 < stride)
    (wait : Nat)
    (data : List T)
    (index : Nat) :
    (strided stride wait data)[index]? = data[wait + index * stride]? := by
  induction data generalizing wait index with
  | nil => simp [strided]
  | cons value rest inductionHypothesis =>
      cases wait with
      | succ wait =>
          rw [strided, inductionHypothesis, Nat.succ_add, List.getElem?_cons_succ]
      | zero =>
          cases index with
          | zero => simp [strided]
          | succ index =>
              have next : 0 + (index + 1) * stride = stride - 1 + index * stride + 1 := by
                rw [Nat.succ_mul]
                omega
              rw [strided, List.getElem?_cons_succ, inductionHypothesis, next,
                List.getElem?_cons_succ]

/-- Where a walk does not stop, it leaves nothing. -/
private theorem getElem?_putStrided_of_ne
    {stride wait place : Nat}
    (positive : 0 < stride)
    (data values : List T)
    (elsewhere : ∀ index, place ≠ wait + index * stride) :
    (putStrided stride wait data values)[place]? = data[place]? := by
  induction data generalizing wait place values with
  | nil => simp [putStrided]
  | cons kept rest inductionHypothesis =>
      cases wait with
      | succ wait =>
          rw [putStrided]
          cases place with
          | zero => rfl
          | succ place =>
              rw [List.getElem?_cons_succ, List.getElem?_cons_succ]
              refine inductionHypothesis values fun index same => elsewhere index ?_
              omega
      | zero =>
          cases values with
          | nil => rw [putStrided]
          | cons value values =>
              rw [putStrided]
              cases place with
              | zero => simpa using elsewhere 0
              | succ place =>
                  rw [List.getElem?_cons_succ, List.getElem?_cons_succ]
                  refine inductionHypothesis values fun index same => elsewhere (index + 1) ?_
                  rw [Nat.succ_mul]
                  omega

/-- Where a walk stops, it leaves the value whose turn it is. -/
private theorem getElem?_putStrided_of_lt
    {stride wait index : Nat}
    (positive : 0 < stride)
    {data values : List T}
    (some : index < values.length)
    (inside : wait + index * stride < data.length) :
    (putStrided stride wait data values)[wait + index * stride]? = values[index]? := by
  induction data generalizing wait index values with
  | nil => simp at inside
  | cons kept rest inductionHypothesis =>
      rw [List.length_cons] at inside
      cases wait with
      | succ wait =>
          rw [putStrided, Nat.succ_add, List.getElem?_cons_succ]
          exact inductionHypothesis some (by omega)
      | zero =>
          cases values with
          | nil => simp at some
          | cons value values =>
              rw [putStrided]
              cases index with
              | zero => simp
              | succ index =>
                  have next : 0 + (index + 1) * stride = stride - 1 + index * stride + 1 := by
                    rw [Nat.succ_mul]
                    omega
                  rw [next, List.getElem?_cons_succ, List.getElem?_cons_succ]
                  rw [next] at inside
                  exact inductionHypothesis (by simpa using some) (by omega)

private theorem slice?_of_le
    {data : Array T}
    {start stop : Nat}
    (lower : start ≤ stop)
    (upper : stop ≤ data.size) :
    slice? data start stop = some (data.extract start stop) :=
  if_pos ⟨lower, upper⟩

end Buffer

namespace Memory

private theorem mul_lt_of_zeroed
    [Element T F]
    {memory : Memory}
    {rows cols : Nat}
    {buffer : Array T}
    (granted : memory.zeroed T rows cols = .ok buffer) :
    rows * cols < Size.limit := by
  by_contra above
  have overflows : Size.mul? rows cols = none := Size.fit?_eq_none_iff.2 (Nat.not_lt.1 above)
  unfold zeroed reserve at granted
  rw [overflows] at granted
  cases granted

end Memory

namespace Dense

/-! ## Places -/

/-- The cell of a row and column stands at its place in the buffer. -/
theorem getElem?_data
    (table : Dense T)
    (row : Nat)
    {column : Nat}
    (columnLt : column < table.cols) :
    table.data[row * table.cols + column]? = table.get? row column := by
  by_cases rowLt : row < table.rows
  · rw [table.get?_eq_some rowLt columnLt, Array.getElem?_eq_getElem]
    rfl
  · have beyond : table.rows * table.cols ≤ row * table.cols :=
      Nat.mul_le_mul_right _ (Nat.le_of_not_lt rowLt)
    rw [table.get?_eq_none fun inside => rowLt inside.1, Array.getElem?_eq_none]
    rw [table.size_data]
    omega

/-- A block of rows ends inside the buffer. -/
private theorem rows_mul_le
    (table : Dense T)
    {rows : Nat}
    (rowsLe : rows ≤ table.rows) :
    rows * table.cols ≤ table.data.size := by
  rw [table.size_data]
  exact Nat.mul_le_mul_right _ rowsLe

private theorem readRows_of_le
    {table : Dense T}
    {start count : Nat}
    (rowsLt : table.rows < Size.limit)
    (inside : start + count ≤ table.rows) :
    table.readRows start count =
      .ok (table.data.extract (start * table.cols) ((start + count) * table.cols)) := by
  unfold readRows
  rw [Table.checkRows_of_le rowsLt inside]

/-! ## Walks through columns -/

private theorem walkColumn?_eq (table : Dense T) {column : Nat} (columnLt : column < table.cols) :
    table.walkColumn? column = some (table.column column columnLt) := by
  have positive : 0 < table.cols := Nat.zero_lt_of_lt columnLt
  rw [walkColumn?, if_neg positive.ne']
  congr 1
  apply Array.ext_getElem?
  intro row
  rw [getElem?_column, List.getElem?_toArray, Buffer.getElem?_strided positive, Nat.add_comm,
    Array.getElem?_toList, table.getElem?_data row columnLt]

/-- A walk leaves the new values in their column and nothing anywhere else. -/
theorem get?_putColumn
    (table : Dense T)
    {column : Nat}
    {values : Array T}
    (columnLt : column < table.cols)
    (fits : values.size = table.rows)
    (row other : Nat) :
    (table.putColumn column values).get? row other =
      if other = column then values[row]? else table.get? row other := by
  have positive : 0 < table.cols := Nat.zero_lt_of_lt columnLt
  by_cases inside : row < table.rows ∧ other < table.cols
  · obtain ⟨rowLt, otherLt⟩ := inside
    have place : (table.putColumn column values).get? row other =
        (Buffer.putStrided table.cols column table.data.toList values.toList)[
          row * table.cols + other]? := by
      rw [← List.getElem?_toArray]
      exact (getElem?_data (table.putColumn column values) row otherLt).symm
    rw [place]
    split
    · rename_i here
      subst here
      rw [Nat.add_comm, Buffer.getElem?_putStrided_of_lt positive, Array.getElem?_toList]
      · rwa [Array.length_toList, fits]
      · rw [Array.length_toList, table.size_data, Nat.add_comm]
        exact place_lt rowLt otherLt
    · rename_i elsewhere
      rw [Buffer.getElem?_putStrided_of_ne positive, Array.getElem?_toList,
        table.getElem?_data row otherLt]
      intro index same
      -- A place belongs to one column only.
      have sameColumn := (place_eq_iff index columnLt).1 ((Nat.add_comm _ _).trans same.symm)
      exact elsewhere (((place_eq_iff row otherLt).1 rfl).2.symm.trans sameColumn.2)
  · rw [get?_eq_none (table.putColumn column values) inside, get?_eq_none table inside]
    split
    · rename_i here
      have rowGe : values.size ≤ row := by
        rw [fits]
        exact Nat.le_of_not_lt fun rowLt => inside ⟨rowLt, here ▸ columnLt⟩
      exact (Array.getElem?_eq_none rowGe).symm
    · rfl

private theorem putColumn?_eq
    (table : Dense T)
    {column : Nat}
    {values : Array T}
    (columnLt : column < table.cols)
    (fits : values.size = table.rows) :
    table.putColumn? column values = some (table.withColumn column columnLt ⟨values, fits⟩) := by
  rw [putColumn?, if_neg (Nat.zero_lt_of_lt columnLt).ne']
  congr 1
  refine eq_of_get?_eq rfl rfl fun row other => ?_
  rw [table.get?_putColumn columnLt fits]
  exact (table.get?_withColumn columnLt ⟨values, fits⟩ row other).symm

/-! ## Sizes -/

/-- A table whose rows, columns and cells are counted by sizes. -/
structure Sized (table : Dense T) : Prop where
  rows_lt : table.rows < Size.limit
  cols_lt : table.cols < Size.limit
  cells_lt : table.rows * table.cols < Size.limit

/-- Tables made of sizes and then written, with or without success. -/
inductive Obtained [Element T F] : Dense T → Prop where
  | zeros
      {memory : Memory}
      {rows cols : Nat}
      {table : Dense T}
      (rowsLt : rows < Size.limit)
      (colsLt : cols < Size.limit)
      (made : Dense.zeros memory rows cols = .ok table) :
      Obtained table
  | ofArray
      {rows cols : Nat}
      {data : Array T}
      {table : Dense T}
      (rowsLt : rows < Size.limit)
      (colsLt : cols < Size.limit)
      (made : Dense.ofArray rows cols data = .ok table) :
      Obtained table
  | ofRows
      {rows : List (Array T)}
      {table : Dense T}
      (rowsLt : rows.length < Size.limit)
      (colsLt : width rows < Size.limit)
      (made : gatherRows? rows = some (.ok table)) :
      Obtained table
  | writeColumn
      {table : Dense T}
      (column : Nat)
      (values : Array T)
      (obtained : Obtained table) :
      Obtained (table.writeColumn column values).2

private theorem sized_of_zeros
    [Element T F]
    {memory : Memory}
    {rows cols : Nat}
    {table : Dense T}
    (rowsLt : rows < Size.limit)
    (colsLt : cols < Size.limit)
    (made : zeros memory rows cols = .ok table) :
    table.Sized := by
  unfold zeros at made
  split at made
  · rename_i data granted
    cases made
    exact ⟨rowsLt, colsLt, Memory.mul_lt_of_zeroed granted⟩
  · cases made

private theorem sized_of_ofArray
    {rows cols : Nat}
    {data : Array T}
    {table : Dense T}
    (rowsLt : rows < Size.limit)
    (colsLt : cols < Size.limit)
    (made : ofArray rows cols data = .ok table) :
    table.Sized := by
  unfold ofArray at made
  split at made
  · cases made
  · rename_i expected fits
    split at made
    · cases made
      exact ⟨rowsLt, colsLt, (Size.fit?_eq_some_iff.1 fits).1⟩
    · cases made

private theorem sized_of_gatherRows?
    {rows : List (Array T)}
    {table : Dense T}
    (rowsLt : rows.length < Size.limit)
    (colsLt : width rows < Size.limit)
    (made : gatherRows? rows = some (.ok table)) :
    table.Sized := by
  unfold gatherRows? at made
  rw [Option.bind_eq_bind, Option.bind_eq_some_iff] at made
  obtain ⟨cells, fits, made⟩ := made
  rw [Option.pure_def, Option.some.injEq] at made
  unfold ofRows at made
  split at made
  · cases made
    exact ⟨rowsLt, colsLt, (Size.fit?_eq_some_iff.1 fits).1⟩
  · cases made

/-- A write keeps the shape of a table. -/
theorem Sized.writeColumn
    {table : Dense T}
    (sized : table.Sized)
    (column : Nat)
    (values : Array T) :
    (table.writeColumn column values).2.Sized := by
  refine ⟨?_, ?_, ?_⟩
  · rw [rows_writeColumn]
    exact sized.rows_lt
  · rw [cols_writeColumn]
    exact sized.cols_lt
  · rw [rows_writeColumn, cols_writeColumn]
    exact sized.cells_lt

theorem Obtained.sized
    [Element T F]
    {table : Dense T}
    (obtained : Obtained table) :
    table.Sized := by
  induction obtained with
  | zeros rowsLt colsLt made => exact sized_of_zeros rowsLt colsLt made
  | ofArray rowsLt colsLt made => exact sized_of_ofArray rowsLt colsLt made
  | ofRows rowsLt colsLt made => exact sized_of_gatherRows? rowsLt colsLt made
  | writeColumn column values _ inductionHypothesis =>
      exact inductionHypothesis.writeColumn column values

/-! ## Views -/

/-- All views of a table show the same cells, and are as long as they should be. -/
structure ViewsAgree (table : Dense T) : Prop where
  cell :
    ∀ row < table.rows, ∀ column < table.cols, ∃ value,
      table.get? row column = some value ∧
        table.data[row * table.cols + column]? = some value
  row :
    ∀ row < table.rows, ∃ values,
      table.row? row = some values ∧ values.size = table.cols ∧
        ∀ column < table.cols, values[column]? = table.get? row column
  column :
    ∀ column < table.cols, ∃ values,
      table.readColumn column = .ok values ∧ values.size = table.rows ∧
        ∀ row < table.rows, values[row]? = table.get? row column
  rows :
    ∀ start count, start + count ≤ table.rows → ∃ values,
      table.readRows start count = .ok values ∧ values.size = count * table.cols ∧
        ∀ row column, start ≤ row → row < start + count → column < table.cols →
          values[(row - start) * table.cols + column]? = table.get? row column

/-- The cells of a part of the buffer that begins at a row. -/
private theorem getElem?_extract_rows
    (table : Dense T)
    {start row column stop : Nat}
    (after : start ≤ row)
    (columnLt : column < table.cols)
    (inside : row * table.cols + column < stop) :
    (table.data.extract (start * table.cols) stop)[(row - start) * table.cols + column]? =
      table.get? row column := by
  have place : start * table.cols + ((row - start) * table.cols + column) =
      row * table.cols + column := by
    rw [← Nat.add_assoc, ← Nat.add_mul, Nat.add_sub_cancel' after]
  rw [← table.getElem?_data row columnLt, ← place, Array.getElem?_extract]
  split
  · rfl
  · exact (Array.getElem?_eq_none (by omega)).symm

/-- A row is as wide as the table, and lists the cells of the row. -/
theorem exists_row? (table : Dense T) {row : Nat} (rowLt : row < table.rows) :
    ∃ values, table.row? row = some values ∧ values.size = table.cols ∧
      ∀ column < table.cols, values[column]? = table.get? row column := by
  have stop := table.rows_mul_le (Nat.succ_le_of_lt rowLt)
  rw [Nat.succ_mul] at stop
  refine ⟨_, if_pos rowLt, ?_, fun column columnLt => ?_⟩
  · rw [Array.size_extract, Nat.min_eq_left stop, Nat.add_sub_cancel_left]
  · have cells := table.getElem?_extract_rows (Nat.le_refl row) columnLt
      (Nat.add_lt_add_left columnLt (row * table.cols))
    rwa [Nat.sub_self, Nat.zero_mul, Nat.zero_add] at cells

theorem Sized.viewsAgree {table : Dense T} (sized : table.Sized) : table.ViewsAgree where
  cell := by
    intro row rowLt column columnLt
    refine ⟨_, table.get?_eq_some rowLt columnLt, ?_⟩
    rw [table.getElem?_data row columnLt, table.get?_eq_some rowLt columnLt]
  row := fun _ rowLt => table.exists_row? rowLt
  column := by
    intro column columnLt
    refine ⟨_, readColumn_eq_ok_iff.2 ⟨columnLt, rfl⟩, Array.size_ofFn, fun row _ => ?_⟩
    exact table.getElem?_column columnLt row
  rows := by
    intro start count inside
    have stop := table.rows_mul_le inside
    refine ⟨_, readRows_of_le sized.rows_lt inside, ?_, fun row column after before columnLt => ?_⟩
    · rw [Array.size_extract, Nat.min_eq_left stop, Nat.add_mul, Nat.add_sub_cancel_left]
    · exact table.getElem?_extract_rows after columnLt (place_lt before columnLt)

/-! ## Refused accesses -/

/-- Every access outside a table is refused, and leaves the session as it was. -/
structure RefusesOutside (table : Dense T) : Prop where
  row : ∀ row, table.rows ≤ row → table.row? row = none
  cell : ∀ row column, table.rows ≤ row ∨ table.cols ≤ column → table.get? row column = none
  readColumn :
    ∀ column (buffer : Array T), table.cols ≤ column →
      Session.step ⟨table, buffer⟩ (.readColumn column) =
        (.failed (.single (.invalidInput (.columnOutOfRange column table.cols))), ⟨table, buffer⟩)
  readRows :
    ∀ start count (buffer : Array T), table.rows < start + count →
      Session.step ⟨table, buffer⟩ (.readRows start count) =
        (.failed (.single (.invalidInput (.rowsOutOfRange start count table.rows))),
          ⟨table, buffer⟩)
  writeColumn :
    ∀ column (values buffer : Array T), table.cols ≤ column →
      Session.step ⟨table, buffer⟩ (.writeColumn column values) =
        (.failed (.single (.invalidInput (.columnOutOfRange column table.cols))), ⟨table, buffer⟩)

private theorem refusesOutside (table : Dense T) : table.RefusesOutside where
  row := fun _ outside => if_neg (Nat.not_lt.2 outside)
  cell := by
    intro row column outside
    refine table.get?_eq_none fun inside => ?_
    omega
  readColumn := by
    intro column buffer outside
    change Session.receive ⟨table, buffer⟩ (table.readColumn column) = _
    rw [table.readColumn_of_le outside]
    rfl
  readRows := by
    intro start count buffer outside
    change Session.receive ⟨table, buffer⟩ (table.readRows start count) = _
    rw [Dense.readRows, Table.checkRows_of_lt outside]
    rfl
  writeColumn := by
    intro column values buffer outside
    have refused : TableAccess.writeColumn table column values =
        (.error (.single (.invalidInput (.columnOutOfRange column table.cols))), table) := by
      refine table.writeColumn_of_error ?_
      rw [Table.checkWrite, Table.checkColumn_of_le outside]
    rw [Session.step, refused]

/-! ## Accesses carried out on the buffer -/

/-- Every access has an answer on the buffer, which is that of the table. -/
structure CarriedOut (table : Dense T) : Prop where
  row : ∀ row, table.sliceRow? row = some (table.row? row)
  cell : ∀ row column, table.sliceCell? row column = some (table.get? row column)
  step :
    ∀ (buffer : Array T) (request : Request T),
      stepInBuffer? ⟨table, buffer⟩ request = some (Session.step ⟨table, buffer⟩ request)

theorem Sized.sliceRow?_eq {table : Dense T} (sized : table.Sized) (row : Nat) :
    table.sliceRow? row = some (table.row? row) := by
  unfold sliceRow? row?
  by_cases rowLt : row < table.rows
  · have stop := table.rows_mul_le (Nat.succ_le_of_lt rowLt)
    have cells := sized.cells_lt
    rw [← table.size_data] at cells
    rw [Nat.succ_mul] at stop
    rw [if_neg (Nat.not_le.2 rowLt), if_pos rowLt, Size.mul?_of_lt (by omega)]
    simp only [Option.bind_eq_bind, Option.bind_some]
    rw [Size.add?_of_lt (by omega), Option.bind_some, Buffer.slice?_of_le (by omega) stop]
    rfl
  · rw [if_pos (Nat.le_of_not_lt rowLt), if_neg rowLt]

theorem Sized.sliceCell?_eq {table : Dense T} (sized : table.Sized) (row column : Nat) :
    table.sliceCell? row column = some (table.get? row column) := by
  unfold sliceCell?
  rw [sized.sliceRow?_eq]
  by_cases columnLt : column < table.cols
  · rw [if_neg (Nat.not_le.2 columnLt)]
    by_cases rowLt : row < table.rows
    · obtain ⟨values, found, -, cells⟩ := sized.viewsAgree.row row rowLt
      rw [found]
      simp only [Option.bind_eq_bind, Option.bind_some]
      rw [cells column columnLt, table.get?_eq_some rowLt columnLt]
      rfl
    · rw [table.refusesOutside.row row (Nat.le_of_not_lt rowLt),
        table.refusesOutside.cell row column (.inl (Nat.le_of_not_lt rowLt))]
      rfl
  · rw [if_pos (Nat.le_of_not_lt columnLt),
      table.refusesOutside.cell row column (.inr (Nat.le_of_not_lt columnLt))]

theorem Sized.sliceRows?_eq
    {table : Dense T}
    (sized : table.Sized)
    {start count : Nat}
    (inside : start + count ≤ table.rows) :
    table.sliceRows? start count =
      some (table.data.extract (start * table.cols) ((start + count) * table.cols)) := by
  have lower : start * table.cols ≤ (start + count) * table.cols :=
    Nat.mul_le_mul_right _ (Nat.le_add_right start count)
  have upper := table.rows_mul_le inside
  have cells := sized.cells_lt
  rw [← table.size_data] at cells
  unfold sliceRows?
  rw [Size.mul?_of_lt (by omega), Size.add?_of_lt (inside.trans_lt sized.rows_lt)]
  simp only [Option.bind_eq_bind, Option.bind_some]
  rw [Size.mul?_of_lt (by omega), Option.bind_some, Buffer.slice?_of_le lower upper]

/-- A walk through a column that there is meets its values. -/
theorem stepInBuffer?_readColumn (table : Dense T) (buffer : Array T) (column : Nat) :
    stepInBuffer? ⟨table, buffer⟩ (.readColumn column) =
      some (Session.step ⟨table, buffer⟩ (.readColumn column)) := by
  by_cases columnLt : column < table.cols
  · have checked : Table.checkColumn column table.cols = .ok () := if_pos columnLt
    have read : TableAccess.readColumn table column = .ok (table.column column columnLt) :=
      readColumn_eq_ok_iff.2 ⟨columnLt, rfl⟩
    rw [stepInBuffer?, checked, Session.step, read]
    dsimp only
    rw [table.walkColumn?_eq columnLt]
    rfl
  · have outside : table.cols ≤ column := Nat.le_of_not_lt columnLt
    rw [stepInBuffer?, Table.checkColumn_of_le outside,
      table.refusesOutside.readColumn column buffer outside]

/-- A block of rows that there is ends where a size says, inside the buffer. -/
theorem Sized.stepInBuffer?_readRows
    {table : Dense T}
    (sized : table.Sized)
    (buffer : Array T)
    (start count : Nat) :
    stepInBuffer? ⟨table, buffer⟩ (.readRows start count) =
      some (Session.step ⟨table, buffer⟩ (.readRows start count)) := by
  by_cases inside : start + count ≤ table.rows
  · have read : (TableAccess.readRows table start count : Except Error (Array T)) = _ :=
      readRows_of_le sized.rows_lt inside
    rw [stepInBuffer?, Table.checkRows_of_le sized.rows_lt inside, Session.step, read]
    dsimp only
    rw [sized.sliceRows?_eq inside]
    rfl
  · have outside : table.rows < start + count := Nat.lt_of_not_le inside
    rw [stepInBuffer?, Table.checkRows_of_lt outside,
      table.refusesOutside.readRows start count buffer outside]

/-- A walk leaves the new values of a column when there is one for each row. -/
theorem stepInBuffer?_writeColumn
    (table : Dense T)
    (buffer : Array T)
    (column : Nat)
    (values : Array T) :
    stepInBuffer? ⟨table, buffer⟩ (.writeColumn column values) =
      some (Session.step ⟨table, buffer⟩ (.writeColumn column values)) := by
  by_cases columnLt : column < table.cols
  · have checked : Table.checkColumn column table.cols = .ok () := if_pos columnLt
    rw [stepInBuffer?, checked, Session.step]
    dsimp only
    by_cases fits : values.size = table.rows
    · have fitting : Table.checkBlock values.size table.rows = .ok () := if_pos fits
      have written : TableAccess.writeColumn table column values = _ :=
        table.writeColumn_of_ok columnLt fits
      rw [fitting, written]
      dsimp only
      rw [table.putColumn?_eq columnLt fits]
      rfl
    · have refused : Table.checkBlock values.size table.rows =
          .error (.single (.dimensionMismatch .columnBlock table.rows values.size)) :=
        if_neg fits
      have unwritten : TableAccess.writeColumn table column values = _ :=
        table.writeColumn_of_error (by rw [Table.checkWrite, checked]; exact refused)
      rw [refused, unwritten]
  · have outside : table.cols ≤ column := Nat.le_of_not_lt columnLt
    rw [stepInBuffer?, Table.checkColumn_of_le outside,
      table.refusesOutside.writeColumn column values buffer outside]

theorem Sized.stepInBuffer?_eq
    {table : Dense T}
    (sized : table.Sized)
    (buffer : Array T)
    (request : Request T) :
    stepInBuffer? ⟨table, buffer⟩ request = some (Session.step ⟨table, buffer⟩ request) := by
  cases request with
  | shape => rfl
  | readColumn column => exact table.stepInBuffer?_readColumn buffer column
  | readRows start count => exact sized.stepInBuffer?_readRows buffer start count
  | writeColumn column values => exact table.stepInBuffer?_writeColumn buffer column values

theorem Sized.carriedOut {table : Dense T} (sized : table.Sized) : table.CarriedOut where
  row := sized.sliceRow?_eq
  cell := sized.sliceCell?_eq
  step := sized.stepInBuffer?_eq

/-- **Views agree.** A table that was made of sizes and then written in any way holds as
many values as its rows and columns multiply to, which is a size. Its rows, columns,
blocks of rows and single cells are views of those values and have their lengths. An
access outside the table is refused and leaves the buffer of its caller as it was.
Carried out on the values, with places and lengths that must be sizes, every access has
an answer, and the same one. -/
theorem views_of_obtained
    [Element T F]
    (table : Dense T)
    (obtained : Obtained table) :
    table.data.size = table.rows * table.cols ∧
      table.rows * table.cols < Size.limit ∧
      table.ViewsAgree ∧ table.RefusesOutside ∧ table.CarriedOut :=
  ⟨table.size_data, obtained.sized.cells_lt, obtained.sized.viewsAgree, table.refusesOutside,
    obtained.sized.carriedOut⟩

/-- A table of two rows, one column of which was written after another write was refused,
and tables without rows or without columns whose other length is the largest size. -/
theorem views_of_obtained_of_degenerate_shapes :
    let written : Dense Float := ⟨2, 2, #[1, 5, 3, 6], rfl⟩
    let largest : Nat := Size.limit - 1
    let wide : Dense Float := ⟨0, largest, #[], by decide⟩
    let long : Dense Float := ⟨largest, 0, #[], by decide⟩
    let session : Session (Dense Float) Float := ⟨wide, #[7]⟩
    Obtained written ∧ Obtained wide ∧ Obtained long ∧
      written.sliceCell? 1 1 = some (written.get? 1 1) ∧
      (∃ values, wide.readColumn (largest - 1) = .ok values ∧ values.size = 0) ∧
      stepInBuffer? session (.readColumn (largest - 1)) =
        some (session.step (.readColumn (largest - 1))) ∧
      session.step (.readRows largest largest) =
        (.failed (.single (.invalidInput (.rowsOutOfRange largest largest 0))), session) ∧
      ∃ values, long.readRows 1 (largest - 1) = .ok values ∧ values.size = (largest - 1) * 0 := by
  intro written largest wide long session
  have gathered : gatherRows? [#[1, 2], #[3, 4]] =
      some (.ok (⟨2, 2, #[1, 2, 3, 4], rfl⟩ : Dense Float)) := rfl
  have writtenObtained : Obtained written :=
    .writeColumn 1 #[5, 6] (.writeColumn 2 #[0] (.ofRows (by decide) (by decide) gathered))
  have wideMade : ofArray 0 largest #[] = .ok wide := rfl
  have wideObtained : Obtained wide := .ofArray (by decide) (by decide) wideMade
  have longMade : Dense.zeros Memory.machine largest 0 = .ok long := rfl
  have longObtained : Obtained long := .zeros (by decide) (by decide) longMade
  obtain ⟨-, -, -, -, writtenCarried⟩ := views_of_obtained written writtenObtained
  obtain ⟨-, -, wideViews, wideRefuses, wideCarried⟩ := views_of_obtained wide wideObtained
  obtain ⟨-, -, longViews, -, -⟩ := views_of_obtained long longObtained
  obtain ⟨values, read, size, -⟩ := wideViews.column (largest - 1) (by decide)
  obtain ⟨block, blockRead, blockSize, -⟩ := longViews.rows 1 (largest - 1) (by decide)
  exact ⟨writtenObtained, wideObtained, longObtained, writtenCarried.cell 1 1,
    ⟨values, read, size⟩, wideCarried.step #[7] (.readColumn (largest - 1)),
    wideRefuses.readRows largest largest #[7] (by decide), block, blockRead, blockSize⟩

end Dense

end Standardize
