import Standardize.Proofs.Table.Buffer

/-!
Contract: tables of rows, and rows of tables.

Owns:
- rows appended to a buffer, up to the first that has another width;
- the rows of a table that was made of rows, which are those rows;
- the rows of any table, of which the table is made again unless there are none.

Does not own: the other views of a table.
-/

set_option autoImplicit false

namespace Standardize.Dense

variable {T : Type}

/-! ## Appended rows -/

private theorem flatten_cons (first : Array T) (rest : List (Array T)) :
    (first :: rest).toArray.flatten = first ++ rest.toArray.flatten := by
  apply Array.toList_inj.1
  simp

/-- The first row of another width, and its number. -/
structure FirstUneven (cols : Nat) (rows : List (Array T)) (number : Nat) (row : Array T) :
    Prop where
  found : rows[number]? = some row
  uneven : row.size ≠ cols
  earlier : ∀ other ∈ rows.take number, other.size = cols

theorem FirstUneven.cons
    {cols number : Nat}
    {rows : List (Array T)}
    {row first : Array T}
    (uneven : FirstUneven cols rows number row)
    (fits : first.size = cols) :
    FirstUneven cols (first :: rows) (number + 1) row where
  found := uneven.found
  uneven := uneven.uneven
  earlier := by
    simpa [List.take_succ_cons] using ⟨fits, uneven.earlier⟩

/-- Only one row is the first of another width. -/
theorem FirstUneven.le
    {cols number other : Nat}
    {rows : List (Array T)}
    {row otherRow : Array T}
    (first : FirstUneven cols rows number row)
    (uneven : FirstUneven cols rows other otherRow) :
    number ≤ other := by
  by_contra before
  have found : (rows.take number)[other]? = some otherRow := by
    rw [List.getElem?_take_of_lt (Nat.lt_of_not_le before), uneven.found]
  exact uneven.uneven (first.earlier otherRow (List.mem_of_getElem? found))

/-- Rows are appended if all have the width, and else the first that has not is refused. -/
private theorem appendRows_cases (cols number : Nat) (data : Array T) (rows : List (Array T)) :
    (∀ row ∈ rows, row.size = cols) ∧
        appendRows cols number data rows = .ok (data ++ rows.toArray.flatten) ∨
      ∃ index row, FirstUneven cols rows index row ∧
        appendRows cols number data rows =
          .error (.single (.dimensionMismatch (.row (number + index)) cols row.size)) := by
  induction rows generalizing number data with
  | nil => exact .inl ⟨List.forall_mem_nil _, by simp [appendRows]⟩
  | cons first rest inductionHypothesis =>
      rw [appendRows]
      by_cases fits : first.size = cols
      · rw [if_pos fits]
        rcases inductionHypothesis (number + 1) (data ++ first) with
          ⟨even, appended⟩ | ⟨index, row, uneven, refused⟩
        · refine .inl ⟨List.forall_mem_cons.2 ⟨fits, even⟩, ?_⟩
          rw [appended, flatten_cons, Array.append_assoc]
        · refine .inr ⟨index + 1, row, uneven.cons fits, ?_⟩
          rw [refused, Nat.add_right_comm, Nat.add_assoc]
      · rw [if_neg fits]
        exact .inr ⟨0, first, ⟨rfl, fits, List.forall_mem_nil _⟩, rfl⟩

/-- Rows of one width make a table that holds them one after the other. -/
theorem ofRows_cases (rows : List (Array T)) :
    (∀ row ∈ rows, row.size = width rows) ∧
        (∃ table, ofRows rows = .ok table ∧ table.rows = rows.length ∧
          table.cols = width rows ∧ table.data = rows.toArray.flatten) ∨
      ∃ index row, FirstUneven (width rows) rows index row ∧
        ofRows rows = .error (.single (.dimensionMismatch (.row index) (width rows) row.size)) := by
  unfold ofRows
  rcases appendRows_cases (width rows) 0 #[] rows with
    ⟨even, appended⟩ | ⟨index, row, uneven, refused⟩
  · left
    refine ⟨even, ?_⟩
    split
    · rename_i data found
      cases found.symm.trans appended
      exact ⟨_, rfl, rfl, rfl, Array.empty_append⟩
    · rename_i error found
      cases found.symm.trans appended
  · right
    refine ⟨index, row, uneven, ?_⟩
    split
    · rename_i data found
      cases found.symm.trans refused
    · rename_i error found
      cases found.symm.trans refused
      rw [Nat.zero_add]

private theorem exists_ofRows_eq_ok_iff {rows : List (Array T)} :
    (∃ table, ofRows rows = .ok table) ↔ ∀ row ∈ rows, row.size = width rows := by
  rcases ofRows_cases rows with ⟨even, made, succeeded, -⟩ | ⟨index, row, uneven, refused⟩
  · exact ⟨fun _ => even, fun _ => ⟨made, succeeded⟩⟩
  · constructor
    · rintro ⟨table, succeeded⟩
      cases succeeded.symm.trans refused
    · intro even
      exact absurd (even row (List.mem_of_getElem? uneven.found)) uneven.uneven

/-- Rows are refused for the first of another width. -/
theorem ofRows_eq_error_iff {rows : List (Array T)} {error : Error} :
    ofRows rows = .error error ↔
      ∃ index row, FirstUneven (width rows) rows index row ∧
        error = .single (.dimensionMismatch (.row index) (width rows) row.size) := by
  rcases ofRows_cases rows with ⟨even, made, succeeded, -⟩ | ⟨index, row, uneven, refused⟩
  · constructor
    · intro failed
      cases succeeded.symm.trans failed
    · rintro ⟨index, row, uneven, -⟩
      exact absurd (even row (List.mem_of_getElem? uneven.found)) uneven.uneven
  · rw [refused]
    constructor
    · intro same
      cases same
      exact ⟨index, row, uneven, rfl⟩
    · rintro ⟨other, otherRow, first, rfl⟩
      cases Nat.le_antisymm (uneven.le first) (first.le uneven)
      cases uneven.found.symm.trans first.found
      rfl

/-- A row of one width with all before it begins after as many widths. -/
private theorem extract_flatten
    {cols : Nat}
    {rows : List (Array T)}
    (even : ∀ row ∈ rows, row.size = cols)
    {index : Nat}
    (inside : index < rows.length) :
    rows.toArray.flatten.extract (index * cols) (index * cols + cols) = rows[index] := by
  induction rows generalizing index with
  | nil => exact absurd inside (Nat.not_lt_zero index)
  | cons first rest inductionHypothesis =>
      obtain ⟨fits, restEven⟩ := List.forall_mem_cons.1 even
      rw [flatten_cons, Array.extract_append]
      cases index with
      | zero => simp [fits]
      | succ index =>
          have next := inductionHypothesis restEven (Nat.lt_of_succ_lt_succ inside)
          have past : first.size ≤ (index + 1) * cols := by
            rw [fits, Nat.succ_mul]
            exact Nat.le_add_left _ _
          rw [Array.extract_empty_of_size_le_start past, Array.empty_append, fits, Nat.succ_mul,
            Nat.add_sub_cancel, Nat.add_sub_cancel, next]
          rfl

/-! ## Rows of tables -/

theorem row?_of_lt (table : Dense T) {row : Nat} (rowLt : row < table.rows) :
    table.row? row =
      some (table.data.extract (row * table.cols) (row * table.cols + table.cols)) :=
  if_pos rowLt

/-- A table that holds rows one after the other has these rows. -/
theorem row?_of_flatten
    {table : Dense T}
    {rows : List (Array T)}
    (even : ∀ row ∈ rows, row.size = table.cols)
    (rowsEq : table.rows = rows.length)
    (data : table.data = rows.toArray.flatten)
    (index : Nat) :
    table.row? index = rows[index]? := by
  by_cases inside : index < rows.length
  · rw [table.row?_of_lt (rowsEq ▸ inside), data, extract_flatten even inside,
      List.getElem?_eq_getElem inside]
  · rw [List.getElem?_eq_none (Nat.le_of_not_lt inside)]
    exact if_neg (rowsEq ▸ inside)

private theorem of_ofRows_eq_ok
    {rows : List (Array T)}
    {table : Dense T}
    (made : ofRows rows = .ok table) :
    table.rows = rows.length ∧ table.cols = width rows ∧ table.data = rows.toArray.flatten ∧
      ∀ index, table.row? index = rows[index]? := by
  rcases ofRows_cases rows with ⟨even, _, succeeded, rowsEq, colsEq, data⟩ | ⟨_, _, -, refused⟩
  · cases succeeded.symm.trans made
    rw [← colsEq] at even
    exact ⟨rowsEq, colsEq, data, row?_of_flatten even rowsEq data⟩
  · cases refused.symm.trans made

/-- The rows of a table in order. -/
def allRows (table : Dense T) : List (Array T) :=
  (List.range table.rows).filterMap table.row?

private theorem allRows_eq_map (table : Dense T) :
    table.allRows = (List.range table.rows).map fun row =>
      table.data.extract (row * table.cols) (row * table.cols + table.cols) := by
  rw [allRows, ← List.filterMap_eq_map]
  refine List.filterMap_congr fun row member => ?_
  exact table.row?_of_lt (List.mem_range.1 member)

private theorem length_allRows (table : Dense T) : table.allRows.length = table.rows := by
  rw [allRows_eq_map, List.length_map, List.length_range]

private theorem getElem?_allRows (table : Dense T) (row : Nat) :
    table.allRows[row]? = table.row? row := by
  rw [allRows_eq_map, List.getElem?_map]
  by_cases rowLt : row < table.rows
  · rw [List.getElem?_range rowLt, table.row?_of_lt rowLt, Option.map_some]
  · rw [List.getElem?_eq_none (by simpa using rowLt), Option.map_none]
    exact (if_neg rowLt).symm

private theorem size_of_mem_allRows
    (table : Dense T)
    {row : Array T}
    (member : row ∈ table.allRows) :
    row.size = table.cols := by
  obtain ⟨index, inRange, found⟩ := List.mem_filterMap.1 member
  obtain ⟨values, foundValues, size, -⟩ := table.exists_row? (List.mem_range.1 inRange)
  cases foundValues.symm.trans found
  exact size

/-- The rows of a table that has some are as wide as the table. -/
theorem width_allRows {table : Dense T} (positive : 0 < table.rows) :
    width table.allRows = table.cols := by
  cases listed : table.allRows with
  | nil =>
      have none := table.length_allRows
      rw [listed, List.length_nil] at none
      omega
  | cons first rest =>
      refine table.size_of_mem_allRows ?_
      rw [listed]
      exact List.mem_cons_self

/-- A cell is found in its row. -/
theorem get?_eq_bind_row?
    (table : Dense T)
    (row : Nat)
    {column : Nat}
    (columnLt : column < table.cols) :
    table.get? row column = (table.row? row).bind fun values => values[column]? := by
  by_cases rowLt : row < table.rows
  · obtain ⟨values, found, -, cells⟩ := table.exists_row? rowLt
    rw [found, Option.bind_some, cells column columnLt]
  · have missing : table.row? row = none := if_neg rowLt
    rw [missing, table.get?_eq_none fun inside => rowLt inside.1, Option.bind_none]

/-- A table is its shape and its rows. -/
theorem eq_of_row?_eq
    {left right : Dense T}
    (rowsEq : left.rows = right.rows)
    (colsEq : left.cols = right.cols)
    (rows : ∀ row, left.row? row = right.row? row) :
    left = right := by
  refine eq_of_get?_eq rowsEq colsEq fun row column => ?_
  by_cases columnLt : column < left.cols
  · rw [left.get?_eq_bind_row? row columnLt, right.get?_eq_bind_row? row (colsEq ▸ columnLt), rows]
  · rw [left.get?_eq_none fun inside => columnLt inside.2,
      right.get?_eq_none fun inside => columnLt (colsEq ▸ inside.2)]

/-- A table that has rows is the table of its rows. -/
theorem ofRows_allRows {table : Dense T} (positive : 0 < table.rows) :
    ofRows table.allRows = .ok table := by
  have widthEq := width_allRows positive
  obtain ⟨made, succeeded⟩ := exists_ofRows_eq_ok_iff.2 fun row member =>
    (table.size_of_mem_allRows member).trans widthEq.symm
  obtain ⟨rowsEq, colsEq, -, rows⟩ := of_ofRows_eq_ok succeeded
  rw [succeeded]
  refine congrArg Except.ok (eq_of_row?_eq ?_ (colsEq.trans widthEq) fun row => ?_)
  · rw [rowsEq, table.length_allRows]
  · rw [rows, getElem?_allRows]

/-! ## Tables over buffers -/

private theorem ofArray_of_lt
    {rows cols : Nat}
    {data : Array T}
    (cells : rows * cols < Size.limit)
    (size_data : data.size = rows * cols) :
    ofArray rows cols data = .ok ⟨rows, cols, data, size_data⟩ := by
  unfold ofArray
  rw [Size.mul?_of_lt cells]
  exact dif_pos size_data

private theorem ofArray_data
    {table : Dense T}
    (cells : table.rows * table.cols < Size.limit) :
    ofArray table.rows table.cols table.data = .ok table :=
  ofArray_of_lt cells table.size_data

private theorem gatherRows?_of_lt
    {rows : List (Array T)}
    (cells : rows.length * width rows < Size.limit) :
    gatherRows? rows = some (ofRows rows) := by
  unfold gatherRows?
  rw [Size.mul?_of_lt cells]
  rfl

/-- **Tables of rows.** Rows whose cells are counted by a size make a table just if all are as
wide as the first. The table has these rows, and is the one over the buffer in which they
stand one after the other. Other rows are refused, and the first of another width is named by
its number, with both widths. The other way round, a table that has rows is made again of
them, and any table of its buffer. -/
theorem table_of_rows :
    (∀ rows : List (Array T), rows.length * width rows < Size.limit →
      gatherRows? rows = some (ofRows rows) ∧
        ((∃ table, ofRows rows = .ok table) ↔ ∀ row ∈ rows, row.size = width rows) ∧
        (∀ table, ofRows rows = .ok table →
          table.rows = rows.length ∧ table.cols = width rows ∧
            (∀ index, table.row? index = rows[index]?) ∧
            ofArray rows.length (width rows) rows.toArray.flatten = .ok table) ∧
        ∀ error, ofRows rows = .error error ↔
          ∃ index row, FirstUneven (width rows) rows index row ∧
            error = .single (.dimensionMismatch (.row index) (width rows) row.size)) ∧
      ∀ table : Dense T, table.rows * table.cols < Size.limit →
        (∀ index, table.allRows[index]? = table.row? index) ∧
          (0 < table.rows → gatherRows? table.allRows = some (.ok table)) ∧
          ofArray table.rows table.cols table.data = .ok table := by
  constructor
  · intro rows cells
    refine ⟨gatherRows?_of_lt cells, exists_ofRows_eq_ok_iff, fun table made => ?_,
      fun _ => ofRows_eq_error_iff⟩
    obtain ⟨rowsEq, colsEq, data, found⟩ := of_ofRows_eq_ok made
    refine ⟨rowsEq, colsEq, found, ?_⟩
    rw [← rowsEq, ← colsEq] at cells ⊢
    rw [← data]
    exact ofArray_data cells
  · intro table cells
    refine ⟨table.getElem?_allRows, fun positive => ?_, ofArray_data cells⟩
    rw [gatherRows?_of_lt, ofRows_allRows positive]
    rwa [length_allRows, width_allRows positive]

/-- Three rows, the second and third of which have another width than the first, and a table
with its two rows. -/
theorem table_of_rows_of_uneven_rows :
    let uneven : List (Array Float) := [#[1, 2], #[3], #[4, 5, 6]]
    let even : List (Array Float) := [#[1, 2], #[3, 4]]
    let table : Dense Float := ⟨2, 2, #[1, 2, 3, 4], rfl⟩
    uneven.length * width uneven < Size.limit ∧ table.rows * table.cols < Size.limit ∧
      ofRows uneven = .error (.single (.dimensionMismatch (.row 1) 2 1)) ∧
      ofRows even = .ok table ∧ table.row? 1 = some #[3, 4] ∧
      ofArray 2 2 (even.toArray.flatten) = .ok table ∧
      gatherRows? table.allRows = some (.ok table) ∧ ofArray 2 2 #[1, 2, 3, 4] = .ok table := by
  intro uneven even table
  have unevenCells : uneven.length * width uneven < Size.limit := by decide
  have evenCells : even.length * width even < Size.limit := by decide
  have tableCells : table.rows * table.cols < Size.limit := by decide
  obtain ⟨ofLists, ofTables⟩ := table_of_rows (T := Float)
  obtain ⟨-, -, -, refused⟩ := ofLists uneven unevenCells
  obtain ⟨-, -, found, -⟩ := ofLists even evenCells
  obtain ⟨-, gathered, buffered⟩ := ofTables table tableCells
  have first : FirstUneven 2 uneven 1 #[3] := by
    refine ⟨rfl, by decide, ?_⟩
    intro other member
    cases List.mem_singleton.1 member
    rfl
  have made : ofRows even = .ok table := rfl
  obtain ⟨-, -, rows, overBuffer⟩ := found table made
  exact ⟨unevenCells, tableCells, (refused _).2 ⟨1, #[3], first, rfl⟩, made, rows 1, overBuffer,
    gathered (by decide), buffered⟩

end Standardize.Dense
