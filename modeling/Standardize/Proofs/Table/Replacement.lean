import Standardize.Arithmetic.Binary64
import Standardize.Proofs.ColumnLoop

/-!
Contract: columns of a dense table are replaced as through a lens.

Owns:
- what a table reads as after a column of it was replaced;
- the laws of reading and replacing columns: what was written is read, writing what
  was read changes nothing, the last of two replacements of a column counts, and
  replacements of different columns change places;
- tables all of whose columns are replaced, which have no memory of what they held.

Does not own: what a replacement is refused for, which the checks of a request decide.
-/

set_option autoImplicit false

namespace Standardize.Dense

variable {T : Type}

/-! ## One replacement -/

/-- The answer to a replacement is that of the checks. -/
theorem writeColumn_fst (table : Dense T) (column : Nat) (values : Array T) :
    (table.writeColumn column values).1 =
      Table.checkWrite column table.cols values.size table.rows := by
  cases checked : Table.checkWrite column table.cols values.size table.rows with
  | error error => rw [table.writeColumn_of_error checked]
  | ok nothing =>
      obtain ⟨columnLt, fits⟩ := Table.checkWrite_eq_ok_iff.1 checked
      rw [table.writeColumn_of_ok columnLt fits]

private theorem writeColumn_fst_eq_ok_iff {table : Dense T} {column : Nat} {values : Array T} :
    (table.writeColumn column values).1 = .ok () ↔
      column < table.cols ∧ values.size = table.rows := by
  rw [writeColumn_fst, Table.checkWrite_eq_ok_iff]

/-- A replacement that is answered with an error leaves the table as it is. -/
theorem writeColumn_snd_of_error
    {table : Dense T}
    {column : Nat}
    {values : Array T}
    {error : Error}
    (refused : (table.writeColumn column values).1 = .error error) :
    (table.writeColumn column values).2 = table := by
  rw [writeColumn_fst] at refused
  rw [table.writeColumn_of_error refused]

/-- A replacement is refused, and the table stays, or it is carried out. -/
theorem writeColumn_cases (table : Dense T) (column : Nat) (values : Array T) :
    (∃ error, table.writeColumn column values = (.error error, table)) ∨
      ∃ (columnLt : column < table.cols) (fits : values.size = table.rows),
        table.writeColumn column values =
          (.ok (), table.withColumn column columnLt ⟨values, fits⟩) := by
  cases checked : Table.checkWrite column table.cols values.size table.rows with
  | error error => exact .inl ⟨error, table.writeColumn_of_error checked⟩
  | ok nothing =>
      obtain ⟨columnLt, fits⟩ := Table.checkWrite_eq_ok_iff.1 checked
      exact .inr ⟨columnLt, fits, table.writeColumn_of_ok columnLt fits⟩

@[simp]
theorem rows_writeColumn (table : Dense T) (column : Nat) (values : Array T) :
    (table.writeColumn column values).2.rows = table.rows := by
  rcases table.writeColumn_cases column values with ⟨error, refused⟩ | ⟨_, _, written⟩
  · rw [refused]
  · rw [written, rows_withColumn]

@[simp]
theorem cols_writeColumn (table : Dense T) (column : Nat) (values : Array T) :
    (table.writeColumn column values).2.cols = table.cols := by
  rcases table.writeColumn_cases column values with ⟨error, refused⟩ | ⟨_, _, written⟩
  · rw [refused]
  · rw [written, cols_withColumn]

/-- The cells of the column are the new values, if the replacement is carried out, and
all other cells stay. -/
theorem get?_writeColumn
    (table : Dense T)
    (column : Nat)
    (values : Array T)
    (row other : Nat) :
    (table.writeColumn column values).2.get? row other =
      if other = column ∧ column < table.cols ∧ values.size = table.rows then values[row]?
      else table.get? row other := by
  by_cases accepted : column < table.cols ∧ values.size = table.rows
  · rw [table.writeColumn_of_ok accepted.1 accepted.2]
    refine (table.get?_withColumn accepted.1 ⟨values, accepted.2⟩ row other).trans ?_
    simp only [accepted, and_true]
  · rcases table.writeColumn_cases column values with ⟨error, refused⟩ | ⟨columnLt, fits, _⟩
    · rw [refused, if_neg fun all => accepted all.2]
    · exact absurd ⟨columnLt, fits⟩ accepted

/-- A column reads as its cells from the first row to the last. -/
theorem readColumn_eq_ok_iff_get? {table : Dense T} {column : Nat} {values : Array T} :
    table.readColumn column = .ok values ↔
      column < table.cols ∧ ∀ row, values[row]? = table.get? row column := by
  rw [readColumn_eq_ok_iff]
  constructor
  · rintro ⟨columnLt, rfl⟩
    exact ⟨columnLt, table.getElem?_column columnLt⟩
  · rintro ⟨columnLt, cells⟩
    refine ⟨columnLt, Array.ext_getElem? fun row => ?_⟩
    rw [cells, table.getElem?_column columnLt]

/-- Tables of one width that have the cells of a column in common read it alike. -/
theorem readColumn_congr
    {left right : Dense T}
    {column : Nat}
    (cols : left.cols = right.cols)
    (cells : ∀ row, left.get? row column = right.get? row column) :
    left.readColumn column = right.readColumn column := by
  by_cases columnLt : column < right.cols
  · rw [readColumn_eq_ok_iff.2 ⟨columnLt, rfl⟩, readColumn_eq_ok_iff_get?]
    exact ⟨cols ▸ columnLt, fun row => (right.getElem?_column columnLt row).trans (cells row).symm⟩
  · have outside : right.cols ≤ column := Nat.le_of_not_lt columnLt
    rw [readColumn_of_le _ outside, readColumn_of_le _ (cols ▸ outside), cols]

private theorem size_of_readColumn
    {table : Dense T}
    {column : Nat}
    {values : Array T}
    (read : table.readColumn column = .ok values) :
    values.size = table.rows := by
  obtain ⟨columnLt, rfl⟩ := readColumn_eq_ok_iff.1 read
  exact Array.size_ofFn

/-! ## Laws -/

/-- What was written is read, and all else stays. -/
theorem of_writeColumn_fst_eq_ok
    {table : Dense T}
    {column : Nat}
    {values : Array T}
    (accepted : (table.writeColumn column values).1 = .ok ()) :
    (table.writeColumn column values).2.readColumn column = .ok values ∧
      ∀ other, other ≠ column →
        (table.writeColumn column values).2.readColumn other = table.readColumn other := by
  obtain ⟨columnLt, fits⟩ := writeColumn_fst_eq_ok_iff.1 accepted
  constructor
  · refine readColumn_eq_ok_iff_get?.2 ⟨by rwa [cols_writeColumn], fun row => ?_⟩
    rw [get?_writeColumn, if_pos ⟨rfl, columnLt, fits⟩]
  · intro other different
    refine readColumn_congr (cols_writeColumn _ _ _) fun row => ?_
    rw [get?_writeColumn, if_neg fun same => different same.1]

/-- The values that a column has are written back without effect. -/
theorem writeColumn_of_readColumn
    {table : Dense T}
    {column : Nat}
    {values : Array T}
    (read : table.readColumn column = .ok values) :
    table.writeColumn column values = (.ok (), table) := by
  obtain ⟨columnLt, cells⟩ := readColumn_eq_ok_iff_get?.1 read
  refine Prod.ext (writeColumn_fst_eq_ok_iff.2 ⟨columnLt, size_of_readColumn read⟩) ?_
  refine eq_of_get?_eq (rows_writeColumn _ _ _) (cols_writeColumn _ _ _) fun row other => ?_
  rw [get?_writeColumn]
  split
  · rename_i same
    rw [same.1, cells]
  · rfl

/-- Of two replacements of a column the last counts. -/
theorem writeColumn_writeColumn_self
    {table : Dense T}
    {column : Nat}
    (first : Array T)
    {second : Array T}
    (accepted : (table.writeColumn column second).1 = .ok ()) :
    (table.writeColumn column first).2.writeColumn column second =
      table.writeColumn column second := by
  obtain ⟨columnLt, fits⟩ := writeColumn_fst_eq_ok_iff.1 accepted
  refine Prod.ext ?_ (eq_of_get?_eq ?_ ?_ fun row other => ?_)
  · rw [writeColumn_fst, writeColumn_fst, rows_writeColumn, cols_writeColumn]
  · rw [rows_writeColumn, rows_writeColumn, rows_writeColumn]
  · rw [cols_writeColumn, cols_writeColumn, cols_writeColumn]
  · rw [get?_writeColumn, get?_writeColumn, get?_writeColumn, rows_writeColumn, cols_writeColumn]
    by_cases here : other = column
    · rw [if_pos ⟨here, columnLt, fits⟩, if_pos ⟨here, columnLt, fits⟩]
    · simp only [here, false_and, if_false]

/-- Replacements of different columns change places, refused ones included. -/
theorem writeColumn_comm
    (table : Dense T)
    {left right : Nat}
    (different : left ≠ right)
    (leftValues rightValues : Array T) :
    ((table.writeColumn left leftValues).2.writeColumn right rightValues).2 =
      ((table.writeColumn right rightValues).2.writeColumn left leftValues).2 := by
  refine eq_of_get?_eq ?_ ?_ fun row other => ?_
  · simp only [rows_writeColumn]
  · simp only [cols_writeColumn]
  · simp only [get?_writeColumn, rows_writeColumn, cols_writeColumn]
    by_cases here : other = left
    · have apart : other ≠ right := fun same => different (here.symm.trans same)
      simp only [apart, false_and, if_false]
    · simp only [here, false_and, if_false]

/-- Columns replaced one after the other, each number once and in any order, are all the
table is. -/
theorem writeAll_perm
    {table : Dense T}
    (values : Nat → Array T)
    {order : List Nat}
    (complete : order.Perm (List.range table.cols))
    (fits : ∀ column < table.cols, (values column).size = table.rows) :
    ∃ next, Normalize.writeAll table (order.map fun column => (column, .ok (values column))) =
        (.ok (), next) ∧
      next.rows = table.rows ∧ next.cols = table.cols ∧
      ∀ row column, next.get? row column =
        if column < table.cols then (values column)[row]? else none := by
  have inside (column : Nat) : column ∈ order ↔ column < table.cols := by
    rw [complete.mem_iff, List.mem_range]
  obtain ⟨next, written, rows, cols, cells⟩ :=
    Normalize.writeAll_dense_ok (fun column => .ok (values column)) values order table
      (fun _ _ => rfl) (fun column member => (inside column).1 member)
      fun column member => fits column ((inside column).1 member)
  refine ⟨next, written, rows, cols, fun row column => ?_⟩
  rw [cells]
  simp only [inside]
  split
  · rfl
  · rename_i outside
    exact table.get?_eq_none fun both => outside both.2

/-- **Columns are a lens.** A replacement succeeds just if there is such a column and a
value for each row, and else leaves the table as it is. It keeps the shape, is read back,
and no other column changes. What was read is written back without effect, of two
replacements of a column the last counts, and those of different columns change places.
So all columns replaced, in any order, make a table that does not depend on what stood in
it before. -/
theorem columns_lens :
    (∀ (table : Dense T) (column : Nat) (values : Array T),
      (table.writeColumn column values).1 = .ok () ↔
        column < table.cols ∧ values.size = table.rows) ∧
    (∀ (table : Dense T) (column : Nat) (values : Array T) (error : Error),
      (table.writeColumn column values).1 = .error error →
        (table.writeColumn column values).2 = table) ∧
    (∀ (table : Dense T) (column : Nat) (values : Array T),
      (table.writeColumn column values).1 = .ok () →
        (table.writeColumn column values).2.rows = table.rows ∧
          (table.writeColumn column values).2.cols = table.cols ∧
          (table.writeColumn column values).2.readColumn column = .ok values ∧
          ∀ other, other ≠ column →
            (table.writeColumn column values).2.readColumn other = table.readColumn other) ∧
    (∀ (table : Dense T) (column : Nat) (values : Array T),
      table.readColumn column = .ok values →
        table.writeColumn column values = (.ok (), table)) ∧
    (∀ (table : Dense T) (column : Nat) (first second : Array T),
      (table.writeColumn column second).1 = .ok () →
        (table.writeColumn column first).2.writeColumn column second =
          table.writeColumn column second) ∧
    (∀ (table : Dense T) (left right : Nat) (leftValues rightValues : Array T), left ≠ right →
      ((table.writeColumn left leftValues).2.writeColumn right rightValues).1 =
          (table.writeColumn right rightValues).1 ∧
        ((table.writeColumn left leftValues).2.writeColumn right rightValues).2 =
          ((table.writeColumn right rightValues).2.writeColumn left leftValues).2) ∧
    (∀ (left right : Dense T) (values : Nat → Array T) (first second : List Nat),
      left.rows = right.rows → left.cols = right.cols →
      first.Perm (List.range left.cols) → second.Perm (List.range right.cols) →
      (∀ column < left.cols, (values column).size = left.rows) →
        ∃ next,
          Normalize.writeAll left (first.map fun column => (column, .ok (values column))) =
              (.ok (), next) ∧
            Normalize.writeAll right (second.map fun column => (column, .ok (values column))) =
              (.ok (), next) ∧
            ∀ column < left.cols, next.readColumn column = .ok (values column)) := by
  refine ⟨fun _ _ _ => writeColumn_fst_eq_ok_iff, fun _ _ _ _ => writeColumn_snd_of_error,
    fun table column values accepted => ?_, fun _ _ _ => writeColumn_of_readColumn,
    fun _ _ first _ => writeColumn_writeColumn_self first,
    fun table left right leftValues rightValues different => ?_,
    fun left right values first second rows cols firstAll secondAll fits => ?_⟩
  · obtain ⟨read, others⟩ := of_writeColumn_fst_eq_ok accepted
    exact ⟨rows_writeColumn _ _ _, cols_writeColumn _ _ _, read, others⟩
  · refine ⟨?_, table.writeColumn_comm different leftValues rightValues⟩
    rw [writeColumn_fst, writeColumn_fst, rows_writeColumn, cols_writeColumn]
  · obtain ⟨next, written, nextRows, nextCols, cells⟩ := writeAll_perm values firstAll fits
    obtain ⟨other, otherWritten, otherRows, otherCols, otherCells⟩ :=
      writeAll_perm values secondAll fun column columnLt => by
        rw [← rows]
        exact fits column (by rwa [cols])
    have same : other = next := by
      refine eq_of_get?_eq ?_ ?_ fun row column => ?_
      · rw [otherRows, nextRows, rows]
      · rw [otherCols, nextCols, cols]
      · rw [otherCells, cells, cols]
    rw [same] at otherWritten
    refine ⟨next, written, otherWritten, fun column columnLt => ?_⟩
    refine readColumn_eq_ok_iff_get?.2 ⟨by rwa [nextCols], fun row => ?_⟩
    rw [cells, if_pos columnLt]

/-- A column that does not exist and one that is too short leave a table as it is. With
both columns replaced, in either order, two tables of other values end up the same. -/
theorem columns_lens_of_two_columns :
    let table : Dense Float := ⟨2, 2, #[1, 2, 3, 4], rfl⟩
    let other : Dense Float := ⟨2, 2, #[0, 0, 0, 0], rfl⟩
    let columns : Nat → Array Float := fun column => if column = 0 then #[5, 6] else #[7, 8]
    table.readColumn 1 = .ok #[2, 4] ∧ (table.writeColumn 0 #[5, 6]).1 = .ok () ∧
      (table.writeColumn 0 #[5, 6]).2.readColumn 1 = table.readColumn 1 ∧
      (table.writeColumn 2 #[5, 6]).2 = table ∧ (table.writeColumn 0 #[5]).2 = table ∧
      table.writeColumn 1 #[2, 4] = (.ok (), table) ∧
      ∃ next : Dense Float,
        Normalize.writeAll table [(0, .ok (columns 0)), (1, .ok (columns 1))] = (.ok (), next) ∧
          Normalize.writeAll other [(1, .ok (columns 1)), (0, .ok (columns 0))] = (.ok (), next) ∧
          next.data = #[5, 7, 6, 8] := by
  intro table other columns
  obtain ⟨succeeds, unchanged, replaced, readBack, -, -, whole⟩ := columns_lens (T := Float)
  have read : table.readColumn 1 = .ok #[2, 4] := rfl
  have accepted : (table.writeColumn 0 #[5, 6]).1 = .ok () := (succeeds _ _ _).2 ⟨by decide, rfl⟩
  refine ⟨read, accepted, (replaced _ _ _ accepted).2.2.2 1 (by decide), unchanged _ _ _ _ rfl,
    unchanged _ _ _ _ rfl, readBack _ _ _ read, ?_⟩
  obtain ⟨next, written, otherWritten, -⟩ :=
    whole table other columns [0, 1] [1, 0] rfl rfl (by decide) (by decide) (by decide)
  refine ⟨next, written, otherWritten, ?_⟩
  cases (congrArg Prod.snd written : _ = next)
  rfl

end Standardize.Dense
