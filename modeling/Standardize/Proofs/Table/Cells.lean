import Standardize.Table.Dense

/-!
Contract: a dense table is its shape and its cells.

Owns:
- the checks of a request, which all layouts share, and the columns and
  replacements that they refuse;
- the place of a cell, and the cell of a place;
- what a column reads as, cell by cell;
- when the replacement of a column succeeds, and what every cell is after it.

Does not own: tables of other layouts.
-/

set_option autoImplicit false

namespace Standardize

/-! ## Checks -/

namespace Table

theorem checkColumn_of_le {column cols : Nat} (outside : cols ≤ column) :
    checkColumn column cols = .error (.single (.invalidInput (.columnOutOfRange column cols))) :=
  if_neg (Nat.not_lt.2 outside)

theorem checkRows_of_le
    {start count rows : Nat}
    (rowsLt : rows < Size.limit)
    (inside : start + count ≤ rows) :
    checkRows start count rows = .ok () := by
  unfold checkRows
  rw [Size.add?_of_lt (Nat.lt_of_le_of_lt inside rowsLt)]
  exact if_pos inside

theorem checkRows_of_lt
    {start count rows : Nat}
    (outside : rows < start + count) :
    checkRows start count rows =
      .error (.single (.invalidInput (.rowsOutOfRange start count rows))) := by
  unfold checkRows
  split
  · rename_i stop fits
    rw [if_neg (by rw [(Size.fit?_eq_some_iff.1 fits).2]; omega)]
    rfl
  · rfl

/-- The checks that a replacement column passes, in order. -/
def checkWrite (column cols length rows : Nat) : Except Error Unit :=
  match checkColumn column cols with
  | .error error => .error error
  | .ok _ => checkBlock length rows

theorem checkWrite_eq_ok_iff {column cols length rows : Nat} :
    checkWrite column cols length rows = .ok () ↔ column < cols ∧ length = rows := by
  unfold checkWrite checkColumn checkBlock Fault.raise
  by_cases inside : column < cols <;> by_cases fits : length = rows <;> simp [inside, fits]

end Table

namespace Dense

variable {T : Type}

theorem place_eq_iff
    (row : Nat)
    {column cols place : Nat}
    (columnLt : column < cols) :
    row * cols + column = place ↔ place / cols = row ∧ place % cols = column := by
  constructor
  · rintro rfl
    rw [Nat.add_comm, Nat.add_mul_div_right _ _ (Nat.zero_lt_of_lt columnLt),
      Nat.add_mul_mod_self_right, Nat.div_eq_of_lt columnLt, Nat.mod_eq_of_lt columnLt]
    exact ⟨Nat.zero_add row, rfl⟩
  · rintro ⟨rfl, rfl⟩
    rw [Nat.mul_comm]
    exact Nat.div_add_mod place cols

/-! ## Reading -/

theorem get?_eq_some
    (table : Dense T)
    {row column : Nat}
    (rowLt : row < table.rows)
    (columnLt : column < table.cols) :
    table.get? row column = some (table.cell row column rowLt columnLt) := by
  unfold get?
  rw [dif_pos ⟨rowLt, columnLt⟩]

theorem isSome_get?_iff {table : Dense T} {row column : Nat} :
    (table.get? row column).isSome ↔ row < table.rows ∧ column < table.cols := by
  unfold get?
  split
  · rename_i inside
    exact ⟨fun _ => inside, fun _ => rfl⟩
  · rename_i outside
    exact ⟨fun some => (nomatch some), fun inside => absurd inside outside⟩

theorem get?_eq_none
    (table : Dense T)
    {row column : Nat}
    (outside : ¬(row < table.rows ∧ column < table.cols)) :
    table.get? row column = none := by
  unfold get?
  rw [dif_neg outside]

/-- A table is its shape and its cells. -/
theorem eq_of_get?_eq
    {left right : Dense T}
    (rowsEq : left.rows = right.rows)
    (colsEq : left.cols = right.cols)
    (cells : ∀ row column, left.get? row column = right.get? row column) :
    left = right := by
  obtain ⟨rows, cols, leftData, leftSize⟩ := left
  obtain ⟨otherRows, otherCols, rightData, rightSize⟩ := right
  cases rowsEq
  cases colsEq
  congr 1
  apply Array.ext
  · rw [leftSize, rightSize]
  · intro place inLeft inRight
    have inside : place < rows * cols := by rwa [← leftSize]
    have colsPos : 0 < cols := Nat.pos_of_ne_zero (by rintro rfl; omega)
    have columnLt : place % cols < cols := Nat.mod_lt place colsPos
    have rowLt : place / cols < rows := (Nat.div_lt_iff_lt_mul colsPos).2 inside
    have placeEq : place / cols * cols + place % cols = place :=
      (place_eq_iff (place / cols) columnLt).2 ⟨rfl, rfl⟩
    have same := cells (place / cols) (place % cols)
    rw [get?_eq_some ⟨rows, cols, leftData, leftSize⟩ rowLt columnLt,
      get?_eq_some ⟨rows, cols, rightData, rightSize⟩ rowLt columnLt] at same
    unfold cell at same
    simpa only [placeEq, Option.some.injEq] using same

/-- A column lists its cells from the first row to the last. -/
theorem getElem?_column
    (table : Dense T)
    {column : Nat}
    (columnLt : column < table.cols)
    (row : Nat) :
    (table.column column columnLt)[row]? = table.get? row column := by
  unfold Dense.column
  by_cases rowLt : row < table.rows
  · rw [table.get?_eq_some rowLt columnLt]
    simp [rowLt]
  · rw [table.get?_eq_none fun inside => rowLt inside.1]
    simp [rowLt]

theorem readColumn_eq_ok_iff {table : Dense T} {column : Nat} {values : Array T} :
    table.readColumn column = .ok values ↔
      ∃ columnLt : column < table.cols, values = table.column column columnLt := by
  unfold readColumn
  split
  · rename_i checked
    have columnLt := Table.lt_of_checkColumn checked
    constructor
    · intro read
      cases read
      exact ⟨columnLt, rfl⟩
    · rintro ⟨_, rfl⟩
      rfl
  · rename_i error checked
    constructor
    · intro read
      cases read
    · rintro ⟨columnLt, _⟩
      simp [Table.checkColumn, columnLt] at checked

theorem readColumn_of_le
    (table : Dense T)
    {column : Nat}
    (outside : table.cols ≤ column) :
    table.readColumn column =
      .error (.single (.invalidInput (.columnOutOfRange column table.cols))) := by
  unfold readColumn
  split
  · rename_i checked
    exact absurd (Table.lt_of_checkColumn checked) (Nat.not_lt.2 outside)
  · rename_i error checked
    rw [Table.checkColumn_of_le outside] at checked
    cases checked
    rfl

/-! ## Writing -/

/-- Of the places of a column, those in the first `count` rows are replaced,
and no other place is touched. -/
private theorem getElem_replaceColumn
    {rows cols column count : Nat}
    (columnLt : column < cols)
    (values : Vector T rows)
    (countLe : count ≤ rows)
    (data : Vector T (rows * cols))
    {place : Nat}
    (rowLt : place / cols < rows)
    (placeLt : place < rows * cols) :
    (replaceColumn column columnLt values count countLe data)[place] =
      if place / cols < count ∧ place % cols = column then values[place / cols]
      else data[place] := by
  unfold replaceColumn
  induction count with
  | zero => simp
  | succ count inductionHypothesis =>
      rw [Nat.fold_succ, Vector.getElem_set, inductionHypothesis (Nat.le_of_succ_le countLe)]
      by_cases here : count * cols + column = place
      · obtain ⟨row, same⟩ := (place_eq_iff count columnLt).1 here
        rw [if_pos here, if_pos ⟨by omega, same⟩]
        simp only [row]
      · rw [if_neg here]
        have elsewhere : ¬(place / cols = count ∧ place % cols = column) :=
          fun inside => here ((place_eq_iff count columnLt).2 inside)
        by_cases earlier : place / cols < count ∧ place % cols = column
        · rw [if_pos earlier, if_pos ⟨Nat.lt_succ_of_lt earlier.1, earlier.2⟩]
        · rw [if_neg earlier, if_neg (by omega)]

/-- The cells of the replaced column are the new values, and all others stay. -/
theorem get?_withColumn
    (table : Dense T)
    {column : Nat}
    (columnLt : column < table.cols)
    (values : Vector T table.rows)
    (row other : Nat) :
    (table.withColumn column columnLt values).get? row other =
      if other = column then values.toArray[row]? else table.get? row other := by
  obtain ⟨rows, cols, data, size_data⟩ := table
  dsimp only at columnLt values
  by_cases inside : row < rows ∧ other < cols
  · obtain ⟨rowLt, otherLt⟩ := inside
    obtain ⟨rowEq, columnEq⟩ := (place_eq_iff row otherLt).1 rfl
    have placeRowLt : (row * cols + other) / cols < rows := by rw [rowEq]; exact rowLt
    rw [get?_eq_some (withColumn _ _ _ _) rowLt otherLt,
      get?_eq_some ⟨rows, cols, data, size_data⟩ rowLt otherLt]
    have replaced := getElem_replaceColumn columnLt values (Nat.le_refl rows) ⟨data, size_data⟩
      placeRowLt (place_lt rowLt otherLt)
    simp only [rowEq, columnEq, rowLt, true_and] at replaced
    refine (congrArg some replaced).trans ?_
    split
    · simp [rowLt]
    · rfl
  · rw [get?_eq_none (withColumn _ _ _ _) inside, get?_eq_none _ inside]
    split
    · rename_i same
      subst same
      have rowGe : rows ≤ row := Nat.le_of_not_lt fun rowLt => inside ⟨rowLt, columnLt⟩
      simp [rowGe]
    · rfl

/-- Of the columns of a table only the replaced one changes. -/
theorem column_withColumn
    (table : Dense T)
    {column other : Nat}
    (columnLt : column < table.cols)
    (values : Vector T table.rows)
    (otherLt : other < table.cols) :
    (table.withColumn column columnLt values).column other otherLt =
      if other = column then values.toArray else table.column other otherLt := by
  apply Array.ext_getElem?
  intro row
  refine (getElem?_column _ _ row).trans ?_
  rw [get?_withColumn]
  split
  · rfl
  · exact (table.getElem?_column otherLt row).symm

@[simp]
theorem rows_withColumn
    (table : Dense T)
    {column : Nat}
    (columnLt : column < table.cols)
    (values : Vector T table.rows) :
    (table.withColumn column columnLt values).rows = table.rows :=
  rfl

@[simp]
theorem cols_withColumn
    (table : Dense T)
    {column : Nat}
    (columnLt : column < table.cols)
    (values : Vector T table.rows) :
    (table.withColumn column columnLt values).cols = table.cols :=
  rfl

/-- A refused replacement leaves the table as it is. -/
theorem writeColumn_of_error
    (table : Dense T)
    {column : Nat}
    {values : Array T}
    {error : Error}
    (refused : Table.checkWrite column table.cols values.size table.rows = .error error) :
    table.writeColumn column values = (.error error, table) := by
  unfold Table.checkWrite at refused
  unfold writeColumn
  split
  · rename_i failure inside
    rw [inside] at refused
    cases refused
    rfl
  · rename_i inside
    rw [inside] at refused
    split
    · rename_i failure fits
      cases fits.symm.trans refused
      rfl
    · rename_i fits
      cases fits.symm.trans refused

theorem writeColumn_of_ok
    (table : Dense T)
    {column : Nat}
    {values : Array T}
    (columnLt : column < table.cols)
    (fits : values.size = table.rows) :
    table.writeColumn column values =
      (.ok (), table.withColumn column columnLt ⟨values, fits⟩) := by
  unfold writeColumn
  split
  · rename_i error refused
    simp [Table.checkColumn, columnLt] at refused
  · split
    · rename_i error refused
      simp [Table.checkBlock, fits] at refused
    · rfl

/-- **A fitting column is written.** With a value for each row, a column of the
table is replaced, and nothing else changes. -/
theorem writeColumn_of_fits
    (table : Dense T)
    {column : Nat}
    (values : Array T)
    (columnLt : column < table.cols)
    (fits : values.size = table.rows) :
    ∃ next, table.writeColumn column values = (.ok (), next) ∧
      next.rows = table.rows ∧ next.cols = table.cols ∧
      ∀ row other, next.get? row other =
        if other = column then values[row]? else table.get? row other := by
  refine ⟨_, table.writeColumn_of_ok columnLt fits, rfl, rfl, ?_⟩
  exact table.get?_withColumn columnLt ⟨values, fits⟩

end Dense

end Standardize
