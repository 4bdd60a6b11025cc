import Standardize.Memory
import Standardize.Table.Interface

/-!
Contract: tables of one element type in one row-major buffer.

Owns:
- `Dense`, whose buffer holds exactly one value for each cell;
- tables of zeros, from a buffer, and from a list of rows;
- rows, cells and columns read at their place in the buffer, and the
  replacement of a column, which touches no other place.

Does not own: what the columns mean.
-/

set_option autoImplicit false

namespace Standardize

/-- A table in one buffer, row after row. -/
structure Dense (T : Type) where
  rows : Nat
  cols : Nat
  data : Array T
  size_data : data.size = rows * cols

namespace Dense

variable {T : Type}

theorem place_lt
    {rows cols row column : Nat}
    (rowLt : row < rows)
    (columnLt : column < cols) :
    row * cols + column < rows * cols := by
  have nextRow : (row + 1) * cols ≤ rows * cols := Nat.mul_le_mul_right cols rowLt
  rw [Nat.succ_mul] at nextRow
  omega

/-! ## Making tables -/

def zeros
    {F : Type}
    [Element T F]
    (memory : Memory)
    (rows cols : Nat) :
    Except Error (Dense T) :=
  match granted : memory.zeroed T rows cols with
  | .ok data => .ok ⟨rows, cols, data, Memory.size_of_zeroed granted⟩
  | .error error => .error error

/-- A table over a buffer, which must have one value for each cell. -/
def ofArray (rows cols : Nat) (data : Array T) : Except Error (Dense T) :=
  match Size.mul? rows cols with
  | none => (Fault.invalidInput (.shapeOverflow rows cols)).raise
  | some expected =>
      if size_data : data.size = rows * cols then .ok ⟨rows, cols, data, size_data⟩
      else (Fault.dimensionMismatch .tableData expected data.size).raise

/-- Append rows to a buffer as long as each has the given width; the first of
another width is named by its number. -/
def appendRows
    (cols : Nat)
    (number : Nat)
    (data : Array T) :
    List (Array T) → Except Error (Array T)
  | [] => .ok data
  | row :: rest =>
      if row.size = cols then appendRows cols (number + 1) (data ++ row) rest
      else (Fault.dimensionMismatch (.row number) cols row.size).raise

private theorem size_of_appendRows
    {cols number : Nat}
    {data result : Array T}
    {rows : List (Array T)}
    (appended : appendRows cols number data rows = .ok result) :
    result.size = data.size + rows.length * cols := by
  induction rows generalizing number data with
  | nil =>
      cases appended
      simp
  | cons row rest inductionHypothesis =>
      unfold appendRows at appended
      split at appended
      · rw [inductionHypothesis appended]
        simp only [Array.size_append, List.length_cons, Nat.succ_mul]
        omega
      · cases appended

/-- The width that the first row sets; zero without rows. -/
def width : List (Array T) → Nat
  | [] => 0
  | row :: _ => row.size

/-- A table of rows, all as wide as the first. -/
def ofRows (rows : List (Array T)) : Except Error (Dense T) :=
  match appended : appendRows (width rows) 0 #[] rows with
  | .ok data =>
      .ok ⟨rows.length, width rows, data, by simpa using size_of_appendRows appended⟩
  | .error error => .error error

/-! ## Reading -/

def row? (table : Dense T) (row : Nat) : Option (Array T) :=
  if row < table.rows then
    some (table.data.extract (row * table.cols) (row * table.cols + table.cols))
  else none

def cell
    (table : Dense T)
    (row column : Nat)
    (rowLt : row < table.rows)
    (columnLt : column < table.cols) :
    T :=
  have inside : row * table.cols + column < table.data.size := by
    rw [table.size_data]
    exact place_lt rowLt columnLt
  table.data[row * table.cols + column]

def get? (table : Dense T) (row column : Nat) : Option T :=
  if inside : row < table.rows ∧ column < table.cols then
    some (table.cell row column inside.1 inside.2)
  else none

/-- The values of a column from the first row to the last. -/
def column
    (table : Dense T)
    (column : Nat)
    (columnLt : column < table.cols) :
    Array T :=
  Array.ofFn fun row : Fin table.rows => table.cell row column row.isLt columnLt

def readColumn (table : Dense T) (column : Nat) : Except Error (Array T) :=
  match checked : Table.checkColumn column table.cols with
  | .ok _ => .ok (table.column column (Table.lt_of_checkColumn checked))
  | .error error => .error error

def readRows (table : Dense T) (start count : Nat) : Except Error (Array T) :=
  match Table.checkRows start count table.rows with
  | .ok _ =>
      .ok (table.data.extract (start * table.cols) ((start + count) * table.cols))
  | .error error => .error error

/-! ## Writing -/

/-- A buffer with the first `count` values of a column replaced. -/
def replaceColumn
    {rows cols : Nat}
    (column : Nat)
    (columnLt : column < cols)
    (values : Vector T rows)
    (count : Nat)
    (countLe : count ≤ rows)
    (data : Vector T (rows * cols)) :
    Vector T (rows * cols) :=
  Nat.fold count
    (fun row rowLt data =>
      have inRows : row < rows := Nat.lt_of_lt_of_le rowLt countLe
      data.set (row * cols + column) values[row] (place_lt inRows columnLt))
    data

def withColumn
    (table : Dense T)
    (column : Nat)
    (columnLt : column < table.cols)
    (values : Vector T table.rows) :
    Dense T :=
  match table with
  | ⟨rows, cols, data, size_data⟩ =>
      let written := replaceColumn column columnLt values rows (Nat.le_refl _) ⟨data, size_data⟩
      ⟨rows, cols, written.toArray, written.size_toArray⟩

/-- Replace a column, which needs a value for each row; a refused write leaves
the table as it is. -/
def writeColumn
    (table : Dense T)
    (column : Nat)
    (values : Array T) :
    Except Error Unit × Dense T :=
  match inside : Table.checkColumn column table.cols with
  | .error error => (.error error, table)
  | .ok _ =>
      match fits : Table.checkBlock values.size table.rows with
      | .error error => (.error error, table)
      | .ok _ =>
          (.ok (), table.withColumn column (Table.lt_of_checkColumn inside)
            ⟨values, Table.eq_of_checkBlock fits⟩)

def equal
    {F : Type}
    [Element T F]
    (left right : Dense T) :
    Bool :=
  left.rows == right.rows && left.cols == right.cols &&
    elementsEqual left.data right.data

instance : TableShape (Dense T) where
  rows := Dense.rows
  cols := Dense.cols

instance : TableAccess (Dense T) T where
  readColumn := Dense.readColumn
  readRows := Dense.readRows
  writeColumn := Dense.writeColumn

end Dense

end Standardize
