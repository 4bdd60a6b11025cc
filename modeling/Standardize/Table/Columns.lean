import Standardize.Arithmetic
import Standardize.Table.Interface

/-!
Contract: tables of separately typed columns.

Owns:
- `Column`, the values of one feature as 32-bit integers, as narrow or as wide
  floating-point numbers;
- `Columns`, columns that all have the same length;
- what a stored value is read as, and what a written one is stored as: every
  exchange goes through the aggregation numbers.

Does not own: the conversions themselves.
-/

set_option autoImplicit false

namespace Standardize

/-- The values of one feature: integers, elements of type `S`, or aggregation
numbers of type `F`. -/
inductive Column (S F : Type) where
  | integers (values : Array Int32)
  | singles (values : Array S)
  | doubles (values : Array F)

namespace Column

variable {S F T : Type}

def size : Column S F → Nat
  | integers values => values.size
  | singles values => values.size
  | doubles values => values.size

def isEmpty (column : Column S F) : Bool :=
  column.size == 0

/-- The stored value of a row as an aggregation number. -/
def value
    [Element S F]
    [IntegerStorage F] :
    (column : Column S F) → (row : Nat) → row < column.size → F
  | integers values, row, inside =>
      have : row < values.size := inside
      IntegerStorage.ofInt32 values[row]
  | singles values, row, inside =>
      have : row < values.size := inside
      Element.widen values[row]
  | doubles values, row, inside =>
      have : row < values.size := inside
      values[row]

/-- All stored values, each seen as an element of type `T`. -/
def read
    [Element S F]
    [IntegerStorage F]
    [Element T F] :
    Column S F → Array T
  | integers values => values.map fun value => Element.narrow (IntegerStorage.ofInt32 value)
  | singles values => values.map fun value => Element.narrow (Element.widen value)
  | doubles values => values.map fun value => Element.narrow value

/-- New values in the storage type of a column. -/
def write
    [Element S F]
    [IntegerStorage F]
    [Element T F]
    (column : Column S F)
    (values : Array T) :
    Column S F :=
  match column with
  | integers _ =>
      .integers (values.map fun value => IntegerStorage.toInt32 (Element.widen value))
  | singles _ => .singles (values.map fun value => Element.narrow (Element.widen value))
  | doubles _ => .doubles (values.map fun value => Element.widen value)

def equal
    [Element S F]
    [Arithmetic F] :
    Column S F → Column S F → Bool
  | integers left, integers right => left == right
  | singles left, singles right => elementsEqual left right
  | doubles left, doubles right => left.isEqv right Arithmetic.eq
  | _, _ => false

@[simp]
theorem size_read
    [Element S F]
    [IntegerStorage F]
    [Element T F]
    (column : Column S F) :
    (column.read : Array T).size = column.size := by
  cases column <;> simp [read, size]

@[simp]
theorem size_write
    [Element S F]
    [IntegerStorage F]
    [Element T F]
    (column : Column S F)
    (values : Array T) :
    (column.write values).size = values.size := by
  cases column <;> simp [write, size]

end Column

/-- Columns of one length. -/
structure Columns (S F : Type) where
  rows : Nat
  columns : Array (Column S F)
  aligned : ∀ index (inside : index < columns.size), columns[index].size = rows

namespace Columns

variable {S F T : Type}

def empty : Columns S F where
  rows := 0
  columns := #[]
  aligned := by simp

/-- Append a column. The first sets the number of rows, and the others must
have as many. -/
def push (table : Columns S F) (column : Column S F) : Except Error (Columns S F) :=
  if fresh : table.columns.size = 0 then
    .ok ⟨column.size, #[column], by simp⟩
  else if fits : column.size = table.rows then
    .ok {
      rows := table.rows
      columns := table.columns.push column
      aligned := by
        intro index inside
        rw [Array.getElem_push]
        split
        · exact table.aligned _ _
        · exact fits }
  else (Fault.dimensionMismatch .columnLength table.rows column.size).raise

/-- Append columns one after the other, up to the first that does not fit. -/
def pushAll (table : Columns S F) : List (Column S F) → Except Error (Columns S F)
  | [] => .ok table
  | column :: rest =>
      match table.push column with
      | .ok next => next.pushAll rest
      | .error error => .error error

def column? (table : Columns S F) (index : Nat) : Option (Column S F) :=
  table.columns[index]?

def readColumn
    [Element S F]
    [IntegerStorage F]
    [Element T F]
    (table : Columns S F)
    (index : Nat) :
    Except Error (Array T) :=
  match checked : Table.checkColumn index table.columns.size with
  | .ok _ =>
      have : index < table.columns.size := Table.lt_of_checkColumn checked
      .ok table.columns[index].read
  | .error error => .error error

def cell
    [Element S F]
    [IntegerStorage F]
    (table : Columns S F)
    (row index : Nat)
    (rowLt : row < table.rows)
    (indexLt : index < table.columns.size) :
    F :=
  table.columns[index].value row (by rw [table.aligned index indexLt]; exact rowLt)

theorem blockRow_lt
    {count cols place : Nat}
    (inside : place < count * cols) :
    place / cols < count :=
  Nat.div_lt_of_lt_mul (by rwa [Nat.mul_comm])

theorem blockColumn_lt
    {count cols place : Nat}
    (inside : place < count * cols) :
    place % cols < cols :=
  Nat.mod_lt place (Nat.pos_of_ne_zero (by rintro rfl; simp at inside))

/-- The values of a block of rows, row after row. -/
def block
    [Element S F]
    [IntegerStorage F]
    [Element T F]
    (table : Columns S F)
    (start count : Nat)
    (inside : start + count ≤ table.rows) :
    Array T :=
  Array.ofFn fun place : Fin (count * table.columns.size) =>
    Element.narrow
      (table.cell (start + place / table.columns.size) (place % table.columns.size)
        (Nat.lt_of_lt_of_le (Nat.add_lt_add_left (blockRow_lt place.isLt) start) inside)
        (blockColumn_lt place.isLt))

def readRows
    [Element S F]
    [IntegerStorage F]
    [Element T F]
    (table : Columns S F)
    (start count : Nat) :
    Except Error (Array T) :=
  match checked : Table.checkRows start count table.rows with
  | .ok _ => .ok (table.block start count (Table.le_of_checkRows checked))
  | .error error => .error error

/-- The table with a column rewritten in its own storage type. -/
def withColumn
    [Element S F]
    [IntegerStorage F]
    [Element T F]
    (table : Columns S F)
    (index : Nat)
    (indexLt : index < table.columns.size)
    (values : Array T)
    (fits : values.size = table.rows) :
    Columns S F where
  rows := table.rows
  columns := table.columns.set index (table.columns[index].write values) indexLt
  aligned := by
    intro other inside
    rw [Array.getElem_set]
    split
    · simpa using fits
    · exact table.aligned _ _

/-- Replace a column, which needs a value for each row; a refused write leaves
the table as it is. -/
def writeColumn
    [Element S F]
    [IntegerStorage F]
    [Element T F]
    (table : Columns S F)
    (index : Nat)
    (values : Array T) :
    Except Error Unit × Columns S F :=
  match inside : Table.checkColumn index table.columns.size with
  | .error error => (.error error, table)
  | .ok _ =>
      match fits : Table.checkBlock values.size table.rows with
      | .error error => (.error error, table)
      | .ok _ =>
          (.ok (), table.withColumn index (Table.lt_of_checkColumn inside) values
            (Table.eq_of_checkBlock fits))

def equal
    [Element S F]
    [Arithmetic F]
    (left right : Columns S F) :
    Bool :=
  left.rows == right.rows && left.columns.isEqv right.columns Column.equal

instance : TableShape (Columns S F) where
  rows := Columns.rows
  cols := fun table => table.columns.size

instance
    [Element S F]
    [IntegerStorage F]
    [Element T F] :
    TableAccess (Columns S F) T where
  readColumn := Columns.readColumn
  readRows := Columns.readRows
  writeColumn := Columns.writeColumn

end Columns

end Standardize
