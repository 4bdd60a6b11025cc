import Standardize.Table.Columns

/-!
Contract: columns as they are stored, with the number of rows beside them.

Owns:
- `StoredColumns`, columns of which nothing in the data says that they are equally long;
- columns pushed and requests carried out on them. A value is looked up by its row in its
  own column, new values are stored one by one up to the end of either side, and the
  elements of a block are counted by a size before they are read.

An access that a check refuses is answered. One that would look for a row which a column
does not have, or whose elements are too many to count, has no answer.

Does not own: why columns that were pushed one after the other are equally long.
-/

set_option autoImplicit false

namespace Standardize

variable {S F T : Type}

/-! ## Columns -/

namespace Column

/-- What the values of a column are stored as. -/
inductive Storage where
  | integers
  | singles
  | doubles
deriving DecidableEq, Repr

def storage : Column S F → Storage
  | integers _ => .integers
  | singles _ => .singles
  | doubles _ => .doubles

/-- The stored value of a row as an aggregation number, if the column has the row. -/
def value? [Element S F] [IntegerStorage F] (column : Column S F) (row : Nat) : Option F :=
  match column with
  | integers values => values[row]?.map IntegerStorage.ofInt32
  | singles values => values[row]?.map Element.widen
  | doubles values => values[row]?

/-- Stored elements, replaced from the first on as long as there are new values. -/
def putFirst {α : Type} (store : T → α) : List α → List T → List α
  | [], _ => []
  | kept :: rest, [] => kept :: rest
  | _ :: rest, value :: values => store value :: putFirst store rest values

/-- New values in place of the stored ones, up to the end of either. -/
def overwrite
    [Element S F]
    [IntegerStorage F]
    [Element T F]
    (column : Column S F)
    (values : Array T) :
    Column S F :=
  match column with
  | integers old =>
      .integers (putFirst (fun value : T => IntegerStorage.toInt32 (Element.widen value))
        old.toList values.toList).toArray
  | singles old =>
      .singles (putFirst (fun value : T => Element.narrow (Element.widen value))
        old.toList values.toList).toArray
  | doubles old =>
      .doubles (putFirst (fun value : T => Element.widen value) old.toList values.toList).toArray

end Column

/-! ## Tables -/

/-- Columns, and the number of rows that the first of them had. -/
structure StoredColumns (S F : Type) where
  rows : Nat
  columns : Array (Column S F)

namespace StoredColumns

def empty : StoredColumns S F where
  rows := 0
  columns := #[]

/-- What the columns are stored as and how long they are, beside the number of rows. -/
def layout (table : StoredColumns S F) : Nat × List (Column.Storage × Nat) :=
  (table.rows, table.columns.toList.map fun column => (column.storage, column.size))

/-- The number of stored values. -/
def total (table : StoredColumns S F) : Nat :=
  table.columns.foldl (fun count column => count + column.size) 0

/-- Append a column. The first sets the number of rows, and the others must have as many. -/
def push (table : StoredColumns S F) (column : Column S F) :
    Except Error Unit × StoredColumns S F :=
  if table.columns.isEmpty then (.ok (), ⟨column.size, table.columns.push column⟩)
  else if column.size = table.rows then (.ok (), ⟨table.rows, table.columns.push column⟩)
  else ((Fault.dimensionMismatch .columnLength table.rows column.size).raise, table)

/-- The same for a table that is given away: it is lost with a column that does not fit. -/
def append (table : StoredColumns S F) (column : Column S F) :
    Except Error (StoredColumns S F) :=
  match table.push column with
  | (.ok _, next) => .ok next
  | (.error error, _) => .error error

variable [Element S F] [IntegerStorage F] [Element T F]

/-- The values of a row, each looked up in its column. -/
def row? (T : Type) [Element T F] (columns : List (Column S F)) (row : Nat) : Option (List T) :=
  columns.mapM fun column => (column.value? row).map Element.narrow

/-- The values of rows one after the other. -/
def block? (T : Type) [Element T F] (columns : List (Column S F)) :
    (start count : Nat) → Option (List T)
  | _, 0 => some []
  | start, count + 1 => do
      let values ← row? T columns start
      let rest ← block? T columns (start + 1) count
      return values ++ rest

/-- One request, carried out on the stored columns. The buffer of reads is refilled only
after the checks. -/
def step? (session : Session (StoredColumns S F) T) :
    Request T → Option (Answer × Session (StoredColumns S F) T)
  | .shape => some (.shape session.table.rows session.table.columns.size, session)
  | .readColumn index =>
      match Table.checkColumn index session.table.columns.size with
      | .error error => some (.failed error, session)
      | .ok _ => do
          let column ← session.table.columns[index]?
          return (.done, ⟨session.table, column.read⟩)
  | .readRows start count =>
      match Table.checkRows start count session.table.rows with
      | .error error => some (.failed error, session)
      | .ok _ => do
          let _ ← Size.mul? count session.table.columns.size
          let values ← block? T session.table.columns.toList start count
          return (.done, ⟨session.table, values.toArray⟩)
  | .writeColumn index values =>
      match Table.checkColumn index session.table.columns.size with
      | .error error => some (.failed error, session)
      | .ok _ =>
          match Table.checkBlock values.size session.table.rows with
          | .error error => some (.failed error, session)
          | .ok _ => do
              let column ← session.table.columns[index]?
              let columns := session.table.columns.setIfInBounds index (column.overwrite values)
              return (.done, ⟨⟨session.table.rows, columns⟩, session.buffer⟩)

end StoredColumns

/-- The same columns, without what is known of their lengths. -/
def Columns.stored (table : Columns S F) : StoredColumns S F :=
  ⟨table.rows, table.columns⟩

def Session.stored (session : Session (Columns S F) T) : Session (StoredColumns S F) T :=
  ⟨session.table.stored, session.buffer⟩

end Standardize
