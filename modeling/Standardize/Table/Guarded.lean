import Standardize.Table.Columns
import Standardize.Table.Dense

/-!
Contract: tables that refuse some of their columns, and tables of any layout.

Owns:
- `Guarded`, a table whose single-column access fails where a guard says so;
- `AnyTable`, a table whose layout is known only when it is used.

Does not own: when a guard fails; it is any function of the column.
-/

set_option autoImplicit false

namespace Standardize

/-- A table behind guards on reading and on writing a column. Blocks of rows
are not guarded. -/
structure Guarded (τ : Type) where
  table : τ
  readFault? : Nat → Option Error
  writeFault? : Nat → Option Error

namespace Guarded

variable {τ T : Type}

instance [TableShape τ] : TableShape (Guarded τ) where
  rows := fun guarded => TableShape.rows guarded.table
  cols := fun guarded => TableShape.cols guarded.table

def readColumn
    [TableShape τ]
    [TableAccess τ T]
    (guarded : Guarded τ)
    (column : Nat) :
    Except Error (Array T) :=
  match guarded.readFault? column with
  | some error => .error error
  | none => TableAccess.readColumn guarded.table column

def writeColumn
    [TableShape τ]
    [TableAccess τ T]
    (guarded : Guarded τ)
    (column : Nat)
    (values : Array T) :
    Except Error Unit × Guarded τ :=
  match guarded.writeFault? column with
  | some error => (.error error, guarded)
  | none =>
      match TableAccess.writeColumn guarded.table column values with
      | (answer, table) => (answer, ⟨table, guarded.readFault?, guarded.writeFault?⟩)

instance [TableShape τ] [TableAccess τ T] : TableAccess (Guarded τ) T where
  readColumn := Guarded.readColumn
  readRows := fun guarded start count => TableAccess.readRows guarded.table start count
  writeColumn := Guarded.writeColumn

end Guarded

/-- A table of one of the layouts. -/
inductive AnyTable (T S F : Type) where
  | dense (table : Dense T)
  | columns (table : Columns S F)
  | guarded (table : Guarded (Dense T))

namespace AnyTable

variable {T S F : Type}

def rows : AnyTable T S F → Nat
  | dense table => TableShape.rows table
  | columns table => TableShape.rows table
  | guarded table => TableShape.rows table

def cols : AnyTable T S F → Nat
  | dense table => TableShape.cols table
  | columns table => TableShape.cols table
  | guarded table => TableShape.cols table

instance : TableShape (AnyTable T S F) where
  rows := AnyTable.rows
  cols := AnyTable.cols

variable [Element T F] [Element S F] [IntegerStorage F]

def readColumn (table : AnyTable T S F) (column : Nat) : Except Error (Array T) :=
  match table with
  | dense table => TableAccess.readColumn table column
  | columns table => TableAccess.readColumn table column
  | guarded table => TableAccess.readColumn table column

def readRows (table : AnyTable T S F) (start count : Nat) : Except Error (Array T) :=
  match table with
  | dense table => TableAccess.readRows table start count
  | columns table => TableAccess.readRows table start count
  | guarded table => TableAccess.readRows table start count

def writeColumn
    (table : AnyTable T S F)
    (column : Nat)
    (values : Array T) :
    Except Error Unit × AnyTable T S F :=
  match table with
  | dense table => (TableAccess.writeColumn table column values).map id .dense
  | columns table => (TableAccess.writeColumn table column values).map id .columns
  | guarded table => (TableAccess.writeColumn table column values).map id .guarded

instance : TableAccess (AnyTable T S F) T where
  readColumn := AnyTable.readColumn
  readRows := AnyTable.readRows
  writeColumn := AnyTable.writeColumn

end AnyTable

end Standardize
