import Standardize.Table.Dense

/-!
Contract: how a dense table is accessed in its buffer.

Owns:
- the part of a buffer between two places, and the walk through a buffer with a fixed
  stride. Neither is clamped: a part that the buffer does not have is missing, and so is
  a walk that does not move on;
- rows, cells and requests carried out on the buffer of a table, and tables built from
  rows, with every place and every number of elements computed as a size.

An access that a check refuses is answered. One whose numbers are not sizes, or that would
leave the buffer, has no answer.

Does not own: what a table answers, which `Dense` says cell by cell.
-/

set_option autoImplicit false

namespace Standardize

/-! ## Buffers -/

namespace Buffer

variable {T : Type}

/-- The elements from one place up to another, if the buffer has them. -/
def slice? (data : Array T) (start stop : Nat) : Option (Array T) :=
  if start ≤ stop ∧ stop ≤ data.size then some (data.extract start stop) else none

/-- The elements at which a walk stops: it passes over `wait` of them, and from there on
stops at every `stride`-th. -/
def strided (stride : Nat) : (wait : Nat) → List T → List T
  | _, [] => []
  | 0, value :: rest => value :: strided stride (stride - 1) rest
  | wait + 1, _ :: rest => strided stride wait rest

/-- The elements after the same walk, which leaves the next of some values wherever it
stops, as long as there are any. -/
def putStrided (stride : Nat) : (wait : Nat) → List T → List T → List T
  | _, [], _ => []
  | 0, kept :: rest, [] => kept :: rest
  | 0, _ :: rest, value :: values => value :: putStrided stride (stride - 1) rest values
  | wait + 1, kept :: rest, values => kept :: putStrided stride wait rest values

private theorem length_putStrided (stride wait : Nat) (data values : List T) :
    (putStrided stride wait data values).length = data.length := by
  induction data generalizing wait values with
  | nil => simp [putStrided]
  | cons kept rest inductionHypothesis =>
      cases wait with
      | zero => cases values <;> simp [putStrided, inductionHypothesis]
      | succ wait => simp [putStrided, inductionHypothesis]

end Buffer

/-! ## Tables -/

namespace Dense

variable {T : Type}

/-- A table of rows, for which the elements of all rows are set aside beforehand: as many
for each as the first has. -/
def gatherRows? (rows : List (Array T)) : Option (Except Error (Dense T)) := do
  let _ ← Size.mul? rows.length (width rows)
  return ofRows rows

/-- A row, cut out of the buffer. -/
def sliceRow? (table : Dense T) (row : Nat) : Option (Option (Array T)) :=
  if table.rows ≤ row then some none
  else do
    let start ← Size.mul? row table.cols
    let stop ← Size.add? start table.cols
    let values ← Buffer.slice? table.data start stop
    return some values

/-- A cell, found in its row. -/
def sliceCell? (table : Dense T) (row column : Nat) : Option (Option T) :=
  if table.cols ≤ column then some none
  else do
    let found ← table.sliceRow? row
    match found with
    | none => return none
    | some values =>
        let value ← values[column]?
        return some value

/-- A block of rows, cut out of the buffer. -/
def sliceRows? (table : Dense T) (start count : Nat) : Option (Array T) := do
  let first ← Size.mul? start table.cols
  let stop ← Size.add? start count
  let last ← Size.mul? stop table.cols
  Buffer.slice? table.data first last

/-- A column, met with the width of the table as stride. -/
def walkColumn? (table : Dense T) (column : Nat) : Option (Array T) :=
  if table.cols = 0 then none
  else some (Buffer.strided table.cols column table.data.toList).toArray

/-- The table after a walk that leaves the values of a column. -/
def putColumn (table : Dense T) (column : Nat) (values : Array T) : Dense T where
  rows := table.rows
  cols := table.cols
  data := (Buffer.putStrided table.cols column table.data.toList values.toList).toArray
  size_data := by
    rw [List.size_toArray, Buffer.length_putStrided, Array.length_toList, table.size_data]

def putColumn? (table : Dense T) (column : Nat) (values : Array T) : Option (Dense T) :=
  if table.cols = 0 then none else some (table.putColumn column values)

/-- One request, carried out on the buffer. The buffer of reads is refilled only after the
checks. -/
def stepInBuffer? (session : Session (Dense T) T) :
    Request T → Option (Answer × Session (Dense T) T)
  | .shape => some (.shape session.table.rows session.table.cols, session)
  | .readColumn column =>
      match Table.checkColumn column session.table.cols with
      | .error error => some (.failed error, session)
      | .ok _ => do
          let values ← session.table.walkColumn? column
          return (.done, ⟨session.table, values⟩)
  | .readRows start count =>
      match Table.checkRows start count session.table.rows with
      | .error error => some (.failed error, session)
      | .ok _ => do
          let values ← session.table.sliceRows? start count
          return (.done, ⟨session.table, values⟩)
  | .writeColumn column values =>
      match Table.checkColumn column session.table.cols with
      | .error error => some (.failed error, session)
      | .ok _ =>
          match Table.checkBlock values.size session.table.rows with
          | .error error => some (.failed error, session)
          | .ok _ => do
              let table ← session.table.putColumn? column values
              return (.done, ⟨table, session.buffer⟩)

end Dense

end Standardize
