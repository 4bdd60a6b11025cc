import Standardize.Error
import Standardize.Size

/-!
Contract: how algorithms see a table of observations (rows) by features
(columns).

Owns:
- `TableShape` and `TableAccess`, the block access that every layout offers:
  one column over all rows, a row-major block of rows, the replacement of a
  column;
- the range checks that the layouts of this library share;
- `Session`, a run of requests against one table with one read buffer.

Does not own: layouts. A write is any step of the table's state, also one that
fails half way; a read is a function of the table and its arguments.
-/

set_option autoImplicit false

namespace Standardize

/-- The number of observations and of features. -/
class TableShape (τ : Type) where
  rows : τ → Nat
  cols : τ → Nat

/-- Block access to a table whose values are seen as elements of type `T`. -/
class TableAccess (τ : Type) [TableShape τ] (T : Type) where
  /-- The values of one column, for all rows. -/
  readColumn : τ → Nat → Except Error (Array T)
  /-- The values of `count` rows from `start` on, row after row. -/
  readRows : τ → Nat → Nat → Except Error (Array T)
  /-- Replace the values of one column. -/
  writeColumn : τ → Nat → Array T → Except Error Unit × τ

namespace Table

/-- A column index is below the number of columns. -/
def checkColumn (column cols : Nat) : Except Error Unit :=
  if column < cols then .ok ()
  else (Fault.invalidInput (.columnOutOfRange column cols)).raise

/-- A block of rows ends at a size that is no more than the number of rows. -/
def checkRows (start count rows : Nat) : Except Error Unit :=
  match Size.add? start count with
  | some stop =>
      if stop ≤ rows then .ok ()
      else (Fault.invalidInput (.rowsOutOfRange start count rows)).raise
  | none => (Fault.invalidInput (.rowsOutOfRange start count rows)).raise

/-- A replacement column has a value for each row. -/
def checkBlock (length rows : Nat) : Except Error Unit :=
  if length = rows then .ok ()
  else (Fault.dimensionMismatch .columnBlock rows length).raise

theorem lt_of_checkColumn
    {column cols : Nat}
    (checked : checkColumn column cols = .ok ()) :
    column < cols := by
  unfold checkColumn at checked
  split at checked
  · assumption
  · cases checked

theorem le_of_checkRows
    {start count rows : Nat}
    (checked : checkRows start count rows = .ok ()) :
    start + count ≤ rows := by
  unfold checkRows at checked
  split at checked
  · rename_i stop fits
    have stopEq := (Size.fit?_eq_some_iff.1 fits).2
    split at checked
    · omega
    · cases checked
  · cases checked

theorem eq_of_checkBlock
    {length rows : Nat}
    (checked : checkBlock length rows = .ok ()) :
    length = rows := by
  unfold checkBlock at checked
  split at checked
  · assumption
  · cases checked

end Table

/-! ## Runs of requests -/

inductive Request (T : Type) where
  | shape
  | readColumn (column : Nat)
  | readRows (start count : Nat)
  | writeColumn (column : Nat) (values : Array T)

/-- What a request is answered with, the buffer of reads apart. -/
inductive Answer where
  | shape (rows cols : Nat)
  | done
  | failed (error : Error)

structure Session (τ T : Type) where
  table : τ
  buffer : Array T

namespace Session

variable {τ T : Type} [TableShape τ] [TableAccess τ T]

/-- A read refills the buffer when it succeeds and leaves it alone when it
fails. -/
def receive (session : Session τ T) :
    Except Error (Array T) → Answer × Session τ T
  | .ok values => (.done, ⟨session.table, values⟩)
  | .error error => (.failed error, session)

/-- Answer one request. -/
def step (session : Session τ T) : Request T → Answer × Session τ T
  | .shape =>
      (.shape (TableShape.rows session.table) (TableShape.cols session.table), session)
  | .readColumn column =>
      session.receive (TableAccess.readColumn session.table column)
  | .readRows start count =>
      session.receive (TableAccess.readRows session.table start count)
  | .writeColumn column values =>
      match TableAccess.writeColumn session.table column values with
      | (.ok _, table) => (.done, ⟨table, session.buffer⟩)
      | (.error error, table) => (.failed error, ⟨table, session.buffer⟩)

/-- The answers to requests in order, each with the buffer as it is left. -/
def run (session : Session τ T) : List (Request T) → List (Answer × Array T)
  | [] => []
  | request :: rest =>
      let (answer, next) := session.step request
      (answer, next.buffer) :: next.run rest

end Session

end Standardize
