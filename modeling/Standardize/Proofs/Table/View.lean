import Standardize.Proofs.Table.Cells
import Standardize.Table.Guarded

/-!
Contract: what a table holds, apart from how it is read.

Owns:
- `TableView`, the cells of a table as elements;
- `LawfulView`, by which a column that can be read lists its cells, and
  `ReadableTable`, by which every column of the table can be read;
- the views of all layouts, and which of them are readable.

Does not own: writing. A guarded table has a lawful view but need not be
readable.
-/

set_option autoImplicit false

namespace Standardize

/-- The cells of a table, seen as elements of type `T`. -/
class TableView (τ : Type) [TableShape τ] (T : Type) where
  cell? : τ → Nat → Nat → Option T

/-- There is a cell for each row and column, and a column that can be read lists
its cells from the first row to the last. -/
class LawfulView (τ : Type) [TableShape τ] (T : Type) [TableAccess τ T] [TableView τ T] :
    Prop where
  isSome_cell?_iff :
    ∀ (table : τ) (row column : Nat),
      (TableView.cell? table row column : Option T).isSome ↔
        row < TableShape.rows table ∧ column < TableShape.cols table
  getElem?_of_readColumn :
    ∀ (table : τ) (column : Nat) (values : Array T),
      TableAccess.readColumn table column = .ok values →
        ∀ row, values[row]? = TableView.cell? table row column

/-- Every column of every table can be read. -/
class ReadableTable (τ : Type) [TableShape τ] (T : Type) [TableAccess τ T] : Prop where
  readable :
    ∀ (table : τ) (column : Nat), column < TableShape.cols table →
      ∃ values : Array T, TableAccess.readColumn table column = .ok values

/-- A column that can be read has a value for each row. -/
def Table.Regular
    {τ : Type}
    (T : Type)
    [TableShape τ]
    [TableAccess τ T]
    (table : τ) :
    Prop :=
  ∀ column < TableShape.cols table, ∀ values : Array T,
    TableAccess.readColumn table column = .ok values → values.size = TableShape.rows table

theorem LawfulView.regular
    {τ T : Type}
    [TableShape τ]
    [TableAccess τ T]
    [TableView τ T]
    [LawfulView τ T]
    (table : τ) :
    Table.Regular T table := by
  intro column columnLt values read
  have cells := LawfulView.getElem?_of_readColumn table column values read
  have inside (row : Nat) : row < values.size ↔ row < TableShape.rows table := by
    have shape := LawfulView.isSome_cell?_iff (T := T) table row column
    rw [← cells row, Option.isSome_iff_ne_none, ne_eq, Array.getElem?_eq_none_iff,
      Nat.not_le] at shape
    rw [shape]
    exact and_iff_left columnLt
  exact Nat.le_antisymm
    (Nat.le_of_not_lt fun longer => Nat.lt_irrefl _ ((inside _).1 longer))
    (Nat.le_of_not_lt fun shorter => Nat.lt_irrefl _ ((inside _).2 shorter))

/-! ## Dense tables -/

section Dense

variable {T : Type}

instance : TableView (Dense T) T where
  cell? := Dense.get?

instance : LawfulView (Dense T) T where
  isSome_cell?_iff := fun _ _ _ => Dense.isSome_get?_iff
  getElem?_of_readColumn := by
    intro table column values read row
    obtain ⟨columnLt, rfl⟩ := Dense.readColumn_eq_ok_iff.1 read
    exact table.getElem?_column columnLt row

instance : ReadableTable (Dense T) T where
  readable := fun table column columnLt =>
    ⟨table.column column columnLt, Dense.readColumn_eq_ok_iff.2 ⟨columnLt, rfl⟩⟩

end Dense

/-! ## Tables of columns -/

section Columns

variable {T S F : Type} [Element S F] [IntegerStorage F] [Element T F]

/-- The value of a cell as an element, when there is such a cell. -/
def Columns.get? (table : Columns S F) (row column : Nat) : Option T :=
  if inside : row < table.rows ∧ column < table.columns.size then
    some (Element.narrow (table.cell row column inside.1 inside.2))
  else none

theorem Column.getElem?_read (column : Column S F) (row : Nat) :
    (column.read : Array T)[row]? =
      if inside : row < column.size then some (Element.narrow (column.value row inside))
      else none := by
  by_cases inside : row < column.size
  · rw [dif_pos inside, Array.getElem?_eq_getElem (by rwa [size_read])]
    cases column <;> simp only [read, Array.getElem_map] <;> rfl
  · rw [dif_neg inside, Array.getElem?_eq_none (by rw [size_read]; omega)]

theorem Columns.readColumn_eq_ok_iff
    {table : Columns S F}
    {column : Nat}
    {values : Array T} :
    table.readColumn column = .ok values ↔
      ∃ columnLt : column < table.columns.size, values = table.columns[column].read := by
  unfold readColumn
  split
  · rename_i checked
    have columnLt := Table.lt_of_checkColumn checked
    constructor
    · intro read
      cases read
      exact ⟨columnLt, rfl⟩
    · rintro ⟨_, rfl⟩
      rfl
  · rename_i error checked
    constructor
    · intro read
      cases read
    · rintro ⟨columnLt, _⟩
      simp [Table.checkColumn, columnLt] at checked

instance : TableView (Columns S F) T where
  cell? := Columns.get?

instance : LawfulView (Columns S F) T where
  isSome_cell?_iff := by
    intro table row column
    change (table.get? row column : Option T).isSome ↔ row < table.rows ∧ _
    unfold Columns.get?
    split
    · rename_i inside
      exact ⟨fun _ => inside, fun _ => rfl⟩
    · rename_i outside
      exact ⟨fun some => (nomatch some), fun inside => absurd inside outside⟩
  getElem?_of_readColumn := by
    intro table column values read row
    obtain ⟨columnLt, rfl⟩ := Columns.readColumn_eq_ok_iff.1 read
    change _ = (table.get? row column : Option T)
    unfold Columns.get?
    rw [Column.getElem?_read]
    have aligned := table.aligned column columnLt
    by_cases rowLt : row < table.rows
    · rw [dif_pos (aligned ▸ rowLt), dif_pos ⟨rowLt, columnLt⟩]
      rfl
    · rw [dif_neg (aligned ▸ rowLt), dif_neg fun inside => rowLt inside.1]

instance : ReadableTable (Columns S F) T where
  readable := fun _ _ columnLt => ⟨_, Columns.readColumn_eq_ok_iff.2 ⟨columnLt, rfl⟩⟩

end Columns

/-! ## Guarded tables -/

section Guarded

variable {τ T : Type} [TableShape τ] [TableAccess τ T] [TableView τ T]

instance : TableView (Guarded τ) T where
  cell? := fun guarded => TableView.cell? guarded.table

instance [LawfulView τ T] : LawfulView (Guarded τ) T where
  isSome_cell?_iff := fun guarded => LawfulView.isSome_cell?_iff guarded.table
  getElem?_of_readColumn := by
    intro guarded column values read
    change guarded.readColumn column = .ok values at read
    unfold Guarded.readColumn at read
    split at read
    · cases read
    · exact LawfulView.getElem?_of_readColumn guarded.table column values read

end Guarded

/-! ## Tables of any layout -/

section AnyTable

variable {T S F : Type} [Element T F] [Element S F] [IntegerStorage F]

instance : TableView (AnyTable T S F) T where
  cell?
    | .dense table => TableView.cell? table
    | .columns table => TableView.cell? table
    | .guarded table => TableView.cell? table

instance : LawfulView (AnyTable T S F) T where
  isSome_cell?_iff
    | .dense table => LawfulView.isSome_cell?_iff table
    | .columns table => LawfulView.isSome_cell?_iff table
    | .guarded table => LawfulView.isSome_cell?_iff table
  getElem?_of_readColumn
    | .dense table => LawfulView.getElem?_of_readColumn table
    | .columns table => LawfulView.getElem?_of_readColumn table
    | .guarded table => LawfulView.getElem?_of_readColumn table

end AnyTable

end Standardize
