import Standardize.Proofs.Floating.Binary32
import Standardize.Proofs.Table.Simulation
import Standardize.Proofs.Table.View

/-!
Contract: a dense table against the same columns stored one by one.

Owns:
- `Lossless` storage of a column, which reads as the elements that were written;
- `Alike`, by which each column of a dense table is stored in a table of columns;
- every request on two such tables, which both answer alike and which keeps them
  alike;
- narrow and wide elements in columns of their own type, which store them without
  loss.

Does not own: columns of another type than that of the elements.
-/

set_option autoImplicit false

namespace Standardize

/-! ## Requests to a table of columns -/

section Columns

variable {S F T : Type} [Element S F] [IntegerStorage F] [Element T F] (table : Columns S F)

theorem Columns.readColumn_of_le {index : Nat} (outside : table.columns.size ≤ index) :
    (table.readColumn index : Except Error (Array T)) =
      .error (.single (.invalidInput (.columnOutOfRange index table.columns.size))) := by
  unfold Columns.readColumn
  split
  · rename_i checked
    exact absurd (Table.lt_of_checkColumn checked) (Nat.not_lt.2 outside)
  · rename_i error checked
    rw [Table.checkColumn_of_le outside] at checked
    cases checked
    rfl

theorem Columns.readRows_of_ok
    {start count : Nat}
    (checked : Table.checkRows start count table.rows = .ok ()) :
    table.readRows start count =
      .ok (table.block start count (Table.le_of_checkRows checked) : Array T) := by
  unfold Columns.readRows
  split
  · rfl
  · rename_i error refused
    cases checked.symm.trans refused

theorem Columns.readRows_of_error
    {start count : Nat}
    {error : Error}
    (refused : Table.checkRows start count table.rows = .error error) :
    (table.readRows start count : Except Error (Array T)) = .error error := by
  unfold Columns.readRows
  split
  · rename_i checked
    cases checked.symm.trans refused
  · rename_i failure checked
    cases checked.symm.trans refused
    rfl

theorem Columns.writeColumn_of_error
    {index : Nat}
    {values : Array T}
    {error : Error}
    (refused : Table.checkWrite index table.columns.size values.size table.rows = .error error) :
    table.writeColumn index values = (.error error, table) := by
  unfold Table.checkWrite at refused
  unfold Columns.writeColumn
  split
  · rename_i failure inside
    rw [inside] at refused
    cases refused
    rfl
  · rename_i inside
    rw [inside] at refused
    split
    · rename_i failure fits
      cases fits.symm.trans refused
      rfl
    · rename_i fits
      cases fits.symm.trans refused

theorem Columns.writeColumn_of_ok
    {index : Nat}
    {values : Array T}
    (indexLt : index < table.columns.size)
    (fits : values.size = table.rows) :
    table.writeColumn index values = (.ok (), table.withColumn index indexLt values fits) := by
  unfold Columns.writeColumn
  split
  · rename_i error refused
    simp [Table.checkColumn, indexLt] at refused
  · split
    · rename_i error refused
      simp [Table.checkBlock, fits] at refused
    · rfl

end Columns

/-! ## Columns without loss -/

section Lossless

variable {T S F : Type} [Element T F] [Element S F] [IntegerStorage F]

/-- Stored elements read as what they were, and elements written over stored ones are
stored in the same way. -/
structure Lossless (store : Array T → Column S F) : Prop where
  read : ∀ values, (store values).read = values
  write : ∀ old values, (store old).write values = store values

omit [Element S F] in
/-- Narrow elements that widening does not lose are stored as they are. -/
theorem lossless_singles
    (narrow_widen : ∀ value : T, (Element.narrow (Element.widen value : F) : T) = value) :
    Lossless (Column.singles : Array T → Column T F) where
  read := by
    intro values
    simp [Column.read, narrow_widen]
  write := by
    intro old values
    simp [Column.write, narrow_widen]

/-- Elements that are aggregation numbers are stored as they are. -/
theorem lossless_doubles
    [Element F F]
    (narrow_eq : ∀ number : F, (Element.narrow number : F) = number)
    (widen_eq : ∀ value : F, (Element.widen value : F) = value) :
    Lossless (Column.doubles : Array F → Column S F) where
  read := by
    intro values
    simp [Column.read, narrow_eq]
  write := by
    intro old values
    simp [Column.write, widen_eq]

theorem Lossless.size
    {store : Array T → Column S F}
    (lossless : Lossless store)
    (values : Array T) :
    (store values).size = values.size := by
  rw [← Column.size_read (T := T), lossless.read]

end Lossless

/-! ## Tables that are alike -/

section Alike

variable {T S F : Type} [Element T F] [Element S F] [IntegerStorage F]
variable {store : Array T → Column S F}

omit [Element T F] [Element S F] [IntegerStorage F] in
/-- Each column of a dense table is stored under its number. -/
structure Alike
    (store : Array T → Column S F)
    (dense : Dense T)
    (stored : Columns S F) :
    Prop where
  rows_eq : stored.rows = dense.rows
  cols_eq : stored.columns.size = dense.cols
  column_eq :
    ∀ (index : Nat) (inDense : index < dense.cols) (inside : index < stored.columns.size),
      stored.columns[index] = store (dense.column index inDense)

variable {dense : Dense T} {stored : Columns S F}

namespace Alike

private theorem readColumn_eq
    (alike : Alike store dense stored)
    (lossless : Lossless store)
    (column : Nat) :
    (stored.readColumn column : Except Error (Array T)) = dense.readColumn column := by
  by_cases inside : column < dense.cols
  · have inStored : column < stored.columns.size := by rwa [alike.cols_eq]
    rw [Dense.readColumn_eq_ok_iff.2 ⟨inside, rfl⟩]
    apply Columns.readColumn_eq_ok_iff.2
    refine ⟨inStored, ?_⟩
    rw [alike.column_eq column inside inStored, lossless.read]
  · have outside : dense.cols ≤ column := Nat.le_of_not_lt inside
    rw [Columns.readColumn_of_le stored (by rwa [alike.cols_eq]),
      Dense.readColumn_of_le dense outside, alike.cols_eq]

/-- A stored value, seen as an element, is the cell of its row and column. -/
private theorem cell_eq
    (alike : Alike store dense stored)
    (lossless : Lossless store)
    {row column : Nat}
    (rowLt : row < stored.rows)
    (columnLt : column < stored.columns.size)
    (rowInDense : row < dense.rows)
    (columnInDense : column < dense.cols) :
    (Element.narrow (stored.cell row column rowLt columnLt) : T) =
      dense.cell row column rowInDense columnInDense := by
  have inColumn : row < (stored.columns[column]).size := by
    rw [stored.aligned column columnLt]
    exact rowLt
  have read : (stored.columns[column].read : Array T) = dense.column column columnInDense := by
    rw [alike.column_eq column columnInDense columnLt, lossless.read]
  have entry := Column.getElem?_read (T := T) stored.columns[column] row
  rw [dif_pos inColumn, read, Dense.getElem?_column, dense.get?_eq_some rowInDense columnInDense]
    at entry
  exact (Option.some.inj entry).symm

private theorem block_eq
    (alike : Alike store dense stored)
    (lossless : Lossless store)
    (start count : Nat)
    (inside : start + count ≤ stored.rows) :
    stored.block start count inside =
      dense.data.extract (start * dense.cols) ((start + count) * dense.cols) := by
  have rowsLe : start + count ≤ dense.rows := by rwa [← alike.rows_eq]
  have reaches : (start + count) * dense.cols ≤ dense.data.size := by
    rw [dense.size_data]
    exact Nat.mul_le_mul_right _ rowsLe
  apply Array.ext
  · rw [Array.size_extract, Nat.min_eq_left reaches, Nat.add_mul, Nat.add_sub_cancel_left]
    unfold Columns.block
    rw [Array.size_ofFn, alike.cols_eq]
  · intro place inBlock inExtract
    have placeLt : place < count * stored.columns.size := by
      unfold Columns.block at inBlock
      rwa [Array.size_ofFn] at inBlock
    have rowLt : start + place / stored.columns.size < start + count :=
      Nat.add_lt_add_left (Columns.blockRow_lt placeLt) start
    have columnLt : place % stored.columns.size < stored.columns.size :=
      Columns.blockColumn_lt placeLt
    have flat : (start + place / stored.columns.size) * dense.cols +
        place % stored.columns.size = start * dense.cols + place := by
      rw [alike.cols_eq, Nat.add_mul, Nat.add_assoc, Nat.mul_comm (place / dense.cols),
        Nat.div_add_mod]
    have stays : (stored.block start count inside : Array T)[place] =
        Element.narrow (stored.cell (start + place / stored.columns.size)
          (place % stored.columns.size) (by omega) columnLt) :=
      Array.getElem_ofFn _
    rw [stays, Array.getElem_extract,
      alike.cell_eq lossless _ _ (by omega) (by rwa [← alike.cols_eq])]
    unfold Dense.cell
    simp only [flat]

private theorem readRows_eq
    (alike : Alike store dense stored)
    (lossless : Lossless store)
    (start count : Nat) :
    (stored.readRows start count : Except Error (Array T)) = dense.readRows start count := by
  unfold Columns.readRows Dense.readRows
  rw [← alike.rows_eq]
  split
  · rename_i nothing checked
    simp only [checked]
    rw [alike.block_eq lossless]
  · rename_i error checked
    simp only [checked]

/-- A write that both tables accept leaves them alike. -/
theorem withColumn
    (alike : Alike store dense stored)
    (lossless : Lossless store)
    {column : Nat}
    {values : Array T}
    (inDense : column < dense.cols)
    (inStored : column < stored.columns.size)
    (fitsDense : values.size = dense.rows)
    (fitsStored : values.size = stored.rows) :
    Alike store (dense.withColumn column inDense ⟨values, fitsDense⟩)
      (stored.withColumn column inStored values fitsStored) where
  rows_eq := alike.rows_eq
  cols_eq := by
    unfold Columns.withColumn
    rw [Array.size_set]
    exact alike.cols_eq
  column_eq := by
    intro index indexInDense inside
    have indexInStored : index < stored.columns.size := by
      rw [alike.cols_eq]
      exact indexInDense
    rw [Dense.column_withColumn dense inDense ⟨values, fitsDense⟩ indexInDense]
    refine (Array.getElem_set inStored inside).trans ?_
    by_cases here : column = index
    · rw [if_pos here, if_pos here.symm, alike.column_eq column inDense inStored,
        lossless.write]
    · rw [if_neg here, if_neg (Ne.symm here), alike.column_eq index indexInDense indexInStored]

/-- Both tables answer a write alike and stay alike. -/
theorem writeColumn
    (alike : Alike store dense stored)
    (lossless : Lossless store)
    (column : Nat)
    (values : Array T) :
    (dense.writeColumn column values).1 = (stored.writeColumn column values).1 ∧
      Alike store (dense.writeColumn column values).2 (stored.writeColumn column values).2 := by
  cases checked : Table.checkWrite column dense.cols values.size dense.rows with
  | error failure =>
      have checkedStored :
          Table.checkWrite column stored.columns.size values.size stored.rows =
            .error failure := by
        rw [alike.cols_eq, alike.rows_eq]
        exact checked
      rw [Dense.writeColumn_of_error dense checked,
        Columns.writeColumn_of_error stored checkedStored]
      exact ⟨rfl, alike⟩
  | ok nothing =>
      obtain ⟨inDense, fitsDense⟩ := Table.checkWrite_eq_ok_iff.1 checked
      have inStored : column < stored.columns.size := by rwa [alike.cols_eq]
      have fitsStored : values.size = stored.rows := by rwa [alike.rows_eq]
      rw [Dense.writeColumn_of_ok dense inDense fitsDense,
        Columns.writeColumn_of_ok stored inStored fitsStored]
      exact ⟨rfl, alike.withColumn lossless inDense inStored fitsDense fitsStored⟩

end Alike

/-- **No request tells tables that are alike apart.** -/
theorem simulation_alike (lossless : Lossless store) :
    Simulation T (Alike (T := T) store) where
  reads_eq := by
    intro dense stored alike
    unfold Reads.of
    congr 1
    · exact alike.rows_eq.symm
    · exact alike.cols_eq.symm
    · funext column
      exact (alike.readColumn_eq lossless column).symm
    · funext start count
      exact (alike.readRows_eq lossless start count).symm
  answer_eq := fun alike column values => (alike.writeColumn lossless column values).1
  write := fun alike column values => (alike.writeColumn lossless column values).2

end Alike

/-! ## Columns pushed in order -/

section Push

variable {T S F : Type}

/-- The columns of a dense table in order, each in a store of its own. -/
def Dense.columnsIn (table : Dense T) (store : Array T → Column S F) : List (Column S F) :=
  (List.finRange table.cols).map fun column : Fin table.cols =>
    store (table.column column column.isLt)

theorem Columns.push_of_fits
    (table : Columns S F)
    (column : Column S F)
    (fits : table.columns.size = 0 ∨ column.size = table.rows) :
    ∃ next, table.push column = .ok next ∧ next.rows = column.size ∧
      next.columns = table.columns.push column := by
  unfold Columns.push
  by_cases fresh : table.columns.size = 0
  · rw [dif_pos fresh]
    refine ⟨_, rfl, rfl, ?_⟩
    rw [Array.eq_empty_of_size_eq_zero fresh]
    rfl
  · have same := fits.resolve_left fresh
    rw [dif_neg fresh, dif_pos same]
    exact ⟨_, rfl, same.symm, rfl⟩

/-- Columns of one length are all pushed, onto no columns or onto columns of that
length. -/
theorem Columns.pushAll_of_fits
    (table : Columns S F)
    {rows : Nat}
    (columns : List (Column S F))
    (fits : table.columns.size = 0 ∨ table.rows = rows)
    (sizes : ∀ column ∈ columns, column.size = rows) :
    ∃ next, table.pushAll columns = .ok next ∧
      next.columns.toList = table.columns.toList ++ columns ∧
      (columns ≠ [] → next.rows = rows) := by
  induction columns generalizing table with
  | nil => exact ⟨table, rfl, (List.append_nil _).symm, fun some => absurd rfl some⟩
  | cons column rest inductionHypothesis =>
      have size : column.size = rows := sizes column List.mem_cons_self
      obtain ⟨between, pushed, rowsEq, columnsEq⟩ :=
        table.push_of_fits column (fits.imp_right fun same => size.trans same.symm)
      obtain ⟨next, rest', nextColumns, nextRows⟩ :=
        inductionHypothesis between (.inr (rowsEq.trans size))
          fun other member => sizes other (List.mem_cons_of_mem _ member)
      refine ⟨next, ?_, ?_, ?_⟩
      · rw [Columns.pushAll, pushed]
        exact rest'
      · rw [nextColumns, columnsEq, Array.toList_push, List.append_assoc]
        rfl
      · intro _
        cases rest with
        | nil =>
            cases rest'
            exact rowsEq.trans size
        | cons other rest => exact nextRows (List.cons_ne_nil _ _)

variable [Element T F] [Element S F] [IntegerStorage F]

/-- The columns of a dense table that has any, pushed in order, make a table that is
alike. -/
theorem exists_alike
    {store : Array T → Column S F}
    (lossless : Lossless store)
    (table : Dense T)
    (colsSome : 1 ≤ table.cols) :
    ∃ stored, Columns.empty.pushAll (table.columnsIn store) = .ok stored ∧
      Alike store table stored := by
  have sizes : ∀ column ∈ table.columnsIn store, column.size = table.rows := by
    intro column member
    obtain ⟨index, -, rfl⟩ := List.mem_map.1 member
    rw [lossless.size]
    exact Array.size_ofFn
  obtain ⟨stored, pushed, columnsEq, rowsEq⟩ :=
    Columns.pushAll_of_fits Columns.empty (table.columnsIn store) (.inl rfl) sizes
  have length : (table.columnsIn store).length = table.cols := by simp [Dense.columnsIn]
  have listed : stored.columns.toList = table.columnsIn store := columnsEq
  refine ⟨stored, pushed, rowsEq ?_, ?_, ?_⟩
  · intro none
    rw [none] at length
    exact absurd length (by simp; omega)
  · rw [← Array.length_toList, listed, length]
  · intro index inDense inside
    rw [← Array.getElem_toList]
    simp only [listed, Dense.columnsIn]
    simp

end Push

/-! ## Floating-point tables -/

section Floating

/-- **The layouts cannot be told apart.** The columns of a floating-point table that
has any can be pushed in order as columns of its own type. The table they make
answers every run of requests as the dense one does, and standardizes as it does. -/
theorem layouts_indistinguishable :
    (∀ table : Dense Float, 1 ≤ table.cols →
      ∃ columns : Columns Float32 Float,
        Columns.empty.pushAll (table.columnsIn .doubles) = .ok columns ∧
          Indistinguishable Float Float table columns) ∧
    (∀ table : Dense Float32, 1 ≤ table.cols →
      ∃ columns : Columns Float32 Float,
        Columns.empty.pushAll (table.columnsIn .singles) = .ok columns ∧
          Indistinguishable Float32 Float table columns) := by
  have doubles : Lossless (Column.doubles : Array Float → Column Float32 Float) :=
    lossless_doubles (fun _ => rfl) fun _ => rfl
  have singles : Lossless (Column.singles : Array Float32 → Column Float32 Float) :=
    lossless_singles Binary32.narrow_widen
  constructor
  · intro table colsSome
    obtain ⟨columns, pushed, alike⟩ := exists_alike doubles table colsSome
    exact ⟨columns, pushed, (simulation_alike doubles).indistinguishable alike⟩
  · intro table colsSome
    obtain ⟨columns, pushed, alike⟩ := exists_alike singles table colsSome
    exact ⟨columns, pushed, (simulation_alike singles).indistinguishable alike⟩

/-- A column is written and read back with its neighbour, and two requests are
refused, the first of which leaves the buffer as the read left it. -/
theorem layouts_indistinguishable_of_square :
    let wide : Dense Float := ⟨1, 2, #[1, 2], rfl⟩
    let narrow : Dense Float32 := ⟨2, 2, #[1, 2, 3, 4], rfl⟩
    let requests : List (Request Float32) :=
      [.writeColumn 1 #[5, 6], .readRows 1 1, .readColumn 2, .writeColumn 0 #[7]]
    1 ≤ wide.cols ∧ 1 ≤ narrow.cols ∧
      (∃ columns : Columns Float32 Float,
        Columns.empty.pushAll [.doubles #[1], .doubles #[2]] = .ok columns ∧
          Indistinguishable Float Float wide columns) ∧
      ∃ columns : Columns Float32 Float,
        Columns.empty.pushAll [.singles #[1, 3], .singles #[2, 4]] = .ok columns ∧
          Session.run ⟨columns, #[]⟩ requests =
            [(.done, #[]), (.done, #[3, 6]),
              (.failed (.single (.invalidInput (.columnOutOfRange 2 2))), #[3, 6]),
              (.failed (.single (.dimensionMismatch .columnBlock 2 1)), #[3, 6])] := by
  intro wide narrow requests
  have wideSome : 1 ≤ wide.cols := by decide
  have narrowSome : 1 ≤ narrow.cols := by decide
  obtain ⟨columns, pushed, same⟩ := layouts_indistinguishable.2 narrow narrowSome
  refine ⟨wideSome, narrowSome, layouts_indistinguishable.1 wide wideSome, columns, pushed, ?_⟩
  rw [← same.run_eq]
  rfl

end Floating

end Standardize
