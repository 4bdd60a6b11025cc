import Standardize.Proofs.Floating.Exchange
import Standardize.Proofs.Table.Layouts

/-!
Contract: writing back what was read of a column.

Owns:
- `Settled` columns, which stay as they are when what they read as is written back;
- every column for wide elements, which read each stored value without loss;
- written columns for narrow elements, which no second write changes even where a read
  loses digits;
- what a column of integers stores of the elements that are written to it.

Does not own: the conversions of single values.
-/

set_option autoImplicit false

namespace Standardize

/-! ## Columns -/

section Columns

variable {S F T : Type} [Element S F] [IntegerStorage F] [Element T F]

/-- What a column reads as leaves the table as it is when it is written back. -/
def Columns.Settled
    (T : Type)
    [Element T F]
    (table : Columns S F)
    (index : Nat) :
    Prop :=
  ∃ elements : Array T, table.readColumn index = .ok elements ∧
    table.writeColumn index elements = (.ok (), table)

theorem Columns.settled_of_write_read
    {table : Columns S F}
    {index : Nat}
    (indexLt : index < table.columns.size)
    (same : table.columns[index].write (table.columns[index].read : Array T) =
      table.columns[index]) :
    table.Settled T index := by
  have fits : (table.columns[index].read : Array T).size = table.rows := by
    rw [Column.size_read, table.aligned index indexLt]
  refine ⟨table.columns[index].read, Columns.readColumn_eq_ok_iff.2 ⟨indexLt, rfl⟩, ?_⟩
  rw [Columns.writeColumn_of_ok table indexLt fits]
  unfold Columns.withColumn
  simp only [same, Array.set_getElem_self]

end Columns

/-! ## Floating-point elements -/

section Floating

/-- **Wide elements hold every stored value.** -/
theorem Column.write_read (column : Column Float32 Float) :
    column.write (column.read : Array Float) = column := by
  cases column with
  | integers values =>
      simp only [Column.read, Column.write, Array.map_map]
      exact congrArg Column.integers (Array.map_id'' Binary64.toInt32_ofInt32 values)
  | singles values =>
      simp only [Column.read, Column.write, Array.map_map]
      exact congrArg Column.singles (Array.map_id'' Binary32.narrow_widen values)
  | doubles values =>
      simp only [Column.read, Column.write, Array.map_map]
      exact congrArg Column.doubles (Array.map_id'' (fun _ => rfl) values)

/-- **Narrow elements are stored for good.** What they read as is stored as they were,
though a large integer loses digits in between. -/
theorem Column.write_read_write (column : Column Float32 Float) (elements : Array Float32) :
    (column.write elements).write ((column.write elements).read : Array Float32) =
      column.write elements := by
  cases column with
  | integers values =>
      simp only [Column.read, Column.write, Array.map_map]
      exact congrArg Column.integers
        (Array.map_congr_left fun value _ => Binary32.toInt32_widen_narrow value)
  | singles values =>
      simp only [Column.read, Column.write, Array.map_map]
      refine congrArg Column.singles (Array.map_congr_left fun value _ => ?_)
      change Binary32.narrow (Binary32.widen (Binary32.narrow (Binary32.widen (Binary32.narrow
        (Binary32.widen value))))) = Binary32.narrow (Binary32.widen value)
      simp only [Binary32.narrow_widen]
  | doubles values =>
      simp only [Column.read, Column.write, Array.map_map]
      refine congrArg Column.doubles (Array.map_congr_left fun value _ => ?_)
      change Binary32.widen (Binary32.narrow (Binary32.widen value)) = Binary32.widen value
      rw [Binary32.narrow_widen]

variable {T : Type} [Element T Float]

/-- A write of an element for each row is accepted and settles the column, which has the
nearest integers if it is one of integers. -/
def Quantized
    (table : Columns Float32 Float)
    (index : Nat)
    (elements : Array T) :
    Prop :=
  ∃ written : Columns Float32 Float,
    table.writeColumn index elements = (.ok (), written) ∧
      written.Settled T index ∧
      ∀ values : Array Int32, table.columns[index]? = some (.integers values) →
        ∃ stored : Array Int32, written.columns[index]? = some (.integers stored) ∧
          stored.map Int32.toInt = elements.map fun element =>
            Unpacked.nearestInteger (Element.widen element).toModel.unpack

/-- What a write comes to, if the column it leaves reads as what is stored as it is. -/
theorem quantized_of_write_read
    {table : Columns Float32 Float}
    {index : Nat}
    {elements : Array T}
    (indexLt : index < table.columns.size)
    (fits : elements.size = table.rows)
    (same : (table.columns[index].write elements).write
        ((table.columns[index].write elements).read : Array T) =
      table.columns[index].write elements) :
    Quantized table index elements := by
  have written := Columns.writeColumn_of_ok table indexLt fits
  have indexLtWritten : index < (table.withColumn index indexLt elements fits).columns.size := by
    unfold Columns.withColumn
    rwa [Array.size_set]
  have column : (table.withColumn index indexLt elements fits).columns[index] =
      table.columns[index].write elements := by
    unfold Columns.withColumn
    exact Array.getElem_set_self indexLt
  refine ⟨_, written, Columns.settled_of_write_read indexLtWritten ?_, ?_⟩
  · rw [column]
    exact same
  · intro values integers
    rw [Array.getElem?_eq_getElem indexLt] at integers
    rw [Array.getElem?_eq_getElem indexLtWritten, column, Option.some.inj integers]
    refine ⟨_, rfl, ?_⟩
    rw [Array.map_map]
    exact Array.map_congr_left fun element _ => Binary64.toInt_toInt32 (Element.widen element)

/-- **Storage is a stable quantization.** Whatever was written to a column, what is read of
it can be written back without effect, and for wide elements this holds of any column of
any table. -/
theorem quantized_columns :
    (∀ (table : Columns Float32 Float) (index : Nat) (elements : Array Float32),
      index < table.columns.size → elements.size = table.rows →
        Quantized table index elements) ∧
    (∀ (table : Columns Float32 Float) (index : Nat) (elements : Array Float),
      index < table.columns.size → elements.size = table.rows →
        Quantized table index elements) ∧
    ∀ (table : Columns Float32 Float) (index : Nat),
      index < table.columns.size → table.Settled Float index := by
  refine ⟨?_, ?_, ?_⟩
  · intro table index elements indexLt fits
    exact quantized_of_write_read indexLt fits (Column.write_read_write _ elements)
  · intro table index elements indexLt fits
    exact quantized_of_write_read indexLt fits (Column.write_read _)
  · intro table index indexLt
    exact Columns.settled_of_write_read indexLt (Column.write_read _)

/-- The largest integer is read as a narrow element that is larger by one, half a number
goes away from zero, and what is not a number becomes zero. -/
theorem quantized_columns_of_largest_integer :
    let table : Columns Float32 Float :=
      ⟨3, #[.integers #[1, 2, 3], .singles #[1, 2, 3], .doubles #[0.1, 0.2, 0.3]], by decide⟩
    let elements : Array Float32 := #[3e9, -2.5, 0.0 / 0.0]
    0 < table.columns.size ∧ elements.size = table.rows ∧ 1 < table.columns.size ∧
      (∃ written : Columns Float32 Float,
        table.writeColumn 0 elements = (.ok (), written) ∧ written.Settled Float32 0 ∧
          ∃ stored : Array Int32, written.columns[0]? = some (.integers stored) ∧
            stored.map Int32.toInt = #[2147483647, -3, 0]) ∧
      Quantized table 1 (#[0.1, 1e300, -1e300] : Array Float) ∧ table.Settled Float 0 := by
  intro table elements
  obtain ⟨narrow, wide, settled⟩ := quantized_columns
  have inside : 0 < table.columns.size := by decide
  have insideSingles : 1 < table.columns.size := by decide
  have fits : elements.size = table.rows := rfl
  obtain ⟨written, accepted, stays, integers⟩ := narrow table 0 elements inside fits
  obtain ⟨stored, storedEq, nearest⟩ := integers #[1, 2, 3] rfl
  refine ⟨inside, fits, insideSingles, ⟨written, accepted, stays, stored, storedEq, ?_⟩,
    wide table 1 _ insideSingles rfl, settled table 0 inside⟩
  rw [nearest]
  simp only [← Binary64.toInt_toInt32]
  decide +kernel

end Floating

end Standardize
