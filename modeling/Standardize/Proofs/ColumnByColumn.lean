import Standardize.Arithmetic.Binary64
import Standardize.Proofs.ColumnLoop
import Standardize.Proofs.Reference
import Standardize.Table.Guarded

/-!
Contract: the loop that takes one column at a time.

Owns:
- the loop itself: read a column, standardize it, write it, go on;
- the first length or shape that does not fit, for which nothing is written;
- the equality of standardization in groups with that loop, on every engine and
  between any two tables, also where columns cannot be read or written;
- the column that ends a loop which fails, and what was written before it.

Does not own: tables. A read is any function of the column, and a write any step of
the table that is written.
-/

set_option autoImplicit false

namespace Standardize

variable {T F τ ω : Type} [Arithmetic F] [Element T F]
variable [TableShape τ] [TableAccess τ T] [TableShape ω] [TableAccess ω T]

namespace Reference

/-- The values of a column, each centered and scaled. -/
def standardizedValues
    (statistics : Statistics F)
    (scales : Array F)
    (column : Nat)
    (values : Array T) :
    Array T :=
  values.map (standardizeValue (statistics.means.getD column 0) (scales.getD column 0))

/-- Read, standardize and write so many columns from `column` on, one after the
other, up to the first that cannot be read or cannot be written. -/
def eachColumn
    (T : Type)
    [Element T F]
    [TableAccess τ T]
    [TableAccess ω T]
    (input : τ)
    (statistics : Statistics F)
    (scales : Array F)
    (out : ω)
    (column : Nat) :
    Nat → Except Error Unit × ω
  | 0 => (.ok (), out)
  | remaining + 1 =>
      match (TableAccess.readColumn input column : Except Error (Array T)) with
      | .error failure => (.error failure, out)
      | .ok values =>
          match
            TableAccess.writeColumn out column (standardizedValues statistics scales column values)
          with
          | (.error failure, next) => (.error failure, next)
          | (.ok _, next) => eachColumn T input statistics scales next (column + 1) remaining

/-- The first length or shape that does not fit. -/
def fitFailure?
    (input : τ)
    (statistics : Statistics F)
    (scales : Array F)
    (out : ω) :
    Option Error :=
  lengthFailure? .columnStatistics (TableShape.cols input) statistics.cols <|>
    lengthFailure? .columnScales (TableShape.cols input) scales.size <|>
    lengthFailure? .outputRows (TableShape.rows input) (TableShape.rows out) <|>
    lengthFailure? .outputColumns (TableShape.cols input) (TableShape.cols out)

/-- How a column ends the loop: it cannot be read, and the output stays as it is, or it
can be read, and the write fails and leaves what it leaves. -/
inductive EndsAt
    (T : Type)
    [Element T F]
    [TableAccess τ T]
    [TableAccess ω T]
    (input : τ)
    (statistics : Statistics F)
    (scales : Array F)
    (column : Nat)
    (before : ω)
    (failure : Error) :
    ω → Prop
  | unread
      (refused : (TableAccess.readColumn input column : Except Error (Array T)) = .error failure) :
      EndsAt T input statistics scales column before failure before
  | unwritten
      {values : Array T}
      {left : ω}
      (read : TableAccess.readColumn input column = .ok values)
      (refused :
        TableAccess.writeColumn before column (standardizedValues statistics scales column values) =
          (.error failure, left)) :
      EndsAt T input statistics scales column before failure left

/-! ## Where the loop ends -/

variable {input : τ} {statistics : Statistics F} {scales : Array F}

section Steps

variable {out next : ω} {column : Nat} {failure : Error} {values : Array T}

private theorem eachColumn_of_unread
    (refused : (TableAccess.readColumn input column : Except Error (Array T)) = .error failure)
    (remaining : Nat) :
    eachColumn T input statistics scales out column (remaining + 1) = (.error failure, out) := by
  rw [eachColumn, refused]

private theorem eachColumn_of_unwritten
    (read : TableAccess.readColumn input column = .ok values)
    (refused :
      TableAccess.writeColumn out column (standardizedValues statistics scales column values) =
        (.error failure, next))
    (remaining : Nat) :
    eachColumn T input statistics scales out column (remaining + 1) = (.error failure, next) := by
  rw [eachColumn, read]
  dsimp only
  rw [refused]

private theorem eachColumn_of_written
    (read : TableAccess.readColumn input column = .ok values)
    (written :
      TableAccess.writeColumn out column (standardizedValues statistics scales column values) =
        (.ok (), next))
    (remaining : Nat) :
    eachColumn T input statistics scales out column (remaining + 1) =
      eachColumn T input statistics scales next (column + 1) remaining := by
  rw [eachColumn, read]
  dsimp only
  rw [written]

end Steps

/-- **The end of the loop.** The loop fails at one column, after all columns before it
were written and nothing else was. -/
theorem eachColumn_eq_error_iff
    {out left : ω}
    {column count : Nat}
    {failure : Error} :
    eachColumn T input statistics scales out column count = (.error failure, left) ↔
      ∃ passed < count, ∃ before,
        eachColumn T input statistics scales out column passed = (.ok (), before) ∧
          EndsAt T input statistics scales (column + passed) before failure left := by
  induction count generalizing out column with
  | zero =>
      constructor
      · intro failed
        cases failed
      · rintro ⟨passed, below, -⟩
        exact absurd below (Nat.not_lt_zero passed)
  | succ count inductionHypothesis =>
      rw [Nat.exists_lt_succ_left]
      cases read : (TableAccess.readColumn input column : Except Error (Array T)) with
      | error cause =>
          rw [eachColumn_of_unread read]
          constructor
          · intro failed
            cases failed
            exact .inl ⟨_, rfl, .unread read⟩
          · rintro (⟨before, started, ended⟩ | ⟨passed, -, before, passing, -⟩)
            · cases started
              cases ended with
              | unread refused =>
                  cases read.symm.trans refused
                  rfl
              | unwritten answered _ => cases read.symm.trans answered
            · rw [eachColumn_of_unread read] at passing
              cases passing
      | ok values =>
          rcases write : TableAccess.writeColumn out column
            (standardizedValues statistics scales column values) with ⟨answer, next⟩
          cases answer with
          | error cause =>
              rw [eachColumn_of_unwritten read write]
              constructor
              · intro failed
                cases failed
                exact .inl ⟨_, rfl, .unwritten read write⟩
              · rintro (⟨before, started, ended⟩ | ⟨passed, -, before, passing, -⟩)
                · cases started
                  cases ended with
                  | unread refused => cases read.symm.trans refused
                  | unwritten answered refused =>
                      cases read.symm.trans answered
                      cases write.symm.trans refused
                      rfl
                · rw [eachColumn_of_unwritten read write] at passing
                  cases passing
          | ok _ =>
              rw [eachColumn_of_written read write, inductionHypothesis]
              have places (passed : Nat) : column + (passed + 1) = column + 1 + passed := by omega
              constructor
              · rintro ⟨passed, below, before, passing, ended⟩
                refine .inr ⟨passed, below, before, ?_, ?_⟩
                · rw [eachColumn_of_written read write]
                  exact passing
                · rw [places]
                  exact ended
              · rintro (⟨before, started, ended⟩ | ⟨passed, below, before, passing, ended⟩)
                · cases started
                  cases ended with
                  | unread refused => cases read.symm.trans refused
                  | unwritten answered refused =>
                      cases read.symm.trans answered
                      cases write.symm.trans refused
                · rw [eachColumn_of_written read write] at passing
                  rw [places] at ended
                  exact ⟨passed, below, before, passing, ended⟩

end Reference

/-! ## Groups against single columns -/

open Normalize Reference

/-- Writing the standardized columns of a range is the loop over it. -/
theorem writeAll_eq_eachColumn
    (backend : Backend)
    (input : τ)
    (statistics : Statistics F)
    (scales : Array F)
    (out : ω)
    (column count : Nat) :
    writeAll out
        ((List.range' column count).map fun column =>
          (column, standardizeColumn T backend input column (statistics.means.getD column 0)
            (scales.getD column 0))) =
      eachColumn T input statistics scales out column count := by
  induction count generalizing out column with
  | zero => rfl
  | succ count inductionHypothesis =>
      rw [List.range'_succ, List.map_cons]
      unfold standardizeColumn
      cases read : (TableAccess.readColumn input column : Except Error (Array T)) with
      | error failure =>
          rw [eachColumn_of_unread read]
          rfl
      | ok values =>
          have made : backend.standardize values (statistics.means.getD column 0)
              (scales.getD column 0) = standardizedValues statistics scales column values :=
            Backend.standardize_eq_map backend values _ _
          dsimp only
          rw [writeAll, made]
          rcases write : TableAccess.writeColumn out column
            (standardizedValues statistics scales column values) with ⟨answer, next⟩
          cases answer with
          | error failure =>
              rw [eachColumn_of_unwritten read write]
          | ok _ =>
              rw [eachColumn_of_written read write]
              exact inductionHypothesis next (column + 1)

section Fit

section Checks

variable {subject : Subject} {expected actual : Nat}

private theorem lengthFailure?_of_refused
    {failure : Error}
    (refused : checkFit subject expected actual = .error failure) :
    lengthFailure? subject expected actual = some failure := by
  unfold checkFit at refused
  unfold lengthFailure?
  split at refused
  · cases refused
  · cases refused
    rw [if_neg ‹_›]

private theorem lengthFailure?_eq_none_iff :
    lengthFailure? subject expected actual = none ↔ actual = expected := by
  unfold lengthFailure?
  split <;> simp_all

variable {failure : Error} {rest : Option Error}

/-- A check that refuses gives the first failure of it and the checks after it. -/
private theorem eq_of_refused
    {cause : Error}
    (refused : checkFit subject expected actual = .error cause)
    (unfit : (lengthFailure? subject expected actual <|> rest) = some failure) :
    cause = failure := by
  rw [lengthFailure?_of_refused refused] at unfit
  exact Option.some_inj.1 unfit

/-- A check that accepts leaves the first failure to the checks after it. -/
private theorem eq_some_of_fits
    {nothing : Unit}
    (fits : checkFit subject expected actual = .ok nothing)
    (unfit : (lengthFailure? subject expected actual <|> rest) = some failure) :
    rest = some failure := by
  rw [lengthFailure?_eq_none_iff.2 (eq_of_checkFit fits)] at unfit
  exact unfit

end Checks

variable {input : τ} {statistics : Statistics F} {scales : Array F} {out : ω}

omit [Arithmetic F] in
private theorem fitFailure?_eq_none_iff :
    fitFailure? input statistics scales out = none ↔
      statistics.cols = TableShape.cols input ∧ scales.size = TableShape.cols input ∧
        TableShape.rows out = TableShape.rows input ∧
        TableShape.cols out = TableShape.cols input := by
  unfold fitFailure?
  simp only [Option.orElse_eq_orElse, Option.orElse_eq_or, Option.or_eq_none_iff,
    lengthFailure?_eq_none_iff]

/-- Whatever does not fit is found before anything is written. -/
theorem normalizeInto_of_unfit
    (engine : Engine)
    {failure : Error}
    (unfit : fitFailure? input statistics scales out = some failure) :
    normalizeInto T engine input statistics scales out = (.error failure, out) := by
  unfold fitFailure? at unfit
  unfold normalizeInto
  dsimp only
  split
  next cause meansRefused => rw [eq_of_refused meansRefused unfit]
  next meansFit =>
  have unfit := eq_some_of_fits meansFit unfit
  split
  next cause scalesRefused => rw [eq_of_refused scalesRefused unfit]
  next scalesFit =>
  have unfit := eq_some_of_fits scalesFit unfit
  split
  next cause rowsRefused => rw [eq_of_refused rowsRefused unfit]
  next rowsFit =>
  have unfit := eq_some_of_fits rowsFit unfit
  split
  next cause colsRefused =>
    rw [lengthFailure?_of_refused colsRefused] at unfit
    cases unfit
    rfl
  next colsFit =>
  rw [lengthFailure?_eq_none_iff.2 (eq_of_checkFit colsFit)] at unfit
  cases unfit

/-- An array with an entry for each column is read off entry by entry. -/
private theorem eq_map_getD {entries : Array F} {cols : Nat} (size : entries.size = cols) :
    entries = (Array.range cols).map (entries.getD · 0) := by
  subst size
  apply Array.ext
  · simp
  · intro column inside _
    simp [inside]

theorem normalizeInto_of_fits
    (engine : Engine)
    (fits : fitFailure? input statistics scales out = none) :
    normalizeInto T engine input statistics scales out =
      eachColumn T input statistics scales out 0 (TableShape.cols input) := by
  obtain ⟨meansFit, scalesFit, rowsFit, colsFit⟩ := fitFailure?_eq_none_iff.1 fits
  rw [normalizeInto_eq_writeAll engine _ _ (eq_map_getD meansFit) (eq_map_getD scalesFit) rowsFit
    colsFit, List.range_eq_range']
  exact writeAll_eq_eachColumn engine.backend input statistics scales out 0 _

end Fit

/-- **One column after the other.** Standardizing a table into another in groups of
columns, on any engine, leaves and answers what the loop over single columns does: it
writes nothing if a length or a shape does not fit, and otherwise goes on up to the
first column that cannot be read or written. Where it fails, the columns before that
one have been written, and it could not be read, or it could and was not written. -/
theorem normalizeInto_eq_eachColumn
    (engine : Engine)
    (input : τ)
    (statistics : Statistics F)
    (scales : Array F)
    (out : ω) :
    (normalizeInto T engine input statistics scales out =
      match fitFailure? input statistics scales out with
      | some failure => (.error failure, out)
      | none => eachColumn T input statistics scales out 0 (TableShape.cols input)) ∧
    (fitFailure? input statistics scales out = none →
      ∀ failure left,
        normalizeInto T engine input statistics scales out = (.error failure, left) ↔
          ∃ column < TableShape.cols input, ∃ before,
            eachColumn T input statistics scales out 0 column = (.ok (), before) ∧
              EndsAt T input statistics scales column before failure left) := by
  constructor
  · cases fit : fitFailure? input statistics scales out with
    | some failure => exact normalizeInto_of_unfit engine fit
    | none => exact normalizeInto_of_fits engine fit
  · intro fits failure left
    rw [normalizeInto_of_fits engine fits, eachColumn_eq_error_iff]
    simp only [Nat.zero_add]

/-- The second of three columns can be neither read nor written. Two threads read the first
two columns together; the first one is written all the same, and the failed read is told. -/
theorem normalizeInto_of_guarded_column :
    let unread : Error := .single (.invalidInput (.columnOutOfRange 7 3))
    let unwritten : Error := .single (.invalidInput (.columnOutOfRange 8 3))
    let input : Guarded (Dense Float) :=
      ⟨⟨1, 3, #[1, 2, 3], rfl⟩, fun column => if column = 1 then some unread else none,
        fun _ => none⟩
    let out : Guarded (Dense Float) :=
      ⟨⟨1, 3, #[0, 0, 0], rfl⟩, fun _ => none,
        fun column => if column = 1 then some unwritten else none⟩
    let statistics : Statistics Float := ⟨#[0, 0, 0], #[1, 1, 1]⟩
    fitFailure? input statistics #[1, 1, 1] out = none ∧
      ∃ left, normalizeInto Float ⟨.scalar, .pool 2 (by decide)⟩ input statistics #[1, 1, 1] out =
          (.error unread, left) ∧
        left.table.data = #[1, 0, 0] := by
  intro unread unwritten input out statistics
  have fits : fitFailure? input statistics #[1, 1, 1] out = none := rfl
  have passes : (eachColumn Float input statistics #[1, 1, 1] out 0 1).1.isOk = true := by
    decide +kernel
  have leaves :
      (eachColumn Float input statistics #[1, 1, 1] out 0 1).2.table.data = #[1, 0, 0] := by
    decide +kernel
  rcases started : eachColumn Float input statistics #[1, 1, 1] out 0 1 with ⟨answer, before⟩
  rw [started] at passes leaves
  cases answer with
  | error failure => cases passes
  | ok nothing =>
      obtain ⟨-, ends⟩ := normalizeInto_eq_eachColumn (T := Float) ⟨.scalar, .pool 2 (by decide)⟩
        input statistics #[1, 1, 1] out
      have failed := (ends fits unread before).2 ⟨1, by decide, before, started, .unread rfl⟩
      exact ⟨fits, before, failed, leaves⟩

end Standardize
