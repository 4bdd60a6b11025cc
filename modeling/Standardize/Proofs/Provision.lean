import Standardize.Proofs.Reference

/-!
Contract: the places that a standardization writes into.

Owns:
- `Provided`, by which every place that is asked for holds a table of its shape
  and no other place is filled;
- the allocation, which provides the places or tells the first registered table
  of another shape, as long as the memory serves the places that are empty.

Does not own: what is written into the places.
-/

set_option autoImplicit false

namespace Standardize

open Reference

variable {T F : Type} [Element T F]

/-- The places that are asked for hold tables of their shapes, and no other
place is filled. -/
structure Provided (needed : List Place) (output : Output T) : Prop where
  filled :
    ∀ place ∈ needed, ∃ table, output.get? place.slot = some table ∧
      table.rows = place.rows ∧ table.cols = place.cols
  vacant :
    ∀ slot, (∀ place ∈ needed, place.slot ≠ slot) → output.get? slot = none

/-- The memory grants a fresh table for every place that is asked for and empty. -/
def Serves (memory : Memory) (needed : List Place) (output : Output T) : Prop :=
  ∀ place ∈ needed, output.get? place.slot = none →
    ∃ table : Dense T, Dense.zeros memory place.rows place.cols = .ok table

private theorem shape_of_zeros
    {memory : Memory}
    {rows cols : Nat}
    {table : Dense T}
    (granted : Dense.zeros memory rows cols = .ok table) :
    table.rows = rows ∧ table.cols = cols := by
  unfold Dense.zeros at granted
  split at granted
  · cases granted
    exact ⟨rfl, rfl⟩
  · cases granted

/-- A table that could be had has so many cells that their number is a size. -/
theorem mul_lt_of_zeros
    {memory : Memory}
    {rows cols : Nat}
    {table : Dense T}
    (granted : Dense.zeros memory rows cols = .ok table) :
    rows * cols < Size.limit := by
  cases product : Size.mul? rows cols with
  | some count => exact (Size.fit?_eq_some_iff.1 product).1
  | none =>
      have refused : memory.zeroed T rows cols =
          .error (.single (.allocation (.shapeOverflow rows cols))) := by
        unfold Memory.zeroed Memory.reserve
        rw [product]
        rfl
      unfold Dense.zeros at granted
      split at granted
      · rename_i reserved
        cases refused.symm.trans reserved
      · cases granted

/-- The places for statistics that are asked for. -/
def statisticPlaces
    (parameter : Parameter F)
    (cols : Nat)
    (entries : List (ResultSet × OutputSlot)) :
    List Place :=
  entries.filterMap fun (flag, slot) =>
    if parameter.wants flag then some ⟨slot, 1, cols⟩ else none

omit [Element T F] in
private theorem statisticPlaces_of_wants
    {parameter : Parameter F}
    {flag : ResultSet}
    (wanted : parameter.wants flag = true)
    (cols : Nat)
    (slot : OutputSlot)
    (rest : List (ResultSet × OutputSlot)) :
    statisticPlaces parameter cols ((flag, slot) :: rest) =
      ⟨slot, 1, cols⟩ :: statisticPlaces parameter cols rest := by
  simp [statisticPlaces, wanted]

omit [Element T F] in
private theorem statisticPlaces_of_not_wants
    {parameter : Parameter F}
    {flag : ResultSet}
    (unwanted : ¬parameter.wants flag = true)
    (cols : Nat)
    (slot : OutputSlot)
    (rest : List (ResultSet × OutputSlot)) :
    statisticPlaces parameter cols ((flag, slot) :: rest) =
      statisticPlaces parameter cols rest := by
  simp [statisticPlaces, unwanted]

omit [Element T F] in
private theorem slot_mem_of_mem_statisticPlaces
    {parameter : Parameter F}
    {cols : Nat}
    {entries : List (ResultSet × OutputSlot)}
    {place : Place}
    (member : place ∈ statisticPlaces parameter cols entries) :
    place.slot ∈ entries.map Prod.snd := by
  obtain ⟨⟨flag, slot⟩, inside, asked⟩ := List.mem_filterMap.1 member
  dsimp only at asked
  split at asked
  · cases asked
    exact List.mem_map.2 ⟨_, inside, rfl⟩
  · cases asked

omit [Element T F] in
private theorem places_eq_cons (parameter : Parameter F) (rows cols : Nat) :
    places parameter rows cols =
      ⟨.normalizedData, rows, cols⟩ ::
        statisticPlaces parameter cols Output.statisticSlots := by
  unfold places statisticPlaces Output.statisticSlots
  cases mean : parameter.wants .mean <;> cases variance : parameter.wants .variance <;>
    simp [mean, variance]

private theorem outputFailure?_congr
    {needed : List Place}
    {left right : Output T}
    (same : ∀ place ∈ needed, left.get? place.slot = right.get? place.slot) :
    outputFailure? left needed = outputFailure? right needed := by
  unfold outputFailure?
  induction needed with
  | nil => rfl
  | cons place rest inductionHypothesis =>
      have head : shapeFailure? left place = shapeFailure? right place := by
        unfold shapeFailure?
        rw [same place List.mem_cons_self]
      rw [List.findSome?_cons, List.findSome?_cons, head,
        inductionHypothesis fun other member => same other (List.mem_cons_of_mem _ member)]

/-! ## One place -/

/-- A place that could be provided holds a table of its shape, and no other
place is touched. -/
private theorem ensure_eq_ok
    {memory : Memory}
    {output next : Output T}
    (place : Place)
    (ensured : Output.ensure memory output place.slot place.rows place.cols = .ok next) :
    (∃ table, next.get? place.slot = some table ∧
        table.rows = place.rows ∧ table.cols = place.cols) ∧
      ∀ other, other ≠ place.slot → next.get? other = output.get? other := by
  unfold Output.ensure at ensured
  split at ensured
  · rename_i table registered
    split at ensured
    · rename_i shape
      cases ensured
      exact ⟨⟨table, registered, shape⟩, fun _ _ => rfl⟩
    · cases ensured
  · split at ensured
    · rename_i table granted
      cases ensured
      exact ⟨⟨table, SlotMap.get?_put_self _ _ _, shape_of_zeros granted⟩,
        fun other distinct => SlotMap.get?_put_of_ne _ distinct.symm _⟩
    · cases ensured

/-- Where the memory serves the place, only a registered table of another shape
stands in the way. -/
private theorem failure?_ensure
    {memory : Memory}
    {output : Output T}
    (place : Place)
    (served : output.get? place.slot = none →
      ∃ table : Dense T, Dense.zeros memory place.rows place.cols = .ok table) :
    failure? (Output.ensure memory output place.slot place.rows place.cols) =
      shapeFailure? output place := by
  unfold Output.ensure shapeFailure?
  cases registered : output.get? place.slot with
  | none =>
      obtain ⟨table, granted⟩ := served registered
      dsimp only
      rw [granted]
      rfl
  | some table =>
      dsimp only [Option.bind_some]
      split <;> rfl

/-! ## Places for statistics -/

section Statistics

variable {memory : Memory} {cols : Nat} {parameter : Parameter F}

/-- Places for statistics, once provided: those asked for hold tables of their
shapes, those not asked for are empty, and the rest are untouched. -/
private theorem allocateSlots_eq_ok
    {output next : Output T}
    {entries : List (ResultSet × OutputSlot)}
    (distinct : (entries.map Prod.snd).Nodup)
    (allocated : Output.allocateSlots memory cols parameter output entries = (.ok (), next)) :
    (∀ place ∈ statisticPlaces parameter cols entries, ∃ table,
        next.get? place.slot = some table ∧
          table.rows = place.rows ∧ table.cols = place.cols) ∧
      (∀ slot ∈ entries.map Prod.snd,
        (∀ place ∈ statisticPlaces parameter cols entries, place.slot ≠ slot) →
          next.get? slot = none) ∧
      ∀ slot, slot ∉ entries.map Prod.snd → next.get? slot = output.get? slot := by
  induction entries generalizing output with
  | nil =>
      cases allocated
      exact ⟨by simp [statisticPlaces], by simp, fun _ _ => rfl⟩
  | cons entry rest inductionHypothesis =>
      obtain ⟨flag, slot⟩ := entry
      obtain ⟨fresh, restDistinct⟩ := List.nodup_cons.1 distinct
      rw [Output.allocateSlots] at allocated
      by_cases wanted : parameter.wants flag = true
      · rw [if_pos wanted] at allocated
        rw [statisticPlaces_of_wants wanted]
        split at allocated
        · rename_i between ensured
          obtain ⟨⟨table, held, shape⟩, others⟩ :=
            ensure_eq_ok ⟨slot, 1, cols⟩ ensured
          obtain ⟨filled, vacant, untouched⟩ := inductionHypothesis restDistinct allocated
          refine ⟨?_, ?_, ?_⟩
          · intro place member
            rcases List.mem_cons.1 member with rfl | later
            · exact ⟨table, (untouched slot fresh).trans held, shape⟩
            · exact filled place later
          · intro other member unasked
            rcases List.mem_cons.1 member with rfl | later
            · exact absurd rfl (unasked _ List.mem_cons_self)
            · exact vacant other later
                fun place placeMember => unasked place (List.mem_cons_of_mem _ placeMember)
          · intro other outside
            exact (untouched other (List.not_mem_of_not_mem_cons outside)).trans
              (others other (List.ne_of_not_mem_cons outside))
        · cases allocated
      · rw [if_neg wanted] at allocated
        rw [statisticPlaces_of_not_wants wanted]
        obtain ⟨filled, vacant, untouched⟩ := inductionHypothesis restDistinct allocated
        refine ⟨filled, ?_, ?_⟩
        · intro other member unasked
          rcases List.mem_cons.1 member with rfl | later
          · exact (untouched _ fresh).trans (SlotMap.get?_put_self _ _ _)
          · exact vacant other later unasked
        · intro other outside
          exact (untouched other (List.not_mem_of_not_mem_cons outside)).trans
            (SlotMap.get?_put_of_ne _ (List.ne_of_not_mem_cons outside).symm _)

/-- Where the memory serves the places, the first registered table of another
shape is what their allocation fails with. -/
private theorem failure?_allocateSlots
    {output : Output T}
    {entries : List (ResultSet × OutputSlot)}
    (distinct : (entries.map Prod.snd).Nodup)
    (serves : Serves memory (statisticPlaces parameter cols entries) output) :
    failure? (Output.allocateSlots memory cols parameter output entries).1 =
      outputFailure? output (statisticPlaces parameter cols entries) := by
  induction entries generalizing output with
  | nil => rfl
  | cons entry rest inductionHypothesis =>
      obtain ⟨flag, slot⟩ := entry
      obtain ⟨fresh, restDistinct⟩ := List.nodup_cons.1 distinct
      have elsewhere : ∀ place ∈ statisticPlaces parameter cols rest, place.slot ≠ slot :=
        fun place member same => fresh (same ▸ slot_mem_of_mem_statisticPlaces member)
      -- Providing or emptying a place leaves the later places as they are.
      have carryOn {next : Output T}
          (restServes : Serves memory (statisticPlaces parameter cols rest) output)
          (others : ∀ other, other ≠ slot → next.get? other = output.get? other) :
          failure? (Output.allocateSlots memory cols parameter next rest).1 =
            outputFailure? output (statisticPlaces parameter cols rest) := by
        have same : ∀ place ∈ statisticPlaces parameter cols rest,
            next.get? place.slot = output.get? place.slot :=
          fun place member => others place.slot (elsewhere place member)
        rw [inductionHypothesis restDistinct, outputFailure?_congr same]
        intro place member vacant
        exact restServes place member ((same place member).symm.trans vacant)
      rw [Output.allocateSlots]
      by_cases wanted : parameter.wants flag = true
      · rw [if_pos wanted]
        rw [statisticPlaces_of_wants wanted] at serves ⊢
        have ensured := failure?_ensure ⟨slot, 1, cols⟩
          (serves _ List.mem_cons_self)
        unfold outputFailure?
        rw [List.findSome?_cons, ← ensured]
        cases answered : Output.ensure memory output slot 1 cols with
        | error failure => rfl
        | ok next =>
            exact carryOn (fun place member => serves place (List.mem_cons_of_mem _ member))
              (ensure_eq_ok ⟨slot, 1, cols⟩ answered).2
      · rw [if_neg wanted]
        rw [statisticPlaces_of_not_wants wanted] at serves ⊢
        exact carryOn serves
          fun other differs => SlotMap.get?_put_of_ne _ differs.symm _

end Statistics

/-! ## All places -/

section Allocate

variable {memory : Memory} {rows cols : Nat} {parameter : Parameter F}

private theorem statisticSlots_nodup : (Output.statisticSlots.map Prod.snd).Nodup := by
  decide

private theorem normalizedData_not_mem :
    OutputSlot.normalizedData ∉ Output.statisticSlots.map Prod.snd := by
  decide

/-- **Allocation provides.** What an allocation that succeeds leaves is exactly
what was asked for. -/
theorem provided_of_allocate
    {output next : Output T}
    (allocated : output.allocate memory rows cols parameter = (.ok (), next)) :
    Provided (places parameter rows cols) next := by
  unfold Output.allocate at allocated
  split at allocated
  · rename_i between ensured
    obtain ⟨⟨table, held, shape⟩, others⟩ :=
      ensure_eq_ok ⟨.normalizedData, rows, cols⟩ ensured
    obtain ⟨filled, vacant, untouched⟩ := allocateSlots_eq_ok statisticSlots_nodup allocated
    rw [places_eq_cons]
    constructor
    · intro place member
      rcases List.mem_cons.1 member with rfl | later
      · exact ⟨table, (untouched _ normalizedData_not_mem).trans held, shape⟩
      · exact filled place later
    · intro slot unasked
      cases slot with
      | normalizedData => exact absurd rfl (unasked _ List.mem_cons_self)
      | means =>
          exact vacant .means (by decide)
            fun place member => unasked place (List.mem_cons_of_mem _ member)
      | variances =>
          exact vacant .variances (by decide)
            fun place member => unasked place (List.mem_cons_of_mem _ member)
  · cases allocated

/-- **Only registered tables stand in the way**, as long as the memory serves the
places that are empty. -/
theorem failure?_allocate
    {output : Output T}
    (serves : Serves memory (places parameter rows cols) output) :
    failure? (output.allocate memory rows cols parameter).1 =
      outputFailure? output (places parameter rows cols) := by
  rw [places_eq_cons] at serves ⊢
  have ensured := failure?_ensure ⟨.normalizedData, rows, cols⟩
    (serves _ List.mem_cons_self)
  unfold Output.allocate outputFailure?
  rw [List.findSome?_cons, ← ensured]
  cases answered : Output.ensure memory output .normalizedData rows cols with
  | error failure => rfl
  | ok next =>
      have others := (ensure_eq_ok ⟨.normalizedData, rows, cols⟩ answered).2
      have same : ∀ place ∈ statisticPlaces parameter cols Output.statisticSlots,
          next.get? place.slot = output.get? place.slot := by
        intro place member
        refine others place.slot fun data => normalizedData_not_mem ?_
        rw [← show place.slot = OutputSlot.normalizedData from data]
        exact slot_mem_of_mem_statisticPlaces member
      dsimp only [failure?_ok]
      rw [failure?_allocateSlots statisticSlots_nodup]
      · exact outputFailure?_congr same
      · intro place member vacant
        exact serves place (List.mem_cons_of_mem _ member)
          ((same place member).symm.trans vacant)

end Allocate

/-! ## Places that were provided -/

section Provided

variable {rows cols : Nat} {parameter : Parameter F} {output : Output T}

omit [Element T F]

private theorem flag_unique :
    ∀ left ∈ Output.statisticSlots, ∀ right ∈ Output.statisticSlots,
      left.2 = right.2 → left.1 = right.1 := by
  decide

/-- A place for statistics is filled exactly when it is asked for, by a table of
one row. -/
theorem Provided.statistic
    {flag : ResultSet}
    {slot : OutputSlot}
    (entry : (flag, slot) ∈ Output.statisticSlots)
    (provided : Provided (places parameter rows cols) output) :
    (output.get? slot).isSome = parameter.wants flag ∧
      ∀ table, output.get? slot = some table → table.rows = 1 ∧ table.cols = cols := by
  by_cases wanted : parameter.wants flag = true
  · have member : (⟨slot, 1, cols⟩ : Place) ∈ places parameter rows cols := by
      rw [places_eq_cons]
      exact List.mem_cons_of_mem _ (List.mem_filterMap.2 ⟨_, entry, if_pos wanted⟩)
    obtain ⟨table, held, shape⟩ := provided.filled _ member
    refine ⟨by rw [held, wanted]; rfl, fun other found => ?_⟩
    rw [held] at found
    cases found
    exact shape
  · have vacant : output.get? slot = none := by
      refine provided.vacant slot fun place member same => ?_
      rw [places_eq_cons] at member
      rcases List.mem_cons.1 member with rfl | later
      · exact normalizedData_not_mem (List.mem_map.2 ⟨_, entry, same.symm⟩)
      · obtain ⟨⟨other, otherSlot⟩, inside, asked⟩ := List.mem_filterMap.1 later
        dsimp only at asked
        split at asked
        · rename_i otherWanted
          cases asked
          have sameFlag : other = flag := flag_unique _ inside _ entry same
          exact wanted (sameFlag ▸ otherWanted)
        · cases asked
    refine ⟨by rw [vacant]; simpa using wanted, fun table found => ?_⟩
    rw [vacant] at found
    cases found

theorem Provided.normalizedData
    (provided : Provided (places parameter rows cols) output) :
    ∃ table, output.get? .normalizedData = some table ∧
      table.rows = rows ∧ table.cols = cols :=
  provided.filled ⟨.normalizedData, rows, cols⟩ (by rw [places_eq_cons]; exact List.mem_cons_self)

/-- A table of the same shape may take the data place. -/
theorem Provided.setData
    {table : Dense T}
    (provided : Provided (places parameter rows cols) output)
    (rowsEq : table.rows = rows)
    (colsEq : table.cols = cols) :
    Provided (places parameter rows cols) (output.set .normalizedData table) := by
  constructor
  · intro place member
    rw [places_eq_cons] at member
    rcases List.mem_cons.1 member with rfl | later
    · exact ⟨table, SlotMap.get?_put_self _ _ _, rowsEq, colsEq⟩
    · have differs : OutputSlot.normalizedData ≠ place.slot :=
        fun same => normalizedData_not_mem (same ▸ slot_mem_of_mem_statisticPlaces later)
      rw [SlotMap.set, SlotMap.get?_put_of_ne _ differs]
      refine provided.filled place ?_
      rw [places_eq_cons]
      exact member
  · intro slot unasked
    have differs : OutputSlot.normalizedData ≠ slot :=
      unasked ⟨.normalizedData, rows, cols⟩ (by rw [places_eq_cons]; exact List.mem_cons_self)
    rw [SlotMap.set, SlotMap.get?_put_of_ne _ differs]
    exact provided.vacant slot unasked

end Provided

end Standardize
