import Standardize.Batch
import Standardize.Proofs.Outcome

/-!
Contract: what batches show after any history of use.

Owns:
- `Use`, one operation on one of several batches; a copy joins them at the end;
- the outputs that a history puts into batches, registered ones and those of
  computations that succeed: no batch ever holds another, an empty one apart;
- a computation that fails, after which the result shows nothing. The one failure
  that leaves a result as it was is that of a missing input.

Does not own: what a computation fails with when it has an input and a result.
-/

set_option autoImplicit false

namespace Standardize

variable {τ T F : Type}

/-! ## One computation -/

namespace Batch

/-- Every place of the result, if there is a result, is empty. -/
def ShowsNothing (batch : Batch τ T F) : Prop :=
  ∀ output, batch.result? = some output → ∀ slot : OutputSlot, output.get? slot = none

private theorem showsNothing_of_empty
    {batch : Batch τ T F}
    (empty : batch.result? = some SlotMap.empty) :
    batch.ShowsNothing := by
  intro output held slot
  rw [empty] at held
  cases held
  exact SlotMap.get?_empty slot

/-- The cells of the standardized data, if there are any. -/
def shown (batch : Batch τ T F) : Option (Array T) :=
  (batch.result?.bind fun output => output.get? .normalizedData).map Dense.data

private theorem not_showsNothing_of_shown
    {batch : Batch τ T F}
    {data : Array T}
    (shown : batch.shown = some data) :
    ¬batch.ShowsNothing := by
  intro nothing
  unfold Batch.shown at shown
  cases held : batch.result? with
  | none =>
      rw [held] at shown
      cases shown
  | some output =>
      rw [held, Option.bind_some, nothing output held .normalizedData] at shown
      cases shown

variable [Arithmetic F] [Element T F] [TableShape τ] [TableAccess τ T]

/-- A missing input is found first, and the result is left as it is. -/
private theorem compute_of_unset
    (memory : Memory)
    {batch : Batch τ T F}
    (unset : batch.input? = none) :
    batch.compute memory = (.error (.single .inputUnset), batch) := by
  unfold Batch.compute
  rw [unset]
  rfl

/-- With an input, a computation finds no result, or it answers with the result that
it leaves, or it fails and leaves an empty result. -/
private theorem compute_cases
    (memory : Memory)
    {batch : Batch τ T F}
    {input : SharedInput τ}
    (given : batch.input? = some input) :
    batch.result? = none ∧ batch.compute memory = (.error (.single .resultUnset), batch) ∨
      (∃ written,
        batch.compute memory = (.ok written, { batch with result? := some written })) ∨
      ∃ failure,
        batch.compute memory =
          (.error failure, { batch with result? := some SlotMap.empty }) := by
  unfold Batch.compute
  rw [given]
  cases held : batch.result? with
  | none => exact .inl ⟨rfl, rfl⟩
  | some output =>
      right
      dsimp only
      cases outcome : run memory batch.engine input.table batch.parameter output with
      | ok written =>
          rw [compute_of_ok outcome]
          exact .inl ⟨written, rfl⟩
      | error failure =>
          rw [compute_of_error outcome]
          exact .inr ⟨failure, rfl⟩

/-- With an input, a computation that fails leaves a result that shows nothing. -/
theorem showsNothing_of_failed
    {memory : Memory}
    {batch next : Batch τ T F}
    {input : SharedInput τ}
    {failure : Error}
    (given : batch.input? = some input)
    (failed : batch.compute memory = (.error failure, next)) :
    next.ShowsNothing := by
  rcases compute_cases memory given with
    ⟨missing, unchanged⟩ | ⟨written, succeeded⟩ | ⟨cause, emptied⟩
  · cases unchanged.symm.trans failed
    intro output held
    rw [missing] at held
    cases held
  · cases succeeded.symm.trans failed
  · cases emptied.symm.trans failed
    exact showsNothing_of_empty rfl

/-- What a batch holds after a computation is the answer, or it held it before, or it
is empty. -/
private theorem held_compute
    (memory : Memory)
    {batch : Batch τ T F}
    {output : Output T}
    (held : (batch.compute memory).2.result? = some output) :
    output = SlotMap.empty ∨
      (batch.compute memory).1 = .ok output ∨ batch.result? = some output := by
  cases given : batch.input? with
  | none =>
      rw [compute_of_unset memory given] at held
      exact .inr (.inr held)
  | some input =>
      rcases compute_cases memory given with
        ⟨-, unchanged⟩ | ⟨written, succeeded⟩ | ⟨cause, emptied⟩
      · rw [unchanged] at held
        exact .inr (.inr held)
      · rw [succeeded] at held ⊢
        cases held
        exact .inr (.inl rfl)
      · rw [emptied] at held
        cases held
        exact .inl rfl

end Batch

/-! ## Histories -/

/-- What can be done with a batch. -/
inductive Operation (τ T F : Type) where
  | setInput (input : SharedInput τ)
  | clearInput
  | setParameter (parameter : Parameter F)
  | setResult (output : Output T)
  | takeResult
  | compute (memory : Memory)
  | copy

/-- An operation on the batch with a number. -/
structure Use (τ T F : Type) where
  number : Nat
  operation : Operation τ T F

section Histories

variable [Arithmetic F] [Element T F] [TableShape τ] [TableAccess τ T]

namespace Operation

/-- The batch after an operation on it. A copy leaves it as it is. -/
def on (batch : Batch τ T F) : Operation τ T F → Batch τ T F
  | setInput input => batch.setInput input
  | clearInput => batch.clearInput
  | setParameter parameter => batch.setParameter parameter
  | setResult output => batch.setResult output
  | takeResult => batch.takeResult.2
  | compute memory => (batch.compute memory).2
  | copy => batch

/-- The batches that an operation adds. -/
def added (batch : Batch τ T F) : Operation τ T F → List (Batch τ T F)
  | copy => [batch.copy]
  | _ => []

/-- The outputs that an operation puts into a batch: one that is registered, or the
answer of a computation that succeeds. -/
def puts (batch : Batch τ T F) : Operation τ T F → List (Output T)
  | setResult output => [output]
  | compute memory => (batch.compute memory).1.toOption.toList
  | _ => []

/-- What a batch holds after an operation was put into it, or it held it before, or it
is empty. -/
private theorem held_on
    {batch : Batch τ T F}
    (operation : Operation τ T F)
    {output : Output T}
    (held : (operation.on batch).result? = some output) :
    output = SlotMap.empty ∨ output ∈ operation.puts batch ∨ batch.result? = some output := by
  cases operation with
  | setInput input => exact .inr (.inr held)
  | clearInput => exact .inr (.inr held)
  | setParameter parameter => exact .inr (.inr held)
  | copy => exact .inr (.inr held)
  | setResult registered =>
      cases held
      exact .inr (.inl List.mem_cons_self)
  | takeResult => cases held
  | compute memory =>
      refine (Batch.held_compute memory held).imp_right fun source =>
        source.imp_left fun succeeded => ?_
      change output ∈ (batch.compute memory).1.toOption.toList
      rw [succeeded]
      exact List.mem_cons_self

end Operation

namespace Use

/-- The batches after a use. A number that none has does nothing. -/
def step (batches : List (Batch τ T F)) (use : Use τ T F) : List (Batch τ T F) :=
  match batches[use.number]? with
  | none => batches
  | some batch => batches.set use.number (use.operation.on batch) ++ use.operation.added batch

def puts (batches : List (Batch τ T F)) (use : Use τ T F) : List (Output T) :=
  match batches[use.number]? with
  | none => []
  | some batch => use.operation.puts batch

/-- The batches that a history leaves. -/
def after (batches : List (Batch τ T F)) : List (Use τ T F) → List (Batch τ T F)
  | [] => batches
  | use :: rest => after (use.step batches) rest

/-- The outputs that a history puts into batches, in order. -/
def allPuts (batches : List (Batch τ T F)) : List (Use τ T F) → List (Output T)
  | [] => []
  | use :: rest => use.puts batches ++ allPuts (use.step batches) rest

/-- Some batch has an output as its result. -/
def Held (batches : List (Batch τ T F)) (output : Output T) : Prop :=
  ∃ batch ∈ batches, batch.result? = some output

/-- What is held after a use was put by it, or it was held before, or it is empty. -/
theorem held_step
    {batches : List (Batch τ T F)}
    (use : Use τ T F)
    {output : Output T}
    (held : Held (use.step batches) output) :
    output = SlotMap.empty ∨ output ∈ use.puts batches ∨ Held batches output := by
  obtain ⟨other, member, result⟩ := held
  unfold step at member
  unfold puts
  cases found : batches[use.number]? with
  | none =>
      rw [found] at member
      exact .inr (.inr ⟨other, member, result⟩)
  | some batch =>
      rw [found] at member
      rcases List.mem_append.1 member with kept | joined
      · rcases List.mem_or_eq_of_mem_set kept with kept | rfl
        · exact .inr (.inr ⟨other, kept, result⟩)
        · exact (use.operation.held_on result).imp_right fun source =>
            source.imp_right fun before => ⟨batch, List.mem_of_getElem? found, before⟩
      · -- Only a copy joins, and its result is empty.
        left
        cases copied : use.operation with
        | copy =>
            rw [copied] at joined
            cases List.mem_singleton.1 joined
            cases result
            rfl
        | _ =>
            rw [copied] at joined
            cases joined

/-- **Nothing shows but what was put.** Every output that is held after a history was
held before it, or the history put it, or it is empty. -/
theorem held_after
    {batches : List (Batch τ T F)}
    (history : List (Use τ T F))
    {output : Output T}
    (held : Held (after batches history) output) :
    output = SlotMap.empty ∨ output ∈ allPuts batches history ∨ Held batches output := by
  induction history generalizing batches with
  | nil => exact .inr (.inr held)
  | cons use rest inductionHypothesis =>
      rw [allPuts, List.mem_append]
      rcases inductionHypothesis held with empty | later | between
      · exact .inl empty
      · exact .inr (.inl (.inr later))
      · rcases held_step use between with empty | now | before
        · exact .inl empty
        · exact .inr (.inl (.inl now))
        · exact .inr (.inr before)

end Use

/-! ## Failed computations -/

/-- **What a failed computation shows.** After any history, a computation that fails
leaves a result that shows nothing, or no result, exactly when the batch had an input
or showed nothing before. Without an input that is what it fails for, and the batch
stays as it is: what it shows was put by the history. -/
theorem showsNothing_iff_of_failed
    (engine : Engine)
    (parameter : Parameter F)
    (history : List (Use τ T F))
    {batch next : Batch τ T F}
    (reached : batch ∈ Use.after [Batch.withParameter engine parameter] history)
    {memory : Memory}
    {failure : Error}
    (failed : batch.compute memory = (.error failure, next)) :
    (next.ShowsNothing ↔ batch.input? ≠ none ∨ batch.ShowsNothing) ∧
      (batch.input? = none → failure = .single .inputUnset ∧ next = batch) ∧
      ∀ output, next.result? = some output →
        output = SlotMap.empty ∨
          output ∈ Use.allPuts [Batch.withParameter engine parameter] history := by
  have unset : batch.input? = none → failure = .single .inputUnset ∧ next = batch := by
    intro unset
    cases (Batch.compute_of_unset memory unset).symm.trans failed
    exact ⟨rfl, rfl⟩
  refine ⟨?_, unset, ?_⟩
  · cases given : batch.input? with
    | none =>
        rw [(unset given).2]
        exact ⟨.inr, fun either => either.resolve_left fun some => some rfl⟩
    | some input =>
        exact ⟨fun _ => .inl (Option.some_ne_none input),
          fun _ => Batch.showsNothing_of_failed given failed⟩
  · intro output held
    have left : (batch.compute memory).2.result? = some output := by
      rw [failed]
      exact held
    rcases Batch.held_compute memory left with empty | succeeded | before
    · exact .inl empty
    · rw [failed] at succeeded
      cases succeeded
    · rcases Use.held_after history ⟨batch, reached, before⟩ with empty | put | first
      · exact .inl empty
      · exact .inr put
      · obtain ⟨fresh, member, result⟩ := first
        cases List.mem_singleton.1 member
        cases result
        exact .inl rfl

end Histories

/-- A batch that shows a standardization is copied, and then gets a column that is
refused. -/
theorem showsNothing_of_refused_column :
    let start : Batch (Dense Float) Float Float :=
      Batch.withParameter (Engine.sequential .scalar) Parameter.standard
    let history : List (Use (Dense Float) Float Float) :=
      [⟨0, .setInput ⟨0, ⟨2, 1, #[1, 3], rfl⟩⟩⟩, ⟨0, .compute Memory.unbounded⟩, ⟨0, .copy⟩,
        ⟨0, .setParameter { zeroVariance := .reject }⟩, ⟨0, .setInput ⟨1, ⟨2, 1, #[5, 5], rfl⟩⟩⟩]
    ∃ batch ∈ Use.after [start] history, batch.shown = some #[-1, 1] ∧
      ∃ failure next,
        batch.compute Memory.unbounded = (.error failure, next) ∧ next.ShowsNothing := by
  intro start history
  let showing : Batch (Dense Float) Float Float :=
    ((start.setInput ⟨0, ⟨2, 1, #[1, 3], rfl⟩⟩).compute Memory.unbounded).2
  let batch : Batch (Dense Float) Float Float :=
    (showing.setParameter { zeroVariance := .reject }).setInput ⟨1, ⟨2, 1, #[5, 5], rfl⟩⟩
  have reached : batch ∈ Use.after [start] history := List.mem_cons_self
  have shown : batch.shown = some #[-1, 1] := by decide +kernel
  have refused : (batch.compute Memory.unbounded).1.isOk = false := by decide +kernel
  refine ⟨batch, reached, shown, ?_⟩
  rcases outcome : batch.compute Memory.unbounded with ⟨answer, next⟩
  rw [outcome] at refused
  cases answer with
  | ok written => cases refused
  | error failure =>
      obtain ⟨iff, -, -⟩ := showsNothing_iff_of_failed (Engine.sequential .scalar)
        Parameter.standard history reached outcome
      exact ⟨failure, next, rfl, iff.2 (.inl (Option.some_ne_none _))⟩

/-- A batch that shows a standardization loses its input, and goes on showing it after
the computation that fails for that. -/
theorem stale_of_cleared_input :
    let start : Batch (Dense Float) Float Float :=
      Batch.withParameter (Engine.sequential .scalar) Parameter.standard
    let history : List (Use (Dense Float) Float Float) :=
      [⟨0, .setInput ⟨0, ⟨2, 1, #[1, 3], rfl⟩⟩⟩, ⟨0, .compute Memory.unbounded⟩, ⟨0, .clearInput⟩]
    ∃ batch ∈ Use.after [start] history, ∃ next,
      batch.compute Memory.unbounded = (.error (.single .inputUnset), next) ∧
        next.shown = some #[-1, 1] ∧ ¬next.ShowsNothing := by
  intro start history
  have shown : (start.setInput ⟨0, ⟨2, 1, #[1, 3], rfl⟩⟩ |>.compute Memory.unbounded).2.shown =
      some #[-1, 1] := by
    decide +kernel
  exact ⟨_, List.mem_cons_self, _, rfl, shown, Batch.not_showsNothing_of_shown shown⟩

end Standardize
