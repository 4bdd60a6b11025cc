import Standardize.Xavier.Task

/-!
Contract: initializations that share engines.

Owns:
- `Request`, and a store after requests in order;
- the second reading of such a run, which leaves the store alone: the draws of the
  complete requests, each from the state that the latest draw on its engine left, and
  over the tensor that the latest draw for its result left;
- the faults of a request that is not complete, which leaves everything as it was.

Does not own: kernels. Whether a request is complete is decided by the store before
the first of them: no draw adds an engine or a tensor, and none takes one away.
-/

set_option autoImplicit false

namespace Standardize.Xavier

variable {E L T : Type}

/-! ## Runs of requests -/

/-- A parameter, and the number of the result to initialize. -/
structure Request where
  parameter : Parameter
  result : Nat
deriving DecidableEq, Repr

/-- Initialize in order, each request on the store that the one before it left. -/
def Store.fillAll
    (kernel : E → L → Tensor T → Filled E T) :
    Store E L T → List Request → List Outcome × Store E L T
  | store, [] => ([], store)
  | store, request :: rest =>
      let (outcome, next) := store.fill kernel request.parameter request.result
      let (outcomes, last) := fillAll kernel next rest
      (outcome :: outcomes, last)

/-! ## Draws -/

/-- A run of a kernel: the parts it was for, and what it left. -/
structure Draw (E L T : Type) where
  task : Task E L T
  filled : Filled E T

/-- What the latest draw for an owner left, of draws from the latest to the first;
what there was at first, where none is for it. -/
def latest
    {α : Type}
    (owner : Draw E L T → Nat)
    (left : Draw E L T → α)
    (number : Nat)
    (first : α) :
    List (Draw E L T) → α
  | [] => first
  | draw :: earlier =>
      if owner draw = number then left draw else latest owner left number first earlier

/-- The state of an engine after draws. -/
def stateAfter (draws : List (Draw E L T)) (engine : Nat) (first : E) : E :=
  latest (·.task.engine) (·.filled.engineState) engine first draws

/-- The tensor of a result after draws. -/
def targetAfter (draws : List (Draw E L T)) (result : Nat) (first : Tensor T) : Tensor T :=
  latest (·.task.result) (·.filled.target) result first draws

/-- The draw of a task goes on from the draws before it. -/
def Task.draw
    (kernel : E → L → Tensor T → Filled E T)
    (draws : List (Draw E L T))
    (task : Task E L T) :
    Draw E L T where
  task := task
  filled :=
    kernel (stateAfter draws task.engine task.engineState) task.layerShape
      (targetAfter draws task.result task.target)

/-- The draws of tasks in order, from the latest to the first. -/
def drawAll
    (kernel : E → L → Tensor T → Filled E T)
    (draws : List (Draw E L T)) :
    List (Task E L T) → List (Draw E L T)
  | [] => draws
  | task :: rest => drawAll kernel (task.draw kernel draws :: draws) rest

namespace Store

/-- The parts of a request as they are at first, if it has an engine, a layer and a
tensor. -/
def parts? (store : Store E L T) (request : Request) : Option (Task E L T) :=
  request.parameter.engine?.bind fun engine =>
    request.parameter.layer?.bind fun layer =>
      store.engines[engine]?.bind fun engineState =>
        store.layers[layer]?.bind fun layerShape =>
          (store.target? request.result).map fun target =>
            ⟨engine, engineState, layer, layerShape, request.result, target⟩

/-- What a request lacks: its engine or its layer, and then its tensor. -/
def lacks (store : Store E L T) (request : Request) : List Fault :=
  let engineHeld := (request.parameter.engine?.bind (store.engines[·]?)).isSome
  let layerHeld := (request.parameter.layer?.bind (store.layers[·]?)).isSome
  (bif engineHeld && layerHeld then [] else [.engineOrLayerUnset]) ++
    (bif (store.target? request.result).isSome then [] else [.targetMissing])

/-- The store with every engine and every tensor as the latest draws left it. -/
def after (store : Store E L T) (draws : List (Draw E L T)) : Store E L T where
  engines := store.engines.mapIdx (stateAfter draws)
  layers := store.layers
  results := store.results.mapIdx fun number result =>
    result.modify .value (targetAfter draws number)

end Store

/-- One fault as it is, and more of them together. -/
def reported : List Fault → Error
  | [fault] => .single fault
  | faults => .composite (faults.map .single)

/-- The outcomes of requests after draws: a complete one runs the kernel and answers
what it answers, and another one does not run it and tells what it lacks. -/
def outcomes
    (kernel : E → L → Tensor T → Filled E T)
    (store : Store E L T) :
    List (Draw E L T) → List Request → List Outcome
  | _, [] => []
  | draws, request :: rest =>
      match store.parts? request with
      | none => ⟨false, .error (reported (store.lacks request))⟩ :: outcomes kernel store draws rest
      | some task =>
          let draw := task.draw kernel draws
          ⟨true, draw.filled.answer⟩ :: outcomes kernel store (draw :: draws) rest

/-- Reported together or alone, faults are told as they are. -/
theorem codes_reported (faults : List Fault) : (reported faults).codes = faults := by
  have together : (Error.composite (faults.map .single)).codes = faults := by
    rw [Error.codes, Error.codesOf_eq_flatMap, List.flatMap_map]
    simp only [Error.codes, List.flatMap_singleton']
  unfold reported
  split
  · rw [Error.codes]
  · exact together

/-! ## One request -/

private theorem stateAfter_of_ne
    {draw : Draw E L T}
    {engine : Nat}
    (other : draw.task.engine ≠ engine)
    (draws : List (Draw E L T)) :
    stateAfter (draw :: draws) engine = stateAfter draws engine :=
  funext fun _ => if_neg other

private theorem targetAfter_of_ne
    {draw : Draw E L T}
    {result : Nat}
    (other : draw.task.result ≠ result)
    (draws : List (Draw E L T)) :
    targetAfter (draw :: draws) result = targetAfter draws result :=
  funext fun _ => if_neg other

private theorem stateAfter_self (draw : Draw E L T) (draws : List (Draw E L T)) :
    stateAfter (draw :: draws) draw.task.engine = fun _ => draw.filled.engineState :=
  funext fun _ => if_pos rfl

private theorem targetAfter_self (draw : Draw E L T) (draws : List (Draw E L T)) :
    targetAfter (draw :: draws) draw.task.result = fun _ => draw.filled.target :=
  funext fun _ => if_pos rfl

namespace Store

variable (store : Store E L T) (request : Request)

/-- Gathering the parts of a request finds them all, or tells what it lacks. -/
private theorem task_eq :
    store.task request.parameter request.result =
      match store.parts? request with
      | some task => .ok task
      | none => .error (reported (store.lacks request)) := by
  unfold task parts? lacks engine? layer?
  cases request.parameter.engine? with
  | none => cases store.target? request.result <;> rfl
  | some engine =>
      cases request.parameter.layer? with
      | none =>
          simp only [Option.bind_some]
          cases store.engines[engine]? <;> cases store.target? request.result <;> rfl
      | some layer =>
          simp only [Option.bind_some]
          cases store.engines[engine]? <;> cases store.layers[layer]? <;>
            cases store.target? request.result <;> rfl

private theorem parts?_eq_none_iff : store.parts? request = none ↔ store.lacks request ≠ [] := by
  unfold parts? lacks
  cases request.parameter.engine? with
  | none => simp
  | some engine =>
      cases request.parameter.layer? with
      | none => simp
      | some layer =>
          simp only [Option.bind_some]
          cases store.engines[engine]? <;> cases store.layers[layer]? <;>
            cases store.target? request.result <;> simp

/-! ## Stores after draws -/

variable (draws : List (Draw E L T))

private theorem after_nil : store.after [] = store := by
  unfold after
  have engines : store.engines.mapIdx (stateAfter ([] : List (Draw E L T))) = store.engines := by
    apply Array.ext_getElem?
    intro number
    rw [Array.getElem?_mapIdx]
    exact Option.map_id_apply
  have results : (store.results.mapIdx fun number result =>
      result.modify .value (targetAfter ([] : List (Draw E L T)) number)) = store.results := by
    apply Array.ext_getElem?
    intro number
    rw [Array.getElem?_mapIdx]
    exact (congrArg (Option.map · store.results[number]?)
      (funext fun result => result.modify_id .value)).trans Option.map_id_apply
  rw [engines, results]

private theorem getElem?_engines_after (number : Nat) :
    (store.after draws).engines[number]? =
      store.engines[number]?.map (stateAfter draws number) :=
  Array.getElem?_mapIdx

private theorem size_engines_after : (store.after draws).engines.size = store.engines.size :=
  Array.size_mapIdx

private theorem getElem?_results_after (number : Nat) :
    (store.after draws).results[number]? =
      store.results[number]?.map (·.modify .value (targetAfter draws number)) :=
  Array.getElem?_mapIdx

private theorem target?_after (result : Nat) :
    (store.after draws).target? result =
      (store.target? result).map (targetAfter draws result) := by
  unfold target?
  rw [getElem?_results_after]
  cases store.results[result]? with
  | none => rfl
  | some held => exact held.get?_modify_self .value (targetAfter draws result)

private theorem layers_after : (store.after draws).layers = store.layers :=
  rfl

/-- What a request has, it has after any draws, as they left it. -/
theorem parts?_after :
    (store.after draws).parts? request =
      (store.parts? request).map fun task =>
        { task with
          engineState := stateAfter draws task.engine task.engineState
          target := targetAfter draws task.result task.target } := by
  unfold parts?
  cases request.parameter.engine? with
  | none => rfl
  | some engine =>
      cases request.parameter.layer? with
      | none => rfl
      | some layer =>
          simp only [Option.bind_some, getElem?_engines_after, layers_after, target?_after]
          cases store.engines[engine]? <;> cases store.layers[layer]? <;>
            cases store.target? request.result <;> rfl

/-- What a request lacks, it lacks after any draws. -/
theorem lacks_after : (store.after draws).lacks request = store.lacks request := by
  unfold lacks
  simp only [getElem?_engines_after, layers_after, target?_after, Option.isSome_map,
    Option.isSome_bind]

variable {store request} in
private theorem target?_of_parts?
    {task : Task E L T}
    (complete : store.parts? request = some task) :
    store.target? task.result = some task.target := by
  unfold parts? at complete
  simp only [Option.bind_eq_some_iff, Option.map_eq_some_iff] at complete
  obtain ⟨engine, -, layer, -, engineState, -, layerShape, -, target, held, rfl⟩ := complete
  exact held

variable {store} in
/-- **A draw is committed** to the state of its engine and to the tensor of its result,
and to nothing else. -/
theorem commit_after
    {task current : Task E L T}
    (held : store.target? task.result = some task.target)
    (sameEngine : current.engine = task.engine)
    (sameResult : current.result = task.result)
    (filled : Filled E T) :
    (store.after draws).commit current filled = store.after (⟨task, filled⟩ :: draws) := by
  have engines : (store.after draws).engines.setIfInBounds current.engine filled.engineState =
      store.engines.mapIdx (stateAfter (⟨task, filled⟩ :: draws)) := by
    apply Array.ext_getElem?
    intro number
    rw [Array.getElem?_setIfInBounds, Array.getElem?_mapIdx, sameEngine]
    by_cases own : task.engine = number
    · subst own
      rw [if_pos rfl, stateAfter_self ⟨task, filled⟩ draws, size_engines_after]
      by_cases inside : task.engine < store.engines.size
      · rw [if_pos inside, Array.getElem?_eq_getElem inside]
        rfl
      · rw [if_neg inside, Array.getElem?_eq_none (by omega)]
        rfl
    · rw [if_neg own, stateAfter_of_ne own, getElem?_engines_after]
  have results : (store.after draws).results.modify current.result (fillResult · filled.target) =
      store.results.mapIdx fun number result =>
        result.modify .value (targetAfter (⟨task, filled⟩ :: draws) number) := by
    apply Array.ext_getElem?
    intro number
    rw [Array.getElem?_modify, Array.getElem?_mapIdx, getElem?_results_after, sameResult]
    by_cases own : task.result = number
    · subst own
      rw [if_pos rfl, targetAfter_self ⟨task, filled⟩ draws]
      unfold target? at held
      obtain ⟨result, found, value⟩ := Option.bind_eq_some_iff.1 held
      rw [found]
      exact congrArg some (SlotMap.set_modify value _ _)
    · rw [if_neg own, targetAfter_of_ne own]
  unfold commit
  rw [engines, results]
  rfl

/-- **One request.** After draws, a complete request adds its draw to them, and another
one adds nothing. -/
theorem fill_after (kernel : E → L → Tensor T → Filled E T) :
    (store.after draws).fill kernel request.parameter request.result =
      match store.parts? request with
      | none => (⟨false, .error (reported (store.lacks request))⟩, store.after draws)
      | some task =>
          let draw := task.draw kernel draws
          (⟨true, draw.filled.answer⟩, store.after (draw :: draws)) := by
  unfold fill
  rw [task_eq, parts?_after, lacks_after]
  cases complete : store.parts? request with
  | none => rfl
  | some task =>
      refine congrArg (Prod.mk _) ?_
      exact commit_after draws (target?_of_parts? complete) rfl rfl _

end Store

/-! ## Runs -/

/-- **Requests in order** add the draws of the complete ones, in order. -/
theorem fillAll_after
    (kernel : E → L → Tensor T → Filled E T)
    (store : Store E L T)
    (draws : List (Draw E L T))
    (requests : List Request) :
    (store.after draws).fillAll kernel requests =
      (outcomes kernel store draws requests,
        store.after (drawAll kernel draws (requests.filterMap store.parts?))) := by
  induction requests generalizing draws with
  | nil => rfl
  | cons request rest inductionHypothesis =>
      rw [Store.fillAll, store.fill_after, outcomes, List.filterMap_cons]
      cases store.parts? request with
      | none =>
          dsimp only
          rw [inductionHypothesis]
      | some task =>
          dsimp only
          rw [inductionHypothesis, drawAll]

/-- **Shared engines.** Requests in order leave and answer what the draws of the
complete ones leave and answer: each goes on from the state of its engine where the
latest draw on that engine left it, and changes that state and the tensor of its own
result. A request that lacks something is never drawn: whatever was requested before, it
fails with what it lacks and leaves the store that it came upon. -/
theorem fillAll_eq_draws
    (kernel : E → L → Tensor T → Filled E T)
    (store : Store E L T)
    (requests : List Request) :
    store.fillAll kernel requests =
        (outcomes kernel store [] requests,
          store.after (drawAll kernel [] (requests.filterMap store.parts?))) ∧
      ∀ request,
        (store.parts? request = none ↔ store.lacks request ≠ []) ∧
          (store.lacks request ≠ [] →
            (store.fillAll kernel requests).2.fill kernel request.parameter request.result =
                (⟨false, .error (reported (store.lacks request))⟩,
                  (store.fillAll kernel requests).2) ∧
              (reported (store.lacks request)).codes = store.lacks request) := by
  have run := fillAll_after kernel store [] requests
  rw [store.after_nil] at run
  refine ⟨run, fun request => ⟨store.parts?_eq_none_iff request, fun lacking => ?_⟩⟩
  refine ⟨?_, codes_reported _⟩
  rw [run, store.fill_after, (store.parts?_eq_none_iff request).2 lacking]

/-- Kernels that write where the engine stands: the third request goes on where the first
one stopped, and one that has neither a layer nor a tensor is not drawn, neither between
them nor after them. -/
theorem fillAll_eq_draws_of_counting_kernel :
    let kernel : Nat → Unit → Tensor Nat → Filled Nat Nat := fun engine _ target =>
      ⟨engine + target.size, target.map fun _ => engine, .ok ()⟩
    let store : Store Nat Unit Nat :=
      ⟨#[7], #[()],
        #[.withValue ⟨[2], #[0, 0]⟩, SlotMap.empty, .withValue ⟨[1], #[0]⟩]⟩
    let incomplete : Request := ⟨⟨some 0, none⟩, 1⟩
    let run := store.fillAll kernel [⟨⟨some 0, some 0⟩, 0⟩, incomplete, ⟨⟨some 0, some 0⟩, 2⟩]
    run.1.map Outcome.ran = [true, false, true] ∧
      run.2.engines = #[10] ∧
      (run.2.target? 2).map Tensor.data = some #[9] ∧
      store.lacks incomplete = [.engineOrLayerUnset, .targetMissing] ∧
      run.2.fill kernel incomplete.parameter incomplete.result =
        (⟨false, .error (.composite [.single .engineOrLayerUnset, .single .targetMissing])⟩,
          run.2) := by
  intro kernel store incomplete run
  obtain ⟨drawn, each⟩ :=
    fillAll_eq_draws kernel store [⟨⟨some 0, some 0⟩, 0⟩, incomplete, ⟨⟨some 0, some 0⟩, 2⟩]
  have lacks : store.lacks incomplete = [.engineOrLayerUnset, .targetMissing] := rfl
  have refused := ((each incomplete).2 (lacks ▸ List.cons_ne_nil _ _)).1
  rw [lacks] at refused
  refine ⟨?_, ?_, ?_, lacks, refused⟩ <;> dsimp only [run] <;> rw [drawn] <;> decide +kernel

end Standardize.Xavier
