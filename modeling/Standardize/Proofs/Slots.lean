import Mathlib.Data.Set.Card
import Standardize.Output
import Standardize.Slots.Stored

/-!
Contract: slot maps are partial maps from keys to values.

Owns:
- partial maps as a kind of maps, and journals, which remember only what was done: the value
  of a key is that of its last insertion, as it was changed since, unless it was taken or
  cleared after;
- `Represents`, by which maps of two kinds reply alike to all commands;
- slot maps of which only the places of keys are filled. They represent partial maps, and are
  represented by their stored places, where every place that is looked up is there;
- the maps and keys that a command leaves alone.

Does not own: which keys an algorithm uses.
-/

set_option autoImplicit false

namespace Standardize

open SlotMap (Action Command Reply MapKind)

variable {K V M N : Type}

/-! ## Partial maps -/

/-- The values of some of the keys. -/
abbrev PartialMap (K V : Type) :=
  K → Option V

noncomputable section

open scoped Classical

namespace PartialMap

/-- The keys that have a value. -/
def keys (map : PartialMap K V) : Set K :=
  {key | map key ≠ none}

/-- Two maps have values for the same keys, and the same value for each. -/
def Agree (same : V → V → Bool) (left right : PartialMap K V) : Prop :=
  ∀ key, Option.Rel (fun first second => same first second = true) (left key) (right key)

def act (map : PartialMap K V) : Action K V → Reply V × PartialMap K V
  | .get key => (.content (map key), map)
  | .contains key => (.truth (decide (key ∈ keys map)), map)
  | .size => (.count (keys map).ncard, map)
  | .isEmpty => (.truth (decide (keys map = ∅)), map)
  | .insert key value => (.content (map key), Function.update map key (some value))
  | .modify key change =>
      (.content ((map key).map change), Function.update map key ((map key).map change))
  | .take key => (.content (map key), Function.update map key none)
  | .clear => (.done, fun _ => none)

def kind (same : V → V → Bool) : MapKind K V (PartialMap K V) where
  empty := fun _ => none
  act? := fun map action => some (act map action)
  equal := fun left right => decide (Agree same left right)

/-- With values compared by equality, maps agree just if they are equal. -/
theorem agree_iff_eq
    {same : V → V → Bool}
    (equality : ∀ first second, same first second = true ↔ first = second)
    {left right : PartialMap K V} :
    Agree same left right ↔ left = right := by
  simp only [Agree, equality]
  constructor
  · intro agree
    funext key
    have sameValue := agree key
    revert sameValue
    cases left key <;> cases right key <;> simp
  · rintro rfl key
    cases left key with
    | none => exact .none
    | some value => exact .some rfl

end PartialMap

/-- What was done with a map, the latest first. -/
abbrev Journal (K V : Type) :=
  List (Action K V)

namespace Journal

/-- The value of a key: that of its last insertion, as it was changed since, unless it was
taken or cleared after. -/
def lastValue (key : K) : Journal K V → Option V
  | [] => none
  | .insert other value :: earlier =>
      if key = other then some value else lastValue key earlier
  | .modify other change :: earlier =>
      if key = other then (lastValue key earlier).map change else lastValue key earlier
  | .take other :: earlier => if key = other then none else lastValue key earlier
  | .clear :: _ => none
  | .get _ :: earlier => lastValue key earlier
  | .contains _ :: earlier => lastValue key earlier
  | .size :: earlier => lastValue key earlier
  | .isEmpty :: earlier => lastValue key earlier

/-- The last values of all keys. -/
def lastValues (journal : Journal K V) : PartialMap K V :=
  fun key => lastValue key journal

/-- Journals as a kind of maps: whatever is done with one is added to it. -/
def kind (same : V → V → Bool) : MapKind K V (Journal K V) where
  empty := []
  act? := fun journal action =>
    some ((PartialMap.act journal.lastValues action).1, action :: journal)
  equal := fun left right => decide (PartialMap.Agree same left.lastValues right.lastValues)

end Journal

/-! ## Kinds of maps that reply alike -/

/-- A command leaves the maps as they are, or one joins them at the end, or it acts on one
of them. -/
theorem SlotMap.MapKind.step?_cases
    {kind : MapKind K V M}
    {maps next : List M}
    {command : Command K V}
    {reply : Reply V}
    (stepped : kind.step? maps command = some (reply, next)) :
    next = maps ∨ (∃ map, next = maps ++ [map]) ∨
      ∃ number action map later,
        command = .act number action ∧ maps[number]? = some map ∧
          kind.act? map action = some (reply, later) ∧ next = maps.set number later := by
  cases command with
  | create =>
      cases stepped
      exact .inr (.inl ⟨_, rfl⟩)
  | copy number =>
      rw [step?] at stepped
      split at stepped
      · cases stepped
        exact .inr (.inl ⟨_, rfl⟩)
      · cases stepped
        exact .inl rfl
  | equal left right =>
      rw [step?] at stepped
      split at stepped <;> cases stepped <;> exact .inl rfl
  | act number action =>
      rw [step?] at stepped
      split at stepped
      · rename_i map found
        obtain ⟨⟨_, later⟩, acted, same⟩ := Option.map_eq_some_iff.1 stepped
        cases same
        exact .inr (.inr ⟨number, action, map, later, rfl, found, acted, rfl⟩)
      · cases stepped
        exact .inl rfl

/-- Maps of one kind, as long as they keep a property, have images of another kind that are
made, used and compared alike. -/
structure Represents
    (kind : MapKind K V M)
    (other : MapKind K V N)
    (Kept : M → Prop)
    (image : M → N) :
    Prop where
  kept_empty : Kept kind.empty
  image_empty : image kind.empty = other.empty
  act :
    ∀ map, Kept map → ∀ action, ∃ reply next,
      kind.act? map action = some (reply, next) ∧
        other.act? (image map) action = some (reply, image next) ∧ Kept next
  equal :
    ∀ left right, Kept left → Kept right →
      other.equal (image left) (image right) = kind.equal left right

namespace Represents

variable
  {kind : MapKind K V M}
  {other : MapKind K V N}
  {Kept : M → Prop}
  {image : M → N}

/-- Images reply to a command as the maps do. -/
theorem step?
    (represents : Represents kind other Kept image)
    {maps : List M}
    (kept : ∀ map ∈ maps, Kept map)
    (command : Command K V) :
    ∃ reply next,
      kind.step? maps command = some (reply, next) ∧
        other.step? (maps.map image) command = some (reply, next.map image) ∧
        ∀ map ∈ next, Kept map := by
  have known {number : Nat} {map : M} (found : maps[number]? = some map) : Kept map :=
    kept map (List.mem_of_getElem? found)
  have joined {map : M} (mapKept : Kept map) : ∀ later ∈ maps ++ [map], Kept later := by
    simpa [or_imp, forall_and] using ⟨kept, mapKept⟩
  cases command with
  | create =>
      refine ⟨.done, maps ++ [kind.empty], rfl, ?_, joined represents.kept_empty⟩
      simp [MapKind.step?, represents.image_empty]
  | copy number =>
      cases found : maps[number]? with
      | none => refine ⟨.unknown, maps, ?_, ?_, kept⟩ <;> simp [MapKind.step?, found]
      | some map =>
          refine ⟨.done, maps ++ [map], ?_, ?_, joined (known found)⟩ <;>
            simp [MapKind.step?, found]
  | equal left right =>
      cases first : maps[left]? with
      | none => refine ⟨.unknown, maps, ?_, ?_, kept⟩ <;> simp [MapKind.step?, first]
      | some leftMap =>
          cases second : maps[right]? with
          | none => refine ⟨.unknown, maps, ?_, ?_, kept⟩ <;> simp [MapKind.step?, first, second]
          | some rightMap =>
              have same := represents.equal leftMap rightMap (known first) (known second)
              refine ⟨.truth (kind.equal leftMap rightMap), maps, ?_, ?_, kept⟩
              · simp [MapKind.step?, first, second]
              · simp [MapKind.step?, first, second, same]
  | act number action =>
      cases found : maps[number]? with
      | none => refine ⟨.unknown, maps, ?_, ?_, kept⟩ <;> simp [MapKind.step?, found]
      | some map =>
          obtain ⟨reply, next, acted, imageActed, nextKept⟩ :=
            represents.act map (known found) action
          refine ⟨reply, maps.set number next, ?_, ?_, ?_⟩
          · simp [MapKind.step?, found, acted]
          · simp [MapKind.step?, found, imageActed, List.map_set]
          · intro later member
            rcases List.mem_or_eq_of_mem_set member with before | rfl
            · exact kept later before
            · exact nextKept

/-- Images reply to commands in order as the maps do. -/
theorem run?
    (represents : Represents kind other Kept image)
    {maps : List M}
    (kept : ∀ map ∈ maps, Kept map)
    (commands : List (Command K V)) :
    ∃ replies last,
      kind.run? maps commands = some (replies, last) ∧
        other.run? (maps.map image) commands = some (replies, last.map image) ∧
        ∀ map ∈ last, Kept map := by
  induction commands generalizing maps with
  | nil => exact ⟨[], maps, rfl, rfl, kept⟩
  | cons command rest inductionHypothesis =>
      obtain ⟨reply, next, stepped, imageStepped, nextKept⟩ := represents.step? kept command
      obtain ⟨replies, last, ran, imageRan, lastKept⟩ := inductionHypothesis nextKept
      refine ⟨reply :: replies, last, ?_, ?_, lastKept⟩
      · simp [MapKind.run?, stepped, ran]
      · simp [MapKind.run?, imageStepped, imageRan]

end Represents

/-- A journal tells the last value of each key. -/
theorem Journal.represents (same : V → V → Bool) :
    Represents (Journal.kind (K := K) same) (PartialMap.kind same) (fun _ => True) lastValues where
  kept_empty := trivial
  image_empty := rfl
  equal := fun _ _ _ _ => rfl
  act := by
    intro journal _ action
    refine ⟨_, _, rfl, ?_, trivial⟩
    have after : (PartialMap.act journal.lastValues action).2 = lastValues (action :: journal) := by
      funext key
      cases action with
      | insert other value => simp [PartialMap.act, lastValues, lastValue, Function.update_apply]
      | modify other change =>
          by_cases here : key = other
          · subst here
            simp [PartialMap.act, lastValues, lastValue]
          · simp [PartialMap.act, lastValues, lastValue, here]
      | take other => simp [PartialMap.act, lastValues, lastValue, Function.update_apply]
      | _ => rfl
    rw [← after]
    rfl

/-! ## Values of keys -/

namespace SlotMap

variable [SlotKey K]

theorem index_injective : Function.Injective (SlotKey.index : K → Fin (SlotKey.count K)) :=
  SlotKey.index_injective

/-- Refilling the place of a key changes the value of that key only. -/
private theorem get?_put_eq_update (map : SlotMap K V) (key : K) (content : Option V) :
    (map.put key content).get? = Function.update map.get? key content := by
  funext other
  rw [get?_put, Function.update_apply]
  simp only [index_injective.eq_iff, eq_comm]

private theorem modify_of_none
    {map : SlotMap K V}
    {key : K}
    (missing : map.get? key = none)
    (change : V → V) :
    map.modify key change = map := by
  unfold modify
  rw [missing]

private theorem get?_modify_eq_update (map : SlotMap K V) (key : K) (change : V → V) :
    (map.modify key change).get? = Function.update map.get? key ((map.get? key).map change) := by
  cases held : map.get? key with
  | none => rw [modify_of_none held, Option.map_none, ← held, Function.update_eq_self]
  | some value =>
      rw [modify_of_get? held, set, get?_put_eq_update]
      rfl

/-! ## Places of keys -/

/-- Only the places of keys are filled. Keys may be numbered with gaps, and then there are
places that no key can empty. -/
def OnlyKeys (map : SlotMap K V) : Prop :=
  ∀ place : Fin (SlotKey.count K), map.slots[place] ≠ none → ∃ key : K, SlotKey.index key = place

private theorem onlyKeys_empty : (empty : SlotMap K V).OnlyKeys := by
  intro place filled
  simp [empty] at filled

theorem OnlyKeys.put
    {map : SlotMap K V}
    (only : map.OnlyKeys)
    (key : K)
    (content : Option V) :
    (map.put key content).OnlyKeys := by
  intro place filled
  by_cases here : SlotKey.index key = place
  · exact ⟨key, here⟩
  · apply only place
    simpa [SlotMap.put, Vector.getElem_set, Fin.val_inj, here] using filled

theorem OnlyKeys.modify
    {map : SlotMap K V}
    (only : map.OnlyKeys)
    (key : K)
    (change : V → V) :
    (map.modify key change).OnlyKeys := by
  unfold SlotMap.modify
  split
  · exact only.put key _
  · exact only

theorem OnlyKeys.act
    {map : SlotMap K V}
    (only : map.OnlyKeys)
    (action : Action K V) :
    (map.act action).2.OnlyKeys := by
  cases action with
  | insert key value => exact only.put key (some value)
  | modify key change => exact only.modify key change
  | take key => exact only.put key none
  | clear => exact onlyKeys_empty
  | _ => exact only

/-- The size of a map is the number of places that are filled. -/
theorem size_eq_ncard (map : SlotMap K V) :
    map.size = {place : Fin (SlotKey.count K) | map.slots[place] ≠ none}.ncard := by
  have listed : map.slots.toList =
      (List.finRange (SlotKey.count K)).map fun place => map.slots[place] := by
    apply List.ext_getElem <;> simp
  have filled : {place : Fin (SlotKey.count K) | map.slots[place] ≠ none} =
      ((List.finRange (SlotKey.count K)).filter fun place => map.slots[place].isSome).toFinset := by
    ext place
    simp [Option.isSome_iff_ne_none]
  rw [size, listed, List.countP_map, filled, Set.ncard_coe_finset,
    List.toFinset_card_of_nodup ((List.nodup_finRange _).filter _), List.countP_eq_length_filter]
  rfl

/-- If only the places of keys are filled, they are those of the keys that have a value. -/
theorem OnlyKeys.image_keys {map : SlotMap K V} (only : map.OnlyKeys) :
    SlotKey.index '' PartialMap.keys map.get? =
      {place : Fin (SlotKey.count K) | map.slots[place] ≠ none} := by
  ext place
  constructor
  · rintro ⟨key, present, rfl⟩
    exact present
  · intro filled
    obtain ⟨key, rfl⟩ := only place filled
    exact ⟨key, filled, rfl⟩

theorem OnlyKeys.size_eq {map : SlotMap K V} (only : map.OnlyKeys) :
    map.size = (PartialMap.keys map.get?).ncard := by
  rw [size_eq_ncard, ← only.image_keys, Set.ncard_image_of_injective _ index_injective]

theorem OnlyKeys.isEmpty_eq {map : SlotMap K V} (only : map.OnlyKeys) :
    map.isEmpty = decide (PartialMap.keys map.get? = ∅) := by
  have : Finite K := Finite.of_injective _ (index_injective (K := K))
  rw [isEmpty, only.size_eq, Bool.eq_iff_iff, beq_iff_eq, decide_eq_true_iff]
  exact Set.ncard_eq_zero

private theorem contentsEqual_iff {same : V → V → Bool} {left right : Option V} :
    contentsEqual same left right = true ↔
      Option.Rel (fun first second => same first second = true) left right := by
  cases left <;> cases right <;> simp [contentsEqual]

theorem OnlyKeys.equal_iff
    {left right : SlotMap K V}
    (leftOnly : left.OnlyKeys)
    (rightOnly : right.OnlyKeys)
    (same : V → V → Bool) :
    left.equal same right = true ↔ PartialMap.Agree same left.get? right.get? := by
  have places : left.equal same right = left.slots.isEqv right.slots (contentsEqual same) := rfl
  rw [places, Vector.isEqv_eq_decide, decide_eq_true_iff]
  constructor
  · intro equal key
    exact contentsEqual_iff.1 (equal (SlotKey.index key) (SlotKey.index key).isLt)
  · intro agree place placeLt
    by_cases named : ∃ key : K, SlotKey.index key = ⟨place, placeLt⟩
    · obtain ⟨key, here⟩ := named
      have contents := contentsEqual_iff.2 (agree key)
      simpa [get?, here] using contents
    · -- A place that is no key's is empty in both maps.
      have empty {map : SlotMap K V} (only : map.OnlyKeys) : map.slots[place] = none :=
        not_not.1 fun filled => named (only ⟨place, placeLt⟩ filled)
      rw [empty leftOnly, empty rightOnly]
      rfl

/-- What is done with a map is done with its values. -/
theorem OnlyKeys.act_get?
    {map : SlotMap K V}
    (only : map.OnlyKeys)
    (action : Action K V) :
    PartialMap.act map.get? action = ((map.act action).1, (map.act action).2.get?) := by
  cases action with
  | get key => rfl
  | contains key =>
      have present : map.contains key = decide (key ∈ PartialMap.keys map.get?) := by
        rw [Bool.eq_iff_iff, decide_eq_true_iff]
        exact Option.isSome_iff_ne_none
      rw [PartialMap.act, SlotMap.act, present]
  | size => rw [PartialMap.act, SlotMap.act, only.size_eq]
  | isEmpty => rw [PartialMap.act, SlotMap.act, only.isEmpty_eq]
  | insert key value =>
      rw [PartialMap.act, ← get?_put_eq_update]
      rfl
  | modify key change =>
      rw [PartialMap.act, ← get?_modify_eq_update, ← get?_modify_self]
      rfl
  | take key =>
      rw [PartialMap.act, ← get?_put_eq_update]
      rfl
  | clear =>
      have nothing : (empty : SlotMap K V).get? = fun _ => none := funext get?_empty
      rw [PartialMap.act, SlotMap.act, nothing]

private theorem represents_values (same : V → V → Bool) :
    Represents (kind (K := K) same) (PartialMap.kind same) OnlyKeys get? where
  kept_empty := onlyKeys_empty
  image_empty := funext get?_empty
  act := fun _ only action => ⟨_, _, rfl, congrArg some (only.act_get? action), only.act action⟩
  equal := by
    intro left right leftOnly rightOnly
    rw [Bool.eq_iff_iff]
    exact decide_eq_true_iff.trans (leftOnly.equal_iff rightOnly same).symm

/-! ## Stored places -/

private theorem size_places_stored (map : SlotMap K V) : map.stored.places.size = SlotKey.count K :=
  map.slots.size_toArray

/-- The place of a key is there. -/
private theorem getElem?_stored (map : SlotMap K V) (key : K) :
    map.stored.places[(SlotKey.index key).val]? = some (map.get? key) := by
  show map.slots.toArray[(SlotKey.index key).val]? = some (map.get? key)
  rw [Vector.getElem?_toArray, Vector.getElem?_eq_getElem (SlotKey.index key).isLt]
  rfl

private theorem setIfInBounds_stored (map : SlotMap K V) (key : K) (content : Option V) :
    map.stored.places.setIfInBounds (SlotKey.index key).val content =
      (map.put key content).stored.places := by
  have inside : (SlotKey.index key).val < map.stored.places.size :=
    (SlotKey.index key).isLt.trans_eq map.size_places_stored.symm
  rw [Array.setIfInBounds_def, dif_pos inside]
  rfl

private theorem replace?_stored (map : SlotMap K V) (key : K) (content : Option V) :
    map.stored.replace? (SlotKey.index key).val content =
      some (map.get? key, (map.put key content).stored) := by
  rw [StoredSlots.replace?, getElem?_stored, setIfInBounds_stored]
  rfl

private theorem modify?_stored (map : SlotMap K V) (key : K) (change : V → V) :
    map.stored.modify? (SlotKey.index key).val change =
      some ((map.modify key change).get? key, (map.modify key change).stored) := by
  rw [StoredSlots.modify?, getElem?_stored, Option.map_some, get?_modify_self]
  cases held : map.get? key with
  | none =>
      rw [modify_of_none held]
      rfl
  | some value =>
      rw [modify_of_get? held]
      dsimp only
      rw [setIfInBounds_stored]
      rfl

private theorem clear_stored (map : SlotMap K V) :
    map.stored.clear = (empty : SlotMap K V).stored := by
  show (⟨map.slots.toArray.map fun _ => none⟩ : StoredSlots V) = _
  have cleared : map.slots.toArray.map (fun _ => (none : Option V)) =
      Array.replicate map.slots.toArray.size none := Array.map_const
  rw [cleared, map.slots.size_toArray]
  rfl

private theorem empty_stored :
    (empty : SlotMap K V).stored = StoredSlots.empty (SlotKey.count K) := by
  simp [stored, empty, StoredSlots.empty]

/-- What is done with a map is done with its stored places. -/
theorem act?_stored (map : SlotMap K V) (action : Action K V) :
    map.stored.act? action = some ((map.act action).1, (map.act action).2.stored) := by
  cases action with
  | get key =>
      rw [StoredSlots.act?, getElem?_stored]
      rfl
  | contains key =>
      rw [StoredSlots.act?, getElem?_stored]
      rfl
  | size => rfl
  | isEmpty => rfl
  | insert key value =>
      rw [StoredSlots.act?, replace?_stored]
      rfl
  | modify key change =>
      rw [StoredSlots.act?, modify?_stored]
      rfl
  | take key =>
      rw [StoredSlots.act?, replace?_stored]
      rfl
  | clear => rw [StoredSlots.act?, clear_stored, act]

private theorem equal_stored (same : V → V → Bool) (left right : SlotMap K V) :
    StoredSlots.equal same left.stored right.stored = left.equal same right :=
  Vector.isEqv_toArray left.slots right.slots

private theorem represents_stored (same : V → V → Bool) :
    Represents (kind (K := K) same) (StoredSlots.kind K same) OnlyKeys stored where
  kept_empty := onlyKeys_empty
  image_empty := empty_stored
  act := fun map only action => ⟨_, _, rfl, map.act?_stored action, only.act action⟩
  equal := fun left right _ _ => equal_stored same left right

/-! ## What a command leaves alone -/

/-- An action that can change the value of a key. -/
def Action.Changes (key : K) : Action K V → Prop
  | insert other _ => key = other
  | modify other _ => key = other
  | take other => key = other
  | clear => True
  | _ => False

private theorem get?_act_of_not_changes
    (map : SlotMap K V)
    {action : Action K V}
    {key : K}
    (elsewhere : ¬action.Changes key) :
    (map.act action).2.get? key = map.get? key := by
  cases action with
  | insert other value => exact get?_put_of_ne map (Ne.symm elsewhere) (some value)
  | modify other change =>
      show (map.modify other change).get? key = map.get? key
      rw [get?_modify_eq_update]
      exact Function.update_of_ne elsewhere _ _
  | take other => exact get?_put_of_ne map (Ne.symm elsewhere) none
  | clear => exact absurd trivial elsewhere
  | _ => rfl

/-- A command that can change the value of a key in the map of a number. -/
def Command.Changes (number : Nat) (key : K) : Command K V → Prop
  | act other action => number = other ∧ action.Changes key
  | _ => False

/-- Whatever the next command is, the maps stay, and of their values only those that it can
change do not. -/
def LeavesOthers (same : V → V → Bool) (maps : List (SlotMap K V)) : Prop :=
  ∀ (command : Command K V) reply next,
    (kind same).step? maps command = some (reply, next) →
      ∀ number map, maps[number]? = some map → ∃ later : SlotMap K V,
        next[number]? = some later ∧
          ∀ key, ¬command.Changes number key → later.get? key = map.get? key

private theorem leavesOthers (same : V → V → Bool) (maps : List (SlotMap K V)) :
    LeavesOthers same maps := by
  intro command reply next stepped number map found
  have inside : number < maps.length := (List.getElem?_eq_some_iff.1 found).1
  rcases MapKind.step?_cases stepped with
    rfl | ⟨added, rfl⟩ | ⟨other, action, used, later, rfl, usedFound, acted, rfl⟩
  · exact ⟨map, found, fun _ _ => rfl⟩
  · exact ⟨map, by rw [List.getElem?_append_left inside, found], fun _ _ => rfl⟩
  · by_cases here : number = other
    · subst here
      cases found.symm.trans usedFound
      have laterEq : (map.act action).2 = later := congrArg Prod.snd (Option.some.inj acted)
      subst laterEq
      refine ⟨_, List.getElem?_set_self inside, fun key unchanged => ?_⟩
      exact map.get?_act_of_not_changes fun changes => unchanged ⟨rfl, changes⟩
    · exact ⟨map, by rw [List.getElem?_set_ne (Ne.symm here), found], fun _ _ => rfl⟩

/-! ## Slot maps in use -/

/-- **Slot maps are partial maps.** Whatever commands are given, to any number of slot maps
that are made and copied on the way, they reply as partial maps from keys to values do: the
value of a key is that of its last insertion, into the map or into the one that it was copied
from, as it was changed since, unless it was taken or cleared after. The stored places reply
to all commands alike, so every place that is looked up is there, and there are always as many
as `SlotKey.count` says. A command on a map leaves every other map alone, and in its own map
every key that it is not about. With values compared by equality, two maps are equal just if they
have the same value for each key. -/
theorem replies_as_partialMaps
    (same : V → V → Bool)
    (commands : List (Command K V)) :
    ∃ replies maps journals,
      (kind same).run? [] commands = some (replies, maps) ∧
        (PartialMap.kind same).run? [] commands = some (replies, maps.map get?) ∧
        (Journal.kind same).run? [] commands = some (replies, journals) ∧
        maps.map get? = journals.map Journal.lastValues ∧
        (StoredSlots.kind K same).run? [] commands = some (replies, maps.map stored) ∧
        (∀ slots ∈ maps.map stored, slots.places.size = SlotKey.count K) ∧
        LeavesOthers same maps ∧
        ((∀ first second, same first second = true ↔ first = second) →
          ∀ left ∈ maps, ∀ right ∈ maps,
            left.equal same right = true ↔ left.get? = right.get?) := by
  obtain ⟨replies, maps, ran, valuesRan, only⟩ :=
    (represents_values (K := K) same).run? (List.forall_mem_nil _) commands
  obtain ⟨_, _, ranAgain, storedRan, -⟩ :=
    (represents_stored (K := K) same).run? (List.forall_mem_nil _) commands
  obtain ⟨_, journals, journalsRan, lastRan, -⟩ :=
    (Journal.represents (K := K) same).run? (List.forall_mem_nil _) commands
  -- All runs start with no maps, so those of one kind are the same run.
  cases ran.symm.trans ranAgain
  obtain ⟨rfl, valuesEq⟩ := Prod.mk.inj (Option.some.inj (valuesRan.symm.trans lastRan))
  refine ⟨replies, maps, journals, ran, valuesRan, journalsRan, valuesEq, storedRan, ?_,
    leavesOthers same maps, ?_⟩
  · intro slots member
    obtain ⟨map, -, rfl⟩ := List.mem_map.1 member
    exact map.size_places_stored
  · intro equality left leftIn right rightIn
    rw [(only left leftIn).equal_iff (only right rightIn), PartialMap.agree_iff_eq equality]

/-- A map is copied, and the values of the copy are changed and taken. -/
theorem replies_as_partialMaps_of_copied_map :
    let same : Int → Int → Bool := fun first second => first == second
    let commands : List (Command OutputSlot Int) :=
      [.create, .act 0 (.insert .means 7), .act 0 (.insert .means 8), .copy 0,
        .act 1 (.modify .means (· + 1)), .equal 0 1, .act 1 (.take .means), .act 0 (.get .means),
        .act 1 .size, .act 2 .clear]
    let replies : List (Reply Int) :=
      [.done, .content none, .content (some 7), .done, .content (some 9), .truth false,
        .content (some 9), .content (some 8), .count 0, .unknown]
    (∀ first second, same first second = true ↔ first = second) ∧
      ∃ maps : List (SlotMap OutputSlot Int),
        (PartialMap.kind same).run? [] commands = some (replies, maps.map get?) ∧
          (StoredSlots.kind OutputSlot same).run? [] commands = some (replies, maps.map stored) ∧
          ∀ left ∈ maps, ∀ right ∈ maps, left.equal same right = true ↔ left.get? = right.get? := by
  intro same commands replies
  have equality (first second : Int) : same first second = true ↔ first = second := beq_iff_eq
  have replied : ((kind same).run? [] commands).map Prod.fst = some replies := rfl
  obtain ⟨given, maps, journals, ran, valuesRan, -, -, storedRan, -, -, equalIff⟩ :=
    replies_as_partialMaps same commands
  rw [ran] at replied
  have repliesEq : given = replies := Option.some.inj replied
  rw [repliesEq] at valuesRan storedRan
  exact ⟨equality, maps, valuesRan, storedRan, equalIff equality⟩

end SlotMap

end

end Standardize
