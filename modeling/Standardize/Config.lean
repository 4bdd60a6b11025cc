import Standardize.Engine
import Standardize.Json.Document
import Standardize.Size

/-!
Contract: which engine a program is configured to use.

Owns:
- `Config`, its standard and its reference value;
- what a configuration is read from: an object of named fields, of which
  unknown ones are passed over and known ones appear once, or an array of the
  fields in order, which may be short;
- the engine that a configuration stands for on a platform.

Does not own: the JSON grammar.
-/

set_option autoImplicit false

namespace Standardize

open Json (Document)

inductive BackendPreference where
  | auto
  | scalar
  | avx2
deriving DecidableEq, Repr

namespace BackendPreference

def name : BackendPreference → String
  | auto => "auto"
  | scalar => "scalar"
  | avx2 => "avx2"

def ofName? (text : String) : Option BackendPreference :=
  [auto, scalar, avx2].find? (·.name == text)

/-- The backend that a preference comes to on a platform. -/
def resolve (platform : Platform) : BackendPreference → Except Error Backend
  | auto => .ok platform.bestBackend
  | scalar => .ok .scalar
  | avx2 => platform.avx2Backend

end BackendPreference

/-- What an engine is configured by. -/
structure Config where
  strategy : Strategy := .auto
  backend : BackendPreference := .auto
  threads? : Option Nat := none
deriving DecidableEq, Repr

namespace Config

/-- Everything left to the platform. -/
def standard : Config :=
  {}

/-- The plainest engine there is: one thread, value by value. -/
def reference : Config :=
  { strategy := .sequential, backend := .scalar }

/-- The engine of a configuration. The backend is resolved first. -/
def build (platform : Platform) (config : Config) : Except Error Engine :=
  match config.backend.resolve platform with
  | .error error => .error error
  | .ok backend =>
      if config.strategy = .sequential then .ok (Engine.sequential backend)
      else if platform.parallel then
        match config.threads? with
        | some threads => .ok (Engine.pool platform backend threads)
        | none => .ok (Engine.shared platform backend)
      else if config.strategy = .parallel then
        (Fault.unavailable .parallelExecution).raise
      else .ok (Engine.sequential backend)

/-! ## Reading -/

/-- The name of a choice: a string, or an object with that name for its only
member and no content. -/
def choiceName? : Document → Option String
  | .text name => name
  | .object [(name, .null)] => name
  | _ => none

def strategyOf? (document : Document) : Option Strategy :=
  (choiceName? document).bind Strategy.ofName?

def backendOf? (document : Document) : Option BackendPreference :=
  (choiceName? document).bind BackendPreference.ofName?

/-- A number of threads: nothing, or a size written as a whole number. -/
def threadsOf? : Document → Option (Option Nat)
  | .null => some none
  | .number ⟨false, whole, true⟩ => (Size.fit? whole).map some
  | _ => none

inductive Field where
  | strategy
  | backend
  | threads
deriving DecidableEq, Repr

namespace Field

def name : Field → String
  | strategy => "strategy"
  | backend => "backend"
  | threads => "num_threads"

def all : List Field :=
  [strategy, backend, threads]

def ofName? (text : String) : Option Field :=
  all.find? (·.name == text)

end Field

def setField? (config : Config) (field : Field) (document : Document) : Option Config :=
  match field with
  | .strategy => (strategyOf? document).map fun strategy => { config with strategy := strategy }
  | .backend => (backendOf? document).map fun backend => { config with backend := backend }
  | .threads => (threadsOf? document).map fun threads => { config with threads? := threads }

/-- Members read one after the other; a field may not come again. -/
def ofMembers?
    (config : Config)
    (seen : List Field) :
    List (Option String × Document) → Option Config
  | [] => some config
  | (none, _) :: _ => none
  | (some name, document) :: rest =>
      match Field.ofName? name with
      | none => ofMembers? config seen rest
      | some field =>
          if seen.contains field then none
          else
            match config.setField? field document with
            | some next => next.ofMembers? (field :: seen) rest
            | none => none

/-- Values read into fields in order; no value is left over. -/
def ofValues? (config : Config) : List Field → List Document → Option Config
  | _, [] => some config
  | [], _ :: _ => none
  | field :: fields, document :: rest =>
      match config.setField? field document with
      | some next => next.ofValues? fields rest
      | none => none

def ofDocument? : Document → Option Config
  | .object members => standard.ofMembers? [] members
  | .array values => standard.ofValues? Field.all values
  | _ => none

def ofText? (text : String) : Option Config :=
  match Document.ofText? text with
  | some document => ofDocument? document
  | none => none

end Config

end Standardize
