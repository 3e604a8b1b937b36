import FrameTee.Text.Inspect

/-!
# Faults of a tee description

Why a configuration node does not describe a tee.
-/

namespace FrameTee

/-- Why a configuration node was rejected. -/
inductive ConfigError where
  /-- A key that means nothing to a tee. -/
  | unknownKey (key : String)
  /-- A key with a value of the wrong kind. -/
  | invalidValue (key expected : String)
  /-- The stream to wrap is not named. -/
  | missingSlave
  /-- There is no usable place for the copy. -/
  | missingFile
  deriving DecidableEq, Repr

namespace ConfigError

/-- The fault as shown to people. -/
def message : ConfigError → String
  | unknownKey key => s!"unknown field {key}"
  | invalidValue key expected => s!"invalid value for {key}: expected {expected}"
  | missingSlave => "sname is not defined"
  | missingFile => "file is not defined"

/-- The name of the kind of fault. -/
def kind : ConfigError → String
  | unknownKey .. => "UnknownKey"
  | invalidValue .. => "InvalidValue"
  | missingSlave => "MissingSlave"
  | missingFile => "MissingFile"

/-- The fault as an inspected value. -/
def inspect (error : ConfigError) : String :=
  match error with
  | unknownKey key => Text.record error.kind [("key", Text.quote key)]
  | invalidValue key expected =>
    Text.record error.kind [("key", Text.quote key), ("expected", Text.quote expected)]
  | missingSlave | missingFile => error.kind

end ConfigError

end FrameTee
