import FrameTee.Log.Event
import Std.Data.TreeMap

/-!
# Tee descriptions

A tee is described by a configuration node: the key `sname` names the stream to wrap, `file` says
where the copy goes, as a path or as the number of an open descriptor, and `comment`, `type` and
`stream` mean nothing. `TeeConfig.ofNode` reads a node in the order of its keys and stops at the
first entry that has no place in a description; only a node without such an entry is checked for
what is missing.
-/

namespace FrameTee

/-- A value in a configuration. -/
inductive ConfigValue where
  /-- A whole number. -/
  | integer (n : Int)
  /-- A text. -/
  | text (s : String)
  /-- A node inside the node, by its entries. -/
  | compound (entries : List (String × ConfigValue))

/-- The kind of a value as shown to people. -/
def ConfigValue.kind : ConfigValue → String
  | integer _ => "integer"
  | text _ => "string"
  | compound _ => "compound"

/-- A configuration node: values by their keys, in the order of the keys. -/
abbrev ConfigNode := Std.TreeMap String ConfigValue

/-- What a configuration node asks for. -/
structure TeeConfig where
  /-- Name of the stream to wrap. -/
  slave : String
  /-- Where the copy goes. -/
  target : SinkTarget
  deriving DecidableEq, Repr

namespace TeeConfig

/-- The keys that may hold anything. -/
def ignoredKeys : List String := ["comment", "type", "stream"]

/-- What the entries read so far have said. -/
structure Draft where
  /-- The stream to wrap. -/
  slave : Option String := none
  /-- A path for the copy. -/
  path : Option String := none
  /-- A descriptor for the copy. -/
  descriptor : Option Int := none
  deriving DecidableEq, Repr

/-- An entry that has no place in a description, with what is reported about it. -/
structure Rejection where
  /-- The fault of the entry. -/
  error : ConfigError
  /-- What is reported. -/
  events : List LogEvent := []

/-- Reads one entry. -/
def Draft.read (draft : Draft) (entry : String × ConfigValue) : Except Rejection Draft :=
  let (key, value) := entry
  if ignoredKeys.contains key then .ok draft
  else if key = "sname" then
    match value with
    | .text name => .ok { draft with slave := some name }
    | other =>
      .error
        { error := .invalidValue key "string"
          events := [.slaveNameRejected key other.kind] }
  else if key = "file" then
    match value with
    | .text path => .ok { draft with path := some path }
    | .integer fd => .ok { draft with descriptor := some fd }
    | other =>
      .error
        { error := .invalidValue key "string or integer"
          events := [.fileValueRejected key other.kind] }
  else .error { error := .unknownKey key }

/-- One more than the largest descriptor number. -/
def descriptorLimit : Int := 0x80000000

/-- Where the copy goes, by what the entries have said. -/
def Draft.target (draft : Draft) : Except ConfigError SinkTarget :=
  match draft.path, draft.descriptor with
  | some path, _ => .ok (.file path)
  | none, some fd =>
    if fd < 0 then .error .missingFile
    else if fd < descriptorLimit then .ok (.descriptor fd)
    else .error (.invalidValue "file" "descriptor number")
  | none, none => .error .missingFile

/-- Turns what the entries have said into a description. -/
def Draft.finish (draft : Draft) : Except ConfigError TeeConfig :=
  match draft.slave with
  | none => .error .missingSlave
  | some slave => draft.target.map (⟨slave, ·⟩)

/-- Reads a description, and tells what is reported meanwhile. -/
def ofNode (node : ConfigNode) : Except ConfigError TeeConfig × List LogEvent :=
  match node.toList.foldlM Draft.read {} with
  | .error rejection => (.error rejection.error, rejection.events)
  | .ok draft =>
    match draft.finish with
    | .error e => (.error e, [])
    | .ok config => (.ok config, [.configParsed config.slave config.target.label])

end TeeConfig

end FrameTee
