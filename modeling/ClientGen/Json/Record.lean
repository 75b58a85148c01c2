import ClientGen.Json.Reader
import ClientGen.Keyed

/-!
# Records in a JSON document

How texts, lists, maps and records are taken from a document. A record is an object with known
keys, or an array that gives the fields in their declared order. Unknown keys are skipped; a known
key may stand only once; a field that has no default must be there. In a map a key may come again,
and its last value counts.

The trouble reported is the first one in the order of the text. Arrays and objects that are read
may be nested only so deep: each reader is told how many levels it may still enter.
-/

namespace ClientGen.Json

/-! ## Failures -/

/-- Why a document is refused: its text breaks off, or it is not what was wanted. -/
inductive Failure
  | broken (trouble : Break)
  | missingField (field : String)
  | duplicateField (field : String)
  | wrongType (found : Found) (wanted : String)
  | wrongLength (length : Nat) (record : String) (fields : Nat)

/-- The failure in words. -/
def Failure.message : Failure → String
  | .broken .malformed => "malformed JSON"
  | .broken .truncated => "unexpected end of JSON"
  | .missingField field => s!"missing field `{field}`"
  | .duplicateField field => s!"duplicate field `{field}`"
  | .wrongType found wanted => s!"invalid type: {found.describe}, expected {wanted}"
  | .wrongLength length record fields =>
    let noun := if fields = 1 then "element" else "elements"
    s!"invalid length {length}, expected struct {record} with {fields} {noun}"

/-- What reading gives. -/
abbrev Reading (α : Type) := Except Failure α

/-- A result of looking at the text, as a result of reading. -/
def Reading.ofText {α : Type} (r : Except Break α) : Reading α :=
  r.mapError .broken

/-- Fails if there is trouble. -/
def Reading.check : Option Break → Reading Unit
  | none => .ok ()
  | some trouble => .error (.broken trouble)

/-- The failure of a value that is not of the wanted kind. -/
def refuse {α : Type} (wanted : String) (json : Json) : Reading α :=
  match json.found with
  | .ok found => .error (.wrongType found wanted)
  | .error trouble => .error (.broken trouble)

/-! ## Plain values -/

/-- A text. -/
def readString : Json → Reading String
  | .text value => Reading.ofText value
  | json => refuse "a string" json

/-- A truth value. -/
def readBool : Json → Reading Bool
  | .bool value => .ok value
  | json => refuse "a boolean" json

/-- A value that may be `null`. -/
def readOptional {α : Type} (read : Json → Reading α) : Json → Reading (Option α)
  | .null => .ok none
  | json => (read json).map some

/-! ## Lists and maps -/

/-- A list, with a reader for its items. -/
def readList {α : Type} (levels : Nat) (read : Json → Reading α) : Json → Reading (List α)
  | .array items broken => do
    if levels = 0 then throw (.broken .malformed)
    let values ← items.mapM read
    Reading.check (broken.map (·.read))
    return values
  | json => refuse "a sequence" json

/-- A map, with a reader for its values. -/
def readMap {α : Type} (levels : Nat) (read : Json → Reading α) : Json → Reading (Keyed α)
  | .object members broken => do
    if levels = 0 then throw (.broken .malformed)
    let entries ← members.mapM fun (key, value) => do
      return (← Reading.ofText key, ← read value)
    Reading.check (broken.map (·.read))
    return Keyed.ofList entries
  | json => refuse "a map" json

/-! ## Records -/

/-- A kind of record: its name, the keys of its fields in their declared order, those that have no
default, and how a field's value is stored in the record. -/
structure RecordKind (α : Type) where
  name : String
  keys : List String
  required : List String
  store : String → Json → α → Reading α

namespace RecordKind

variable {α : Type}

/-- Takes one member of an object into the record; `seen` holds the known keys met before it. -/
def takeMember (kind : RecordKind α) (state : List String × α)
    (member : Except Break String × Json) : Reading (List String × α) := do
  let (seen, record) := state
  let key ← Reading.ofText member.1
  if key ∈ kind.keys then
    if key ∈ seen then throw (.duplicateField key)
    return (key :: seen, ← kind.store key member.2 record)
  else
    Reading.check member.2.skipBreak?
    return state

/-- Takes the items of an array into the fields with the given keys, in order; `position` is the
number of fields taken before them. -/
def takeItems (kind : RecordKind α) (broken : Option Fault) (record : α) (position : Nat) :
    List String → List Json → Reading α
  | [], [] => do
    Reading.check (broken.map (·.read))
    return record
  | [], _ :: _ => throw (.broken .malformed)
  | key :: keys, item :: items => do
    kind.takeItems broken (← kind.store key item record) (position + 1) keys items
  | key :: keys, [] => do
    Reading.check (broken.map (·.read))
    if key ∈ kind.required then
      throw (.wrongLength position kind.name kind.keys.length)
    kind.takeItems broken record (position + 1) keys []

/-- Reads a record, starting from one whose fields have their defaults. -/
def read (kind : RecordKind α) (levels : Nat) (empty : α) : Json → Reading α
  | .object members broken => do
    if levels = 0 then throw (.broken .malformed)
    let (seen, record) ← members.foldlM kind.takeMember ([], empty)
    Reading.check (broken.map (·.read))
    match kind.required.find? (· ∉ seen) with
    | some key => throw (.missingField key)
    | none => return record
  | .array items broken => do
    if levels = 0 then throw (.broken .malformed)
    kind.takeItems broken empty 0 kind.keys items
  | json => refuse s!"struct {kind.name}" json

end RecordKind

/-! ## Whole documents -/

/-- How many arrays and objects may be open around a value that is read. -/
def maxLevels : Nat := 127

/-- Reads the one document that a text should hold. -/
def readText? {α : Type} (read : Nat → Json → Reading α) (s : String) : Reading α := do
  let document := Document.ofText s
  let value ← read maxLevels document.root
  Reading.check document.trailing
  return value

end ClientGen.Json
