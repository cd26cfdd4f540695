import DocQuery.Json.Basic
import DocQuery.Json.Reader
import DocQuery.Instant.Text
import DocQuery.Value.Basic
/-!
Values and JSON. A value is written as JSON text with whole numbers that fit 64 bits as integers, or is
turned into a document with all its numbers written with a point or an exponent. What JSON cannot say
becomes null, an instant its text, and a pattern an object of its source and flags. A value is read from
JSON text directly, or by way of a document.
-/
namespace DocQuery

/-- Reading a document as such. A number that is not finite has no place in a document. -/
def Json.builder : Json.Builder Json :=
  { null := .null, bool := .bool, integer := .integer
    float := fun n => if n.isFinite then .float n else .null
    string := .string, array := .array, object := .object }

namespace Value

def builder : Json.Builder Value :=
  { null := .null, bool := .bool, integer := fun n => .number (Number.ofInt n), float := .number
    string := .string, array := .array, object := .object }

/-- The number of a document: an integer if it is whole and at most one beyond 64 bits. -/
def wholeNumber (n : Number) : Json :=
  match int64OfNumber? n with
  | some i => .integer i
  | none => if n.isFinite then .float n else .null

/-- The number of a document, with a point or an exponent. -/
def pointNumber (n : Number) : Json := if n.isFinite then .float n else .null

mutual

/-- The document of a value, given what becomes of numbers. -/
def toJson (number : Number → Json) : Value → Json
  | .null | .undefined | .predicate _ => .null
  | .bool b => .bool b
  | .number n => number n
  | .string s => .string s
  | .array items => .array (toJsonItems number items)
  | .object fields => .object (toJsonFields number fields)
  | .date t => .string (String.ofList t.text)
  | .regex p => .object [("pattern", .string p.source), ("flags", .string p.flags)]

def toJsonItems (number : Number → Json) : List Value → List Json
  | [] => []
  | v :: rest => toJson number v :: toJsonItems number rest

def toJsonFields (number : Number → Json) : List (String × Value) → List (String × Json)
  | [] => []
  | (key, v) :: rest => (key, toJson number v) :: toJsonFields number rest

end

mutual

def ofJson : Json → Value
  | .null => .null
  | .bool b => .bool b
  | .integer n => .number (Number.ofInt n)
  | .float n => .number n
  | .string s => .string s
  | .array items => .array (ofJsonItems items)
  | .object fields => .object (ofJsonFields fields)

def ofJsonItems : List Json → List Value
  | [] => []
  | item :: rest => ofJson item :: ofJsonItems rest

def ofJsonFields : List (String × Json) → List (String × Value)
  | [] => []
  | (key, item) :: rest => (key, ofJson item) :: ofJsonFields rest

end

def jsonText (v : Value) : String := String.ofList (v.toJson wholeNumber).compact

def prettyText (v : Value) : String := String.ofList ((v.toJson wholeNumber).pretty 0)

/-- The document of a value in which no number is an integer. -/
def document (v : Value) : Json := v.toJson pointNumber

def ofJsonText (text : String) : Except Json.Fault Value := Json.read builder Json.nestLimit text

def documentOfText (text : String) : Except Json.Fault Json :=
  Json.read Json.builder Json.nestLimit text

end Value
end DocQuery
