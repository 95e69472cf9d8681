import Purse.Json

/-!
# Schemas of the API description

A schema describes the JSON form of a type: a value of a basic type, one of several names, a reference to
a named schema, a list, or a record. A field of a record is required unless it may be null.
-/
namespace Purse.OpenApi

inductive Basic where
  | integer
  | boolean
  | text
  | uuid
  | time
  deriving DecidableEq, Repr

namespace Basic

def typeName : Basic → String
  | .integer => "integer"
  | .boolean => "boolean"
  | .text | .uuid | .time => "string"

/-- The format that is named beside the type. -/
def format? : Basic → Option String
  | .integer => some "int64"
  | .uuid => some "uuid"
  | .time => some "date-time"
  | .boolean | .text => none

end Basic

/-- A field of a record, or an element of another kind. -/
inductive Shape where
  | basic (type : Basic) (nullable : Bool)
  | choice (options : List String)
  | reference (schema : String) (nullable : Bool)
  | list (schema : String)

structure Field where
  name : String
  shape : Shape
  description : Option String := none
  sample : Option Json := none

/-- A named schema of the description. -/
inductive Schema where
  | plain (type : Basic) (description : String)
  | choice (options : List String) (description : String)
  | record (fields : List Field) (description : String)

def present (members : List (String × Option Json)) : List (String × Json) :=
  members.filterMap fun (key, value) => value.map (key, ·)

/-- Where a named schema is found. -/
def schemaPath (name : String) : Json := .text ("#/components/schemas/" ++ name)

/-- The members for a description and an example. -/
def remarks (description : Option String) (sample : Option Json) : List (String × Option Json) :=
  [("description", description.map Json.text), ("example", sample)]

/-- The type of a value, or the types if it may be null. -/
def typeJson (type : Basic) (nullable : Bool) : Json :=
  if nullable then .array [.text type.typeName, .text "null"] else .text type.typeName

/-- A shape with its remarks as JSON. A reference that may be null keeps its remarks with the
reference. -/
def Shape.json (description : Option String) (sample : Option Json) : Shape → Json
  | .basic type nullable =>
    .object (present ([("type", some (typeJson type nullable)),
      ("format", type.format?.map Json.text)] ++ remarks description sample))
  | .choice options =>
    .object (present ([("type", some (.text "string")), ("enum", some (.array (options.map Json.text)))] ++
      remarks description sample))
  | .reference schema false =>
    .object (present (("$ref", some (schemaPath schema)) :: remarks description sample))
  | .reference schema true =>
    .object [("oneOf", .array [.object [("type", .text "null")],
      .object (present (("$ref", some (schemaPath schema)) :: remarks description sample))])]
  | .list schema =>
    .object (present ([("type", some (.text "array")),
      ("items", some (.object [("$ref", schemaPath schema)]))] ++ remarks description sample))

/-- Whether a value of this shape may be null. -/
def Shape.isNullable : Shape → Bool
  | .basic _ nullable | .reference _ nullable => nullable
  | .choice _ | .list _ => false

namespace Schema

def json : Schema → Json
  | .plain type description => (Shape.basic type false).json (some description) none
  | .choice options description => (Shape.choice options).json (some description) none
  | .record fields description =>
    .object [("type", .text "object"), ("description", .text description),
      ("required", .array ((fields.filter fun f => !f.shape.isNullable).map fun f => .text f.name)),
      ("properties", .object (fields.map fun f => (f.name, f.shape.json f.description f.sample)))]

end Schema
end Purse.OpenApi
