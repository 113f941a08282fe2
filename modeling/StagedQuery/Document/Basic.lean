import StagedQuery.Value.Basic

/-!
# Documents

The values that a text file can hold, and how the values of the engine are stored as documents.

## Main definitions

* `Document` — the documents; the fields of an object keep their order.
* `Document.field?`, `Document.putField` — the fields of an object.
* `Document.toValue`, `Value.toDocument?` — a document as a value, and a value as a document. A
  tuple is stored as a list; a range cannot be stored.
-/

namespace StagedQuery

/-- A document. Integers and floating-point numbers are kept apart. -/
inductive Document where
  | null
  | bool (b : Bool)
  | int (n : Int)
  | float (x : Binary64)
  | text (s : String)
  | list (items : List Document)
  | object (fields : List (String × Document))
deriving Inhabited

namespace Document

/-- The field of an object. -/
def field? (fields : List (String × Document)) (key : String) : Option Document :=
  (fields.find? (·.1 == key)).map (·.2)

/-- The fields with a field set: in the place of the field that it replaces, else at the end. -/
def putField : List (String × Document) → String → Document → List (String × Document)
  | [], key, d => [(key, d)]
  | (k, old) :: rest, key, d =>
    if k = key then (key, d) :: rest else (k, old) :: putField rest key d

mutual

/-- A document as a value. -/
def toValue : Document → Value
  | null => .null
  | bool b => .bool b
  | int n => .int n
  | float x => .float x
  | text s => .text s
  | list items => .list (toValues items)
  | object fields => .object (toFields fields)

/-- Several documents as values. -/
def toValues : List Document → List Value
  | [] => []
  | d :: ds => d.toValue :: toValues ds

/-- The fields of an object with documents as values. -/
def toFields : List (String × Document) → List (String × Value)
  | [] => []
  | (key, d) :: fields => (key, d.toValue) :: toFields fields

end

end Document

namespace Value

mutual

/-- A value as a document; none for a value that holds a range. -/
def toDocument? : Value → Option Document
  | null => some .null
  | bool b => some (.bool b)
  | int n => some (.int n)
  | float x => some (.float x)
  | text s => some (.text s)
  | list items => (toDocuments? items).map .list
  | object fields => (toFields? fields).map .object
  | range _ _ => none
  | tuple items => (toDocuments? items).map .list

/-- Several values as documents. -/
def toDocuments? : List Value → Option (List Document)
  | [] => some []
  | v :: vs =>
    match v.toDocument?, toDocuments? vs with
    | some d, some ds => some (d :: ds)
    | _, _ => none

/-- The fields of an object as documents. -/
def toFields? : List (String × Value) → Option (List (String × Document))
  | [] => some []
  | (key, v) :: fields =>
    match v.toDocument?, toFields? fields with
    | some d, some ds => some ((key, d) :: ds)
    | _, _ => none

end

end Value

end StagedQuery
