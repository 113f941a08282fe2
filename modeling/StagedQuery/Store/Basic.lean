import StagedQuery.Table.Basic

/-!
# Stores

A store holds tables by name, in the order of their creation.

## Main definitions

* `Store` — the tables.
* `Store.find?`, `Store.has`, `Store.get` — look-up by name.
* `Store.put` — the store with a table put in the place of the one of the same name, else at the
  end.
* `Store.create`, `Store.drop`, `Store.insert`, `Store.update`, `Store.delete` — the changes.
* `Store.insertAll` — several rows added one by one.
-/

namespace StagedQuery

/-- Tables in the order of their creation. -/
structure Store where
  tables : List Table

namespace Store

/-- The store without tables. -/
def empty : Store := ⟨[]⟩

/-- The names of the tables. -/
def names (s : Store) : List String := s.tables.map (·.schema.name)

/-! ## Look-up -/

/-- The table with a name. -/
def find? (s : Store) (name : String) : Option Table := s.tables.find? (·.schema.name == name)

/-- Whether there is a table with a name. -/
def has (s : Store) (name : String) : Bool := (s.find? name).isSome

/-- The table with a name; it is an error if there is none. -/
def get (s : Store) (name : String) : Except Failure Table :=
  match s.find? name with
  | some t => .ok t
  | none => .error (.statement (.noSuchTable name))

/-! ## Changes -/

/-- Tables with a table put in the place of the one of the same name, else at the end. -/
def putTable : List Table → Table → List Table
  | [], t => [t]
  | old :: rest, t => if old.schema.name = t.schema.name then t :: rest else old :: putTable rest t

/-- The store with a table put in the place of the one of the same name, else at the end. -/
def put (s : Store) (t : Table) : Store := ⟨putTable s.tables t⟩

/-- The store with a new table. -/
def create (s : Store) (schema : Schema) : Except Failure Store :=
  if s.has schema.name then .error (.statement (.tableExists schema.name))
  else match schema.check with
    | .error e => .error e
    | .ok () => .ok (s.put ⟨schema, []⟩)

/-- The store without a table. -/
def drop (s : Store) (name : String) : Except Failure Store :=
  match s.get name with
  | .error e => .error e
  | .ok _ => .ok ⟨s.tables.filter (·.schema.name != name)⟩

/-- The store with a row added to a table, and that row as it is stored. -/
def insert (s : Store) (name : String) (given : Row) : Except Failure (Store × Row) := do
  let t ← s.get name
  let (t, row) ← t.insert given
  return (s.put t, row)

/-- Rows added to a table one by one: the store after them, and the failure of the first row that is
refused. The rows before that one stay in the store. -/
def insertAll (s : Store) (name : String) : List Row → Store × Except Failure Unit
  | [] => (s, .ok ())
  | row :: rest =>
    match s.insert name row with
    | .ok (after, _) => insertAll after name rest
    | .error e => (s, .error e)

/-- The store with changes made to the rows of a table that meet a condition, and the number of
these. -/
def update (s : Store) (name : String) (changes : Row) (condition : Option Predicate) :
    Except Failure (Store × Nat) := do
  let t ← s.get name
  let (t, count) ← t.update changes condition
  return (s.put t, count)

/-- The store without the rows of a table that meet a condition, and the number of these. -/
def delete (s : Store) (name : String) (condition : Option Predicate) :
    Except Failure (Store × Nat) := do
  let t ← s.get name
  let (t, count) := t.delete condition
  return (s.put t, count)

end Store

end StagedQuery
