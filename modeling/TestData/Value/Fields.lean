/-!
Fields: a map from names to values that keeps the order in which names were first inserted.

Inserting under a name that is there already replaces the value in its place.
-/

namespace TestData

/-- Named values in order of first insertion. -/
structure Fields (α : Type) where
  entries : List (String × α)
  deriving Inhabited

namespace Fields

variable {α : Type}

/-- No fields. -/
def empty : Fields α := ⟨[]⟩

/-- Replaces the value of the first entry of a name, or adds an entry at the end. -/
def put (name : String) (value : α) : List (String × α) → List (String × α)
  | [] => [(name, value)]
  | (n, v) :: rest => if n = name then (n, value) :: rest else (n, v) :: put name value rest

/-- Inserts a value under a name. -/
def insert (f : Fields α) (name : String) (value : α) : Fields α :=
  ⟨put name value f.entries⟩

/-- The value under a name. -/
def get? (f : Fields α) (name : String) : Option α := f.entries.lookup name

/-- Whether there is a value under a name. -/
def has (f : Fields α) (name : String) : Bool := (f.get? name).isSome

/-- The names, in order. -/
def names (f : Fields α) : List String := f.entries.map (·.1)

/-- The number of fields. -/
def size (f : Fields α) : Nat := f.entries.length

/-- Inserts pairs in order. -/
def ofList (l : List (String × α)) : Fields α :=
  l.foldl (fun f (n, v) => f.insert n v) empty

end Fields

end TestData
