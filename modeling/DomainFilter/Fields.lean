/-
# DomainFilter.Fields — named fields in key order

The fields of a record and the members of a JSON object are kept as pairs in increasing order of
their names, each name once, so two collections with the same fields are the same list. Names are in
code point order, which is also the order of their UTF-8 encodings. Putting a field under a name
that is taken replaces it: the last one written wins.
-/

namespace DomainFilter

/-- Named fields. -/
abbrev Fields (α : Type) := List (String × α)

namespace Fields

variable {α : Type}

/-- The field under a name. -/
def get? (key : String) : Fields α → Option α
  | [] => none
  | (name, value) :: rest => if name = key then some value else get? key rest

/-- The fields with one more, in its place; a field of the same name is replaced. -/
def put (key : String) (value : α) : Fields α → Fields α
  | [] => [(key, value)]
  | (name, old) :: rest =>
    if key < name then (key, value) :: (name, old) :: rest
    else if key = name then (key, value) :: rest
    else (name, old) :: put key value rest

/-- The fields that a list of pairs writes one after the other. -/
def ofPairs (pairs : List (String × α)) : Fields α :=
  pairs.foldl (fun fields pair => put pair.1 pair.2 fields) []

/-- The names of the fields. -/
def keys (fields : Fields α) : List String := fields.map Prod.fst

/-- The names are in strictly increasing order. -/
def Sorted (fields : Fields α) : Prop := (keys fields).Pairwise (· < ·)

end Fields

end DomainFilter
