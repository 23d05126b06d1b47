/-
# DomainFilter.Document.FromJson — documents and contexts in JSON

A document and its context are objects with the fields named below, each at most once, all of them
optional; or arrays with the same fields by place, the last ones left out at will. Fields of other
names are passed over without asking what their values mean.

The domain and the filters may have any value, as `Domain.ofValue` reads it; the filters are an
array of them. Records have to be objects, and a clock is null or a lenient date and time.
-/
import DomainFilter.Document.Basic
import DomainFilter.Calendar.Reading
import DomainFilter.Json.Reader

namespace DomainFilter

namespace Json.Written

/-- The fields of a value by name or by place: for each of the names its value, if there is one. The
value has to be an object that has none of the names twice, or an array with no more items than
there are names. -/
def fields? (names : List String) : Written → Option (List (Option Written))
  | .object members => do
    let members ← members.mapM fun (key, value) => do
      let key ← stringOf? key
      some (key, value)
    names.mapM fun name =>
      match members.filter fun member => member.1 == name with
      | [] => some none
      | [(_, value)] => some (some value)
      | _ => none
  | .array items =>
    if items.length ≤ names.length then
      some (items.map some ++ List.replicate (names.length - items.length) none)
    else none
  | _ => none

/-- A field's value read one way, or the default if the field is not there. -/
def optional? {α : Type} (default : α) (read : Written → Option α) : Option Written → Option α
  | none => some default
  | some written => read written

/-- A record. -/
def toRecord? (levels : Nat) (written : Written) : Option Record :=
  (ofWritten? levels written).bind fun json => (Value.ofJson json).fields?

/-- A clock; null is none. -/
def toClock? : Written → Option (Option Instant)
  | .null => some none
  | .string pieces => do
    let s ← characters? pieces
    let instant ← Calendar.lenient? s
    some (some instant)
  | _ => none

/-- A context. -/
def toContext? (levels : Nat) (written : Written) : Option DocumentContext := do
  let record := optional? [] (toRecord? (levels - 1))
  match ← fields? ["object", "user", "parent", "env", "now"] written with
  | [objectField, userField, parentField, envField, nowField] =>
    let object ← record objectField
    let user ← record userField
    let parent ← record parentField
    let env ← record envField
    let now ← optional? none toClock? nowField
    some { object, user, parent, env, now }
  | _ => none

/-- A domain. -/
def toDomain? (levels : Nat) (written : Written) : Option Domain :=
  (ofWritten? levels written).map fun json => Domain.ofValue (.ofJson json)

/-- A list of domains. -/
def toDomains? (levels : Nat) : Written → Option (List Domain)
  | .array items => items.mapM (toDomain? (levels - 1))
  | _ => none

/-- A document. -/
def toDocument? (levels : Nat) (written : Written) : Option Document := do
  match ← fields? ["domain", "filters", "context"] written with
  | [domain, filters, context] =>
    let domain ← optional? .empty (toDomain? (levels - 1)) domain
    let filters ← optional? [] (toDomains? (levels - 1)) filters
    let context ← optional? {} (toContext? (levels - 1)) context
    some { domain, filters, context }
  | _ => none

end Json.Written

/-- The document of a JSON text. -/
def Document.ofJsonText? (s : String) : Option Document :=
  (Json.Written.read? s.toList).bind (·.toDocument? Json.depthLimit)

/-- The context of a JSON text. -/
def DocumentContext.ofJsonText? (s : String) : Option DocumentContext :=
  (Json.Written.read? s.toList).bind (·.toContext? Json.depthLimit)

end DomainFilter
