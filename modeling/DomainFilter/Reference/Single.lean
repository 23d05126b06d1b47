/-
# DomainFilter.Reference.Single — a reference on its own

A value outside any domain, such as the parameter of an action, may refer to the object, the user or
the parent. It resolves to what it refers to, and to itself if that is missing. References to dates
and to the environment mean nothing here and stay as they are.
-/
import DomainFilter.Reference.Symbol

namespace DomainFilter

/-- A value that may be a reference. -/
structure Reference where
  value : Value

/-- What a reference stands for, given the three records it may refer to. -/
def Reference.parse (object user parent : Record) (r : Reference) : Value :=
  let found :=
    match Symbol.ofValue r.value with
    | .object path => Symbol.objectValue? object path
    | .user key => Symbol.userValue? user key
    | .parent key => Symbol.parentValue? parent key
    | .literal | .date _ | .env _ => none
  found.getD r.value

end DomainFilter
