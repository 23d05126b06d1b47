/-
# DomainFilter.Reference.Symbol — references in texts

A string that starts with `object.`, `user.`, `parent.`, `date.` or `env.` refers to something
outside the condition it stands in; any other value is a literal. What a reference resolves to:

* `object.` a value at a path in the object, where a related record counts as its `id`, else its
  `name`, else the string `null`, and a null as the string `null`;
* `user.` the user's field, as it is;
* `parent.` the parent's field, where a related record counts as its `id`, else its `name`, else
  null;
* `env.` the environment's field, and false if there is none;
* `date.` the text of the instant that the descriptor means.

The first three have no value if the field or path is missing.
-/
import DomainFilter.Context
import DomainFilter.Reference.Path
import DomainFilter.Calendar.Descriptor
import DomainFilter.Calendar.Written

namespace DomainFilter

/-- What a value refers to. -/
inductive Symbol where
  | literal
  /-- A path in the object. -/
  | object (path : String)
  /-- A field of the user. -/
  | user (key : String)
  /-- A field of the parent. -/
  | parent (key : String)
  /-- A date descriptor, its first segment included. -/
  | date (descriptor : String)
  /-- A field of the environment. -/
  | env (key : String)
  deriving DecidableEq

/-- What becomes of a value when references are resolved. -/
inductive Resolution where
  /-- No reference: the value stays. -/
  | literal
  | resolved (value : Value)
  /-- A reference to nothing. -/
  | unresolved

namespace Symbol

/-- The rest of a text after the word that it starts with. -/
def after? (word : String) (s : String) : Option String :=
  (word.toList.isPrefixOf? s.toList).map String.ofList

/-- What a text refers to. -/
def ofText (s : String) : Symbol :=
  if let some path := after? "object." s then .object path
  else if let some key := after? "user." s then .user key
  else if let some key := after? "parent." s then .parent key
  else if let some _ := after? "date." s then .date s
  else if let some key := after? "env." s then .env key
  else .literal

/-- What a value refers to. -/
def ofValue : Value → Symbol
  | .string s => ofText s
  | _ => .literal

def isLiteral : Symbol → Bool
  | .literal => true
  | _ => false

/-- The `id` of a related record, else its `name`. -/
def identity? (fields : Record) : Option Value :=
  (Fields.get? "id" fields).or (Fields.get? "name" fields)

/-- What a value of the object counts as. -/
def collapseObject : Value → Value
  | .object fields => (identity? fields).getD (.string "null")
  | .null => .string "null"
  | value => value

/-- What a value of the parent counts as. -/
def collapseParent : Value → Value
  | .object fields => (identity? fields).getD .null
  | value => value

/-- The value at a path in the object. -/
def objectValue? (object : Record) (path : String) : Option Value :=
  (Path.lookup? object path).map collapseObject

/-- The value of a field of the user. -/
def userValue? (user : Record) (key : String) : Option Value := Fields.get? key user

/-- The value of a field of the parent. -/
def parentValue? (parent : Record) (key : String) : Option Value :=
  (Fields.get? key parent).map collapseParent

/-- The instant that a date descriptor means in a context. -/
def instant (ctx : Context) (descriptor : String) : Except CalendarError Instant :=
  Calendar.resolve ctx.zone descriptor.toList ctx.now

/-- The instant that a date descriptor means, or the clock's own where the arithmetic fails. -/
def instantOrNow (ctx : Context) (descriptor : String) : Instant :=
  match instant ctx descriptor with
  | .ok instant => instant
  | .error _ => ctx.now

/-- The error in the date arithmetic of a reference, if there is one. -/
def calendarError? (ctx : Context) : Symbol → Option CalendarError
  | .date descriptor =>
    match instant ctx descriptor with
    | .ok _ => none
    | .error e => some e
  | _ => none

end Symbol

/-- A value that may be missing, as the outcome of a reference. -/
def Resolution.ofOption : Option Value → Resolution
  | some value => .resolved value
  | none => .unresolved

/-- What a reference becomes in a context. -/
def Symbol.resolve (ctx : Context) : Symbol → Resolution
  | .literal => .literal
  | .object path => .ofOption (objectValue? ctx.object path)
  | .user key => .ofOption (userValue? ctx.user key)
  | .parent key => .ofOption (parentValue? ctx.parent key)
  | .date descriptor => .resolved (.string (String.ofList (instantOrNow ctx descriptor).isoText))
  | .env key => .resolved ((Fields.get? key ctx.env).getD (.bool false))

end DomainFilter
