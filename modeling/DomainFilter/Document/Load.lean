/-
# DomainFilter.Document.Load — documents from files

A file is given by its name and its content, if there is such a file. The content has to be UTF-8
text, whatever the name says. The format is the extension of the name, which is what follows the
last point of the last part of the path; a part that starts with its only point has no extension.
-/
import DomainFilter.Document.FromJson
import DomainFilter.Document.FromYaml

namespace DomainFilter

/-- A format of documents. -/
inductive DocumentFormat where
  | json
  | yaml
  deriving DecidableEq

namespace DocumentFormat

/-- The last part of a path that names something: not empty and not the directory itself. -/
def lastPart? (name : List Char) : Option (List Char) :=
  let parts := (Text.segments '/' name).filter fun part => part != [] && part != ['.']
  match parts.getLast? with
  | some part => if part = ['.', '.'] then none else some part
  | none => none

/-- The extension of the last part of a path. -/
def extension? (name : List Char) : Option (List Char) := do
  let part ← lastPart? name
  match (Text.segments '.' part).reverse with
  | [_, []] => none
  | last :: _ :: _ => some last
  | _ => none

/-- The format that a name says. Letter case matters. -/
def ofName? (name : String) : Option DocumentFormat :=
  match (extension? name.toList).map String.ofList with
  | some "yaml" => some .yaml
  | some "yml" => some .yaml
  | some "json" => some .json
  | _ => none

end DocumentFormat

namespace Document

/-- The document of a text in a format. -/
def ofText (format : DocumentFormat) (s : String) : Except DocumentError Document :=
  match format with
  | .json => (ofJsonText? s).elim (.error .json) .ok
  | .yaml => (ofYamlText? s).elim (.error .yaml) .ok

/-- The document of a file. -/
def load (name : String) (content : Option ByteArray) : Except DocumentError Document :=
  match content.bind String.fromUTF8? with
  | none => .error .unreadable
  | some s =>
    match DocumentFormat.ofName? name with
    | none => .error (.unsupportedFormat name)
    | some format => ofText format s

end Document

/-- The context of a text in a format. -/
def DocumentContext.ofText (format : DocumentFormat) (s : String) :
    Except DocumentError DocumentContext :=
  match format with
  | .json => (ofJsonText? s).elim (.error .json) .ok
  | .yaml => (ofYamlText? s).elim (.error .yaml) .ok

end DomainFilter
