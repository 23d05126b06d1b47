/-
# DomainFilter.Document.FromYaml — documents and contexts in YAML

The same fields as in JSON, in mappings only. A text without any node, and a mapping that is missing
where one is wanted, have no fields. The filters are a sequence of values of any kind; a record is a
mapping; a clock is written as nothing or as null, or is a scalar with a lenient date and time.
Values under other names are passed over, and so are the aliases in them.
-/
import DomainFilter.Document.Basic
import DomainFilter.Calendar.Reading
import DomainFilter.Yaml.Meaning

namespace DomainFilter

namespace Yaml.Graph

/-- The fields of a mapping: for each of the names its value, if there is one. No name may be there
twice, and every key has to be a scalar. -/
def fields (graph : Graph) (names : List String) (node : Node) : Reading (List (Option Node)) := do
  let pairs ← graph.pairs node
  let members ← pairs.mapM fun (key, value) => do
    let key ← graph.text key
    pure (key, value)
  names.mapM fun name =>
    match members.filter fun member => member.1 == name with
    | [] => pure none
    | [(_, value)] => pure (some value)
    | _ => failure

/-- A field's value read one way, or the default if the field is not there. -/
def optional {α : Type} (default : α) (read : Node → Reading α) : Option Node → Reading α
  | none => pure default
  | some node => read node

/-- Whether a clock is written as nothing or as null; a scalar whose tag asks for null and that says
something else is refused. -/
def saysNoClock? (text : List Char) (plain : Bool) (tag : Option Tag) : Option Bool :=
  if !plain then some false
  else if tag = none then some (isNullText text)
  else if tag = some (Tag.core "null") then
    if isNullText text && !text.isEmpty then some true else none
  else some false

/-- A clock. -/
def clock (graph : Graph) (node : Node) : Reading (Option Instant) := do
  match ← graph.follow node with
  | .scalar text plain tag =>
    match saysNoClock? text plain tag, Calendar.lenient? text with
    | some true, _ => pure none
    | some false, some instant => pure (some instant)
    | _, _ => failure
  | _ => failure

/-- A context. -/
def context (graph : Graph) (levels : Nat) (node : Node) : Reading DocumentContext := do
  let record := optional [] (graph.record (levels - 1))
  match ← graph.fields ["object", "user", "parent", "env", "now"] node with
  | [object, user, parent, env, now] =>
    let object ← record object
    let user ← record user
    let parent ← record parent
    let env ← record env
    let now ← optional none graph.clock now
    pure { object, user, parent, env, now }
  | _ => failure

/-- A domain. -/
def domain (graph : Graph) (levels : Nat) (node : Node) : Reading Domain := do
  let json ← graph.read asJson levels node
  pure (Domain.ofValue (.ofJson json))

/-- A list of domains. -/
def domains (graph : Graph) (levels : Nat) (node : Node) : Reading (List Domain) := do
  let items ← graph.items node
  items.mapM (graph.domain (levels - 1))

/-- A document. -/
def document (graph : Graph) (levels : Nat) (node : Node) : Reading Document := do
  match ← graph.fields ["domain", "filters", "context"] node with
  | [domainNode, filtersNode, contextNode] =>
    let domain ← optional .empty (graph.domain (levels - 1)) domainNode
    let filters ← optional [] (graph.domains (levels - 1)) filtersNode
    let context ← optional {} (graph.context (levels - 1)) contextNode
    pure { domain, filters, context }
  | _ => failure

end Yaml.Graph

/-- The document of a YAML text. -/
def Document.ofYamlText? (s : String) : Option Document := do
  let graph ← Yaml.Graph.ofText? s.toList
  graph.run (graph.document Yaml.depthLimit)

/-- The context of a YAML text. -/
def DocumentContext.ofYamlText? (s : String) : Option DocumentContext := do
  let graph ← Yaml.Graph.ofText? s.toList
  graph.run (graph.context Yaml.depthLimit)

end DomainFilter
