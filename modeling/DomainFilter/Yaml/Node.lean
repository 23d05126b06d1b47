/-
# DomainFilter.Yaml.Node — the nodes of a YAML document

A node is a scalar, a sequence, a mapping or an alias; a mapping keeps its pairs in order, repeated
keys included. An alias does not hold the node it stands for, so a node may stand inside itself; a
`Graph` is the root node together with the nodes that have a number.

An anchor's number is the count of different names before it, and an alias has the number that its
name was given last. Of the nodes with one number, the one that starts last is meant; where a name
is used again, that may be a node of another name.
-/
import DomainFilter.Yaml.Event

namespace DomainFilter.Yaml

/-- A node. -/
inductive Node where
  | scalar (text : List Char) (plain : Bool) (tag : Option Tag)
  | sequence (items : List Node) (tag : Option Tag)
  | mapping (pairs : List (Node × Node)) (tag : Option Tag)
  /-- The node of a number. -/
  | alias (number : Nat)
  deriving Inhabited

/-- The nodes of a document. -/
structure Graph where
  root : Node
  /-- The nodes that have a number, each at its place. -/
  numbered : Array Node
  /-- How many events the document has. -/
  size : Nat

namespace Graph

/-! ## §A Numbers -/

/-- An event with what it needs to know of the anchors: the number of the node that starts here, or
that an alias stands for. -/
abbrev NumberedEvent := Event × Option Nat

/-- The anchor at the start of a node. -/
def anchorOf? : Event → Option (List Char)
  | .scalar props _ _ => props.anchor
  | .sequenceStart props => props.anchor
  | .mappingStart props => props.anchor
  | .alias _ => none
  | .collectionEnd => none

/-- The names of anchors with their numbers, each name once. -/
abbrev Names := List (List Char × Nat)

/-- The names with a new number for one of them. -/
def Names.renumber (name : List Char) (names : Names) : Names :=
  (name, names.length) :: names.filter fun entry => entry.1 != name

/-- The events with their numbers, after those given, the last one first. An alias of an unknown
name is refused. -/
def number : List Event → Names → List NumberedEvent → Option (List NumberedEvent)
  | [], _, numbered => some numbered.reverse
  | .alias name :: events, names, numbered => do
    let n ← names.lookup name
    number events names ((.alias name, some n) :: numbered)
  | event :: events, names, numbered =>
    match anchorOf? event with
    | some name =>
      number events (names.renumber name) ((event, some names.length) :: numbered)
    | none => number events names ((event, none) :: numbered)

/-! ## §B Nodes -/

/-- A collection that has started and not ended. -/
structure Open where
  isMapping : Bool
  tag : Option Tag
  number : Option Nat
  /-- Its place among the collections and scalars that have started. -/
  place : Nat
  /-- Its nodes so far, the last one first; those of a mapping are keys and values in turn. -/
  nodes : List Node

/-- A node that has a number, with its place. -/
structure Numbered where
  number : Nat
  place : Nat
  node : Node

/-- The state of building. -/
structure Builder where
  /-- The open collections, the innermost first. -/
  collections : List Open
  /-- The node that is no part of another one. -/
  root : Option Node
  numbered : List Numbered
  /-- How many events have passed. -/
  place : Nat

/-- The pairs of a list of keys and values in turn. -/
def pairUp : List Node → List (Node × Node) → List (Node × Node)
  | key :: value :: nodes, pairs => pairUp nodes ((key, value) :: pairs)
  | _, pairs => pairs.reverse

/-- The node of a collection that has ended. -/
def Open.close (collection : Open) : Node :=
  if collection.isMapping then .mapping (pairUp collection.nodes.reverse []) collection.tag
  else .sequence collection.nodes.reverse collection.tag

namespace Builder

/-- One more node, complete, which started at a place. -/
def add (number : Option Nat) (place : Nat) (node : Node) (b : Builder) : Builder :=
  let b := match number with
    | some number => { b with numbered := ⟨number, place, node⟩ :: b.numbered }
    | none => b
  match b.collections with
  | [] => { b with root := some node }
  | collection :: collections =>
    { b with collections := { collection with nodes := node :: collection.nodes } :: collections }

/-- A collection that starts. -/
def start (isMapping : Bool) (tag : Option Tag) (number : Option Nat) (b : Builder) : Builder :=
  { b with collections := ⟨isMapping, tag, number, b.place, []⟩ :: b.collections }

/-- The end of the innermost collection. -/
def finish (b : Builder) : Builder :=
  match b.collections with
  | [] => b
  | collection :: collections =>
    { b with collections }.add collection.number collection.place collection.close

/-- One more event. -/
def push (b : Builder) : NumberedEvent → Builder
  | (.alias _, number) => b.add none b.place (.alias (number.getD 0))
  | (.scalar props text plain, number) => b.add number b.place (.scalar text plain props.tag)
  | (.sequenceStart props, number) => b.start false props.tag number
  | (.mappingStart props, number) => b.start true props.tag number
  | (.collectionEnd, _) => b.finish

/-- The builder after one more event. -/
def next (b : Builder) (event : NumberedEvent) : Builder :=
  let b := b.push event
  { b with place := b.place + 1 }

/-- The nodes of a number so far, with the place of the one that counts. -/
abbrev Places := Array (Nat × Node)

/-- A numbered node takes its number over from one that started before it. -/
def settle (places : Places) (n : Numbered) : Places :=
  match places[n.number]? with
  | some (place, _) =>
    if place ≤ n.place then places.setIfInBounds n.number (n.place, n.node) else places
  | none => places

/-- The node of each number. -/
def numberedNodes (b : Builder) : Array Node :=
  let count := b.numbered.foldl (fun count n => max count (n.number + 1)) 0
  (b.numbered.foldl settle (Array.replicate count (0, .alias 0))).map Prod.snd

end Builder

/-- The graph of the events of a document. -/
def ofEvents? (events : List Event) : Option Graph := do
  let numbered ← number events [] []
  let b := numbered.foldl Builder.next ⟨[], none, [], 0⟩
  let root ← b.root
  some ⟨root, b.numberedNodes, b.place⟩

/-- The graph of a text. -/
def ofText? (s : List Char) : Option Graph := do
  let tokens ← Token.ofText? s
  let events ← Event.ofTokens? tokens
  ofEvents? events

end Graph

end DomainFilter.Yaml
