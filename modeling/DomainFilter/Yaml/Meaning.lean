/-
# DomainFilter.Yaml.Meaning — what the nodes of a YAML document mean

* §A A plain scalar without tag is null, a boolean, a whole number of 64 bits, a real number, or a
  string if it is none of them; a whole number that takes up to 128 bits means nothing, and a longer
  one is a real number. Quoted and block scalars are strings. A tag of YAML itself asks for one of
  these kinds; a local tag means nothing.
* §B A reading of a node may follow a hundred aliases for each event of the document, and takes
  collections up to a depth of 128. That bounds it where nodes stand inside themselves.
* §C As JSON, a real number that is not finite is null, and a key is the text of any scalar. As a
  value, such numbers stay, and keys have to be strings.

Of repeated keys the last one counts.
-/
import DomainFilter.Yaml.Node
import DomainFilter.Value.Json
import DomainFilter.Number.Numeral

namespace DomainFilter.Yaml

/-! ## §A Scalars -/

/-- What a scalar means. -/
inductive Meaning where
  | null
  | bool (b : Bool)
  | whole (n : Int)
  | real (x : Binary64)
  | string (s : List Char)

def isNullText (s : List Char) : Bool :=
  s.isEmpty || ["null", "Null", "NULL", "~"].any fun t => t.toList == s

def boolOf? (s : List Char) : Option Bool :=
  if ["true", "True", "TRUE"].any fun t => t.toList == s then some true
  else if ["false", "False", "FALSE"].any fun t => t.toList == s then some false
  else none

/-- The number that digits of a base say. -/
def digitsOf? (base : Nat) (s : List Char) : Option Nat :=
  if s = [] then none
  else s.foldlM (fun n c => do
    let d ← Json.Written.hexValue? c
    if d < base then some (base * n + d) else none) 0

/-- The natural number that an unsigned text says: in base 16, 8 or 2 after a mark, else in base 10
without a zero in front. -/
def naturalOf? (s : List Char) : Option Nat :=
  match s with
  | '0' :: 'x' :: s => digitsOf? 16 s
  | '0' :: 'o' :: s => digitsOf? 8 s
  | '0' :: 'b' :: s => digitsOf? 2 s
  | '0' :: _ :: _ => none
  | s => digitsOf? 10 s

/-- The integer that a text says. -/
def integerOf? : List Char → Option Int
  | '-' :: s => (naturalOf? s).map fun n => -(n : Int)
  | '+' :: s => (naturalOf? s).map Int.ofNat
  | s => (naturalOf? s).map Int.ofNat

/-- Whether an integer fits 64 bits, with or without sign. -/
def isWord (n : Int) : Bool := -(Nat.pow 2 63 : Int) ≤ n && n < Nat.pow 2 64

/-- Whether an integer fits 128 bits, with or without sign. -/
def isDoubleWord (n : Int) : Bool := -(Nat.pow 2 127 : Int) ≤ n && n < Nat.pow 2 128

/-- A text without the plus sign in front. -/
def withoutPlus : List Char → List Char
  | '+' :: s => s
  | s => s

/-- Whether a text is digits with a zero in front, which is no number here. -/
def hasIdleZero (s : List Char) : Bool :=
  match (Numeral.takeSign s).2 with
  | '0' :: c :: s => (c :: s).all Char.isDigit
  | _ => false

/-- The real number that a text says. Infinity and not-a-number are spelled after a point. -/
def realOf? (s : List Char) : Option Binary64 :=
  let t := withoutPlus s
  if [".inf", ".Inf", ".INF"].any fun w => w.toList == t then
    some (.signed false Binary64.infinity)
  else if ["-.inf", "-.Inf", "-.INF"].any fun w => w.toList == s then
    some (.signed true Binary64.infinity)
  else if [".nan", ".NaN", ".NAN"].any fun w => w.toList == s then some .nan
  else if t.length < s.length && (t.take 1).any (fun c => c == '+' || c == '-') then none
  else (Numeral.read? t).bind fun x => if x.isFinite then some x else none

/-- The meaning of a scalar that is no whole number. -/
def realMeaning (s : List Char) : Meaning :=
  if hasIdleZero s then .string s
  else
    match realOf? s with
    | some x => .real x
    | none => .string s

/-- The meaning of a plain scalar without tag. -/
def plainMeaning? (s : List Char) : Option Meaning :=
  if isNullText s then some .null
  else
    match boolOf? s, integerOf? s with
    | some b, _ => some (.bool b)
    | none, some n =>
      if isWord n then some (.whole n)
      else if isDoubleWord n then none
      else some (realMeaning s)
    | none, none => some (realMeaning s)

/-- The meaning of a scalar whose tag is not local. -/
def taggedMeaning? (s : List Char) (plain : Bool) (tag : Tag) : Option Meaning :=
  if tag = Tag.core "null" then
    if isNullText s && !s.isEmpty then some .null else none
  else if tag = Tag.core "bool" then (boolOf? s).map .bool
  else if tag = Tag.core "int" then
    (integerOf? s).bind fun n => if isWord n then some (.whole n) else none
  else if tag = Tag.core "float" then (realOf? s).map .real
  else if tag.isMarked && plain then plainMeaning? s
  else some (.string s)

/-- The meaning of a scalar. -/
def scalarMeaning? (s : List Char) (plain : Bool) : Option Tag → Option Meaning
  | none => if plain then plainMeaning? s else some (.string s)
  | some tag => if tag.isLocal then none else taggedMeaning? s plain tag

/-- Whether a collection's tag leaves it a collection. -/
def isPlainCollection (tag : Option Tag) : Bool := tag.all fun tag => !tag.isLocal

/-! ## §B Readings -/

/-- How deep collections may nest. -/
def depthLimit : Nat := 128

/-- A reading of a part of a document: it knows how many more aliases may be followed. -/
abbrev Reading (α : Type) := StateT Nat Option α

namespace Graph

/-- What a text may follow before its first alias. -/
def aliasLimit (graph : Graph) : Nat := 100 * graph.size

/-- The result of a reading of the whole document. -/
def run {α : Type} (graph : Graph) (reading : Node → Reading α) : Option α :=
  (reading graph.root).run' graph.aliasLimit

/-- The node itself, or the one that it stands for as an alias. -/
def follow (graph : Graph) : Node → Reading Node
  | .alias number => fun aliases =>
    match aliases with
    | 0 => none
    | aliases + 1 => graph.numbered[number]?.map (·, aliases)
  | node => pure node

/-- The text of a scalar that is a key. -/
def text (graph : Graph) (node : Node) : Reading String := do
  match ← graph.follow node with
  | .scalar text _ _ => pure (String.ofList text)
  | _ => failure

/-- The string that a node means. -/
def string (graph : Graph) (node : Node) : Reading String := do
  match ← graph.follow node with
  | .scalar text plain tag =>
    match scalarMeaning? text plain tag with
    | some (.string s) => pure (String.ofList s)
    | _ => failure
  | _ => failure

/-- The items of a sequence; what is missing has none. -/
def items (graph : Graph) (node : Node) : Reading (List Node) := do
  match ← graph.follow node with
  | .sequence items _ => pure items
  | .scalar [] true _ => pure []
  | _ => failure

/-- The pairs of a mapping; what is missing has none. -/
def pairs (graph : Graph) (node : Node) : Reading (List (Node × Node)) := do
  match ← graph.follow node with
  | .mapping pairs _ => pure pairs
  | .scalar [] true _ => pure []
  | _ => failure

/-! ## §C As JSON and as values -/

/-- A way of taking nodes: what scalars, sequences and mappings become, and how keys are read. -/
structure Target (α : Type) where
  scalar : Meaning → α
  sequence : List α → α
  mapping : Fields α → α
  key : Graph → Node → Reading String

/-- A scalar taken one way. -/
def readScalar {α : Type} (target : Target α) (text : List Char) (plain : Bool)
    (tag : Option Tag) : Reading α :=
  match scalarMeaning? text plain tag with
  | some meaning => pure (target.scalar meaning)
  | none => failure

/-- The fields of pairs whose values are read the given way. -/
def readFields {α : Type} (key : Node → Reading String) (read : Node → Reading α)
    (pairs : List (Node × Node)) : Reading (Fields α) := do
  let fields ← pairs.mapM fun (keyNode, valueNode) => do
    let key ← key keyNode
    let value ← read valueNode
    pure (key, value)
  pure (Fields.ofPairs fields)

/-- A node taken one way, with room for so many levels of nesting. -/
def read {α : Type} (graph : Graph) (target : Target α) : Nat → Node → Reading α
  | 0, node => do
    match ← graph.follow node with
    | .scalar text plain tag => readScalar target text plain tag
    | _ => failure
  | levels + 1, node => do
    match ← graph.follow node with
    | .scalar text plain tag => readScalar target text plain tag
    | .sequence items tag =>
      if isPlainCollection tag then
        let items ← items.mapM (graph.read target levels)
        pure (target.sequence items)
      else failure
    | .mapping pairs tag =>
      if isPlainCollection tag then
        let fields ← readFields (target.key graph) (graph.read target levels) pairs
        pure (target.mapping fields)
      else failure
    | .alias _ => failure

/-- A meaning as JSON. -/
def jsonOf : Meaning → Json
  | .null => .null
  | .bool b => .bool b
  | .whole n => .whole n
  | .real x => Value.realJson x
  | .string s => .string (String.ofList s)

/-- Nodes as JSON. -/
def asJson : Target Json := ⟨jsonOf, .array, .object, text⟩

/-- A meaning as a value. -/
def valueOf : Meaning → Value
  | .null => .null
  | .bool b => .bool b
  | .whole n => .number (Binary64.ofInt n)
  | .real x => .number x
  | .string s => .string (String.ofList s)

/-- Nodes as values. -/
def asValue : Target Value := ⟨valueOf, .array, .object, string⟩

/-- A node as a record. The names of its fields are the texts of any scalars. -/
def record (graph : Graph) (levels : Nat) (node : Node) : Reading Record := do
  let pairs ← graph.pairs node
  readFields graph.text (graph.read asValue (levels - 1)) pairs

end Graph

end DomainFilter.Yaml
