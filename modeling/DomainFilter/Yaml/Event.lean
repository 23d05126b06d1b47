/-
# DomainFilter.Yaml.Event — the parts of a YAML document in order

The tokens of a text are read by the grammar of YAML into events: scalars, aliases, and the starts
and ends of collections. What is missing between two tokens, as the value in `key:`, is an empty
plain scalar. A text is one document.

The reader keeps a list of what is still expected, the next first. Each step takes the first
expectation and the tokens that begin it, and puts events out and further expectations in their
place; no step looks further than one token ahead, and collections may nest as deep as they like.
-/
import DomainFilter.Yaml.Token

namespace DomainFilter.Yaml

/-- What may stand before a node: the anchor that names it, and its tag. -/
structure Properties where
  anchor : Option (List Char) := none
  tag : Option Tag := none

/-- A part of a document. -/
inductive Event where
  | alias (name : List Char)
  | scalar (props : Properties) (text : List Char) (plain : Bool)
  | sequenceStart (props : Properties)
  | mappingStart (props : Properties)
  /-- The end of the collection that started last and has not ended. -/
  | collectionEnd

/-- What the grammar expects next. -/
inductive Expectation where
  /-- A node: a block collection only where it may stand, and entries without indentation of their
  own only as a part of a block mapping. -/
  | node (block indentless : Bool)
  /-- The further entries of a block sequence, up to its end. -/
  | entries
  /-- The further entries of a block sequence without indentation of its own. -/
  | indentlessEntries
  /-- The further pairs of a block mapping, up to its end. -/
  | pairs
  /-- The value of a pair of a block mapping. -/
  | pairValue
  /-- The items of a flow sequence: the first one, or the further ones. -/
  | flowItems (first : Bool)
  /-- The key of a pair that is an item of a flow sequence. -/
  | itemKey
  /-- The value of such a pair. -/
  | itemValue
  /-- The end of such a pair. -/
  | itemEnd
  /-- The pairs of a flow mapping: the first one, or the further ones. -/
  | flowPairs (first : Bool)
  /-- The value of a pair of a flow mapping. -/
  | flowValue
  /-- No value, where a pair of a flow mapping has no key mark. -/
  | noValue

namespace Event

/-- What is missing. -/
def missing : Event := .scalar {} [] true

/-! ## §A Nodes -/

/-- The anchor and the tag at the start of the tokens, in either order. -/
def readProperties (handles : Tag.Handles) (ts : List Token) : Option (Properties × List Token) :=
  let tagged (anchor : Option (List Char)) (handle suffix : Tag) (ts : List Token) :=
    (Tag.resolve? handles handle suffix).map fun tag => ((⟨anchor, some tag⟩ : Properties), ts)
  match ts with
  | .anchor name :: .tag handle suffix :: ts => tagged (some name) handle suffix ts
  | .tag handle suffix :: .anchor name :: ts => tagged (some name) handle suffix ts
  | .anchor name :: ts => some (⟨some name, none⟩, ts)
  | .tag handle suffix :: ts => tagged none handle suffix ts
  | ts => some ({}, ts)

/-- The events, the expectations and the tokens that a step leaves. -/
abbrev Step := List Event × List Expectation × List Token

/-- A node after its properties. -/
def readContent (block indentless : Bool) (props : Properties) (ts : List Token) : Option Step :=
  match ts, block, indentless with
  | .blockEntry :: _, _, true => some ([.sequenceStart props], [.indentlessEntries], ts)
  | .scalar text plain :: ts, _, _ => some ([.scalar props text plain], [], ts)
  | .flowSequenceStart :: ts, _, _ => some ([.sequenceStart props], [.flowItems true], ts)
  | .flowMappingStart :: ts, _, _ => some ([.mappingStart props], [.flowPairs true], ts)
  | .blockSequenceStart :: ts, true, _ => some ([.sequenceStart props], [.entries], ts)
  | .blockMappingStart :: ts, true, _ => some ([.mappingStart props], [.pairs], ts)
  | ts, _, _ =>
    if props.anchor.isSome || props.tag.isSome then some ([.scalar props [] true], [], ts) else none

/-- A node. -/
def readNode (handles : Tag.Handles) (block indentless : Bool) : List Token → Option Step
  | .alias name :: ts => some ([.alias name], [], ts)
  | ts => do
    let (props, ts) ← readProperties handles ts
    readContent block indentless props ts

/-- A node and what follows it, unless the next token is one that shows that the node is missing. -/
def unlessNext (ends : List Token) (node : Expectation) (next : List Expectation)
    (ts : List Token) : Step :=
  if (ts.take 1).any ends.contains then ([missing], next, ts) else ([], node :: next, ts)

/-! ## §B Block collections -/

/-- The tokens after which a part of a block mapping is missing. -/
def pairEnds : List Token := [.key, .value, .blockEnd]

/-- The entries of a block sequence. -/
def readEntries : List Token → Option Step
  | .blockEntry :: ts =>
    some (unlessNext [.blockEntry, .blockEnd] (.node true false) [.entries] ts)
  | .blockEnd :: ts => some ([.collectionEnd], [], ts)
  | _ => none

/-- The entries of a block sequence without indentation of its own. -/
def readIndentlessEntries : List Token → Step
  | .blockEntry :: ts =>
    unlessNext (.blockEntry :: pairEnds) (.node true false) [.indentlessEntries] ts
  | ts => ([.collectionEnd], [], ts)

/-- The pairs of a block mapping. -/
def readPairs : List Token → Option Step
  | .key :: ts => some (unlessNext pairEnds (.node true true) [.pairValue, .pairs] ts)
  | .blockEnd :: ts => some ([.collectionEnd], [], ts)
  | _ => none

/-- The value of a pair of a block mapping. -/
def readPairValue : List Token → Step
  | .value :: ts => unlessNext pairEnds (.node true true) [] ts
  | ts => ([missing], [], ts)

/-! ## §C Flow collections -/

/-- An item of a flow sequence, or its end. An item with a key mark is a mapping of that one
pair. -/
def readFlowItem : List Token → Step
  | .flowSequenceEnd :: ts => ([.collectionEnd], [], ts)
  | .key :: ts => ([.mappingStart {}], [.itemKey, .itemValue, .itemEnd, .flowItems false], ts)
  | ts => ([], [.node false false, .flowItems false], ts)

/-- The items of a flow sequence. -/
def readFlowItems (first : Bool) : List Token → Option Step
  | .flowSequenceEnd :: ts => some ([.collectionEnd], [], ts)
  | .flowEntry :: ts => if first then none else some (readFlowItem ts)
  | ts => if first then some (readFlowItem ts) else none

/-- The key of a pair that is an item of a flow sequence. Where it is missing, the token that shows
so is passed over. -/
def readItemKey : List Token → Step
  | .value :: ts => ([missing], [], ts)
  | .flowEntry :: ts => ([missing], [], ts)
  | .flowSequenceEnd :: ts => ([missing], [], ts)
  | ts => ([], [.node false false], ts)

/-- The value of such a pair. -/
def readItemValue : List Token → Step
  | .value :: ts => unlessNext [.flowEntry, .flowSequenceEnd] (.node false false) [] ts
  | ts => ([missing], [], ts)

/-- A pair of a flow mapping, or its end. What has no key mark has no value. -/
def readFlowPair : List Token → Step
  | .flowMappingEnd :: ts => ([.collectionEnd], [], ts)
  | .key :: ts =>
    unlessNext [.value, .flowEntry, .flowMappingEnd] (.node false false)
      [.flowValue, .flowPairs false] ts
  | ts => ([], [.node false false, .noValue, .flowPairs false], ts)

/-- The pairs of a flow mapping. -/
def readFlowPairs (first : Bool) : List Token → Option Step
  | .flowMappingEnd :: ts => some ([.collectionEnd], [], ts)
  | .flowEntry :: ts => if first then none else some (readFlowPair ts)
  | ts => if first then some (readFlowPair ts) else none

/-- The value of a pair of a flow mapping. -/
def readFlowValue : List Token → Step
  | .value :: ts => unlessNext [.flowEntry, .flowMappingEnd] (.node false false) [] ts
  | ts => ([missing], [], ts)

/-! ## §D Documents -/

/-- What an expectation becomes at the start of the tokens. -/
def step? (handles : Tag.Handles) (ts : List Token) : Expectation → Option Step
  | .node block indentless => readNode handles block indentless ts
  | .entries => readEntries ts
  | .indentlessEntries => some (readIndentlessEntries ts)
  | .pairs => readPairs ts
  | .pairValue => some (readPairValue ts)
  | .flowItems first => readFlowItems first ts
  | .itemKey => some (readItemKey ts)
  | .itemValue => some (readItemValue ts)
  | .itemEnd => some ([.collectionEnd], [], ts)
  | .flowPairs first => readFlowPairs first ts
  | .flowValue => some (readFlowValue ts)
  | .noValue => some ([missing], [], ts)

/-- The events of what is expected, after those given, the last one first; and the tokens left. -/
def run (handles : Tag.Handles) :
    Nat → List Expectation → List Token → List Event → Option (List Event × List Token)
  | _, [], ts, events => some (events.reverse, ts)
  | 0, _ :: _, _, _ => none
  | fuel + 1, expectation :: expected, ts, events => do
    let (new, further, ts) ← step? handles ts expectation
    run handles fuel (further ++ expected) ts (new.reverseAux events)

/-- The events of one node and the tokens after it. A token brings at most four expectations, and
each of them is one step. -/
def ofNode? (handles : Tag.Handles) (ts : List Token) : Option (List Event × List Token) :=
  run handles (8 * ts.length + 8) [.node true false] ts []

/-- Whether a version of YAML is one that is understood. -/
def isKnownVersion (major minor : Nat) : Bool := major == 1 && (minor == 1 || minor == 2)

/-- The handles that the lines before a document say, and the tokens after those lines. The version
and each handle may be said once. -/
def readHandles : List Token → Bool → Tag.Handles → Option (Tag.Handles × List Token)
  | .version major minor :: ts, versionSaid, handles =>
    if versionSaid || !isKnownVersion major minor then none else readHandles ts true handles
  | .handle name start :: ts, versionSaid, handles =>
    if (handles.lookup name).isSome then none
    else readHandles ts versionSaid ((name, start) :: handles)
  | ts, _, handles => some (handles ++ Tag.defaultHandles, ts)

/-- Whether the next token shows that a document that has been started has no node. -/
def endsDocument : List Token → Bool
  | .documentStart :: _ | .documentEnd :: _ | .version _ _ :: _ | .handle _ _ :: _ | [] => true
  | _ => false

/-- Whether a text starts its document by a mark or by a line about it. -/
def startsMarked : List Token → Bool
  | .documentStart :: _ | .version _ _ :: _ | .handle _ _ :: _ => true
  | _ => false

/-- The events of the node of the first document, and the tokens after it. A text without tokens has
a missing node, and so has a document that ends right after its start mark. -/
def ofFirst? (ts : List Token) : Option (List Event × List Token) := do
  if ts = [] then some ([missing], [])
  else if startsMarked ts then
    let (handles, ts) ← readHandles ts false []
    match ts with
    | .documentStart :: ts =>
      if endsDocument ts then some ([missing], ts) else ofNode? handles ts
    | _ => none
  else ofNode? Tag.defaultHandles ts

/-- The events of the tokens of a text; nothing but end marks may follow the document. -/
def ofTokens? (ts : List Token) : Option (List Event) := do
  let (events, ts) ← ofFirst? ts
  if ts.all (· == .documentEnd) then some events else none

end Event

end DomainFilter.Yaml
