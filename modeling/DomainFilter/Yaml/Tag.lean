/-
# DomainFilter.Yaml.Tag — the names of tags

A tag is written as a *handle* and a *suffix*: the handle stands for a text in front of the suffix,
as `!!` stands for that of the tags that YAML itself defines. Both are made of URI characters, among
them escapes of single bytes. The escapes have to come in runs of the lengths of UTF-8 sequences,
which need not make a character; so a tag is a list of bytes.
-/
import DomainFilter.Json.Written

namespace DomainFilter.Yaml

/-- A tag or a part of one. A zero byte ends it. -/
abbrev Tag := List UInt8

namespace Tag

/-- The bytes of a text. -/
def ofText (s : String) : Tag := s.toUTF8.data.toList

/-- A character of the name of a handle, of an anchor or of a directive. -/
def isNameChar (c : Char) : Bool := c.isAlphanum || c == '_' || c == '-'

/-- A character of a tag that stands for itself. Commas and square brackets are allowed where the
tag stands between angle brackets or in a directive. -/
def isUriChar (bracketed : Bool) (c : Char) : Bool :=
  isNameChar c || ";/?:@&=+$.!~*'()".toList.contains c
    || (bracketed && (c == ',' || c == '[' || c == ']'))

/-- How many bytes follow the first byte of a UTF-8 sequence. -/
def following? (byte : Nat) : Option Nat :=
  if byte < 0x80 then some 0
  else if byte < 0xC0 then none
  else if byte < 0xE0 then some 1
  else if byte < 0xF0 then some 2
  else if byte < 0xF8 then some 3
  else none

/-- Whether a byte follows another one in a UTF-8 sequence. -/
def isTrailing (byte : Nat) : Bool := 0x80 ≤ byte && byte < 0xC0

/-- The bytes that the URI characters at the start of a text stand for, and the text after them.
`pending` more escapes have to come first. -/
def readUri (bracketed : Bool) : Nat → List Char → Option (Tag × List Char)
  | pending, '%' :: a :: b :: s => do
    let byte ← Json.Written.hex? [a, b]
    let pending ←
      if pending = 0 then following? byte
      else if isTrailing byte then some (pending - 1) else none
    let (bytes, s) ← readUri bracketed pending s
    some (byte.toUInt8 :: bytes, s)
  | pending, c :: s =>
    if pending ≠ 0 ∨ c = '%' then none
    else if isUriChar bracketed c then
      (readUri bracketed 0 s).map fun (bytes, s) => (c.toNat.toUInt8 :: bytes, s)
    else some ([], c :: s)
  | pending, [] => if pending = 0 then some ([], []) else none

/-- A tag up to its first zero byte. -/
def cut (tag : Tag) : Tag := tag.takeWhile (· != 0)

/-- The URI at the start of a text, which may not be empty. -/
def uri? (bracketed : Bool) (s : List Char) : Option (Tag × List Char) := do
  let (bytes, s) ← readUri bracketed 0 s
  if bytes = [] then none else some (cut bytes, s)

/-- The handle of local tags. -/
def localHandle : Tag := ofText "!"

/-- The exclamation mark and the name at the start of a text, whether another exclamation mark
closes them to a handle, and the text after them. -/
def readHandle : List Char → Option (Tag × Bool × List Char)
  | '!' :: s =>
    let name := s.takeWhile isNameChar
    let bytes := localHandle ++ ofText (String.ofList name)
    match s.drop name.length with
    | '!' :: s => some (bytes ++ localHandle, true, s)
    | s => some (bytes, false, s)
  | _ => none

/-- The handle and the suffix of the tag at the start of a text, and the text after them: a whole
tag between angle brackets, a handle with its suffix, or a local tag. A lone exclamation mark is a
whole tag too. -/
def read? : List Char → Option (Tag × Tag × List Char)
  | '!' :: '<' :: s => do
    let (suffix, s) ← uri? true s
    match s with
    | '>' :: s => some ([], suffix, s)
    | _ => none
  | s => do
    let (handle, closed, s) ← readHandle s
    if closed then
      let (suffix, s) ← uri? false s
      some (handle, suffix, s)
    else
      let (bytes, s) ← readUri false 0 s
      let suffix := cut (handle.drop 1 ++ bytes)
      if suffix = [] then some ([], localHandle, s) else some (localHandle, suffix, s)

/-- The handle and the text that it stands for at the start of a text, with blanks before each, and
the text after them. -/
def readDirective? (s : List Char) : Option (Tag × Tag × List Char) := do
  let (handle, closed, s) ← readHandle (s.dropWhile fun c => c == ' ' || c == '\t')
  if !closed && handle ≠ localHandle then none
  let blanks := s.takeWhile fun c => c == ' ' || c == '\t'
  if blanks = [] then none
  let (start, s) ← uri? true (s.drop blanks.length)
  some (handle, start, s)

/-- What handles stand for; the first entry of a handle counts. -/
abbrev Handles := List (Tag × Tag)

/-- What handles stand for unless a text says otherwise. -/
def defaultHandles : Handles :=
  [(localHandle, localHandle), (ofText "!!", ofText "tag:yaml.org,2002:")]

/-- The tag of a handle and a suffix; a tag without a handle is a whole tag. -/
def resolve? (handles : Handles) (handle suffix : Tag) : Option Tag :=
  if handle = [] then some suffix else (handles.lookup handle).map (· ++ suffix)

/-- A tag that YAML itself defines. -/
def core (name : String) : Tag := ofText ("tag:yaml.org,2002:" ++ name)

/-- Whether a tag starts with an exclamation mark. -/
def isMarked (tag : Tag) : Bool := tag.head? == localHandle.head?

/-- Whether bytes are text. -/
def isText (tag : Tag) : Bool := (String.fromUTF8? ⟨tag.toArray⟩).isSome

/-- Whether a tag is local: the exclamation mark is followed by text. -/
def isLocal (tag : Tag) : Bool := isMarked tag && isText tag

end Tag

end DomainFilter.Yaml
