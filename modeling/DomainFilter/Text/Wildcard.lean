/-
# DomainFilter.Text.Wildcard — texts against `%` and `_` patterns

A pattern is a list of items: `%` stands for any run of characters, `_` for exactly one, and every
other character for itself. A pattern has to take up the whole text.

## §A The relation

`Matches items text` says it by consecutive pieces of the text, one piece per item.

## §B The decision

`suffixVerdicts items text` lists, for the text and each of its suffixes down to the empty one,
whether the items take it up. Each item turns the verdicts of the items after it into its own in
one pass, so a pattern with many `%` costs no more than its length times the text's.

## §C The decision by rows

The same the other way round: a row lists, for each prefix of the items up to all of them, whether it
takes up the text so far, and each character of the text turns the row into the next one.
-/

namespace DomainFilter.Text

/-- An item of a pattern. -/
inductive PatternItem where
  /-- Any run of characters, possibly none: `%`. -/
  | run
  /-- Exactly one character: `_`. -/
  | one
  /-- The character itself. -/
  | exact (c : Char)
  deriving DecidableEq

/-- The item that a character of a pattern stands for. -/
def PatternItem.ofChar : Char → PatternItem
  | '%' => .run
  | '_' => .one
  | c => .exact c

/-- The pieces of text that an item takes. -/
def PatternItem.Takes : PatternItem → List Char → Prop
  | .run, _ => True
  | .one, piece => ∃ c, piece = [c]
  | .exact c, piece => piece = [c]

/-! ## §A The relation -/

/-- The items take up consecutive pieces of the whole text. -/
inductive Matches : List PatternItem → List Char → Prop where
  | nil : Matches [] []
  | cons {item : PatternItem} {items : List PatternItem} {piece rest : List Char} :
      item.Takes piece → Matches items rest → Matches (item :: items) (piece ++ rest)

/-! ## §B The decision -/

/-- For each place of a list, whether it or a later place holds. -/
def laterHolds : List Bool → List Bool
  | [] => []
  | b :: bs =>
    let later := laterHolds bs
    (b || later.head?.getD false) :: later

/-- For the text and each of its suffixes, longest first, whether the items take it up. -/
def suffixVerdicts : List PatternItem → List Char → List Bool
  | [], text => text.map (fun _ => false) ++ [true]
  | .run :: items, text => laterHolds (suffixVerdicts items text)
  | .one :: items, text => (suffixVerdicts items text).tail ++ [false]
  | .exact c :: items, text =>
    text.zipWith (fun d verdict => d == c && verdict) (suffixVerdicts items text).tail ++ [false]

/-- Whether a text matches a pattern of `%`, `_` and literal characters. -/
def likeMatch (text pattern : List Char) : Bool :=
  (suffixVerdicts (pattern.map PatternItem.ofChar) text).head?.getD false

/-! ## §C The decision by rows -/

/-- The row before any character: from an entry on, each next prefix takes up the empty text if the
one before it does and it ends in a run. -/
def firstRow (entry : Bool) : List PatternItem → List Bool
  | [] => [entry]
  | item :: items => entry :: firstRow (entry && item == .run) items

/-- Whether a prefix that ends in the item takes up the text and the character `c` after it. `short`
says it of the prefix without the item; `old` and `oldShort` are the entries before the character. -/
def PatternItem.entry (c : Char) (short oldShort old : Bool) : PatternItem → Bool
  | .run => short || old
  | .one => oldShort
  | .exact d => oldShort && d == c

/-- The row after one more character, from an entry on. -/
def nextRow (c : Char) (entry : Bool) : List PatternItem → List Bool → List Bool
  | item :: items, oldShort :: old :: row =>
    entry :: nextRow c (item.entry c entry oldShort old) items (old :: row)
  | _, _ => [entry]

/-- The row after a text. No prefix but the empty one takes up the empty text without a run, and the
empty prefix nothing else. -/
def rowAfter (items : List PatternItem) (text : List Char) : List Bool :=
  text.foldl (fun row c => nextRow c false items row) (firstRow true items)

/-- Whether a text matches a pattern, by rows. -/
def rowMatch (text pattern : List Char) : Bool :=
  (rowAfter (pattern.map PatternItem.ofChar) text).getLast?.getD false

end DomainFilter.Text
