/-
# DomainFilter.Value.Text — values as text

The text that a value has in a comparison of texts and in a message. A whole number of at most
`2 ^ 53 - 1` in magnitude is written as an integer, so the negative zero is `0`; any other number is
written by the fewest digits that read back, always positionally. An array is its items with commas
between them, a null item leaving its place empty, and every object has the same text.
-/
import DomainFilter.Value.Basic
import DomainFilter.Number.Layout

namespace DomainFilter

/-- Numbers in texts are always positional, and whole ones have no point. -/
def Value.numberLayout : NumberLayout where
  positional _ := true
  wholePoint := false
  tie := .up

/-- The text of a number. -/
def Binary64.text (x : Binary64) : List Char :=
  match x.exactInt? with
  | some n => Digits.writeInt n
  | none =>
    match x with
    | .nan => "NaN".toList
    | .signed negative m =>
      if m = Binary64.infinity then
        if negative then "-Infinity".toList else "Infinity".toList
      else Value.numberLayout.write negative m

namespace Value

mutual

/-- The text of a value. -/
def text : Value → List Char
  | .null => "null".toList
  | .bool b => if b then "true".toList else "false".toList
  | .number x => x.text
  | .string s => s.toList
  | .array items => itemsText items
  | .object _ => "[object Object]".toList

/-- The texts of the items of an array, with commas between them. -/
def itemsText : List Value → List Char
  | [] => []
  | [item] => if item.isNull then [] else text item
  | item :: next :: rest =>
    (if item.isNull then [] else text item) ++ ',' :: itemsText (next :: rest)

end

/-- The text of a value, as a string. -/
def toText (value : Value) : String := String.ofList value.text

end Value

end DomainFilter
