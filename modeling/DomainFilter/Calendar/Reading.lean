/-
# DomainFilter.Calendar.Reading — dates and times spelled out

* §A The fields that every form is made of: numbers of bounded width, offsets, and their checks.
* §B `rfc3339?`: the strict form `2024-05-17T10:20:30.5+05:30`, with `T`, `t` or one space between
  date and time, every field at full width, and no blanks.
* §C `lenient?`: the form a clock setting takes, which allows blanks before every number, mark and
  offset and at the end, shorter fields, years with a sign, and an offset spelled `UTC`.
* §D `date?` and `localTime?`: a date, and a date with a time of day but no offset; blanks are
  allowed before each number, and where the mark between the two is a blank, any run of blanks
  matches it.

Each reader of a part gives what it read and the text after it. Fields out of range, dates that do
not exist and instants outside the calendar are refused. A second 60 is a leap second.
-/
import DomainFilter.Calendar.Instant
import DomainFilter.Number.Digits
import DomainFilter.Text.Blank

namespace DomainFilter.Calendar

open Text (trimStart isBlank)

/-! ## §A Fields -/

/-- The text after a character that has to come first. -/
def literal (c : Char) : List Char → Option (List Char)
  | d :: s => if d = c then some s else none
  | [] => none

/-- A number of at most so many digits, after any blanks. -/
def looseNumber (most : Nat) (s : List Char) : Option (Nat × List Char) :=
  Digits.number? 1 most (trimStart s)

/-- A year: any number after a sign, or one of at most four digits, after any blanks. -/
def looseYear (s : List Char) : Option (Int × List Char) :=
  match trimStart s with
  | '-' :: s => (Digits.number? 1 s.length s).map fun (n, s) => (-(n : Int), s)
  | '+' :: s => (Digits.number? 1 s.length s).map fun (n, s) => ((n : Int), s)
  | s => (Digits.number? 1 4 s).map fun (n, s) => ((n : Int), s)

/-- The nanoseconds after a point, if there is one: nine digits count, more are passed over. -/
def fraction : List Char → Option (Nat × List Char)
  | '.' :: s =>
    match Digits.takeRun 9 s with
    | ([], _) => none
    | (run, s) => some (Digits.read run * Nat.pow 10 (9 - run.length), s.dropWhile Char.isDigit)
  | s => some (0, s)

/-- The second of the day and the nanoseconds of a time, if there is such a time. -/
def timeOfDay? (hour minute second nano : Nat) : Option (Nat × Nat) :=
  if hour ≤ 23 ∧ minute ≤ 59 ∧ second ≤ 60 then
    if second = 60 then some (hour * 3600 + minute * 60 + 59, nano + nanosPerSecond)
    else some (hour * 3600 + minute * 60 + second, nano)
  else none

/-- The local reading that fields say, if there is such a date and time. -/
def reading? (date : CivilDate) (hour minute second nano : Nat) : Option LocalTime := do
  let day ← date.toDay?
  let (second, nano) ← timeOfDay? hour minute second nano
  some ⟨day, second, nano⟩

/-- The sign of an offset: plus, hyphen or the minus sign of mathematics. -/
def offsetSign : List Char → Option (Bool × List Char)
  | '+' :: s => some (false, s)
  | '-' :: s => some (true, s)
  | '\u2212' :: s => some (true, s)
  | _ => none

/-- An offset in seconds east: `Z`, or a sign, two digits of hours, what stands between, and two
digits of minutes. -/
def offset (between : List Char → Option (List Char)) : List Char → Option (Int × List Char)
  | 'Z' :: s => some (0, s)
  | 'z' :: s => some (0, s)
  | s => do
    let (negative, s) ← offsetSign s
    let (hours, s) ← Digits.number? 2 2 s
    let s ← between s
    let (minutes, s) ← Digits.number? 2 2 s
    if hours ≤ 23 ∧ minutes ≤ 59 then
      let seconds : Int := hours * 3600 + minutes * 60
      some (if negative then -seconds else seconds, s)
    else none

/-- The mark between date and time. -/
def dateTimeMark : List Char → Option (List Char)
  | 'T' :: s => some s
  | 't' :: s => some s
  | ' ' :: s => some s
  | _ => none

/-! ## §B The strict form -/

/-- The instant that a text of the strict form says. -/
def rfc3339? (s : List Char) : Option Instant := do
  let (year, s) ← Digits.number? 4 4 s
  let s ← literal '-' s
  let (month, s) ← Digits.number? 2 2 s
  let s ← literal '-' s
  let (day, s) ← Digits.number? 2 2 s
  let s ← dateTimeMark s
  let (hour, s) ← Digits.number? 2 2 s
  let s ← literal ':' s
  let (minute, s) ← Digits.number? 2 2 s
  let s ← literal ':' s
  let (second, s) ← Digits.number? 2 2 s
  let (nano, s) ← fraction s
  let (offset, s) ← offset (literal ':') s
  if s ≠ [] then none
  let time ← reading? ⟨year, month, day⟩ hour minute second nano
  time.toInstant? offset

/-! ## §C The lenient form -/

/-- The offset at the end of a lenient text: spelled `UTC` in any case, or hours and minutes with
any colons and blanks between them. -/
def lenientOffset (s : List Char) : Option (Int × List Char) :=
  if (s.take 3).map Char.toUpper = ['U', 'T', 'C'] then some (0, s.drop 3)
  else offset (fun s => some (s.dropWhile fun c => c == ':' || isBlank c)) s

/-- The instant that a text of the lenient form says. -/
def lenient? (s : List Char) : Option Instant := do
  let (year, s) ← looseYear s
  let s ← literal '-' (trimStart s)
  let (month, s) ← looseNumber 2 s
  let s ← literal '-' (trimStart s)
  let (day, s) ← looseNumber 2 s
  let s ← dateTimeMark s
  let (hour, s) ← looseNumber 2 s
  let s ← literal ':' (trimStart s)
  let (minute, s) ← looseNumber 2 s
  let s ← literal ':' (trimStart s)
  let (second, s) ← looseNumber 2 s
  let (nano, s) ← fraction s
  let (offset, s) ← lenientOffset (trimStart s)
  if trimStart s ≠ [] then none
  let time ← reading? ⟨year, month, day⟩ hour minute second nano
  time.toInstant? offset

/-! ## §D Dates and local times -/

/-- The date at the start of a text. -/
def looseDate (s : List Char) : Option (CivilDate × List Char) := do
  let (year, s) ← looseYear s
  let s ← literal '-' s
  let (month, s) ← looseNumber 2 s
  let s ← literal '-' s
  let (day, s) ← looseNumber 2 s
  some (⟨year, month, day⟩, s)

/-- The day that a whole text says. -/
def date? (s : List Char) : Option Int := do
  let (date, s) ← looseDate s
  if s ≠ [] then none
  date.toDay?

/-- The local reading that a whole text says, with the given mark between date and time. -/
def localTime? (mark : List Char → Option (List Char)) (s : List Char) : Option LocalTime := do
  let (date, s) ← looseDate s
  let s ← mark s
  let (hour, s) ← looseNumber 2 s
  let s ← literal ':' s
  let (minute, s) ← looseNumber 2 s
  let s ← literal ':' s
  let (second, s) ← looseNumber 2 s
  let (nano, s) ← fraction s
  if s ≠ [] then none
  reading? date hour minute second nano

end DomainFilter.Calendar
