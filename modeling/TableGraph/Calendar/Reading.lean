/-
Reading days, times and moments.

A number may follow white space and have fewer digits than its field; a year has at most four digits unless it has a
sign. A moment is a day, then a time after white space or the letter T; seconds may be left out after white space, and
so may the time. Moments with an offset from universal time have fixed widths instead.
-/
import TableGraph.Calendar.DateTime
import TableGraph.Text.Blank

namespace TableGraph

namespace Calendar

open Text

/-- reads a number of at most `most` digits after white space -/
def field? (most : Nat) (s : List Char) : Option (Nat × List Char) := Digits.take? 1 most (trimStart s)

/-- reads a given character -/
def mark? (c : Char) : List Char → Option (List Char)
  | [] => none
  | d :: rest => if d = c then some rest else none

/-- reads a year after white space: up to four digits, or a sign and any number of digits -/
def year? (s : List Char) : Option (Int × List Char) :=
  match trimStart s with
  | '-' :: rest => (Digits.take? 1 rest.length rest).map fun (n, rest) => (-(n : Int), rest)
  | '+' :: rest => (Digits.take? 1 rest.length rest).map fun (n, rest) => ((n : Int), rest)
  | rest => (Digits.take? 1 4 rest).map fun (n, rest) => ((n : Int), rest)

/-- reads year, month and day joined by hyphens -/
def date? (s : List Char) : Option (Date × List Char) := do
  let (year, s) ← year? s
  let s ← mark? '-' s
  let (month, s) ← field? 2 s
  let s ← mark? '-' s
  let (day, s) ← field? 2 s
  let date ← Date.ofParts? year month day
  return (date, s)

/-- reads the digits of a fraction of a second as nanoseconds; digits after the ninth are skipped -/
def nanos? (s : List Char) : Option (Nat × List Char) :=
  let digits := s.takeWhile Char.isDigit
  if digits.isEmpty then none
  else
    let kept := digits.take 9
    some (Digits.value kept * Nat.pow 10 (9 - kept.length), s.dropWhile Char.isDigit)

/-- reads a point and a fraction of a second, if there is a point -/
def fraction? : List Char → Option (Nat × List Char)
  | '.' :: rest => nanos? rest
  | s => some (0, s)

/-- reads hour and minute joined by a colon -/
def hourMinute? (s : List Char) : Option (Nat × Nat × List Char) := do
  let (hour, s) ← field? 2 s
  let s ← mark? ':' s
  let (minute, s) ← field? 2 s
  return (hour, minute, s)

/-- reads a colon, seconds and a fraction -/
def seconds? (s : List Char) : Option (Nat × Nat × List Char) := do
  let s ← mark? ':' s
  let (second, s) ← field? 2 s
  let (nano, s) ← fraction? s
  return (second, nano, s)

/-- the whole text as a time with seconds -/
def fullTime? (s : List Char) : Option Time := do
  let (hour, minute, s) ← hourMinute? s
  let (second, nano, s) ← seconds? s
  if s.isEmpty then Time.ofParts? hour minute second nano else none

/-- the whole text as a time without seconds -/
def shortTime? (s : List Char) : Option Time := do
  let (hour, minute, s) ← hourMinute? s
  if s.isEmpty then Time.ofParts? hour minute 0 0 else none

end Calendar

open Calendar Text

/-- reads a day -/
def Date.ofText? (s : List Char) : Option Date :=
  match date? s with
  | some (date, []) => some date
  | _ => none

/-- reads a time, with or without seconds; white space may stand before the colons -/
def Time.ofText? (s : List Char) : Option Time := do
  let (hour, s) ← field? 2 s
  let s ← mark? ':' (trimStart s)
  let (minute, s) ← field? 2 s
  let (second, nano, s) := (seconds? (trimStart s)).getD (0, 0, s)
  if (trimStart s).isEmpty then Time.ofParts? hour minute second nano else none

namespace DateTime

/-- reads a moment without offset -/
def ofText? (s : List Char) : Option DateTime := do
  let (date, rest) ← date? s
  let time ←
    (fullTime? (trimStart rest)).or
      (((mark? 'T' rest).bind fullTime?).or
        ((shortTime? (trimStart rest)).or (if rest.isEmpty then some Time.midnight else none)))
  return ⟨date, time⟩

/-- reads an offset from universal time in minutes: the letter Z, or a sign, two digits, a colon and two digits; the
minus may be the mathematical sign -/
def offset? (s : List Char) : Option (Int × List Char) :=
  let digits? := fun (s : List Char) => do
    let (hours, s) ← Digits.take? 2 2 s
    let s ← mark? ':' s
    let (minutes, s) ← Digits.take? 2 2 s
    if hours < 24 ∧ minutes < 60 then return (((hours * 60 + minutes : Nat) : Int), s) else none
  match s with
  | 'Z' :: rest => some (0, rest)
  | 'z' :: rest => some (0, rest)
  | '+' :: rest => digits? rest
  | '-' :: rest => (digits? rest).map fun (minutes, s) => (-minutes, s)
  | '−' :: rest => (digits? rest).map fun (minutes, s) => (-minutes, s)
  | _ => none

/-- reads a moment with an offset and gives it in universal time; every field has its full width -/
def withOffset? (s : List Char) : Option DateTime := do
  let (year, s) ← Digits.take? 4 4 s
  let s ← mark? '-' s
  let (month, s) ← Digits.take? 2 2 s
  let s ← mark? '-' s
  let (day, s) ← Digits.take? 2 2 s
  let s ← (mark? 'T' s).or ((mark? 't' s).or (mark? ' ' s))
  let (hour, s) ← Digits.take? 2 2 s
  let s ← mark? ':' s
  let (minute, s) ← Digits.take? 2 2 s
  let s ← mark? ':' s
  let (second, s) ← Digits.take? 2 2 s
  let (nano, s) ← fraction? s
  let (minutes, s) ← offset? s
  let date ← Date.ofParts? year month day
  let time ← Time.ofParts? hour minute second nano
  if s.isEmpty then earlier? ⟨date, time⟩ minutes else none

/-- reads a moment in universal time, from a text with an offset or one without -/
def universalOfText? (s : List Char) : Option DateTime := (withOffset? s).or (ofText? s)

end DateTime

end TableGraph
