import TypedClient.Text.Basic

/-!
# Timestamps

A plain scalar may be a date or a time. Months, days, hours, minutes and seconds have one or two
digits; a time follows its date behind `T` or `t` with a zone, or behind blanks without one.
-/

namespace TypedClient.Yaml

/-- A point in time on the clock of its zone. -/
structure Timestamp where
  year : Nat
  month : Nat
  day : Nat
  hour : Nat := 0
  minute : Nat := 0
  second : Nat := 0
  nanosecond : Nat := 0
  /-- The minutes that the zone is ahead of universal time. -/
  offset : Int := 0
deriving DecidableEq, Repr

namespace Timestamp

/-- The number of days of a month. -/
def daysIn (year month : Nat) : Nat :=
  if month = 2 then if year % 4 = 0 ∧ (year % 100 ≠ 0 ∨ year % 400 = 0) then 29 else 28
  else if month = 4 ∨ month = 6 ∨ month = 9 ∨ month = 11 then 30
  else 31

/-- The value of a decimal digit. -/
def digit? (c : Char) : Option Nat :=
  if c.isDigit then some (c.toNat - '0'.toNat) else none

/-- Reads one or two digits. -/
def takeShort? : List Char → Option (Nat × List Char)
  | a :: b :: rest =>
      match digit? a, digit? b with
      | some x, some y => some (10 * x + y, rest)
      | some x, none => some (x, b :: rest)
      | none, _ => none
  | [a] => (digit? a).map (·, [])
  | [] => none

/-- Reads one or two digits with a value in a range. -/
def takeWithin? (least beyond : Nat) (s : List Char) : Option (Nat × List Char) := do
  let (n, rest) ← takeShort? s
  if least ≤ n ∧ n < beyond then some (n, rest) else none

/-- Reads a given character. -/
def expect? (c : Char) : List Char → Option (List Char)
  | x :: rest => if x = c then some rest else none
  | [] => none

/-- Reads a date: four digits of the year, the month and the day. -/
def takeDate? (s : List Char) : Option (Timestamp × List Char) := do
  let digits ← (s.take 4).mapM digit?
  if digits.length < 4 then none
  let year := digits.foldl (fun n d => 10 * n + d) 0
  let rest ← expect? '-' (s.drop 4)
  let (month, rest) ← takeWithin? 1 13 rest
  let rest ← expect? '-' rest
  let (day, rest) ← takeWithin? 1 32 rest
  if day ≤ daysIn year month then some ({ year, month, day }, rest) else none

/-- Reads a fraction of a second, as far as it is there; digits behind the ninth are dropped. -/
def takeFraction : List Char → Nat × List Char
  | mark :: rest =>
      let digits := rest.takeWhile Char.isDigit
      if (mark = '.' ∨ mark = ',') ∧ !digits.isEmpty then
        let kept := digits.take 9 ++ List.replicate (9 - digits.length) '0'
        (kept.foldl (fun n d => 10 * n + (d.toNat - '0'.toNat)) 0, rest.drop digits.length)
      else (0, mark :: rest)
  | [] => (0, [])

/-- Reads a time of day. -/
def takeClock? (t : Timestamp) (s : List Char) : Option (Timestamp × List Char) := do
  let (hour, rest) ← takeWithin? 0 24 s
  let rest ← expect? ':' rest
  let (minute, rest) ← takeWithin? 0 60 rest
  let rest ← expect? ':' rest
  let (second, rest) ← takeWithin? 0 60 rest
  let (nanosecond, rest) := takeFraction rest
  some ({ t with hour, minute, second, nanosecond }, rest)

/-- The offset of a zone: `Z`, or a sign, two digits of hours, a colon and two of minutes. -/
def zone? : List Char → Option Int
  | ['Z'] => some 0
  | [sign, a, b, ':', c, d] => do
      let hours := 10 * (← digit? a) + (← digit? b)
      let minutes := 10 * (← digit? c) + (← digit? d)
      if hours > 24 ∨ minutes > 60 then none
      let total : Int := hours * 60 + minutes
      if sign = '+' then some total else if sign = '-' then some (-total) else none
  | _ => none

/-- The timestamp that a text stands for. -/
def ofText? (s : String) : Option Timestamp := do
  let (t, rest) ← takeDate? s.toList
  match rest with
  | [] => some t
  | c :: rest =>
      if c = 'T' ∨ c = 't' then
        let (t, rest) ← takeClock? t rest
        let offset ← zone? rest
        some { t with offset }
      else if c = ' ' then
        let (t, rest) ← takeClock? t (rest.dropWhile (· = ' '))
        if rest.isEmpty then some t else none
      else none

/-- A number with leading zeros. -/
def padded (width n : Nat) : String :=
  let digits := Nat.toDigits 10 n
  String.ofList (List.replicate (width - digits.length) '0' ++ digits)

/-- The date of a timestamp. -/
def date (t : Timestamp) : String :=
  padded 4 t.year ++ "-" ++ padded 2 t.month ++ "-" ++ padded 2 t.day

/-- The time of day of a timestamp, without zeros at the end of a fraction. -/
def clock (t : Timestamp) : String :=
  let fraction := Text.dropEndWhile (· = '0') (padded 9 t.nanosecond).toList
  padded 2 t.hour ++ ":" ++ padded 2 t.minute ++ ":" ++ padded 2 t.second ++
    (if fraction.isEmpty then "" else "." ++ String.ofList fraction)

/-- The sign, hours and minutes of the zone. -/
def zone (t : Timestamp) (separator : String) : String :=
  (if t.offset < 0 then "-" else "+") ++ padded 2 (t.offset.natAbs / 60) ++ separator ++
    padded 2 (t.offset.natAbs % 60)

/-- The timestamp as a document keeps it: the date alone at midnight. -/
def text (t : Timestamp) : String :=
  if t.hour = 0 ∧ t.minute = 0 ∧ t.second = 0 ∧ t.nanosecond = 0 then t.date
  else t.date ++ "T" ++ t.clock ++ (if t.offset = 0 then "Z" else t.zone ":")

/-- The timestamp as a mapping key shows it. -/
def keyText (t : Timestamp) : String :=
  t.date ++ " " ++ t.clock ++ " " ++ t.zone "" ++ " " ++
    (if t.offset = 0 then "UTC" else t.zone "")

end Timestamp

end TypedClient.Yaml
