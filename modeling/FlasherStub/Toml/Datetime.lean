import FlasherStub.Toml.Error

/-!
Dates and times of TOML documents, in the forms of RFC 3339: a date `YYYY-MM-DD`, a time
`HH:MM[:SS[.fraction]]`, or a date and a time joined by `T` or a space, with an offset `Z` or
`±HH:MM` when both are there. The text is cut into tokens (runs of digits, and the single
characters `-`, `:`, `.`, `T`, a space, `Z` and `+`; the letters in either case), which are read
in order. A refusal says what was being read (a date, a time, an offset) and what was expected
there; the widths of the numbers are checked only once a whole date or time is read, and their
ranges after that.
-/

namespace FlasherStub.Toml.Datetime

/-- A token of a date or time. -/
inductive Token where
  | digits (ds : List Char)
  | dash
  | colon
  | dot
  /-- The letter T, which joins a date to a time. -/
  | letterT
  | space
  /-- The letter Z, the offset of universal time. -/
  | letterZ
  | plus
  /-- Anything else: the rest of the text. -/
  | other
  deriving DecidableEq, Repr

/-- The next token of a text, if any, and the text after it. -/
def next : List Char → Option (Token × List Char)
  | [] => none
  | c :: r =>
    if c.isDigit then some (.digits (c :: r.takeWhile Char.isDigit), r.dropWhile Char.isDigit)
    else if c = '-' then some (.dash, r)
    else if c = ':' then some (.colon, r)
    else if c = '.' then some (.dot, r)
    else if c = 'T' ∨ c = 't' then some (.letterT, r)
    else if c = ' ' then some (.space, r)
    else if c = 'Z' ∨ c = 'z' then some (.letterZ, r)
    else if c = '+' then some (.plus, r)
    else some (.other, [])

/-- The refusal of a part of a date or time, saying what was expected. -/
def refuse (what expected : String) : Error :=
  .plain ("invalid " ++ what ++ ", expected " ++ expected)

/-- The refusal of a text that is no date or time at all. -/
def unknown : Error := .plain "invalid datetime"

/-- Reads a run of digits, refused as `what` expecting `expected` when the text ends or holds
something else there. -/
def digitsAt (what expected : String) (cs : List Char) : Except Error (List Char × List Char) :=
  match next cs with
  | some (.digits ds, r) => .ok (ds, r)
  | _ => .error (refuse what expected)

/-- Reads one token, refused as `what` expecting `expected` when it is not `tok`. -/
def expect (tok : Token) (what expected : String) (cs : List Char) : Except Error (List Char) :=
  match next cs with
  | some (found, r) => if found = tok then .ok r else .error (refuse what expected)
  | none => .error (refuse what expected)

/-- The value of decimal digits. -/
def value (ds : List Char) : Nat := ds.foldl (fun n c => 10 * n + (c.toNat - '0'.toNat)) 0

/-- Whether a year is a leap year of the Gregorian calendar. -/
def isLeap (year : Nat) : Bool := year % 4 == 0 && (year % 100 != 0 || year % 400 == 0)

/-- The number of days of a month, and how the range of its days is written. -/
def monthDays (year month : Nat) : Nat × String :=
  if month = 2 then
    if isLeap year then (29, "day between 01 and 29") else (28, "day between 01 and 28")
  else if month = 4 ∨ month = 6 ∨ month = 9 ∨ month = 11 then (30, "day between 01 and 30")
  else (31, "day between 01 and 31")

/-- Reads the month and day of a date after its year and dash, and checks the date. -/
def date (year : List Char) (cs : List Char) : Except Error (List Char) := do
  let (month, cs) ← digitsAt "date" "month" cs
  let cs ← expect .dash "date" "`-` (MM-DD)" cs
  let (day, cs) ← digitsAt "date" "day" cs
  if year.length ≠ 4 then throw (refuse "date" "a four-digit year (YYYY)")
  if month.length ≠ 2 then throw (refuse "date" "a two-digit month (MM)")
  if day.length ≠ 2 then throw (refuse "date" "a two-digit day (DD)")
  let m := value month
  if m < 1 ∨ 12 < m then throw (refuse "date" "month between 01 and 12")
  let (most, range) := monthDays (value year) m
  let d := value day
  if d < 1 ∨ most < d then throw (refuse "date" range)
  pure cs

/-- Reads a time: hour and minute, then optionally seconds and, after them, a fraction. -/
def time (cs : List Char) : Except Error (List Char) := do
  let (hour, cs) ← digitsAt "time" "hour" cs
  let cs ← expect .colon "time" "`:` (HH:MM)" cs
  let (minute, cs) ← digitsAt "time" "minute" cs
  let (second, cs) ← match next cs with
    | some (.colon, r) => do
      let (s, r) ← digitsAt "time" "second" r
      pure (some s, r)
    | _ => pure (none, cs)
  let cs ← match second, next cs with
    | some _, some (.dot, r) => do
      let (_, r) ← digitsAt "time" "nanosecond" r
      pure r
    | _, _ => pure cs
  if hour.length ≠ 2 then throw (refuse "time" "a two-digit hour (HH)")
  if minute.length ≠ 2 then throw (refuse "time" "a two-digit minute (MM)")
  if second.any (·.length ≠ 2) then throw (refuse "time" "a two-digit second (SS)")
  if 23 < value hour then throw (refuse "time" "hour between 00 and 23")
  if 59 < value minute then throw (refuse "time" "minute between 00 and 59")
  if second.any (fun s => 60 < value s) then throw (refuse "time" "second between 00 and 60")
  pure cs

/-- Reads the offset of a date and time, if there is one. -/
def offset (cs : List Char) : Except Error (List Char) :=
  match next cs with
  | some (.letterZ, r) => .ok r
  | some (.plus, r) | some (.dash, r) => do
    let (hours, r) ← digitsAt "offset" "hour" r
    let r ← expect .colon "offset" "`:` (HH:MM)" r
    let (minutes, r) ← digitsAt "offset" "minute" r
    if hours.length ≠ 2 then throw (refuse "offset" "a two-digit hour (HH)")
    if minutes.length ≠ 2 then throw (refuse "offset" "a two-digit minute (MM)")
    if 23 < value hours then throw (refuse "offset" "hours between 00 and 23")
    if 59 < value minutes then throw (refuse "offset" "minutes between 00 and 59")
    pure r
  | some _ => .error (refuse "offset" "`Z`, +OFFSET, -OFFSET")
  | none => .ok cs

/-- Checks that a text is a date, a time, or a date and time with or without an offset. -/
def check (text : String) : Except Error Unit := do
  let cs := text.toList
  let start := "`-` (YYYY-MM) or `:` (HH:MM)"
  let (first, rest) ← match next cs with
    | some (.digits ds, r) => pure (ds, r)
    | _ => throw (.plain "invalid datetime, expected year or hour")
  let rest ← match next rest with
    | some (.dash, r) => do
      let r ← date first r
      match next r with
      | some (.letterT, r') | some (.space, r') => do
        let r' ← time r'
        offset r'
      | some _ => throw (refuse "date-time" "`T` between date and time")
      | none => pure r
    | some (.colon, _) => time cs
    | _ => throw (.plain ("invalid datetime, expected " ++ start))
  if rest.isEmpty then pure () else throw unknown

end FlasherStub.Toml.Datetime
