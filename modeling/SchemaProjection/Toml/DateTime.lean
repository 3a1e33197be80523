namespace SchemaProjection.Toml.DateTime

def number (digits : List Char) : Nat :=
  digits.foldl (fun n c => n * 10 + (c.toNat - '0'.toNat)) 0

def after? (c : Char) : List Char → Option (List Char)
  | d :: cs => if c == d then some cs else none
  | [] => none

def twoDigits? (least most : Nat) : List Char → Option (List Char × List Char)
  | a :: b :: cs =>
    if a.isDigit && b.isDigit && least ≤ number [a, b] && number [a, b] ≤ most then
      some ([a, b], cs)
    else none
  | _ => none

def isLeapYear (year : Nat) : Bool :=
  year % 4 == 0 && (year % 100 != 0 || year % 400 == 0)

def daysIn (year month : Nat) : Nat :=
  if month == 2 then (if isLeapYear year then 29 else 28)
  else if month == 4 || month == 6 || month == 9 || month == 11 then 30
  else 31

def date? (cs : List Char) : Option (List Char × List Char) := do
  let year := cs.take 4
  guard (year.length == 4 && year.all Char.isDigit)
  let (month, cs) ← twoDigits? 1 12 (← after? '-' (cs.drop 4))
  let (day, cs) ← twoDigits? 1 (daysIn (number year) (number month)) (← after? '-' cs)
  return (year ++ '-' :: month ++ '-' :: day, cs)

/-- Fractions are cut to nanoseconds and end with no zero. A fraction of zero is left out. -/
def fraction (digits : List Char) : List Char :=
  match ((digits.take 9).reverse.dropWhile (· == '0')).reverse with
  | [] => []
  | ds => '.' :: ds

/-- Seconds and their fraction. Missing seconds are zero, and a minute may have a leap second. -/
def seconds? : List Char → Option (List Char × List Char)
  | ':' :: cs => do
    let (second, cs) ← twoDigits? 0 60 cs
    match cs with
    | '.' :: cs =>
      let digits := cs.takeWhile Char.isDigit
      guard (!digits.isEmpty)
      return (':' :: second ++ fraction digits, cs.dropWhile Char.isDigit)
    | cs => return (':' :: second, cs)
  | cs => some ([':', '0', '0'], cs)

def time? (cs : List Char) : Option (List Char × List Char) := do
  let (hour, cs) ← twoDigits? 0 23 cs
  let (minute, cs) ← twoDigits? 0 59 (← after? ':' cs)
  let (second, cs) ← seconds? cs
  return (hour ++ ':' :: minute ++ second, cs)

/-- A distance from universal time, which may be missing. No distance has the sign plus. -/
def offset? : List Char → Option (List Char)
  | [] => some []
  | sign :: cs =>
    if sign == 'Z' || sign == 'z' then
      if cs.isEmpty then some ['Z'] else none
    else if sign == '+' || sign == '-' then do
      let (hour, cs) ← twoDigits? 0 23 cs
      let (minute, cs) ← twoDigits? 0 59 (← after? ':' cs)
      guard cs.isEmpty
      let zero := number hour == 0 && number minute == 0
      return (if zero then '+' else sign) :: hour ++ ':' :: minute
    else none

def isDelimiter (c : Char) : Bool :=
  c == 'T' || c == 't' || c == ' '

def read? (cs : List Char) : Option String :=
  match date? cs with
  | some (date, []) => some (.ofList date)
  | some (date, c :: cs) => do
    guard (isDelimiter c)
    let (time, cs) ← time? cs
    return .ofList (date ++ 'T' :: time ++ (← offset? cs))
  | none =>
    match time? cs with
    | some (time, []) => some (.ofList time)
    | _ => none

end SchemaProjection.Toml.DateTime
