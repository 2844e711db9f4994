import ClientForge.Text.Numeral

namespace ClientForge

structure Date where
  year : Nat
  month : Nat
  day : Nat
deriving DecidableEq, Repr, Inhabited

namespace Date

def isLeap (year : Nat) : Bool := year % 4 = 0 && (year % 100 ≠ 0 || year % 400 = 0)

def daysInMonth (year month : Nat) : Nat :=
  if month = 2 then (if isLeap year then 29 else 28)
  else if [4, 6, 9, 11].contains month then 30 else 31

def isValid (d : Date) : Bool :=
  1 ≤ d.year && d.year ≤ 9999 && 1 ≤ d.month && d.month ≤ 12 && 1 ≤ d.day && d.day ≤ daysInMonth d.year d.month

def ordinal (d : Date) : Nat :=
  let years := d.year - 1
  let months := (List.range (d.month - 1)).foldr (fun k n => daysInMonth d.year (k + 1) + n) 0
  years * 365 + years / 4 - years / 100 + years / 400 + months + d.day

def ofDays (days : Nat) : Date :=
  let n := days + 719468
  let inEra := n % 146097
  let year := (inEra - inEra / 1460 + inEra / 36524 - inEra / 146096) / 365
  let inYear := inEra - (365 * year + year / 4 - year / 100)
  let month := (5 * inYear + 2) / 153
  let first := (153 * month + 2) / 5
  { year := n / 146097 * 400 + year + (if month < 10 then 0 else 1)
    month := if month < 10 then month + 3 else month - 9
    day := inYear - first + 1 }

def text (d : Date) : String :=
  .ofList (Text.padded 4 d.year ++ '-' :: Text.padded 2 d.month ++ '-' :: Text.padded 2 d.day)

end Date

structure Moment where
  date : Date
  hour : Nat
  minute : Nat
  second : Nat
  micro : Nat
  offset : Option Int
deriving DecidableEq, Repr, Inhabited

namespace Moment

def isValid (m : Moment) : Bool :=
  m.date.isValid && m.hour < 24 && m.minute < 60 && m.second < 60 && m.micro < 1000000
    && (m.offset.all fun o => -1440 < o && o < 1440)

def micros (m : Moment) : Int :=
  (((m.date.ordinal * 24 + m.hour : Nat) * 60 + m.minute - m.offset.getD 0) * 60 + m.second) * 1000000 + m.micro

def offsetText (minutes : Int) : String :=
  (if minutes < 0 then "-" else "+") ++
    .ofList (Text.padded 2 (minutes.natAbs / 60) ++ ':' :: Text.padded 2 (minutes.natAbs % 60))

def text (m : Moment) (gap : String) : String :=
  m.date.text ++ gap ++
    .ofList (Text.padded 2 m.hour ++ ':' :: Text.padded 2 m.minute ++ ':' :: Text.padded 2 m.second
      ++ if m.micro = 0 then [] else '.' :: Text.padded 6 m.micro)
    ++ (m.offset.map offsetText).getD ""

end Moment

end ClientForge
