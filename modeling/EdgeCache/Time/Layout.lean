import EdgeCache.Text.Blank
import EdgeCache.Time.Instant

/-!
Layouts of points in time: a text in which `%` and a letter stand for a part of the date or the
clock. A layout is read into items first, so that a letter without meaning is found before anything
is written.
-/

namespace EdgeCache.Layout

inductive Pad where
  | none
  | zero
  | space
  deriving Repr, DecidableEq

inductive Field where
  | year | century | yearOfCentury | isoYear | isoYearOfCentury | quarter | month | day
  | weekFromSunday | weekFromMonday | isoWeek | daysFromSunday | weekdayFromMonday | ordinal
  | hour | hour12 | minute | second | nanosecond | timestamp
  deriving Repr, DecidableEq

inductive Item where
  | text (cs : List Char)
  | number (f : Field) (pad : Pad)
  | shortWeekday
  | longWeekday
  | shortMonth
  | longMonth
  | lowerHalf
  | upperHalf
  | fraction
  | digits (count : Nat) (point : Bool)
  | zoneName
  | zoneOffset (shown : String)
  | lenientOffset
  | standard
  deriving Repr, DecidableEq

def num0 (f : Field) : Item := .number f .zero

def numS (f : Field) : Item := .number f .space

def num (f : Field) : Item := .number f .none

def lit (s : String) : Item := .text s.toList

def dateItems : List Item := [num0 .month, lit "/", num0 .day, lit "/", num0 .yearOfCentury]

def clockItems : List Item := [num0 .hour, lit ":", num0 .minute, lit ":", num0 .second]

def itemsOf? (c : Char) : Option (List Item) :=
  match c with
  | 'A' => some [.longWeekday]
  | 'B' => some [.longMonth]
  | 'C' => some [num0 .century]
  | 'D' => some dateItems
  | 'F' => some [num0 .year, lit "-", num0 .month, lit "-", num0 .day]
  | 'G' => some [num0 .isoYear]
  | 'H' => some [num0 .hour]
  | 'I' => some [num0 .hour12]
  | 'M' => some [num0 .minute]
  | 'P' => some [.lowerHalf]
  | 'R' => some [num0 .hour, lit ":", num0 .minute]
  | 'S' => some [num0 .second]
  | 'T' => some clockItems
  | 'U' => some [num0 .weekFromSunday]
  | 'V' => some [num0 .isoWeek]
  | 'W' => some [num0 .weekFromMonday]
  | 'X' => some clockItems
  | 'Y' => some [num0 .year]
  | 'Z' => some [.zoneName]
  | 'a' => some [.shortWeekday]
  | 'b' => some [.shortMonth]
  | 'h' => some [.shortMonth]
  | 'c' => some ([.shortWeekday, lit " ", .shortMonth, lit " ", numS .day, lit " "] ++ clockItems ++
      [lit " ", num0 .year])
  | 'd' => some [num0 .day]
  | 'e' => some [numS .day]
  | 'f' => some [num0 .nanosecond]
  | 'g' => some [num0 .isoYearOfCentury]
  | 'j' => some [num0 .ordinal]
  | 'k' => some [numS .hour]
  | 'l' => some [numS .hour12]
  | 'm' => some [num0 .month]
  | 'n' => some [lit "\n"]
  | 'p' => some [.upperHalf]
  | 'q' => some [num .quarter]
  | 'r' => some [num0 .hour12, lit ":", num0 .minute, lit ":", num0 .second, lit " ", .upperHalf]
  | 's' => some [num .timestamp]
  | 't' => some [lit "\t"]
  | 'u' => some [num .weekdayFromMonday]
  | 'v' => some [numS .day, lit "-", .shortMonth, lit "-", num0 .year]
  | 'w' => some [num .daysFromSunday]
  | 'x' => some dateItems
  | 'y' => some [num0 .yearOfCentury]
  | 'z' => some [.zoneOffset "+0000"]
  | '+' => some [.standard]
  | '%' => some [lit "%"]
  | _ => none

def specifier? : List Char → Option (List Item × List Char)
  | '-' :: c :: rest => padded .none c rest
  | '0' :: c :: rest => padded .zero c rest
  | '_' :: c :: rest => padded .space c rest
  | '#' :: 'z' :: rest => some ([.lenientOffset], rest)
  | '#' :: _ => none
  | ':' :: ':' :: ':' :: 'z' :: rest => some ([.zoneOffset "+00"], rest)
  | ':' :: ':' :: 'z' :: rest => some ([.zoneOffset "+00:00:00"], rest)
  | ':' :: 'z' :: rest => some ([.zoneOffset "+00:00"], rest)
  | '.' :: '3' :: 'f' :: rest => some ([.digits 3 true], rest)
  | '.' :: '6' :: 'f' :: rest => some ([.digits 6 true], rest)
  | '.' :: '9' :: 'f' :: rest => some ([.digits 9 true], rest)
  | '.' :: 'f' :: rest => some ([.fraction], rest)
  | '3' :: 'f' :: rest => some ([.digits 3 false], rest)
  | '6' :: 'f' :: rest => some ([.digits 6 false], rest)
  | '9' :: 'f' :: rest => some ([.digits 9 false], rest)
  | c :: rest => (itemsOf? c).map fun items => (items, rest)
  | [] => none
where
  padded (pad : Pad) (c : Char) (rest : List Char) : Option (List Item × List Char) :=
    match itemsOf? c with
    | some [.number f _] => some ([.number f pad], rest)
    | _ => none

def readFrom : Nat → List Char → Option (List Item)
  | 0, _ => some []
  | _, [] => some []
  | fuel + 1, c :: rest =>
    if c = '%' then
      match specifier? rest with
      | none => none
      | some (items, rest) => (readFrom fuel rest).map (items ++ ·)
    else (readFrom fuel rest).map (.text [c] :: ·)

def read? (layout : List Char) : Option (List Item) := readFrom layout.length layout

/-- At least `width` places, filled in front; a sign of a forced kind takes one more. -/
def writeNumber (width : Nat) (n : Int) (pad : Pad) (alwaysSign : Bool) : List Char :=
  let ds := Decimal.digits n.natAbs
  let sign := if n < 0 then ['-'] else if alwaysSign then ['+'] else []
  let width := if alwaysSign then width + 1 else width
  let missing := width - (sign.length + ds.length)
  match pad with
  | .none => sign ++ ds
  | .zero => sign ++ List.replicate missing '0' ++ ds
  | .space => List.replicate missing ' ' ++ sign ++ ds

/-- Two places, of a number below 256; the tens are one character also beyond nine. -/
def writeTwo (n : Nat) (pad : Pad) : List Char :=
  let tens := n / 10
  let ones := Char.ofNat ('0'.toNat + n % 10)
  if tens = 0 ∧ pad = .none then [ones]
  else if tens = 0 ∧ pad = .space then [' ', ones]
  else [Char.ofNat ('0'.toNat + tens), ones]

/-- Years of four digits stand as they are; others get a sign outside 0 to 9999. -/
def writeYear (y : Int) (pad : Pad) : List Char :=
  if 1000 ≤ y ∧ y ≤ 9999 then Decimal.digits y.toNat
  else writeNumber 4 y pad (decide (y < 0 ∨ 9999 < y))

def octet (n : Int) : Nat := (n % 256).toNat

def hour12 (h : Nat) : Nat := if h % 12 = 0 then 12 else h % 12

def writeField (t : Instant) (f : Field) (pad : Pad) : List Char :=
  let d := t.date
  match f with
  | .year => writeYear d.year pad
  | .century => writeTwo (octet (d.year / 100)) pad
  | .yearOfCentury => writeTwo (d.year % 100).toNat pad
  | .isoYear => writeYear d.isoWeek.1 pad
  | .isoYearOfCentury => writeTwo (d.isoWeek.1 % 100).toNat pad
  | .quarter => Decimal.digits ((d.month - 1) / 3 + 1)
  | .month => writeTwo d.month pad
  | .day => writeTwo d.day pad
  | .weekFromSunday => writeTwo (d.weekFrom 6) pad
  | .weekFromMonday => writeTwo (d.weekFrom 0) pad
  | .isoWeek => writeTwo d.isoWeek.2 pad
  | .daysFromSunday => Decimal.digits ((Calendar.weekday t.days + 1) % 7)
  | .weekdayFromMonday => Decimal.digits (Calendar.weekday t.days + 1)
  | .ordinal => writeNumber 3 d.ordinal pad false
  | .hour => writeTwo t.hour pad
  | .hour12 => writeTwo (hour12 t.hour) pad
  | .minute => writeTwo t.minute pad
  | .second => writeTwo t.second pad
  | .nanosecond => writeNumber 9 t.subsecond pad false
  | .timestamp => writeNumber 9 t.seconds pad false

def writeFraction (n : Nat) : List Char :=
  if n = 0 then []
  else if n % 1000000 = 0 then '.' :: Decimal.padded 3 (n / 1000000)
  else if n % 1000 = 0 then '.' :: Decimal.padded 6 (n / 1000)
  else '.' :: Decimal.padded 9 n

def writeStandard (t : Instant) : List Char :=
  let y := t.date.year
  (if 0 ≤ y ∧ y ≤ 9999 then Decimal.padded 4 y.toNat else writeNumber 4 y .zero true) ++
    '-' :: writeField t .month .zero ++ '-' :: writeField t .day .zero ++
    'T' :: writeField t .hour .zero ++ ':' :: writeField t .minute .zero ++
    ':' :: writeField t .second .zero ++ writeFraction t.subsecond

def Item.write? (t : Instant) : Item → Option (List Char)
  | .text cs => some cs
  | .number f pad => some (writeField t f pad)
  | .shortWeekday => some ((Calendar.weekdayName (Calendar.weekday t.days)).take 3)
  | .longWeekday => some (Calendar.weekdayName (Calendar.weekday t.days))
  | .shortMonth => some ((Calendar.monthName t.date.month).take 3)
  | .longMonth => some (Calendar.monthName t.date.month)
  | .lowerHalf => some (if t.hour < 12 then ['a', 'm'] else ['p', 'm'])
  | .upperHalf => some (if t.hour < 12 then ['A', 'M'] else ['P', 'M'])
  | .fraction => some (writeFraction t.subsecond)
  | .digits count point =>
    let ds := Decimal.padded count (t.subsecond / tenTo (9 - count))
    some (if point then '.' :: ds else ds)
  | .zoneName => some ['U', 'T', 'C']
  | .zoneOffset shown => some shown.toList
  | .lenientOffset => none
  | .standard => some (writeStandard t ++ "+00:00".toList)

def write? (t : Instant) (items : List Item) : Option (List Char) :=
  (items.mapM (Item.write? t)).map List.flatten

def httpDate (t : Instant) : List Char :=
  (Calendar.weekdayName (Calendar.weekday t.days)).take 3 ++ ", ".toList ++
    writeField t .day .zero ++ ' ' :: (Calendar.monthName t.date.month).take 3 ++
    ' ' :: writeField t .year .zero ++ ' ' :: writeField t .hour .zero ++
    ':' :: writeField t .minute .zero ++ ':' :: writeField t .second .zero ++ " GMT".toList

def zulu (t : Instant) : List Char := writeStandard t ++ ['Z']

end EdgeCache.Layout
