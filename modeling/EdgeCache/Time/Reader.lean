import EdgeCache.Text.Integer
import EdgeCache.Time.Instant

/-!
Reading points in time: the date forms of mail and message headers, the standard form in a strict
and a lenient reading, plain layouts without a zone, and counts of seconds.
-/

namespace EdgeCache.TimeReader

abbrev Reader (α : Type) := List Char → Option (α × List Char)

/-- What a text tells about a point in time. A second of 60 is a leap second. -/
structure Clues where
  year : Int
  month : Nat
  day : Nat
  weekday : Option Nat
  hour : Nat
  minute : Nat
  second : Nat
  nanos : Nat
  offset : Int
  deriving Repr

def number (least most : Nat) : Reader Nat := fun cs =>
  let ds := (cs.take most).takeWhile Decimal.isDigit
  if ds.length < least ∨ ds.isEmpty then none
  else
    let n := Decimal.ofDigits ds
    if n < Word.half then some (n, cs.drop ds.length) else none

def char (c : Char) : Reader Unit
  | [] => none
  | d :: rest => if c = d then some ((), rest) else none

def oneOf (set : List Char) : Reader Unit
  | [] => none
  | d :: rest => if set.contains d then some ((), rest) else none

def blanks : Reader Unit := fun cs =>
  let rest := Blank.trimStart cs
  if rest.length < cs.length then some ((), rest) else none

def sameLetters (a b : List Char) : Bool := a.map Char.toLower == b.map Char.toLower

def shortName (names : List String) : Reader Nat := fun cs =>
  if cs.length < 3 then none
  else
    (names.findIdx? fun n => sameLetters (n.toList.take 3) (cs.take 3)).map fun i => (i, cs.drop 3)

def longName (names : List String) : Reader Nat := fun cs => do
  let (i, rest) ← shortName names cs
  let tail := (names.getD i "").toList.drop 3
  if tail.length ≤ rest.length ∧ sameLetters tail (rest.take tail.length) then
    return (i, rest.drop tail.length)
  else return (i, rest)

def weekday : Reader Nat := shortName Calendar.weekdayNames

def month : Reader Nat := fun cs => do
  let (i, rest) ← shortName Calendar.monthNames cs
  return (i + 1, rest)

def Clues.instant? (c : Clues) : Option Instant := do
  let date : Calendar.Date := ⟨c.year, c.month, c.day⟩
  if !date.isValid then none
  if 23 < c.hour ∨ 59 < c.minute ∨ 60 < c.second then none
  match c.weekday with
  | some w => if w ≠ Calendar.weekday date.toDays then none
  | none => pure ()
  if 86400 ≤ c.offset.natAbs then none
  let leap := if c.second = 60 then 1000000000 else 0
  let second := if c.second = 60 then 59 else c.second
  let localSeconds := date.toDays * 86400 + c.hour * 3600 + c.minute * 60 + second
  if localSeconds < Instant.firstSecond ∨ Instant.lastSecond < localSeconds then none
  Instant.make? (localSeconds - c.offset) (leap + c.nanos)

/-- A sign, two digits of hours, what `separator` allows, and two digits of minutes. `Z` stands for
zero where `zulu` allows it, and the true minus sign for a minus where `minusSign` does. -/
def offset (separator : List Char → Option (List Char)) (zulu minusSign : Bool) : Reader Int :=
  fun cs =>
  match cs with
  | [] => none
  | c :: rest =>
    if zulu && (c == 'Z' || c == 'z') then some (0, rest)
    else do
      let negative ←
        if c == '+' then some false
        else if c == '-' || (minusSign && c.toNat == 0x2212) then some true
        else none
      let (hours, rest) ← number 2 2 rest
      let rest ← separator rest
      let (minutes, rest) ← number 2 2 rest
      if 59 < minutes then none
      let seconds : Int := hours * 3600 + minutes * 60
      return (if negative then -seconds else seconds, rest)

def mailZones : List (String × Int) :=
  [("gmt", 0), ("ut", 0), ("z", 0), ("edt", -4), ("est", -5), ("cdt", -5), ("cst", -6), ("mdt", -6),
    ("mst", -7), ("pdt", -7), ("pst", -8)]

def mailZone : Reader Int := fun cs =>
  let name := (cs.takeWhile Char.isAlpha).map Char.toLower
  let rest := cs.drop name.length
  if name.isEmpty then offset some false false cs
  else
    match mailZones.lookup (String.ofList name) with
    | some hours => some (hours * 3600, rest)
    | none => if name.length = 1 ∧ name ≠ ['j'] then some (0, rest) else none

def afterComment (depth : Nat) : List Char → Option (List Char)
  | [] => none
  | '\\' :: _ :: rest => afterComment depth rest
  | '(' :: rest => afterComment (depth + 1) rest
  | ')' :: rest => if depth ≤ 1 then some rest else afterComment (depth - 1) rest
  | _ :: rest => afterComment depth rest

def dropComments : Nat → List Char → List Char
  | 0, cs => cs
  | fuel + 1, cs =>
    match Blank.trimStart cs with
    | '(' :: rest =>
      match afterComment 1 rest with
      | some rest => dropComments fuel rest
      | none => cs
    | _ => cs

/-- Years of two digits lie between 1950 and 2049, those of three count from 1900. -/
def mailYear (digits year : Nat) : Nat :=
  if digits = 2 then (if year ≤ 49 then year + 2000 else year + 1900)
  else if digits = 3 then year + 1900
  else year

def yearLimit : Nat := twoTo 31 - 1

def mailDate? (cs : List Char) : Option Instant := do
  let cs := Blank.trimStart cs
  let (named, cs) ←
    match weekday cs with
    | some (w, rest) => do
      let ((), rest) ← char ',' rest
      pure (some w, rest)
    | none => pure (none, cs)
  let (day, cs) ← number 1 2 (Blank.trimStart cs)
  let ((), cs) ← blanks cs
  let (month, cs) ← month cs
  let ((), cs) ← blanks cs
  let (year, after) ← number 2 cs.length cs
  let year := mailYear (cs.length - after.length) year
  if yearLimit < year then none
  let ((), cs) ← blanks after
  let (hour, cs) ← number 2 2 cs
  let ((), cs) ← char ':' (Blank.trimStart cs)
  let (minute, cs) ← number 2 2 (Blank.trimStart cs)
  let (second, cs) ←
    match char ':' (Blank.trimStart cs) with
    | some ((), rest) => number 2 2 rest
    | none => pure (0, cs)
  let ((), cs) ← blanks cs
  let (zone, cs) ← mailZone cs
  if !(dropComments cs.length cs).isEmpty then none
  Clues.instant? ⟨year, month, day, named, hour, minute, second, 0, zone⟩

def fraction : Reader Nat := fun cs => do
  let (n, rest) ← number 1 9 cs
  let count := cs.length - rest.length
  return (n * tenTo (9 - count), rest.dropWhile Decimal.isDigit)

def standard? (cs : List Char) : Option Instant := do
  let (year, cs) ← number 4 4 cs
  let ((), cs) ← char '-' cs
  let (month, cs) ← number 2 2 cs
  let ((), cs) ← char '-' cs
  let (day, cs) ← number 2 2 cs
  let ((), cs) ← oneOf ['t', 'T', ' '] cs
  let (hour, cs) ← number 2 2 cs
  let ((), cs) ← char ':' cs
  let (minute, cs) ← number 2 2 cs
  let ((), cs) ← char ':' cs
  let (second, cs) ← number 2 2 cs
  let (nanos, cs) ←
    match cs with
    | '.' :: rest => fraction rest
    | cs => pure (0, cs)
  let (zone, cs) ← offset (fun cs => (char ':' cs).map (·.2)) true true cs
  if !cs.isEmpty then none
  Clues.instant? ⟨year, month, day, none, hour, minute, second, nanos, zone⟩

def field (most : Nat) : Reader Nat := fun cs => number 1 most (Blank.trimStart cs)

def signedYear : Reader Int := fun cs =>
  let bounded := fun (r : Nat × List Char) (sign : Int) =>
    if r.1 ≤ yearLimit then some (sign * r.1, r.2) else none
  match Blank.trimStart cs with
  | '-' :: rest => (number 1 rest.length rest).bind (bounded · (-1))
  | '+' :: rest => (number 1 rest.length rest).bind (bounded · 1)
  | cs => (number 1 4 cs).bind (bounded · 1)

def clock (gap : List Char → List Char) : Reader (Nat × Nat × Nat) := fun cs => do
  let (hour, cs) ← field 2 cs
  let ((), cs) ← char ':' (gap cs)
  let (minute, cs) ← field 2 cs
  let ((), cs) ← char ':' (gap cs)
  let (second, cs) ← field 2 cs
  return ((hour, minute, second), cs)

def yearFirst (gap : List Char → List Char) : Reader (Int × Nat × Nat) := fun cs => do
  let (year, cs) ← signedYear cs
  let ((), cs) ← char '-' (gap cs)
  let (month, cs) ← field 2 cs
  let ((), cs) ← char '-' (gap cs)
  let (day, cs) ← field 2 cs
  return ((year, month, day), cs)

def isUtc (cs : List Char) : Bool := sameLetters (cs.take 3) ['u', 't', 'c']

def lenient? (cs : List Char) : Option Instant := do
  let ((year, month, day), cs) ← yearFirst Blank.trimStart cs
  let ((), cs) ← oneOf ['t', 'T', ' '] cs
  let ((hour, minute, second), cs) ← clock Blank.trimStart cs
  let (nanos, cs) ←
    match cs with
    | '.' :: rest => fraction rest
    | cs => pure (0, cs)
  let cs := Blank.trimStart cs
  let (zone, cs) ←
    if isUtc cs then pure ((0 : Int), cs.drop 3)
    else offset (fun cs => some (cs.dropWhile fun c => c == ':' || Blank.isBlank c)) true true cs
  if !(Blank.trimStart cs).isEmpty then none
  Clues.instant? ⟨year, month, day, none, hour, minute, second, nanos, zone⟩

def pivotYear (n : Nat) : Int := if n < 70 then n + 2000 else n + 1900

def literal (text : String) : Reader Unit := fun cs =>
  if text.toList.isPrefixOf cs then some ((), cs.drop text.length) else none

def hyphenDate? (cs : List Char) : Option Instant := do
  let (named, cs) ← longName Calendar.weekdayNames cs
  let ((), cs) ← char ',' cs
  let (day, cs) ← field 2 (Blank.trimStart cs)
  let ((), cs) ← char '-' cs
  let (month, cs) ← month cs
  let ((), cs) ← char '-' cs
  let (year, cs) ← field 2 cs
  let ((hour, minute, second), cs) ← clock id cs
  let ((), cs) ← literal "GMT" (Blank.trimStart cs)
  if !cs.isEmpty then none
  Clues.instant? ⟨pivotYear year, month, day, some named, hour, minute, second, 0, 0⟩

def logDate? (cs : List Char) : Option Instant := do
  let (named, cs) ← weekday cs
  let (month, cs) ← month (Blank.trimStart cs)
  let (day, cs) ← field 2 cs
  let ((hour, minute, second), cs) ← clock id cs
  let (year, cs) ← signedYear cs
  if !cs.isEmpty then none
  Clues.instant? ⟨year, month, day, some named, hour, minute, second, 0, 0⟩

def plainDate? (between : Reader Unit) (cs : List Char) : Option Instant := do
  let ((year, month, day), cs) ← yearFirst id cs
  let ((), cs) ← between cs
  let ((hour, minute, second), cs) ← clock id cs
  if !cs.isEmpty then none
  Clues.instant? ⟨year, month, day, none, hour, minute, second, 0, 0⟩

def seconds? (cs : List Char) : Option Instant :=
  match Integer.readSigned 10 cs with
  | .ok n => Instant.ofSeconds? n 0
  | .error _ => do
    let x ← Decimal.read? cs
    if !Binary64.isFinite x then none
    let whole := Binary64.truncate x
    let nanos := Binary64.toIntBy Binary64.Parts.truncate 0 (twoTo 32 - 1 : Nat)
      (Binary64.round ((x - whole) * 1000000000.0))
    Instant.ofSeconds? (Binary64.toInt64 whole).toInt nanos.toNat

def any? (text : String) : Option Instant :=
  let cs := Blank.trim text.toList
  [mailDate?, standard?, hyphenDate?, logDate?,
    plainDate? (fun cs => some ((), Blank.trimStart cs)),
    plainDate? (char 'T')].findSome? (· cs) |>.or (seconds? cs)

end EdgeCache.TimeReader
