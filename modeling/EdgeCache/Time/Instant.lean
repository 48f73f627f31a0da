import EdgeCache.Time.Calendar
import EdgeCache.Time.Duration

/-!
Points in time: seconds since 1970 in universal time and nanoseconds. Within a leap second the
nanoseconds go on beyond a whole second. The range covers the years -262143 to 262142.
-/

namespace EdgeCache

def Instant.firstSecond : Int := -8334601228800
def Instant.lastSecond : Int := 8210266876799

structure Instant where
  seconds : Int
  nanos : Nat
  inRange : Instant.firstSecond ≤ seconds ∧ seconds ≤ Instant.lastSecond
  nanos_lt : nanos < 2000000000
  deriving DecidableEq

namespace Instant

def epoch : Instant := ⟨0, 0, by decide, by decide⟩

instance : Inhabited Instant := ⟨epoch⟩

def last : Instant := ⟨lastSecond, 999999999, by decide, by decide⟩

def make? (seconds : Int) (nanos : Nat) : Option Instant :=
  if h : firstSecond ≤ seconds ∧ seconds ≤ lastSecond then
    if h' : nanos < 2000000000 then some ⟨seconds, nanos, h, h'⟩ else none
  else none

/-- The instant of a count of seconds. A second may be prolonged only as the last one of a
minute. -/
def ofSeconds? (seconds : Int) (nanos : Nat) : Option Instant :=
  if 1000000000 ≤ nanos ∧ seconds % 60 ≠ 59 then none else make? seconds nanos

def lt (a b : Instant) : Bool :=
  a.seconds < b.seconds || (a.seconds == b.seconds && a.nanos < b.nanos)

/-- Moves by milliseconds. A move that stays within a leap second keeps it; one that leaves it
counts from its start. -/
def shift? (t : Instant) (millis : Int) : Option Instant :=
  let wholeSeconds := millis.tdiv 1000
  let part := (millis - wholeSeconds * 1000) * 1000000
  let inLeap : Bool := decide (1000000000 ≤ t.nanos)
  let leaves : Bool := decide (0 < wholeSeconds) ||
    (decide (0 < part) && decide (2000000000 ≤ (t.nanos : Int) + part))
  if inLeap && !leaves && decide (wholeSeconds = 0) then
    make? t.seconds ((t.nanos : Int) + part).toNat
  else
    let (seconds, nanos) :=
      if inLeap then
        if leaves then (t.seconds, (t.nanos : Int) - 1000000000)
        else (t.seconds + 1, (t.nanos : Int) - 1000000000)
      else (t.seconds, (t.nanos : Int))
    let nanos := nanos + part
    let seconds := seconds + wholeSeconds
    if nanos < 0 then make? (seconds - 1) (nanos + 1000000000).toNat
    else if 1000000000 ≤ nanos then make? (seconds + 1) (nanos - 1000000000).toNat
    else make? seconds nanos.toNat

def add? (t : Instant) (d : Duration) : Option Instant := t.shift? d.millis

def sub? (t : Instant) (d : Duration) : Option Instant := t.shift? (-d.millis)

def days (t : Instant) : Int := t.seconds / 86400

def date (t : Instant) : Calendar.Date := Calendar.Date.ofDays t.days

def secondOfDay (t : Instant) : Nat := (t.seconds % 86400).toNat

def hour (t : Instant) : Nat := t.secondOfDay / 3600
def minute (t : Instant) : Nat := t.secondOfDay / 60 % 60

def second (t : Instant) : Nat := t.secondOfDay % 60 + t.nanos / 1000000000

def subsecond (t : Instant) : Nat := t.nanos % 1000000000

end Instant

end EdgeCache
