import SourceLocator.Fault

/-!
Dates and times as they are written: a date alone, or with a time of day behind a `T` or blanks, which
may have a fraction of a second and a zone.
-/

set_option autoImplicit false

namespace SourceLocator.Yaml

structure WrittenClock where
  hour : Nat
  minute : Nat
  second : Nat
  fraction : Text
  zone : Option Int
deriving Repr

structure Timestamp where
  year : Nat
  month : Nat
  day : Nat
  clock : Option WrittenClock
deriving Repr

namespace Timestamp

def digits? (least most : Nat) (text : Text) : Option (Nat × Text) :=
  let digits := (text.take most).takeWhile Char.isDigit
  if digits.length < least then none
  else
    some (digits.foldl (fun n c => n * 10 + (c.toNat - 0x30)) 0, text.drop digits.length)

def behind? (c : Char) : Text → Option Text
  | [] => none
  | d :: rest => if c = d then some rest else none

def isGap (c : Char) : Bool := c == ' ' || c == '\t'

def behindGap? : Text → Option Text
  | [] => none
  | c :: rest =>
    if c = 'T' ∨ c = 't' then some rest
    else if isGap c then some (rest.dropWhile isGap)
    else none

def zone? : Text → Option Int
  | [] => none
  | 'Z' :: rest => if rest.isEmpty then some 0 else none
  | sign :: rest => do
    if sign != '+' && sign != '-' then none
    let (hours, rest) ← digits? 1 2 rest
    let minutes ← if rest.isEmpty then some 0 else do
      let (minutes, rest) ← digits? 2 2 (← behind? ':' rest)
      if rest.isEmpty then some minutes else none
    let zone : Int := (hours * 60 + minutes : Nat)
    return if sign = '-' then -zone else zone

def clock? (text : Text) : Option WrittenClock := do
  let (hour, rest) ← digits? 1 2 text
  let (minute, rest) ← digits? 2 2 (← behind? ':' rest)
  let (second, rest) ← digits? 2 2 (← behind? ':' rest)
  let places := (behind? '.' rest).getD []
  let fraction := places.takeWhile Char.isDigit
  let rest := if rest.head? = some '.' then places.drop fraction.length else rest
  if rest.isEmpty then return ⟨hour, minute, second, fraction, none⟩
  return ⟨hour, minute, second, fraction, some (← zone? (rest.dropWhile isGap))⟩

def ofLine? (text : Text) : Option Timestamp := do
  let (year, rest) ← digits? 4 4 text
  let (month, rest) ← digits? 1 2 (← behind? '-' rest)
  let (day, rest) ← digits? 1 2 (← behind? '-' rest)
  if rest.isEmpty then return ⟨year, month, day, none⟩
  return ⟨year, month, day, some (← clock? (← behindGap? rest))⟩

def ofText? (text : Text) : Option Timestamp :=
  ofLine? (if text.getLast? = some '\n' then text.dropLast else text)

def fullDateLength : Nat := 10

-- Whether an untagged text is a date or a time. A date alone has to have all its digits.
def isImplied (text : Text) : Bool :=
  match ofLine? text with
  | some ⟨_, _, _, none⟩ => text.length == fullDateLength
  | some _ => true
  | none => false

-- The microseconds of a fraction: six of its digits count.
def microseconds (fraction : Text) : Nat :=
  ((fraction.take 6) ++ List.replicate (6 - fraction.length) '0').foldl
    (fun n c => n * 10 + (c.toNat - 0x30)) 0

def read (stamp : Timestamp) : Except CalendarFault (Date × Option Moment) := do
  match stamp.clock with
  | none => return (← Date.make stamp.year stamp.month stamp.day, none)
  | some clock =>
    Moment.checkZone clock.zone
    let date ← Date.make stamp.year stamp.month stamp.day
    let moment ←
      Moment.make date clock.hour clock.minute clock.second (microseconds clock.fraction) clock.zone
    return (date, some moment)

end Timestamp

end SourceLocator.Yaml
