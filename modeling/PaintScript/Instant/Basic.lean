/-!
# Instants

An `Instant` is a date of the Gregorian calendar, a second of that day and a fraction of that
second, all in Coordinated Universal Time. A fraction of a second or more stands for a leap second.
-/

namespace PaintScript

def isLeapYear (year : Int) : Bool :=
  year % 4 == 0 && (year % 100 != 0 || year % 400 == 0)

def daysIn (year : Int) (month : Nat) : Nat :=
  if month = 2 then (if isLeapYear year then 29 else 28)
  else if month = 4 ∨ month = 6 ∨ month = 9 ∨ month = 11 then 30
  else 31

theorem daysIn_pos (year : Int) (month : Nat) : 1 ≤ daysIn year month := by
  unfold daysIn
  split
  · split <;> decide
  · split <;> decide

structure Date where
  year : Int
  month : Nat
  day : Nat
  valid : 1 ≤ month ∧ month ≤ 12 ∧ 1 ≤ day ∧ day ≤ daysIn year month
  deriving DecidableEq

namespace Date

def of? (year : Int) (month day : Nat) : Option Date :=
  if h : 1 ≤ month ∧ month ≤ 12 ∧ 1 ≤ day ∧ day ≤ daysIn year month then
    some ⟨year, month, day, h⟩
  else none

def next (d : Date) : Date :=
  if h : d.day < daysIn d.year d.month then
    ⟨d.year, d.month, d.day + 1, d.valid.1, d.valid.2.1, by omega, h⟩
  else if h : d.month < 12 then
    ⟨d.year, d.month + 1, 1, by omega, h, Nat.le_refl 1, daysIn_pos ..⟩
  else ⟨d.year + 1, 1, 1, by decide, by decide, Nat.le_refl 1, daysIn_pos ..⟩

def previous (d : Date) : Date :=
  if h : 1 < d.day then
    ⟨d.year, d.month, d.day - 1, d.valid.1, d.valid.2.1, by omega, by
      have := d.valid.2.2.2
      omega⟩
  else if h : 1 < d.month then
    ⟨d.year, d.month - 1, daysIn d.year (d.month - 1), by omega, by
      have := d.valid.2.1
      omega, daysIn_pos .., Nat.le_refl _⟩
  else ⟨d.year - 1, 12, 31, by decide, by decide, by decide, Nat.le_refl _⟩

end Date

structure Instant where
  date : Date
  second : Fin 86400
  nano : Fin 2000000000
  deriving DecidableEq

/-- The instant at which a clock that is `offset` seconds ahead shows the given date and second. The
offset is less than a day. -/
def Instant.ofLocal (date : Date) (second : Nat) (nano : Fin 2000000000) (offset : Int) : Instant :=
  let moved := (second : Int) - offset
  let date := if moved < 0 then date.previous else if 86400 ≤ moved then date.next else date
  ⟨date, Fin.ofNat 86400 (moved % 86400).toNat, nano⟩

end PaintScript
