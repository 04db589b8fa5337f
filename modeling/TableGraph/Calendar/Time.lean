/-
Times of day to the nanosecond. A leap second is second 60; it may stand in any minute.
-/
import TableGraph.Number.Digits

namespace TableGraph

namespace Time

/-- whether there is such a time of day -/
def IsTime (hour minute second nano : Nat) : Prop :=
  hour < 24 ∧ minute < 60 ∧ second ≤ 60 ∧ nano < Nat.pow 10 9

instance (hour minute second nano : Nat) : Decidable (IsTime hour minute second nano) :=
  inferInstanceAs (Decidable (_ ∧ _ ∧ _ ∧ _))

end Time

/-- a time of day -/
structure Time where
  hour : Nat
  minute : Nat
  second : Nat
  nano : Nat
  valid : Time.IsTime hour minute second nano
  deriving DecidableEq, Repr

namespace Time

/-- the time with these numbers, if there is one -/
def ofParts? (hour minute second nano : Nat) : Option Time :=
  if h : IsTime hour minute second nano then some ⟨hour, minute, second, nano, h⟩ else none

/-- the first moment of a day -/
def midnight : Time := ⟨0, 0, 0, 0, by decide⟩

/-- a fraction of a second in the fewest of three, six or nine digits that are exact, and nothing for no fraction -/
def fractionText (nano : Nat) : List Char :=
  if nano = 0 then []
  else if nano % Nat.pow 10 6 = 0 then '.' :: Digits.padded 3 (nano / Nat.pow 10 6)
  else if nano % Nat.pow 10 3 = 0 then '.' :: Digits.padded 6 (nano / Nat.pow 10 3)
  else '.' :: Digits.padded 9 nano

/-- hour, minute and second joined by colons, and the fraction -/
def text (t : Time) : List Char :=
  Digits.padded 2 t.hour ++ ':' :: (Digits.padded 2 t.minute ++ ':' :: (Digits.padded 2 t.second ++ fractionText t.nano))

end Time

end TableGraph
