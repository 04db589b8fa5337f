/-
Moments: a day and a time of day, read as local time or as universal time by whoever holds them.
-/
import TableGraph.Calendar.Date
import TableGraph.Calendar.Time

namespace TableGraph

/-- a day and a time of day -/
structure DateTime where
  date : Date
  time : Time
  deriving DecidableEq, Repr

namespace DateTime

/-- day and time joined by a mark -/
def textWith (mark : Char) (t : DateTime) : List Char := t.date.text ++ mark :: t.time.text

/-- day and time joined by a space -/
def spacedText (t : DateTime) : List Char := t.textWith ' '

/-- day and time joined by the letter T -/
def markedText (t : DateTime) : List Char := t.textWith 'T'

/-- the moment `minutes` earlier, for less than a day in either direction -/
def earlier? (t : DateTime) (minutes : Int) : Option DateTime :=
  let total : Int := (t.time.hour * 60 + t.time.minute : Nat) - minutes
  let inDay := (total % 1440).toNat
  let date? := if total < 0 then t.date.previous? else if 1440 ≤ total then t.date.next? else some t.date
  date?.bind fun date =>
    (Time.ofParts? (inDay / 60) (inDay % 60) t.time.second t.time.nano).map fun time => ⟨date, time⟩

end DateTime

end TableGraph
