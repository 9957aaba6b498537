import LookupJoin.Calendar
/-!
The history of a zone's clocks. It is a list of eras. In an era standard time keeps a fixed distance from
universal time, and the clocks show a saving on top of it: a fixed one, or the one that the latest of a
set of yearly changes has brought.
-/
namespace LookupJoin.Zone

inductive ClockKind where
  | wall | standard | universal
deriving DecidableEq, Repr

/-- A day of a month; a Sunday is day 0 of the week. -/
inductive DayRule where
  | number (day : Nat)
  | last (weekday : Nat)
  | onOrAfter (weekday day : Nat)
  | onOrBefore (weekday day : Nat)
deriving DecidableEq, Repr

structure Moment where
  month : Nat
  day : DayRule
  seconds : Int
  clock : ClockKind
deriving DecidableEq, Repr

/-- From its moment on, in the years `first` to `last`, clocks show `saving` over standard time. -/
structure Change where
  first : Nat
  last : Nat
  moment : Moment
  saving : Int
deriving DecidableEq, Repr

inductive Saving where
  | fixed (seconds : Int)
  | yearly (changes : List Change)
deriving DecidableEq, Repr

/-- The last era of a history has no end. -/
structure Era where
  offset : Int
  saving : Saving
  ending : Option (Nat × Moment)
deriving DecidableEq, Repr

def weekday (day : Int) : Int := (day + 4).fmod 7

def DayRule.toDays (rule : DayRule) (year month : Nat) : Int :=
  let start := Date.toDays ⟨year, month, 1⟩
  let upTo (day : Int) (sought : Nat) := day - (weekday day - sought).fmod 7
  match rule with
  | .number day => start + day - 1
  | .last sought =>
    upTo (if month = 12 then start + 30 else Date.toDays ⟨year, month + 1, 1⟩ - 1) sought
  | .onOrAfter sought day => upTo (start + day + 5) sought
  | .onOrBefore sought day => upTo (start + day - 1) sought

example : (DayRule.last 0).toDays 2024 3 = Date.toDays ⟨2024, 3, 31⟩ ∧
    (DayRule.onOrAfter 0 8).toDays 2024 3 = Date.toDays ⟨2024, 3, 10⟩ ∧
    (DayRule.onOrBefore 5 30).toDays 2024 12 = Date.toDays ⟨2024, 12, 27⟩ := by
  decide +kernel

/-- The instant of a moment in seconds since 1970, for clocks `offset` seconds ahead with a saving. -/
def Moment.instant (moment : Moment) (offset saving : Int) (year : Nat) : Int :=
  let shown := secondsPerDay * moment.day.toDays year moment.month + moment.seconds
  match moment.clock with
  | .wall => shown - offset - saving
  | .standard => shown - offset
  | .universal => shown

def changesIn (changes : List Change) (year : Nat) : List (Nat × Change) :=
  let given := changes.filter fun change => change.first ≤ year && year ≤ change.last
  let sorted := given.mergeSort fun change next =>
    change.moment.instant 0 0 year ≤ next.moment.instant 0 0 year
  sorted.map fun change => (year, change)

def allChanges (changes : List Change) : List (Nat × Change) :=
  (List.range 300).flatMap fun count => changesIn changes (1800 + count)

structure Shift where
  start : Int
  offset : Int
deriving DecidableEq, Repr

def beginning : Int := -(1 <<< 63 : Nat)

def forever : Int := (1 <<< 63 : Nat)

def Era.limit (era : Era) (saving : Int) : Int :=
  match era.ending with
  | some (year, moment) => moment.instant era.offset saving year
  | none => forever

def Era.follow (era : Era) (saving : Int) : List (Nat × Change) → List Shift × Int
  | [] => ([], saving)
  | (year, change) :: rest =>
    let instant := change.moment.instant era.offset saving year
    if instant < era.limit saving then
      let (shifts, last) := era.follow change.saving rest
      (⟨instant, era.offset + change.saving⟩ :: shifts, last)
    else ([], saving)

/-- The shifts of an era as if it had always been in force, and the saving that it ends with. Yearly
changes begin with no saving. -/
def Era.shifts (era : Era) : List Shift × Int :=
  match era.saving with
  | .fixed seconds => ([⟨beginning, era.offset + seconds⟩], seconds)
  | .yearly changes =>
    let (shifts, last) := era.follow 0 (allChanges changes)
    (⟨beginning, era.offset⟩ :: shifts, last)

def cut (start : Int) : List Shift → List Shift
  | current :: next :: rest =>
    if next.start ≤ start then cut start (next :: rest) else ⟨start, current.offset⟩ :: next :: rest
  | [last] => [⟨start, last.offset⟩]
  | [] => []

def shiftsFrom (start : Int) : List Era → List Shift
  | [] => []
  | era :: rest =>
    let (shifts, saving) := era.shifts
    cut start shifts ++ shiftsFrom (era.limit saving) rest

/-- Two shifts are one when clocks reach the second before they show a later time than they showed at
the first; `before` is the offset that the first one ends. -/
def merge (before : Int) : List Shift → List Shift
  | current :: next :: rest =>
    if next.start + current.offset ≤ current.start + before then
      merge before (⟨current.start, next.offset⟩ :: rest)
    else current :: merge current.offset (next :: rest)
  | rest => rest
termination_by shifts => shifts.length

def offsetAfter (instant now : Int) : List Shift → Int
  | [] => now
  | shift :: rest => if shift.start ≤ instant then offsetAfter instant shift.offset rest else now

def offsetAt (instant : Int) (eras : List Era) : Int :=
  offsetAfter instant 0 (merge 0 (shiftsFrom beginning eras))

end LookupJoin.Zone
