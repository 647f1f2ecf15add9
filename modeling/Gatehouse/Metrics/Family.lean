import Gatehouse.Metrics.Labels

/-!
# Families of series

A metric is a family of series, one for each set of labels that was ever written. Looking a
series up never creates it. New series go to the end, but no result depends on the order of the
series: what is proved of the text of a family holds for each order.
-/

namespace Gatehouse

/-- The series of one metric, in the order of their first use. -/
structure Family (α : Type) where
  series : List (Labels × α)
  deriving DecidableEq

namespace Family

variable {α : Type}

/-- No series. -/
def empty : Family α := ⟨[]⟩

/-- The value of the first series with the labels. -/
def lookup (l : Labels) : List (Labels × α) → Option α
  | [] => none
  | s :: rest => if s.1 = l then some s.2 else lookup l rest

/-- Changes the series with the labels, which is added when it is new. -/
def adjustSeries (l : Labels) (f : Option α → α) : List (Labels × α) → List (Labels × α)
  | [] => [(l, f none)]
  | s :: rest => if s.1 = l then (l, f (some s.2)) :: rest else s :: adjustSeries l f rest

/-- The value of the series with the labels. -/
def get? (m : Family α) (l : Labels) : Option α := lookup l m.series

/-- Changes the value of the series with the labels. -/
def adjust (m : Family α) (l : Labels) (f : Option α → α) : Family α :=
  ⟨adjustSeries l f m.series⟩

theorem lookup_adjustSeries {l l' : Labels} {f : Option α → α} {ss : List (Labels × α)} :
    lookup l' (adjustSeries l f ss) = if l' = l then some (f (lookup l ss)) else lookup l' ss := by
  induction ss with
  | nil =>
    by_cases h : l' = l
    · simp [adjustSeries, lookup, h]
    · simp [adjustSeries, lookup, h, Ne.symm h]
  | cons s rest ih =>
    rw [adjustSeries]
    by_cases hs : s.1 = l
    · by_cases h : l' = l
      · simp [lookup, hs, h]
      · simp [lookup, hs, h, Ne.symm h]
    · by_cases h : l' = l
      · subst h; simp [lookup, hs, ih]
      · by_cases hs' : s.1 = l' <;> simp [lookup, hs, hs', h, ih]

/-- A change touches the series with the labels and no other. -/
theorem get?_adjust (m : Family α) (l l' : Labels) (f : Option α → α) :
    (m.adjust l f).get? l' = if l' = l then some (f (m.get? l)) else m.get? l' :=
  lookup_adjustSeries

end Family

/-- A family of counters, which wrap at 64 bits. -/
abbrev Counters := Family UInt64

/-- Adds to a counter. -/
def Counters.add (m : Counters) (l : Labels) (amount : UInt64) : Counters :=
  Family.adjust m l fun n => n.getD 0 + amount

/-- Adds one to a counter. -/
def Counters.inc (m : Counters) (l : Labels) : Counters := Counters.add m l 1

/-- The value of a counter; zero when it was never written. -/
def Counters.get (m : Counters) (l : Labels) : UInt64 := (Family.get? m l).getD 0

/-- A family of gauges, signed numbers that wrap at 64 bits. -/
abbrev Gauges := Family Int64

/-- Adds to a gauge. -/
def Gauges.add (m : Gauges) (l : Labels) (amount : Int64) : Gauges :=
  Family.adjust m l fun n => n.getD 0 + amount

/-- Adds one to a gauge. -/
def Gauges.inc (m : Gauges) (l : Labels) : Gauges := Gauges.add m l 1

/-- Takes one from a gauge. -/
def Gauges.dec (m : Gauges) (l : Labels) : Gauges := Gauges.add m l (-1)

/-- The value of a gauge; zero when it was never written. -/
def Gauges.get (m : Gauges) (l : Labels) : Int64 := (Family.get? m l).getD 0

end Gatehouse
