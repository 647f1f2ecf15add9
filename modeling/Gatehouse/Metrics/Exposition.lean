import Gatehouse.Metrics
import Gatehouse.Text.Numeral

/-!
# The text form of metrics

Each family is a line with its type and one line for each sample. A label value is written
between quotes with backslash, quote and line feed escaped, so it can end neither its quotes
nor its line. The series of a family stand in the order in which the family has them.
-/

namespace Gatehouse

/-- One character of a label value. -/
def labelChar (c : Char) : List Char :=
  match c with
  | '\\' => ['\\', '\\']
  | '"' => ['\\', '"']
  | '\n' => ['\\', 'n']
  | c => [c]

/-- A label value without its quotes. -/
def labelValue (s : String) : String := String.ofList (s.toList.flatMap labelChar)

/-- A label with its value. -/
def labelText (p : String × String) : String := p.1 ++ "=\"" ++ labelValue p.2 ++ "\""

/-- Labels between commas. -/
def labelsText (pairs : LabelList) : String := ",".intercalate (pairs.map labelText)

/-- A sample's name with its labels, which stand in braces if there are any. -/
def seriesText (name : String) (pairs : LabelList) : String :=
  if pairs = [] then name else name ++ "\x7b" ++ labelsText pairs ++ "\x7d"

/-- The line that gives the type of a family. -/
def typeLine (name kind : String) : String := "# TYPE " ++ name ++ " " ++ kind

/-- The lines of a family with its type: those of each series, one series after another. -/
def Family.lines {α : Type} (m : Family α) (name kind : String)
    (block : LabelList → α → List String) : List String :=
  typeLine name kind :: m.series.flatMap fun s => block s.1.pairs s.2

/-- The lines of a family of counters. -/
def Counters.lines (m : Counters) (name : String) : List String :=
  Family.lines m name "counter" fun l n => [seriesText name l ++ " " ++ Text.decimal n.toNat]

/-- The lines of a family of gauges. -/
def Gauges.lines (m : Gauges) (name : String) : List String :=
  Family.lines m name "gauge" fun l n => [seriesText name l ++ " " ++ Text.signed n.toInt]

/-- A bucket's line. -/
def bucketLine (name : String) (l : LabelList) (bound : String) (n : UInt64) : String :=
  let lead := if l = [] then "" else labelsText l ++ ","
  name ++ "_bucket\x7b" ++ lead ++ "le=\"" ++ bound ++ "\"\x7d " ++ Text.decimal n.toNat

/-- The lines of one histogram: its buckets, the bucket of all, the sum and the count. -/
def Histogram.lines (h : Histogram) (name : String) (l : LabelList) : List String :=
  Histogram.bounds.zipWith (fun bound n => bucketLine name l (Text.decimal bound) n) h.buckets ++
    [bucketLine name l "+Inf" h.count,
      seriesText (name ++ "_sum") l ++ " " ++ Text.decimal h.sum.toNat,
      seriesText (name ++ "_count") l ++ " " ++ Text.decimal h.count.toNat]

/-- The lines of a family of histograms. -/
def Histograms.lines (m : Histograms) (name : String) : List String :=
  Family.lines m name "histogram" fun l h => h.lines name l

/-- The lines of a gauge without labels. -/
def plainGauge (name : String) (n : Nat) : List String :=
  [typeLine name "gauge", name ++ " " ++ Text.decimal n]

namespace Metrics

/-- The lines of all families, then those of further gauges. -/
def lines (m : Metrics) (extra : List (String × Nat)) : List String :=
  m.calls.lines "aclgate_calls_total" ++
    m.denials.lines "aclgate_denials_total" ++
    m.adminStreams.lines "aclgate_admin_streams_active" ++
    m.evictions.lines "aclgate_subscriber_evictions_total" ++
    m.dispatchDuration.lines "aclgate_dispatch_duration_micros" ++
    plainGauge "aclgate_draining" (if m.draining then 1 else 0) ++
    extra.flatMap fun g => plainGauge g.1 g.2

/-- The text of all families: each line ends with a line feed. -/
def text (m : Metrics) (extra : List (String × Nat)) : String :=
  String.join ((m.lines extra).map (· ++ "\n"))

end Metrics

end Gatehouse
