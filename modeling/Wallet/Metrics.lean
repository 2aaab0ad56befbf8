import Wallet.Table

/-!
# Metrics

Counters and sampled quantities under a name and labels. Of a sampled quantity only the number of
samples is kept.
-/

namespace Wallet

/-- What is measured: a name and labels. -/
structure Metric where
  name : String
  labels : List (String × String)
deriving DecidableEq

/-- The counters and the numbers of samples, in the order in which they were first touched. -/
structure Metrics where
  counters : Table Metric Nat
  samples : Table Metric Nat

namespace Metrics

def empty : Metrics := ⟨.empty, .empty⟩

instance : Inhabited Metrics := ⟨empty⟩

/-- The value of a counter; one never touched is zero. -/
def counter (m : Metrics) (metric : Metric) : Nat := (m.counters.get? metric).getD 0

/-- The number of samples of a quantity. -/
def sampleCount (m : Metrics) (metric : Metric) : Nat := (m.samples.get? metric).getD 0

def count (m : Metrics) (metric : Metric) : Metrics :=
  { m with counters := m.counters.put metric (m.counter metric + 1) }

def sample (m : Metrics) (metric : Metric) : Metrics :=
  { m with samples := m.samples.put metric (m.sampleCount metric + 1) }

/-! ## Exposition

One line for each value, with its labels between braces, as scrapers read it. -/

def labelChar (c : Char) : List Char :=
  if c = '\\' then ['\\', '\\'] else if c = '"' then ['\\', '"']
  else if c = '\n' then ['\\', 'n'] else [c]

def labelText (label : String × String) : String :=
  label.1 ++ "=\"" ++ String.ofList (label.2.toList.flatMap labelChar) ++ "\""

def labelsText (labels : List (String × String)) : String :=
  if labels.isEmpty then "" else "\x7b" ++ String.intercalate "," (labels.map labelText) ++ "\x7d"

/-- The line of one value, with an ending to its name. -/
def line (ending : String) (row : Metric × Nat) : String :=
  row.1.name ++ ending ++ labelsText row.1.labels ++ " " ++ toString row.2

/-- The values of all counters and the numbers of samples, one in a line. -/
def exposition (m : Metrics) : String :=
  let lines := m.counters.rows.map (line "") ++ m.samples.rows.map (line "_count")
  String.join (lines.map (· ++ "\n"))

end Metrics

end Wallet
