import QuoteKeeper.Text.Json
/-
  QuoteKeeper.Monitor.Registry — labelled gauges, counters and histograms, and their text
  exposition.

  A family has a name, a help text, a kind and label names; each distinct list of label values
  is one sample. A gauge is set, a counter counts up, a histogram counts observations into
  cumulative buckets (an observation falls in every bucket whose bound is at least it) and
  keeps their sum and count. Families are gathered by name, only those with samples, and the
  samples of a family in order of their label values, labels taken by name.

  The exposition writes for each family `# HELP` (backslashes and line breaks escaped) and
  `# TYPE`, then one line per sample: the name, the labels as `{name="value",...}` (backslash,
  quote and line break escaped) and the value; a histogram writes a `_bucket` line per bound
  with `le`, one with `le="+Inf"`, then `_sum` and `_count`. Numbers are written with the
  fewest digits that read back, with an exponent below 1e-4 and from 1e6 on, and `NaN`,
  `+Inf`, `-Inf` as words.
-/

namespace QuoteKeeper

inductive MetricKind where
  | gauge
  | counter
  | histogram
  deriving DecidableEq, Repr, Inhabited

namespace MetricKind

def name : MetricKind → String
  | .gauge => "gauge"
  | .counter => "counter"
  | .histogram => "histogram"

end MetricKind

structure MetricFamily where
  name : String
  help : String
  kind : MetricKind
  labelNames : List String
  /-- Upper bounds of a histogram's buckets, increasing. -/
  buckets : List Float
  deriving Inhabited

/-- What a sample holds. -/
inductive SampleValue where
  | scalar (v : Float)
  /-- Cumulative bucket counts, the sum and the count of observations. -/
  | histogram (counts : List Nat) (sum : Float) (count : Nat)
  deriving Inhabited

/-- One labelled sample of a family. -/
structure Sample where
  family : String
  labels : List String
  value : SampleValue
  deriving Inhabited

structure Registry where
  families : List MetricFamily
  samples : List Sample
  deriving Inhabited

/-- Floats as the exposition writes them: exponent below 1e-4 and from 1e6 on. -/
def FloatLayout.general : FloatLayout := ⟨-4, 6, 2⟩

namespace Registry

def family? (r : Registry) (name : String) : Option MetricFamily := r.families.find? (·.name == name)

/-- Replaces or adds a family's sample with the given label values. -/
def update (r : Registry) (fam : String) (labels : List String) (f : Option SampleValue → SampleValue) :
    Registry :=
  match r.samples.find? (fun s => s.family == fam && s.labels == labels) with
  | some s => { r with samples := r.samples.map fun t =>
      if t.family == fam && t.labels == labels then { t with value := f (some s.value) } else t }
  | none => { r with samples := r.samples ++ [⟨fam, labels, f none⟩] }

def set (r : Registry) (fam : String) (labels : List String) (v : Float) : Registry :=
  r.update fam labels fun _ => .scalar v

def inc (r : Registry) (fam : String) (labels : List String) : Registry :=
  r.update fam labels fun
    | some (.scalar v) => .scalar (v + 1)
    | _ => .scalar 1

def observe (r : Registry) (fam : String) (labels : List String) (x : Float) : Registry :=
  let bounds := ((r.family? fam).map (·.buckets)).getD []
  r.update fam labels fun
    | some (.histogram cs s n) =>
      .histogram ((cs.zip bounds).map fun (c, b) => if x ≤ b then c + 1 else c) (s + x) (n + 1)
    | _ => .histogram (bounds.map fun b => if x ≤ b then 1 else 0) x 1

/-- Label pairs of a sample, sorted by name. -/
def labelPairs (f : MetricFamily) (s : Sample) : List (String × String) :=
  (f.labelNames.zip s.labels).mergeSort fun a b => decide (a.1 ≤ b.1)

def pairsLe : List (String × String) → List (String × String) → Bool
  | [], _ => true
  | _, [] => false
  | (_, a) :: as, (_, b) :: bs => if a == b then pairsLe as bs else decide (a < b)

/-- The families with samples, by name, each with its samples in label order. -/
def gather (r : Registry) : List (MetricFamily × List Sample) :=
  let fams := r.families.mergeSort fun a b => decide (a.name ≤ b.name)
  fams.filterMap fun f =>
    let ss := r.samples.filter (·.family == f.name)
    if ss.isEmpty then none
    else some (f, ss.mergeSort fun a b => pairsLe (labelPairs f a) (labelPairs f b))

/-! ## Exposition -/

def numberText (x : Float) : String :=
  if x.isNaN then "NaN"
  else if x.isInf then (if x > 0 then "+Inf" else "-Inf")
  else Float.layoutText FloatLayout.general x

def escapeHelp (s : String) : String :=
  String.ofList (s.toList.flatMap fun c => if c = '\\' then ['\\', '\\'] else if c = '\n' then ['\\', 'n'] else [c])

def escapeLabel (s : String) : String :=
  String.ofList (s.toList.flatMap fun c =>
    if c = '\\' then ['\\', '\\'] else if c = '\n' then ['\\', 'n'] else if c = '"' then ['\\', '"'] else [c])

def labelText (pairs : List (String × String)) : String :=
  if pairs.isEmpty then ""
  else "\x7b" ++ ",".intercalate (pairs.map fun (k, v) => k ++ "=\"" ++ escapeLabel v ++ "\"") ++ "\x7d"

def sampleLines (f : MetricFamily) (s : Sample) : List String :=
  let pairs := labelPairs f s
  match s.value with
  | .scalar v => [f.name ++ labelText pairs ++ " " ++ numberText v]
  | .histogram cs sum n =>
    (cs.zip f.buckets).map (fun (c, b) =>
      f.name ++ "_bucket" ++ labelText (pairs ++ [("le", numberText b)]) ++ " " ++ toString c) ++
    [f.name ++ "_bucket" ++ labelText (pairs ++ [("le", "+Inf")]) ++ " " ++ toString n,
     f.name ++ "_sum" ++ labelText pairs ++ " " ++ numberText sum,
     f.name ++ "_count" ++ labelText pairs ++ " " ++ toString n]

/-- The text exposition of every gathered family. -/
def exposition (r : Registry) : String :=
  String.join ((r.gather.flatMap fun (f, ss) =>
    ["# HELP " ++ f.name ++ " " ++ escapeHelp f.help, "# TYPE " ++ f.name ++ " " ++ f.kind.name] ++
      ss.flatMap (sampleLines f)).map (· ++ "\n"))

end Registry

end QuoteKeeper
