import QuoteKeeper.Log.Entry
/-
  QuoteKeeper.Log.Schema — the audit events and the fields each must carry.

  Each audit event names required fields and price fields; a price field must also be a
  string (prices are logged as decimal text). Checking an event lists the missing fields, in
  schema order (required first, then prices), and the price fields that are not strings, as
  `<event>: missing fields: a,b; prices must be decimal strings: c`. An event without a schema
  passes.

  Writing an audit event (`Logger.event`) sorts its fields by key, adds `schemaError` when the
  check fails, and adds `event`; it is an `info` entry whose message is the event name. A risk
  event (`Logger.risk`) is the same at `warn` with the message `risk_event`.
-/

namespace QuoteKeeper

/-- The fields an audit event must carry. -/
structure Schema where
  event : String
  required : List String
  prices : List String

namespace Schema

/-- Every audit event, with its schema. -/
def all : List Schema :=
  [⟨"reference_quote", ["arm", "source"], ["mid"]⟩,
   ⟨"target_prices", ["arm", "strategy"], ["buy", "sell"]⟩,
   ⟨"lending_bounds", ["arm", "apr", "apy", "holdingDays"], ["minBuy", "maxBuy"]⟩,
   ⟨"withdraw_estimate", ["needed", "covered", "shortfall", "days"], []⟩,
   ⟨"range_adjust", ["arm", "side", "reason"], ["from", "to"]⟩,
   ⟨"quote_decision", ["arm", "diffBuyBps", "diffSellBps", "toleranceBps", "submit", "dryRun"],
     ["targetBuy", "targetSell", "currentBuy", "currentSell"]⟩,
   ⟨"prices_submitted", ["arm", "tx"], ["buy", "sell"]⟩,
   ⟨"bound_contradiction", ["arm"], ["minBuy", "maxBuy", "mid"]⟩]

/-- Event names in sorted order. -/
def known : List String := (all.map (·.event)).mergeSort (fun a b => decide (a ≤ b))

def lookup (event : String) (fields : List (String × Json)) : Option Json :=
  (fields.find? (·.1 == event)).map (·.2)

/-- What is wrong with an event's fields, if anything. -/
def check (event : String) (fields : List (String × Json)) : Option String :=
  match all.find? (·.event == event) with
  | none => none
  | some s =>
    let has (k : String) := fields.any (·.1 == k)
    let missingReq := s.required.filter (!has ·)
    let missingPrice := s.prices.filter (!has ·)
    let notString := s.prices.filter fun k =>
      match lookup k fields with
      | some (.str _) => false
      | some _ => true
      | none => false
    let missing := missingReq ++ missingPrice
    let problems :=
      (if missing.isEmpty then [] else ["missing fields: " ++ ",".intercalate missing]) ++
      (if notString.isEmpty then [] else ["prices must be decimal strings: " ++ ",".intercalate notString])
    if problems.isEmpty then none else some (event ++ ": " ++ "; ".intercalate problems)

end Schema

/-- Fields sorted by key. -/
def sortFields (fs : List (String × Json)) : List (String × Json) :=
  fs.mergeSort fun a b => decide (a.1 ≤ b.1)

/-- The fields written for an audit event: sorted, with `schemaError` and `event` after. -/
def eventFields (event : String) (fs : List (String × Json)) : List (String × Json) :=
  sortFields fs ++
    (match Schema.check event fs with
     | some e => [("schemaError", .str e)]
     | none => []) ++ [("event", .str event)]

namespace Logger

variable {m : Type → Type} [Monad m]

/-- An audit event at `info`, its name as the message. -/
def event (l : Logger m) (event : String) (fs : List (String × Json)) : m Unit :=
  l.info event (eventFields event fs)

/-- A risk event at `warn`, with the message `risk_event`. -/
def risk (l : Logger m) (event : String) (fs : List (String × Json)) : m Unit :=
  l.warn "risk_event" (eventFields event fs)

end Logger

end QuoteKeeper
