import QuoteKeeper.Sim.Lending
import QuoteKeeper.Engine.Run
/-
  QuoteKeeper.Sim.Engine — one pricing run of an ARM with every collaborator stubbed.

  The contract answers fixed prices and assets, the reference provider and the rate source
  fixed quotes, the submitter and the waiter succeed or fail as told; the run reports its
  decision or failure with the events, metrics and alerts it emitted, and the calls made to
  its collaborators.
-/

namespace QuoteKeeper

namespace Sim

/-- Metrics that record each call as `[method, arm, args...]`. -/
def metricsRecorder : Metrics Scripted :=
  let r (n : String) (a : String) (xs : List Json) := record "metric" (.arr (.str n :: .str a :: xs))
  ⟨fun a x y z => r "SetReference" a [Json.ofFloat x, Json.ofFloat y, Json.ofFloat z], fun a x y => r "SetTargets" a [Json.ofFloat x, Json.ofFloat y],
    fun a x y => r "SetCurrent" a [Json.ofFloat x, Json.ofFloat y], fun a x y => r "SetDiffs" a [Json.ofFloat x, Json.ofFloat y],
    fun a x y => r "SetLending" a [Json.ofFloat x, Json.ofFloat y], fun a o => r "RecordRun" a [.str o],
    fun a k => r "RecordFailure" a [.str k]⟩

def notifierRecorder : Notifier Scripted :=
  let r (xs : List String) := record "alert" (Json.ofStrings xs)
  ⟨fun a b s t => r ["PricesSubmitted", a, b, s, t], fun a k e => r ["RunFailed", a, k, e.message],
    fun a b m => r ["BoundContradiction", a, b, m]⟩

def readContract (j : Json) : Decoded (QuotingContract Scripted) := do
  let p (k : String) : Decoded (Scripted (Outcome Price)) := do
    match ← readErr j (k ++ "_error") with
    | some e => pure (pure (.error e))
    | none => let v ← readPrice j k; pure (pure (.ok v))
  let a (k : String) : Decoded (Scripted (Outcome Address)) := do
    match ← readErr j (k ++ "_error") with
    | some e => pure (pure (.error e))
    | none => let v ← readAddr j k; pure (pure (.ok v))
  pure ⟨← p "buy", ← p "sell", ← p "cross", ← a "liquidity", ← a "base"⟩

def engine (j : Json) : Decoded Json := do
  let name ← readStr j "name"
  let opts ← readOptions (j.getD "options")
  let bare ← readBool j "bare"
  let contract ← match j.getD "contract" with
    | .null => pure none
    | cj => some <$> readContract cj
  let rj := j.getD "reference"
  let reference ← match rj with
    | .null => pure none
    | _ => do
      let a ← readAnswer rj
      pure (some (⟨← readStr rj "name", fun pr amt => do
        record "reference" (.obj [("base", .str pr.base.toText), ("liquidity", .str pr.liquidity.toText),
          ("amount", bigJson amt)])
        pure a⟩ : Provider Scripted))
  let rates ← match j.getD "rates" with
    | .null => pure none
    | rt => do let r ← readStub rt "rate" readPrice; pure (some (pure r))
  let cj := j.getD "calculator"
  let calcr ← readCalculator cj
  let sj := j.getD "submitter"
  let submitter ← match sj with
    | .null => pure none
    | _ => do
      let e ← readErr sj "error"
      pure (some fun (b s : Price) => do
        record "submit" (.obj [("buy", b.toJson), ("sell", s.toJson)])
        pure (match e with | some e => .error e | none => .ok stubTransaction))
  let waiter ← match j.getD "waiter" with
    | .null => pure none
    | wj => do
      let e ← readErr wj "error"
      pure (some fun (_ : Transaction) => do
        record "wait" .null
        pure (match e with | some e => .error e | none => .ok ()))
  let lending := calcr.map fun c inp => Lending.Calculator.bounds (some c) inp
  let comps : Components Scripted := ⟨contract, submitter, waiter, reference, rates, lending,
    if bare then none else some eventLogger, if bare then none else some metricsRecorder,
    if bare then none else some notifierRecorder, pure 0⟩
  let e ← ofOutcome (Engine.new name comps)
  let (o, (_, calls)) := (e.run opts).run ([], #[])
  match o with
  | .error (.panic m) => failWith (.panic m)
  | _ => pure ()
  let opt (k tag : String) (present : Bool) : List (String × Json) :=
    if present then [(k, .arr (recorded calls tag))] else []
  pure (.obj ([("name", .str name), ("err", Outcome.errorJson o),
    ("decision", match o with | .ok r => r.toJson | .error _ => .null),
    ("events", .arr (recorded calls "event")), ("metrics", .arr (recorded calls "metric")),
    ("alerts", .arr (recorded calls "alert")), ("waits", Json.ofNat (recorded calls "wait").length)] ++
    opt "reference_calls" "reference" (!rj.isNull) ++ opt "submissions" "submit" (!sj.isNull) ++
    callCounts cj calls))

end Sim

end QuoteKeeper
