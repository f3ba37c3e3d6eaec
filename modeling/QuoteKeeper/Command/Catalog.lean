import QuoteKeeper.Command.Runner
import QuoteKeeper.Command.ReferencePrices
import QuoteKeeper.Command.WithdrawEstimate
import QuoteKeeper.Command.MetricsProbe
/-
  QuoteKeeper.Command.Catalog — the commands by name: `runner`, `reference_prices`,
  `withdraw_estimate` and `metrics_probe`.
-/

namespace QuoteKeeper

namespace Command

open Cli

variable {m : Type → Type} [Monad m]

/-- The command of a name, run with its arguments, if there is one of that name. -/
def byName (name : String) : Option (Surroundings m → List String → m Exit) :=
  match name with
  | "runner" => some runner
  | "reference_prices" => some referencePrices
  | "withdraw_estimate" => some withdrawEstimate
  | "metrics_probe" => some metricsProbe
  | _ => none

end Command

end QuoteKeeper
