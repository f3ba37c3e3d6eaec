import QuoteKeeper.Cli.Process
import QuoteKeeper.Text.Table
import QuoteKeeper.Strategy
/-
  QuoteKeeper.Command.ReferencePrices — the `reference_prices` command: every reference
  source of one ARM quoted side by side, to compare them.

  1. Flags: `-config`, `-arm`, `-wrapped`, `-targets` and `-timeout` (thirty seconds); every
     call is made within the timeout.
  2. Settings are loaded (`加载配置失败: ...`), an ARM must be named (`-arm is required`), the
     log writes warnings and worse to standard error as console lines, and the service is
     built with that ARM (`build: ...`). These problems, and those below, are fatal: nothing
     after them runs, the service is not stopped.
  3. The ARM needs reference sources (`arm <name> has no swap sources configured`). Its
     liquidity and base assets are read (`liquidity asset: ...`, `base asset: ...`). With
     `-wrapped` every source is divided by the wrapper's exchange rate (`arm <name> has no
     wrapper configured` without one).
  4. Every source is asked, in order, for the ARM's amount. A table on standard output has a
     line per source, `SOURCE MID BUY SELL ERROR`: the quote's prices, or dashes and the
     failure. Each quote is also logged as a `reference_quote` event.
  5. With `-targets`, after an empty line, a second table has, for every source with a quote,
     a line for the fee strategy and one for the offset strategy with the ARM's fee and
     offset: the targets, or dashes and the failure.
  6. Tables are laid out in columns two spaces apart. The service is stopped at the end.
-/

namespace QuoteKeeper

namespace Command

open Cli

def referenceFlags : List FlagSpec :=
  [⟨"config", "配置文件路径", .text "configs/config.yaml"⟩,
   ⟨"arm", "ARM 名称", .text ""⟩,
   ⟨"wrapped", "按包装资产兑换率换算（需要 wrapper）", .switch false⟩,
   ⟨"targets", "同时打印每个来源在各策略下的目标价", .switch false⟩,
   ⟨"timeout", "总超时", .duration (30 * Duration.second)⟩]

/-- The table of every source's quote. -/
def quoteTable (results : List FetchResult) : List String :=
  Table.render 2 (String.join ("SOURCE\tMID\tBUY\tSELL\tERROR\n" :: results.map fun r =>
    match r.outcome with
    | .error e => r.provider ++ "\t-\t-\t-\t" ++ e.message ++ "\n"
    | .ok q => r.provider ++ "\t" ++ q.mid.toString ++ "\t" ++ q.buy.toString ++ "\t" ++
        q.sell.toString ++ "\t\n"))

/-- The table of each quote's targets under the fee and the offset strategies. -/
def targetTable (results : List FetchResult) (params : Params) : List String :=
  Table.render 2 (String.join ("\nSOURCE\tSTRATEGY\tBUY\tSELL\tERROR\n" :: results.flatMap fun r =>
    match r.outcome with
    | .error _ => []
    | .ok q => [Strategy.fee, Strategy.offset].map fun k =>
      match k.targets q params with
      | .error e => r.provider ++ "\t" ++ k.name ++ "\t-\t-\t" ++ e.message ++ "\n"
      | .ok t => r.provider ++ "\t" ++ k.name ++ "\t" ++ t.buy.toString ++ "\t" ++ t.sell.toString ++
          "\t\n"))

variable {m : Type → Type} [Monad m]

/-- The failure's text alone, as a fatal line. -/
abbrev Fatal := String

/-- The work on the built service: the lines of standard output, or the fatal line. -/
def compareSources (h : App.Host m) (armName : String) (wrapped targets : Bool) :
    App.AppM Unit m (Except Fatal (List String)) := do
  match ← App.arm armName with
  | .error e => pure (.error e.message)
  | .ok plan =>
    if plan.providers.isEmpty then return .error ("arm " ++ armName ++ " has no swap sources configured")
    let svc := App.services h
    let cfg := (← get).settings
    let contract := App.contract svc plan
    match ← ArmContract.liquidityAsset contract with
    | .error e => pure (.error ("liquidity asset: " ++ e.message))
    | .ok liquidity =>
      match ← ArmContract.baseAsset contract with
      | .error e => pure (.error ("base asset: " ++ e.message))
      | .ok base =>
        let providers := plan.providers.map (App.provider svc cfg)
        let providers? := if wrapped then (App.rates svc plan).map fun rate => providers.map (·.wrapped rate)
          else some providers
        match providers? with
        | none => pure (.error ("arm " ++ armName ++ " has no wrapper configured"))
        | some providers =>
          let results ← Fallback.fetchAll providers ⟨base, liquidity⟩ (some plan.options.amountWei)
          let log := (h.logger : Logger (App.AppM Unit m)).withFields [("tool", .str "reference_prices")]
          for r in results do
            if let .ok q := r.outcome then
              log.event "reference_quote" [("arm", .str armName), ("source", .str r.provider),
                ("mid", .str q.mid.toString), ("buy", .str q.buy.toString), ("sell", .str q.sell.toString)]
          let lines := quoteTable results ++
            (if targets then targetTable results ⟨plan.options.fee, plan.options.offset⟩ else [])
          let _ ← App.stop h (fun (_ : Unit) => (Component.idle : Component m))
          pure (.ok lines)

/-- The `reference_prices` command once its flags are read. -/
def referenceWith (s : Surroundings m) (f : Flags) : m Exit := do
  match ← s.loadSettings (f.text "config") with
  | .error e => s.fatal ("加载配置失败: " ++ e.message)
  | .ok cfg =>
    let armName := f.text "arm"
    if armName.isEmpty then return ← s.fatal "-arm is required"
    match s.openLogger ⟨"warn", ["stderr"], "", "", "console"⟩ with
    | .error e => s.fatal ("create logger: " ++ e)
    | .ok lg =>
      let h := s.host (some (f.duration "timeout")) lg cfg.chain.rpcUrl
      let program : App.AppM Unit m (Except Fatal (List String)) := do
        match ← App.build h [armName] with
        | .error e => pure (.error ("build: " ++ e.message))
        | .ok _ => compareSources h armName (f.switch "wrapped") (f.switch "targets")
      match ← program.run' (App.AppState.new cfg PricerMonitor.new) with
      | .error line => s.fatal line
      | .ok lines =>
        s.printAll .stdout lines
        pure (.code 0)

/-- The `reference_prices` command. -/
def referencePrices (s : Surroundings m) (args : List String) : m Exit := do
  match parse referenceFlags args with
  | .error e => s.refuseFlags "reference_prices" referenceFlags e
  | .ok f => referenceWith s f

end Command

end QuoteKeeper
