import QuoteKeeper.Cli.Process
import QuoteKeeper.Number.Fixed
/-
  QuoteKeeper.Command.WithdrawEstimate — the `withdraw_estimate` command: the holding period
  the withdrawal queue gives one ARM, the same estimate its lending bounds use.

  1. Flags: `-config`, `-arm` and `-timeout` (thirty seconds); every call is made within the
     timeout.
  2. Settings are loaded (`加载配置失败: ...`), an ARM must be named (`-arm is required`) and
     configured. The estimate is always made, so the ARM's withdrawal estimate is switched on
     and the settings checked again (`配置无效: ...`). The log writes JSON entries at `info`
     and worse to standard error, and the service is built with that ARM (`build: ...`).
  3. The estimate (`estimate: ...`) is printed as `needed <n>, covered <c>, shortfall <s> by
     <u> requests`, then `holding period: <days> days (<period>)`, the days with two places
     and the period rounded to the minute.
  4. Problems are fatal: nothing after them runs, the service is not stopped. After the
     estimate the service is stopped.
-/

namespace QuoteKeeper

/-- The settings with one ARM's withdrawal estimate switched on. -/
def Config.AppSettings.withEstimate (c : Config.AppSettings) (name : String) (a : Config.ArmSettings) :
    Config.AppSettings :=
  let a := { a with withdrawal := { a.withdrawal with enabled := true } }
  { c with arms := some ((c.arms.getD []).map fun (n, x) => (n, if n == name then a else x)) }

namespace Command

open Cli

def withdrawFlags : List FlagSpec :=
  [⟨"config", "配置文件路径", .text "configs/config.yaml"⟩,
   ⟨"arm", "ARM 名称", .text ""⟩,
   ⟨"timeout", "总超时", .duration (30 * Duration.second)⟩]

/-- The two lines an estimate is printed as. -/
def estimateLines (e : Withdrawal.Estimate) : List String :=
  ["needed " ++ intText e.needed ++ ", covered " ++ intText e.covered ++ ", shortfall " ++
      intText e.shortfall ++ " by " ++ natText e.used ++ " requests",
   "holding period: " ++ Float.fixedText 2 e.days ++ " days (" ++
      Duration.text (Duration.roundTo e.period Duration.minute) ++ ")"]

variable {m : Type → Type} [Monad m]

/-- The estimate on the built service: its lines, or the fatal line. -/
def estimateOn (h : App.Host m) (armName : String) : App.AppM Unit m (Except String (List String)) := do
  match ← App.arm armName with
  | .error e => pure (.error e.message)
  | .ok plan =>
    match plan.withdrawal with
    | none => pure (.error ("arm " ++ armName ++ " has no withdrawal estimate"))
    | some w =>
      let svc := App.services h
      let src := App.withdrawalSource svc (← get).settings (App.contract svc plan) (App.armLogger svc plan) w
      match ← src.estimate with
      | .error e => pure (.error ("estimate: " ++ e.message))
      | .ok est =>
        let _ ← App.stop h (fun (_ : Unit) => (Component.idle : Component m))
        pure (.ok (estimateLines est))

/-- The `withdraw_estimate` command once its flags are read. -/
def withdrawWith (s : Surroundings m) (f : Flags) : m Exit := do
  match ← s.loadSettings (f.text "config") with
  | .error e => s.fatal ("加载配置失败: " ++ e.message)
  | .ok cfg =>
    let armName := f.text "arm"
    if armName.isEmpty then return ← s.fatal "-arm is required"
    match cfg.arm armName with
    | .error e => s.fatal e.message
    | .ok a =>
      let cfg := cfg.withEstimate armName a
      match cfg.validate with
      | .error e => s.fatal ("配置无效: " ++ e.message)
      | .ok _ =>
        match s.openLogger ⟨"info", ["stderr"], "", "", "json"⟩ with
        | .error e => s.fatal ("create logger: " ++ e)
        | .ok lg =>
          let h := s.host (some (f.duration "timeout")) lg cfg.chain.rpcUrl
          let program : App.AppM Unit m (Except String (List String)) := do
            match ← App.build h [armName] with
            | .error e => pure (.error ("build: " ++ e.message))
            | .ok _ => estimateOn h armName
          match ← program.run' (App.AppState.new cfg PricerMonitor.new) with
          | .error line => s.fatal line
          | .ok lines =>
            s.printAll .stdout lines
            pure (.code 0)

/-- The `withdraw_estimate` command. -/
def withdrawEstimate (s : Surroundings m) (args : List String) : m Exit := do
  match parse withdrawFlags args with
  | .error e => s.refuseFlags "withdraw_estimate" withdrawFlags e
  | .ok f => withdrawWith s f

end Command

end QuoteKeeper
