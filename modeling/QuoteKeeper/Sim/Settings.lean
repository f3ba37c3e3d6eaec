import QuoteKeeper.Sim.Script
import QuoteKeeper.Config.Report
import QuoteKeeper.Log.Setup
/-
  QuoteKeeper.Sim.Settings — configuration checks from YAML text.
-/

namespace QuoteKeeper

namespace Sim

/-- Settings read from YAML text; a read problem is the answer. -/
def readSettings (j : Json) (k : String) : Decoded Config.AppSettings := do
  match Config.parse (← readStr j k) with
  | (_, some e) => failWith (.plain e)
  | (cfg, none) => pure cfg

/-- Whether a new configuration keeps the chain and an ARM's wiring. -/
def hotReloadCheck (j : Json) : Decoded Json := do
  let cur ← readSettings j "current"
  let next ← readSettings j "next"
  let name ← readStr j "arm"
  let arm := ((cur.arms.getD []).lookup name).getD Config.ArmSettings.zero
  pure (.obj [("same_chain", (Config.sameChain cur.chain next).errorJson),
    ("same_wiring", (Config.sameWiring name arm next).errorJson)])

end Sim

end QuoteKeeper
