import QuoteKeeper.Failure
import QuoteKeeper.Log.Entry
/-
  QuoteKeeper.App.Lifecycle — starting and stopping the parts of a running service in order.

  The parts are registered under names; how many of them, from the first, are started is
  kept beside them, so a part is started at most once however often the service starts.

  1. Starting starts the parts not yet started, in the order they were registered, each logged
     once it is up (`component started`, debug). The first that fails to start stops every
     part started before it, last first, and the start fails with `start <name>: <reason>`
     joined with what stopping reported; afterwards nothing counts as started.
  2. Stopping stops only the started parts, last first, and reports every part that failed
     (`stop <name>: <reason>`), joined in that order; afterwards nothing counts as started.
  3. Health asks every registered part, started or not, and joins the failures as
     `<name>: <reason>`.
-/

namespace QuoteKeeper

/-- A part of a running service. -/
structure Component (m : Type → Type) where
  start : m (Outcome Unit)
  stop : m (Outcome Unit)
  health : m (Outcome Unit)

/-- A part that does nothing and is always healthy. -/
def Component.idle [Monad m] : Component m := ⟨pure (.ok ()), pure (.ok ()), pure (.ok ())⟩

namespace Lifecycle

variable {m : Type → Type} [Monad m]

/-- Failures as one, or success when there are none. -/
def joined (errs : List Failure) : Outcome Unit :=
  if errs.isEmpty then .ok () else .error (Failure.join errs)

/-- The failures of stopping `parts` in the order given. -/
def stopEach : List (String × Component m) → m (List Failure)
  | [] => pure []
  | (name, c) :: rest => do
    let here ← c.stop
    let later ← stopEach rest
    pure (match here with
      | .error e => e.wrap ("stop " ++ name) :: later
      | .ok _ => later)

/-- Stops the first `started` parts, last first. -/
def stopStarted (parts : List (String × Component m)) (started : Nat) : m (Outcome Unit) := do
  pure (joined (← stopEach (parts.take started).reverse))

/-- Starts `pending`, the parts after the first `started` of `parts`: how many are started
afterwards, and the outcome. -/
def startFrom (log : Logger m) (parts : List (String × Component m)) :
    Nat → List (String × Component m) → m (Nat × Outcome Unit)
  | started, [] => pure (started, .ok ())
  | started, (name, c) :: pending => do
    match ← c.start with
    | .error e =>
      let stopped ← stopStarted parts started
      let errs := e.wrap ("start " ++ name) :: (match stopped with
        | .error f => [f]
        | .ok _ => [])
      pure (0, .error (Failure.join errs))
    | .ok _ =>
      log.debug "component started" [("component", .str name)]
      startFrom log parts (started + 1) pending

/-- Starts the parts not yet started: how many are started afterwards, and the outcome. -/
def startAll (log : Logger m) (parts : List (String × Component m)) (started : Nat) :
    m (Nat × Outcome Unit) :=
  startFrom log parts started (parts.drop started)

/-- The failures of the parts' health checks, each under its name. -/
def healthEach : List (String × Component m) → m (List Failure)
  | [] => pure []
  | (name, c) :: rest => do
    let here ← c.health
    let later ← healthEach rest
    pure (match here with
      | .error e => e.wrap name :: later
      | .ok _ => later)

def checkHealth (parts : List (String × Component m)) : m (Outcome Unit) := do
  pure (joined (← healthEach parts))

end Lifecycle

end QuoteKeeper
