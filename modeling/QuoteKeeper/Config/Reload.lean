import QuoteKeeper.Config.Validate
import QuoteKeeper.Hash.Sha256
import QuoteKeeper.Log.Entry
/-
  QuoteKeeper.Config.Reload — taking a changed configuration file while running.

  Both ways of noticing a change compare the SHA-256 digest of the file's bytes with the one of
  the text last taken, so touching a file or changing its mode changes nothing, and a file
  replaced by another of the same bytes is no change either.

  1. Watching. The file's directory is watched, since editors and mounted configurations
     replace a file by renaming another over it. A write, a creation or a renaming under the
     file's name asks for a reload (several at once ask for one); a removal or a change of
     mode does not. A reload that cannot read the file waits for the next change
     (`config not readable yet`, debug). Otherwise a new text is loaded with the environment
     applied and validated (`config reload rejected`), passed through the registered checks
     in the order of their names (`config reload rejected` with the check's name), and
     handed to the handler (`failed to apply config`, an error). Only then is it taken: its
     digest kept, the time of the last reload set, `config reloaded` logged with the path and
     the number of ARMs. A failure at any point keeps the configuration in force, so the same
     text is tried again at the next change.
  2. Polling. At every tick the file is read (`config unreadable, keeping current`, debug).
     A text with a new digest is taken as seen at once, before it is loaded, so a bad text
     is reported once. A loaded and valid text is announced (`config changed`) and handed on.
  3. Checks for a running service: the chain settings may not change (`chain config changed
     (<old rpc> -> <new rpc>), restart required`), nor an ARM's wiring.
-/

namespace QuoteKeeper

namespace Config

/-- The digest a configuration text is known by. -/
def textDigest (text : String) : List UInt8 := sha256 text.toUTF8.toList

/-- What the watched directory reports about a file. -/
inductive FileEvent where
  | write
  | create
  | rename
  | remove
  | chmod
  deriving DecidableEq, Repr

/-- Whether an event under the file's name asks for a reload. -/
def FileEvent.asksReload : FileEvent → Bool
  | .write | .create | .rename => true
  | .remove | .chmod => false

/-- A named check a new configuration must pass. -/
structure ReloadCheck where
  name : String
  check : AppSettings → Outcome Unit

/-- The checks that keep what a running service was built from: the chain, and each named
ARM's wiring. -/
def ReloadCheck.sameChainAs (name : String) (current : ChainSettings) : ReloadCheck :=
  ⟨name, sameChain current⟩

def ReloadCheck.sameWiringAs (name arm : String) (current : ArmSettings) : ReloadCheck :=
  ⟨name, sameWiring arm current⟩

/-- A watcher of a configuration file. -/
structure Reloader where
  path : String
  /-- The digest of the text in force, if it was readable at the start. -/
  applied : Option (List UInt8)
  /-- Checks by name; a later registration of a name replaces the earlier one. -/
  checks : List ReloadCheck
  reloaded : Bool

namespace Reloader

def new (path : String) (initial : Option String) : Reloader :=
  ⟨path, initial.map textDigest, [], false⟩

def register (r : Reloader) (c : ReloadCheck) : Reloader :=
  { r with checks := r.checks.filter (·.name != c.name) ++ [c] }

/-- The checks in the order of their names. -/
def orderedChecks (r : Reloader) : List ReloadCheck :=
  r.checks.mergeSort fun a b => decide (a.name ≤ b.name)

/-- The first check a configuration fails, with its failure. -/
def firstFailure (checks : List ReloadCheck) (cfg : AppSettings) : Option (String × Failure) :=
  checks.findSome? fun c =>
    match c.check cfg with
    | .error e => some (c.name, e)
    | .ok _ => none

variable {m : Type → Type} [Monad m]

/-- One reload of the file as read now (its text, or why it cannot be read). -/
def reload (r : Reloader) (file : Except String String) (env : List (String × String))
    (handler : Option (AppSettings → m (Outcome Unit))) (log : Logger m) : m Reloader := do
  match file with
  | .error e =>
    log.debug "config not readable yet" [("error", .str e)]
    pure r
  | .ok text =>
    let sum := textDigest text
    if r.applied == some sum then return r
    match loadWithEnv text env with
    | (_, .error e) =>
      log.warn "config reload rejected" [("error", .str e.message)]
      pure r
    | (cfg, .ok _) =>
      match firstFailure r.orderedChecks cfg with
      | some (name, e) =>
        log.warn "config reload rejected" [("validator", .str name), ("error", .str e.message)]
        pure r
      | none =>
        let applied ← match handler with
          | none => pure (.ok ())
          | some h => h cfg
        match applied with
        | .error e =>
          log.error "failed to apply config" [("error", .str e.message)]
          pure r
        | .ok _ =>
          log.info "config reloaded"
            [("path", .str r.path), ("arms", Json.ofNat (cfg.arms.getD []).length)]
          pure { r with applied := some sum, reloaded := true }

/-- The events of one change: a reload when any of them asks for one. -/
def onEvents (r : Reloader) (events : List FileEvent) (file : Except String String)
    (env : List (String × String)) (handler : Option (AppSettings → m (Outcome Unit))) (log : Logger m) :
    m Reloader :=
  if events.any FileEvent.asksReload then r.reload file env handler log else pure r

end Reloader

/-- A poller of a configuration file: the digest of the text last seen. -/
structure Poller where
  path : String
  last : Option (List UInt8)

namespace Poller

def new (path : String) (initial : Option String) : Poller := ⟨path, initial.map textDigest⟩

variable {m : Type → Type} [Monad m]

/-- One tick: the poller after it, and the configuration to take, if there is a new valid one. -/
def tick (p : Poller) (file : Except String String) (env : List (String × String)) (log : Logger m) :
    m (Poller × Option AppSettings) := do
  match file with
  | .error e =>
    log.debug "config unreadable, keeping current" [("path", .str p.path), ("error", .str e)]
    pure (p, none)
  | .ok text =>
    let sum := textDigest text
    if p.last == some sum then return (p, none)
    let p := { p with last := some sum }
    match loadWithEnv text env with
    | (_, .error e) =>
      log.warn "config reload rejected" [("path", .str p.path), ("error", .str e.message)]
      pure (p, none)
    | (cfg, .ok _) =>
      log.info "config changed" [("path", .str p.path)]
      pure (p, some cfg)

end Poller

end Config

end QuoteKeeper
