import QuoteKeeper.Log.Entry
import QuoteKeeper.Time
/-
  QuoteKeeper.Service — talking to the service manager: readiness and watchdog notices.

  1. The watchdog. A service is asked to ping when `WATCHDOG_USEC` holds a positive decimal
     count of microseconds (a sign allowed, within 64 bits) and `WATCHDOG_PID`, if set, is
     this process's own id. The period is that many microseconds as a 64-bit duration; a
     period that comes to zero asks for nothing.
  2. Notices. A notice is a datagram to the socket named by `NOTIFY_SOCKET`; without one it
     is not sent and nothing fails. A socket that cannot be reached is a failure,
     `dial unixgram <socket>: connect: <reason>`, which is only logged at debug level,
     `sd_notify failed` with the notice and the error: the service works without a manager.
  3. A service with a watchdog logs `systemd watchdog enabled` with its period once, and
     pings (`WATCHDOG=1`) after every run.
-/

namespace QuoteKeeper

/-- What the service sees of its manager: its environment, its own process id, and how a
datagram to a socket fares (the reason it cannot be delivered, if any). -/
structure ServiceManager where
  env : String → String
  pid : Nat
  deliver : String → String → Option String

namespace ServiceManager

def ready : String := "READY=1"
def stopping : String := "STOPPING=1"
def watchdog : String := "WATCHDOG=1"

/-- A decimal integer with an optional sign, within 64 bits. -/
def integer? (s : String) : Option Int :=
  match intOfText? s.toList with
  | some i => if Duration.minValue ≤ i ∧ i ≤ Duration.maxValue then some i else none
  | none => none

/-- The watchdog period in nanoseconds; `none` when no watchdog is asked for, or the asking is
malformed. -/
def watchdogPeriod (sm : ServiceManager) : Option Int :=
  let usec := sm.env "WATCHDOG_USEC"
  if usec.isEmpty then none
  else
    match integer? usec with
    | none => none
    | some s =>
      if s ≤ 0 then none
      else
        let period := Duration.wrap (s * Duration.microsecond)
        let wpid := sm.env "WATCHDOG_PID"
        let mine := wpid.isEmpty || integer? wpid == some (sm.pid : Int)
        if mine ∧ period ≠ 0 then some period else none

/-- Sends a notice: the error, if it could not be delivered. -/
def notify (sm : ServiceManager) (state : String) : Option String :=
  let socket := sm.env "NOTIFY_SOCKET"
  if socket.isEmpty then none
  else (sm.deliver socket state).map fun why => "dial unixgram " ++ socket ++ ": connect: " ++ why

variable {m : Type → Type} [Monad m]

/-- Sends a notice, logging a failure at debug level. -/
def notifyLogged (sm : ServiceManager) (log : Logger m) (state : String) : m Unit :=
  match sm.notify state with
  | none => pure ()
  | some e => log.debug "sd_notify failed" [("state", .str state), ("error", .str e)]

/-- The ping to run after each run, when a watchdog is asked for; its period is logged. -/
def watchdogPing (sm : ServiceManager) (log : Logger m) : m (Option (m Unit)) := do
  match sm.watchdogPeriod with
  | none => pure none
  | some period =>
    log.info "systemd watchdog enabled" [("period", log.duration period)]
    pure (some (sm.notifyLogged log watchdog))

end ServiceManager

end QuoteKeeper
