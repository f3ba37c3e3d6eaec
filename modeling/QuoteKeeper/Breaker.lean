import QuoteKeeper.Failure
import QuoteKeeper.Time
/-
  QuoteKeeper.Breaker — a circuit breaker: stop calling what keeps failing, try again later.

  Closed, every call goes through. Each failure counts, each success clears the count; at
  `threshold` consecutive failures the breaker opens and notes the time. Open, a call is
  refused with the time left (`circuit breaker is open, retry in 1m0s`, rounded to the second)
  until `cooldown` has passed since it opened; the first call after that half-opens it and goes
  through. Half open, a failure opens it again at once, and `halfOpenMaxTry` successes in a row
  close it. Closing forgets the last failure; a reset clears the count and closes.

  Every change of state is reported as `(from, to, failures)`. The time left is the cooldown
  minus the time since opening; that distance stops at the ends of the duration range and the
  subtraction wraps as a signed 64-bit number, so a clock far behind the opening time can leave
  it negative, which opens nothing.
-/

namespace QuoteKeeper

inductive BreakerState where
  | closed
  | opened
  | halfOpen
  deriving DecidableEq, Repr, Inhabited

def BreakerState.name : BreakerState → String
  | .closed => "CLOSED"
  | .opened => "OPEN"
  | .halfOpen => "HALF_OPEN"

/-- A change of state and the consecutive failures at that moment. -/
structure BreakerChange where
  before : BreakerState
  after : BreakerState
  failures : Nat
  deriving DecidableEq, Repr

structure BreakerConfig where
  threshold : Int
  /-- Nanoseconds. -/
  cooldown : Int
  halfOpenMaxTry : Int
  deriving Repr, Inhabited

structure Breaker where
  threshold : Nat
  cooldown : Int
  halfOpenMaxTry : Nat
  state : BreakerState
  failures : Nat
  halfOpenSuccesses : Nat
  /-- When it last opened; `none` before the first time. -/
  openedAt : Option Int
  lastError : Option Failure

namespace Breaker

/-- A closed breaker; unusable settings become 5 failures, 5 minutes and 1 success. -/
def new (c : BreakerConfig) : Breaker :=
  { threshold := if c.threshold ≤ 0 then 5 else c.threshold.toNat
    cooldown := if c.cooldown ≤ 0 then 5 * Duration.minute else c.cooldown
    halfOpenMaxTry := if c.halfOpenMaxTry ≤ 0 then 1 else c.halfOpenMaxTry.toNat
    state := .closed, failures := 0, halfOpenSuccesses := 0, openedAt := none, lastError := none }

/-- Moves to `s` at time `now`, reporting the change. -/
def moveTo (b : Breaker) (s : BreakerState) (now : Int) : Breaker × BreakerChange :=
  let b' := { b with state := s, halfOpenSuccesses := 0 }
  let b' := if s = .opened then { b' with openedAt := some now } else b'
  let b' := if s = .closed then { b' with lastError := none } else b'
  (b', ⟨b.state, s, b.failures⟩)

/-- The refusal while open. -/
def refusal (remaining : Int) : Failure :=
  .error (Condition.breakerOpen.text ++ ", retry in " ++ Duration.text (Duration.roundTo remaining Duration.second))
    [.breakerOpen]

/-- Asks to call at `now`: refused while open and cooling down, half-opening when the cooldown
is over. -/
def permit (b : Breaker) (now : Int) : Except Failure (Breaker × List BreakerChange) :=
  if b.state ≠ .opened then .ok (b, [])
  else
    let remaining := Duration.wrap (b.cooldown - Instant.since now (b.openedAt.getD 0))
    if remaining > 0 then .error (refusal remaining)
    else
      let (b', c) := b.moveTo .halfOpen now
      .ok (b', [c])

/-- Records the result of a call made at `now`. -/
def record (b : Breaker) (now : Int) (result : Option Failure) : Breaker × List BreakerChange :=
  let (b1, target) := match result with
    | some e =>
      let b1 := { b with failures := b.failures + 1, lastError := some e }
      (b1, if b.state = .halfOpen ∨ b1.threshold ≤ b1.failures then BreakerState.opened else b.state)
    | none =>
      let b1 := { b with failures := 0 }
      if b.state = .halfOpen then
        let b1 := { b1 with halfOpenSuccesses := b.halfOpenSuccesses + 1 }
        (b1, if b1.halfOpenMaxTry ≤ b1.halfOpenSuccesses then BreakerState.closed else b.state)
      else (b1, b.state)
  if target = b.state then (b1, [])
  else
    let (b2, c) := b1.moveTo target now
    (b2, [c])

/-- Runs `call` through the breaker at `now`: its result, or the refusal; whether it was called. -/
def call {m : Type → Type} [Monad m] {α : Type} (b : Breaker) (now : Int) (call : m (Outcome α)) :
    m (Outcome α × Bool × Breaker × List BreakerChange) :=
  match b.permit now with
  | .error e => pure (.error e, false, b, [])
  | .ok (b1, cs1) => do
    let r ← call
    let err := match r with
      | .ok _ => none
      | .error e => some e
    let (b2, cs2) := b1.record now err
    pure (r, true, b2, cs1 ++ cs2)

/-- Clears the count and closes, reporting a change only when it was not closed. -/
def reset (b : Breaker) (now : Int) : Breaker × List BreakerChange :=
  let (b', _) := { b with failures := 0 }.moveTo .closed now
  (b', if b.state = .closed then [] else [⟨b.state, .closed, 0⟩])

end Breaker

end QuoteKeeper
