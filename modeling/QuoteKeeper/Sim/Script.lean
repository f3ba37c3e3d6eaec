import QuoteKeeper.Sim.Fields
import QuoteKeeper.Chain.Transaction
/-
  QuoteKeeper.Sim.Script — collaborators that answer from a script.

  A scripted run keeps the answers still to give, in order, and a log of tagged records of the
  calls made; a collaborator takes its next answer and records what it was asked. The clock of
  a stepped run moves to a step's `at`, if it has one, and then by its `advance`.
-/

namespace QuoteKeeper

namespace Sim

/-- Answers from a script, in call order, with the calls recorded. -/
abbrev Scripted := StateM (List Json × Array (String × Json))

def nextAnswer : Scripted (Option Json) := do
  let (s, c) ← get
  match s with
  | [] => pure none
  | a :: rest => set (rest, c); pure (some a)

def record (tag : String) (call : Json) : Scripted Unit := modify fun (s, c) => (s, c.push (tag, call))

/-- The calls recorded under `tag`, in order. -/
def recorded (calls : Array (String × Json)) (tag : String) : List Json :=
  (calls.toList.filter (·.1 == tag)).map (·.2)

/-- The clock after a step's `at` and `advance`. -/
def advanceClock (s : Json) (now : Int) : Decoded Int := do
  let base ← if (s.getD "at").isNull then pure now else readInt s "at" 0
  pure (base + (← readInt s "advance" 0))

/-- The transaction every stub submitter answers. -/
def stubTransaction : Transaction := ⟨0, 7, .legacy 1, 21000, none, 0, [], 0, 0, 0⟩

end Sim

end QuoteKeeper
