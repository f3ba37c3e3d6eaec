import QuoteKeeper.Reference.Quote
/-
  QuoteKeeper.Reference.Fallback — the first provider that has a quote.

  All providers are asked, and their answers kept in provider order (`fetchAll`). The
  fallback's quote is then the first success. An error that is not `quoteUnavailable` stops
  the search and is the answer; an unavailable provider is logged as a warning and the next
  one is tried. When every provider is unavailable the answer is `all reference providers:
  quote unavailable`, and with no provider `no reference providers: quote unavailable`.
-/

namespace QuoteKeeper

/-- One provider's answer. -/
structure FetchResult where
  provider : String
  outcome : Outcome Quote

namespace Fallback

variable {m : Type → Type} [Monad m]

def name (ps : List (Provider m)) : String :=
  "fallback(" ++ ",".intercalate (ps.map (·.name)) ++ ")"

/-- Every provider's answer, in provider order. -/
def fetchAll (ps : List (Provider m)) (pair : Pair) (amount : Option Int) : m (List FetchResult) :=
  ps.mapM fun p => do pure ⟨p.name, ← p.getPrice pair amount⟩

/-- The first success among the answers; unavailable ones are logged and skipped. -/
def pick (log : Logger m) : List FetchResult → m (Outcome Quote)
  | [] => pure (.error (Failure.because "all reference providers" .quoteUnavailable))
  | r :: rs =>
    match r.outcome with
    | .ok q => pure (.ok q)
    | .error e =>
      if e.has .quoteUnavailable then do
        log.warn "reference source unavailable, trying next"
          [("provider", .str r.provider), ("error", .str e.message)]
        pick log rs
      else pure (.error e)

def getPrice (log : Logger m) (ps : List (Provider m)) (pair : Pair) (amount : Option Int) :
    m (Outcome Quote) :=
  if ps.isEmpty then pure (.error (Failure.because "no reference providers" .quoteUnavailable))
  else do pick log (← fetchAll ps pair amount)

/-- The fallback over `ps` as a provider. -/
def provider (log : Logger m) (ps : List (Provider m)) : Provider m :=
  ⟨name ps, getPrice log ps⟩

end Fallback

end QuoteKeeper
