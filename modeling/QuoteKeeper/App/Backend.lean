import QuoteKeeper.Chain.Node
import QuoteKeeper.Chain.Contracts
import QuoteKeeper.Web.Url
/-
  QuoteKeeper.App.Backend — the node a service reads from and sends transactions to.

  1. Dialling. A node address is parsed as a URL first (its problem is the answer). Its
     scheme, in lower case, picks how the node is reached: `http` and `https` over HTTP
     (nothing is sent until the first call), `ws` and `wss` over a websocket, which is opened
     at once, `stdio` over the process's own streams, and no scheme at all through a local
     socket at that path. Any other scheme has `no known transport for URL scheme "<scheme>"`.
  2. A websocket address is reached at its host and port, the port being 80 for `ws` and
     443 for `wss` when the address gives none.
  3. The backend offers contract calls, the node calls that sending a transaction needs, and
     the chain id.
-/

namespace QuoteKeeper

/-- How a node is reached. -/
inductive NodeTransport where
  | http (url : String)
  /-- A websocket to `host:port`. -/
  | websocket (hostPort : String)
  | stdio
  /-- A local socket at a path. -/
  | ipc (path : String)
  deriving DecidableEq, Repr

namespace NodeTransport

/-- The `host:port` a websocket address is opened at. -/
def websocketTarget (secure : Bool) (rest : List Char) : String :=
  let auth := ((if ['/', '/'].isPrefixOf rest then rest.drop 2 else rest).takeWhile
    fun c => c != '/' && c != '?' && c != '#')
  let auth := match Url.splitLast '@' auth with
    | some (_, host) => host
    | none => auth
  let bracketed := auth.head? == some '['
  let hasPort := if bracketed then (auth.dropWhile (· != ']')).contains ':' else auth.contains ':'
  if hasPort then String.ofList auth
  else String.ofList auth ++ (if secure then ":443" else ":80")

/-- How the node at `url` is reached, or why it cannot be. -/
def ofUrl (url : String) : Except String NodeTransport :=
  match Url.parse url with
  | .error e => .error e
  | .ok address =>
    let scheme := String.ofList (address.scheme.map fun b => Char.ofNat b.toNat)
    let rest := (url.toList.takeWhile (· != '#')).drop (scheme.length + 1)
    match scheme with
    | "http" | "https" => .ok (.http url)
    | "ws" => .ok (.websocket (websocketTarget false rest))
    | "wss" => .ok (.websocket (websocketTarget true rest))
    | "stdio" => .ok .stdio
    | "" => .ok (.ipc url)
    | other => .error ("no known transport for URL scheme " ++ Text.quoted other)

end NodeTransport

/-- What a service asks of a node. -/
structure Backend (m : Type → Type) where
  call : CallEndpoint m
  node : NodeClient m
  chainId : m (Outcome Nat)

namespace NodeClient

/-- The same client seen from another monad. -/
def hoist {m n : Type → Type} (f : {α : Type} → m α → n α) (c : NodeClient m) : NodeClient n :=
  ⟨f c.baseFee, f c.gasPrice, f c.tipCap, fun a => f (c.pendingCode a),
    fun a b d => f (c.estimateGas a b d), fun a => f (c.pendingNonce a),
    fun t => f (c.sendTransaction t), fun h => f (c.receipt h)⟩

end NodeClient

namespace Backend

/-- The same backend seen from another monad. -/
def hoist {m n : Type → Type} (f : {α : Type} → m α → n α) (b : Backend m) : Backend n :=
  ⟨fun a d => f (b.call a d), b.node.hoist f, f b.chainId⟩

end Backend

end QuoteKeeper
