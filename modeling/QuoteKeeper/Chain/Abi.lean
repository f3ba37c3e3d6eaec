import QuoteKeeper.Chain.Address
import QuoteKeeper.Failure
import QuoteKeeper.Number.Decimal
import QuoteKeeper.Text.Utf8
/-
  QuoteKeeper.Chain.Abi — contract calls as bytes: the calling convention for static words.

  A method is named by its signature `name(type,...)`; a call starts with the first four bytes
  of the signature's Keccak-256 digest, followed by one 32-byte word per argument. Numbers are
  written in two's complement modulo 2^256, whatever their declared width, and addresses in the
  low 20 bytes of their word.

  Reading a result checks the whole before the parts: a length that is not a multiple of 32 is
  `improperly formatted`, no bytes at all when outputs are expected is an empty string, and each
  output then needs its word (`length insufficient`). Extra words are ignored. Unsigned words
  are read whole, whatever the declared width; signed ones as two's complement; an address
  from the low 20 bytes of its word.
-/

namespace QuoteKeeper

inductive AbiType where
  | uint (bits : Nat)
  | int (bits : Nat)
  | address
  deriving DecidableEq, Repr

def AbiType.name : AbiType → String
  | .uint b => "uint" ++ natText b
  | .int b => "int" ++ natText b
  | .address => "address"

/-- A static value: a number or an address. -/
inductive AbiValue where
  | num (n : Int)
  | addr (a : Address)
  deriving DecidableEq, Repr, Inhabited

structure AbiMethod where
  name : String
  inputs : List AbiType
  outputs : List AbiType
  deriving Repr

namespace Abi

def wordSize : Nat := 32

/-- `n` modulo 2^256 as a big-endian word. -/
def word (n : Int) : List UInt8 := Hex.bytesOfNat 32 (n % Int.pow 2 256).toNat

def encode : AbiValue → List UInt8
  | .num n => word n
  | .addr a => List.replicate 12 0 ++ a.bytes

/-- A word read as a value of type `t`. -/
def decode (t : AbiType) (w : List UInt8) : AbiValue :=
  let n := Hex.natOfBytes w
  match t with
  | .uint _ => .num n
  | .int _ => .num (if n ≥ Nat.pow 2 255 then (n : Int) - Int.pow 2 256 else n)
  | .address => .addr (Address.ofBytes (w.drop 12))

end Abi

namespace AbiMethod

def signature (m : AbiMethod) : String :=
  m.name ++ "(" ++ ",".intercalate (m.inputs.map AbiType.name) ++ ")"

def selector (m : AbiMethod) : List UInt8 :=
  (keccak256 m.signature.toUTF8.toList).take 4

/-- The call data. -/
def pack (m : AbiMethod) (args : List AbiValue) : List UInt8 :=
  m.selector ++ args.flatMap Abi.encode

/-- The outputs read from returned bytes, or the reason they cannot be. -/
def unpack (m : AbiMethod) (data : List UInt8) : Except String (List AbiValue) :=
  if data.length % Abi.wordSize ≠ 0 then
    .error ("abi: improperly formatted output: " ++ Utf8.quotedBytes data ++ " - Bytes: [" ++
      " ".intercalate (data.map fun b => natText b.toNat) ++ "]")
  else if data.isEmpty then
    if m.outputs.isEmpty then .ok []
    else .error "abi: attempting to unmarshal an empty string while arguments are expected"
  else
    (m.outputs.zip (List.range m.outputs.length)).mapM fun (t, i) =>
      if (i + 1) * Abi.wordSize > data.length then
        .error ("abi: cannot marshal in to go type: length insufficient " ++ natText data.length ++
          " require " ++ natText ((i + 1) * Abi.wordSize))
      else .ok (Abi.decode t ((data.drop (i * Abi.wordSize)).take Abi.wordSize))

end AbiMethod

/-! ## The methods the pricer calls -/

namespace Abi

def view (name : String) (inputs outputs : List AbiType) : AbiMethod := ⟨name, inputs, outputs⟩

def traderate0 := view "traderate0" [] [.uint 256]
def traderate1 := view "traderate1" [] [.uint 256]
def crossPrice := view "crossPrice" [] [.uint 256]
def liquidityAsset := view "liquidityAsset" [] [.address]
def baseAsset := view "baseAsset" [] [.address]
def activeMarket := view "activeMarket" [] [.address]
def vault := view "vault" [] [.address]
def withdrawsQueued := view "withdrawsQueued" [] [.uint 256]
def withdrawsClaimed := view "withdrawsClaimed" [] [.uint 256]
def setPrices := view "setPrices" [.uint 256, .uint 256] []
def balanceOf := view "balanceOf" [.address] [.uint 256]
def decimals := view "decimals" [] [.uint 8]
def convertToAssets := view "convertToAssets" [.uint 256] [.uint 256]
def getDy := view "get_dy" [.int 128, .int 128, .uint 256] [.uint 256]
def market := view "market" [] [.address]
def withdrawalQueueMetadata :=
  view "withdrawalQueueMetadata" [] [.uint 128, .uint 128, .uint 128, .uint 128]

def methods : List AbiMethod :=
  [traderate0, traderate1, crossPrice, liquidityAsset, baseAsset, activeMarket, vault,
    withdrawsQueued, withdrawsClaimed, setPrices, balanceOf, decimals, convertToAssets, getDy,
    market, withdrawalQueueMetadata]

/-- The known method a call starts with. -/
def methodOf? (data : List UInt8) : Option AbiMethod :=
  methods.find? fun m => m.selector == data.take 4

end Abi

end QuoteKeeper
