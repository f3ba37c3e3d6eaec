import QuoteKeeper.Yaml.Parser
import QuoteKeeper.Text.Quoted
import QuoteKeeper.Text.Base64
import QuoteKeeper.Text.Utf8
/-
  QuoteKeeper.Yaml.Decode — nodes into typed values, the way the configuration is read.

  (1) A decoder answers a value, or nothing when the node leaves the target as it was: a
  null scalar does that for strings, numbers, booleans and records, and sets lists and
  maps to "absent". A node of the wrong kind also leaves it, after recording a type error
  `line N: cannot unmarshal !!tag `value` into T` (values longer than ten bytes are cut to
  seven and `...`). Type errors are collected and reported together; a value that cannot
  have its explicit tag, or an alias inside its own anchor, stops decoding.
  (2) Strings take any scalar's text; a `!!binary` scalar stands for the bytes its base64
  text encodes (`!!binary value contains invalid base64 data` otherwise, which stops
  decoding). Integers take integers within 64 bits and floats up to 2^63, truncated. Floats
  take integers and floats. Booleans take `true`/`false` and also `yes`, `on`, `no`, `off`
  in their usual spellings. List elements that do not decode are dropped.
  (3) Records and maps read mappings whose keys must all be written differently; a record
  takes the keys it knows and ignores others, and a key that names a field already set in
  the same mapping is a type error (`field <key> already set in type <T>`). A `<<` key
  merges the mappings it names after the record's own keys, never overriding a key already
  given.
  (4) Every node decoded is counted, and so is every node decoded through an alias. Once more
  than a thousand nodes were decoded, more than a hundred of them through aliases, and the
  aliased share is above 99% (falling to 10% between 400,000 and 4,000,000 decoded nodes), the
  document is refused: `document contains excessive aliasing`. The counts follow the order of
  decoding: the document and its root, then each mapping's keys and the values of the keys
  that are read, each list element, each merged mapping, and each alias's target.
-/

namespace QuoteKeeper

namespace Yaml

/-- What decoding has met so far: the type errors, the nodes decoded, those among them
decoded through an alias, and how many aliases are being followed. -/
structure Tally where
  errors : Array String := #[]
  decoded : Nat := 0
  aliased : Nat := 0
  depth : Nat := 0

/-- Decoding: the tally so far in the state; a fatal problem as the error. -/
abbrev Decode := StateT Tally (Except String)

abbrev Decoder (α : Type) := Node → Decode (Option α)

namespace Node

/-- Whether the node is a string by its style or tag. -/
def indicatedString : Node → Bool
  | .scalar _ t _ _ _ => shortTag t == strTag
  | _ => false

/-- The tag that decides how the node is read, an alias standing for its target. -/
def effectiveTag : Node → String
  | .scalar v t _ _ _ =>
    if shortTag t == strTag then strTag
    else if t == "" || t == "!" then (resolvePlain "" v).1 else shortTag t
  | .sequence _ t _ _ => if t == "" || t == "!" then seqTag else shortTag t
  | .mapping _ t _ _ => if t == "" || t == "!" then mapTag else shortTag t
  | .alias _ target _ _ =>
    match target with
    | some (.scalar v t _ _ _) =>
      if shortTag t == strTag then strTag
      else if t == "" || t == "!" then (resolvePlain "" v).1 else shortTag t
    | some (.sequence _ t _ _) => if t == "" || t == "!" then seqTag else shortTag t
    | some (.mapping _ t _ _) => if t == "" || t == "!" then mapTag else shortTag t
    | _ => ""

/-- Whether a key is the merge key `<<`. -/
def isMerge : Node → Bool
  | .scalar v t _ _ _ => v == "<<" && (t == "" || t == "!" || shortTag t == mergeTag)
  | _ => false

end Node

namespace Decode

/-- Records a type error. -/
def note (msg : String) : Decode Unit := modify fun t => { t with errors := t.errors.push msg }

/-- The share of decoded nodes that may come through aliases, by how many were decoded. -/
def allowedAliasRatio (decoded : Nat) : Float :=
  if decoded ≤ 400000 then 0.99
  else if decoded ≥ 4000000 then 0.10
  else 0.99 - 0.89 * (Float.ofNat (decoded - 400000) / 3600000.0)

/-- Counts a node about to be decoded; a large document decoded mostly through aliases is
refused. -/
def visit : Decode Unit := do
  let t ← get
  let decoded := t.decoded + 1
  let aliased := if t.depth > 0 then t.aliased + 1 else t.aliased
  set { t with decoded, aliased }
  if aliased > 100 && decoded > 1000 &&
      Float.ofNat aliased / Float.ofNat decoded > allowedAliasRatio decoded then
    throw "document contains excessive aliasing"

/-- Decodes the node an alias names, counted as reached through the alias. -/
def expand (k : Node → Decode α) (target : Node) : Decode α := do
  modify fun t => { t with depth := t.depth + 1 }
  visit
  let r ← k target
  modify fun t => { t with depth := t.depth - 1 }
  pure r

/-- The first seven bytes of a value longer than ten, then `...`; a character cut in two
leaves one replacement character per byte. -/
def clip (v : String) : String :=
  let bs := v.toUTF8.toList
  if bs.length ≤ 10 then v
  else
    let head := bs.take 7
    let rec go : Nat → List UInt8 → String → String
      | 0, _, acc => acc
      | _, [], acc => acc
      | n + 1, b :: rest, acc =>
        let width := if b < 0x80 then 1 else if b < 0xE0 then 2 else if b < 0xF0 then 3 else 4
        if rest.length + 1 ≥ width then
          match String.fromUTF8? (ByteArray.mk (b :: rest.take (width - 1)).toArray) with
          | some c => go n (rest.drop (width - 1)) (acc ++ c)
          | none => go n rest (acc.push (Char.ofNat 0xFFFD))
        else go n rest (acc.push (Char.ofNat 0xFFFD))
    go 8 head "" ++ "..."

def typeError (n : Node) (tag typeName : String) : Decode Unit := do
  let tag := if n.tag != "" then n.tag else tag
  let value := if tag == seqTag || tag == mapTag then "" else " `" ++ clip n.value ++ "`"
  note ("line " ++ toString n.line ++ ": cannot unmarshal " ++ shortTag tag ++ value ++
    " into " ++ typeName)

/-- What a scalar means, under its tag; binary data as the text of its bytes. -/
def meaning (n : Node) : Decode Scalar :=
  match n with
  | .scalar v t _ _ _ =>
    if n.indicatedString then pure (.str v)
    else match resolve t v with
      | .ok (rtag, s) =>
        if rtag == binaryTag then
          match Base64.decode v.toUTF8.toList with
          | some bytes => pure (.str (Utf8.lossy bytes))
          | none => throw "!!binary value contains invalid base64 data"
        else pure s
      | .error e => throw e
  | _ => pure (.str "")

/-- The decoder applied to an alias's target. -/
def through (k : Node → Decode (Option α)) (n : Node) : Decode (Option α) :=
  match n with
  | .alias name target _ _ =>
    match target with
    | none => throw ("anchor \x27" ++ name ++ "\x27 value contains itself")
    | some t => expand k t
  | _ => k n

/-- A scalar decoder: null leaves the target, other kinds are type errors. -/
def scalarWith (typeName : String) (f : Node → Scalar → Decode (Option α)) : Decoder α :=
  through fun n => match n with
    | .scalar .. => do
      match ← meaning n with
      | .null => pure none
      | s => f n s
    | .mapping .. => do typeError n mapTag typeName; pure none
    | .sequence .. => do typeError n seqTag typeName; pure none
    | .alias .. => pure none

def string : Decoder String :=
  scalarWith "string" fun n s => match s with
    | .str text => pure (some text)
    | _ => pure (some n.value)

def int64 (typeName : String) : Decoder Int :=
  scalarWith typeName fun n s => match s with
    | .int i => if i < Int.pow 2 63 then pure (some i) else do typeError n "" typeName; pure none
    | .float f =>
      if f ≤ 9223372036854775807.0 then pure (some (Binary.toInt64 f))
      else do typeError n "" typeName; pure none
    | _ => do typeError n "" typeName; pure none

def float64 : Decoder Float :=
  scalarWith "float64" fun n s => match s with
    | .int i => pure (some (intToFloat i))
    | .float f => pure (some f)
    | _ => do typeError n "" "float64"; pure none

def yesWords : List String := ["y", "Y", "yes", "Yes", "YES", "on", "On", "ON"]
def noWords : List String := ["n", "N", "no", "No", "NO", "off", "Off", "OFF"]

def bool : Decoder Bool :=
  scalarWith "bool" fun n s => match s with
    | .bool b => pure (some b)
    | .str t =>
      if yesWords.contains t then pure (some true)
      else if noWords.contains t then pure (some false)
      else do typeError n "" "bool"; pure none
    | _ => do typeError n "" "bool"; pure none

/-- A list of strings; null makes it absent. -/
def strings : Decoder (Option (List String)) :=
  through fun n => match n with
    | .sequence items _ _ _ => do
      let xs ← items.filterMapM fun i => do visit; string i
      pure (some (some xs))
    | .scalar .. => do
      match ← meaning n with
      | .null => pure (some none)
      | _ => typeError n "" "[]string"; pure none
    | .mapping .. => do typeError n mapTag "[]string"; pure none
    | .alias .. => pure none

/-- Records any key written twice; whether there was one. -/
def duplicates (pairs : List (Node × Node)) : Decode Bool := do
  let keys := pairs.map (·.1)
  let mut found := false
  for (ki, i) in keys.zipIdx do
    for kj in keys.drop (i + 1) do
      if ki.kindCode == kj.kindCode && ki.value == kj.value then
        found := true
        note ("line " ++ toString kj.line ++ ": mapping key " ++ Text.quoted kj.value ++
          " already defined at line " ++ toString ki.line)
  return found

/-- The keys of a mapping that read as strings, as a merge sees them; every key is decoded. -/
def stringKeys (pairs : List (Node × Node)) : Decode (List String) :=
  pairs.filterMapM fun (k, _) => do
    visit
    through (fun k => match k with
      | .scalar .. => do
        match ← meaning k with
        | .str text => pure (some text)
        | _ => pure none
      | _ => pure none) k

def mergeFailure : String := "map merge requires map or sequence of maps as the value"

/-- The mappings a merge value names. -/
def mergeSources (m : Node) : Decode (List Node) :=
  match m with
  | .mapping .. => pure [m]
  | .alias _ (some (.mapping ..)) _ _ => pure [m]
  | .alias _ (some _) _ _ => throw mergeFailure
  | .alias _ none _ _ => pure [m]
  | .sequence items _ _ _ =>
    items.mapM fun i => match i with
      | .mapping .. => pure i
      | .alias _ (some (.mapping ..)) _ _ => pure i
      | .alias _ none _ _ => pure i
      | _ => throw mergeFailure
  | _ => throw mergeFailure

end Decode

/-- A field of a record: its key and how a value node updates the record. -/
structure Field (σ : Type) where
  key : String
  set : Node → σ → Decode σ

def Field.of (key : String) (d : Decoder α) (upd : σ → α → σ) : Field σ :=
  ⟨key, fun n st => do
    match ← d n with
    | some a => pure (upd st a)
    | none => pure st⟩

namespace Decode

/-- A mapping read into a record that already holds `st`. `merged` is the set of keys a
merge in progress has given, which this mapping must not override. -/
def recordInto (typeName : String) (fields : List (Field σ)) :
    Nat → σ → Option (List String) → Node → Decode (Option σ × Option (List String))
  | 0, _, merged, _ => do let _ := merged; throw "merge nested too deeply"
  | k + 1, st, merged, n =>
    match n with
    | .alias name target _ _ =>
      match target with
      | none => throw ("anchor \x27" ++ name ++ "\x27 value contains itself")
      | some t => expand (recordInto typeName fields k st merged) t
    | .mapping pairs _ _ _ => do
      if ← duplicates pairs then return (none, merged)
      let mut st := st
      let mut merged := merged
      let mut mergeNode : Option Node := none
      let mut done : List String := []
      for (kn, vn) in pairs do
        if kn.isMerge then
          mergeNode := some vn
          continue
        visit
        match ← string kn with
        | none => pure ()
        | some name =>
          let skip := match merged with
            | some ks => ks.contains name
            | none => false
          if !skip then
            merged := merged.map (name :: ·)
            match fields.find? (·.key == name) with
            | some f =>
              if done.contains name then
                note ("line " ++ toString kn.line ++ ": field " ++ name ++ " already set in type " ++
                  typeName)
              else
                done := name :: done
                visit
                st ← f.set vn st
            | none => pure ()
      match mergeNode with
      | none => return (some st, merged)
      | some m =>
        let base ← match merged with
          | some ks => pure ks
          | none => stringKeys pairs
        let sources ← mergeSources m
        let mut set := base
        for src in sources do
          visit
          let (r, s) ← recordInto typeName fields k st (some set) src
          if let some v := r then st := v
          set := s.getD set
        return (some st, if merged.isSome then some set else none)
    | .scalar .. => do
      match ← meaning n with
      | .null => pure (none, merged)
      | _ => do typeError n "" typeName; pure (none, merged)
    | .sequence .. => do typeError n seqTag typeName; pure (none, merged)

/-- A record read from a mapping, starting from `zero`. -/
def record (typeName : String) (fields : List (Field σ)) (zero : σ) : Decoder σ := fun n => do
  let (r, _) ← recordInto typeName fields 32 zero none n
  pure r

/-- Sets a key in an association list, keeping the first position. -/
def setKey (acc : List (String × α)) (key : String) (v : α) : List (String × α) :=
  if acc.any (·.1 == key) then acc.map fun (k, x) => if k == key then (k, v) else (k, x)
  else acc ++ [(key, v)]

/-- A mapping read into a map that already holds `acc` (absent when `none`). -/
def mapInto (typeName : String) (elem : Decoder α) (zero : α) :
    Nat → Option (List (String × α)) → Option (List String) → Node →
      Decode (Option (Option (List (String × α))) × Option (List String))
  | 0, _, merged, _ => do let _ := merged; throw "merge nested too deeply"
  | k + 1, acc, merged, n =>
    match n with
    | .alias name target _ _ =>
      match target with
      | none => throw ("anchor \x27" ++ name ++ "\x27 value contains itself")
      | some t => expand (mapInto typeName elem zero k acc merged) t
    | .mapping pairs _ _ _ => do
      if ← duplicates pairs then return (none, merged)
      let isNew := acc.isNone
      let mut m := acc.getD []
      let mut merged := merged
      let mut mergeNode : Option Node := none
      for (kn, vn) in pairs do
        if kn.isMerge then
          mergeNode := some vn
          continue
        visit
        match ← string kn with
        | none => pure ()
        | some key =>
          let skip := match merged with
            | some ks => ks.contains key
            | none => false
          if !skip then
            merged := merged.map (key :: ·)
            visit
            match ← elem vn with
            | some e => m := setKey m key e
            | none =>
              if vn.effectiveTag == nullTag && (isNew || !m.any (·.1 == key)) then
                m := setKey m key zero
      match mergeNode with
      | none => return (some (some m), merged)
      | some mn =>
        let base ← match merged with
          | some ks => pure ks
          | none => stringKeys pairs
        let sources ← mergeSources mn
        let mut set := base
        for src in sources do
          visit
          let (r, s) ← mapInto typeName elem zero k (some m) (some set) src
          if let some (some v) := r then m := v
          set := s.getD set
        return (some (some m), if merged.isSome then some set else none)
    | .scalar .. => do
      match ← meaning n with
      | .null => pure (some none, merged)
      | _ => do typeError n "" typeName; pure (none, merged)
    | .sequence .. => do typeError n seqTag typeName; pure (none, merged)

/-- A map with string keys; null makes it absent. -/
def map (typeName : String) (elem : Decoder α) (zero : α) : Decoder (Option (List (String × α))) :=
  fun n => do
    let (r, _) ← mapInto typeName elem zero 32 none none n
    pure r

/-- Decodes a document's root, collecting type errors into one message. The document and
its root each count as a decoded node. -/
def run (d : Decoder α) (root : Option Node) : Except String (Option α) :=
  match root with
  | none => .ok none
  | some n =>
    match StateT.run (do visit; visit; d n) {} with
    | .error e => .error ("yaml: " ++ e)
    | .ok (r, tally) =>
      if tally.errors.isEmpty then .ok r
      else .error ("yaml: unmarshal errors:\n  " ++ "\n  ".intercalate tally.errors.toList)

end Decode

end Yaml

end QuoteKeeper
