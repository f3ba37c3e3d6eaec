import QuoteKeeper.Yaml.Node
/-
  QuoteKeeper.Yaml.Parser — tokens into the node tree of the first document.

  (1) Grammar. A node is an alias, or optional properties (an anchor and a tag, in either
  order) before a scalar, a flow collection, or, in block context, a block collection; a
  block mapping's value may also be a sequence of entries at the mapping's own
  indentation. Properties with nothing after them make an empty scalar, and an entry
  without content holds one too.
  (2) Problems. Each collection reports what it expected next (`did not find expected key`,
  `did not find expected ',' or ']'`, ...) with the mark where it started as context; a node
  that is not there is `did not find expected node content`; an alias must name an anchor
  already read.
  (3) Only the first document is read: whatever follows its end is not looked at, beyond
  the tokens the scanner fetches ahead.
  (4) Tags are expanded through the document's `%TAG` directives and the defaults `!` and
  `!!`; an unknown handle is a problem.
-/

namespace QuoteKeeper

namespace Yaml

structure ParserState where
  scanner : Scanner
  /-- Anchors read so far, latest first, each with a number and its node once complete. -/
  anchors : List (String × Nat × Option Node)
  nextAnchor : Nat
  /-- Tag handles and their prefixes. -/
  tags : List (String × String)
  deriving Inhabited

abbrev ParseM := StateT ParserState (Except Problem)

namespace Parse

def zeroMark : Mark := ⟨0, 0, 0⟩

def defaultTags : List (String × String) := [("!", "!"), ("!!", corePrefix)]

def scan (m : ScanM α) : ParseM α := do
  let st ← get
  match m.run st.scanner with
  | .ok (a, s) => set { st with scanner := s }; pure a
  | .error e => throw e

/-- The next token, fetching as needed. -/
def peek : ParseM Token := do
  scan Scan.fetchMoreTokens
  let st ← get
  match st.scanner.queue with
  | t :: _ => pure t
  | [] => pure ⟨.streamEnd, st.scanner.mark, st.scanner.mark⟩

def skip : ParseM Unit :=
  modify fun st =>
    let sc := st.scanner
    { st with scanner := { sc with queue := sc.queue.drop 1, parsed := sc.parsed + 1 } }

def fail (ctx : Mark) (text : String) (m : Mark) : ParseM α := do
  throw (.located false ctx text m (← get).scanner.pos)

/-- A problem building nodes, with how far the scanner had read. -/
def composeFail (text : String) : ParseM α := do
  throw (.compose text (← get).scanner.pos)

def outOfFuel : ParseM α := composeFail "document nested too deeply"

def nodeAt (m : Mark) : Nat × Nat := (m.line + 1, m.column + 1)

/-- The tag a node records: an explicit one (not `!`) written short, else the default,
else for a scalar its resolved tag. -/
def nodeTag (explicit : Option String) (default : String) (value : String) (isScalar : Bool) :
    String :=
  match explicit with
  | some t => if t != "" && t != "!" then shortTag t
    else if default != "" then default else if isScalar then (resolvePlain "" value).1 else ""
  | none => if default != "" then default else if isScalar then (resolvePlain "" value).1 else ""

def scalarNode (value : String) (style : ScalarStyle) (tag : Option String) (m : Mark) : Node :=
  let default := if style != .plain then strTag else if value == "<<" then mergeTag else ""
  .scalar value (nodeTag tag default value true) style (m.line + 1) (m.column + 1)

def emptyScalar (m : Mark) : Node := scalarNode "" .plain none m

/-- Registers an anchor; its number lets the collection fill it in later. -/
def openAnchor (name : Option String) (node : Option Node) : ParseM (Option Nat) := do
  match name with
  | none => pure none
  | some a =>
    let st ← get
    let anchors := (a, st.nextAnchor, node) :: st.anchors
    set { st with anchors := anchors, nextAnchor := st.nextAnchor + 1 }
    pure (some st.nextAnchor)

def closeAnchor (id : Option Nat) (node : Node) : ParseM Unit :=
  match id with
  | none => pure ()
  | some i => modify fun st =>
    { st with anchors := st.anchors.map fun (a, j, n) => if j == i then (a, j, some node) else (a, j, n) }

def resolveTag (handle suffix : String) (start tagMark : Mark) : ParseM String := do
  if handle == "" then return suffix
  match (← get).tags.find? (·.1 == handle) with
  | some (_, pfx) => pure (pfx ++ suffix)
  | none => fail start "found undefined tag handle" tagMark

/-- Anchor and tag before a node, in either order: the node's start, the anchor, the tag
with its mark, and the token after them. -/
def properties (t : Token) : ParseM (Mark × Option String × Option (String × String × Mark) × Token) := do
  match t.kind with
  | .anchor a =>
    skip
    let t2 ← peek
    match t2.kind with
    | .tag h s => skip; pure (t.start, some a, some (h, s, t2.start), ← peek)
    | _ => pure (t.start, some a, none, t2)
  | .tag h s =>
    skip
    let t2 ← peek
    match t2.kind with
    | .anchor a => skip; pure (t.start, some a, some (h, s, t.start), ← peek)
    | _ => pure (t.start, none, some (h, s, t.start), t2)
  | _ => pure (t.start, none, none, t)

def isOneOf (t : Token) (ks : List TokenKind) : Bool := ks.contains t.kind

mutual

def node : Nat → Bool → Bool → ParseM Node
  | 0, _, _ => outOfFuel
  | n + 1, block, indentless => do
    let t ← peek
    match t.kind with
    | .alias name =>
      skip
      match (← get).anchors.find? (·.1 == name) with
      | none => composeFail ("unknown anchor \x27" ++ name ++ "\x27 referenced")
      | some (_, _, target) => pure (.alias name target (t.start.line + 1) (t.start.column + 1))
    | _ =>
      let (start, anchor, tag, t) ← properties t
      let tag ← match tag with
        | none => pure none
        | some (h, s, tm) => some <$> resolveTag h s start tm
      let (line, col) := nodeAt start
      if indentless && t.kind == .blockEntry then
        let id ← openAnchor anchor none
        let items ← indentlessItems n []
        let nd := Node.sequence items (nodeTag tag seqTag "" false) line col
        closeAnchor id nd
        return nd
      match t.kind with
      | .scalar v style =>
        skip
        let nd := scalarNode v style tag start
        let _ ← openAnchor anchor (some nd)
        pure nd
      | .flowSequenceStart =>
        let id ← openAnchor anchor none
        skip
        let items ← flowSeqItems n t.start true []
        let nd := Node.sequence items (nodeTag tag seqTag "" false) line col
        closeAnchor id nd
        pure nd
      | .flowMappingStart =>
        let id ← openAnchor anchor none
        skip
        let pairs ← flowMapEntries n t.start true []
        let nd := Node.mapping pairs (nodeTag tag mapTag "" false) line col
        closeAnchor id nd
        pure nd
      | .blockSequenceStart =>
        if block then
          let id ← openAnchor anchor none
          skip
          let items ← blockSeqItems n t.start []
          let nd := Node.sequence items (nodeTag tag seqTag "" false) line col
          closeAnchor id nd
          pure nd
        else fail start "did not find expected node content" t.start
      | .blockMappingStart =>
        if block then
          let id ← openAnchor anchor none
          skip
          let pairs ← blockMapEntries n t.start []
          let nd := Node.mapping pairs (nodeTag tag mapTag "" false) line col
          closeAnchor id nd
          pure nd
        else fail start "did not find expected node content" t.start
      | _ =>
        if anchor.isSome || tag.isSome then
          let nd := scalarNode "" .plain tag start
          let _ ← openAnchor anchor (some nd)
          pure nd
        else fail start "did not find expected node content" t.start

def blockSeqItems : Nat → Mark → List Node → ParseM (List Node)
  | 0, _, _ => outOfFuel
  | n + 1, m, acc => do
    let t ← peek
    match t.kind with
    | .blockEntry =>
      skip
      let t2 ← peek
      let item ← if !isOneOf t2 [.blockEntry, .blockEnd] then node n true false
        else pure (emptyScalar t.stop)
      blockSeqItems n m (acc ++ [item])
    | .blockEnd => skip; pure acc
    | _ => fail m "did not find expected '-' indicator" t.start

def indentlessItems : Nat → List Node → ParseM (List Node)
  | 0, _ => outOfFuel
  | n + 1, acc => do
    let t ← peek
    if t.kind == .blockEntry then
      skip
      let t2 ← peek
      let item ← if !isOneOf t2 [.blockEntry, .key, .value, .blockEnd] then node n true false
        else pure (emptyScalar t.stop)
      indentlessItems n (acc ++ [item])
    else pure acc

def blockMapEntries : Nat → Mark → List (Node × Node) → ParseM (List (Node × Node))
  | 0, _, _ => outOfFuel
  | n + 1, m, acc => do
    let t ← peek
    match t.kind with
    | .key =>
      skip
      let t2 ← peek
      let k ← if !isOneOf t2 [.key, .value, .blockEnd] then node n true true
        else pure (emptyScalar t.stop)
      let t3 ← peek
      let v ← if t3.kind == .value then do
          skip
          let t4 ← peek
          if !isOneOf t4 [.key, .value, .blockEnd] then node n true true
          else pure (emptyScalar t3.stop)
        else pure (emptyScalar t3.start)
      blockMapEntries n m (acc ++ [(k, v)])
    | .blockEnd => skip; pure acc
    | _ => fail m "did not find expected key" t.start

def flowSeqItems : Nat → Mark → Bool → List Node → ParseM (List Node)
  | 0, _, _, _ => outOfFuel
  | n + 1, m, first, acc => do
    let t ← peek
    if t.kind == .flowSequenceEnd then skip; return acc
    let t ← if first then pure t
      else if t.kind == .flowEntry then do skip; peek
      else fail m "did not find expected ',' or ']'" t.start
    if t.kind == .key then
      skip
      let t2 ← peek
      let k ← if !isOneOf t2 [.value, .flowEntry, .flowSequenceEnd] then node n false false
        else do skip; pure (emptyScalar t2.stop)
      let t3 ← peek
      let v ← if t3.kind == .value then do
          skip
          let t4 ← peek
          if !isOneOf t4 [.flowEntry, .flowSequenceEnd] then node n false false
          else pure (emptyScalar t4.start)
        else pure (emptyScalar t3.start)
      let (line, col) := nodeAt t.start
      flowSeqItems n m false (acc ++ [Node.mapping [(k, v)] mapTag line col])
    else if t.kind == .flowSequenceEnd then skip; return acc
    else
      let item ← node n false false
      flowSeqItems n m false (acc ++ [item])

def flowMapEntries : Nat → Mark → Bool → List (Node × Node) → ParseM (List (Node × Node))
  | 0, _, _, _ => outOfFuel
  | n + 1, m, first, acc => do
    let t ← peek
    if t.kind == .flowMappingEnd then skip; return acc
    let t ← if first then pure t
      else if t.kind == .flowEntry then do skip; peek
      else fail m "did not find expected ',' or '\x7d'" t.start
    if t.kind == .key then
      skip
      let t2 ← peek
      let k ← if !isOneOf t2 [.value, .flowEntry, .flowMappingEnd] then node n false false
        else pure (emptyScalar t2.start)
      let t3 ← peek
      let v ← if t3.kind == .value then do
          skip
          let t4 ← peek
          if !isOneOf t4 [.flowEntry, .flowMappingEnd] then node n false false
          else pure (emptyScalar t4.start)
        else pure (emptyScalar t3.start)
      flowMapEntries n m false (acc ++ [(k, v)])
    else if t.kind == .flowMappingEnd then skip; return acc
    else
      let k ← node n false false
      let t3 ← peek
      flowMapEntries n m false (acc ++ [(k, emptyScalar t3.start)])

end

/-- `%YAML` and `%TAG` directives before an explicit document. -/
def directives (fuel : Nat) : ParseM Unit := do
  let rec go : Nat → Bool → List (String × String) → ParseM (List (String × String))
    | 0, _, acc => pure acc
    | n + 1, seenVersion, acc => do
      let t ← peek
      match t.kind with
      | .versionDirective major minor =>
        if seenVersion then fail zeroMark "found duplicate %YAML directive" t.start
        if major != 1 || minor != 1 then fail zeroMark "found incompatible YAML document" t.start
        skip
        go n true acc
      | .tagDirective h p =>
        if acc.any (·.1 == h) then fail zeroMark "found duplicate %TAG directive" t.start
        skip
        go n seenVersion (acc ++ [(h, p)])
      | _ => pure acc
  let own ← go fuel false []
  modify fun st => { st with tags := own ++ defaultTags.filter (fun d => !own.any (·.1 == d.1)) }

def document (fuel : Nat) : ParseM (Option Node) := do
  let _ ← peek
  skip
  let t ← peek
  let structural := [TokenKind.documentStart, .streamEnd]
  let isDirective := match t.kind with
    | .versionDirective _ _ | .tagDirective _ _ => true
    | _ => false
  if !isDirective && !structural.contains t.kind then
    modify fun st => { st with tags := defaultTags }
    let root ← node fuel true false
    if (← peek).kind == .documentEnd then skip
    return some root
  if t.kind == .streamEnd then return none
  directives fuel
  let t ← peek
  if t.kind != .documentStart then fail zeroMark "did not find expected <document start>" t.start
  skip
  let t ← peek
  let isDirective := match t.kind with
    | .versionDirective _ _ | .tagDirective _ _ => true
    | _ => false
  let root ← if isDirective || [TokenKind.documentStart, .documentEnd, .streamEnd].contains t.kind then
      pure (emptyScalar t.start)
    else node fuel true false
  if (← peek).kind == .documentEnd then skip
  return some root

end Parse

/-- The characters the reader has decoded before the chunk that holds the character numbered
`bad`. The reader decodes 512 bytes of input at a time, a character cut by the end of a
chunk waiting for the next one; `first` is the byte the first character starts at (three
when a byte order mark comes first). -/
def decodedBefore (cs : List Char) (bad first : Nat) : Nat :=
  go (2 * cs.length + 2) cs 0 first 512 0
where
  go : Nat → List Char → Nat → Nat → Nat → Nat → Nat
    | 0, _, _, _, _, before => before
    | _, [], _, _, _, before => before
    | fuel + 1, c :: rest, i, p, chunkEnd, before =>
      if p + c.utf8Size > chunkEnd then go fuel (c :: rest) i p (p + 512) i
      else if i == bad then before
      else go fuel rest (i + 1) (p + c.utf8Size) chunkEnd before

def controlProblem : Problem := .reader "control characters are not allowed"

/-- The first document of a YAML text, or none when the text has no document. A character
the reader refuses stops everything once the scanner has needed a character from its chunk:
the scanner looks up to four characters ahead of where it stands. -/
def parse (text : String) : Except Problem (Option Node) :=
  let (cs, first) := match text.toList with
    | c :: rest => if c == bom then (rest, 3) else (c :: rest, 0)
    | [] => ([], 0)
  let st : ParserState := ⟨Scanner.new (String.ofList cs), [], 0, Parse.defaultTags⟩
  let run := (Parse.document (2 * cs.length + 64)).run st
  match cs.findIdx? (fun c => !allowed c) with
  | none => run.map (·.1)
  | some bad =>
    let cut := decodedBefore cs bad first
    if cut == 0 then .error controlProblem
    else
      match run with
      | .ok (r, st) => if st.scanner.pos + 3 ≥ cut then .error controlProblem else .ok r
      | .error e => if e.reached + 3 ≥ cut then .error controlProblem else .error e

end Yaml

end QuoteKeeper
