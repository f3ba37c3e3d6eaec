/-
  QuoteKeeper.Yaml.Scanner — YAML text into tokens, fetched as the parser asks for them.

  (1) Tokens. Indentation opens and closes block collections (`blockSequenceStart`,
  `blockMappingStart`, `blockEnd`); brackets open and close flow collections; `-`, `?`, `:`
  and `,` mark entries, keys and values; scalars come plain, quoted or as block literals.
  (2) Simple keys. A key without `?` is only known to be one when its `:` arrives, so each
  flow level remembers where a simple key could have started; the `key` token (and, in
  block context, a `blockMappingStart`) is inserted there afterwards. A simple key must
  stay on one line and within 1024 characters; one that starts at the current indentation
  in block context is required, and losing it is an error.
  (3) Laziness. Tokens are fetched only while fewer than three are queued or while the head
  token could still be preceded by an inserted key. The parser sees a scanner problem only
  when it asks for a token that cannot be settled before it, which fixes which of a
  scanner and a parser problem is reported.
  (4) Problems carry the mark of their context and of the place they were found; the
  message shows a line number from those marks.
-/

namespace QuoteKeeper

namespace Yaml

/-- A position: characters read, line and column, all from zero. -/
structure Mark where
  index : Nat
  line : Nat
  column : Nat
  deriving DecidableEq, Repr, Inhabited

inductive ScalarStyle where
  | plain
  | singleQuoted
  | doubleQuoted
  | literal
  | folded
  deriving DecidableEq, Repr, Inhabited

inductive TokenKind where
  | streamStart
  | streamEnd
  | versionDirective (major minor : Nat)
  | tagDirective (handle pfx : String)
  | documentStart
  | documentEnd
  | blockSequenceStart
  | blockMappingStart
  | blockEnd
  | flowSequenceStart
  | flowSequenceEnd
  | flowMappingStart
  | flowMappingEnd
  | blockEntry
  | flowEntry
  | key
  | value
  | alias (name : String)
  | anchor (name : String)
  | tag (handle suffix : String)
  | scalar (text : String) (style : ScalarStyle)
  deriving DecidableEq, Repr, Inhabited

structure Token where
  kind : TokenKind
  start : Mark
  stop : Mark
  deriving Repr, Inhabited

/-- Why reading stopped. Problems found while reading record how many characters the scanner
had passed (`reached`), which tells whether the reader had already refused a character. -/
inductive Problem where
  /-- A character the reader refuses. -/
  | reader (text : String)
  /-- A scanner (`scanner = true`) or parser problem: the mark of its context, the text, and
  the mark where it was found. -/
  | located (scanner : Bool) (context : Mark) (text : String) (mark : Mark) (reached : Nat)
  /-- A problem found while building nodes. -/
  | compose (text : String) (reached : Nat)
  deriving Repr, Inhabited

/-- How far the scanner had read when the problem was found. -/
def Problem.reached : Problem → Nat
  | .reader _ => 0
  | .located _ _ _ _ r => r
  | .compose _ r => r

/-- The message: the context's line if not the first, else the problem's; zero-based for
parser problems and one-based for scanner problems, and left out when it is zero. -/
def Problem.message : Problem → String
  | .reader t => "yaml: " ++ t
  | .located sc ctx t m _ =>
    let bump := if sc then 1 else 0
    let line := if ctx.line ≠ 0 then ctx.line + bump else if m.line ≠ 0 then m.line + bump else 0
    "yaml: " ++ (if line ≠ 0 then "line " ++ toString line ++ ": " else "") ++ t
  | .compose t _ => "yaml: " ++ t

/-! ## Characters -/

def nel : Char := Char.ofNat 0x85
def lineSep : Char := Char.ofNat 0x2028
def paraSep : Char := Char.ofNat 0x2029
def bom : Char := Char.ofNat 0xFEFF

/-- The character standing for the end of the input. -/
def eof : Char := Char.ofNat 0

def isBreak (c : Char) : Bool := c == '\r' || c == '\n' || c == nel || c == lineSep || c == paraSep
def isBlank (c : Char) : Bool := c == ' ' || c == '\t'
def isZ (c : Char) : Bool := c == eof
def isBreakZ (c : Char) : Bool := isBreak c || isZ c
def isBlankZ (c : Char) : Bool := isBlank c || isBreakZ c
def isDigit (c : Char) : Bool := '0' ≤ c && c ≤ '9'
def isAlpha (c : Char) : Bool :=
  isDigit c || ('a' ≤ c && c ≤ 'z') || ('A' ≤ c && c ≤ 'Z') || c == '_' || c == '-'
def isHex (c : Char) : Bool := isDigit c || ('a' ≤ c && c ≤ 'f') || ('A' ≤ c && c ≤ 'F')

def hexValue (c : Char) : Nat :=
  if isDigit c then c.toNat - 48 else if 'a' ≤ c && c ≤ 'f' then c.toNat - 87 else c.toNat - 55

/-- Characters the reader accepts: tab, line feed, carriage return, printable ASCII, NEL,
and the printable planes. -/
def allowed (c : Char) : Bool :=
  let v := c.toNat
  v == 0x09 || v == 0x0A || v == 0x0D || (0x20 ≤ v && v ≤ 0x7E) || v == 0x85 ||
    (0xA0 ≤ v && v ≤ 0xD7FF) || (0xE000 ≤ v && v ≤ 0xFFFD) || (0x10000 ≤ v && v ≤ 0x10FFFF)

/-- Characters allowed in a tag URI besides letters, digits, `_` and `-`. -/
def uriChars : List Char :=
  [';', '/', '?', ':', '@', '&', '=', '+', '$', ',', '.', '!', '~', '*', '\'', '(', ')', '[',
    ']', '%']

/-! ## Scanner state -/

structure SimpleKey where
  possible : Bool
  required : Bool
  /-- The number of the token it would be inserted before. -/
  number : Nat
  mark : Mark
  deriving Repr, Inhabited

structure Scanner where
  text : Array Char
  pos : Nat
  mark : Mark
  /-- Tokens fetched and not yet taken, in order. -/
  queue : List Token
  /-- Tokens taken by the parser. -/
  parsed : Nat
  started : Bool
  ended : Bool
  indent : Int
  indents : List Int
  keyAllowed : Bool
  /-- One slot per flow level, innermost first. -/
  keys : List SimpleKey
  flowLevel : Nat
  deriving Inhabited

def Scanner.new (text : String) : Scanner :=
  ⟨text.toList.toArray, 0, ⟨0, 0, 0⟩, [], 0, false, false, -1, [], false, [], 0⟩

namespace Scanner

def char (s : Scanner) (k : Nat) : Char := s.text.getD (s.pos + k) eof

/-- Past one character on the same line. -/
def advance (s : Scanner) : Scanner :=
  { s with pos := s.pos + 1, mark := ⟨s.mark.index + 1, s.mark.line, s.mark.column + 1⟩ }

def newline (s : Scanner) (width : Nat) : Scanner :=
  { s with pos := s.pos + width, mark := ⟨s.mark.index + width, s.mark.line + 1, 0⟩ }

/-- Past a line break, if there is one. -/
def skipLine (s : Scanner) : Scanner :=
  if s.char 0 == '\r' && s.char 1 == '\n' then s.newline 2
  else if isBreak (s.char 0) then s.newline 1
  else s

/-- Past a line break, with what it stands for in a scalar: a line feed, or the line or
paragraph separator itself. -/
def readLine (s : Scanner) : Scanner × String :=
  let c := s.char 0
  if c == '\r' && s.char 1 == '\n' then (s.newline 2, "\n")
  else if c == '\r' || c == '\n' || c == nel then (s.newline 1, "\n")
  else if c == lineSep || c == paraSep then (s.newline 1, c.toString)
  else (s, "")

/-- Characters left, bounding every loop over them. -/
def left (s : Scanner) : Nat := s.text.size + 1 - s.pos

/-- Past characters while `p` holds. -/
def skipWhile (p : Scanner → Bool) (s : Scanner) : Scanner :=
  go s.left s
where
  go : Nat → Scanner → Scanner
    | 0, s => s
    | n + 1, s => if p s && s.pos < s.text.size then go n s.advance else s

/-- Characters while `p` holds, and the scanner past them. -/
def readWhile (p : Scanner → Bool) (s : Scanner) : Scanner × String :=
  go s.left s ""
where
  go : Nat → Scanner → String → Scanner × String
    | 0, s, acc => (s, acc)
    | n + 1, s, acc => if p s && s.pos < s.text.size then go n s.advance (acc.push (s.char 0)) else (s, acc)

end Scanner

abbrev ScanM := StateT Scanner (Except Problem)

namespace Scan

def cur (k : Nat) : ScanM Char := do return (← get).char k

def mark : ScanM Mark := do return (← get).mark

def step : ScanM Unit := modify Scanner.advance

def fail (ctx : Mark) (text : String) : ScanM α := do
  let s ← get
  throw (.located true ctx text s.mark s.pos)

def push (t : Token) : ScanM Unit := modify fun s => { s with queue := s.queue ++ [t] }

/-- Inserts a token before the one numbered `n`. -/
def insertAt (n : Nat) (t : Token) : ScanM Unit :=
  modify fun s =>
    let i := n - s.parsed
    { s with queue := s.queue.take i ++ t :: s.queue.drop i }

/-! ## Simple keys and indentation -/

def removeSimpleKey : ScanM Unit := do
  let s ← get
  match s.keys with
  | k :: rest =>
    if k.possible then
      if k.required then fail k.mark "could not find expected ':'"
      set { s with keys := { k with possible := false } :: rest }
  | [] => pure ()

def saveSimpleKey : ScanM Unit := do
  let s ← get
  if s.keyAllowed then
    let k : SimpleKey :=
      ⟨true, s.flowLevel == 0 && s.indent == (s.mark.column : Int), s.parsed + s.queue.length, s.mark⟩
    removeSimpleKey
    modify fun s => { s with keys := k :: s.keys.drop 1 }

/-- Whether a possible key can still be one here; a stale required key is an error. -/
def keyStillValid (k : SimpleKey) : ScanM (Bool × SimpleKey) := do
  let s ← get
  if !k.possible then return (false, k)
  if k.mark.line < s.mark.line || k.mark.index + 1024 < s.mark.index then
    if k.required then fail k.mark "could not find expected ':'"
    return (false, { k with possible := false })
  return (true, k)

def increaseFlowLevel : ScanM Unit := do
  let s ← get
  set { s with keys := ⟨false, false, 0, s.mark⟩ :: s.keys, flowLevel := s.flowLevel + 1 }
  if s.flowLevel + 1 > 10000 then fail s.mark "exceeded max depth of 10000"

def decreaseFlowLevel : ScanM Unit :=
  modify fun s =>
    if s.flowLevel > 0 then { s with flowLevel := s.flowLevel - 1, keys := s.keys.drop 1 } else s

/-- Opens a block collection when `column` is deeper than the indentation. -/
def rollIndent (column : Nat) (number : Option Nat) (kind : TokenKind) (m : Mark) : ScanM Unit := do
  let s ← get
  if s.flowLevel > 0 then return
  if s.indent < column then
    set { s with indents := s.indent :: s.indents, indent := column }
    if s.indents.length + 1 > 10000 then fail m "exceeded max depth of 10000"
    let t : Token := ⟨kind, m, m⟩
    match number with
    | some n => insertAt n t
    | none => push t

/-- Closes the block collections deeper than `column`. -/
def unrollIndent (column : Int) (scanMark : Mark) : ScanM Unit := do
  let s ← get
  if s.flowLevel > 0 then return
  let bm : Mark := { scanMark with index := scanMark.index - 1 }
  let rec go : Nat → ScanM Unit
    | 0 => pure ()
    | n + 1 => do
      if (← get).indent > column then
        push ⟨.blockEnd, bm, bm⟩
        modify fun t => { t with indent := t.indents.headD (-1), indents := t.indents.drop 1 }
        go n
  go (s.indents.length + 1)

/-! ## Between tokens -/

/-- Past blanks, comments and line breaks. Tabs are skipped only in flow context or where
no simple key may start; a new line in block context allows one. -/
def scanToNextToken : ScanM Unit := do
  let rec go : Nat → ScanM Unit
    | 0 => pure ()
    | n + 1 => do
      let s ← get
      let s := if s.mark.column == 0 && s.char 0 == bom then s.advance else s
      let s := Scanner.skipWhile (fun t => t.char 0 == ' ' ||
        ((t.flowLevel > 0 || !t.keyAllowed) && t.char 0 == '\t')) s
      let s := if s.char 0 == '#' then Scanner.skipWhile (fun t => !isBreakZ (t.char 0)) s else s
      if isBreak (s.char 0) then
        let s := s.skipLine
        set (if s.flowLevel == 0 then { s with keyAllowed := true } else s)
        go n
      else set s
  go ((← get).left + 1)

/-! ## Scalars -/

/-- Digits of a `%YAML` version number, at most two. -/
def versionNumber (start : Mark) : ScanM Nat := do
  let rec go : Nat → Nat → Nat → ScanM Nat
    | 0, v, _ => pure v
    | n + 1, v, len => do
      let c ← cur 0
      if isDigit c then
        if len + 1 > 2 then fail start "found extremely long version number"
        step
        go n (v * 10 + (c.toNat - 48)) (len + 1)
      else if len == 0 then fail start "did not find expected version number"
      else pure v
  go 4 0 0

/-- A tag handle: `!`, `!!` or `!name!`; in a directive anything else is an error. -/
def tagHandle (directive : Bool) (start : Mark) : ScanM String := do
  if (← cur 0) != '!' then fail start "did not find expected '!'"
  step
  let (s, name) := Scanner.readWhile (fun t => isAlpha (t.char 0)) (← get)
  set s
  if (← cur 0) == '!' then
    step
    return "!" ++ name ++ "!"
  if directive && name != "" then fail start "did not find expected '!'"
  return "!" ++ name

/-- The bytes of `%XX` escapes, read as one UTF-8 character sequence. -/
def uriEscapes (start : Mark) : ScanM String := do
  let rec go : Nat → ByteArray → ScanM ByteArray
    | 0, acc => pure acc
    | n + 1, acc => do
      if (← cur 0) == '%' then
        let a ← cur 1
        let b ← cur 2
        if !(isHex a && isHex b) then fail start "did not find URI escaped octet"
        step; step; step
        go n (acc.push (hexValue a * 16 + hexValue b).toUInt8)
      else pure acc
  let bytes ← go ((← get).left + 1) ByteArray.empty
  match String.fromUTF8? bytes with
  | some t => pure t
  | none => fail start "found an incorrect leading UTF-8 octet"

/-- A tag URI, after `head` without its leading `!`. -/
def tagUri (head : String) (start : Mark) : ScanM String := do
  let rec go : Nat → String → Bool → ScanM (String × Bool)
    | 0, acc, has => pure (acc, has)
    | n + 1, acc, has => do
      let c ← cur 0
      if isAlpha c || uriChars.contains c then
        if c == '%' then
          let t ← uriEscapes start
          go n (acc ++ t) true
        else
          step
          go n (acc.push c) true
      else pure (acc, has)
  let (uri, has) ← go ((← get).left + 1) (String.ofList (head.toList.drop 1)) (head.length > 0)
  if !has then fail start "did not find expected tag URI"
  pure uri

def scanTag : ScanM Token := do
  let start ← mark
  let (handle, suffix) ← if (← cur 1) == '<' then do
      step; step
      let suffix ← tagUri "" start
      if (← cur 0) != '>' then fail start "did not find the expected '>'"
      step
      pure ("", suffix)
    else do
      let handle ← tagHandle false start
      if handle.length > 1 && handle.startsWith "!" && handle.endsWith "!" then
        pure (handle, ← tagUri "" start)
      else
        let suffix ← tagUri handle start
        if suffix.isEmpty then pure ("", "!") else pure ("!", suffix)
  let c ← cur 0
  if !isBlankZ c then
    if (← get).flowLevel == 0 || c != ',' then
      fail start "did not find expected whitespace or line break"
  pure ⟨.tag handle suffix, start, ← mark⟩

def scanAnchor (isAlias : Bool) : ScanM Token := do
  let start ← mark
  step
  let (s, name) := Scanner.readWhile (fun t => isAlpha (t.char 0)) (← get)
  set s
  let c ← cur 0
  if name.isEmpty || !(isBlankZ c || [('?' : Char), ':', ',', ']', '}', '%', '@', '`'].contains c) then
    fail start "did not find expected alphabetic or numeric character"
  pure ⟨if isAlias then .alias name else .anchor name, start, ← mark⟩

/-- The line breaks and indentation before a block scalar's next line; fixes the
indentation when it is still open. -/
def blockBreaks (indent : Nat) (start : Mark) (endMark : Mark) : ScanM (Nat × String × Mark) := do
  let rec go : Nat → Nat → String → Mark → Nat → ScanM (Nat × String × Mark × Nat)
    | 0, ind, br, em, mx => pure (ind, br, em, mx)
    | n + 1, ind, br, em, mx => do
      let s ← get
      let s := Scanner.skipWhile (fun t => (ind == 0 || t.mark.column < ind) && t.char 0 == ' ') s
      set s
      let mx := max mx s.mark.column
      if (ind == 0 || s.mark.column < ind) && s.char 0 == '\t' then
        fail start "found a tab character where an indentation space is expected"
      if !isBreak (s.char 0) then return (ind, br, em, mx)
      let (s, b) := s.readLine
      set s
      go n ind (br ++ b) s.mark mx
  let (ind, br, em, mx) ← go ((← get).left + 1) indent "" endMark 0
  if ind == 0 then
    let base := (← get).indent + 1
    let ind := if (mx : Int) < base then base.toNat else mx
    return (max ind 1, br, em)
  return (ind, br, em)

def scanBlockScalar (literal : Bool) : ScanM Token := do
  let start ← mark
  step
  let readChomp : ScanM Int := do
    let c ← cur 0
    if c == '+' then step; pure 1
    else if c == '-' then step; pure (-1)
    else pure 0
  let readIncrement : ScanM Nat := do
    let c ← cur 0
    if isDigit c then
      if c == '0' then fail start "found an indentation indicator equal to 0"
      step
      pure (c.toNat - 48)
    else pure 0
  let c ← cur 0
  let (chomping, increment) ← if c == '+' || c == '-' then do
      let ch ← readChomp
      pure (ch, ← readIncrement)
    else do
      let inc ← readIncrement
      pure (← readChomp, inc)
  modify fun s => Scanner.skipWhile (fun t => isBlank (t.char 0)) s
  if (← cur 0) == '#' then modify fun s => Scanner.skipWhile (fun t => !isBreakZ (t.char 0)) s
  if !isBreakZ (← cur 0) then fail start "did not find expected comment or line break"
  modify Scanner.skipLine
  let endMark ← mark
  let base := (← get).indent
  let indent : Nat :=
    if increment > 0 then (if base ≥ 0 then (base + (increment : Int)).toNat else increment) else 0
  let (indent, trailing, endMark) ← blockBreaks indent start endMark
  -- the content, line by line
  let rec lines : Nat → String → String → String → Bool → Mark → ScanM (String × String × String × Mark)
    | 0, acc, lb, tb, _, em => pure (acc, lb, tb, em)
    | n + 1, acc, lb, tb, leadingBlank, em => do
      let s ← get
      if !(s.mark.column == indent && !isZ (s.char 0)) then return (acc, lb, tb, em)
      let trailingBlank := isBlank (s.char 0)
      let acc :=
        if !literal && !leadingBlank && !trailingBlank && lb.startsWith "\n" then
          if tb.isEmpty then acc.push ' ' else acc
        else acc ++ lb
      let acc := acc ++ tb
      let leadingBlank := isBlank (s.char 0)
      let (s, line) := Scanner.readWhile (fun t => !isBreakZ (t.char 0)) s
      let (s, lb) := s.readLine
      set s
      let (_, tb, em) ← blockBreaks indent start em
      lines n (acc ++ line) lb tb leadingBlank em
  let (acc, lb, tb, endMark) ← lines ((← get).left + 1) "" "" trailing false endMark
  let acc := if chomping != -1 then acc ++ lb else acc
  let acc := if chomping == 1 then acc ++ tb else acc
  pure ⟨.scalar acc (if literal then .literal else .folded), start, endMark⟩

/-- A document marker `---` or `...` at the start of a line. -/
def atDocumentIndicator (s : Scanner) : Bool :=
  s.mark.column == 0 &&
    ((s.char 0 == '-' && s.char 1 == '-' && s.char 2 == '-') ||
      (s.char 0 == '.' && s.char 1 == '.' && s.char 2 == '.')) &&
    isBlankZ (s.char 3)

/-- Blanks and breaks inside a quoted or plain scalar: the whitespace kept so far, the
first line break, the further breaks, and whether a break was seen. -/
structure Gap where
  spaces : String
  leading : String
  trailing : String
  broken : Bool

/-- Joins a gap into the scalar: breaks fold to a space unless more follow. -/
def Gap.join (g : Gap) (acc : String) : String :=
  if g.broken then
    if g.leading.startsWith "\n" then
      if g.trailing.isEmpty then acc.push ' ' else acc ++ g.trailing
    else acc ++ g.leading ++ g.trailing
  else acc ++ g.spaces

/-- One escape sequence after a backslash in a double-quoted scalar. -/
def escape (start : Mark) : ScanM String := do
  let c ← cur 1
  let simple : Option String :=
    match c with
    | '0' => some (Char.ofNat 0).toString
    | 'a' => some (Char.ofNat 7).toString
    | 'b' => some (Char.ofNat 8).toString
    | 't' | '\t' => some "\t"
    | 'n' => some "\n"
    | 'v' => some (Char.ofNat 11).toString
    | 'f' => some (Char.ofNat 12).toString
    | 'r' => some "\r"
    | 'e' => some (Char.ofNat 27).toString
    | ' ' => some " "
    | '"' => some "\""
    | '\'' => some "'"
    | '\\' => some "\\"
    | '/' => some "/"
    | 'N' => some nel.toString
    | '_' => some (Char.ofNat 0xA0).toString
    | 'L' => some lineSep.toString
    | 'P' => some paraSep.toString
    | _ => none
  let width := if c == 'x' then 2 else if c == 'u' then 4 else if c == 'U' then 8 else 0
  match simple with
  | some t => step; step; pure t
  | none =>
    if width == 0 then fail start "found unknown escape character"
    step; step
    let s ← get
    let digits := (List.range width).map fun k => s.char k
    if !digits.all isHex then fail start "did not find expected hexdecimal number"
    let v := digits.foldl (fun acc d => acc * 16 + hexValue d) 0
    if (0xD800 ≤ v && v ≤ 0xDFFF) || v > 0x10FFFF then
      fail start "found invalid Unicode character escape code"
    set ((List.range width).foldl (fun t _ => t.advance) s)
    pure (Char.ofNat v).toString

def scanFlowScalar (single : Bool) : ScanM Token := do
  let start ← mark
  step
  -- non-blank characters of one stretch; `true` when an escaped line break ended it
  let rec chars : Nat → String → ScanM (String × Bool)
    | 0, acc => pure (acc, false)
    | n + 1, acc => do
      let c ← cur 0
      if isBlankZ c then return (acc, false)
      let d ← cur 1
      if single && c == '\'' && d == '\'' then step; step; chars n (acc.push '\'')
      else if single && c == '\'' then pure (acc, false)
      else if !single && c == '"' then pure (acc, false)
      else if !single && c == '\\' && isBreak d then
        step
        modify Scanner.skipLine
        pure (acc, true)
      else if !single && c == '\\' then
        let t ← escape start
        chars n (acc ++ t)
      else
        step
        chars n (acc.push c)
  let rec blanks : Nat → Gap → ScanM Gap
    | 0, g => pure g
    | n + 1, g => do
      let s ← get
      let c := s.char 0
      if isBlank c then
        if !g.broken then set s.advance; blanks n { g with spaces := g.spaces.push c }
        else set s.advance; blanks n g
      else if isBreak c then
        let (s, b) := s.readLine
        set s
        if !g.broken then blanks n { g with spaces := "", leading := b, broken := true }
        else blanks n { g with trailing := g.trailing ++ b }
      else pure g
  let rec body : Nat → String → ScanM String
    | 0, acc => pure acc
    | n + 1, acc => do
      let s ← get
      if atDocumentIndicator s then fail start "found unexpected document indicator"
      if isZ (s.char 0) then fail start "found unexpected end of stream"
      let (acc, escapedBreak) ← chars (s.left + 1) acc
      let c ← cur 0
      if (single && c == '\'') || (!single && c == '"') then return acc
      let g ← blanks ((← get).left + 1) ⟨"", "", "", escapedBreak⟩
      body n (g.join acc)
  let value ← body ((← get).left + 1) ""
  step
  pure ⟨.scalar value (if single then .singleQuoted else .doubleQuoted), start, ← mark⟩

def scanPlainScalar : ScanM Token := do
  let start ← mark
  let indent := (← get).indent + 1
  -- non-blank characters, joined to what came before through the pending gap
  let rec chars : Nat → String → Gap → Mark → ScanM (String × Gap × Mark)
    | 0, acc, g, em => pure (acc, g, em)
    | n + 1, acc, g, em => do
      let s ← get
      let c := s.char 0
      if isBlankZ c then return (acc, g, em)
      if (c == ':' && isBlankZ (s.char 1)) ||
          (s.flowLevel > 0 && [',', '?', '[', ']', '{', '}'].contains c) then
        return (acc, g, em)
      let acc := if g.broken || !g.spaces.isEmpty then g.join acc else acc
      let s := s.advance
      set s
      chars n (acc.push c) ⟨"", "", "", false⟩ s.mark
  let rec blanks : Nat → Gap → ScanM Gap
    | 0, g => pure g
    | n + 1, g => do
      let s ← get
      let c := s.char 0
      if isBlank c then
        if g.broken && (s.mark.column : Int) < indent && c == '\t' then
          fail start "found a tab character that violates indentation"
        if !g.broken then set s.advance; blanks n { g with spaces := g.spaces.push c }
        else set s.advance; blanks n g
      else if isBreak c then
        let (s, b) := s.readLine
        set s
        if !g.broken then blanks n { g with spaces := "", leading := b, broken := true }
        else blanks n { g with trailing := g.trailing ++ b }
      else pure g
  let rec body : Nat → String → Gap → Mark → ScanM (String × Gap × Mark)
    | 0, acc, g, em => pure (acc, g, em)
    | n + 1, acc, g, em => do
      let s ← get
      if atDocumentIndicator s then return (acc, g, em)
      if s.char 0 == '#' then return (acc, g, em)
      let (acc, g, em) ← chars (s.left + 1) acc g em
      let c ← cur 0
      if !(isBlank c || isBreak c) then return (acc, g, em)
      let g ← blanks ((← get).left + 1) g
      let s ← get
      if s.flowLevel == 0 && (s.mark.column : Int) < indent then return (acc, g, em)
      body n acc g em
  let (acc, g, endMark) ← body ((← get).left + 1) "" ⟨"", "", "", false⟩ start
  if g.broken then modify fun s => { s with keyAllowed := true }
  pure ⟨.scalar acc .plain, start, endMark⟩

/-! ## Fetching tokens -/

def fetchStreamStart : ScanM Unit := do
  let m ← mark
  modify fun s =>
    { s with indent := -1, keys := [⟨false, false, 0, m⟩], keyAllowed := true, started := true }
  push ⟨.streamStart, m, m⟩

def fetchStreamEnd : ScanM Unit := do
  let s ← get
  if s.mark.column != 0 then set { s with mark := ⟨s.mark.index, s.mark.line + 1, 0⟩ }
  unrollIndent (-1) (← mark)
  removeSimpleKey
  modify fun s => { s with keyAllowed := false, ended := true }
  let m ← mark
  push ⟨.streamEnd, m, m⟩

def fetchDirective : ScanM Unit := do
  unrollIndent (-1) (← mark)
  removeSimpleKey
  modify fun s => { s with keyAllowed := false }
  let start ← mark
  step
  let (s, name) := Scanner.readWhile (fun t => isAlpha (t.char 0)) (← get)
  set s
  if name.isEmpty then fail start "could not find expected directive name"
  if !isBlankZ (← cur 0) then fail start "found unexpected non-alphabetical character"
  let kind ← if name == "YAML" then do
      modify fun s => Scanner.skipWhile (fun t => isBlank (t.char 0)) s
      let major ← versionNumber start
      if (← cur 0) != '.' then fail start "did not find expected digit or '.' character"
      step
      let minor ← versionNumber start
      pure (TokenKind.versionDirective major minor)
    else if name == "TAG" then do
      modify fun s => Scanner.skipWhile (fun t => isBlank (t.char 0)) s
      let handle ← tagHandle true start
      if !isBlank (← cur 0) then fail start "did not find expected whitespace"
      modify fun s => Scanner.skipWhile (fun t => isBlank (t.char 0)) s
      let pfx ← tagUri "" start
      if !isBlankZ (← cur 0) then fail start "did not find expected whitespace or line break"
      pure (TokenKind.tagDirective handle pfx)
    else fail start "found unknown directive name"
  let stop ← mark
  modify fun s => Scanner.skipWhile (fun t => isBlank (t.char 0)) s
  if (← cur 0) == '#' then modify fun s => Scanner.skipWhile (fun t => !isBreakZ (t.char 0)) s
  if !isBreakZ (← cur 0) then fail start "did not find expected comment or line break"
  modify Scanner.skipLine
  push ⟨kind, start, stop⟩

def fetchDocumentIndicator (kind : TokenKind) : ScanM Unit := do
  unrollIndent (-1) (← mark)
  removeSimpleKey
  modify fun s => { s with keyAllowed := false }
  let start ← mark
  step; step; step
  push ⟨kind, start, ← mark⟩

/-- A one-character token. -/
def single (kind : TokenKind) : ScanM Unit := do
  let start ← mark
  step
  push ⟨kind, start, ← mark⟩

def fetchFlowCollectionStart (kind : TokenKind) : ScanM Unit := do
  saveSimpleKey
  increaseFlowLevel
  modify fun s => { s with keyAllowed := true }
  single kind

def fetchFlowCollectionEnd (kind : TokenKind) : ScanM Unit := do
  removeSimpleKey
  decreaseFlowLevel
  modify fun s => { s with keyAllowed := false }
  single kind

def fetchFlowEntry : ScanM Unit := do
  removeSimpleKey
  modify fun s => { s with keyAllowed := true }
  single .flowEntry

def fetchBlockEntry : ScanM Unit := do
  let s ← get
  if s.flowLevel == 0 then
    if !s.keyAllowed then fail s.mark "block sequence entries are not allowed in this context"
    rollIndent s.mark.column none .blockSequenceStart s.mark
  removeSimpleKey
  modify fun s => { s with keyAllowed := true }
  single .blockEntry

def fetchKey : ScanM Unit := do
  let s ← get
  if s.flowLevel == 0 then
    if !s.keyAllowed then fail s.mark "mapping keys are not allowed in this context"
    rollIndent s.mark.column none .blockMappingStart s.mark
  removeSimpleKey
  modify fun s => { s with keyAllowed := s.flowLevel == 0 }
  single .key

def fetchValue : ScanM Unit := do
  let s ← get
  let top := s.keys.headD ⟨false, false, 0, s.mark⟩
  let (valid, top) ← keyStillValid top
  modify fun s => { s with keys := top :: s.keys.drop 1 }
  if valid then
    insertAt top.number ⟨.key, top.mark, top.mark⟩
    rollIndent top.mark.column (some top.number) .blockMappingStart top.mark
    modify fun s =>
      { s with keys := { top with possible := false } :: s.keys.drop 1, keyAllowed := false }
  else
    let s ← get
    if s.flowLevel == 0 then
      if !s.keyAllowed then fail s.mark "mapping values are not allowed in this context"
      rollIndent s.mark.column none .blockMappingStart s.mark
    modify fun s => { s with keyAllowed := s.flowLevel == 0 }
  single .value

def fetchAnchor (isAlias : Bool) : ScanM Unit := do
  saveSimpleKey
  modify fun s => { s with keyAllowed := false }
  push (← scanAnchor isAlias)

def fetchTag : ScanM Unit := do
  saveSimpleKey
  modify fun s => { s with keyAllowed := false }
  push (← scanTag)

def fetchBlockScalar (literal : Bool) : ScanM Unit := do
  removeSimpleKey
  modify fun s => { s with keyAllowed := true }
  push (← scanBlockScalar literal)

def fetchFlowScalar (single : Bool) : ScanM Unit := do
  saveSimpleKey
  modify fun s => { s with keyAllowed := false }
  push (← scanFlowScalar single)

def fetchPlainScalar : ScanM Unit := do
  saveSimpleKey
  modify fun s => { s with keyAllowed := false }
  push (← scanPlainScalar)

/-- Characters that cannot start a plain scalar. -/
def indicators : List Char :=
  ['-', '?', ':', ',', '[', ']', '{', '}', '#', '&', '*', '!', '|', '>', '\'', '"', '%', '@', '`']

def fetchNextToken : ScanM Unit := do
  if !(← get).started then
    fetchStreamStart
    return
  let scanMark ← mark
  scanToNextToken
  unrollIndent (← mark).column scanMark
  let s ← get
  let c := s.char 0
  let c1 := s.char 1
  let col0 := s.mark.column == 0
  if isZ c then fetchStreamEnd
  else if col0 && c == '%' then fetchDirective
  else if col0 && c == '-' && c1 == '-' && s.char 2 == '-' && isBlankZ (s.char 3) then
    fetchDocumentIndicator .documentStart
  else if col0 && c == '.' && c1 == '.' && s.char 2 == '.' && isBlankZ (s.char 3) then
    fetchDocumentIndicator .documentEnd
  else if c == '[' then fetchFlowCollectionStart .flowSequenceStart
  else if c == '{' then fetchFlowCollectionStart .flowMappingStart
  else if c == ']' then fetchFlowCollectionEnd .flowSequenceEnd
  else if c == '}' then fetchFlowCollectionEnd .flowMappingEnd
  else if c == ',' then fetchFlowEntry
  else if c == '-' && isBlankZ c1 then fetchBlockEntry
  else if c == '?' && (s.flowLevel > 0 || isBlankZ c1) then fetchKey
  else if c == ':' && (s.flowLevel > 0 || isBlankZ c1) then fetchValue
  else if c == '*' then fetchAnchor true
  else if c == '&' then fetchAnchor false
  else if c == '!' then fetchTag
  else if c == '|' && s.flowLevel == 0 then fetchBlockScalar true
  else if c == '>' && s.flowLevel == 0 then fetchBlockScalar false
  else if c == '\'' then fetchFlowScalar true
  else if c == '"' then fetchFlowScalar false
  else if !(isBlankZ c || indicators.contains c) || (c == '-' && !isBlank c1) ||
      (s.flowLevel == 0 && (c == '?' || c == ':') && !isBlankZ c1) then
    fetchPlainScalar
  else fail s.mark "found character that cannot start any token"

/-- The index in the key stack of a possible key before the head token. -/
def headKey (s : Scanner) : Option Nat :=
  s.keys.findIdx? fun k => k.possible && k.number == s.parsed

/-- Fetches until three tokens are queued and the head token cannot get a key before it. -/
def fetchMoreTokens : ScanM Unit := do
  let rec go : Nat → ScanM Unit
    | 0 => pure ()
    | n + 1 => do
      let s ← get
      if s.queue.length ≥ 3 then
        match headKey s with
        | none => return
        | some i =>
          let k := s.keys.getD i default
          let (valid, k) ← keyStillValid k
          modify fun t => { t with keys := t.keys.set i k }
          if !valid then return
      if s.ended then return
      fetchNextToken
      go n
  go (4 * (← get).left + 16)

end Scan

end Yaml

end QuoteKeeper
