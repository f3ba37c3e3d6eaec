import QuoteKeeper.Number.Literal
import QuoteKeeper.Time.Reading
/-
  QuoteKeeper.Cli.Flags — the flags a command takes, read from its arguments, and its usage.

  1. Grammar. Arguments are read in order. One that is `-` alone or does not start with `-`
     ends the flags and is kept with the rest; `--` ends them and is dropped. A flag is
     `-name` or `--name`, with `=value` after the name or, for a flag that is not a switch,
     its value as the next argument. A name that is empty or starts with `-` or `=` is `bad
     flag syntax: <argument>`.
  2. Values. A switch takes no value unless one follows `=`; every other flag needs one (`flag
     needs an argument: -<name>`). Text is taken as given; switches, integers and real numbers
     read as Number.Literal says, durations as Time.Reading says. A value that does not read
     is `invalid value "<value>" for flag -<name>: parse error`, or `...: value out of range`
     for a number too large; for a switch, `invalid boolean value "<value>" for -<name>:
     parse error`. A flag given twice keeps its last value.
  3. A name that is not defined is `flag provided but not defined: -<name>`, except `h` and
     `help`, which ask for the usage.
  4. Usage: `Usage of <command>:`, then each flag in name order, `  -<name>` and the kind of
     its value (none for a switch), then on a line of its own, after four spaces and a tab,
     its help, with ` (default <value>)` when the default is not the kind's zero, a text
     default between quotes.
-/

namespace QuoteKeeper

namespace Cli

/-- A flag's value. -/
inductive FlagValue where
  | text (s : String)
  | switch (b : Bool)
  | integer (i : Int)
  | real (x : Float)
  | duration (ns : Int)
  deriving Inhabited

/-- A flag a command defines, with its help and its default. -/
structure FlagSpec where
  name : String
  help : String
  default : FlagValue

/-- Real numbers in usage text: positional from `1e-4` up to `1e6`, exponents of at least two
digits. -/
def realLayout : FloatLayout := ⟨-4, 6, 2⟩

namespace FlagValue

/-- The word for the kind of value in usage text. -/
def label : FlagValue → String
  | .text _ => "string"
  | .switch _ => ""
  | .integer _ => "int"
  | .real _ => "float"
  | .duration _ => "duration"

/-- The value as usage text writes it. -/
def render : FlagValue → String
  | .text s => s
  | .switch b => if b then "true" else "false"
  | .integer i => intText i
  | .real x =>
    if x.isNaN then "NaN" else if x.isInf then (if x > 0 then "+Inf" else "-Inf")
    else Float.layoutText realLayout x
  | .duration d => Duration.text d

/-- Whether the value is its kind's zero, which usage text leaves unsaid. -/
def isZero (v : FlagValue) : Bool :=
  match v with
  | .text s => s.isEmpty
  | .switch b => !b
  | .integer i => i == 0
  | .real _ => v.render == "0"
  | .duration d => d == 0

/-- A value of the same kind read from text, or the reason it does not read. -/
def reread (kind : FlagValue) (s : String) : Except String FlagValue :=
  let problem : Literal.Problem → String
    | .malformed => "parse error"
    | .range => "value out of range"
  match kind with
  | .text _ => .ok (.text s)
  | .switch _ => match Literal.truth? s with
    | some b => .ok (.switch b)
    | none => .error "parse error"
  | .integer _ => match Literal.int64? s with
    | .ok i => .ok (.integer i)
    | .error p => .error (problem p)
  | .real _ => match Literal.float? s with
    | .ok x => .ok (.real x)
    | .error p => .error (problem p)
  | .duration _ => match Duration.ofText? s with
    | .ok d => .ok (.duration d)
    | .error _ => .error "parse error"

end FlagValue

/-- Why the arguments do not read, or the usage was asked for. -/
inductive FlagError where
  | help
  | malformedFlag (arg : String)
  | undefined (name : String)
  | missingValue (name : String)
  | badSwitch (value name : String)
  | badValue (value name reason : String)

/-- The line that says what went wrong; none when the usage was asked for. -/
def FlagError.message? : FlagError → Option String
  | .help => none
  | .malformedFlag a => some ("bad flag syntax: " ++ a)
  | .undefined n => some ("flag provided but not defined: -" ++ n)
  | .missingValue n => some ("flag needs an argument: -" ++ n)
  | .badSwitch v n => some ("invalid boolean value " ++ Text.quoted v ++ " for -" ++ n ++ ": parse error")
  | .badValue v n r => some ("invalid value " ++ Text.quoted v ++ " for flag -" ++ n ++ ": " ++ r)

/-- Flags as read: every default and then each value given, in order, and the arguments after
the flags. -/
structure Flags where
  given : List (String × FlagValue)
  rest : List String

/-- A flag's name and value, if `body` (an argument without its dashes) carries one. -/
def splitValue (body : List Char) : String × Option String :=
  match body with
  | [] => ("", none)
  | c :: cs =>
    let name := c :: cs.takeWhile (· != '=')
    match cs.dropWhile (· != '=') with
    | _ :: value => (String.ofList name, some (String.ofList value))
    | [] => (String.ofList name, none)

/-- Reads the flags at the front of `args`, after those already `given`. -/
def readFlags (specs : List FlagSpec) (given : List (String × FlagValue)) :
    List String → Except FlagError Flags
  | [] => .ok ⟨given, []⟩
  | arg :: more =>
    match arg.toList with
    | '-' :: c :: cs =>
      if c == '-' && cs.isEmpty then .ok ⟨given, more⟩
      else
        let body := if c == '-' then cs else c :: cs
        match body with
        | [] | '-' :: _ | '=' :: _ => .error (.malformedFlag arg)
        | _ =>
          let (name, value?) := splitValue body
          match specs.find? (·.name == name) with
          | none => .error (if name == "help" || name == "h" then .help else .undefined name)
          | some spec =>
            match spec.default, value? with
            | .switch _, none => readFlags specs (given ++ [(name, .switch true)]) more
            | .switch _, some v =>
              match spec.default.reread v with
              | .ok x => readFlags specs (given ++ [(name, x)]) more
              | .error _ => .error (.badSwitch v name)
            | _, some v =>
              match spec.default.reread v with
              | .ok x => readFlags specs (given ++ [(name, x)]) more
              | .error r => .error (.badValue v name r)
            | _, none =>
              match more with
              | [] => .error (.missingValue name)
              | v :: after =>
                match spec.default.reread v with
                | .ok x => readFlags specs (given ++ [(name, x)]) after
                | .error r => .error (.badValue v name r)
    | _ => .ok ⟨given, arg :: more⟩

/-- The flags of `args` for a command defining `specs`. -/
def parse (specs : List FlagSpec) (args : List String) : Except FlagError Flags :=
  readFlags specs (specs.map fun s => (s.name, s.default)) args

namespace Flags

/-- A flag's value: the last one given, or its default. -/
def value (f : Flags) (name : String) : FlagValue := (f.given.reverse.lookup name).getD (.text "")

def text (f : Flags) (name : String) : String :=
  match f.value name with
  | .text s => s
  | _ => ""

def switch (f : Flags) (name : String) : Bool :=
  match f.value name with
  | .switch b => b
  | _ => false

def integer (f : Flags) (name : String) : Int :=
  match f.value name with
  | .integer i => i
  | _ => 0

def real (f : Flags) (name : String) : Float :=
  match f.value name with
  | .real x => x
  | _ => 0

def duration (f : Flags) (name : String) : Int :=
  match f.value name with
  | .duration d => d
  | _ => 0

end Flags

/-- The usage lines of one flag. -/
def FlagSpec.usageLines (s : FlagSpec) : List String :=
  let label := s.default.label
  let head := "  -" ++ s.name ++ (if label.isEmpty then "" else " " ++ label)
  let default := if s.default.isZero then ""
    else match s.default with
      | .text t => " (default " ++ Text.quoted t ++ ")"
      | v => " (default " ++ v.render ++ ")"
  let help := "\n    \t".intercalate (s.help.splitOn "\n") ++ default
  if head.utf8ByteSize ≤ 4 then (head ++ "\t" ++ help).splitOn "\n"
  else head :: ("    \t" ++ help).splitOn "\n"

/-- The usage of a command: its name, then its flags in name order. -/
def usage (command : String) (specs : List FlagSpec) : List String :=
  ("Usage of " ++ command ++ ":") ::
    (specs.mergeSort fun a b => decide (a.name ≤ b.name)).flatMap FlagSpec.usageLines

end Cli

end QuoteKeeper
