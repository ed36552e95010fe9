import ReliableStream.Numeric.Reading
/-! # Command line options

    Every option takes a value, as the next argument or after an equals sign;
    options with a short form take it directly behind the letter, too. No
    option may be given twice, and nothing else may stand on the line.
    Arguments are read from left to right: the first one that is wrong, or
    that asks for the version, decides. -/

namespace ReliableStream.Cli

open Numeric

/-- What the command line can set. -/
structure Options where
  bytes : Nat := 100000
  mss : Nat := 1000
  buffer : Nat := 16000
  latencyMs : Nat := 10
  loss : Binary64 := .zero
  duplicate : Binary64 := .zero
  reorder : Binary64 := .zero
  corrupt : Binary64 := .zero
  seed : UInt64 := 1
  /-- Simulated seconds after which a run gives up. -/
  timeLimit : Nat := 600

/-- The options that take a value. -/
inductive OptionName where
  | bytes
  | mss
  | buffer
  | latencyMs
  | loss
  | duplicate
  | reorder
  | corrupt
  | seed
  | timeLimit
  deriving DecidableEq, Repr

/-- The option of a long form. -/
def OptionName.ofLong? : String → Option OptionName
  | "bytes" => some .bytes
  | "mss" => some .mss
  | "buffer" => some .buffer
  | "latency-ms" => some .latencyMs
  | "loss" => some .loss
  | "duplicate" => some .duplicate
  | "reorder" => some .reorder
  | "corrupt" => some .corrupt
  | "seed" => some .seed
  | "time-limit" => some .timeLimit
  | _ => none

/-- The option of a letter. -/
def OptionName.ofShort? : Char → Option OptionName
  | 'b' => some .bytes
  | 's' => some .seed
  | _ => none

/-- Sets an option from its text. Whole numbers have at most 64 bits. -/
def Options.set? (o : Options) (name : OptionName) (text : String) : Option Options :=
  let whole := readNatBelow? UInt64.size text
  let binary := readBinary64? text
  match name with
  | .bytes => whole.map fun bytes => { o with bytes }
  | .mss => whole.map fun mss => { o with mss }
  | .buffer => whole.map fun buffer => { o with buffer }
  | .latencyMs => whole.map fun latencyMs => { o with latencyMs }
  | .loss => binary.map fun loss => { o with loss }
  | .duplicate => binary.map fun duplicate => { o with duplicate }
  | .reorder => binary.map fun reorder => { o with reorder }
  | .corrupt => binary.map fun corrupt => { o with corrupt }
  | .seed => whole.map fun seed => { o with seed := UInt64.ofNat seed }
  | .timeLimit => whole.map fun timeLimit => { o with timeLimit }

/-- What a command line asks for. -/
inductive Request where
  | run (options : Options)
  | version
  | usageError

/-- What one argument is. -/
inductive Argument where
  /-- An option whose value is the next argument. -/
  | option (name : OptionName)
  /-- An option with its value. -/
  | setting (name : OptionName) (value : String)
  | version
  /-- The mark after which no option can follow. -/
  | endOfOptions
  | unknown
  deriving DecidableEq, Repr

/-- What a long argument without its two dashes is. -/
def Argument.ofLong (cs : List Char) : Argument :=
  let name := String.ofList (cs.takeWhile (· != '='))
  match OptionName.ofLong? name, cs.dropWhile (· != '=') with
  | some name, [] => .option name
  | some name, _ :: value => .setting name (String.ofList value)
  | none, rest => if name = "version" ∧ rest.isEmpty then .version else .unknown

/-- What an argument of one dash and letters is. -/
def Argument.ofShort : List Char → Argument
  | 'V' :: _ => .version
  | letter :: rest =>
    match OptionName.ofShort? letter, rest with
    | none, _ => .unknown
    | some name, [] => .option name
    | some name, '=' :: value => .setting name (String.ofList value)
    | some name, value => .setting name (String.ofList value)
  | [] => .unknown

/-- What an argument is. -/
def Argument.ofText (text : String) : Argument :=
  match text.toList with
  | ['-', '-'] => .endOfOptions
  | '-' :: '-' :: cs => .ofLong cs
  | '-' :: cs => .ofShort cs
  | _ => .unknown

/-- Whether an argument can be the value of the option before it. -/
def isValue (text : String) : Bool :=
  match text.toList with
  | '-' :: _ :: _ => false
  | _ => true

/-- Reads the arguments that follow some that set `options`. -/
def readArguments (options : Options) (given : List OptionName) : List String → Request
  | [] => .run options
  | text :: rest =>
    match Argument.ofText text with
    | .version => .version
    -- Nothing may follow, because nothing but options is understood.
    | .endOfOptions => if rest.isEmpty then .run options else .usageError
    | .unknown => .usageError
    | .setting name value =>
      match options.set? name value with
      | some options =>
        -- An option given twice is as wrong as one that cannot be read.
        if given.contains name then .usageError else readArguments options (name :: given) rest
      | none => .usageError
    | .option name =>
      match rest with
      | value :: rest =>
        match options.set? name value with
        | some options =>
          if given.contains name || !isValue value then .usageError
          else readArguments options (name :: given) rest
        | none => .usageError
      | [] => .usageError

/-- What a command line asks for. -/
def Request.ofArguments (arguments : List String) : Request := readArguments {} [] arguments

end ReliableStream.Cli
