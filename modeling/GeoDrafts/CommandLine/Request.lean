import GeoDrafts.Decimal.Reading

/-!
What a command line asks for, and the ways in which its arguments can be wrong. The arguments are
read from left to right. A value is checked when the next option or operand begins, so the first
fault in that order is the one that is reported.
-/

namespace GeoDrafts

inductive OutputFormat where
  | table
  | json
  deriving DecidableEq, Repr

inductive Action where
  | parse (file : String)
  | load (file : String) (projected : Bool)
  | fetch (url : String) (timeout : Option Nat)
  | importProject (file : String)
  | subdivide (file shapeName : String) (size : Option Float) (task : Option String)
  deriving DecidableEq, Repr

structure Request where
  action : Action
  format : OutputFormat
  verbosity : Nat
  deriving DecidableEq, Repr

/-- Why arguments are no request. Asking for help is one of the reasons. -/
inductive UsageError where
  | missingOperand
  | unknownArgument
  | unknownCommand
  | invalidValue
  | unreadableValue
  | repeatedOption
  | missingCommand
  | excessValue
  | help
  | helpForNothing
  | version
  deriving DecidableEq, Repr

def UsageError.message : UsageError → String
  | .missingOperand => "a required argument was not provided"
  | .unknownArgument => "unexpected argument"
  | .unknownCommand => "unrecognized subcommand"
  | .invalidValue => "invalid or missing value of an option"
  | .unreadableValue => "a value cannot be read"
  | .repeatedOption => "an option cannot be used multiple times"
  | .missingCommand => "a subcommand is required"
  | .excessValue => "unexpected value of an option"
  | .help | .helpForNothing =>
    "usage: tasker [-v] [-f table|json] parse|load|fetch|import|subdivide ARGUMENTS"
  | .version => "tasker 0.1.0"

/-- Help and the version end a program well when they were asked for. -/
def UsageError.exitCode : UsageError → Nat
  | .help | .version => 0
  | _ => 2

namespace CommandLine

inductive Command where
  | parse
  | load
  | fetch
  | importProject
  | subdivide
  deriving DecidableEq, Repr

def Command.ofName? : String → Option Command
  | "parse" => some .parse
  | "load" => some .load
  | "fetch" => some .fetch
  | "import" => some .importProject
  | "subdivide" => some .subdivide
  | _ => none

/-- Options that take a value. -/
inductive Setting where
  | format
  | timeout
  | shape
  | size
  | task
  deriving DecidableEq, Repr

/-- Options without a value. -/
inductive Switch where
  | verbose
  | projected
  | help
  | version
  deriving DecidableEq, Repr

inductive Opt where
  | setting (s : Setting)
  | switch (s : Switch)
  deriving DecidableEq, Repr

/-- The options before the command (`none`) and after it. -/
def longOption? (command : Option Command) (name : String) : Option Opt :=
  match name, command with
  | "verbose", _ => some (.switch .verbose)
  | "format", _ => some (.setting .format)
  | "help", _ => some (.switch .help)
  | "version", none => some (.switch .version)
  | "projected", some .load => some (.switch .projected)
  | "timeout", some .fetch => some (.setting .timeout)
  | "shape", some .subdivide => some (.setting .shape)
  | "size", some .subdivide => some (.setting .size)
  | "task", some .subdivide => some (.setting .task)
  | _, _ => none

def shortOption? (command : Option Command) (letter : Char) : Option Opt :=
  match letter, command with
  | 'v', _ => some (.switch .verbose)
  | 'f', _ => some (.setting .format)
  | 'h', _ => some (.switch .help)
  | 'V', none => some (.switch .version)
  | 'p', some .load => some (.switch .projected)
  | 's', some .subdivide => some (.setting .shape)
  | 't', some .subdivide => some (.setting .task)
  | _, _ => none

/-- What waits to be checked: an option, perhaps still without its value, or an operand. -/
inductive Pending where
  | setting (s : Setting) (value : Option String)
  | operand (value : String)
  deriving DecidableEq, Repr

/-- What has been read of the arguments before or after the command. -/
structure Progress where
  pending : Option Pending
  settings : List (Setting × String)
  operand : Option String
  verbosity : Nat
  projected : Bool
  /-- An operand was begun. -/
  operandBegun : Bool
  deriving DecidableEq, Repr

def Progress.start : Progress := ⟨none, [], none, 0, false, false⟩

def readFormat? : String → Option OutputFormat
  | "table" => some .table
  | "json" => some .json
  | _ => none

def checkValue (s : Setting) (value : String) : Except UsageError Unit :=
  match s with
  | .format => if (readFormat? value).isSome then .ok () else .error .invalidValue
  | .timeout =>
    if (Decimal.readNatural? value.toList).isSome then .ok () else .error .unreadableValue
  | .size => if (Decimal.readFloat? value.toList).isSome then .ok () else .error .unreadableValue
  | .shape => .ok ()
  | .task => .ok ()

/-- Sets an option that has no value yet. -/
def set (s : Setting) (value : String) (p : Progress) : Except UsageError Progress :=
  if p.settings.any fun e => e.1 = s then .error .repeatedOption
  else (checkValue s value).map fun _ => { p with settings := (s, value) :: p.settings }

/-- Checks what is pending. A file cannot have an empty name. -/
def settle (command : Option Command) (p : Progress) : Except UsageError Progress :=
  match p.pending with
  | none => .ok p
  | some (.setting _ none) => .error .invalidValue
  | some (.setting s (some value)) => set s value { p with pending := none }
  | some (.operand value) =>
    if value.isEmpty ∧ command ≠ some .fetch then .error .invalidValue
    else .ok { p with pending := none, operand := some value }

def turnOn (command : Option Command) (s : Switch) (p : Progress) :
    Except UsageError Progress := do
  let p ← settle command p
  match s with
  | .verbose => .ok { p with verbosity := p.verbosity + 1 }
  | .projected =>
    if p.projected then .error .repeatedOption else .ok { p with projected := true }
  | .help => .error .help
  | .version => .error .version

def beginSetting (command : Option Command) (s : Setting) (attached : Option String)
    (p : Progress) : Except UsageError Progress := do
  let p ← settle command p
  match attached with
  | some value => set s value p
  | none => .ok { p with pending := some (.setting s none) }

/-- Reads an argument after its two dashes: a name, perhaps with `=` and a value. -/
def readLong (command : Option Command) (cs : List Char) (p : Progress) :
    Except UsageError Progress :=
  let name := String.ofList (cs.takeWhile (· != '='))
  let attached :=
    match cs.dropWhile (· != '=') with
    | _ :: value => some (String.ofList value)
    | [] => none
  match longOption? command name, attached with
  | none, _ => .error .unknownArgument
  | some (.setting s), attached => beginSetting command s attached p
  | some (.switch _), some _ => .error .excessValue
  | some (.switch s), none => turnOn command s p

/-- Reads an argument after its single dash: letters, of which one that takes a value has the rest
as its value, perhaps after `=`. -/
def readShort (command : Option Command) : List Char → Progress → Except UsageError Progress
  | [], p => .ok p
  | letter :: rest, p =>
    match shortOption? command letter with
    | none => .error .unknownArgument
    | some (.switch s) => do readShort command rest (← turnOn command s p)
    | some (.setting s) =>
      match rest with
      | [] => beginSetting command s none p
      | '=' :: value => beginSetting command s (some (String.ofList value)) p
      | value => beginSetting command s (some (String.ofList value)) p

def Progress.awaitsValue (p : Progress) : Bool :=
  match p.pending with
  | some (.setting _ none) => true
  | _ => false

def Progress.supply (value : String) (p : Progress) : Progress :=
  match p.pending with
  | some (.setting s none) => { p with pending := some (.setting s (some value)) }
  | _ => p

def readOperand (command : Option Command) (argument : String) (p : Progress) :
    Except UsageError Progress :=
  if p.operandBegun then .error .unknownArgument
  else
    (settle command p).map fun p =>
      { p with pending := some (.operand argument), operandBegun := true }

/-- Reads an option or a value; `none` if the argument is neither. -/
def readOption? (command : Option Command) (argument : String) (p : Progress) :
    Option (Except UsageError Progress) :=
  match argument.toList with
  | '-' :: '-' :: name => some (readLong command name p)
  | '-' :: letter :: letters => some (readShort command (letter :: letters) p)
  | _ => if p.awaitsValue then some (.ok (p.supply argument)) else none

/-- Reads the arguments after the command. After `--` all are operands. -/
def readAfter (command : Command) : Bool → Progress → List String → Except UsageError Progress
  | _, p, [] => settle (some command) p
  | operandsOnly, p, argument :: arguments =>
    if !operandsOnly ∧ argument = "--" then readAfter command true p arguments
    else
      match if operandsOnly then none else readOption? (some command) argument p with
      | some (.error e) => .error e
      | some (.ok p) => readAfter command false p arguments
      | none =>
        match readOperand (some command) argument p with
        | .error e => .error e
        | .ok p => readAfter command operandsOnly p arguments

def Progress.value? (p : Progress) (s : Setting) : Option String :=
  (p.settings.find? fun e => e.1 = s).map (·.2)

def action (command : Command) (p : Progress) : Except UsageError Action :=
  match p.operand with
  | none => .error .missingOperand
  | some operand =>
    .ok <| match command with
    | .parse => .parse operand
    | .load => .load operand p.projected
    | .fetch =>
      .fetch operand ((p.value? .timeout).bind fun v => Decimal.readNatural? v.toList)
    | .importProject => .importProject operand
    | .subdivide =>
      .subdivide operand ((p.value? .shape).getD "square")
        ((p.value? .size).bind fun v => Decimal.readFloat? v.toList) (p.value? .task)

def readHelp : List String → UsageError
  | [] => .help
  | [topic] => if topic = "help" ∨ (Command.ofName? topic).isSome then .help else .unknownCommand
  | _ => .unknownCommand

/-- The request of the arguments before the command (`p`) and those after it. The format and the
verbosity may stand on both sides; after the command they count more. -/
def combine (p : Progress) (command : Command) (arguments : List String) :
    Except UsageError Request := do
  let q ← readAfter command false .start arguments
  let act ← action command q
  let p ← settle none p
  let format := ((q.value? .format).or (p.value? .format)).bind readFormat?
  .ok ⟨act, format.getD .table, if q.verbosity = 0 then p.verbosity else q.verbosity⟩

def readBefore : Bool → Progress → List String → Except UsageError Request
  | _, p, [] => do
    let p ← settle none p
    if p.settings.isEmpty ∧ p.verbosity = 0 then .error .helpForNothing
    else .error .missingCommand
  | operandsOnly, p, argument :: arguments =>
    if operandsOnly then
      if argument = "help" ∨ (Command.ofName? argument).isSome then .error .unknownArgument
      else .error .unknownCommand
    else if argument = "--" then readBefore true p arguments
    else
      match if p.awaitsValue then none else Command.ofName? argument with
      | some command => combine p command arguments
      | none =>
        if argument = "help" ∧ !p.awaitsValue then .error (readHelp arguments)
        else
          match readOption? none argument p with
          | some (.error e) => .error e
          | some (.ok p) => readBefore false p arguments
          | none => .error .unknownCommand

end CommandLine

def Request.ofArguments (arguments : List String) : Except UsageError Request :=
  CommandLine.readBefore false .start arguments

def Request.logLevel (r : Request) : String :=
  match r.verbosity with
  | 0 => "WARN"
  | 1 => "INFO"
  | 2 => "DEBUG"
  | _ => "TRACE"

end GeoDrafts
