import KeyedGraph.CommandLine.Slot
import KeyedGraph.Text.Terminal

/-!
# Arguments of the command line

Arguments are read from left to right. The values of an option are checked when the next option
or operand settles it, so that an unknown argument is reported before a bad value right in front
of it.
-/

namespace KeyedGraph.CommandLine

/-- What the program is told to do. -/
inductive Task
  | check
  | read (table key : String) (fields : Option (List String))
  | scan (table start : String) (count : Nat) (fields : Option (List String))
  | insert (table key : String) (values : List (String × String))
  | update (table key : String) (values : List (String × String))
  | delete (table key : String)
deriving DecidableEq, Repr

/-- A command line that was understood. -/
structure Invocation where
  verbose : Bool
  config : Option String
  properties : List (String × String)
  task : Task
deriving DecidableEq, Repr

/-- Why a command line was not understood. -/
inductive UsageError
  | unexpectedArgument (argument : String)
  | unrecognizedCommand (name : String)
  | missingArguments
  | badValue (value : String) (slot : Slot) (cause : String)
  | missingValue (slot : Slot)
  | repeatedArgument (slot : Slot)
  | surplusValue (value : String) (slot : Slot)
  | missingCommand
  | nothingGiven
deriving DecidableEq, Repr

/-- What the program is for. -/
def programDescription : String :=
  "graphkv - Neo4j binding for key-value workload benchmarks"

/-- What is said about a command line that was not understood, for a terminal. What was given
shows in the colour of what is wrong. -/
def UsageError.message : UsageError → String
  | .unexpectedArgument argument =>
    "unexpected argument '" ++ Text.warning argument ++ "' found"
  | .unrecognizedCommand name => "unrecognized subcommand '" ++ Text.warning name ++ "'"
  | .missingArguments => "the following required arguments were not provided:"
  | .badValue value slot cause =>
    "invalid value '" ++ Text.warning value ++ "' for '" ++ slot.shown ++ "': " ++ cause
  | .missingValue slot =>
    "a value is required for '" ++ slot.shown ++ "' but none was supplied"
  | .repeatedArgument slot =>
    "the argument '" ++ slot.shown ++ "' cannot be used multiple times"
  | .surplusValue value slot =>
    "unexpected value '" ++ Text.warning value ++ "' for '" ++ slot.shown ++
      "' found; no more were expected"
  | .missingCommand => "'graphkv' requires a subcommand but one was not provided"
  | .nothingGiven => "no argument was given"

/-- The report on a command line that was not understood, for a terminal. -/
def UsageError.report (cause : UsageError) : String :=
  Text.bold "error:" ++ " " ++ cause.message ++ "\n\nFor more information, try '" ++
    Text.bold "--help" ++ "'."

/-- Why reading ends before the end of the arguments. -/
inductive Stop
  | usage (cause : UsageError)
  | help
  | version
deriving DecidableEq, Repr

/-! ### Settling -/

/-- The values of slots, in the order in which they were settled. -/
abbrev Given := List (Slot × List String)

/-- Whether a slot was filled. -/
def Given.has (given : Given) (slot : Slot) : Bool :=
  given.any fun g => g.1 = slot

/-- All values of a slot. -/
def Given.all (given : Given) (slot : Slot) : List String :=
  given.flatMap fun g => if g.1 = slot then g.2 else []

/-- The value of a slot, if it was filled. -/
def Given.one? (given : Given) (slot : Slot) : Option String :=
  (given.all slot).getLast?

/-- The first of some values that is at fault, and its fault. -/
def firstFault? (slot : Slot) : List String → Option (String × String)
  | [] => none
  | value :: rest =>
    match slot.fault? value with
    | some cause => some (value, cause)
    | none => firstFault? slot rest

/-- Takes over what the arguments gave a slot. -/
def settleSlot (slot : Slot) (arguments : List String) (given : Given) :
    Except UsageError Given :=
  if slot.kind != .toggle && arguments.isEmpty then .error (.missingValue slot)
  else if slot.kind != .repeated && given.has slot then .error (.repeatedArgument slot)
  else
    let values := arguments.flatMap slot.split
    match firstFault? slot values with
    | some (value, cause) => .error (.badValue value slot cause)
    | none => .ok (given ++ [(slot, values)])

/-- How far the reading of a level has come: what is settled, the slot that is being filled,
whether it waits for its value, whether only operands are left, and how many operands are
filled. -/
structure Reading where
  given : Given := []
  pending : Option (Slot × List String) := none
  awaiting : Bool := false
  onlyOperands : Bool := false
  filled : Nat := 0

namespace Reading

/-- Settles the slot that is being filled. -/
def settle (r : Reading) : Except UsageError Reading :=
  match r.pending with
  | none => .ok r
  | some (slot, arguments) =>
    (settleSlot slot arguments r.given).map fun given =>
      { r with given, pending := none, awaiting := false }

/-- Fills a slot at once. -/
def fill (r : Reading) (slot : Slot) (arguments : List String) : Except UsageError Reading := do
  let r ← r.settle
  let given ← settleSlot slot arguments r.given
  return { r with given, awaiting := false }

/-- Starts to fill an option with a value that is still to come. -/
def await (r : Reading) (slot : Slot) : Except UsageError Reading := do
  let r ← r.settle
  return { r with pending := some (slot, []), awaiting := true }

/-- Gives the option that waits for it its value. -/
def supply (r : Reading) (value : String) : Reading :=
  { r with
    pending := r.pending.map fun (slot, arguments) => (slot, arguments ++ [value])
    awaiting := false }

/-! ### Options and operands -/

/-- Meets an option, with the value that is attached to it. -/
def option (r : Reading) (slot : Slot) (attached : Option String) : Except Stop Reading :=
  match slot.kind, attached with
  | .help, none => (r.settle.mapError Stop.usage).bind fun _ => .error .help
  | .version, none => (r.settle.mapError Stop.usage).bind fun _ => .error .version
  | .toggle, none => (r.fill slot []).mapError Stop.usage
  | .toggle, some value | .help, some value | .version, some value =>
    .error (.usage (.surplusValue value slot))
  | _, some value => (r.fill slot [value]).mapError Stop.usage
  | _, none => (r.await slot).mapError Stop.usage

/-- Meets an option by its long name. -/
def longOption (level : Level) (r : Reading) (body : List Char) : Except Stop Reading :=
  let (name, behind) := body.span (· != '=')
  let name := String.ofList name
  match level.options.find? fun slot => slot.long? = some name with
  | none => .error (.usage (.unexpectedArgument ("--" ++ name)))
  | some slot => r.option slot (match behind with
    | [] => none
    | _ :: value => some (String.ofList value))

/-- Meets options by their short names. The value of one that takes a value may follow at
once. -/
def shortOptions (level : Level) (r : Reading) : List Char → Except Stop Reading
  | [] => .ok r
  | c :: rest =>
    match level.options.find? fun slot => slot.short? = some c with
    | none => .error (.usage (.unexpectedArgument (String.ofList ['-', c])))
    | some slot =>
      match slot.kind, rest with
      | .toggle, _ | .help, _ | .version, _ => do
        let r ← r.option slot none
        shortOptions level r rest
      | _, [] => r.option slot none
      | _, '=' :: value => r.option slot (some (String.ofList value))
      | _, value => r.option slot (some (String.ofList value))

/-- What is said about an operand for which there is no place. -/
def surplusOperand (level : Level) (r : Reading) (argument : String) : UsageError :=
  if level.commands.isEmpty || (r.onlyOperands && level.commands.contains argument) then
    .unexpectedArgument argument
  else .unrecognizedCommand argument

/-- Meets an operand. -/
def operand (level : Level) (r : Reading) (argument : String) : Except Stop Reading :=
  match level.operands[r.filled]? with
  | none => .error (.usage (r.surplusOperand level argument))
  | some slot =>
    match slot.kind, r.pending with
    | .repeated, some (filling, arguments) =>
      if filling = slot then .ok { r with pending := some (slot, arguments ++ [argument]) }
      else
        (r.settle.map fun r => { r with pending := some (slot, [argument]) }).mapError Stop.usage
    | .repeated, none => .ok { r with pending := some (slot, [argument]) }
    | _, _ =>
      (r.settle.map fun r =>
          { r with pending := some (slot, [argument]), filled := r.filled + 1 })
        |>.mapError Stop.usage

/-- Reads the arguments of a level, up to the name of a command. -/
def arguments (level : Level) (r : Reading) :
    List String → Except Stop (Reading × Option (String × List String))
  | [] => .ok (r, none)
  | argument :: rest =>
    if r.onlyOperands then do
      let r ← r.operand level argument
      arguments level r rest
    else if !r.awaiting && level.commands.contains argument then .ok (r, some (argument, rest))
    else
      match argument.toList with
      | ['-', '-'] => arguments level { r with onlyOperands := true } rest
      | '-' :: '-' :: body => do
        let r ← r.longOption level body
        arguments level r rest
      | '-' :: c :: cs => do
        let r ← r.shortOptions level (c :: cs)
        arguments level r rest
      | _ => do
        let r ← if r.awaiting then .ok (r.supply argument) else r.operand level argument
        arguments level r rest

end Reading

/-! ### Command lines -/

/-- The number of records that a scan returns at most if the command line does not say. -/
def standardCount : Nat := 10

/-- The pairs that a slot was given. -/
def Given.pairs (given : Given) (slot : Slot) : List (String × String) :=
  (given.all slot).filterMap fun value => (parsePair value).toOption

/-- The fields that were asked for. -/
def Given.fields? (given : Given) : Option (List String) :=
  if given.has .fields then some (given.all .fields) else none

/-- The count that was asked for. -/
def Given.count (given : Given) : Nat :=
  match given.one? .count with
  | some value => (Text.readNumeral value.toList).toOption.getD standardCount
  | none => standardCount

/-- The task of a command. -/
def taskOf (name : String) (given : Given) : Except UsageError Task :=
  match name, given.one? .table, given.one? .key, given.one? .start with
  | "check", _, _, _ => .ok .check
  | "read", some table, some key, _ => .ok (.read table key given.fields?)
  | "scan", some table, _, some start => .ok (.scan table start given.count given.fields?)
  | "insert", some table, some key, _ => .ok (.insert table key (given.pairs .values))
  | "update", some table, some key, _ => .ok (.update table key (given.pairs .values))
  | "delete", some table, some key, _ => .ok (.delete table key)
  | _, _, _, _ => .error .missingArguments

/-- Asks for help on a command: its name has to be known. -/
def helpOn : List String → Stop
  | [] => .help
  | name :: rest =>
    if !commandNames.contains name then .usage (.unrecognizedCommand name)
    else
      match rest with
      | [] => .help
      | other :: _ => .usage (.unrecognizedCommand other)

/-- Reads what stands behind a command's name. -/
def readCommand (name : String) (arguments : List String) : Except Stop (Given × Task) := do
  if name = "help" then .error (helpOn arguments)
  else
    let (r, _) ← Reading.arguments (commandLevel name) {} arguments
    let r ← r.settle.mapError Stop.usage
    let task ← (taskOf name r.given).mapError Stop.usage
    return (r.given, task)

/-- Puts what was given before and behind a command's name together. An option behind the name
replaces all that stood before it. -/
def invocationOf (outer inner : Given) (task : Task) : Invocation :=
  { verbose := outer.has .verbose || inner.has .verbose
    config := inner.one? .config <|> outer.one? .config
    properties := if inner.has .property then inner.pairs .property else outer.pairs .property
    task }

/-- Reads a command line. -/
def parse (arguments : List String) : Except Stop Invocation := do
  let (r, command) ← Reading.arguments outerLevel {} arguments
  match command with
  | some (name, rest) =>
    let (inner, task) ← readCommand name rest
    let r ← r.settle.mapError Stop.usage
    return invocationOf r.given inner task
  | none =>
    let r ← r.settle.mapError Stop.usage
    if r.given.isEmpty then .error (.usage .nothingGiven) else .error (.usage .missingCommand)

end KeyedGraph.CommandLine
