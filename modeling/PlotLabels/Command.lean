import PlotLabels.Allocator
import PlotLabels.Pool.Decode
import PlotLabels.Json.Read
import PlotLabels.Logging.Settings
/-!
# The command line

The `plotnft` command names seeds or the plot NFTs of a wallet dump. Its options are
`--log-output-dest` and `--log-format` before the subcommand, and `--max-attempts` and
`--style` anywhere; an option's value follows it or is joined to it by `=`. The
subcommands are `resolve SEED…`, which prints `seed<TAB>label` per seed, and
`plot-nfts FILE`, which prints `launcher id<TAB>label<TAB>status` per record of a JSON array.
Both share one allocator, whose configuration is the environment's overrides of the default
with the options applied on top, then validated.

* `Invocation`, `parseArgs`: what a command line asks for.
* `Invocation.config`: the allocator configuration it gives.
* `resolveLines`, `plotNftLines`: the lines printed, and the error that stops them.
-/

namespace PlotLabels.Command

/-- What a command line asks to be done. -/
inductive Task where
  /-- Name each seed. -/
  | resolve (seeds : List String)
  /-- Name each plot NFT in a JSON file. -/
  | plotNfts (file : String)

/-- A parsed command line. -/
structure Invocation where
  logOutputDest : Logging.OutputDest := .stderr
  logFormat : Logging.LogFormat := .default
  maxAttempts : Option UInt32 := none
  style : Option Style := none
  task : Task

/-- Why a command line is refused. -/
inductive UsageError where
  | unknownOption (option : String)
  | missingValue (option : String)
  | invalidValue (option value reason : String)
  | missingSubcommand
  | unknownSubcommand (name : String)
  | missingArgument (name : String)
  | unexpectedArgument (arg : String)

/-- The words of a usage error. -/
def UsageError.message : UsageError → String
  | .unknownOption o => "unexpected argument '" ++ o ++ "' found"
  | .missingValue o => "a value is required for '" ++ o ++ "' but none was supplied"
  | .invalidValue o v reason => "invalid value '" ++ v ++ "' for '" ++ o ++ "': " ++ reason
  | .missingSubcommand => "'plotnft' requires a subcommand but one was not provided"
  | .unknownSubcommand n => "unrecognized subcommand '" ++ n ++ "'"
  | .missingArgument n => "the following required arguments were not provided: " ++ n
  | .unexpectedArgument a => "unexpected argument '" ++ a ++ "' found"

/-- The options read so far, the subcommand and its arguments. -/
structure Reading where
  inv : Invocation := { task := .resolve [] }
  subcommand : Option String := none
  positional : List String := []
  /-- Whether `--` has ended the options. -/
  literal : Bool := false

/-- An option's name and its joined value, if it was written `--name=value`. -/
def splitOption (arg : String) : String × Option String :=
  match arg.splitOn "=" with
  | [name] => (name, none)
  | name :: rest => (name, some ("=".intercalate rest))
  | [] => (arg, none)

/-- Apply an option with its value to what has been read. -/
def applyOption (r : Reading) (name value : String) : Except UsageError Reading :=
  if name = "--max-attempts" then
    match value.toNat? with
    | some n =>
      if n < UInt32.size then .ok { r with inv := { r.inv with maxAttempts := some n.toUInt32 } }
      else .error (.invalidValue name value "number too large to fit in target type")
    | none => .error (.invalidValue name value "invalid digit found in string")
  else if name = "--style" then
    match Style.ofName? value with
    | some st => .ok { r with inv := { r.inv with style := some st } }
    | none => .error (.invalidValue name value (NamingError.invalidConfig (.unknownStyle value)).message)
  else if name = "--log-format" ∧ r.subcommand.isNone then
    match Logging.LogFormat.read value with
    | .ok f => .ok { r with inv := { r.inv with logFormat := f } }
    | .error e => .error (.invalidValue name value e.message)
  else if name = "--log-output-dest" ∧ r.subcommand.isNone then
    .ok { r with inv := { r.inv with logOutputDest := Logging.OutputDest.read value } }
  else .error (.unknownOption name)

/-- Whether an option takes a value. -/
def takesValue (name : String) : Bool :=
  name = "--max-attempts" || name = "--style" || name = "--log-format" ||
    name = "--log-output-dest"

/-- Read the arguments one by one. -/
def readArgs (r : Reading) : List String → Except UsageError Reading
  | [] => .ok r
  | arg :: rest =>
    if !r.literal && arg = "--" then readArgs { r with literal := true } rest
    else if !r.literal && arg.startsWith "--" then
      let (name, joined) := splitOption arg
      if !takesValue name then .error (.unknownOption name)
      else
        match joined with
        | some v =>
          match applyOption r name v with
          | .ok r => readArgs r rest
          | .error e => .error e
        | none =>
          match rest with
          | v :: rest' =>
            match applyOption r name v with
            | .ok r => readArgs r rest'
            | .error e => .error e
          | [] => .error (.missingValue name)
    else if r.subcommand.isNone then readArgs { r with subcommand := some arg } rest
    else readArgs { r with positional := r.positional ++ [arg] } rest
termination_by args => args.length

/-- The invocation a command line asks for. -/
def parseArgs (args : List String) : Except UsageError Invocation := do
  let r ← readArgs {} args
  match r.subcommand with
  | none => throw .missingSubcommand
  | some "resolve" =>
    if r.positional.isEmpty then throw (.missingArgument "<SEEDS>...")
    pure { r.inv with task := .resolve r.positional }
  | some "plot-nfts" =>
    match r.positional with
    | [file] => pure { r.inv with task := .plotNfts file }
    | [] => throw (.missingArgument "<FILE>")
    | _ :: extra :: _ => throw (.unexpectedArgument extra)
  | some other => throw (.unknownSubcommand other)

/-- The configuration: the environment's overrides of the default, the options on top,
validated. -/
def Invocation.config (inv : Invocation) (lookup : String → Option String) :
    Except NamingError Config := do
  let c ← ({} : Config).withOverrides lookup
  let c := match inv.maxAttempts with
    | some n => { c with maxAttempts := n }
    | none => c
  let c := match inv.style with
    | some st => { c with style := st }
    | none => c
  c.validate
  pure c

/-- The lines `seed<TAB>label` for the seeds, up to the first that cannot be named, and the
error that stopped them. -/
def resolveLines (a : Allocator) : List String → List String × Option String
  | [] => ([], none)
  | seed :: rest =>
    match a.resolve seed with
    | .ok (l, a) =>
      let (lines, err) := resolveLines a rest
      ((seed ++ "\t" ++ l.text) :: lines, err)
    | .error e => ([], some e.message)

/-- The lines `launcher id<TAB>label<TAB>status` for the records, numbered from `index`, up
to the first that cannot be read or named, and the error that stopped them. -/
def recordLines (file : String) (a : Allocator) (index : Nat) :
    List Json.Value → List String × Option String
  | [] => ([], none)
  | v :: rest =>
    match Pool.PlotNft.fromReport v with
    | .error e =>
      ([], some ("Plot NFT record #" ++ toString index ++ " in " ++ Text.quote file ++
        " is malformed: " ++ e.message))
    | .ok n =>
      match n.name a with
      | .error e => ([], some e.message)
      | .ok (l, a) =>
        let (lines, err) := recordLines file a (index + 1) rest
        ((n.launcherId ++ "\t" ++ l.text ++ "\t" ++ n.status.text) :: lines, err)

/-- The lines printed for the contents of a plot NFT file, and the error that stops them. -/
def plotNftLines (file contents : String) (a : Allocator) : List String × Option String :=
  match Json.read contents with
  | .error _ => ([], some (Text.quote file ++ " is not valid JSON"))
  | .ok (.array records) => recordLines file a 0 records
  | .ok _ => ([], some ("Expected " ++ Text.quote file ++ " to hold a JSON array of plot NFT records"))

end PlotLabels.Command
