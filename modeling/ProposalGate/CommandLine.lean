import ProposalGate.Decimal.Natural

/-!
# The command line

Arguments are read from left to right. An option takes its value from behind an equals sign or
from the next argument, which must not look like an option itself; everything but the verbosity
may be given once. A request for help or for the version is granted as soon as it is reached. What
the command line leaves open is taken from the environment, and then from the defaults.
-/

namespace ProposalGate.CommandLine

/-- The options with a value. -/
inductive Key where
  /-- the repository -/
  | repo
  /-- the number of the pull request -/
  | number
  /-- the event that led to the run -/
  | eventPath
  /-- the host of the service -/
  | host
  /-- the login of the bot -/
  | bot
  /-- how many files may be judged at the same time -/
  | concurrency
  /-- how many seconds a call may take -/
  | timeout
  deriving DecidableEq, Repr

/-- The options without a value. -/
inductive Switch where
  /-- only decide -/
  | dryRun
  /-- say more -/
  | verbose
  /-- tell about the options, or which version this is -/
  | information
  deriving DecidableEq, Repr

/-- The option with a value that a long name names. -/
def Key.ofName? : String → Option Key
  | "repo" => some .repo
  | "pr" => some .number
  | "event-path" => some .eventPath
  | "host" => some .host
  | "bot-login" => some .bot
  | "concurrency" => some .concurrency
  | "timeout-secs" => some .timeout
  | _ => none

/-- The option without a value that a long name names. -/
def Switch.ofName? : String → Option Switch
  | "dry-run" => some .dryRun
  | "verbose" => some .verbose
  | "help" | "version" => some .information
  | _ => none

/-- The option without a value that a letter names. -/
def Switch.ofLetter? : Char → Option Switch
  | 'v' => some .verbose
  | 'h' | 'V' => some .information
  | _ => none

/-- The environment variable that stands in for an option. -/
def Key.variable? : Key → Option String
  | .repo => some "GITHUB_REPOSITORY"
  | .number => some "PULL_NUMBER"
  | .eventPath => some "GITHUB_EVENT_PATH"
  | .bot => some "EIP_BOT_LOGIN"
  | .host | .concurrency | .timeout => none

/-- Whether a text can be the value of an option: numbers have to be numbers, and a path is not
empty. -/
def Key.accepts (key : Key) (value : String) : Bool :=
  match key with
  | .number | .concurrency | .timeout => (Decimal.word? value.toList).isSome
  | .eventPath => value ≠ ""
  | .repo | .host | .bot => true

/-- What has been given so far. -/
structure Given where
  /-- the options with their values -/
  values : List (Key × String)
  /-- whether only a decision is asked for -/
  dryRun : Bool
  deriving Repr

namespace Given

/-- The value of an option. -/
def value? (g : Given) (key : Key) : Option String :=
  (g.values.find? (·.1 = key)).map (·.2)

/-- One more option; it must not be given yet, and its value has to be one. -/
def add? (g : Given) (key : Key) (value : String) : Option Given :=
  if (g.value? key).isSome || !key.accepts value then none
  else some { g with values := (key, value) :: g.values }

end Given

/-- What a command line asks for. -/
inductive Answer (α : Type) where
  /-- a run -/
  | run (a : α)
  /-- help, or the version -/
  | information
  /-- nothing that can be done -/
  | misuse

/-- Takes a switch into account. -/
def Given.switch (g : Given) : Switch → Answer Given
  | .dryRun => if g.dryRun then .misuse else .run { g with dryRun := true }
  | .verbose => .run g
  | .information => .information

/-- Takes the letters behind a single hyphen into account. -/
def letters (g : Given) : List Char → Answer Given
  | [] => .run g
  | c :: rest =>
    match Switch.ofLetter? c with
    | none => .misuse
    | some switch =>
      match g.switch switch with
      | .run g => letters g rest
      | other => other

/-- What an argument looks like. -/
inductive Shape where
  /-- two hyphens, a name, and perhaps a value behind an equals sign -/
  | long (name : String) (value : Option String)
  /-- a hyphen and letters -/
  | short (cs : List Char)
  /-- two hyphens alone -/
  | stop
  /-- anything else -/
  | word

/-- The shape of an argument. -/
def shape (argument : String) : Shape :=
  match argument.toList with
  | ['-', '-'] => .stop
  | '-' :: '-' :: cs =>
    let name := String.ofList (cs.takeWhile (· ≠ '='))
    match cs.dropWhile (· ≠ '=') with
    | _ :: value => .long name (some (String.ofList value))
    | [] => .long name none
  | '-' :: c :: cs => .short (c :: cs)
  | _ => .word

/-- Whether an argument can be the value of the option before it. -/
def isValue (argument : String) : Bool :=
  match shape argument with
  | .word => true
  | _ => false

/-- Reads arguments from left to right. -/
def readFrom (g : Given) : List String → Answer Given
  | [] => .run g
  | argument :: rest =>
    match shape argument with
    | .word => .misuse
    | .stop => if rest.isEmpty then .run g else .misuse
    | .short cs =>
      match letters g cs with
      | .run g => readFrom g rest
      | other => other
    | .long name value =>
      match Switch.ofName? name, Key.ofName? name, value with
      | some _, _, some _ => .misuse
      | some switch, _, none =>
        match g.switch switch with
        | .run g => readFrom g rest
        | other => other
      | none, none, _ => .misuse
      | none, some key, some value =>
        match g.add? key value with
        | some g => readFrom g rest
        | none => .misuse
      | none, some key, none =>
        match rest with
        | [] => .misuse
        | value :: rest =>
          if !isValue value then .misuse
          else
            match g.add? key value with
            | some g => readFrom g rest
            | none => .misuse

/-- Takes the environment into account for an option that is not given. -/
def Given.complete? (environment : String → Option String) (g : Given) (key : Key) :
    Option Given :=
  if (g.value? key).isSome then some g
  else
    match key.variable?.bind environment with
    | some value => g.add? key value
    | none => some g

/-- What a run is to do. -/
structure Settings where
  /-- the reference to the repository -/
  repo : String
  /-- the number of the pull request -/
  number : Option Nat
  /-- the path of the event -/
  eventPath : Option String
  /-- the host of the service -/
  host : Option String
  /-- the login of the bot -/
  bot : Option String
  /-- how many files may be judged at the same time -/
  concurrency : Nat
  /-- how many seconds a call may take -/
  seconds : Nat
  /-- whether only a decision is asked for -/
  dryRun : Bool
  deriving DecidableEq, Repr

/-- How many files may be judged at the same time unless told otherwise. -/
def usualConcurrency : Nat := 8

/-- How many seconds a call may take unless told otherwise. -/
def usualSeconds : Nat := 30

/-- The number that an option has as its value. -/
def Given.number? (g : Given) (key : Key) : Option Nat :=
  (g.value? key).bind fun value => Decimal.word? value.toList

/-- The settings that were given; a run needs a repository. -/
def Given.settings? (g : Given) : Option Settings :=
  (g.value? .repo).map fun repo =>
    { repo := repo
      number := g.number? .number
      eventPath := g.value? .eventPath
      host := g.value? .host
      bot := g.value? .bot
      concurrency := (g.number? .concurrency).getD usualConcurrency
      seconds := (g.number? .timeout).getD usualSeconds
      dryRun := g.dryRun }

/-- The options that the environment may stand in for, in the order in which it is asked. -/
def fallbackKeys : List Key := [.repo, .number, .eventPath, .bot]

/-- The variables that stand in for options. -/
def variableNames : List String := fallbackKeys.filterMap Key.variable?

/-- What a command line asks for in an environment. -/
def read (environment : String → Option String) (arguments : List String) : Answer Settings :=
  match readFrom ⟨[], false⟩ arguments with
  | .information => .information
  | .misuse => .misuse
  | .run g =>
    match (fallbackKeys.foldlM (Given.complete? environment) g).bind Given.settings? with
    | some settings => .run settings
    | none => .misuse

/-- How the program is used. -/
def usage : String :=
  "usage: eip-bot [--repo OWNER/NAME] [--pr NUMBER] [--event-path FILE] [--host HOST]\n" ++
  "  [--bot-login LOGIN] [--concurrency N] [--timeout-secs N] [--dry-run] [-v]\n"

end ProposalGate.CommandLine
