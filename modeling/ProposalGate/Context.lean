import ProposalGate.Command
import ProposalGate.CommandLine
import ProposalGate.Credential
import ProposalGate.Json.Reader
import ProposalGate.Repository
import ProposalGate.Rest.Service

/-!
# Getting ready for a run

What a run needs is found in this order: the repository, the number of the pull request, the
credential, and the address of the service. Whatever is wrong with the input is reported before
anyone looks for a credential.
-/

namespace ProposalGate

/-- What became of reading the file with an event. -/
inductive EventFile where
  /-- there is no such file -/
  | missing
  /-- there is a directory in its place -/
  | directory
  /-- it cannot be read for another reason -/
  | unreadable (why : String)
  /-- the bytes it holds -/
  | bytes (content : List UInt8)
  deriving DecidableEq, Repr

/-- Everything a run needs. -/
structure Context where
  /-- the repository -/
  repository : Repository
  /-- the number of the pull request -/
  number : Nat
  /-- the token to use -/
  token : Credential.Token
  /-- the login of the bot, if it is given -/
  bot : Option String
  /-- how the run is made -/
  options : Options
  deriving DecidableEq, Repr

/-- The service that a run uses. -/
def Context.service (c : Context) : Rest.Service :=
  { base := Rest.baseOf c.repository.host
    owner := c.repository.owner
    name := c.repository.name
    token := c.token.token
    bot := c.bot }

/-- What a run is asked for. -/
structure Demand where
  /-- the reference to the repository -/
  repo : String
  /-- the host given beside it -/
  host : Option String
  /-- the login of the bot, if it is given -/
  bot : Option String
  /-- the number of the pull request, if it is given -/
  number : Option Nat
  /-- the path of an event and what became of reading it -/
  event : Option (String × EventFile)
  /-- how the run is made -/
  options : Options

/-- What the settings of a command line ask for, where `read` says what became of reading a file. -/
def Demand.ofSettings (s : CommandLine.Settings) (read : String → EventFile) : Demand :=
  { repo := s.repo
    host := s.host
    bot := s.bot
    number := s.number
    event := s.eventPath.map fun path => (path, read path)
    options := Options.ofNumbers s.concurrency s.seconds }

namespace Context

/-- The text of an event. -/
def eventText (path : String) : EventFile → Except Error (List UInt8)
  | .missing => .error (.invalidInput (.unreadable path .missing))
  | .directory => .error (.invalidInput (.unreadable path .directory))
  | .unreadable why => .error (.invalidInput (.unreadable path (.other why)))
  | .bytes content =>
    if (Text.decode? content).isSome then .ok content
    else .error (.invalidInput (.unreadable path .notText))

/-- The number in an event: that of its pull request or, if that has none, its own. -/
def eventNumber? (event : Json.Value) : Option Nat :=
  ((event.at? ["pull_request", "number"]) <|> event.member? "number").bind Json.Value.natural?

/-- The number of the pull request that an event is about. -/
def numberOfEvent (path : String) (file : EventFile) : Except Error Nat := do
  let text ← eventText path file
  match Json.read text with
  | .error fault => .error (.invalidInput (.malformed path fault))
  | .ok event =>
    match eventNumber? event with
    | some n => .ok n
    | none => .error (.invalidInput (.noNumber path))

/-- The number of the pull request: the one given, or that of the event. -/
def numberOf (d : Demand) : Except Error Nat :=
  match d.number, d.event with
  | some n, _ => .ok n
  | none, some (path, file) => numberOfEvent path file
  | none, none => .error (.invalidInput .nothingGiven)

/-- What getting ready comes to, and the arguments of the helper program, if it was run. -/
structure Preparation where
  /-- the arguments of the helper program, if it was run -/
  arguments : Option (List String)
  /-- what the run needs -/
  result : Except Error Context

/-- Gets ready for a run. -/
def prepare (environment : String → Option String) (helper : List String → Credential.Outcome)
    (d : Demand) : Preparation :=
  match Repository.parse d.repo d.host with
  | .error e => ⟨none, .error e⟩
  | .ok repository =>
    match numberOf d with
    | .error e => ⟨none, .error e⟩
    | .ok number =>
      let search := Credential.find environment helper repository.host
      match search.result with
      | .error e => ⟨search.arguments, .error e⟩
      | .ok token =>
        if Rest.isAddress (Rest.baseOf repository.host) then
          ⟨search.arguments, .ok ⟨repository, number, token, d.bot, d.options⟩⟩
        else ⟨search.arguments, .error (.service .badHost)⟩

end Context

end ProposalGate
