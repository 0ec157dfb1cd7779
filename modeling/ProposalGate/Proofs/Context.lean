import ProposalGate.Context
import ProposalGate.Proofs.Credential
import ProposalGate.Proofs.Json
import ProposalGate.Proofs.Repository
import ProposalGate.Proofs.Text.Utf8

/-!
# Getting ready in order

Getting ready can end in five ways (`Context.Ends`), and which one it is depends on the repository
first, then on the number and only then on the credential. The number is the one a demand names
(`Context.numberOf_eq_ok_iff`); that it fits into a word is a fact about reading JSON. An event file
counts as JSON if `Json.read` reads it, so nesting beyond its limit is malformed.

Getting ready is a function of the environment and the helper program, so that neither was consulted
says that the outcome is the same for all of them (`Context.exists_prepare_eq`), and that only two
variables were says that the outcome is the same for all that agree on them
(`Context.prepare_congr`). Everything together is `Context.prepare_orderly`.
-/

namespace ProposalGate

variable {d : Demand} {n : Nat}

/-! ## The number -/

/-- Whether an event names a pull request: by the number of its pull request or, if there is none, by
its own. -/
inductive EventNames (event : Json.Value) (n : Nat) : Prop where
  /-- its pull request has the number -/
  | pullRequest : event.at? ["pull_request", "number"] = some (.number (.natural n)) →
    n < Decimal.wordLimit → EventNames event n
  /-- it has the number itself -/
  | own : event.at? ["pull_request", "number"] = none →
    event.member? "number" = some (.number (.natural n)) → n < Decimal.wordLimit →
      EventNames event n

/-- Whether a demand names a pull request: by its number or, if none is given, by an event whose file
is a text and holds a value. -/
inductive Demand.Names (d : Demand) (n : Nat) : Prop where
  /-- the number is given -/
  | given : d.number = some n → d.Names n
  /-- the event names it -/
  | event {path : String} {text : List Char} {event : Json.Value} : d.number = none →
    d.event = some (path, .bytes (Text.utf8 text)) → Json.read (Text.utf8 text) = .ok event →
      EventNames event n → d.Names n

namespace Context

/-- The number read from an event is the one it names. A number that was read fits into a word, so
the bound is no further condition. -/
theorem eventNumber?_eq_some_iff {event : Json.Value} (h : event.Bounded) :
    eventNumber? event = some n ↔ EventNames event n := by
  rw [eventNumber?]
  constructor
  · intro hn
    obtain ⟨v, hv, hnatural⟩ := Option.bind_eq_some_iff.1 hn
    cases hpull : event.at? ["pull_request", "number"] with
    | some w =>
      rw [hpull] at hv
      obtain rfl : w = v := Option.some.inj hv
      exact .pullRequest (hpull.trans (congrArg some (Json.Value.natural?_eq_some_iff.1 hnatural)))
        ((h.at? hpull).lt hnatural)
    | none =>
      rw [hpull] at hv
      exact .own hpull (hv.trans (congrArg some (Json.Value.natural?_eq_some_iff.1 hnatural)))
        ((h.member? hv).lt hnatural)
  · rintro (⟨hpull, -⟩ | ⟨hpull, hown, -⟩)
    · rw [hpull]
      rfl
    · rw [hpull, hown]
      rfl

/-- A file can be read exactly if it holds the bytes of a text. -/
theorem eventText_eq_ok_iff {path : String} {file : EventFile} {content : List UInt8} :
    eventText path file = .ok content ↔
      file = .bytes content ∧ ∃ text, content = Text.utf8 text := by
  simp only [← Text.decode?_eq_some_iff, ← Option.isSome_iff_exists]
  cases file with
  | missing => simp [eventText]
  | directory => simp [eventText]
  | unreadable why => simp [eventText]
  | bytes held =>
    simp only [eventText, EventFile.bytes.injEq]
    split
    · next htext =>
      constructor
      · rintro ⟨⟩
        exact ⟨rfl, htext⟩
      · rintro ⟨rfl, -⟩
        rfl
    · next htext =>
      constructor
      · rintro ⟨⟩
      · rintro ⟨rfl, htext'⟩
        exact absurd htext' htext

/-- Whatever is wrong with an event file is wrong with the input. -/
theorem eventText_error {path : String} {file : EventFile} {e : Error}
    (h : eventText path file = .error e) : ∃ fault, e = .invalidInput fault := by
  cases file with
  | missing => exact ⟨_, (Except.error.inj h).symm⟩
  | directory => exact ⟨_, (Except.error.inj h).symm⟩
  | unreadable why => exact ⟨_, (Except.error.inj h).symm⟩
  | bytes content =>
    rw [eventText] at h
    split at h
    · cases h
    · exact ⟨_, (Except.error.inj h).symm⟩

theorem numberOfEvent_of_text {path : String} {file : EventFile} {content : List UInt8}
    (h : eventText path file = .ok content) : numberOfEvent path file =
      match Json.read content with
      | .error fault => .error (.invalidInput (.malformed path fault))
      | .ok event =>
        match eventNumber? event with
        | some n => .ok n
        | none => .error (.invalidInput (.noNumber path)) := by
  rw [numberOfEvent, h]
  rfl

theorem numberOfEvent_of_error {path : String} {file : EventFile} {e : Error}
    (h : eventText path file = .error e) : numberOfEvent path file = .error e := by
  rw [numberOfEvent, h]
  rfl

/-- An event file gives a number exactly if it holds a text that is read as an event with that
number. -/
theorem numberOfEvent_eq_ok_iff {path : String} {file : EventFile} :
    numberOfEvent path file = .ok n ↔ ∃ text event, file = .bytes (Text.utf8 text) ∧
      Json.read (Text.utf8 text) = .ok event ∧ EventNames event n := by
  constructor
  · intro h
    cases hcontent : eventText path file with
    | error e =>
      rw [numberOfEvent_of_error hcontent] at h
      cases h
    | ok content =>
      obtain ⟨hfile, text, rfl⟩ := eventText_eq_ok_iff.1 hcontent
      rw [numberOfEvent_of_text hcontent] at h
      split at h
      · cases h
      · next event hread =>
        split at h
        · next number hnumber =>
          obtain rfl := Except.ok.inj h
          exact ⟨text, event, hfile, hread,
            (eventNumber?_eq_some_iff (Json.bounded_of_read hread)).1 hnumber⟩
        · cases h
  · rintro ⟨text, event, hfile, hread, hnames⟩
    have hnumber := (eventNumber?_eq_some_iff (Json.bounded_of_read hread)).2 hnames
    simp only [numberOfEvent_of_text (eventText_eq_ok_iff.2 ⟨hfile, text, rfl⟩), hread, hnumber]

/-- An event file without a number is wrong input, whether it cannot be read, is malformed or names
nothing. -/
theorem numberOfEvent_error {path : String} {file : EventFile} {e : Error}
    (h : numberOfEvent path file = .error e) : ∃ fault, e = .invalidInput fault := by
  cases hcontent : eventText path file with
  | error e' =>
    rw [numberOfEvent_of_error hcontent] at h
    obtain rfl := Except.error.inj h
    exact eventText_error hcontent
  | ok content =>
    rw [numberOfEvent_of_text hcontent] at h
    split at h
    · exact ⟨_, (Except.error.inj h).symm⟩
    · split at h
      · cases h
      · exact ⟨_, (Except.error.inj h).symm⟩

/-- The number is the one the demand names. -/
theorem numberOf_eq_ok_iff : numberOf d = .ok n ↔ d.Names n := by
  rw [numberOf]
  constructor
  · intro h
    split at h
    · next number event hnumber =>
      exact .given (hnumber.trans (congrArg some (Except.ok.inj h)))
    · next path file hnumber hevent =>
      obtain ⟨text, event, rfl, hread, hnames⟩ := numberOfEvent_eq_ok_iff.1 h
      exact .event hnumber hevent hread hnames
    · cases h
  · rintro (hnumber | ⟨hnumber, hevent, hread, hnames⟩)
    · rw [hnumber]
    · rw [hnumber, hevent]
      exact numberOfEvent_eq_ok_iff.2 ⟨_, _, rfl, hread, hnames⟩

/-- A demand without a number is wrong input. -/
theorem numberOf_error {e : Error} (h : numberOf d = .error e) :
    ∃ fault, e = .invalidInput fault := by
  rw [numberOf] at h
  split at h
  · cases h
  · exact numberOfEvent_error h
  · exact ⟨_, (Except.error.inj h).symm⟩

/-! ## The order -/

open Credential (IsIdle IsToken Token find offers)

variable {environment environment' : String → Option String}
  {helper helper' : List String → Credential.Outcome} {p : Preparation} {r : Repository} {e : Error}

/-- Without a repository nothing else is looked at. -/
theorem prepare_of_unparsed (h : Repository.parse d.repo d.host = .error e) :
    prepare environment helper d = ⟨none, .error e⟩ := by
  rw [prepare, h]

/-- Without a number no credential is looked for. -/
theorem prepare_of_unnumbered (h : Repository.parse d.repo d.host = .ok r)
    (hn : numberOf d = .error e) : prepare environment helper d = ⟨none, .error e⟩ := by
  rw [prepare, h]
  simp only [hn]

/-- With a repository and a number, the rest is up to the credential and the host. -/
theorem prepare_of_numbered (h : Repository.parse d.repo d.host = .ok r) (hn : numberOf d = .ok n) :
    prepare environment helper d =
      ⟨(find environment helper r.host).arguments,
        match (find environment helper r.host).result with
        | .error e => .error e
        | .ok token =>
          if Rest.isAddress (Rest.baseOf r.host) then .ok ⟨r, n, token, d.bot, d.options⟩
          else .error (.service .badHost)⟩ := by
  rw [prepare, h]
  simp only [hn]
  cases (find environment helper r.host).result with
  | error e => rfl
  | ok token =>
    simp only
    split <;> rfl

/-- How getting ready ends. -/
inductive Ends (environment : String → Option String) (helper : List String → Credential.Outcome)
    (d : Demand) : Preparation → Prop where
  /-- the text refers to no repository -/
  | unparsed : (∀ r, Repository.parse d.repo d.host ≠ .ok r) →
    Ends environment helper d ⟨none, .error (.invalidRepository (Text.trim d.repo))⟩
  /-- the demand names no pull request -/
  | unnamed {r : Repository} {fault : InputFault} : Repository.parse d.repo d.host = .ok r →
    (∀ n, ¬d.Names n) → Ends environment helper d ⟨none, .error (.invalidInput fault)⟩
  /-- nothing is offered as a token -/
  | unauthorised {r : Repository} {n : Nat} {fault : CredentialFault} :
    Repository.parse d.repo d.host = .ok r → d.Names n →
      (∀ offer ∈ offers environment helper r.host, IsIdle offer) →
        Ends environment helper d ⟨(find environment helper r.host).arguments, .error (.auth fault)⟩
  /-- the host is none -/
  | misplaced {r : Repository} {n : Nat} {token : String} :
    Repository.parse d.repo d.host = .ok r → d.Names n →
      IsToken (offers environment helper r.host) token →
        Ends environment helper d
          ⟨(find environment helper r.host).arguments, .error (.service .badHost)⟩
  /-- everything was found -/
  | ready {r : Repository} {n : Nat} {token : Token} :
    Repository.parse d.repo d.host = .ok r → d.Names n →
      IsToken (offers environment helper r.host) token.token →
        Ends environment helper d
          ⟨(find environment helper r.host).arguments, .ok ⟨r, n, token, d.bot, d.options⟩⟩

/-- Getting ready ends in one of these ways. -/
theorem ends (environment : String → Option String) (helper : List String → Credential.Outcome)
    (d : Demand) : Ends environment helper d (prepare environment helper d) := by
  cases hparse : Repository.parse d.repo d.host with
  | error e =>
    obtain ⟨rfl, -⟩ := Repository.parse_eq_error_iff.1 hparse
    rw [prepare_of_unparsed hparse]
    exact .unparsed fun r hr => by
      rw [hparse] at hr
      cases hr
  | ok r =>
    cases hnumber : numberOf d with
    | error e =>
      obtain ⟨fault, rfl⟩ := numberOf_error hnumber
      rw [prepare_of_unnumbered hparse hnumber]
      refine .unnamed hparse fun n hnames => ?_
      rw [numberOf_eq_ok_iff.2 hnames] at hnumber
      cases hnumber
    | ok n =>
      have hnames := numberOf_eq_ok_iff.1 hnumber
      rw [prepare_of_numbered hparse hnumber]
      rcases Credential.find_cases environment helper r.host with
        ⟨token, hresult, htoken⟩ | ⟨fault, hresult, hidle⟩
      · simp only [hresult]
        split
        · exact .ready hparse hnames htoken
        · exact .misplaced hparse hnames htoken
      · simp only [hresult]
        exact .unauthorised hparse hnames hidle

/-- The repository is at fault in the first of the five ways only. -/
theorem Ends.unparsed_iff (h : Ends environment helper d p) :
    (∃ text, p.result = .error (.invalidRepository text)) ↔
      ∀ r, Repository.parse d.repo d.host ≠ .ok r := by
  cases h with
  | unparsed hnone => exact iff_of_true ⟨_, rfl⟩ hnone
  | unnamed hr => exact iff_of_false (fun ⟨_, h⟩ => nomatch h) fun hnone => hnone _ hr
  | unauthorised hr => exact iff_of_false (fun ⟨_, h⟩ => nomatch h) fun hnone => hnone _ hr
  | misplaced hr => exact iff_of_false (fun ⟨_, h⟩ => nomatch h) fun hnone => hnone _ hr
  | ready hr => exact iff_of_false (fun ⟨_, h⟩ => nomatch h) fun hnone => hnone _ hr

/-- The input is at fault in the second way only. -/
theorem Ends.unnamed_iff (h : Ends environment helper d p) :
    (∃ fault, p.result = .error (.invalidInput fault)) ↔
      (∃ r, Repository.parse d.repo d.host = .ok r) ∧ ∀ n, ¬d.Names n := by
  cases h with
  | unparsed hnone => exact iff_of_false (fun ⟨_, h⟩ => nomatch h) fun ⟨⟨r, hr⟩, _⟩ => hnone r hr
  | unnamed hr hnone => exact iff_of_true ⟨_, rfl⟩ ⟨⟨_, hr⟩, hnone⟩
  | unauthorised _ hn => exact iff_of_false (fun ⟨_, h⟩ => nomatch h) fun hnone => hnone.2 _ hn
  | misplaced _ hn => exact iff_of_false (fun ⟨_, h⟩ => nomatch h) fun hnone => hnone.2 _ hn
  | ready _ hn => exact iff_of_false (fun ⟨_, h⟩ => nomatch h) fun hnone => hnone.2 _ hn

/-- The credential is at fault in the third way only, which takes a repository and a number. -/
theorem Ends.unauthorised_iff (h : Ends environment helper d p)
    (hr : Repository.parse d.repo d.host = .ok r) (hn : d.Names n) :
    (∃ fault, p.result = .error (.auth fault)) ↔
      ∀ offer ∈ offers environment helper r.host, IsIdle offer := by
  cases h with
  | unparsed hnone => exact absurd hr (hnone r)
  | unnamed _ hnone => exact absurd hn (hnone n)
  | unauthorised hr' _ hidle =>
    obtain rfl := Except.ok.inj (hr.symm.trans hr')
    exact iff_of_true ⟨_, rfl⟩ hidle
  | misplaced hr' _ htoken =>
    obtain rfl := Except.ok.inj (hr.symm.trans hr')
    exact iff_of_false (fun ⟨_, h⟩ => nomatch h) htoken.not_idle
  | ready hr' _ htoken =>
    obtain rfl := Except.ok.inj (hr.symm.trans hr')
    exact iff_of_false (fun ⟨_, h⟩ => nomatch h) htoken.not_idle

/-- What a run is given is what the demand names, and a token that was offered. -/
theorem Ends.token {c : Context} (h : Ends environment helper d p) (hc : p.result = .ok c) :
    Repository.parse d.repo d.host = .ok c.repository ∧ d.Names c.number ∧
      IsToken (offers environment helper c.repository.host) c.token.token := by
  cases h with
  | ready hr hn htoken =>
    obtain rfl := Except.ok.inj hc
    exact ⟨hr, hn, htoken⟩
  | _ => cases hc

/-- The helper is run in the last three ways only, for the host of the repository, and where no
variable offers a token. -/
theorem Ends.idle {arguments : List String} (h : Ends environment helper d p)
    (harguments : p.arguments = some arguments) :
    ∃ r n, Repository.parse d.repo d.host = .ok r ∧ d.Names n ∧
      arguments = Credential.helperArguments r.host ∧
        ∀ name ∈ Credential.variableNames, IsIdle (environment name) := by
  cases h with
  | unparsed => cases harguments
  | unnamed => cases harguments
  | unauthorised hr hn => exact ⟨_, _, hr, hn, Credential.idle_of_arguments harguments⟩
  | misplaced hr hn => exact ⟨_, _, hr, hn, Credential.idle_of_arguments harguments⟩
  | ready hr hn => exact ⟨_, _, hr, hn, Credential.idle_of_arguments harguments⟩

/-- Nothing matters but the two variables and the helper where it is run. -/
theorem prepare_congr
    (henvironment : ∀ name ∈ Credential.variableNames, environment' name = environment name)
    (hhelper : ∀ arguments ∈ (prepare environment helper d).arguments,
      helper' arguments = helper arguments) :
    prepare environment' helper' d = prepare environment helper d := by
  cases hparse : Repository.parse d.repo d.host with
  | error e => rw [prepare_of_unparsed hparse, prepare_of_unparsed hparse]
  | ok r =>
    cases hnumber : numberOf d with
    | error e =>
      rw [prepare_of_unnumbered hparse hnumber, prepare_of_unnumbered hparse hnumber]
    | ok n =>
      rw [prepare_of_numbered hparse hnumber] at hhelper ⊢
      rw [prepare_of_numbered hparse hnumber, Credential.find_congr henvironment hhelper]

/-- What is wrong with the input is found whatever is offered, and without running the helper. -/
theorem exists_prepare_eq (h : ∀ r n, Repository.parse d.repo d.host = .ok r → ¬d.Names n) :
    ∃ e, ∀ environment helper, prepare environment helper d = ⟨none, .error e⟩ := by
  cases hparse : Repository.parse d.repo d.host with
  | error e => exact ⟨e, fun _ _ => prepare_of_unparsed hparse⟩
  | ok r =>
    cases hnumber : numberOf d with
    | error e => exact ⟨e, fun _ _ => prepare_of_unnumbered hparse hnumber⟩
    | ok n => exact absurd (numberOf_eq_ok_iff.1 hnumber) (h r n hparse)

/-- Getting ready in order: first the repository, then the number, then the credential. -/
structure Orderly (environment : String → Option String)
    (helper : List String → Credential.Outcome) (d : Demand) (p : Preparation) : Prop where
  /-- the reference is wrong exactly if it refers to nothing -/
  unparsed : (∃ text, p.result = .error (.invalidRepository text)) ↔
    ∀ r, Repository.parse d.repo d.host ≠ .ok r
  /-- otherwise the input is wrong exactly if no pull request is named -/
  unnamed : (∃ fault, p.result = .error (.invalidInput fault)) ↔
    (∃ r, Repository.parse d.repo d.host = .ok r) ∧ ∀ n, ¬d.Names n
  /-- where either is wrong the helper is not run, and it does not matter what it or any variable
  would have offered -/
  early : ((∃ text, p.result = .error (.invalidRepository text)) ∨
      ∃ fault, p.result = .error (.invalidInput fault)) →
    p.arguments = none ∧ ∀ environment' helper', prepare environment' helper' d = p
  /-- the helper is run for the host of the repository, and only if no variable offers a token -/
  idle : ∀ arguments, p.arguments = some arguments →
    ∃ r n, Repository.parse d.repo d.host = .ok r ∧ d.Names n ∧
      arguments = Credential.helperArguments r.host ∧
        ∀ name ∈ Credential.variableNames, IsIdle (environment name)
  /-- nothing matters but the two variables and the helper where it is run -/
  enough : ∀ environment' helper',
    (∀ name ∈ Credential.variableNames, environment' name = environment name) →
      (∀ arguments ∈ p.arguments, helper' arguments = helper arguments) →
        prepare environment' helper' d = p
  /-- the run is about what the demand names, and its token is the first that is offered, without
  blanks around it -/
  token : ∀ c, p.result = .ok c →
    Repository.parse d.repo d.host = .ok c.repository ∧ d.Names c.number ∧
      IsToken (offers environment helper c.repository.host) c.token.token ∧
        c.token.token ≠ "" ∧ Text.trim c.token.token = c.token.token
  /-- where the input is right, the credential is missing exactly if none is offered -/
  unauthorised : ∀ r n, Repository.parse d.repo d.host = .ok r → d.Names n →
    ((∃ fault, p.result = .error (.auth fault)) ↔
      ∀ offer ∈ offers environment helper r.host, IsIdle offer)

/-- **What is wrong with the input is reported before anyone looks for a credential.** -/
theorem prepare_orderly (environment : String → Option String)
    (helper : List String → Credential.Outcome) (d : Demand) :
    Orderly environment helper d (prepare environment helper d) := by
  have hends := ends environment helper d
  refine ⟨hends.unparsed_iff, hends.unnamed_iff, fun hwrong => ?_, fun _ => hends.idle,
    fun environment' helper' => prepare_congr, fun c hc => ?_,
    fun r n hr hn => hends.unauthorised_iff hr hn⟩
  · rw [hends.unparsed_iff, hends.unnamed_iff] at hwrong
    have hnone : ∀ r n, Repository.parse d.repo d.host = .ok r → ¬d.Names n := by
      rcases hwrong with hunparsed | hunnamed
      · exact fun r n hr => absurd hr (hunparsed r)
      · exact fun r n _ => hunnamed.2 n
    obtain ⟨e, he⟩ := exists_prepare_eq hnone
    rw [he]
    exact ⟨rfl, he⟩
  · obtain ⟨hr, hn, htoken⟩ := hends.token hc
    exact ⟨hr, hn, htoken, htoken.trimmed⟩

/-- A demand with an event that holds no number. -/
def nameless : Demand :=
  { repo := "git@ghe.corp.net:team/proposals.git", host := none, bot := none, number := none
    event := some ("event.json", .bytes [123, 125]), options := Options.ofNumbers 8 30 }

/-- An environment in which one variable is blank and the other is not set. -/
def idleEnvironment (name : String) : Option String :=
  if name = "GITHUB_TOKEN" then some " " else none

/-- A helper program that prints a token. -/
def printing (_ : List String) : Credential.Outcome :=
  .ended 0 [103, 104, 111, 95, 120, 10]

/-- The helper is left alone while there is no number, though it would print a token; once there is
one it is run. -/
theorem prepare_orderly_nameless :
    ((∃ fault, (prepare idleEnvironment printing nameless).result =
        .error (.invalidInput fault)) ∧
      (prepare idleEnvironment printing nameless).arguments = none) ∧
    ((prepare idleEnvironment printing { nameless with number := some 7 }).arguments =
        some ["auth", "token", "--hostname", "ghe.corp.net"] ∧
      ∀ name ∈ Credential.variableNames, IsIdle (idleEnvironment name)) := by
  have hinput : ∃ fault, (prepare idleEnvironment printing nameless).result =
      .error (.invalidInput fault) := ⟨.noNumber "event.json", by decide +kernel⟩
  have hrun : (prepare idleEnvironment printing { nameless with number := some 7 }).arguments =
      some ["auth", "token", "--hostname", "ghe.corp.net"] := by decide +kernel
  obtain ⟨-, -, -, -, -, hidle⟩ := (prepare_orderly _ _ _).idle _ hrun
  exact ⟨⟨hinput, ((prepare_orderly _ _ nameless).early (.inr hinput)).1⟩, hrun, hidle⟩

end Context

end ProposalGate
