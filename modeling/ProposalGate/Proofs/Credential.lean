import Mathlib.Data.List.Basic
import ProposalGate.Credential
import ProposalGate.Proofs.Text.Blank

/-!
# Where a token comes from

The variables and the helper program offer texts in order (`offers`), and the token is the first
offer that is not blank, without the blanks around it (`IsToken`). The search finds it, or there is
none and the search says so (`find_cases`). The helper is run only if no variable offers a token, and
the search depends on nothing but the two variables and the helper where it is run (`find_congr`).
-/

namespace ProposalGate.Credential

variable {environment environment' : String → Option String}
  {helper helper' : List String → Outcome} {host : Option String} {text token : String}

/-! ## Offers -/

theorem nonBlank?_eq_none_iff : nonBlank? text = none ↔ Text.isBlankText text = true := by
  rw [← Text.trim_eq_empty_iff]
  simp [nonBlank?]

/-- A token is what is left of a text that is not blank. -/
theorem nonBlank?_eq_some_iff :
    nonBlank? text = some token ↔ Text.isBlankText text = false ∧ token = Text.trim text := by
  rw [← Bool.not_eq_true, ← Text.trim_eq_empty_iff, nonBlank?, eq_comm (a := token)]
  split
  · next hempty => simp [hempty]
  · next hempty => simp [hempty]

/-- What the helper program offers: what it printed, if it ended well. -/
def Outcome.printed? : Outcome → Option String
  | .ended 0 output => some (String.ofList (Text.decodeLossy output))
  | _ => none

/-- What is offered as a token, in order. -/
def offers (environment : String → Option String) (helper : List String → Outcome)
    (host : Option String) : List (Option String) :=
  [environment "GITHUB_TOKEN", environment "GH_TOKEN", (helper (helperArguments host)).printed?]

/-- Whether an offer holds no token: it is missing or blank. -/
def IsIdle (offer : Option String) : Prop :=
  ∀ text ∈ offer, Text.isBlankText text = true

/-- Whether a token is the first one that is offered. -/
def IsToken (offers : List (Option String)) (token : String) : Prop :=
  ∃ before text after, offers = before ++ some text :: after ∧ (∀ offer ∈ before, IsIdle offer) ∧
    Text.isBlankText text = false ∧ token = Text.trim text

variable {offer : Option String} {os : List (Option String)}

theorem bind_nonBlank?_eq_none_iff : offer.bind nonBlank? = none ↔ IsIdle offer := by
  cases offer with
  | none => simp [IsIdle]
  | some text => simp [IsIdle, nonBlank?_eq_none_iff]

/-- Nothing is found exactly if nothing is offered. -/
theorem findSome?_eq_none_iff :
    os.findSome? (·.bind nonBlank?) = none ↔ ∀ offer ∈ os, IsIdle offer := by
  simp only [List.findSome?_eq_none_iff, bind_nonBlank?_eq_none_iff]

/-- The token is the first that is found. -/
theorem isToken_iff : IsToken os token ↔ os.findSome? (·.bind nonBlank?) = some token := by
  rw [List.findSome?_eq_some_iff]
  constructor
  · rintro ⟨before, text, after, hos, hidle, hblank, htoken⟩
    exact ⟨before, some text, after, hos, nonBlank?_eq_some_iff.2 ⟨hblank, htoken⟩,
      fun offer hoffer => bind_nonBlank?_eq_none_iff.2 (hidle offer hoffer)⟩
  · rintro ⟨before, offer, after, hos, hoffer, hidle⟩
    obtain ⟨text, rfl, htext⟩ := Option.bind_eq_some_iff.1 hoffer
    obtain ⟨hblank, htoken⟩ := nonBlank?_eq_some_iff.1 htext
    exact ⟨before, text, after, hos,
      fun offer hoffer => bind_nonBlank?_eq_none_iff.1 (hidle offer hoffer), hblank, htoken⟩

theorem IsToken.not_idle (h : IsToken os token) : ¬∀ offer ∈ os, IsIdle offer := by
  rw [← findSome?_eq_none_iff, isToken_iff.1 h]
  exact Option.some_ne_none token

/-- A token is not blank, and has no blanks around it. -/
theorem IsToken.trimmed (h : IsToken os token) : token ≠ "" ∧ Text.trim token = token := by
  obtain ⟨-, text, -, -, -, hblank, rfl⟩ := h
  refine ⟨fun hempty => ?_, Text.trim_trim text⟩
  rw [Text.trim_eq_empty_iff, hblank] at hempty
  cases hempty

/-! ## The search -/

/-- The variables come before what the helper prints. -/
theorem findSome?_offers : (offers environment helper host).findSome? (·.bind nonBlank?) =
    (fromEnvironment? environment).or
      ((helper (helperArguments host)).printed?.bind nonBlank?) := by
  rw [offers, fromEnvironment?, variableNames]
  simp only [List.findSome?_cons, List.findSome?_nil]
  cases (environment "GITHUB_TOKEN").bind nonBlank? <;>
    cases (environment "GH_TOKEN").bind nonBlank? <;>
      cases (helper (helperArguments host)).printed?.bind nonBlank? <;> rfl

/-- The helper program gives the token it offers, or an error if it offers none. -/
theorem ofHelper_cases (outcome : Outcome) :
    (∃ token, ofHelper outcome = .ok ⟨token, .helper⟩ ∧
      outcome.printed?.bind nonBlank? = some token) ∨
    ∃ fault, ofHelper outcome = .error (.auth fault) ∧ outcome.printed?.bind nonBlank? = none := by
  cases outcome with
  | missing => exact .inr ⟨_, rfl, rfl⟩
  | unavailable why => exact .inr ⟨_, rfl, rfl⟩
  | ended code output =>
    cases code with
    | succ code => exact .inr ⟨_, rfl, rfl⟩
    | zero =>
      simp only [Outcome.printed?, Option.bind_some]
      cases htext : nonBlank? (String.ofList (Text.decodeLossy output)) with
      | some token => exact .inl ⟨token, by simp [ofHelper, htext], rfl⟩
      | none => exact .inr ⟨.helperSilent, by simp [ofHelper, htext], rfl⟩

/-- The search finds the token that is offered, or says that none is. -/
theorem find_cases (environment : String → Option String) (helper : List String → Outcome)
    (host : Option String) :
    (∃ token, (find environment helper host).result = .ok token ∧
      IsToken (offers environment helper host) token.token) ∨
    ∃ fault, (find environment helper host).result = .error (.auth fault) ∧
      ∀ offer ∈ offers environment helper host, IsIdle offer := by
  simp only [isToken_iff, ← findSome?_eq_none_iff, findSome?_offers, find]
  cases henvironment : fromEnvironment? environment with
  | some token => exact .inl ⟨⟨token, .environment⟩, rfl, Option.some_or⟩
  | none =>
    simp only [Option.none_or]
    rcases ofHelper_cases (helper (helperArguments host)) with ⟨token, hresult, hoffer⟩ | hfault
    · exact .inl ⟨⟨token, .helper⟩, hresult, hoffer⟩
    · exact .inr hfault

/-- The environment has no token exactly if its two variables offer none. -/
theorem fromEnvironment?_eq_none_iff :
    fromEnvironment? environment = none ↔ ∀ name ∈ variableNames, IsIdle (environment name) := by
  simp only [fromEnvironment?, List.findSome?_eq_none_iff, bind_nonBlank?_eq_none_iff]

/-- The helper is run for the host, and only if no variable offers a token. -/
theorem idle_of_arguments {arguments : List String}
    (h : (find environment helper host).arguments = some arguments) :
    arguments = helperArguments host ∧ ∀ name ∈ variableNames, IsIdle (environment name) := by
  rw [← fromEnvironment?_eq_none_iff]
  rw [find] at h
  split at h
  · cases h
  · next hnone => exact ⟨(Option.some.inj h).symm, hnone⟩

/-- No other variable matters. -/
theorem fromEnvironment?_congr
    (h : ∀ name ∈ variableNames, environment' name = environment name) :
    fromEnvironment? environment' = fromEnvironment? environment := by
  have hfirst := h "GITHUB_TOKEN" (by decide)
  have hsecond := h "GH_TOKEN" (by decide)
  simp only [fromEnvironment?, variableNames, List.findSome?_cons, List.findSome?_nil, hfirst,
    hsecond]

/-- Only the two variables count, and the helper where it is run. -/
theorem find_congr (henvironment : ∀ name ∈ variableNames, environment' name = environment name)
    (hhelper : ∀ arguments ∈ (find environment helper host).arguments,
      helper' arguments = helper arguments) :
    find environment' helper' host = find environment helper host := by
  rw [find, find, fromEnvironment?_congr henvironment]
  rw [find] at hhelper
  cases henvironment : fromEnvironment? environment with
  | some token => rfl
  | none =>
    rw [henvironment] at hhelper
    simp only [hhelper _ rfl]

end ProposalGate.Credential
