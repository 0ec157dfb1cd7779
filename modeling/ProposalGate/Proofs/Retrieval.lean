import ProposalGate.Proofs.Schedule.Results
import ProposalGate.Retrieval

/-!
# When a version is obtained

`Obtained` lists everything a version asks of the forge: an answer in time, with content, path and
name, in an encoding that is read, and content that is what the encoding says. Retrieval succeeds
exactly then (`version_yields_ok_iff`), and both versions of a file are there exactly if each of
them is (`versions_yields_ok_iff`).

`Fails` lists what can be wrong with a reply instead. Every cause is there only where the causes
before it are not, so a version that is not obtained has one violation
(`versionOfReply_eq_error_iff`), and a file that is not there in both versions has those of its base
and then those of its head (`together_eq_error_iff`).
-/

namespace ProposalGate.Retrieval

open Forge (Answers Program Reply)

variable {answers : Answers} {path commit : String}

/-- A version is obtained from the forge. -/
inductive Obtained (answers : Answers) (path commit : String) : Version → Prop where
  /-- the answer is complete, its encoding is on the list, and its content can be decoded -/
  | decoded {file : FileContent} {content body : String} {encoding : Encoding} :
      answers (.file path commit) (.ok (some file)) → file.content = some content →
      file.path.isSome → file.name.isSome →
      Encoding.ofName? (file.encoding.getD "") = some encoding →
      encoding.decode content = .ok body →
      Obtained answers path commit (.ofBody commit path body)

/-- A version is read from the path it was asked for. -/
theorem Obtained.path_eq {v : Version} (h : Obtained answers path commit v) : v.path = path := by
  cases h
  rfl

theorem versionOf_eq_ok_iff {file : FileContent} {v : Version} :
    versionOf path commit file = .ok v ↔
      ∃ content encoding body, file.content = some content ∧ file.path.isSome ∧ file.name.isSome ∧
        Encoding.ofName? (file.encoding.getD "") = some encoding ∧
        encoding.decode content = .ok body ∧ .ofBody commit path body = v := by
  obtain ⟨content, encoding, filePath, name⟩ := file
  -- in the order in which the program looks for what is missing
  cases content with
  | none => simp [versionOf]
  | some content =>
    cases filePath with
    | none => simp [versionOf]
    | some filePath =>
      cases name with
      | none => simp [versionOf]
      | some name =>
        simp only [versionOf]
        cases hname : Encoding.ofName? (encoding.getD "") with
        | none => simp
        | some e =>
          cases hbody : e.decode content with
          | error fault => simp [hbody]
          | ok body => simp [hbody]

theorem version_yields_iff {r : Except Violation Version} :
    (version path commit).Yields answers r ↔
      ∃ reply, answers (.file path commit) reply ∧ versionOfReply path commit reply = r :=
  Iff.rfl

/-- Retrieving a version succeeds exactly if the version is obtained. -/
theorem version_yields_ok_iff {v : Version} :
    (version path commit).Yields answers (.ok v) ↔ Obtained answers path commit v := by
  rw [version_yields_iff]
  constructor
  · rintro ⟨reply, hreply, hv⟩
    rcases reply with e | _ | file
    · cases e <;> cases hv
    · cases hv
    · obtain ⟨content, encoding, body, hc, hp, hn, he, hb, rfl⟩ := versionOf_eq_ok_iff.1 hv
      exact .decoded hreply hc hp hn he hb
  · rintro @⟨file, content, body, encoding, hfile, hc, hp, hn, he, hb⟩
    exact ⟨_, hfile, versionOf_eq_ok_iff.2 ⟨content, encoding, body, hc, hp, hn, he, hb, rfl⟩⟩

/-- A complete answer in UTF-8 is the version that its content is. -/
theorem versionOfReply_text (path commit content shown name : String) :
    versionOfReply path commit (.ok (some ⟨some content, some "utf-8", some shown, some name⟩)) =
      .ok (.ofBody commit path content) := by
  have hname : Encoding.ofName? "utf-8" = some .utf8 := Encoding.ofName?_eq_some_iff.2 (by decide)
  rw [versionOfReply, versionOf_eq_ok_iff]
  exact ⟨content, .utf8, content, rfl, rfl, rfl, hname, rfl, rfl⟩

/-- A file whose content is text is obtained as it stands. -/
theorem Obtained.of_text {content shown name : String}
    (h : answers (.file path commit)
      (.ok (some ⟨some content, some "utf-8", some shown, some name⟩))) :
    Obtained answers path commit (.ofBody commit path content) :=
  version_yields_ok_iff.1 ⟨_, h, versionOfReply_text ..⟩

/-- One reply to each call gives one result. -/
theorem version_unique {replies : (c : Forge.Call) → Reply c} {r r' : Except Violation Version}
    (h : (version path commit).Yields (.only replies) r)
    (h' : (version path commit).Yields (.only replies) r') : r = r' := by
  obtain ⟨_, rfl, rfl⟩ := h
  obtain ⟨_, rfl, rfl⟩ := h'
  rfl

/-- No file is obtained as two different versions. -/
theorem Obtained.unique {replies : (c : Forge.Call) → Reply c} {v v' : Version}
    (h : Obtained (.only replies) path commit v) (h' : Obtained (.only replies) path commit v') :
    v = v' :=
  Except.ok.inj (version_unique (version_yields_ok_iff.2 h) (version_yields_ok_iff.2 h'))

theorem together_eq_ok_iff {base head : Except Violation Version} {b h : Version} :
    together base head = .ok (b, h) ↔ base = .ok b ∧ head = .ok h := by
  rcases base with e | b' <;> rcases head with e' | h' <;> simp [together]

/-- Of a file that is not there in both versions, at least one failure is reported. -/
theorem ne_nil_of_together_eq_error {base head : Except Violation Version}
    {violations : List Violation} (h : together base head = .error violations) :
    violations ≠ [] := by
  rcases base with e | b <;> rcases head with e' | h' <;>
    simp only [together, failure?, reduceCtorEq, Except.error.injEq] at h <;> simp [← h]

/-- What is reported of such a file is what became of one of the versions. -/
theorem eq_error_of_mem_together {base head : Except Violation Version}
    {violations : List Violation} {v : Violation} (h : together base head = .error violations)
    (hv : v ∈ violations) : base = .error v ∨ head = .error v := by
  rcases base with e | b <;> rcases head with e' | h' <;>
    simp only [together, failure?, reduceCtorEq, Except.error.injEq] at h <;> subst h <;>
      simpa [eq_comm] using hv

theorem versions_yields_iff {c : Change} {baseCommit headCommit : String}
    {r : Except (List Violation) (Version × Version)} :
    (versions c baseCommit headCommit).Yields answers r ↔
      ∃ base head, (version c.basePath baseCommit).Yields answers base ∧
        (version c.path headCommit).Yields answers head ∧ together base head = r := by
  simp only [versions, Program.yields_seq, Prod.exists, Program.yields_pair, Program.yields_pure,
    and_assoc]

/-- Both versions of a file are there exactly if each of them is obtained. -/
theorem versions_yields_ok_iff {c : Change} {baseCommit headCommit : String} {base head : Version} :
    (versions c baseCommit headCommit).Yields answers (.ok (base, head)) ↔
      Obtained answers c.basePath baseCommit base ∧ Obtained answers c.path headCommit head := by
  rw [versions_yields_iff, ← version_yields_ok_iff, ← version_yields_ok_iff]
  constructor
  · rintro ⟨b, h, hb, hh, hboth⟩
    obtain ⟨rfl, rfl⟩ := together_eq_ok_iff.1 hboth
    exact ⟨hb, hh⟩
  · rintro ⟨hb, hh⟩
    exact ⟨_, _, hb, hh, rfl⟩

/-- If a file is not there in both versions, something is reported. -/
theorem ne_nil_of_versions_yields_error {c : Change} {baseCommit headCommit : String}
    {violations : List Violation}
    (h : (versions c baseCommit headCommit).Yields answers (.error violations)) :
    violations ≠ [] := by
  obtain ⟨_, _, -, -, hboth⟩ := versions_yields_iff.1 h
  exact ne_nil_of_together_eq_error hboth

/-- If both versions of a file are obtained, and no call gets two different replies, then nothing
keeps the file from being there. -/
theorem not_versions_yields_error {replies : (c : Forge.Call) → Reply c} {c : Change}
    {baseCommit headCommit : String} {base head : Version} {violations : List Violation}
    (hbase : Obtained (.only replies) c.basePath baseCommit base)
    (hhead : Obtained (.only replies) c.path headCommit head) :
    ¬ (versions c baseCommit headCommit).Yields (.only replies) (.error violations) := by
  intro h
  obtain ⟨b, d, hb, hd, htogether⟩ := versions_yields_iff.1 h
  obtain rfl := version_unique hb (version_yields_ok_iff.2 hbase)
  obtain rfl := version_unique hd (version_yields_ok_iff.2 hhead)
  simp [together] at htogether

/-! ## Why a version is not obtained -/

/-- What keeps a reply from being a version. The causes are listed in the order in which they are
looked for; a timeout comes before other errors. -/
inductive Fails (path commit : String) : Reply (.file path commit) → Violation → Prop where
  /-- there is no file -/
  | notFound : Fails path commit (.ok none) (.remoteContentMissing path commit .notFound)
  /-- the call took too long -/
  | timedOut {budget : Duration} :
      Fails path commit (.error (.timeout budget)) (.remoteContentMissing path commit .timedOut)
  /-- the call failed for another reason -/
  | failed {e : Error} : (∀ budget, e ≠ .timeout budget) →
      Fails path commit (.error e) (.remoteContentMissing path commit (.request e.message))
  /-- the answer has no content -/
  | noContent {file : FileContent} : file.content = none →
      Fails path commit (.ok (some file)) (.remoteContentMissing path commit .noContent)
  /-- it has content, but no path -/
  | noPath {file : FileContent} : file.content.isSome → file.path = none →
      Fails path commit (.ok (some file)) (.remoteContentMissing path commit .noPath)
  /-- it has content and a path, but no name -/
  | noName {file : FileContent} : file.content.isSome → file.path.isSome → file.name = none →
      Fails path commit (.ok (some file)) (.remoteContentMissing path commit .noName)
  /-- nothing is missing, but the encoding is not on the list -/
  | unsupported {file : FileContent} : file.content.isSome → file.path.isSome → file.name.isSome →
      Encoding.ofName? (file.encoding.getD "") = none →
      Fails path commit (.ok (some file))
        (.unsupportedEncoding path commit (file.encoding.getD ""))
  /-- the encoding is on the list, but the content is not in it -/
  | undecodable {file : FileContent} {content : String} {encoding : Encoding}
      {fault : DecodeFault} : file.content = some content → file.path.isSome → file.name.isSome →
      Encoding.ofName? (file.encoding.getD "") = some encoding →
      encoding.decode content = .error fault →
      Fails path commit (.ok (some file))
        (.remoteContentMissing path commit (.undecodable fault.message))

/-- A reply that fails in one of the ways gives the violation that belongs to it. -/
theorem Fails.versionOfReply_eq {reply : Reply (.file path commit)} {v : Violation}
    (h : Fails path commit reply v) : versionOfReply path commit reply = .error v := by
  cases h with
  | notFound | timedOut => rfl
  | @failed e htimeout =>
    cases e with
    | timeout budget => exact absurd rfl (htimeout budget)
    | _ => rfl
  | noContent hcontent => simp [versionOfReply, versionOf, hcontent]
  | noPath hcontent hpath =>
    obtain ⟨content, hcontent⟩ := Option.isSome_iff_exists.1 hcontent
    simp [versionOfReply, versionOf, hcontent, hpath]
  | noName hcontent hpath hname =>
    obtain ⟨content, hcontent⟩ := Option.isSome_iff_exists.1 hcontent
    obtain ⟨filePath, hpath⟩ := Option.isSome_iff_exists.1 hpath
    simp [versionOfReply, versionOf, hcontent, hpath, hname]
  | unsupported hcontent hpath hname hencoding =>
    obtain ⟨content, hcontent⟩ := Option.isSome_iff_exists.1 hcontent
    obtain ⟨filePath, hpath⟩ := Option.isSome_iff_exists.1 hpath
    obtain ⟨name, hname⟩ := Option.isSome_iff_exists.1 hname
    simp [versionOfReply, versionOf, hcontent, hpath, hname, hencoding]
  | undecodable hcontent hpath hname hencoding hfault =>
    obtain ⟨filePath, hpath⟩ := Option.isSome_iff_exists.1 hpath
    obtain ⟨name, hname⟩ := Option.isSome_iff_exists.1 hname
    simp [versionOfReply, versionOf, hcontent, hpath, hname, hencoding, hfault]

/-- A file that is not read fails in one of the ways, the first that applies to it. -/
theorem fails_of_versionOf_eq {file : FileContent} {v : Violation}
    (h : versionOf path commit file = .error v) : Fails path commit (.ok (some file)) v := by
  rw [versionOf] at h
  split at h
  · next hcontent =>
    obtain rfl := Except.error.inj h
    exact .noContent hcontent
  · next hcontent hpath =>
    obtain rfl := Except.error.inj h
    exact .noPath (by simp [hcontent]) hpath
  · next hcontent hpath hname =>
    obtain rfl := Except.error.inj h
    exact .noName (by simp [hcontent]) (by simp [hpath]) hname
  · next hcontent hpath hname =>
    dsimp only at h
    split at h
    · next hencoding =>
      obtain rfl := Except.error.inj h
      exact .unsupported (by simp [hcontent]) (by simp [hpath]) (by simp [hname]) hencoding
    · next hencoding =>
      split at h
      · cases h
      · next hfault =>
        obtain rfl := Except.error.inj h
        exact .undecodable hcontent (by simp [hpath]) (by simp [hname]) hencoding hfault

/-- **A version is not obtained for one reason**, the first that applies. -/
theorem versionOfReply_eq_error_iff {reply : Reply (.file path commit)} {v : Violation} :
    versionOfReply path commit reply = .error v ↔ Fails path commit reply v := by
  refine ⟨fun h => ?_, Fails.versionOfReply_eq⟩
  rcases reply with e | _ | file
  · cases e with
    | timeout budget => exact Except.error.inj h ▸ .timedOut
    | _ => exact Except.error.inj h ▸ .failed (by simp)
  · exact Except.error.inj h ▸ .notFound
  · exact fails_of_versionOf_eq h

/-- What is reported of one version of a file, given the reply to the call for it: its one failure,
or nothing. -/
inductive Failures (path commit : String) (reply : Reply (.file path commit)) :
    List Violation → Prop where
  /-- the version is there -/
  | none : (∀ v, ¬ Fails path commit reply v) → Failures path commit reply []
  /-- it is not -/
  | one {v : Violation} : Fails path commit reply v → Failures path commit reply [v]

theorem failures_iff {reply : Reply (.file path commit)} {violations : List Violation} :
    Failures path commit reply violations ↔
      failure? (versionOfReply path commit reply) = violations := by
  cases h : versionOfReply path commit reply with
  | ok version =>
    have hnone : ∀ v, ¬ Fails path commit reply v := fun v hv => by
      rw [hv.versionOfReply_eq] at h
      cases h
    constructor
    · rintro (_ | hv)
      · rfl
      · exact absurd hv (hnone _)
    · rintro rfl
      exact .none hnone
  | error v =>
    have hv : Fails path commit reply v := versionOfReply_eq_error_iff.1 h
    constructor
    · rintro (hnone | hv')
      · exact absurd hv (hnone v)
      · rw [hv'.versionOfReply_eq] at h
        rw [← Except.error.inj h]
        rfl
    · rintro rfl
      exact .one hv

/-- Two versions are kept back by the violations of both, those at base before those at head. -/
theorem together_eq_error_iff {base head : Except Violation Version}
    {violations : List Violation} : together base head = .error violations ↔
      failure? base ++ failure? head = violations ∧ violations ≠ [] := by
  rcases base with e | b <;> rcases head with e' | h <;> simp only [together, failure?]
  all_goals grind

end ProposalGate.Retrieval
