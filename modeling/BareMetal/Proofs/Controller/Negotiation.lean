/-
# Negotiating a version

To connect, the versions are tried in order, each with a client of its own.

| what a version comes to | its client | what follows |
| --- | --- | --- |
| no capabilities in the reply | is closed | the next version |
| capabilities, and its text is a version | stays open | the controller |
| capabilities, and its text is no version | stays open | a failure, at once |
| no URL to ask | stays open | a failure, at once |

What a version adds to a run is said by one lemma for a version that fails
(`run_tryVersions_missed`), one for a version that answers (`run_tryVersions_answered`)
and one for a version without a URL (`run_tryVersions_unresolved`). So every run is a row
of versions that were tried in vain (`Missed`), followed by at most one version that ends it
(`Ending`, `exists_missed_ending`).
-/

import BareMetal.Proofs.Controller.Capabilities

namespace BareMetal
namespace Controller

variable (baseUrl : String) (timeout : Option Quantity) (verify : Bool)

/-- A version that was tried in vain, with the URL that was asked and the failure. -/
structure Miss where
  version : String
  url : String
  failure : Failure

/-- The versions were tried in vain, one after the other, on the replies to come. -/
inductive Missed : List Miss → List Reply → Prop
  | nil (replies : List Reply) : Missed [] replies
  | cons {m : Miss} {ms : List Miss} {replies : List Reply}
      (resolves : (clientFor baseUrl timeout verify m.version).urlFor "version/" = .ok m.url)
      (fails : capabilitiesIn (replyAt replies 0) = .error m.failure)
      (later : Missed ms replies.tail) : Missed (m :: ms) replies

/-- The failure of the last version that was tried; before the first one it is `last`. -/
def lastFailure (last : Option Failure) (ms : List Miss) : Option Failure :=
  (ms.getLast?.map Miss.failure).or last

/-- What is seen of `x` is what is seen of `o`, after the misses: for each of them a
client is created, asks one URL and is closed. -/
structure Follows (ms : List Miss) (o x : Outcome Controller) : Prop where
  result_eq : x.result = o.result
  created_eq : created x.events =
    ms.map (fun m => clientFor baseUrl timeout verify m.version) ++ created o.events
  requests_eq : requests x.events =
    ms.map (fun m => versionRequest (clientFor baseUrl timeout verify m.version) m.url) ++
      requests o.events
  closed_eq : closed x.events =
    ms.map (fun m => clientFor baseUrl timeout verify m.version) ++ closed o.events

variable {baseUrl timeout verify}

namespace Missed

variable {ms : List Miss} {replies : List Reply}

/-- Each version that was missed had a URL, and the reply to it had no capabilities. -/
theorem getElem (h : Missed baseUrl timeout verify ms replies) {i : Nat} (hi : i < ms.length) :
    (clientFor baseUrl timeout verify ms[i].version).urlFor "version/" = .ok ms[i].url ∧
      capabilitiesIn (replyAt replies i) = .error ms[i].failure := by
  induction h generalizing i with
  | nil => cases hi
  | cons resolves fails later ih =>
    cases i with
    | zero => exact ⟨resolves, fails⟩
    | succ i =>
      rw [← replyAt_tail]
      exact ih (Nat.lt_of_succ_lt_succ hi)

end Missed

/-- Behind a miss the failure to report is that of the miss, or of a later one. -/
theorem lastFailure_cons (last : Option Failure) (m : Miss) (ms : List Miss) :
    lastFailure last (m :: ms) = lastFailure (some m.failure) ms := by
  cases hl : ms.getLast? <;> simp [lastFailure, List.getLast?_cons, hl]

section Steps

variable {last : Option Failure} {version : String} {versions : List String}
  {replies : List Reply}

/-- What a version adds to a run: its client is created and asks for the capabilities,
and then the answer decides. -/
theorem run_tryVersions_cons {client : Client} {asked : Outcome NameSet}
    (hclient : clientFor baseUrl timeout verify version = client)
    (hasked : (readCapabilities client).run replies = asked) :
    (tryVersions baseUrl timeout verify last (version :: versions)).run replies =
      match asked.result with
      | .ok capabilities =>
        ⟨ofClient client version capabilities,
          .create client :: asked.events ++
            [.log .info logger s!"✓ Connected to {baseUrl} using API {version}"], asked.left⟩
      | .error e =>
        if isNegotiable e then
          let rest := (tryVersions baseUrl timeout verify (some e) versions).run asked.left
          ⟨rest.result, .create client :: asked.events ++ .close client :: rest.events, rest.left⟩
        else ⟨.error e, .create client :: asked.events, asked.left⟩ := by
  have hcreate : client.create.run replies = ⟨.ok (), [.create client], replies⟩ := rfl
  have hattempt : (readCapabilities client).attempt.run replies =
      ⟨.ok asked.result, asked.events, asked.left⟩ := by
    rw [Exchange.run_attempt, hasked]
  rw [tryVersions, hclient, Exchange.run_bind_of_ok hcreate, Exchange.run_bind_of_ok hattempt]
  cases asked.result with
  | ok capabilities => rfl
  | error e =>
    dsimp only
    split
    · simp [Exchange.run_bind, Client.close]
    · simp [Exchange.fail]

/-- A version without a URL ends the attempt, and its client stays open. -/
theorem run_tryVersions_unresolved {e : Failure}
    (h : (clientFor baseUrl timeout verify version).urlFor "version/" = .error e) :
    (tryVersions baseUrl timeout verify last (version :: versions)).run replies =
      ⟨.error e, [.create (clientFor baseUrl timeout verify version)], replies⟩ := by
  have hopeless : isNegotiable e = false := by simpa using not_isNegotiable_of_urlFor h
  rw [run_tryVersions_cons rfl (run_readCapabilities_of_urlFor_eq_error h replies)]
  simp [hopeless]

/-- A version that answers ends the attempt, and its client stays open. -/
theorem run_tryVersions_answered {url : String} {capabilities : NameSet}
    (resolves : (clientFor baseUrl timeout verify version).urlFor "version/" = .ok url)
    (answers : capabilitiesIn (replyAt replies 0) = .ok capabilities) :
    Follows baseUrl timeout verify []
      ⟨ofClient (clientFor baseUrl timeout verify version) version capabilities,
        [.create (clientFor baseUrl timeout verify version),
          .request (versionRequest (clientFor baseUrl timeout verify version) url)], []⟩
      ((tryVersions baseUrl timeout verify last (version :: versions)).run replies) := by
  rw [run_tryVersions_cons rfl (run_readCapabilities resolves replies), answers]
  constructor <;>
    simp [Event.created?, Event.request?, Event.closed?, Client.requests_replyRecords,
      Client.created_replyRecords, Client.closed_replyRecords]

/-- A version that fails has its client closed, and the next version is tried. -/
theorem run_tryVersions_missed {m : Miss} {ms : List Miss} {o : Outcome Controller}
    (resolves : (clientFor baseUrl timeout verify m.version).urlFor "version/" = .ok m.url)
    (fails : capabilitiesIn (replyAt replies 0) = .error m.failure)
    (rest : Follows baseUrl timeout verify ms o
      ((tryVersions baseUrl timeout verify (some m.failure) versions).run replies.tail)) :
    Follows baseUrl timeout verify (m :: ms) o
      ((tryVersions baseUrl timeout verify last (m.version :: versions)).run replies) := by
  have hope : isNegotiable m.failure = true := isNegotiable_of_capabilitiesIn fails
  rw [run_tryVersions_cons rfl (run_readCapabilities resolves replies), fails]
  simp only [hope, if_true]
  constructor
  · exact rest.result_eq
  all_goals
    simp [Event.created?, Event.request?, Event.closed?, Client.requests_replyRecords,
      Client.created_replyRecords, Client.closed_replyRecords, rest.created_eq, rest.requests_eq,
      rest.closed_eq]

end Steps

/-- How a run on versions ends after the misses: all of them were misses, or one more
version has no URL, or one more version answers. -/
inductive Ending (baseUrl : String) (timeout : Option Quantity) (verify : Bool)
    (last : Option Failure) (versions : List String) (replies : List Reply) (ms : List Miss)
    (x : Outcome Controller) : Prop
  | inVain (versions_eq : versions = ms.map Miss.version)
      (follows : Follows baseUrl timeout verify ms
        ⟨.error (connectFailure (lastFailure last ms)), [], []⟩ x)
  | unresolved (version : String) (rest : List String) (e : Failure)
      (versions_eq : versions = ms.map Miss.version ++ version :: rest)
      (fails : (clientFor baseUrl timeout verify version).urlFor "version/" = .error e)
      (follows : Follows baseUrl timeout verify ms
        ⟨.error e, [.create (clientFor baseUrl timeout verify version)], []⟩ x)
  | answered (version : String) (rest : List String) (url : String) (capabilities : NameSet)
      (versions_eq : versions = ms.map Miss.version ++ version :: rest)
      (resolves : (clientFor baseUrl timeout verify version).urlFor "version/" = .ok url)
      (answers : capabilitiesIn (replyAt replies ms.length) = .ok capabilities)
      (follows : Follows baseUrl timeout verify ms
        ⟨ofClient (clientFor baseUrl timeout verify version) version capabilities,
          [.create (clientFor baseUrl timeout verify version),
            .request (versionRequest (clientFor baseUrl timeout verify version) url)], []⟩ x)

/-- Every run is a row of misses and one ending. -/
theorem exists_missed_ending (baseUrl : String) (timeout : Option Quantity) (verify : Bool)
    (versions : List String) (last : Option Failure) (replies : List Reply) :
    ∃ ms, Missed baseUrl timeout verify ms replies ∧
      Ending baseUrl timeout verify last versions replies ms
        ((tryVersions baseUrl timeout verify last versions).run replies) := by
  induction versions generalizing last replies with
  | nil => exact ⟨[], .nil replies, .inVain rfl ⟨rfl, rfl, rfl, rfl⟩⟩
  | cons version versions ih =>
    cases hurl : (clientFor baseUrl timeout verify version).urlFor "version/" with
    | error e =>
      refine ⟨[], .nil replies, .unresolved version versions e rfl hurl ?_⟩
      rw [run_tryVersions_unresolved hurl]
      exact ⟨rfl, rfl, rfl, rfl⟩
    | ok url =>
      cases hanswer : capabilitiesIn (replyAt replies 0) with
      | ok capabilities =>
        exact ⟨[], .nil replies, .answered version versions url capabilities rfl hurl hanswer
          (run_tryVersions_answered hurl hanswer)⟩
      | error e =>
        obtain ⟨ms, hms, hend⟩ := ih (some e) replies.tail
        have step {o : Outcome Controller} (rest : Follows baseUrl timeout verify ms o
            ((tryVersions baseUrl timeout verify (some e) versions).run replies.tail)) :
            Follows baseUrl timeout verify (⟨version, url, e⟩ :: ms) o
              ((tryVersions baseUrl timeout verify last (version :: versions)).run replies) :=
          run_tryVersions_missed hurl hanswer rest
        refine ⟨⟨version, url, e⟩ :: ms, .cons hurl hanswer hms, ?_⟩
        cases hend with
        | inVain versions_eq follows =>
          refine .inVain (congrArg (version :: ·) versions_eq) ?_
          rw [lastFailure_cons]
          exact step follows
        | unresolved v rest e' versions_eq fails follows =>
          exact .unresolved v rest e' (congrArg (version :: ·) versions_eq) fails (step follows)
        | answered v rest url' capabilities versions_eq resolves answers follows =>
          rw [replyAt_tail] at answers
          exact .answered v rest url' capabilities (congrArg (version :: ·) versions_eq) resolves
            answers (step follows)

/-- Every run of connecting misses some versions, perhaps none, and then ends in one of the
ways of ending. -/
theorem exists_connect_ending (baseUrl : String) (versions : List String)
    (timeout : Option Quantity) (verify : Bool) (replies : List Reply) :
    ∃ ms, Missed baseUrl timeout verify ms replies ∧
      Ending baseUrl timeout verify none (candidates versions) replies ms
        ((connect baseUrl versions timeout verify).run replies) :=
  exists_missed_ending baseUrl timeout verify (candidates versions) none replies

end Controller
end BareMetal
