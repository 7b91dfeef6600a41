/-
# What connecting ends with

If every version has a URL and is a version, connecting selects the first version whose
reply lists capabilities, and asks no later one; if no reply does, every version is
asked and the last failure is the cause (`connect_selects_first_answer`).

A failure to connect is meant to leave no client open and to be caused by the failure of
the last version (`FailsCleanly`). It is so exactly if every version that is reached has a
URL and, once it has answered, turns out to be a version
(`connect_fails_cleanly_iff`). Otherwise the failure comes at once, and the client stays
open (`connect_leaves_client_open`).
-/

import BareMetal.Proofs.Controller.Negotiation
import Mathlib

namespace BareMetal
namespace Controller

/-- There is always a version to try. -/
theorem candidates_ne_nil (versions : List String) : candidates versions ≠ [] := by
  unfold candidates
  split
  · nofun
  · next h => simpa using h

section OfClient

variable {c : Client} {version : String} {capabilities : NameSet}

/-- The controller of a client has the version that the text spells. -/
theorem ofClient_eq_ok_iff {controller : Controller} :
    ofClient c version capabilities = .ok controller ↔
      ∃ v, Version.ofText version = .ok v ∧ controller = ⟨c, v, capabilities⟩ := by
  unfold ofClient
  rw [map_eq_ok_iff]
  simp [eq_comm]

/-- A controller is not made exactly if its version cannot be read. -/
theorem exists_ofClient_eq_error_iff :
    (∃ e, ofClient c version capabilities = .error e) ↔
      ¬ ∃ v, Version.ofText version = .ok v := by
  unfold ofClient
  cases Version.ofText version <;> simp [Except.map]

end OfClient

namespace Missed

variable {baseUrl : String} {timeout : Option Quantity} {verify : Bool} {ms : List Miss}
  {replies : List Reply} (h : Missed baseUrl timeout verify ms replies) {i : Nat}
  (hi : i < ms.length)
include h hi

/-- No reply to a miss lists capabilities. -/
theorem not_lists : ¬ ∃ names, (replyAt replies i).Lists names := by
  rw [← exists_capabilitiesIn_iff, (h.getElem hi).2]
  nofun

/-- The version of a miss has a URL, and its reply lists nothing. -/
theorem reached {version : String} {rest : List String}
    (hv : (ms.map Miss.version ++ rest)[i]? = some version) :
    (∃ url, (clientFor baseUrl timeout verify version).urlFor "version/" = .ok url) ∧
      ((∃ names, (replyAt replies i).Lists names) → ∃ v, Version.ofText version = .ok v) := by
  rw [List.getElem?_append_left (by simpa using hi)] at hv
  obtain rfl : ms[i].version = version := by simpa [hi] using hv
  exact ⟨⟨_, (h.getElem hi).1⟩, fun lists => absurd lists (h.not_lists hi)⟩

end Missed

section Clean

variable (baseUrl : String) (timeout : Option Quantity) (verify : Bool)

/-- What trying a version comes to on a reply: it has a URL, the reply has capabilities,
and its text is a version. -/
def trial (version : String) (reply : Reply) : Except Failure Controller := do
  let _ ← (clientFor baseUrl timeout verify version).urlFor "version/"
  let capabilities ← capabilitiesIn reply
  ofClient (clientFor baseUrl timeout verify version) version capabilities

/-- A failure to connect as it is meant to be: every version was tried, every client that
was created has been closed, and the cause is the failure of the last version. -/
structure FailsCleanly (versions : List String) (replies : List Reply) (events : List Event)
    (e : Failure) : Prop where
  created_eq : created events = versions.map (clientFor baseUrl timeout verify)
  closed_eq : closed events = created events
  caused : ∃ version last, versions.getLast? = some version ∧
    trial baseUrl timeout verify version (replyAt replies (versions.length - 1)) = .error last ∧
    e = connectFailure (some last)

variable {baseUrl timeout verify}

/-- A run of misses through all versions is a clean failure. -/
theorem failsCleanly_of_missed {ms : List Miss} {replies : List Reply}
    (hms : Missed baseUrl timeout verify ms replies) (hne : ms ≠ []) {x : Outcome Controller}
    (follows : Follows baseUrl timeout verify ms
      ⟨.error (connectFailure (lastFailure none ms)), [], []⟩ x) {e : Failure}
    (he : x.result = .error e) :
    FailsCleanly baseUrl timeout verify (ms.map Miss.version) replies x.events e := by
  have hcreated := follows.created_eq
  have hclosed := follows.closed_eq
  have hpos : 0 < ms.length := List.length_pos_iff.2 hne
  have hlast := hms.getElem (Nat.sub_one_lt_of_lt hpos)
  refine ⟨by simpa [Function.comp_def] using hcreated, by rw [hcreated, hclosed]; rfl, ?_⟩
  refine ⟨(ms.getLast hne).version, (ms.getLast hne).failure, ?_, ?_, ?_⟩
  · rw [List.getLast?_map, List.getLast?_eq_some_getLast hne]
    rfl
  · rw [List.length_map, List.getLast_eq_getElem]
    unfold trial
    rw [hlast.1, hlast.2]
    rfl
  · rw [follows.result_eq] at he
    rw [← Except.error.inj he, lastFailure, List.getLast?_eq_some_getLast hne]
    rfl

/-- **When a failure to connect leaves nothing behind.** Every failure is a clean one
exactly if every version that is reached, because no version before it answered, has a
URL, and is a version if its reply lists capabilities. -/
theorem connect_fails_cleanly_iff (baseUrl : String) (versions : List String)
    (timeout : Option Quantity) (verify : Bool) (replies : List Reply) :
    (∀ e, ((connect baseUrl versions timeout verify).run replies).result = .error e →
      FailsCleanly baseUrl timeout verify (candidates versions) replies
        ((connect baseUrl versions timeout verify).run replies).events e) ↔
    ∀ i version, (candidates versions)[i]? = some version →
      (∀ j < i, ¬ ∃ names, (replyAt replies j).Lists names) →
        (∃ url, (clientFor baseUrl timeout verify version).urlFor "version/" = .ok url) ∧
        ((∃ names, (replyAt replies i).Lists names) → ∃ v, Version.ofText version = .ok v) := by
  obtain ⟨ms, hms, hend⟩ := exists_connect_ending baseUrl versions timeout verify replies
  generalize (connect baseUrl versions timeout verify).run replies = x at hend ⊢
  have hne := candidates_ne_nil versions
  generalize candidates versions = tried at hend hne ⊢
  constructor
  · intro clean i version hv hbefore
    cases hend with
    | inVain versions_eq follows =>
      subst versions_eq
      have hi : i < ms.length := by simpa using (List.getElem?_eq_some_iff.1 hv).1
      exact hms.reached hi (by rwa [List.append_nil])
    | unresolved v rest e versions_eq fails follows =>
      -- the failure is that of the URL, and not the promised one
      obtain ⟨_, last, -, -, he⟩ := (clean e follows.result_eq).caused
      obtain ⟨_, rfl⟩ := Client.eq_of_urlFor_eq_error fails
      cases he
    | answered v rest url capabilities versions_eq resolves answers follows =>
      have lists := exists_capabilitiesIn_iff.1 ⟨capabilities, answers⟩
      have hle : i ≤ ms.length := Nat.le_of_not_lt fun hlt => hbefore _ hlt lists
      subst versions_eq
      rcases Nat.lt_or_eq_of_le hle with hi | rfl
      · exact hms.reached hi hv
      · obtain rfl : v = version := by simpa using hv
        refine ⟨⟨url, resolves⟩, fun _ => ?_⟩
        by_contra hparse
        obtain ⟨e, he⟩ := exists_ofClient_eq_error_iff.2 hparse
        -- one client more was created than closed
        have hresult := follows.result_eq
        dsimp only at hresult
        have hclosed := (clean e (hresult.trans he)).closed_eq
        rw [follows.closed_eq, follows.created_eq, List.append_cancel_left_eq] at hclosed
        cases hclosed
  · intro h e he
    cases hend with
    | inVain versions_eq follows =>
      subst versions_eq
      exact failsCleanly_of_missed hms (by simpa using hne) follows he
    | unresolved v rest e' versions_eq fails follows =>
      subst versions_eq
      obtain ⟨⟨url, hurl⟩, -⟩ := h ms.length v (by simp) fun j hj => hms.not_lists hj
      rw [hurl] at fails
      cases fails
    | answered v rest url capabilities versions_eq resolves answers follows =>
      subst versions_eq
      obtain ⟨-, hparse⟩ := h ms.length v (by simp) fun j hj => hms.not_lists hj
      obtain ⟨parsed, hv⟩ := hparse (exists_capabilitiesIn_iff.1 ⟨capabilities, answers⟩)
      have hresult := follows.result_eq
      dsimp only at hresult
      rw [hresult, ofClient_eq_ok_iff.2 ⟨parsed, hv, rfl⟩] at he
      cases he

end Clean

/-- A version that answers and then turns out to be none: the failure is not the promised
one, and the client that was created is not closed. -/
theorem connect_leaves_client_open :
    let x := (connect "http://maas:5240/MAAS" ["latest"]).run
      [.ofText 200 "\x7b\"capabilities\": []\x7d"]
    x.result = .error (.plain .unsupportedVersion "invalid API version 'latest'") ∧
      created x.events =
        [clientFor "http://maas:5240/MAAS" (some (.whole 30)) true "latest"] ∧
      closed x.events = [] ∧
      ¬ ∀ e, x.result = .error e →
        FailsCleanly "http://maas:5240/MAAS" (some (.whole 30)) true ["latest"]
          [.ofText 200 "\x7b\"capabilities\": []\x7d"] x.events e := by
  intro x
  have hresult : x.result =
      .error (.plain .unsupportedVersion "invalid API version 'latest'") := by cbv
  have hcreated : created x.events =
      [clientFor "http://maas:5240/MAAS" (some (.whole 30)) true "latest"] := by decide +kernel
  have hclosed : closed x.events = [] := by decide +kernel
  refine ⟨hresult, hcreated, hclosed, fun clean => ?_⟩
  have hsame := (clean _ hresult).closed_eq
  rw [hcreated, hclosed] at hsame
  cases hsame

section Selection

variable (baseUrl : String) (timeout : Option Quantity) (verify : Bool)

/-- The requests ask the URL of each version, in order, with what connecting was given. -/
def Asks (versions : List String) (sent : List Request) : Prop :=
  List.Forall₂ (fun version r => ∃ url,
    (clientFor baseUrl timeout verify version).urlFor "version/" = .ok url ∧
      r = { verb := .get, url, query := [], form := none, timeout, verify }) versions sent

variable {baseUrl timeout verify}

/-- A run of misses sends the question for the version of each of them, in order. -/
theorem Missed.asks {ms : List Miss} {replies : List Reply}
    (h : Missed baseUrl timeout verify ms replies) :
    Asks baseUrl timeout verify (ms.map Miss.version)
      (ms.map fun m => versionRequest (clientFor baseUrl timeout verify m.version) m.url) := by
  rw [Asks, List.forall₂_map_left_iff, List.forall₂_map_right_iff, List.forall₂_same]
  intro m hm
  obtain ⟨i, hi, rfl⟩ := List.mem_iff_getElem.1 hm
  exact ⟨_, (h.getElem hi).1, rfl⟩

/-- **The first version that answers is selected.** Where every version has a URL and is a
version: if `i` is the first index whose reply lists capabilities, the controller has the
version at `i`, exactly these capabilities and the client of that version, after one
request for each version up to `i`; if there is none, every version is asked, and the
failure is caused by that of the last one. -/
theorem connect_selects_first_answer (baseUrl : String) (versions : List String)
    (timeout : Option Quantity) (verify : Bool) (replies : List Reply)
    (resolve : ∀ version ∈ candidates versions, ∃ url,
      (clientFor baseUrl timeout verify version).urlFor "version/" = .ok url)
    (parse : ∀ version ∈ candidates versions, ∃ v, Version.ofText version = .ok v) :
    (∀ i version names, (candidates versions)[i]? = some version →
      (replyAt replies i).Lists names → (∀ j < i, ¬ ∃ names, (replyAt replies j).Lists names) →
        (∃ controller, ((connect baseUrl versions timeout verify).run replies).result =
            .ok controller ∧
          Version.ofText version = .ok controller.version ∧
          (∀ name, name ∈ controller.capabilities ↔ name ∈ names) ∧
          controller.client = clientFor baseUrl timeout verify version) ∧
        Asks baseUrl timeout verify ((candidates versions).take (i + 1))
          (requests ((connect baseUrl versions timeout verify).run replies).events)) ∧
    ((∀ i < (candidates versions).length, ¬ ∃ names, (replyAt replies i).Lists names) →
      (∃ e, ((connect baseUrl versions timeout verify).run replies).result = .error e ∧
        FailsCleanly baseUrl timeout verify (candidates versions) replies
          ((connect baseUrl versions timeout verify).run replies).events e) ∧
      Asks baseUrl timeout verify (candidates versions)
        (requests ((connect baseUrl versions timeout verify).run replies).events)) := by
  obtain ⟨ms, hms, hend⟩ := exists_connect_ending baseUrl versions timeout verify replies
  generalize (connect baseUrl versions timeout verify).run replies = x at hend ⊢
  have hne := candidates_ne_nil versions
  generalize candidates versions = tried at hend hne resolve parse ⊢
  cases hend with
  | inVain versions_eq follows =>
    subst versions_eq
    constructor
    · intro i version names hv lists hbefore
      have hi : i < ms.length := by simpa using (List.getElem?_eq_some_iff.1 hv).1
      exact absurd ⟨names, lists⟩ (hms.not_lists hi)
    · intro _
      refine ⟨⟨_, follows.result_eq, failsCleanly_of_missed hms (by simpa using hne) follows
        follows.result_eq⟩, ?_⟩
      rw [follows.requests_eq, requests_nil, List.append_nil]
      exact hms.asks
  | unresolved v rest e versions_eq fails follows =>
    obtain ⟨url, hurl⟩ := resolve v (by simp [versions_eq])
    rw [hurl] at fails
    cases fails
  | answered v rest url capabilities versions_eq resolves answers follows =>
    obtain ⟨parsed, hparsed⟩ := parse v (by simp [versions_eq])
    have hresult := follows.result_eq
    dsimp only at hresult
    rw [ofClient_eq_ok_iff.2 ⟨parsed, hparsed, rfl⟩] at hresult
    have answered := exists_capabilitiesIn_iff.1 ⟨capabilities, answers⟩
    subst versions_eq
    constructor
    · intro i version names hv lists hbefore
      -- the first reply that lists something is the one that ended the run
      obtain rfl : i = ms.length := by
        rcases Nat.lt_trichotomy i ms.length with hi | hi | hi
        · exact absurd ⟨names, lists⟩ (hms.not_lists hi)
        · exact hi
        · exact absurd answered (hbefore _ hi)
      obtain rfl : v = version := by simpa using hv
      have hnames : capabilities = .ofList names := by
        rw [capabilitiesIn_eq_ok_iff.2 ⟨names, lists, rfl⟩] at answers
        exact (Except.ok.inj answers).symm
      refine ⟨⟨_, hresult, hparsed, fun name => ?_, rfl⟩, ?_⟩
      · rw [hnames, NameSet.mem_ofList]
      · rw [follows.requests_eq]
        have htake : (ms.map Miss.version ++ v :: rest).take (ms.length + 1) =
            ms.map Miss.version ++ [v] := by
          rw [List.take_append, List.take_of_length_le (by simp)]
          simp
        rw [htake]
        exact List.rel_append hms.asks (.cons ⟨url, resolves, rfl⟩ .nil)
    · intro none_lists
      exact absurd answered (none_lists _ (by simp))

/-- The newer version is not there, and the older one answers. -/
theorem connect_selects_older :
    (∀ version ∈ candidates ["3.0", "2.0"], ∃ url,
      (clientFor "http://maas:5240/MAAS" none false version).urlFor "version/" = .ok url) ∧
    (∀ version ∈ candidates ["3.0", "2.0"], ∃ v, Version.ofText version = .ok v) ∧
    ∃ controller, ((connect "http://maas:5240/MAAS" ["3.0", "2.0"] none false).run
        [.ofText 404 "no", .ofText 200 "\x7b\"capabilities\": [\"a\"]\x7d"]).result =
          .ok controller ∧
      Version.ofText "2.0" = .ok controller.version ∧
      (∀ name, name ∈ controller.capabilities ↔ name ∈ ["a"]) ∧
      controller.client = clientFor "http://maas:5240/MAAS" none false "2.0" := by
  have resolve : ∀ version ∈ candidates ["3.0", "2.0"], ∃ url,
      (clientFor "http://maas:5240/MAAS" none false version).urlFor "version/" = .ok url := by
    intro version hv
    rcases List.mem_pair.1 hv with rfl | rfl
    · exact ⟨"http://maas:5240/MAAS/api/3.0/version/", by cbv⟩
    · exact ⟨"http://maas:5240/MAAS/api/2.0/version/", by cbv⟩
  have parse : ∀ version ∈ candidates ["3.0", "2.0"], ∃ v, Version.ofText version = .ok v := by
    intro version hv
    rcases List.mem_pair.1 hv with rfl | rfl
    · exact ⟨{ release := [3, 0] }, by cbv⟩
    · exact ⟨{ release := [2, 0] }, by cbv⟩
  have refused : ¬ ∃ names, (Reply.ofText 404 "no").Lists names := by
    rintro ⟨_, _, _, ⟨⟩, accepted, _⟩
    exact accepted rfl
  have lists : (Reply.ofText 200 "\x7b\"capabilities\": [\"a\"]\x7d").Lists ["a"] :=
    ⟨_, [("capabilities", .list [.text "a"])], rfl, by decide, by cbv, by cbv⟩
  have selected := (connect_selects_first_answer "http://maas:5240/MAAS" ["3.0", "2.0"] none false
    [.ofText 404 "no", .ofText 200 "\x7b\"capabilities\": [\"a\"]\x7d"] resolve parse).1
  refine ⟨resolve, parse, (selected 1 "2.0" ["a"] rfl lists fun j hj => ?_).1⟩
  obtain rfl : j = 0 := Nat.lt_one_iff.1 hj
  exact refused

end Selection

end Controller
end BareMetal
