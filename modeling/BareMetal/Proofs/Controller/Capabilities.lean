/-
# What a version answers

A version of the interface is asked for its capabilities with one request. If the
request has a URL, the reply alone decides what comes of it (`capabilitiesIn`): the
capabilities, if the reply lists some (`Reply.Lists`), and else a failure. Every such
failure leaves hope for another version, and none is a lack of permission; a request
without a URL leaves no hope.

A capability that the reply names is a text of characters. One with half of a surrogate pair
escaped in it has U+FFFD instead (`Json.ofCode`), and is the same as one with the other half.
-/

import BareMetal.Controller.Basic
import BareMetal.Proofs.Controller.Refusal
import BareMetal.Proofs.Http.Trace
import BareMetal.Proofs.Reader.Success

namespace BareMetal

/-- The reply lists capabilities: it is no refusal, and its body is a map in JSON that
has a list of texts under `capabilities`. -/
def Reply.Lists (reply : Reply) (names : List String) : Prop :=
  ∃ (r : Response) (es : Entries Datum), reply = .response r ∧ ¬ r.isRefusal ∧
    Json.parse (Text.readUtf8 r.body) = .ok (.map es) ∧
    es.get? "capabilities" = some (.list (names.map .text))

namespace Shape

/-- Only a text is read as a text, and as itself. -/
theorem read_text_eq_ok_iff {d : Datum} {s : String} : text.read d = .ok s ↔ d = .text s := by
  cases d <;> simp [Shape.read]

/-- Only a list of texts is read as a list of names, and as its texts in order. -/
theorem read_texts_eq_ok_iff {d : Datum} {names : List String} :
    (list text).read d = .ok names ↔ d = .list (names.map .text) := by
  cases d with
  | list ds =>
    have h : (fun d s => text.read d = .ok s) = fun d (s : String) => d = .text s :=
      funext fun _ => funext fun _ => propext read_text_eq_ok_iff
    rw [Shape.read, readItems_eq_ok_iff, h, ← List.forall₂_map_right_iff, List.forall₂_eq_eq_eq,
      Datum.list.injEq]
  | _ => simp [Shape.read]

end Shape

namespace Client

/-- A path without a URL is the fault of an argument. -/
theorem eq_of_urlFor_eq_error {c : Client} {path : String} {e : Failure}
    (h : c.urlFor path = .error e) : ∃ message, e = .invalid message := by
  unfold urlFor at h
  split at h
  · cases h
  · cases h
    exact ⟨_, rfl⟩

end Client

namespace Controller

/-- What a reply says about the capabilities. -/
def capabilitiesIn (reply : Reply) : Except Failure NameSet :=
  (Client.answer "version/" reply).bind capabilitiesOf

/-- The names are read exactly from a list of texts: the field has no default, and null
is no list. -/
theorem readEntries_versionSchema_eq_ok_iff {es : Entries Datum} {row : versionSchema.Row} :
    versionSchema.readEntries es = .ok row ↔
      es.get? "capabilities" = some (.list (row.1.map .text)) := by
  have hfield : ∀ names, Field.read { name := "capabilities", shape := .list .text } es =
      .ok names ↔ es.get? "capabilities" = some (.list (names.map .text)) := by
    intro names
    unfold Field.read
    cases es.get? "capabilities" with
    | none => simp [Shape.read, Except.mapError]
    | some d => rw [mapError_eq_ok_iff, Shape.read_texts_eq_ok_iff, Option.some.injEq]
  obtain ⟨names, ⟨⟩⟩ := row
  rw [← hfield names, Schema.readEntries]
  cases Field.read { name := "capabilities", shape := .list .text } es <;>
    simp [Schema.readEntries, Except.map]

/-- Capabilities are read from a map with a list of texts under `capabilities`, and from
nothing else. -/
theorem capabilitiesOf_eq_ok_iff {d : Datum} {capabilities : NameSet} :
    capabilitiesOf d = .ok capabilities ↔ ∃ (es : Entries Datum) (names : List String),
      d = .map es ∧ es.get? "capabilities" = some (.list (names.map .text)) ∧
        capabilities = .ofList names := by
  have hread : capabilitiesOf d = .ok capabilities ↔
      ∃ row, versionSchema.read d = .ok row ∧ capabilities = .ofList row.1 := by
    unfold capabilitiesOf
    cases versionSchema.read d with
    | ok row => simp [eq_comm]
    | error m => simp
  rw [hread]
  constructor
  · rintro ⟨row, hrow, rfl⟩
    cases d with
    | map es => exact ⟨es, row.1, rfl, readEntries_versionSchema_eq_ok_iff.1 hrow, rfl⟩
    | _ => cases hrow
  · rintro ⟨es, names, rfl, hnames, rfl⟩
    exact ⟨(names, ()), readEntries_versionSchema_eq_ok_iff.2 hnames, rfl⟩

/-- The capabilities that a reply is read to have are the ones that it lists. -/
theorem capabilitiesIn_eq_ok_iff {reply : Reply} {capabilities : NameSet} :
    capabilitiesIn reply = .ok capabilities ↔
      ∃ names, reply.Lists names ∧ capabilities = .ofList names := by
  unfold capabilitiesIn
  cases reply with
  | fault t message => simp [Client.answer, Except.bind, Reply.Lists]
  | response r =>
    by_cases hr : r.isRefusal
    · simp [Client.answer_of_isRefusal _ hr, Except.bind, Reply.Lists, hr]
    · rw [Client.answer_of_not_isRefusal _ hr]
      have hbind : ((Client.readBody "version/" r.body).bind capabilitiesOf) = .ok capabilities ↔
          ∃ d, Client.readBody "version/" r.body = .ok d ∧ capabilitiesOf d = .ok capabilities :=
        bind_eq_ok_iff
      rw [hbind]
      constructor
      · rintro ⟨d, hd, hc⟩
        obtain ⟨es, names, rfl, hnames, rfl⟩ := capabilitiesOf_eq_ok_iff.1 hc
        exact ⟨names, ⟨r, es, rfl, hr, (Client.readBody_eq_ok_iff (by simp)).1 hd, hnames⟩, rfl⟩
      · rintro ⟨names, ⟨_, es, ⟨⟩, -, hparse, hnames⟩, rfl⟩
        exact ⟨.map es, (Client.readBody_eq_ok_iff (by simp)).2 hparse,
          capabilitiesOf_eq_ok_iff.2 ⟨es, names, rfl, hnames, rfl⟩⟩

/-- A reply has capabilities exactly if it lists some names. -/
theorem exists_capabilitiesIn_iff {reply : Reply} :
    (∃ capabilities, capabilitiesIn reply = .ok capabilities) ↔ ∃ names, reply.Lists names := by
  simp only [capabilitiesIn_eq_ok_iff]
  constructor
  · rintro ⟨_, names, h, -⟩
    exact ⟨names, h⟩
  · rintro ⟨names, h⟩
    exact ⟨_, names, h, rfl⟩

/-- A request that is refused gives the refusal itself, which is not translated. -/
theorem capabilitiesIn_of_isRefusal {r : Response} (h : r.isRefusal) :
    capabilitiesIn (.response r) = .error (.ofRefusal r) := by
  rw [capabilitiesIn, Client.answer_of_isRefusal _ h]
  rfl

/-- Why a reply has no capabilities: it did not come, it is a refusal, its body is not
JSON, or the value of the body has not the shape of a version response. -/
theorem eq_of_capabilitiesIn_eq_error {reply : Reply} {e : Failure}
    (h : capabilitiesIn reply = .error e) :
    (∃ t message, e = .plain (.transport t) message) ∨ (∃ r, e = .ofRefusal r) ∨
      (∃ context fault, e = .deserialization context (.ofJson fault)) ∨
      ∃ context m, e = .deserialization context (.ofMismatch m) := by
  cases reply with
  | fault t message =>
    cases h
    exact .inl ⟨t, message, rfl⟩
  | response r =>
    by_cases hr : r.isRefusal
    · rw [capabilitiesIn_of_isRefusal hr] at h
      cases h
      exact .inr (.inl ⟨r, rfl⟩)
    · refine .inr (.inr ?_)
      rw [capabilitiesIn, Client.answer_of_not_isRefusal _ hr] at h
      cases hb : Client.readBody "version/" r.body with
      | error e' =>
        rw [hb] at h
        cases h
        obtain ⟨fault, rfl⟩ := Client.eq_of_readBody_eq_error hb
        exact .inl ⟨_, fault, rfl⟩
      | ok d =>
        rw [hb] at h
        change capabilitiesOf d = .error e at h
        unfold capabilitiesOf at h
        split at h
        · cases h
        · next m _ =>
          cases h
          exact .inr ⟨_, m, rfl⟩

/-- Whatever the reply, a failure to find capabilities in it leaves hope for another
version. -/
theorem isNegotiable_of_capabilitiesIn {reply : Reply} {e : Failure}
    (h : capabilitiesIn reply = .error e) : isNegotiable e := by
  rcases eq_of_capabilitiesIn_eq_error h with
    ⟨_, _, rfl⟩ | ⟨_, rfl⟩ | ⟨_, _, rfl⟩ | ⟨_, _, rfl⟩ <;> rfl

/-- No failure to find capabilities is a lack of permission: a refusal stays as it came
over the wire. -/
theorem not_isPermissionDenied_of_capabilitiesIn {reply : Reply} {e : Failure}
    (h : capabilitiesIn reply = .error e) : ¬ e.isPermissionDenied := by
  rcases eq_of_capabilitiesIn_eq_error h with
    ⟨_, _, rfl⟩ | ⟨_, rfl⟩ | ⟨_, fault, rfl⟩ | ⟨_, _, rfl⟩
  · exact Bool.false_ne_true
  · exact Bool.false_ne_true
  · cases fault <;> exact Bool.false_ne_true
  · exact Bool.false_ne_true

/-- A path that does not resolve is no reason to try the next version. -/
theorem not_isNegotiable_of_urlFor {c : Client} {path : String} {e : Failure}
    (h : c.urlFor path = .error e) : ¬ isNegotiable e := by
  obtain ⟨_, rfl⟩ := Client.eq_of_urlFor_eq_error h
  exact Bool.false_ne_true

/-- The request for the capabilities of a version. -/
def versionRequest (c : Client) (url : String) : Request :=
  { verb := .get, url, query := [], form := none, timeout := c.timeout, verify := c.verify }

/-- A client whose path has a URL sends one request, and the reply decides. -/
theorem run_readCapabilities {c : Client} {url : String}
    (resolves : c.urlFor "version/" = .ok url) (replies : List Reply) :
    (readCapabilities c).run replies =
      ⟨capabilitiesIn (replyAt replies 0),
        .request (versionRequest c url) :: Client.replyRecords "version/" (replyAt replies 0),
        replies.tail⟩ := by
  rw [readCapabilities, Client.get, Exchange.run_bind,
    Client.run_request_next c resolves]
  unfold capabilitiesIn
  cases Client.answer "version/" (replyAt replies 0) with
  | error e => rfl
  | ok d => simp [versionRequest, Client.withOperation_empty, Except.bind]

/-- A client whose path has no URL sends nothing. -/
theorem run_readCapabilities_of_urlFor_eq_error {c : Client} {e : Failure}
    (h : c.urlFor "version/" = .error e) (replies : List Reply) :
    (readCapabilities c).run replies = ⟨.error e, [], replies⟩ := by
  rw [readCapabilities, Client.get, Exchange.run_bind, Client.request, h]
  rfl

end Controller
end BareMetal
