/-
# User data, there and back

The user data of a deployment is sent in base64, and the content of a stored file is kept in
base64. So what was sent with a deployment may be served again as a file
(`StoredFile.IsServed`): the file is read whatever else the map holds, and its bytes are the user
data as it was, byte by byte (`Controller.user_data_comes_back`).
-/

import BareMetal.Proofs.Controller.Dispatch
import BareMetal.Proofs.Controller.Outcome
import BareMetal.Proofs.Text.Base64
import BareMetal.Proofs.Wire.RoundTrip

namespace BareMetal

namespace StoredFile

/-- The map holds what is written for the file, in any order, and perhaps more. -/
def IsServed (f : StoredFile) (es : Entries Datum) : Prop :=
  ∀ e ∈ f.toEntries, es.get? e.1 = some e.2

/-- The entries of a stored file, one field at a time. -/
theorem isServed_iff {f : StoredFile} {es : Entries Datum} :
    f.IsServed es ↔ es.get? "resource_uri" = some (.text f.resourceUri) ∧
      es.get? "filename" = some (.text f.filename) ∧
      es.get? "anon_resource_uri" = some (.text f.anonResourceUri) ∧
      es.get? "content" = some (.text f.content) := by
  simp [IsServed, toEntries, toRow, Schema.writeEntries, Shape.write]

/-- A file that is served is read. -/
theorem IsServed.read_eq_ok {f : StoredFile} {es : Entries Datum} (h : f.IsServed es)
    {v : Version} (recent : { release := [2, 0] } ≤ v) : reader.read v (.map es) = .ok f := by
  have aligned : Schema.Aligned schema f.toEntries f.toRow :=
    .cons rfl (.cons rfl (.cons rfl (.cons rfl .nil)))
  exact (Kind.readAt_eq_ok_iff (k := .storedFile) recent).2
    ⟨es, rfl, _, aligned.readEntries_eq_ok h, rfl⟩

/-- The bytes of a file whose content was written in base64. -/
theorem bytes_of_content {f : StoredFile} {bytes : List UInt8}
    (content : f.content = String.ofList (Text.Base64.encode bytes)) : f.bytes = .ok bytes := by
  rw [StoredFile.bytes, content, String.toList_ofList, Text.Base64.decode_encode]
  rfl

end StoredFile

namespace Controller

/-- A file that is served is fetched with its content decoded. -/
theorem result_fileContent (c : Controller) (recent : { release := [2, 0] } ≤ c.version)
    {filename url : String} (named : filename ≠ "")
    (resolves : c.client.urlFor ("files/" ++ filename ++ "/") = .ok url) {f : StoredFile}
    {es : Entries Datum} (served : f.IsServed es) {r : Response} (accepted : ¬ r.isRefusal)
    (body : Json.parse (Text.readUtf8 r.body) = .ok (.map es)) (later : List Reply) :
    ((c.perform (.fileContent filename)).run (.response r :: later)).result = f.bytes := by
  have usable : ¬ (Operation.fileContent filename).Unusable := named
  obtain ⟨p, plan, carriesOut⟩ := Operation.exists_plan usable (.of_numbers_eq_nil rfl)
  have value : Client.answer p.path (.response r) = .ok (.map es) := by
    rw [Client.answer_of_not_isRefusal _ accepted]
    exact (Client.readBody_eq_ok_iff (by simp)).2 body
  have address : c.client.urlFor p.path = .ok url := carriesOut.path.symm ▸ resolves
  rw [c.result_perform plan address, value]
  change (StoredFile.reader.read c.version (.map es)).bind StoredFile.bytes = _
  rw [served.read_eq_ok recent]
  rfl

/-- **What is sent with a deployment comes back as it was.** For byte strings of every length: the
form of a deployment has them in base64. A file with this content is read from every map that
holds its entries, at every version from 2.0 on; the bytes of the file are those of the
deployment, and so is what a controller fetches as the content of the file. -/
theorem user_data_comes_back (c : Controller) (machine : Machine) (d : Deployment)
    {bytes : List UInt8} (given : d.userData = some bytes) {url : String}
    (resolves : c.client.urlFor machine.resourceUri = .ok url) (replies : List Reply) :
    ∃ r form content, requests ((c.perform (.startMachine machine d)).run replies).events = [r] ∧
      r.form = some form ∧ form.get? "user_data" = some (.text content) ∧
      ∀ (f : StoredFile) (es : Entries Datum), f.content = content → f.IsServed es →
        (∀ v : Version, { release := [2, 0] } ≤ v →
          StoredFile.reader.read v (.map es) = .ok f ∧ f.bytes = .ok bytes) ∧
        ∀ (reading : Controller) (filename url : String) (r : Response) (later : List Reply),
          { release := [2, 0] } ≤ reading.version → filename ≠ "" →
          reading.client.urlFor ("files/" ++ filename ++ "/") = .ok url →
          ¬ r.isRefusal → Json.parse (Text.readUtf8 r.body) = .ok (.map es) →
          ((reading.perform (.fileContent filename)).run (.response r :: later)).result =
            .ok bytes := by
  have usable : ¬ (Operation.startMachine machine d).Unusable := id
  have posted := c.requests_perform_of_usable usable (.of_numbers_eq_nil rfl) resolves replies
  refine ⟨_, _, String.ofList (Text.Base64.encode bytes), posted, rfl, ?_, ?_⟩
  · simp only [Operation.call, given]
    rfl
  · intro f es content served
    have same := StoredFile.bytes_of_content content
    refine ⟨fun v recent => ⟨served.read_eq_ok recent, same⟩, ?_⟩
    intro reading filename url r later recent named resolves accepted body
    rw [reading.result_fileContent recent named resolves served accepted body later, same]

/-- Five bytes, whose letters are not only letters and digits, with a pad behind them. -/
theorem user_data_comes_back_padded :
    let c : Controller := ⟨{ baseUrl := "http://maas:5240/MAAS" }, { release := [2, 0] }, .empty⟩
    let machine : Machine :=
      { resourceUri := "/MAAS/api/2.0/machines/4y3ha3/", systemId := "4y3ha3", hostname := "a",
        fqdn := "a.maas", operatingSystem := "ubuntu", distroSeries := "noble", memory := 1024,
        cpuCount := 2, powerState := "on", statusName := "Allocated",
        zone := { resourceUri := "/", name := "default", description := "" } }
    let deployment : Deployment := { userData := some [0xFB, 0xFF, 0x00, 0x80, 0x0A] }
    let body := "\x7b\"content\": \"+/8AgAo=\", \"anon_resource_uri\": \"a\", " ++
      "\"filename\": \"f\", \"resource_uri\": \"r\"\x7d"
    c.client.urlFor machine.resourceUri =
        .ok "http://maas:5240/MAAS/api/2.0/machines/4y3ha3/" ∧
      requests ((c.perform (.startMachine machine deployment)).run []).events =
        [{ verb := .post, url := "http://maas:5240/MAAS/api/2.0/machines/4y3ha3/",
           query := [("op", .text "deploy")], form := some [("user_data", .text "+/8AgAo=")],
           timeout := some (.whole 30), verify := true }] ∧
      ((c.perform (.fileContent "f")).run [.ofText 200 body]).result =
        .ok [0xFB, 0xFF, 0x00, 0x80, 0x0A] := by
  intro c machine deployment body
  have resolves : c.client.urlFor machine.resourceUri =
      .ok "http://maas:5240/MAAS/api/2.0/machines/4y3ha3/" := by cbv
  have address : c.client.urlFor ("files/" ++ "f" ++ "/") =
      .ok "http://maas:5240/MAAS/api/2.0/files/f/" := by cbv
  let es : Entries Datum := [("content", .text "+/8AgAo="), ("anon_resource_uri", .text "a"),
    ("filename", .text "f"), ("resource_uri", .text "r")]
  have parses : Json.parse (Text.readUtf8 body.toUTF8.toList) = .ok (.map es) := by cbv
  have served : StoredFile.IsServed ⟨"r", "f", "a", "+/8AgAo="⟩ es :=
    StoredFile.isServed_iff.2 ⟨rfl, rfl, rfl, rfl⟩
  have usable : ¬ (Operation.startMachine machine deployment).Unusable := id
  have sent : requests ((c.perform (.startMachine machine deployment)).run []).events =
      [{ verb := .post, url := "http://maas:5240/MAAS/api/2.0/machines/4y3ha3/",
         query := [("op", .text "deploy")], form := some [("user_data", .text "+/8AgAo=")],
         timeout := some (.whole 30), verify := true }] := by
    rw [c.requests_perform_of_usable usable (.of_numbers_eq_nil rfl) resolves []]
    rfl
  obtain ⟨r, form, content, posted, hform, value, back⟩ :=
    c.user_data_comes_back machine deployment rfl resolves []
  obtain rfl := List.singleton_inj.1 (sent.symm.trans posted)
  obtain rfl := Option.some.inj hform
  obtain rfl : "+/8AgAo=" = content := by simpa [Entries.get?] using value
  have fetched := (back _ es rfl served).2 c "f" _ { body := body.toUTF8.toList } [] (by decide)
    (by decide) address (by decide) parses
  exact ⟨resolves, sent, fetched⟩

end Controller
end BareMetal
