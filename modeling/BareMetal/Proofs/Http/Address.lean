/-
# The addresses that a client asks

A client of a site asks below the directory

    scheme://host/segment/…/segment/api/version/

of it, however many slashes its base ends with (`Client.At.apiUrl_eq`). There it asks what is
written behind this directory, as long as that is made of segments
(`Client.At.urlFor_of_names`), and never leaves the directory of the first segment as long as no
`..` leads out of it (`Client.At.exists_urlFor_of_staysBelow`).

A base that is no site may have no URL for a path, but whether it has one is not up to the path
(`Client.exists_urlFor`).
-/

import BareMetal.Http.Client
import BareMetal.Proofs.Except
import BareMetal.Proofs.Url.Join
import BareMetal.Proofs.Url.Site
import Mathlib

namespace BareMetal

namespace Url

/-- A reference is resolved if it and the base can be taken apart. -/
theorem exists_resolve_iff {base url : List Char} (hbase : base ≠ []) (hurl : url ≠ []) :
    (∃ found, resolve base url = .ok found) ↔
      ∃ b, split [] base = .ok b ∧ ∃ u, split b.scheme url = .ok u := by
  have some_base : base.isEmpty = false := by simpa using hbase
  have some_url : url.isEmpty = false := by simpa using hurl
  unfold resolve
  rw [if_neg (by simp [some_base]), if_neg (by simp [some_url])]
  simp only [exists_bind_eq_ok_iff]
  refine exists_congr fun b => and_congr_right fun _ => exists_congr fun u => and_iff_left ?_
  split <;> exact ⟨_, rfl⟩

end Url

namespace Client

/-- A client that has a URL for one path has one for every path that can be taken apart. -/
theorem exists_urlFor {c : Client} {path other : String} (some : path ≠ "") (more : other ≠ "")
    (resolves : ∃ url, c.urlFor path = .ok url)
    (splits : ∀ scheme, ∃ u, Url.split scheme other.toList = .ok u) :
    ∃ url, c.urlFor other = .ok url := by
  have api : c.apiUrl.toList ≠ [] := by simp [apiUrl, Url.join, Url.joinSegments]
  have exists_iff {p : String} : (∃ url, c.urlFor p = .ok url) ↔
      ∃ found, Url.resolve c.apiUrl.toList p.toList = .ok found := by
    unfold urlFor
    cases Url.resolve c.apiUrl.toList p.toList <;> simp
  rw [exists_iff, Url.exists_resolve_iff api (by simpa using some)] at resolves
  obtain ⟨b, hb, -⟩ := resolves
  rw [exists_iff, Url.exists_resolve_iff api (by simpa using more)]
  exact ⟨b, hb, splits b.scheme⟩

end Client

/-- The base of the client is a directory of the site, with any number of slashes at its end. -/
structure Client.At (c : Client) (a : Url.Site) (segments : List (List Char)) : Prop where
  base : ∃ n, c.baseUrl.toList = a.text ++ Url.slashed segments ++ List.replicate n '/'
  segments : ∀ s ∈ segments, Url.IsSegment s
  version : Url.IsSegment c.apiVersion.toList

namespace Client.At

variable {c : Client} {a : Url.Site} {segments : List (List Char)} (h : c.At a segments)
include h

/-- The version of the interface is one more segment below those of the site. -/
theorem isSegment : ∀ s ∈ segments ++ ["api".toList, c.apiVersion.toList], Url.IsSegment s := by
  have api : Url.IsSegment "api".toList :=
    Url.isSegment_of_all (by decide) (by decide) (by decide) rfl
  rw [List.forall_mem_append, List.forall_mem_cons, List.forall_mem_singleton]
  exact ⟨h.segments, api, h.version⟩

/-- The base of a client is a stem before the slashes at its end. -/
theorem isStem_base : Url.IsStem (a.text ++ Url.slashed segments) := by
  refine Url.isStem_append_slashed ?_ fun s hs => (h.segments s hs).isName
  rw [Url.IsStem, Url.Site.text, List.append_cons, List.append_cons, List.append_cons,
    List.getLast?_append_of_ne_nil _ a.nonempty]
  exact Url.isStem_of_slashless fun slash => a.unmarked '/' slash rfl

/-- The URL of the interface is the address of the site with the segments below it as a
directory. -/
theorem apiUrl_eq : c.apiUrl.toList =
    a.text ++ Url.directory (segments ++ ["api".toList, c.apiVersion.toList]) := by
  obtain ⟨n, base⟩ := h.base
  have slashless : ∀ s ∈ ["api".toList, c.apiVersion.toList], s ≠ [] ∧ '/' ∉ s := fun s hs =>
    have hs := h.isSegment s (List.mem_append_right _ hs)
    ⟨hs.nonempty, hs.slash_not_mem⟩
  have stem : Url.dropEndSlashes c.baseUrl.toList = a.text ++ Url.slashed segments := by
    rw [base, Url.dropEndSlashes_append fun c hc => List.eq_of_mem_replicate hc,
      Url.dropEndSlashes_eq_self h.isStem_base]
  rw [apiUrl, Url.toList_join, stem, List.map_cons, List.map_singleton,
    Url.namesIn_eq_self slashless, Url.directory, Url.directory, Url.slashed_append]
  simp only [List.append_assoc]

/-- A path that resolves against the directory of the interface is the URL of a request. -/
theorem urlFor_eq_ok {path : String} {url : List Char}
    (resolves : Url.resolve
      (a.text ++ Url.directory (segments ++ ["api".toList, c.apiVersion.toList]))
      path.toList = .ok url) : c.urlFor path = .ok (String.ofList url) := by
  rw [urlFor, h.apiUrl_eq, resolves]

variable {first : String} (hfirst : Url.IsFirst first.toList)
include hfirst

/-- As long as no `..` leads out of it, what is asked for is in the directory of the first
segment. -/
theorem exists_urlFor_of_staysBelow {tail : String}
    (stays : Url.staysBelow 0 (Url.steps tail.toList)) :
    ∃ more, c.urlFor (first ++ "/" ++ tail) = .ok (c.apiUrl ++ first ++ "/" ++ more) := by
  obtain ⟨more, resolves⟩ := a.exists_resolve_of_staysBelow h.isSegment hfirst stays
  refine ⟨String.ofList more, ?_⟩
  rw [h.urlFor_eq_ok (by simpa using resolves)]
  refine congrArg Except.ok (String.toList_inj.1 ?_)
  simp [h.apiUrl_eq, Url.directory]

/-- Segments with a slash behind each are asked for as they are. -/
theorem urlFor_of_names {names : List (List Char)} (hnames : ∀ s ∈ names, Url.IsSegment s)
    {tail : String} (written : Text.split '/' tail.toList = names ++ [[]]) :
    c.urlFor (first ++ "/" ++ tail) = .ok (c.apiUrl ++ first ++ "/" ++ tail) := by
  have resolves := a.resolve_of_names h.isSegment hfirst hnames written
  rw [h.urlFor_eq_ok (by simpa using resolves)]
  refine congrArg Except.ok (String.toList_inj.1 ?_)
  simp [h.apiUrl_eq]

end Client.At
end BareMetal
