/-
# Two names of a resource

A client can ask for a resource by its path below the interface, or by its URI, which begins at the
root of the site:

    path                          segment/…/segment/
    URI    /base/…/base/api/version/segment/…/segment/

Both lead to the URL of the interface with the path behind it, and every other URI of plain segments
leads to the site of the base with that URI behind it (`Client.At.path_and_uri_agree`).
-/

import BareMetal.Proofs.Http.Address
import BareMetal.Proofs.Url.Root
import Mathlib

namespace BareMetal

namespace Url

/-- A path of plain segments with a slash behind each. -/
def IsRelative (path : String) : Prop :=
  ∃ names, names ≠ [] ∧ (∀ s ∈ names, IsPlain s) ∧ Text.split '/' path.toList = names ++ [[]]

/-- A URI of plain segments with a slash in front of each, and perhaps one at the end. -/
def IsAbsolute (uri : String) : Prop :=
  ∃ names last, (∀ s ∈ names, IsPlain s) ∧ (last = [] ∨ IsPlain last) ∧
    Text.split '/' uri.toList = [] :: names ++ [last]

/-- With a slash in front, a path is a directory. -/
theorem directory_of_split {names : List (List Char)} {cs : List Char}
    (written : Text.split '/' cs = names ++ [[]]) : '/' :: cs = directory names := by
  rw [← slashed_split, written, slashed_append]
  rfl

/-- A path is a plain segment, and plain segments behind it. -/
theorem IsRelative.exists_first {path : String} (h : IsRelative path) :
    ∃ first names tail, IsPlain first ∧ (∀ s ∈ names, IsPlain s) ∧
      Text.split '/' tail = names ++ [[]] ∧ path.toList = first ++ '/' :: tail := by
  obtain ⟨names, some, plain, written⟩ := h
  obtain ⟨first, names, rfl⟩ := List.exists_cons_of_ne_nil some
  rw [List.forall_mem_cons] at plain
  obtain ⟨tail, behind⟩ := exists_directory_eq names
  have path_eq : path.toList = first ++ '/' :: tail := by
    have whole := directory_of_split written
    rw [directory_cons, behind] at whole
    exact (List.cons.inj whole).2
  rw [path_eq, Text.split_append plain.1.isSegment.slash_not_mem, List.cons_append] at written
  exact ⟨first, names, tail, plain.1, plain.2, (List.cons.inj written).2, path_eq⟩

/-- A URI is a directory and what stands behind its last slash. -/
theorem IsAbsolute.exists_end {uri : String} (h : IsAbsolute uri) :
    ∃ names last, (∀ s ∈ names, IsSegment s) ∧ IsEnd last ∧
      uri.toList = directory names ++ last := by
  obtain ⟨names, last, plain, ends, written⟩ := h
  have whole : '/' :: uri.toList = '/' :: (directory names ++ last) := by
    rw [← slashed_split, written, List.cons_append, slashed_cons, slashed_append, directory]
    simp
  refine ⟨names, last, fun s hs => (plain s hs).isSegment, ?_, (List.cons.inj whole).2⟩
  rcases ends with rfl | plain
  · exact .nil
  · exact plain.isEnd

end Url

/-- The path of the interface of a client on its site. -/
def Client.interfacePath (c : Client) (segments : List (List Char)) : String :=
  String.ofList (Url.directory (segments ++ ["api".toList, c.apiVersion.toList]))

namespace Client.At

variable {c : Client} {a : Url.Site} {segments : List (List Char)} (site : c.At a segments)
include site

/-- The URL of the interface is the address of the site and the path of the interface on it. -/
theorem apiUrl_eq_append : c.apiUrl = String.ofList a.text ++ c.interfacePath segments := by
  rw [← String.toList_inj, site.apiUrl_eq, interfacePath]
  simp

/-- A relative path is asked for below the interface. -/
theorem urlFor_relative {path : String} (h : Url.IsRelative path) :
    c.urlFor path = .ok (c.apiUrl ++ path) := by
  obtain ⟨first, names, tail, plain, plains, written, path_eq⟩ := h.exists_first
  have found := a.resolve_of_names site.isSegment plain.isFirst
    (fun s hs => (plains s hs).isSegment) written
  rw [site.urlFor_eq_ok (path_eq ▸ found)]
  refine congrArg Except.ok (String.toList_inj.1 ?_)
  simp [site.apiUrl_eq, path_eq]

/-- Segments from the root of the site are asked for on the site as they are. -/
theorem urlFor_rooted {uri : String} {names : List (List Char)} {last : List Char}
    (h : ∀ s ∈ names, Url.IsSegment s) (hlast : Url.IsEnd last)
    (written : uri.toList = Url.directory names ++ last) :
    c.urlFor uri = .ok (String.ofList a.text ++ uri) := by
  have found := a.resolve_of_root h hlast site.isSegment
  rw [site.urlFor_eq_ok (written ▸ found)]
  refine congrArg Except.ok (String.toList_inj.1 ?_)
  simp [written]

/-- A path from the root of the site that leads below the interface asks for the same as the
rest of it alone. -/
theorem urlFor_interfacePath {path : String} (h : Url.IsRelative path) :
    c.urlFor (c.interfacePath segments ++ path) = .ok (c.apiUrl ++ path) := by
  obtain ⟨names, -, plain, written⟩ := h
  have inside : ∀ s ∈ (segments ++ ["api".toList, c.apiVersion.toList]) ++ names,
      Url.IsSegment s :=
    List.forall_mem_append.2 ⟨site.isSegment, fun s hs => (plain s hs).isSegment⟩
  have whole : (c.interfacePath segments ++ path).toList =
      Url.directory ((segments ++ ["api".toList, c.apiVersion.toList]) ++ names) ++ [] := by
    rw [Url.directory_append, ← Url.directory_of_split written, interfacePath, Url.directory]
    simp
  rw [site.urlFor_rooted inside .nil whole, site.apiUrl_eq_append, String.append_assoc]

/-- **A path and the URI of the same resource lead to one URL.** For a client of a site, a path of
plain segments leads to the URL of the interface with the path behind it, and so does the URI that
is made of the path of the interface and that path. Every URI of plain segments, in the interface
or not, leads to the site of the client with the URI behind it. -/
theorem path_and_uri_agree :
    (∀ path, Url.IsRelative path →
      c.urlFor path = .ok (c.apiUrl ++ path) ∧
      c.urlFor (c.interfacePath segments ++ path) = .ok (c.apiUrl ++ path)) ∧
    ∀ uri, Url.IsAbsolute uri → c.urlFor uri = .ok (String.ofList a.text ++ uri) := by
  refine ⟨fun path relative => ⟨site.urlFor_relative relative, site.urlFor_interfacePath relative⟩,
    fun uri absolute => ?_⟩
  obtain ⟨names, last, segments, ends, written⟩ := absolute.exists_end
  exact site.urlFor_rooted segments ends written

end Client.At

namespace Client

/-- A site whose host is an address. -/
def loopback : Url.Site where
  scheme := "https".toList
  host := "[::1]:5240".toList
  isWeb := .inr rfl
  nonempty := by decide
  unmarked c hc := by
    have unmarked : "[::1]:5240".toList.all (!Url.isMark ·) := rfl
    simpa using List.all_eq_true.1 unmarked c hc
  sound := by decide

/-- A machine under both of its names, and a URI beside the interface. -/
theorem path_and_uri_agree_machine :
    let c : Client := { baseUrl := "https://[::1]:5240/a/b-c//", apiVersion := "2.0" }
    c.At loopback ["a".toList, "b-c".toList] ∧
      (c.urlFor "machines/4y3ha3/" = .ok (c.apiUrl ++ "machines/4y3ha3/") ∧
        c.urlFor (c.interfacePath ["a".toList, "b-c".toList] ++ "machines/4y3ha3/") =
          .ok (c.apiUrl ++ "machines/4y3ha3/")) ∧
      c.urlFor "/metrics/~v1" = .ok (String.ofList loopback.text ++ "/metrics/~v1") := by
  intro c
  have segments : ∀ s ∈ ["a".toList, "b-c".toList], Url.IsPlain s := by decide
  have version : Url.IsPlain "2.0".toList := by decide
  have site : c.At loopback ["a".toList, "b-c".toList] :=
    ⟨⟨2, by decide⟩, fun s hs => (segments s hs).isSegment, version.isSegment⟩
  have relative : Url.IsRelative "machines/4y3ha3/" :=
    ⟨["machines".toList, "4y3ha3".toList], by decide, by decide, by decide⟩
  have absolute : Url.IsAbsolute "/metrics/~v1" :=
    ⟨["metrics".toList], "~v1".toList, by decide, .inr (by decide), by decide⟩
  exact ⟨site, site.path_and_uri_agree.1 _ relative, site.path_and_uri_agree.2 _ absolute⟩

end Client
end BareMetal
