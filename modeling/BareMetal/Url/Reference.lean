/-
# References

A reference is written

    scheme://host/path;params?query#fragment

where every part may be absent; an absent part is empty. Before it is taken
apart, control characters and spaces are dropped in front, and tabs and line
ends everywhere.

A reference is resolved against a base.

* One with another scheme, or with a scheme that has no hierarchy, stands for
  itself.
* One with a host keeps all of its own parts.
* One without a path keeps the path of the base.
* Every other path is taken from the directory of the base, or from the root if
  it begins with a slash. `.` and `..` are resolved, where a `..` too many is
  dropped, and empty segments inside a path that was taken from a directory are
  left out.
-/

import BareMetal.Url.Host

namespace BareMetal
namespace Url

/-- The parts of a reference. -/
structure Reference where
  scheme : List Char := []
  host : List Char := []
  path : List Char := []
  params : List Char := []
  query : List Char := []
  fragment : List Char := []
deriving DecidableEq, Repr

/-- The schemes that have a hierarchy, and whether the last segment of a path may
have parameters. The empty one is that of a reference without a scheme. -/
def hierarchical : List (String × Bool) := [
  ("", true), ("ftp", true), ("http", true), ("gopher", false), ("nntp", false), ("imap", true),
  ("wais", false), ("file", false), ("https", true), ("shttp", true), ("mms", true),
  ("prospero", true), ("rtsp", true), ("rtspu", true), ("sftp", true), ("svn", false),
  ("svn+ssh", false), ("ws", false), ("wss", false)]

/-- Schemes without a hierarchy that have a host. -/
def hostOnly : List String := ["telnet", "snews", "rsync", "nfs", "git", "git+ssh"]

/-- Schemes without a hierarchy whose paths may have parameters. -/
def paramsOnly : List String := ["hdl", "sip", "sips", "tel"]

/-- The scheme has a hierarchy. -/
def isHierarchical (scheme : List Char) : Bool :=
  hierarchical.any (·.1 == String.ofList scheme)

/-- The scheme has a host. -/
def hasHost (scheme : List Char) : Bool :=
  isHierarchical scheme || hostOnly.contains (String.ofList scheme)

/-- The last segment of a path may have parameters. -/
def hasParams (scheme : List Char) : Bool :=
  hierarchical.any (fun s => s.1 == String.ofList scheme && s.2) ||
    paramsOnly.contains (String.ofList scheme)

/-- A character of a scheme. -/
def isSchemeChar (c : Char) : Bool := c.isAlphanum || c == '+' || c == '-' || c == '.'

/-- The scheme in front, in lower case, and what follows its colon. -/
def splitScheme? (cs : List Char) : Option (List Char × List Char) :=
  match cs.takeWhile (· ≠ ':'), cs.dropWhile (· ≠ ':') with
  | c :: scheme, _ :: rest =>
    if c.isAlpha && (c :: scheme).all isSchemeChar then
      some ((c :: scheme).map Text.lowerAscii, rest)
    else none
  | _, _ => none

/-- What stands before the first occurrence of a character, and what stands after
it; nothing after it if it does not occur. -/
def cutAt (mark : Char) (cs : List Char) : List Char × List Char :=
  (cs.takeWhile (· ≠ mark), (cs.dropWhile (· ≠ mark)).drop 1)

/-- The parameters of the last segment taken off a path. -/
def splitParams (path : List Char) : List Char × List Char :=
  let last := (path.reverse.takeWhile (· ≠ '/')).reverse
  let before := (path.reverse.dropWhile (· ≠ '/')).reverse
  let (segment, params) := cutAt ';' last
  (before ++ segment, params)

/-- A text without what a reference is not made of. -/
def clean (cs : List Char) : List Char :=
  (cs.dropWhile (·.toNat ≤ 0x20)).filter fun c => c ≠ '\t' && c ≠ '\r' && c ≠ '\n'

/-- The parts of a reference; one without a scheme has the given one. -/
def split (scheme : List Char) (url : List Char) : Except HostFault Reference :=
  let url := clean url
  let (scheme, url) := (splitScheme? url).getD (scheme, url)
  let (host, url) :=
    match url with
    | '/' :: '/' :: rest =>
      let isEnd (c : Char) : Bool := c == '/' || c == '?' || c == '#'
      (rest.takeWhile (!isEnd ·), rest.dropWhile (!isEnd ·))
    | _ => ([], url)
  match hostFault? host with
  | some fault => .error fault
  | none =>
    let (url, fragment) := cutAt '#' url
    let (path, query) := cutAt '?' url
    let (path, params) := if hasParams scheme then splitParams path else (path, [])
    .ok { scheme, host, path, params, query, fragment }

/-- The text of a reference. Without a host the `//` is written only after a
scheme that has one, and not before a path that begins with it. -/
def Reference.text (r : Reference) : List Char :=
  let url := if r.params.isEmpty then r.path else r.path ++ ';' :: r.params
  let url :=
    if !r.host.isEmpty ||
        (!r.scheme.isEmpty && hasHost r.scheme && url.take 2 != ['/', '/']) then
      let url := if url.isEmpty || url.head? == some '/' then url else '/' :: url
      '/' :: '/' :: r.host ++ url
    else url
  let url := if r.scheme.isEmpty then url else r.scheme ++ ':' :: url
  let url := if r.query.isEmpty then url else url ++ '?' :: r.query
  if r.fragment.isEmpty then url else url ++ '#' :: r.fragment

/-- One segment of a path, resolved against the segments before it, of which the
last one comes first. -/
def resolveSegment (above : List (List Char)) (segment : List Char) : List (List Char) :=
  if segment = ['.', '.'] then above.tail
  else if segment = ['.'] then above
  else segment :: above

/-- The segments without those inside that are empty. -/
def dropEmptyInside : List (List Char) → List (List Char)
  | [] => []
  | [s] => [s]
  | s :: t :: rest =>
    s :: ((t :: rest).dropLast.filter (!·.isEmpty) ++ ((t :: rest).getLast?).toList)

/-- The segments of a path that is taken from a base path. -/
def segmentsFrom (base path : List Char) : List (List Char) :=
  match path with
  | '/' :: _ => Text.split '/' path
  | _ =>
    let parts := Text.split '/' base
    let directory := if parts.getLast? = some [] then parts else parts.dropLast
    dropEmptyInside (directory ++ Text.split '/' path)

/-- A path without `.` and `..`. -/
def resolvePath (base path : List Char) : List Char :=
  let segments := segmentsFrom base path
  let resolved := (segments.foldl resolveSegment []).reverse
  let last := segments.getLast?
  let resolved :=
    if last = some ['.'] ∨ last = some ['.', '.'] then resolved ++ [[]] else resolved
  match Text.join ['/'] resolved with
  | [] => ['/']
  | path => path

/-- The reference that `url` stands for, given the parts of a base that has the
same scheme. -/
def Reference.within (base url : Reference) : Reference :=
  if !url.host.isEmpty then url
  else if url.path.isEmpty && url.params.isEmpty then
    { url with
      host := base.host, path := base.path, params := base.params
      query := if url.query.isEmpty then base.query else url.query }
  else { url with host := base.host, path := resolvePath base.path url.path }

/-- A reference resolved against a base. -/
def resolve (base url : List Char) : Except HostFault (List Char) :=
  if base.isEmpty then .ok url
  else if url.isEmpty then .ok base
  else do
    let b ← split [] base
    let u ← split b.scheme url
    if u.scheme ≠ b.scheme || !isHierarchical u.scheme then return url
    return (b.within u).text

end Url
end BareMetal
