/-
# Joining path segments

A base and segments are written with exactly one slash between two of them and
one at the end. Slashes at the end of the base and around a segment do not
count, and a segment of slashes alone is left out.
-/

import BareMetal.Text.Blank

namespace BareMetal
namespace Url

/-- The text without slashes at its end. -/
def dropEndSlashes (cs : List Char) : List Char := Text.trimRight (· = '/') cs

/-- Writes a segment behind a text that does not end in a slash. -/
def appendSegment (url segment : List Char) : List Char :=
  match Text.trim (· = '/') segment with
  | [] => url
  | segment => url ++ '/' :: segment

/-- A base and segments as one text that ends in one slash. -/
def joinSegments (base : List Char) (segments : List (List Char)) : List Char :=
  segments.foldl appendSegment (dropEndSlashes base) ++ ['/']

/-- A base and segments as one text that ends in one slash. -/
def join (base : String) (segments : List String) : String :=
  String.ofList (joinSegments base.toList (segments.map String.toList))

end Url
end BareMetal
