/-
# Versions

A version has, in this order, an epoch, a release of one or more numbers, and
perhaps a pre-release, a post-release, a development number and local segments.
Its normal form is

    epoch!1.2.3a4.post5.dev6+local.7

where an epoch of zero is left out, as is every part that is absent.
-/

namespace BareMetal

/-- The stage of a pre-release. -/
inductive Stage where
  | alpha
  | beta
  | candidate
deriving DecidableEq, Repr

/-- The letters of a stage in the normal form. -/
def Stage.letters : Stage → String
  | alpha => "a"
  | beta => "b"
  | candidate => "rc"

/-- A segment of the local part. -/
inductive Segment where
  | number (n : Nat)
  | word (s : String)
deriving DecidableEq, Repr

/-- The text of a segment. -/
def Segment.text : Segment → String
  | number n => toString n
  | word s => s

/-- A version. The release is not empty when the version comes from a text. -/
structure Version where
  epoch : Nat := 0
  release : List Nat
  pre : Option (Stage × Nat) := none
  post : Option Nat := none
  dev : Option Nat := none
  locals : List Segment := []
deriving DecidableEq, Repr

namespace Version

/-- Numbers with points between them. -/
def dotted (ns : List Nat) : String := ".".intercalate (ns.map toString)

/-- The normal form of a version. -/
def text (v : Version) : String :=
  (if v.epoch = 0 then "" else s!"{v.epoch}!") ++ dotted v.release ++
    (match v.pre with
      | some (stage, n) => s!"{stage.letters}{n}"
      | none => "") ++
    (match v.post with
      | some n => s!".post{n}"
      | none => "") ++
    (match v.dev with
      | some n => s!".dev{n}"
      | none => "") ++
    (if v.locals.isEmpty then "" else "+" ++ ".".intercalate (v.locals.map Segment.text))

/-- The release with at least three numbers, as messages show a version. -/
def releaseText (v : Version) : String :=
  dotted (v.release ++ List.replicate (3 - v.release.length) 0)

end Version
end BareMetal
