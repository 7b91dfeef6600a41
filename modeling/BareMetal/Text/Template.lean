/-
# Filling templates

A template is a text with places for arguments, `%s` or `%d`, each of which takes
the next argument; `%%` is a percent sign. A template without any argument stands
for itself.
-/

namespace BareMetal
namespace Text

/-- An argument of a template. -/
inductive Argument where
  | text (s : String)
  | number (n : Int)
deriving DecidableEq, Repr

/-- The text of an argument. -/
def Argument.shown : Argument → String
  | text s => s
  | number n => toString n

/-- The characters of a template with its places filled. A place without an
argument stays as it is. -/
def fillPlaces : List Char → List Argument → List Char
  | '%' :: '%' :: cs, args => '%' :: fillPlaces cs args
  | '%' :: c :: cs, arg :: args =>
    if c = 's' ∨ c = 'd' then arg.shown.toList ++ fillPlaces cs args
    else '%' :: c :: fillPlaces cs (arg :: args)
  | c :: cs, args => c :: fillPlaces cs args
  | [], _ => []

/-- A template with its places filled. -/
def fill (template : String) (args : List Argument) : String :=
  if args.isEmpty then template else String.ofList (fillPlaces template.toList args)

end Text
end BareMetal
