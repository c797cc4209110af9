/-!
# Splitting at a separator

* `split`: all pieces between the separators; there is one more of them than of the separators,
  and an empty text is one empty piece.
* `splitFirst?`: what stands before and after the first separator.
* `joined`: the pieces written one after the other with the separators between them.
-/

namespace Apicalypse.Text

/-- The pieces of a text between the occurrences of a separator. -/
def split (sep : Char) : List Char → List (List Char)
  | [] => [[]]
  | c :: rest =>
    if c = sep then [] :: split sep rest
    else match split sep rest with
      | [] => [[c]]
      | piece :: pieces => (c :: piece) :: pieces

/-- The two sides of the first separator, or nothing when there is none. -/
def splitFirst? (sep : Char) : List Char → Option (List Char × List Char)
  | [] => none
  | c :: rest =>
    if c = sep then some ([], rest)
    else (splitFirst? sep rest).map fun (before, after) => (c :: before, after)

/-- The pieces of a text between the occurrences of a separator, as texts. -/
def pieces (sep : Char) (s : String) : List String := (split sep s.toList).map String.ofList

/-- Texts written one after the other with a separator between them. -/
def joined (sep : String) (texts : List String) : String := sep.intercalate texts

end Apicalypse.Text
