import Apicalypse.Text.Decimal
import Apicalypse.Text.Quoted

/-!
# Parts of texts

A part of a text is given by the positions of its first byte and of the byte after its last one.
There is such a part when both positions stand between characters.

* `byteLength`: how many bytes a text takes.
* `SliceFault`: why there is no part between two positions, with the reason in words.
* `cutAt`: a text cut in two.
* `slice`: the part between two positions.
-/

namespace Apicalypse.Text

/-- How many bytes a text takes. -/
def byteLength : List Char → Nat
  | [] => 0
  | c :: rest => c.utf8Size + byteLength rest

/-! ## Faults -/

/-- One end of a part. -/
inductive Edge where
  | start
  | stop
  deriving DecidableEq, Repr

/-- The word for an end. -/
def Edge.name : Edge → String
  | start => "start"
  | stop => "end"

/-- Why there is no part between two positions. -/
inductive SliceFault where
  /-- The position is behind the end of the text. -/
  | beyond (edge : Edge) (position length : Nat)
  | backwards (start stop : Nat)
  /-- The position is inside of a character, which begins at `first`. -/
  | inside (edge : Edge) (position : Nat) (c : Char) (first : Nat)
  deriving DecidableEq, Repr

/-- The fault in words. -/
def SliceFault.message : SliceFault → String
  | beyond edge position length =>
    edge.name ++ " byte index " ++ decimal position ++ " is out of bounds for string of length "
      ++ decimal length
  | backwards start stop =>
    "byte range starts at " ++ decimal start ++ " but ends at " ++ decimal stop
  | inside edge position c first =>
    edge.name ++ " byte index " ++ decimal position ++ " is not a char boundary; it is inside '"
      ++ String.ofList (escapeChar c) ++ "' (bytes " ++ decimal first ++ ".."
      ++ decimal (first + c.utf8Size) ++ " of string)"

/-! ## Cutting -/

/-- The text that begins at position `first`, cut at a position that is not behind its end. -/
def cutAt (edge : Edge) (position first : Nat) :
    List Char → Except SliceFault (List Char × List Char)
  | [] => .ok ([], [])
  | c :: rest =>
    if position ≤ first then .ok ([], c :: rest)
    else if position < first + c.utf8Size then .error (.inside edge position c first)
    else do
      let (before, after) ← cutAt edge position (first + c.utf8Size) rest
      return (c :: before, after)

/-- The part of a text between two positions. -/
def slice (text : List Char) (start stop : Nat) : Except SliceFault (List Char) :=
  if byteLength text < start then .error (.beyond .start start (byteLength text))
  else if byteLength text < stop then .error (.beyond .stop stop (byteLength text))
  else if stop < start then .error (.backwards start stop)
  else do
    let (_, rest) ← cutAt .start start 0 text
    let (part, _) ← cutAt .stop stop start rest
    return part

end Apicalypse.Text
