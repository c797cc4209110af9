import Apicalypse.Json.Value

/-!
# Values of a wanted shape

Readers that ask for a value of one kind at the start of a list of tokens. A fault is reported
where it stands, before anything after it is read.

* `Token.misfit`: how a token of another kind fails.
* `readName`, `readNull`, `readWord?`: a member's name, `null`, and a 64-bit number or `null`.
* `readNamed`: a value known by its name, written `"name"` or `{"name": null}`.
-/

namespace Apicalypse.Json

/-- How a token fails where a value of another kind is wanted. A leaf is still read in full, so a
fault of its own comes first. -/
def Token.misfit : Token → Failure
  | .null | .boolean _ | .openList | .openObject => .mismatch
  | .number literal => match literal.number with
    | .ok _ => .mismatch
    | .error failure => failure
  | .string literal => match literal.text with
    | .ok _ => .mismatch
    | .error failure => failure
  | .brokenWord failure | .brokenNumber failure => failure
  | .closeList | .closeObject | .comma | .colon | .stray => .malformed

/-- One punctuation token. -/
def expect (wanted : Token) : List Token → Except Failure (List Token)
  | [] => .error .ended
  | token :: rest => if token = wanted then .ok rest else .error .malformed

/-- The name of a member. -/
def readName : List Token → Except Failure (String × List Token)
  | [] => .error .ended
  | .string literal :: rest => return (← literal.text, rest)
  | _ :: _ => .error .malformed

/-- The value `null`. -/
def readNull : List Token → Except Failure (List Token)
  | [] => .error .ended
  | .null :: rest => .ok rest
  | token :: _ => .error token.misfit

/-- A whole number below `2^64`, or `null`. -/
def readWord? : List Token → Except Failure (Option UInt64 × List Token)
  | [] => .error .ended
  | .null :: rest => .ok (none, rest)
  | .number literal :: rest => do
    match ← literal.number with
    | .integer (.ofNat n) => return (some (UInt64.ofNat n), rest)
    | _ => throw .mismatch
  | token :: _ => .error token.misfit

/-- A value known by its name. An unknown name is reported before anything after it. -/
def readNamed (ofName? : String → Option α) : List Token → Except Failure (α × List Token)
  | [] => .error .ended
  | .string literal :: rest => do
    match ofName? (← literal.text) with
    | some value => return (value, rest)
    | none => throw .mismatch
  | .openObject :: rest => do
    let (name, rest) ← readName rest
    match ofName? name with
    | none => throw .mismatch
    | some value =>
      let rest ← expect .colon rest
      let rest ← readNull rest
      return (value, ← expect .closeObject rest)
  | _ :: _ => .error .malformed

/-- The value of a whole text. -/
def parse (read : List Token → Except Failure (α × List Token)) (text : String) :
    Except Failure α := do
  let (value, rest) ← read (tokens text.toList)
  finish rest
  return value

end Apicalypse.Json
