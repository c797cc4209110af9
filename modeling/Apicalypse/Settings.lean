import Apicalypse.Json.Enumeration
import Apicalypse.Text.Decimal
import Apicalypse.Text.Lowercase

/-!
# Settings

The tier of the account that asks, which bounds how many results one query may ask for, and the
limit used when a command line gives none.

* `Tier.parse?`, `Tier.json`: a tier by its name, in capital or small letters, and in JSON.
* `Settings.lookup`: the settings from named texts such as environment variables.
* `Settings.read`, `Settings.toJson`: the settings in JSON. Unknown members are passed over, and
  a member must not be repeated.
-/

namespace Apicalypse

open Json (Failure Token)

/-! ## Tiers -/

/-- The tier of an account. -/
inductive Tier where
  | free
  | pro
  | partner
  deriving DecidableEq, Repr

namespace Tier

instance : Inhabited Tier := ⟨free⟩

/-- The name of a tier. -/
def name : Tier → String
  | free => "free"
  | pro => "pro"
  | partner => "partner"

/-- The tier of a name in any mixture of capital and small letters. -/
def parse? (s : String) : Option Tier :=
  match Text.lowercase s with
  | "free" => some free
  | "pro" => some pro
  | "partner" => some partner
  | _ => none

/-- The tiers in JSON. -/
def json : Json.Enumeration Tier where
  values := [free, pro, partner]
  style := .snakeCase
  identifier
    | free => "Free"
    | pro => "Pro"
    | partner => "Partner"
  aliases _ := []

/-- The greatest limit that a tier allows. -/
def maxLimit : Tier → UInt64
  | free => 50
  | pro => 500
  | partner => 5000

end Tier

/-! ## Settings -/

/-- What is configured for all queries. -/
structure Settings where
  tier : Tier
  defaultLimit : Option UInt64
  deriving DecidableEq, Repr

namespace Settings

/-- Nothing is configured. -/
instance : Inhabited Settings := ⟨⟨default, none⟩⟩

/-- The limit is beyond what the tier allows. -/
def exceedsTier (settings : Settings) (limit : UInt64) : Bool := settings.tier.maxLimit < limit

/-! ## Named texts -/

/-- The name of the text that holds the tier. -/
def tierKey : String := "APICALYPSE_TIER"

/-- The name of the text that holds the limit. -/
def limitKey : String := "APICALYPSE_DEFAULT_LIMIT"

/-- Why a text is no setting. -/
inductive Problem where
  | unknownTier (text : String)
  | badLimit (reason : Text.NumeralError)
  deriving DecidableEq, Repr

namespace Problem

/-- The name of the text at fault. -/
def key : Problem → String
  | unknownTier _ => tierKey
  | badLimit _ => limitKey

/-- What is wrong with the text. -/
def detail : Problem → String
  | unknownTier text => "unknown tier '" ++ text ++ "'"
  | badLimit reason => reason.message

/-- The problem in words. -/
def message (problem : Problem) : String :=
  "Invalid value for " ++ problem.key ++ ": " ++ problem.detail

end Problem

/-- The tier that is looked up, or the default when there is none. -/
def lookupTier (texts : String → Option String) : Except Problem Tier :=
  match texts tierKey with
  | none => .ok default
  | some text =>
    match Tier.parse? text with
    | some tier => .ok tier
    | none => .error (.unknownTier text)

/-- The limit that is looked up. -/
def lookupLimit (texts : String → Option String) : Except Problem (Option UInt64) :=
  match texts limitKey with
  | none => .ok none
  | some text =>
    match Text.readWord text with
    | .ok limit => .ok (some limit)
    | .error reason => .error (.badLimit reason)

/-- The settings that are looked up, the tier before the limit. -/
def lookup (texts : String → Option String) : Except Problem Settings := do
  let tier ← lookupTier texts
  return ⟨tier, ← lookupLimit texts⟩

/-! ## JSON -/

/-- The settings as a JSON value. -/
def toJson (settings : Settings) : Json.Value :=
  .object [
    ("tier", Tier.json.toJson settings.tier),
    ("default_limit", match settings.defaultLimit with
      | none => .null
      | some limit => .number (.integer limit.toNat))]

/-- The members of the settings that have been read. -/
structure Found where
  tier : Option Tier
  limit : Option (Option UInt64)

namespace Found

/-- The settings, with the defaults for what was not found. -/
def settings (found : Found) : Settings := ⟨found.tier.getD default, found.limit.getD none⟩

/-- Reads a member's value after its name. -/
def readMember (found : Found) (name : String) (rest : List Token) :
    Except Failure (Found × List Token) :=
  if name = "tier" then
    if found.tier.isSome then .error .mismatch
    else do
      let (tier, rest) ← Tier.json.read (← Json.expect .colon rest)
      return ({ found with tier := some tier }, rest)
  else if name = "default_limit" then
    if found.limit.isSome then .error .mismatch
    else do
      let (limit, rest) ← Json.readWord? (← Json.expect .colon rest)
      return ({ found with limit := some limit }, rest)
  else do
    return (found, ← Json.skip (← Json.expect .colon rest))

/-- Reads the members from a name on, up to the end of the object. Each member takes a token at
least, so as many members as tokens are enough. -/
def readMembers (found : Found) (tokens : List Token) :
    Nat → Except Failure (Settings × List Token)
  | 0 => .error .ended
  | members + 1 => do
    let (name, rest) ← Json.readName tokens
    let (found, rest) ← found.readMember name rest
    match rest with
    | [] => throw .ended
    | .closeObject :: rest => return (found.settings, rest)
    | .comma :: rest => found.readMembers rest members
    | _ :: _ => throw .malformed

end Found

/-- Reads the two settings in a list, after its opening bracket. -/
def readItems (tokens : List Token) : Except Failure (Settings × List Token) :=
  if tokens.head? = some .closeList then .error .mismatch
  else do
    let (tier, rest) ← Tier.json.read tokens
    match rest with
    | [] => throw .ended
    | .closeList :: _ => throw .mismatch
    | .comma :: rest =>
      if rest.head? = some .closeList then throw .malformed
      else
        let (limit, rest) ← Json.readWord? rest
        return (⟨tier, limit⟩, ← Json.expect .closeList rest)
    | _ :: _ => throw .malformed

/-- Reads settings from an object with any of the members `tier` and `default_limit`, or from the
list of both. -/
def read : List Token → Except Failure (Settings × List Token)
  | [] => .error .ended
  | .openObject :: .closeObject :: rest => .ok (default, rest)
  | .openObject :: rest => Found.readMembers ⟨none, none⟩ rest rest.length
  | .openList :: rest => readItems rest
  | token :: _ => .error token.misfit

end Settings

end Apicalypse
