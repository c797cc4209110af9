import Apicalypse.Filter
import Apicalypse.Json.Shape

/-!
# Filter documents

Filters written in JSON: comparisons under groups.

* `FilterDocument.ofJson?`: the document that a JSON value writes. Groups may hold other members,
  comparisons may not, and the first of the three forms that fits is taken.
* `FilterDocument.toFilter`: the filter of a document. Groups are joined from left to right, and
  the first fault from the left is reported.
* `FilterDocument.parseFilter`: the filter of a text.
-/

namespace Apicalypse

/-- A comparison of a document. -/
structure DocumentLeaf where
  field : String
  op : String
  value : Option Json.Value
  values : Option (List Json.Value)
  case : Case
  deriving Repr

/-- A filter written in JSON. -/
inductive FilterDocument where
  | group (connective : Connective) (members : List FilterDocument)
  | leaf (comparison : DocumentLeaf)
  deriving Repr

/-! ## Matching -/

namespace DocumentLeaf

/-- An optional value; `null` is as good as none. -/
def optional : Json.Value → Option Json.Value
  | .null => none
  | value => some value

/-- An optional list; `null` is as good as none. -/
def optionalList? : Json.Value → Option (Option (List Json.Value))
  | .null => some none
  | .list items => some (some items)
  | _ => none

/-- A string. -/
def string? : Json.Value → Option String
  | .string text => some text
  | _ => none

/-- A case by its name, written `"name"` or `{"name": null}`. -/
def case? : Json.Value → Option Case
  | .string name => Case.json.ofName? name
  | .object [(name, .null)] => Case.json.ofName? name
  | _ => none

/-- The members that a comparison may have. -/
def memberNames : List String := ["field", "op", "value", "values", "case"]

/-- The value of the first member with a name. -/
def member? (name : String) (members : List (String × Json.Value)) : Option Json.Value :=
  (members.find? (·.1 = name)).map (·.2)

/-- The comparison of an object without unknown and without repeated members. -/
def ofMembers? (members : List (String × Json.Value)) : Option DocumentLeaf :=
  let names := members.map (·.1)
  if names.all (· ∈ memberNames) && decide names.Nodup then do
    let field ← string? (← member? "field" members)
    let op ← string? (← member? "op" members)
    let values ← match member? "values" members with
      | none => some none
      | some value => optionalList? value
    let case ← match member? "case" members with
      | none => some default
      | some value => case? value
    return ⟨field, op, (member? "value" members).bind optional, values, case⟩
  else none

/-- The comparison of a list of its parts in order, of which the last three may be missing. -/
def ofItems? : List Json.Value → Option DocumentLeaf
  | [field, op] => return ⟨← string? field, ← string? op, none, none, default⟩
  | [field, op, value] => return ⟨← string? field, ← string? op, optional value, none, default⟩
  | [field, op, value, values] =>
    return ⟨← string? field, ← string? op, optional value, ← optionalList? values, default⟩
  | [field, op, value, values, case] =>
    return ⟨← string? field, ← string? op, optional value, ← optionalList? values, ← case? case⟩
  | _ => none

end DocumentLeaf

namespace FilterDocument

mutual

/-- The document that a value writes: a group of `and`, a group of `or`, or a comparison. -/
def ofJson? : Json.Value → Option FilterDocument
  | .object members =>
    match groups "and" members, groups "or" members with
    | [some documents], _ => some (.group .and documents)
    | _, [some documents] => some (.group .or documents)
    | _, _ => leaf <$> DocumentLeaf.ofMembers? members
  | .list items => leaf <$> DocumentLeaf.ofItems? items
  | _ => none

/-- The documents in each member with a name, or nothing for a member that is no list of them. -/
def groups (name : String) : List (String × Json.Value) → List (Option (List FilterDocument))
  | [] => []
  | member :: rest =>
    if member.1 = name then groupOf member :: groups name rest else groups name rest

/-- The documents in a member. -/
def groupOf : String × Json.Value → Option (List FilterDocument)
  | (_, value) => listOf value

/-- The documents in a list. -/
def listOf : Json.Value → Option (List FilterDocument)
  | .list items => allOf items
  | _ => none

/-- The documents that all of the values write. -/
def allOf : List Json.Value → Option (List FilterDocument)
  | [] => some []
  | item :: rest => do
    let document ← ofJson? item
    return document :: (← allOf rest)

end

end FilterDocument

/-! ## Conversion -/

/-- Why a document is no filter. -/
inductive DocumentError where
  | json (failure : Json.Failure)
  | unknownOperator (op : String)
  | emptyGroup (connective : Connective)
  | missingValues (field op : String)
  | unexpectedValues (field op : String)
  | notScalar (field : String)
  deriving DecidableEq, Repr

namespace DocumentError

/-- The error in words. What exactly is wrong with a JSON text is said only when it has the wrong
shape. -/
def message : DocumentError → String
  | json .mismatch => "Invalid JSON: data did not match any variant of untagged enum FilterDocument"
  | json _ => "Invalid JSON"
  | unknownOperator op => "Unknown operator: " ++ op
  | emptyGroup connective => "Empty '" ++ connective.name ++ "' group"
  | missingValues field op => "Operator " ++ op ++ " on " ++ field ++ " needs a 'values' list"
  | unexpectedValues field op => "Operator " ++ op ++ " on " ++ field ++ " takes a single 'value'"
  | notScalar field => "Value for " ++ field ++ " must be a string, number, boolean or null"

end DocumentError

namespace DocumentLeaf

/-- The text of a value that is neither a list nor an object. -/
def scalarText? : Json.Value → Option String
  | .string text => some text
  | .number n => some n.text
  | .boolean true => some "true"
  | .boolean false => some "false"
  | .null => some "null"
  | .list _ | .object _ => none

/-- The texts of values that are all neither lists nor objects. -/
def scalarTexts? (values : List Json.Value) : Option (List String) := values.mapM scalarText?

/-- The operator of a comparison, which must not be a connective. -/
def operator? (leaf : DocumentLeaf) : Option Operator :=
  (Operator.ofName? leaf.op leaf.case).filter (!·.isLogical)

/-- The text of the comparand: a list for an operator of membership, a single value for the
others, `null` when there is none. -/
def comparandText (leaf : DocumentLeaf) (operator : Operator) : Except DocumentError String :=
  if operator.isMembership then
    match leaf.values with
    | none => .error (.missingValues leaf.field leaf.op)
    | some values =>
      match scalarTexts? values with
      | some texts => .ok (Text.joined "," texts)
      | none => .error (.notScalar leaf.field)
  else
    match leaf.values, leaf.value with
    | some _, _ => .error (.unexpectedValues leaf.field leaf.op)
    | none, none => .ok "null"
    | none, some value =>
      match scalarText? value with
      | some text => .ok text
      | none => .error (.notScalar leaf.field)

/-- The filter of a comparison. The field is a wire name, taken literally. -/
def toFilter (leaf : DocumentLeaf) : Except DocumentError Filter :=
  match leaf.operator? with
  | none => .error (.unknownOperator leaf.op)
  | some operator => Filter.ofText (.name leaf.field) operator <$> leaf.comparandText operator

end DocumentLeaf

namespace FilterDocument

mutual

/-- The filter of a document. -/
def toFilter : FilterDocument → Except DocumentError Filter
  | leaf comparison => comparison.toFilter
  | group connective [] => .error (.emptyGroup connective)
  | group connective (first :: rest) => do joinAll connective (← first.toFilter) rest

/-- A filter joined with those of more documents, from left to right. -/
def joinAll (connective : Connective) (joined : Filter) :
    List FilterDocument → Except DocumentError Filter
  | [] => .ok joined
  | next :: rest => do joinAll connective (joined.join connective (← next.toFilter)) rest

end

/-- The document that a text writes. The value is read and matched before what follows it. -/
def parse (text : String) : Except Json.Failure FilterDocument := do
  let (value, rest) ← Json.read (Json.tokens text.toList)
  match ofJson? value with
  | none => throw .mismatch
  | some document =>
    Json.finish rest
    return document

/-- The filter that a text writes. -/
def parseFilter (text : String) : Except DocumentError Filter := do
  let document ← (parse text).mapError DocumentError.json
  document.toFilter

end FilterDocument

end Apicalypse
