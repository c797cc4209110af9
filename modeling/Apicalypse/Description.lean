import Apicalypse.Text.Quoted

/-!
# Descriptions of values

The text in which a value is shown to a developer, on one line: words, quoted texts, lists in
brackets, applications such as `Some(1)` and records with named fields. Log messages and errors
name field references by it.
-/

namespace Apicalypse

/-- The shape of the text that shows a value. -/
inductive Description where
  | word (text : String)
  | quoted (text : String)
  | list (items : List Description)
  | apply (name : String) (argument : Description)
  | record (name : String) (fields : List (String × Description))

namespace Description

mutual

/-- The text of a description. -/
def render : Description → String
  | word text => text
  | quoted text => Text.quote text
  | list items => "[" ++ renderItems items ++ "]"
  | apply name argument => name ++ "(" ++ argument.render ++ ")"
  | record name fields => name ++ " \x7b " ++ renderFields fields ++ " \x7d"

/-- The items of a list with a comma and a space between them. -/
def renderItems : List Description → String
  | [] => ""
  | [item] => item.render
  | item :: next :: rest => item.render ++ ", " ++ renderItems (next :: rest)

/-- The fields of a record with a comma and a space between them. -/
def renderFields : List (String × Description) → String
  | [] => ""
  | [field] => renderField field
  | field :: next :: rest => renderField field ++ ", " ++ renderFields (next :: rest)

/-- A field's name and value. -/
def renderField : String × Description → String
  | (name, value) => name ++ ": " ++ value.render

end

/-- An optional value. -/
def option (describe : α → Description) : Option α → Description
  | none => word "None"
  | some value => apply "Some" (describe value)

end Description

/-- A type whose values can be shown. -/
class Describable (α : Type u) where
  describe : α → Description

export Describable (describe)

end Apicalypse
