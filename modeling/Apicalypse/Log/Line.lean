import Apicalypse.Log
import Apicalypse.Text.Decimal
import Apicalypse.Text.Quoted

/-!
# Log lines

An event on one line: level, target, message and fields. Characters that would steer a terminal
are written by their code in a message; a field's text is quoted.
-/

namespace Apicalypse

namespace EventValue

/-- The value as it stands after a field's name. -/
def render : EventValue → String
  | .text content => Text.quote content
  | word content => content
  | number value => Text.decimal value
  | boolean true => "true"
  | boolean false => "false"

end EventValue

namespace Event

/-- A character of a message. -/
def messageChar (c : Char) : List Char :=
  if c.toNat = 0x1B then ['\\', 'x', '1', 'b']
  else if c.toNat = 0x07 then ['\\', 'x', '0', '7']
  else if c.toNat = 0x08 then ['\\', 'x', '0', '8']
  else if c.toNat = 0x0C then ['\\', 'x', '0', 'c']
  else if c.toNat = 0x7F then ['\\', 'x', '7', 'f']
  else if 0x80 ≤ c.toNat ∧ c.toNat ≤ 0x9F then Text.codePointEscape c
  else [c]

/-- The message as it stands in a line. -/
def messageText (event : Event) : String :=
  String.ofList (event.message.toList.flatMap messageChar)

/-- The line of an event. -/
def line (event : Event) : String :=
  event.level.name ++ " " ++ event.target ++ ": " ++ event.messageText
    ++ String.join (event.fields.map fun (name, value) => " " ++ name ++ "=" ++ value.render)

end Event

end Apicalypse
