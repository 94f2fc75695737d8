/-!
# JSON text

Values as JSON text over several lines: two blanks of indentation for each level, an array or
object without members on one line, and a blank after the colon of a member. In strings, quotation
marks, backslashes and control characters are escaped, the latter by their short forms where they
have one; all other characters stand for themselves.
-/

namespace ShaderPipeline

/-- A value that can be written as JSON. Members of objects are written in the given order. -/
inductive JsonValue where
  | null
  | bool (value : Bool)
  | number (value : Nat)
  | string (text : String)
  | array (items : List JsonValue)
  | object (members : List (String × JsonValue))

namespace JsonValue

/-- A value that may be absent. -/
def ofOption {α : Type} (f : α → JsonValue) : Option α → JsonValue
  | none => .null
  | some a => f a

/-- A list of values. -/
def ofList {α : Type} (f : α → JsonValue) (items : List α) : JsonValue :=
  .array (items.map f)

/-- A hexadecimal digit. -/
def hexDigit (n : Nat) : Char :=
  Char.ofNat (if n < 10 then 48 + n else 87 + n)

/-- What is written for a character of a string. -/
def escapedChar (c : Char) : List Char :=
  match c with
  | '"' => ['\\', '"']
  | '\\' => ['\\', '\\']
  | '\n' => ['\\', 'n']
  | '\r' => ['\\', 'r']
  | '\t' => ['\\', 't']
  | '\x08' => ['\\', 'b']
  | '\x0c' => ['\\', 'f']
  | c =>
    if c.toNat < 0x20 then
      ['\\', 'u', '0', '0', hexDigit (c.toNat / 16), hexDigit (c.toNat % 16)]
    else [c]

/-- A string with its quotation marks. -/
def quoted (text : String) : String :=
  "\"" ++ String.ofList (text.toList.flatMap escapedChar) ++ "\""

/-- The indentation of a level. -/
def indentation (level : Nat) : String := String.ofList (List.replicate (2 * level) ' ')

/-- Lines of members between brackets. -/
def bracketed (level : Nat) (opening closing : String) (members : List String) : String :=
  if members.isEmpty then opening ++ closing
  else
    let inner := indentation (level + 1)
    opening ++ "\n" ++ String.intercalate ",\n" (members.map (inner ++ ·)) ++ "\n" ++
      indentation level ++ closing

mutual

/-- The text of a value at a level of indentation. -/
def render (level : Nat) : JsonValue → String
  | .null => "null"
  | .bool true => "true"
  | .bool false => "false"
  | .number value => toString value
  | .string text => quoted text
  | .array items => bracketed level "[" "]" (renderItems (level + 1) items)
  | .object members => bracketed level "\x7b" "\x7d" (renderMembers (level + 1) members)

/-- The texts of the items of an array. -/
def renderItems (level : Nat) : List JsonValue → List String
  | [] => []
  | item :: rest => render level item :: renderItems level rest

/-- The texts of the members of an object. -/
def renderMembers (level : Nat) : List (String × JsonValue) → List String
  | [] => []
  | (name, value) :: rest => (quoted name ++ ": " ++ render level value) :: renderMembers level rest

end

/-- The text of a value. -/
def text (value : JsonValue) : String := render 0 value

end JsonValue

end ShaderPipeline
