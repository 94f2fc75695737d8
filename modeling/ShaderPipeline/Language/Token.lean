/-!
# Tokens

The words of declarations: identifiers, integers and seven marks. Block bodies are not made of
tokens; they belong to the target language.
-/

namespace ShaderPipeline.Language

/-- A character that can start an identifier. -/
def isWordStart (c : Char) : Bool := c.isAlpha || c == '_'

/-- A character that can continue an identifier. -/
def isWordChar (c : Char) : Bool := c.isAlphanum || c == '_'

/-- A word of a declaration. -/
inductive Token where
  | identifier (name : String)
  | integer (value : Nat)
  | semicolon
  | leftBracket
  | rightBracket
  | leftBrace
  | rightBrace
  | dollar
deriving DecidableEq

namespace Token

/-- The mark that a character is, if it is one. -/
def mark? : Char → Option Token
  | ';' => some .semicolon
  | '[' => some .leftBracket
  | ']' => some .rightBracket
  | '{' => some .leftBrace
  | '}' => some .rightBrace
  | '$' => some .dollar
  | _ => none

/-- The text of a token, an integer without leading zeros. -/
def spelling : Token → String
  | .identifier name => name
  | .integer value => toString value
  | .semicolon => ";"
  | .leftBracket => "["
  | .rightBracket => "]"
  | .leftBrace => "\x7b"
  | .rightBrace => "\x7d"
  | .dollar => "$"

/-- The token in quotation marks, as messages show it. -/
def quoted (token : Token) : String := "'" ++ token.spelling ++ "'"

end Token

end ShaderPipeline.Language
