/-!
# Physical lines

A text as the list of its physical lines. A line ends at a line feed, which may follow a carriage
return; a text that ends in a line break has no empty line after it, and a carriage return at the
very end of the text is an ordinary character of the last line.
-/

namespace ShaderPipeline.Text

/-- The physical lines of a text, without their line breaks. -/
def lines : List Char → List (List Char)
  | [] => []
  | '\n' :: rest => [] :: lines rest
  | '\r' :: '\n' :: rest => [] :: lines rest
  | c :: rest =>
    match lines rest with
    | [] => [[c]]
    | line :: more => (c :: line) :: more

end ShaderPipeline.Text
