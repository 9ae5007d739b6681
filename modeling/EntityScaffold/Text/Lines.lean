/-!
Lines of a document. A line ends at a line feed, and one carriage return right before the line feed
belongs to the ending; any other carriage return is part of the line. A last line needs no ending,
and an ending starts no further line.
-/

namespace EntityScaffold.Text

/-- the lines of a text, without their endings -/
def splitLines : List Char → List (List Char)
  | [] => []
  | '\n' :: rest => [] :: splitLines rest
  | '\r' :: '\n' :: rest => [] :: splitLines rest
  | c :: rest =>
    match splitLines rest with
    | [] => [[c]]
    | line :: lines => (c :: line) :: lines

/-- the lines of a text, each with its number; the first is line 1 -/
def numberedLines (text : List Char) : List (List Char × Nat) := (splitLines text).zipIdx 1

/-- the text of lines that each end in a line feed -/
def joinLines (lines : List (List Char)) : List Char := lines.flatMap (· ++ ['\n'])

end EntityScaffold.Text
