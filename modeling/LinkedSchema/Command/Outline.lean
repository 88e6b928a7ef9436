import LinkedSchema.Text.Quoted

/-!
# Outlines

Faults of the command are shown as an outline: each part on lines of its own, indented below
the part that it belongs to, and followed by a comma.
-/

namespace LinkedSchema.Outline

/-- The lines of a part of an outline. -/
abbrev Lines := List String

/-- Lines with a comma after the last of them. -/
def comma : Lines → Lines
  | [] => []
  | [line] => [line ++ ","]
  | line :: rest => line :: comma rest

/-- Lines of which the first one begins with a label. -/
def label (text : String) : Lines → Lines
  | [] => []
  | line :: rest => (text ++ ": " ++ line) :: rest

/-- Parts between an opening and a closing line. -/
def nest (opening : String) (parts : List Lines) (closing : String) : Lines :=
  opening :: parts.flatMap (fun part => (comma part).map ("    " ++ ·)) ++ [closing]

/-- A record of labelled parts. -/
def record (name : String) (parts : List (String × Lines)) : Lines :=
  nest (name ++ " \x7b") (parts.map fun part => label part.1 part.2) "\x7d"

/-- The text of lines. -/
def text (lines : Lines) : String := "\n".intercalate lines

end LinkedSchema.Outline
