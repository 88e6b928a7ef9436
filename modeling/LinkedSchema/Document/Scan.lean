import LinkedSchema.Document.Literal

/-!
# Scanning

`scan` splits a text into lexemes.  Blanks, commas and comments between tokens are ignored.
It goes as far as the text can be split: the result says where it stopped, and whether that is
the end of the text.
-/

namespace LinkedSchema.Document

/-- A text as far as it can be split into lexemes: `stop` is the position of what follows
them, and `complete` says whether nothing does. -/
structure Input where
  lexemes : List Lexeme
  stop : Position
  complete : Bool
deriving Inhabited

/-- The position of the next lexeme, or of what follows the last one. -/
def Input.position (input : Input) : Position :=
  match input.lexemes with
  | [] => input.stop
  | lexeme :: _ => lexeme.position

/-- The position after the characters of a token: one column for each of them, but columns
are counted anew after a line feed. -/
def after (p : Position) (cs : List Char) : Position :=
  let tail := cs.reverse.takeWhile (· ≠ '\n')
  if tail.length = cs.length then ⟨p.line, p.column + cs.length⟩
  else ⟨p.line + cs.count '\n', 1 + tail.length⟩

/-- Skips what stands between tokens.  A tab counts for eight columns, and a carriage return
or a byte order mark for none.  A comment ends with the first line feed or carriage return,
which then starts a new line. -/
def skipIgnored : (comment : Bool) → Position → List Char → Position × List Char
  | _, p, [] => (p, [])
  | true, p, c :: rest =>
    if c = '\n' || c = '\r' then skipIgnored false ⟨p.line + 1, 1⟩ rest
    else skipIgnored true p rest
  | false, p, c :: rest =>
    if c = ' ' || c = ',' then skipIgnored false ⟨p.line, p.column + 1⟩ rest
    else if c = '\t' then skipIgnored false ⟨p.line, p.column + 8⟩ rest
    else if c = '\n' then skipIgnored false ⟨p.line + 1, 1⟩ rest
    else if c = '\r' || c = '\ufeff' then skipIgnored false p rest
    else if c = '#' then skipIgnored true p rest
    else (p, c :: rest)

/-- Whether a character may open a name. -/
def opensName (c : Char) : Bool := c.isAlpha || c = '_'

/-- Whether a character may stand in a name. -/
def continuesName (c : Char) : Bool := c.isAlphanum || c = '_'

/-- Reads the token that opens with `first`, with the number of characters of `rest` that
belong to it. -/
def readToken? (first : Char) (rest : List Char) : Option (Token × Nat) :=
  if let some mark := Mark.ofChar? first then some (.mark mark, 0)
  else if first = '.' then
    if rest.take 2 = ['.', '.'] then some (.mark .spread, 2) else none
  else if opensName first then
    let name := rest.takeWhile continuesName
    some (.name (String.ofList (first :: name)), name.length)
  else if first = '-' || first.isDigit then
    let digits := rest.takeWhile (fun c => !Literal.endsNumber c)
    (Literal.number? (first :: digits)).map fun token => (token, digits.length)
  else if first = '"' then
    if rest.take 2 = ['"', '"'] then
      let inside := rest.drop 2
      (Literal.blockLength? '"' inside).map fun length =>
        (.text (String.ofList (Literal.blockText (inside.take length))), length + 5)
    else do
      let length ← Literal.lineLength? false rest
      let text ← Literal.unescape? (rest.take length)
      return (.text (String.ofList text), length + 1)
  else none

theorem length_skipIgnored_le (comment : Bool) (p : Position) (cs : List Char) :
  (skipIgnored comment p cs).2.length ≤ cs.length
  := by
  fun_induction skipIgnored comment p cs <;> simp_all <;> omega

/-- Splits the characters from position `p` on into lexemes. -/
def scanFrom (p : Position) (cs : List Char) : Input :=
  match _skipped : skipIgnored false p cs with
  | (start, []) => ⟨[], start, true⟩
  | (start, first :: rest) =>
    match readToken? first rest with
    | none => ⟨[], start, false⟩
    | some (token, length) =>
      let input := scanFrom (after start (first :: rest.take length)) (rest.drop length)
      { input with lexemes := ⟨token, start⟩ :: input.lexemes }
termination_by cs.length
decreasing_by
  have := length_skipIgnored_le false p cs
  simp only [_skipped, List.length_cons] at this
  simp only [List.length_drop]
  omega

/-- Splits a text into lexemes. -/
def scan (text : String) : Input := scanFrom ⟨1, 1⟩ text.toList

end LinkedSchema.Document
