import MiniC.Markup.Escape
import MiniC.Markup.Reference
import MiniC.Number.Numeral
import MiniC.Source.Notice
import MiniC.Text.Line
import MiniC.Token.Basic

/-!
# Token records

A token stream is kept as text: a root line, seven lines for each token and a
closing line.  The type of a token is written as the name of its kind or, on
request, as a coarse category from which the kind can be recovered with the
help of the token's text.

The reader is strict.  It accepts blank lines at the end and blanks around the
tags, and refuses everything else, naming the line that is wrong.
-/

namespace MiniC.Record

/-- The line that opens a record file. -/
def rootOpen : String := "<tokens>"

/-- The line that closes a record file. -/
def rootClose : String := "</tokens>"

/-- The line that opens a record. -/
def recordOpen : String := "<token>"

/-- The line that closes a record. -/
def recordClose : String := "</token>"

/-- The number of lines of a record: its fields between two tags. -/
def recordLines : Nat := 7

/-- The line of one field. -/
def fieldLine (name content : String) : String :=
  "<" ++ name ++ ">" ++ content ++ "</" ++ name ++ ">"

/-- The name that a record gives to the kind of its token. -/
def typeName (categories : Bool) (kind : Kind) : String :=
  if categories then kind.category else kind.name

/-- The lines of the record of a token. -/
def lines (categories : Bool) (token : Token) : List String :=
  [recordOpen,
   fieldLine "number" (toString token.number),
   fieldLine "value" (Markup.escaped token.lexeme),
   fieldLine "type" (typeName categories token.kind),
   fieldLine "line" (toString token.line),
   fieldLine "valid" (if token.wellFormed then "true" else "false"),
   recordClose]

/-- The text of a record file. -/
def dump (categories : Bool) (tokens : List Token) : String :=
  String.join
    ((rootOpen :: (tokens.flatMap (lines categories) ++ [rootClose])).map (· ++ "\n"))

/-- What is wrong with a line of a record file. -/
inductive Flaw where
  | rootOpening
  | rootClosing
  | incomplete
  | opening
  | closing
  | field (name : String)
  | integer (text : String)
  | kind (typeName lexeme : String)
  | validity (text : String)
  | earlyEnd
  deriving DecidableEq, Repr

/-- The wording of a flaw. -/
def Flaw.message : Flaw → String
  | .rootOpening => s!"expected '{rootOpen}' on the first line"
  | .rootClosing => s!"expected '{rootClose}' on the last line"
  | .incomplete => s!"incomplete token record, expected {recordLines} lines"
  | .opening => s!"expected '{recordOpen}'"
  | .closing => s!"expected '{recordClose}'"
  | .field name => s!"expected '<{name}>...</{name}>'"
  | .integer text => s!"expected an integer, got {Text.quoted text}"
  | .kind typeName lexeme =>
      s!"unknown token type {Text.quoted typeName} for value {Text.quoted lexeme}"
  | .validity text => s!"invalid 'valid' flag {Text.quoted text}"
  | .earlyEnd => "EOF token before the end of the stream"

/-- Why a record file is refused: a flaw of a line, or a code point too long to
be read. -/
inductive Error where
  | malformed (flaw : Flaw) (index : Nat) (line : Option String)
  | oversizedReference (oversized : Markup.OversizedReference)
  deriving DecidableEq, Repr

/-- A flaw of a line with its index and its text. -/
def malformed (flaw : Flaw) (index : Nat) (line : List Char) : Error :=
  .malformed flaw index (some (String.ofList line))

/-- The notice about a flaw in a named file. -/
def notice (filename : String) (flaw : Flaw) (index : Nat) (line : Option String) :
    Source.Notice :=
  { message := flaw.message
    location := some { filename, line := index + 1 }
    sourceLine := line }

/-- Whether a line holds a tag and only blanks around it. -/
def isTag (tag : String) (line : List Char) : Bool :=
  Text.trim Text.isBlank line == tag.toList

/-- Whether a character is one of the blanks allowed around a field. -/
def isFieldBlank (c : Char) : Bool :=
  c = '\r' || c = '\n' || c = '\t' || c = ' '

/-- The part of a text between an opening and a closing part. -/
def between? (opening closing text : List Char) : Option (List Char) :=
  if opening.isPrefixOf text then
    let body := text.drop opening.length
    if closing.isSuffixOf body then some (body.take (body.length - closing.length)) else none
  else
    none

/-- The content of a field, with its references replaced. -/
def readField (name : String) (index : Nat) (line : List Char) : Except Error String :=
  let opening := ("<" ++ name ++ ">").toList
  let closing := ("</" ++ name ++ ">").toList
  match between? opening closing (Text.trim isFieldBlank line) with
  | none => .error (malformed (.field name) index line)
  | some content =>
      match Markup.unescape content with
      | .error oversized => .error (.oversizedReference oversized)
      | .ok text => .ok (String.ofList text)

/-- The integer that a field holds. -/
def readInteger (content : String) (index : Nat) (line : List Char) : Except Error Int :=
  match Numeral.integer? content.toList with
  | some n => .ok n
  | none => .error (malformed (.integer content) index line)

/-- The kind that a type name stands for, given the text of the token. -/
def kindOf? (typeName lexeme : String) : Option Kind :=
  match Kind.ofName? typeName with
  | some kind => some kind
  | none => Kind.ofCategory? typeName lexeme

/-- The lines of one record. -/
structure Block where
  opening : List Char
  number : List Char
  value : List Char
  type : List Char
  line : List Char
  valid : List Char
  closing : List Char

/-- Read a record whose first line has the given index.  The tags are looked at
first, then the shape of all fields, then what they hold. -/
def readBlock (index : Nat) (block : Block) : Except Error Token := do
  unless isTag recordOpen block.opening do
    throw (malformed .opening index block.opening)
  unless isTag recordClose block.closing do
    throw (malformed .closing (index + 6) block.closing)
  let number ← readField "number" (index + 1) block.number
  let lexeme ← readField "value" (index + 2) block.value
  let type ← readField "type" (index + 3) block.type
  let line ← readField "line" (index + 4) block.line
  let valid ← readField "valid" (index + 5) block.valid
  let number ← readInteger number (index + 1) block.number
  let line ← readInteger line (index + 4) block.line
  match kindOf? type lexeme with
  | none => throw (malformed (.kind type lexeme) (index + 3) block.type)
  | some kind =>
      if valid = "true" then
        return { kind, lexeme, line, wellFormed := true, number }
      else if valid = "false" then
        return { kind, lexeme, line, wellFormed := false, number }
      else
        throw (malformed (.validity valid) (index + 5) block.valid)

/-- Read the records of a file, from the line with the given index on. -/
def readBlocks (index : Nat) : List (List Char) → Except Error (List Token)
  | [] => .ok []
  | opening :: number :: value :: type :: line :: valid :: closing :: rest => do
      let token ← readBlock index { opening, number, value, type, line, valid, closing }
      let tokens ← readBlocks (index + recordLines) rest
      return token :: tokens
  | line :: _ => .error (malformed .incomplete index line)

/-- The lines of a file without the blank lines at its end. -/
def contentLines (text : String) : List (List Char) :=
  ((Text.lines text.toList).reverse.dropWhile fun line => line.all Text.isBlank).reverse

/-- Read the tokens of a file between its root lines. -/
def readTokens (text : String) : Except Error (List Token) :=
  match contentLines text with
  | [] => .error (.malformed .rootOpening 0 none)
  | first :: rest =>
      if isTag rootOpen first then
        let last := rest.getLast?.getD first
        if isTag rootClose last then readBlocks 1 rest.dropLast
        else .error (malformed .rootClosing rest.length last)
      else
        .error (malformed .rootOpening 0 first)

/-- Close a list of tokens with an end mark, numbered `free`, unless it has one;
the mark repeats the last line.  An end mark before the last token is refused.
The second component is the first number that is still free. -/
def terminate (firstLine : Option String) (tokens : List Token) (free : Nat) :
    Except Error (List Token × Nat) :=
  match tokens.getLast? with
  | none => .ok ([.endOfInput 1 free], free + 1)
  | some last =>
      if last.kind ≠ .endOfInput then
        .ok (tokens ++ [.endOfInput last.line free], free + 1)
      else if tokens.dropLast.any fun token => token.kind = .endOfInput then
        .error (.malformed .earlyEnd 0 firstLine)
      else
        .ok (tokens, free)

/-- The tokens of a record file, closed with an end mark. -/
def load (text : String) (free : Nat) : Except Error (List Token × Nat) := do
  let tokens ← readTokens text
  terminate ((contentLines text).head?.map String.ofList) tokens free

end MiniC.Record
