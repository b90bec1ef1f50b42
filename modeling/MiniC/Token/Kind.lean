/-!
# Kinds of tokens

Keywords and type specifiers have kinds of their own, so that no symbol table
is needed to tell them from identifiers.  Punctuators and keywords have a
fixed spelling; literals and identifiers do not.
-/

namespace MiniC

/-- The kind of a token. -/
inductive Kind where
  | leftParen | rightParen | leftBracket | rightBracket | leftBrace | rightBrace | comma
  | semicolon | tilde
  | plus | plusAssign | minus | minusAssign | star | starAssign | slash | slashAssign | percent
  | percentAssign
  | ampersand | andAssign | logicalAnd | pipe | orAssign | logicalOr | caret | xorAssign
  | exclamation
  | notEqual | assign | equal | greater | greaterEqual | shiftRight | less | lessEqual
  | shiftLeft
  | identifier | stringLiteral | integerConstant | doubleConstant | charConstant
  | ifWord | elseWord | whileWord | returnWord | breakWord | continueWord | printWord
  | intWord | doubleWord | charWord | voidWord
  | endOfInput
  deriving DecidableEq, Repr, Inhabited

namespace Kind

/-- The punctuators and operators. -/
def punctuators : List Kind :=
  [.leftParen, .rightParen, .leftBracket, .rightBracket, .leftBrace, .rightBrace, .comma,
   .semicolon, .tilde, .plus, .plusAssign, .minus, .minusAssign, .star, .starAssign, .slash,
   .slashAssign, .percent, .percentAssign, .ampersand, .andAssign, .logicalAnd, .pipe,
   .orAssign, .logicalOr, .caret, .xorAssign, .exclamation, .notEqual, .assign, .equal,
   .greater, .greaterEqual, .shiftRight, .less, .lessEqual, .shiftLeft]

/-- The reserved words, type specifiers last. -/
def keywords : List Kind :=
  [.ifWord, .elseWord, .whileWord, .returnWord, .breakWord, .continueWord, .printWord,
   .intWord, .doubleWord, .charWord, .voidWord]

/-- The identifier and the literals. -/
def literals : List Kind :=
  [.identifier, .stringLiteral, .integerConstant, .doubleConstant, .charConstant]

/-- Every kind, in the order of enumeration. -/
def all : List Kind :=
  punctuators ++ literals ++ keywords ++ [.endOfInput]

/-- The name of a kind in token records. -/
def name : Kind → String
  | .leftParen => "LPAREN"
  | .rightParen => "RPAREN"
  | .leftBracket => "LBRACKET"
  | .rightBracket => "RBRACKET"
  | .leftBrace => "LBRACE"
  | .rightBrace => "RBRACE"
  | .comma => "COMMA"
  | .semicolon => "SEMICOLON"
  | .tilde => "TILDE"
  | .plus => "PLUS"
  | .plusAssign => "PLUS_ASSIGN"
  | .minus => "MINUS"
  | .minusAssign => "MINUS_ASSIGN"
  | .star => "STAR"
  | .starAssign => "STAR_ASSIGN"
  | .slash => "SLASH"
  | .slashAssign => "SLASH_ASSIGN"
  | .percent => "PERCENT"
  | .percentAssign => "PERCENT_ASSIGN"
  | .ampersand => "AMPERSAND"
  | .andAssign => "AND_ASSIGN"
  | .logicalAnd => "AND"
  | .pipe => "PIPE"
  | .orAssign => "OR_ASSIGN"
  | .logicalOr => "OR"
  | .caret => "CARET"
  | .xorAssign => "XOR_ASSIGN"
  | .exclamation => "NOT"
  | .notEqual => "NE"
  | .assign => "ASSIGN"
  | .equal => "EQ"
  | .greater => "GT"
  | .greaterEqual => "GE"
  | .shiftRight => "RSHIFT"
  | .less => "LT"
  | .lessEqual => "LE"
  | .shiftLeft => "LSHIFT"
  | .identifier => "IDENTIFIER"
  | .stringLiteral => "STRING"
  | .integerConstant => "INTEGER_CONSTANT"
  | .doubleConstant => "DOUBLE_CONSTANT"
  | .charConstant => "CHAR_CONSTANT"
  | .ifWord => "IF"
  | .elseWord => "ELSE"
  | .whileWord => "WHILE"
  | .returnWord => "RETURN"
  | .breakWord => "BREAK"
  | .continueWord => "CONTINUE"
  | .printWord => "PRINT"
  | .intWord => "INT"
  | .doubleWord => "DOUBLE"
  | .charWord => "CHAR"
  | .voidWord => "VOID"
  | .endOfInput => "EOF"

/-- The kind with a given name. -/
def ofName? (text : String) : Option Kind :=
  all.find? fun kind => kind.name == text

/-- The fixed spelling of a punctuator or keyword. -/
def spelling? : Kind → Option String
  | .leftParen => some "("
  | .rightParen => some ")"
  | .leftBracket => some "["
  | .rightBracket => some "]"
  | .leftBrace => some "\x7b"
  | .rightBrace => some "\x7d"
  | .comma => some ","
  | .semicolon => some ";"
  | .tilde => some "~"
  | .plus => some "+"
  | .plusAssign => some "+="
  | .minus => some "-"
  | .minusAssign => some "-="
  | .star => some "*"
  | .starAssign => some "*="
  | .slash => some "/"
  | .slashAssign => some "/="
  | .percent => some "%"
  | .percentAssign => some "%="
  | .ampersand => some "&"
  | .andAssign => some "&="
  | .logicalAnd => some "&&"
  | .pipe => some "|"
  | .orAssign => some "|="
  | .logicalOr => some "||"
  | .caret => some "^"
  | .xorAssign => some "^="
  | .exclamation => some "!"
  | .notEqual => some "!="
  | .assign => some "="
  | .equal => some "=="
  | .greater => some ">"
  | .greaterEqual => some ">="
  | .shiftRight => some ">>"
  | .less => some "<"
  | .lessEqual => some "<="
  | .shiftLeft => some "<<"
  | .ifWord => some "if"
  | .elseWord => some "else"
  | .whileWord => some "while"
  | .returnWord => some "return"
  | .breakWord => some "break"
  | .continueWord => some "continue"
  | .printWord => some "print"
  | .intWord => some "int"
  | .doubleWord => some "double"
  | .charWord => some "char"
  | .voidWord => some "void"
  | _ => none

/-- The punctuator with a given spelling. -/
def punctuator? (text : String) : Option Kind :=
  punctuators.find? fun kind => kind.spelling? == some text

/-- The keyword with a given spelling. -/
def keyword? (text : String) : Option Kind :=
  keywords.find? fun kind => kind.spelling? == some text

/-- Whether a kind is one of the words that specify a type. -/
def isTypeSpecifier : Kind → Bool
  | .intWord | .doubleWord | .charWord | .voidWord => true
  | _ => false

/-- The coarse name of a kind, shared by all punctuators and by all keywords. -/
def category (kind : Kind) : String :=
  match kind with
  | .identifier => "identifier"
  | .integerConstant => "integer_constant"
  | .doubleConstant => "float_constant"
  | .charConstant => "char_constant"
  | .stringLiteral => "string"
  | .endOfInput => "eof"
  | other => if keywords.contains other then "keyword" else "punctuator"

/-- The kind that a coarse name and the text of a token determine together. -/
def ofCategory? (category lexeme : String) : Option Kind :=
  match literals.find? fun kind => kind.category == category with
  | some kind => some kind
  | none =>
      if category = "eof" then some .endOfInput
      else if category = "keyword" then keyword? lexeme
      else if category = "punctuator" then punctuator? lexeme
      else none

/-- How messages refer to a kind. -/
def describe : Kind → String
  | .identifier => "identifier"
  | .stringLiteral => "string"
  | .integerConstant => "integer constant"
  | .doubleConstant => "double constant"
  | .charConstant => "char constant"
  | .endOfInput => "end of input"
  | kind => s!"'{kind.spelling?.getD kind.name}'"

/-- The position of a kind in the order of enumeration, counted from one. -/
def ordinal (kind : Kind) : Nat :=
  all.idxOf kind + 1

end Kind

end MiniC
