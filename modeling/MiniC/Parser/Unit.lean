import MiniC.Parser.Statement

/-!
# Parsing a whole stream

A parser reads a stream from the start to the end mark.  It always starts from
scratch: what earlier runs remembered or recorded is cleared first.
-/

namespace MiniC.Parser

/-- A declaration or a function definition. -/
def unitItem (input : Input) (start : Nat) : Attempt (Match Declaration) :=
  let budget := input.options.maxNesting
  firstOf (declaration input budget start) [functionDefinition input budget start]

/-- Forget what earlier runs remembered and recorded. -/
def reset : Engine Unit :=
  modify fun state =>
    { state with memo := .empty, noted := [], peak := 0, errorCount := 0, reported := [] }

/-- Read the whole stream.  Errors are recorded in the state, no more of them than
the error limit allows. -/
def readUnit (input : Input) : Engine CompilationUnit := do
  record (.started input.stream.size input.options.filename)
  let last := input.stream.lastIndex
  let list ← items input (unitItem input) "declaration" 0 last
  let reported := list.recovered.take input.options.maxErrors
  modify fun state => { state with reported }
  record (.finished list.node.length reported.length)
  return .mk (covering 0 last) list.node

/-- Parse the whole stream from scratch. -/
def parse (input : Input) : Engine CompilationUnit := do
  reset
  readUnit input

end MiniC.Parser
