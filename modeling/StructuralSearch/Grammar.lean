import StructuralSearch.Node.Build
import StructuralSearch.Regex.Rows
import StructuralSearch.SearchError

/-!
# Grammars

A grammar is a language profile with the node layouts of the language and a parser, and with the
library of regular expressions that serves where no parser is used, in text mode.  Parser and
library are parameters: all that is asked of the one is a parse tree for a text, if it has one, and
of the other to compile an expression.
-/

namespace StructuralSearch

/-- A language that can be parsed. -/
structure Grammar where
  profile : Profile
  layout : Layout
  parser : String → Option ParseTree
  regexes : RegexLibrary := .concatenations

namespace Grammar

variable (grammar : Grammar)

/-- The builder for the trees of a source text. -/
def builder (source : String) : TreeBuilder :=
  ⟨grammar.profile, grammar.layout, source⟩

/-- Parses a text into a node, or reports the first fault in it. -/
def parse (source : String) : Except SearchError Node :=
  match grammar.parser source with
  | none => .error (.parse 1 1 "parsing failed")
  | some tree =>
    match tree.firstFault? with
    | some fault =>
      .error (.parse fault.span.start.line fault.span.start.column fault.faultMessage)
    | none => .ok ((grammar.builder source).build tree)

end Grammar

end StructuralSearch
