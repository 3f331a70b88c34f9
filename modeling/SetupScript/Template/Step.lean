import SetupScript.Template.Scope

/-!
# Steps of templates

A template made ready for rendering: nodes whose constant parts are worked out, with the names of every
frame that they open and with the way in which they escape what they put out.
-/

namespace SetupScript.Template

/-- Whether what is put out is escaped: as the tags around it say, or as it turns out when it is put out. -/
inductive Escaping
  | never
  | always
  | asked
deriving DecidableEq

/-- A snippet as far as it is known before it is called: its parameters, the names of its frame, and what it
takes beyond its parameters. -/
structure SnippetOutline where
  signature : Signature
  symbols : Symbols
  takesCaller : Bool
  takesNamed : Bool
  takesMore : Bool
  escaping : Escaping

/-- A loop as far as it is known before it is run: what it goes through, what its items are bound to, which
of them count, and the names of its frames. -/
structure LoopOutline where
  target : Target
  items : Expression
  condition : Option (Expression × Symbols)
  recursive : Bool
  tells : Bool
  symbols : Symbols
  otherwiseSymbols : Symbols

/-- The parts of a template that is ready for rendering. -/
inductive Step
  | plain (text : String)
  | output (expression : Expression)
  | conditional (branches : List (Expression × List Step)) (otherwise : List Step)
  | loop (outline : LoopOutline) (body otherwise : List Step)
  | assign (target : Target) (value : Expression)
  | capture (target : Target) (value : Expression) (symbols : Symbols) (body : List Step)
  | filtered (value : Expression) (symbols : Symbols) (body : List Step)
  | scope (bindings : List (Target × Expression)) (symbols : Symbols) (body : List Step)
  | snippet (name : String) (outline : SnippetOutline) (body : List Step)
  | invoke (call : Expression) (outline : SnippetOutline) (body : List Step)
  | block (name : String) (marks : BlockMarks)
  | escaping (mode : Expression) (inside : Escaping) (symbols : Symbols) (body : List Step)
  | extend (template : Expression)
  | insert (template : Expression) (mayLack : Bool)
  | borrow (template : Expression)

/-- A block that is ready for rendering, with the names of its frame. -/
structure BlockOutline where
  symbols : Symbols
  body : List Step

/-- A template that is ready for rendering, with the names of its outermost frame. -/
structure Prepared where
  symbols : Symbols
  body : List Step
  blocks : List (String × BlockOutline)

end SetupScript.Template
