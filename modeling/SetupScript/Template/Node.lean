import SetupScript.Template.Expression

/-!
# Nodes of templates

What the tags of a template mean together with the text between them.
-/

namespace SetupScript.Template

/-- What a value is bound to: a name, a field of a record, or several targets in the order of the value's
items. -/
inductive Target
  | name (name : String)
  | field (record name : String)
  | tuple (targets : List Target)

/-- What a loop goes through, what its items are bound to, and which of them count.  A recursive loop may be
called for the items of an item. -/
structure LoopHead where
  target : Target
  items : Expression
  condition : Option Expression
  recursive : Bool

/-- The parameters of a snippet.  The defaults belong to the last ones. -/
structure Signature where
  parameters : List String := []
  defaults : List Expression := []

/-- How a block is marked: it sees the names around it, or another template has to fill it. -/
structure BlockMarks where
  seesAround : Bool
  mustBeFilled : Bool

/-- The parts of a template.  A template that is inserted may lack if the tag says so. -/
inductive Node
  | plain (text : List Char)
  | output (expression : Expression)
  | conditional (branches : List (Expression × List Node)) (otherwise : List Node)
  | loop (head : LoopHead) (body otherwise : List Node)
  | assign (target : Target) (value : Expression)
  | capture (target : Target) (value : Expression) (body : List Node)
  | filtered (value : Expression) (body : List Node)
  | scope (bindings : List (Target × Expression)) (body : List Node)
  | snippet (name : String) (signature : Signature) (body : List Node)
  | invoke (call : Expression) (signature : Signature) (body : List Node)
  | block (name : String) (marks : BlockMarks) (body : List Node)
  | escaping (mode : Expression) (body : List Node)
  | extend (template : Expression)
  | insert (template : Expression) (mayLack : Bool)
  | borrow (template : Expression) (names : List String)

mutual

/-- The names that a target binds. -/
def Target.names : Target → List String
  | .name word => [word]
  | .field .. => []
  | .tuple targets => targetNames targets

/-- The names that several targets bind. -/
def targetNames : List Target → List String
  | [] => []
  | target :: targets => target.names ++ targetNames targets

end

mutual

/-- The names of the records whose fields a target sets. -/
def Target.records : Target → List String
  | .name _ => []
  | .field record _ => [record]
  | .tuple targets => targetRecords targets

/-- The names of the records whose fields several targets set. -/
def targetRecords : List Target → List String
  | [] => []
  | target :: targets => target.records ++ targetRecords targets

end

mutual

/-- The blocks in a node, outer ones first. -/
def Node.blocks : Node → List (String × List Node)
  | .conditional branches otherwise => branchBlocks branches ++ blocksOf otherwise
  | .loop _ body otherwise => blocksOf body ++ blocksOf otherwise
  | .capture _ _ body | .filtered _ body | .scope _ body | .snippet _ _ body | .invoke _ _ body
  | .escaping _ body => blocksOf body
  | .block name _ body => (name, body) :: blocksOf body
  | _ => []

/-- The blocks in several nodes. -/
def blocksOf : List Node → List (String × List Node)
  | [] => []
  | node :: nodes => node.blocks ++ blocksOf nodes

/-- The blocks in the branches of a conditional node. -/
def branchBlocks : List (Expression × List Node) → List (String × List Node)
  | [] => []
  | (_, body) :: branches => blocksOf body ++ branchBlocks branches

end

end SetupScript.Template
