import ComponentFlow.AtomScan.Syntax
import ComponentFlow.Assoc
import ComponentFlow.Component.Basic
import ComponentFlow.Decimal.Format
import ComponentFlow.Journal
import ComponentFlow.Text.Names

/-!
# Atoms in source texts

Atoms are declared as variables that hold a call of an atom factory. An atom whose first argument is
a function is derived; it depends on the identifiers that its function passes to the getter, which
is its first parameter. Without a parser nothing is found.
-/

namespace ComponentFlow.AtomScan

/-- Functions that make an atom. -/
def factories : List String :=
  ["atom", "atomWithStorage", "atomWithReset", "atomWithDefault", "atomWithReducer"]

/-- The kinds of nodes that are functions. -/
def functionKinds : List String := ["arrow_function", "function_expression", "function"]

/-- The first argument of a call. -/
def firstArgument? (call : SyntaxNode) : Option SyntaxNode :=
  (call.child? "arguments").bind (·.children.head?)

/-- The name of the getter of a function. -/
def getterName (source : List Char) (function : SyntaxNode) : String :=
  match function.child? "parameter" with
  | some single => single.text source
  | none =>
    match (function.child? "parameters").bind (·.children.head?) with
    | some first =>
      let pattern := (first.child? "pattern").getD first
      if pattern.kind == "identifier" then pattern.text source else "get"
    | none => "get"

/-- The identifier that a node passes to the getter. -/
def getterArgument? (source : List Char) (getter : String) (n : SyntaxNode) : Option String :=
  if n.kind == "call_expression" then
    match n.child? "function", firstArgument? n with
    | some callee, some argument =>
      if callee.text source == getter && argument.kind == "identifier" then
        some (argument.text source)
      else none
    | _, _ => none
  else none

/-- The identifiers that a function passes to its getter, each once. -/
def dependencies (source : List Char) (function : SyntaxNode) : List String :=
  match function.child? "body" with
  | some body =>
    Text.distinct ((SyntaxNode.descend [body]).filterMap
      (getterArgument? source (getterName source function)))
  | none => []

/-- The atom that a declared variable holds. -/
def atom? (source : List Char) (name value : SyntaxNode) : Option Atom :=
  match value.child? "function" with
  | some callee =>
    if factories.contains (callee.text source) then
      let function := (firstArgument? value).filter fun n => functionKinds.contains n.kind
      some
        { name := name.text source
          derived := function.isSome
          dependencies := (function.map (dependencies source)).getD []
          position := some name.position }
    else none
  | none => none

/-- The atom that a node declares. -/
def declared? (source : List Char) (n : SyntaxNode) : Option Atom :=
  if n.kind == "variable_declarator" then
    match n.child? "name", n.child? "value" with
    | some name, some value =>
      if name.kind == "identifier" && value.kind == "call_expression" then atom? source name value
      else none
    | _, _ => none
  else none

/-- The first atom of each name. -/
def firstOfEach (atoms : List Atom) : List Atom :=
  atoms.foldl (fun kept a => if kept.any (·.name == a.name) then kept else kept ++ [a]) []

/-- The atoms declared in a tree. -/
def atomsIn (source : List Char) (tree : SyntaxNode) : List Atom :=
  firstOfEach ((SyntaxNode.descend [tree]).filterMap (declared? source))

/-- The origin of the records about scanning. -/
def origin : String := "scanners.atoms"

/-- The atoms declared in a source text, with the records of scanning it. -/
def scan (parser : Option SourceParser) (source : String) : List Atom × Journal :=
  match parser with
  | none => ([], [⟨.debug, origin, "tree-sitter unavailable; skipping atom scan"⟩])
  | some parse =>
    let atoms := atomsIn source.toList (parse source)
    (atoms, [⟨.debug, origin,
      "Scanned " ++ Decimal.intText atoms.length ++ " atom definitions"⟩])

/-- Declared and scanned atoms together. A declaration replaces a scanned atom of its name. -/
def mergeAtoms (declared scanned : List Atom) : List Atom :=
  (Assoc.ofList ((scanned ++ declared).map fun a => (a.name, a))).map Prod.snd

end ComponentFlow.AtomScan
