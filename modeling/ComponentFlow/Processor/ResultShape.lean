import ComponentFlow.Processor.Basic

/-!
# Shapes of results

What a library hook returns: its properties with the kind of node each becomes, and the properties
that a destructured tuple holds by position. A property that is not listed is a store.
-/

namespace ComponentFlow

/-- What a hook does with a remote source. -/
inductive Operation where
  | query
  | mutation
  | config
  | local
  deriving Repr, DecidableEq, Inhabited

/-- The word for an operation. -/
def Operation.name : Operation → String
  | query => "query"
  | mutation => "mutation"
  | config => "config"
  | «local» => "local"

/-- The result of a hook. -/
structure ResultShape where
  hook : String
  operation : Operation := .query
  positional : List String := []
  properties : List (String × NodeType)
  deriving Repr, DecidableEq, Inhabited

namespace ResultShape

/-- The kind of node a property becomes. -/
def typeOf (shape : ResultShape) (property : String) : NodeType :=
  (shape.properties.lookup property).getD .store

/-- The role of a property that becomes a node of the given kind. -/
def roleFor (type : NodeType) : Role :=
  if type = .process then .function else .data

/-- The role of a property. -/
def roleOf (shape : ResultShape) (property : String) : Role :=
  roleFor (shape.typeOf property)

/-- The listed properties. -/
def names (shape : ResultShape) : List String :=
  shape.properties.map Prod.fst

end ResultShape

/-- A variable bound to a property of a result. -/
structure BoundProperty where
  name : String
  property : String
  type : NodeType
  deriving Repr, DecidableEq, Inhabited

/-- The role of the variable. -/
def BoundProperty.role (b : BoundProperty) : Role :=
  ResultShape.roleFor b.type

namespace ResultShape

/-- The property that the variable at a place of the binding holds: its alias, or in a tuple the
property at that place, or the property of its own name. -/
def propertyAt (shape : ResultShape) (h : Hook) (index : Nat) (name : String) : String :=
  match h.aliases.lookup name with
  | some property => property
  | none => if h.binding = .array then shape.positional[index]?.getD name else name

/-- The variables of a call with the properties they hold. A variable for the whole result is
data. -/
def bind (shape : ResultShape) (h : Hook) : List BoundProperty :=
  if h.binding = .identifier then h.bound.map fun name => ⟨name, name, .store⟩
  else
    h.bound.mapIdx fun index name =>
      let property := shape.propertyAt h index name
      ⟨name, property, shape.typeOf property⟩

/-- The properties that a call makes available, with their kinds: all listed ones if the result is
bound as a whole to a known shape, else those that variables hold. -/
def available (shape : Option ResultShape) (binding : BindingShape) (bound : List BoundProperty) :
    List (String × NodeType) :=
  match binding, shape with
  | .identifier, some shape => shape.properties
  | _, _ => bound.map fun b => (b.property, b.type)

/-- The record about the bound properties. -/
def summary (shape : Option ResultShape) (binding : BindingShape) (bound : List BoundProperty) :
    Metadata :=
  let properties := available shape binding bound
  let names := properties.map Prod.fst
  let types := Assoc.ofList properties
  let isProcess := fun name => types.lookup name == some .process
  let renamed := bound.filter fun b => b.name != b.property
  [("properties", .ofNames names),
   ("data_properties", .ofNames (names.filter fun name => !isProcess name)),
   ("process_properties", .ofNames (names.filter isProcess)),
   ("property_metadata", .ofTexts (types.map fun e => (e.1, e.2.name))),
   ("variables", .ofRoles (Assoc.ofList (bound.map fun b => (b.name, b.role)))),
   ("aliases", .ofTexts (Assoc.ofList (renamed.map fun b => (b.name, b.property))))]

end ResultShape

end ComponentFlow
