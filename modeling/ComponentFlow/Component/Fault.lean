import ComponentFlow.Text.Case
import ComponentFlow.Value.Display
import ComponentFlow.Value.Yaml.Scalar

/-!
# Faults of component descriptions

Why a description cannot be read as a component, and the message for each cause. A failure carries
the component's name and file as far as they are known.
-/

namespace ComponentFlow

/-- Formats a description can be written in. -/
inductive DocumentFormat where
  | json
  | yaml
  deriving Repr, DecidableEq, Inhabited

/-- The name of a format. -/
def DocumentFormat.name : DocumentFormat → String
  | json => "json"
  | yaml => "yaml"

/-- All formats. -/
def DocumentFormat.all : List DocumentFormat := [.json, .yaml]

/-- The format with the given name. -/
def DocumentFormat.ofName? (name : String) : Option DocumentFormat :=
  all.find? (·.name == name)

/-- Why a description cannot be read. -/
inductive Fault where
  /-- The text is not written in its format. -/
  | notInFormat (format : DocumentFormat)
  /-- The file cannot be read, for the given reason. -/
  | unreadable (path reason : String)
  /-- The whole description is not a mapping. -/
  | notAMapping
  /-- The description itself reports that the component was not understood. -/
  | reported (text : String)
  /-- There is no component name. -/
  | missingComponent
  /-- The framework is not one of those known. -/
  | unsupportedFramework (name : String)
  /-- A field that has to be a list is none. -/
  | notAList (key : String)
  /-- A field that has to list names does not. -/
  | notNames (key : String)
  /-- An entry that has to be a mapping is of another kind. -/
  | entryNotAMapping (what kind : String)
  /-- An entry lacks a name under the given key. -/
  | entryUnnamed (what key : String)
  /-- An argument has a kind that is not known. -/
  | unknownArgumentKind (kind : String)
  /-- An argument given as a mapping names no kind. -/
  | argumentWithoutKind
  /-- A hook has a binding that is not known. -/
  | unknownBinding (hook binding : String)
  /-- The aliases of a hook are not a mapping. -/
  | aliasesNotAMapping (hook : String)
  /-- The arguments of a hook are not a list. -/
  | argumentsNotAList (hook : String)
  /-- The declared types are not a mapping. -/
  | typesNotAMapping
  /-- The code of an attribute is not a mapping. -/
  | codeNotAMapping (owner form : String)
  /-- An attribute has neither a reference nor code. -/
  | attributeWithoutContent (owner : String)
  /-- A render node is not of exactly one kind. -/
  | ambiguousRenderNode
  deriving Repr, DecidableEq, Inhabited

/-- The message for a fault. -/
def Fault.message : Fault → String
  | notInFormat format => "Document is not valid " ++ Text.upper format.name
  | unreadable path reason => "Cannot read " ++ path ++ ": " ++ reason
  | notAMapping => "Analysis document must be a mapping"
  | reported text => text
  | missingComponent => "Document is missing a component name"
  | unsupportedFramework name => "Unsupported framework '" ++ name ++ "'"
  | notAList key => "'" ++ key ++ "' must be a list"
  | notNames key => "'" ++ key ++ "' must be a list of names"
  | entryNotAMapping what kind => what ++ " entries must be mappings, got " ++ kind
  | entryUnnamed what key => what ++ " entry is missing '" ++ key ++ "'"
  | unknownArgumentKind kind => "Unknown argument kind '" ++ kind ++ "'"
  | argumentWithoutKind => "Argument mapping needs one of literal, identifier or opaque"
  | unknownBinding hook binding =>
    "Hook '" ++ hook ++ "' has unknown binding '" ++ binding ++ "'"
  | aliasesNotAMapping hook => "Hook '" ++ hook ++ "' aliases must be a mapping"
  | argumentsNotAList hook => "Hook '" ++ hook ++ "' arguments must be a list"
  | typesNotAMapping => "'types' must map names to type strings"
  | codeNotAMapping owner form =>
    "Attribute '" ++ owner ++ "' " ++ form ++ " body must be a mapping"
  | attributeWithoutContent owner =>
    "Attribute '" ++ owner ++ "' needs a reference, arrow or expression"
  | ambiguousRenderNode => "Render nodes need exactly one of 'element', 'conditional' or 'loop'"

/-- How reading a description ends without a component. -/
inductive ReadFailure where
  /-- The description is at fault. -/
  | fault (cause : Fault) (component file : Option String)
  /-- The binding of a hook is of a kind that cannot be looked up. -/
  | unhashable (kind : String)
  /-- A scalar in the text of the description has no value. -/
  | noValue (cause : Yaml.ScalarFault)
  deriving Repr, DecidableEq, Inhabited

/-- The message for a failure. -/
def ReadFailure.message : ReadFailure → String
  | fault cause _ _ => cause.message
  | unhashable kind => "unhashable type: '" ++ kind ++ "'"
  | noValue cause => cause.message

/-- A fault found below the top of a description, before the component's name is added to it. -/
def ReadFailure.of (cause : Fault) : ReadFailure :=
  .fault cause none none

/-- Adds the component's name and file where they are not known yet. -/
def ReadFailure.within (component : String) (file : Option String) : ReadFailure → ReadFailure
  | fault cause c f => .fault cause (c.or (some component)) (f.or file)
  | failure => failure

end ComponentFlow
