import ComponentFlow.Assembly.Markup
import ComponentFlow.Diagram.Merge

/-!
# Assembly

The diagram of a component from the contributions of its hooks: props and processes are added and
linked, the markup is laid out and linked, and edges that say the same are merged.
-/

namespace ComponentFlow.Assembly

/-- Merges the edges of the diagram. Only edges with a text as label can be merged. -/
def finish (b : Build) : Build :=
  match b.unlabelled with
  | (_, _, kind) :: _ => b.stop (.unreadable (.noUse kind "split"))
  | [] =>
    let merged := mergeEdges b.diagram.edges
    let count := fun (n : Nat) => Decimal.intText n
    (b.record .debug "assembler"
      ("Assembled " ++ b.diagram.component ++ ": " ++ count b.diagram.nodes.length ++ " nodes, " ++
        count merged.length ++ " edges (" ++ count b.diagram.edges.length ++
        " before merge)")).change fun d => .ok (d.replaceEdges merged)

/-- Adds props and processes to the diagram: the build, the props by name, and the processes. -/
def addNodes (b : Build) (c : Component) :
    Build × List (String × String) × List PlacedRoutine :=
  let (b, props) := addProps b c.props
  let (b, processes) := addRoutines b false c.processes
  let (b, exported) := addRoutines b true c.exportedHandlers
  (b, props, processes ++ exported)

/-- Builds the diagram of the session's component. -/
def assemble (s : Session) : Build :=
  let (b, props, routines) := addNodes { session := s } s.component
  let x := NameIndex.ofNodes b.diagram.nodes
  let b := x.fault.elim b fun e => b.stop (.unreadable e)
  let b := b.followAll (initializerLinks props b.diagram.nodes)
  let b := b.followAll (dependencyLinks x b.diagram.nodes)
  let b := linkRoutines x b routines
  let exported := (routines.filter (·.exported)).map (·.id)
  let layout := Layout.ofOutput b s.component.output exported
  let b := layout.controls.foldl (linkControl x) layout.build
  finish (layout.elements.foldl (linkElement x) b)

end ComponentFlow.Assembly
