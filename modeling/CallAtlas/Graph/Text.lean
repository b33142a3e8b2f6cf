import CallAtlas.Graph.Basic
import CallAtlas.Text.Sha256

/-!
Call graphs as plain text, as a Mermaid flowchart and as data values.
-/

namespace CallAtlas

def joinLines (lines : List Text) : Text := Text.joined "\n" lines

namespace Ref

/-- The diagram id of a reference: twelve digits of the digest of its text. -/
def diagramId (ref : Ref) : String :=
  "node_" ++ String.ofList ((Sha256.digest ref.text.bytes).take 12)

/-- What keeps a reference from having a diagram id. -/
def diagramFault? (ref : Ref) : Option WriteFault :=
  ref.textFault?.or (WriteFault.ofText? ref.text)

/-- A code point of a diagram label; quotes and square brackets would end the label. -/
def labelPoint (point : Point) : List Point :=
  if point = .char '"' then Text.points "#quot;"
  else if point = .char '[' then [.char '(']
  else if point = .char ']' then [.char ')']
  else [point]

def label (ref : Ref) : Text := .ofPoints (ref.text.points.flatMap labelPoint)

end Ref

namespace Graph

/-- The graph as a list of nodes and a list of calls. -/
def text (graph : Graph) : Text :=
  let opening : List Text := [
    "Call graph - start: " ++ graph.start.text,
    "Nodes: " ++ toString graph.nodes.length,
    "Edges: " ++ toString graph.edges.length,
    "",
    "Node list:"]
  let nodes : List Text := graph.nodes.map fun node => "- " ++ node.text
  let between : List Text := ["", "Calls:"]
  let calls : List Text :=
    graph.edges.map fun (caller, callee) => "- " ++ caller.text ++ " -> " ++ callee.text
  joinLines (opening ++ nodes ++ between ++ calls)

/-- The graph as a Mermaid flowchart. -/
def diagram (graph : Graph) : Text :=
  let opening : Text := "graph TD"
  let nodes : List Text :=
    graph.nodes.map fun node => "  " ++ node.diagramId ++ "[\"" ++ node.label ++ "\"]"
  let calls : List Text := graph.edges.map fun (caller, callee) =>
    "  " ++ caller.diagramId ++ " --> " ++ callee.diagramId
  joinLines (opening :: nodes ++ calls)

/-- What keeps the first node that has no text from having one. -/
def textFault? (graph : Graph) : Option WriteFault := graph.nodes.findSome? Ref.textFault?

/-- What keeps the first node that has no diagram id from having one. -/
def diagramFault? (graph : Graph) : Option WriteFault := graph.nodes.findSome? Ref.diagramFault?

/-- The graph in one line: its start and its sizes. -/
def summary (graph : Graph) : Text :=
  "Graph(start=" ++ graph.start.text ++ ", nodes=" ++ toString graph.nodes.length ++ ", edges="
    ++ toString graph.edges.length ++ ")"

def toJson (graph : Graph) : Json :=
  .object [
    ("start", graph.start.toJson),
    ("nodes", .array (graph.nodes.map Ref.toJson)),
    ("edges", .array (graph.edges.map fun (caller, callee) =>
      .object [("from", .text caller.text), ("to", .text callee.text)])),
    ("truncated", .bool graph.truncated)]

/-- The graph as a data value, if all its nodes have a text. -/
def value (graph : Graph) : Except WriteFault Json := WriteFault.guard graph.textFault? graph.toJson

end Graph

end CallAtlas
