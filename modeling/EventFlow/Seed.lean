import EventFlow.Graph
import EventFlow.Record.RateLimit
import EventFlow.Service

/-!
# Seeds

A seed is a document of flows that a daemon loads when it starts.  Each flow is
checked before anything of it is stored: every edge has to join nodes of the
flow.  Rows are stored in the order of the document, bound to their flow.
-/

namespace EventFlow

/-- One flow of a seed, with its graph and its rate limits. -/
structure SeedFlow where
  name : String
  uid : String
  topic : String
  description : String
  enabled : Bool
  nodes : List Node
  edges : List Edge
  rateLimits : List RateLimit

/-- A seed document. -/
structure Seed where
  flows : List SeedFlow

/-- Why a seed cannot be loaded.  The reasons why a file cannot be read or
understood are left to the reader. -/
inductive SeedError where
  | read (path reason : String)
  | parse (path reason : String)
  | danglingEdge (flow sourceNode targetNode : String)
  | store (e : StoreError)
  deriving DecidableEq, Repr

/-- The error in words. -/
def SeedError.message : SeedError → String
  | .read path reason => s!"failed to read seed file '{path}': {reason}"
  | .parse path reason => s!"invalid seed file '{path}': {reason}"
  | .danglingEdge flow sourceNode targetNode =>
    s!"flow '{flow}' has an edge {sourceNode} -> {targetNode} to an unknown node"
  | .store e => e.message

/-! ## Reading -/

/-- The fields of a flow of a seed. -/
def SeedFlow.fields : Fields SeedFlow :=
  SeedFlow.mk <$> .required "name" Decoder.string <*> .optional "uid" Decoder.string "" <*>
    .optional "topic" Decoder.string "" <*> .optional "description" Decoder.string "" <*>
    .optional "enabled" Decoder.bool true <*> .optional "nodes" (Decoder.list Node.decoder) [] <*>
    .optional "edges" (Decoder.list Edge.decoder) [] <*>
    .optional "rate_limits" (Decoder.list RateLimit.decoder) []

/-- The fields of a seed. -/
def Seed.fields : Fields Seed :=
  Seed.mk <$> .optional "flows" (Decoder.list SeedFlow.fields.decoder) []

/-- Reads a seed. -/
def Seed.decoder : Decoder Seed := Seed.fields.decoder

/-! ## Storing -/

namespace SeedFlow

/-- Checks that every edge joins nodes of the flow; the first that does not is
reported. -/
def checkGraph (seed : SeedFlow) : Except SeedError Unit :=
  let graph := Graph.ofRows seed.nodes []
  match seed.edges.find? fun e => !(graph.addEdge e).1 with
  | some e => .error (.danglingEdge seed.name e.sourceNode e.targetNode)
  | none => .ok ()

/-- Makes store calls in order, up to the first that is refused. -/
def storeAll : List StoreCall → Routine (Except StoreError Unit)
  | [] => .done (.ok ())
  | call :: rest => do
    match ← Service.store call with
    | .ok _ => storeAll rest
    | .error e => return .error e

/-- The calls that store the graph and the rate limits of a flow. -/
def rowCalls (seed : SeedFlow) (flowId : FlowId) : List StoreCall :=
  seed.nodes.map (fun node => .createNode { node with flowId }) ++
    seed.edges.map (fun edge => .createEdge { edge with flowId }) ++
    seed.rateLimits.map fun rule => .createRateLimit { rule with flowId := some flowId }

/-- The row of a flow before it is stored. -/
def row (seed : SeedFlow) : Routine Flow := do
  let flow := { Flow.create (← Service.now) seed.uid seed.topic seed.name with
    description := seed.description }
  if seed.enabled then return flow
  else return flow.setEnabled false (← Service.now)

/-- Stores a flow with its graph and its rate limits. -/
def store (seed : SeedFlow) : Routine (Except StoreError FlowId) := do
  match ← Service.store (.createFlow (← seed.row)) with
  | .error e => return .error e
  | .ok (flow : Flow) =>
    match ← storeAll (seed.rowCalls flow.id) with
    | .error e => return .error e
    | .ok () => return .ok flow.id

/-- Checks and stores a flow. -/
def apply (seed : SeedFlow) : Routine (Except SeedError FlowId) := do
  match seed.checkGraph with
  | .error e => return .error e
  | .ok () => return (← seed.store).mapError .store

end SeedFlow

namespace Seed

/-- Checks and stores flows in order, on top of the ids of those before. -/
def applyAll : List SeedFlow → List FlowId → Routine (Except SeedError (List FlowId))
  | [], ids => .done (.ok ids)
  | seed :: rest, ids => do
    match ← seed.apply with
    | .error e => return .error e
    | .ok id => applyAll rest (ids ++ [id])

/-- Stores the flows of a seed and returns their ids. -/
def apply (seed : Seed) : Routine (Except SeedError (List FlowId)) :=
  applyAll seed.flows []

/-- Reads a seed off the contents of a file, if the file could be read. -/
def ofContents (path : String) (contents : Option String) (now : Instant) :
    Except SeedError Seed :=
  match contents with
  | none => .error (.read path "the file cannot be read")
  | some text => (decoder.ofText now text).mapError fun e => .parse path e.category

/-- Stores the flows of a file and returns their ids. -/
def load (path : String) (contents : Option String) :
    Routine (Except SeedError (List FlowId)) := do
  match ofContents path contents (← Service.now) with
  | .error e => return .error e
  | .ok seed => seed.apply

end Seed

end EventFlow
