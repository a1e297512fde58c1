import DebugLaunch.Yaml.Graph
import DebugLaunch.Yaml.ScalarValue

/-! The value of a YAML document. Every node is looked at once, in the order of its depth: a scalar
has to write a value of its tag, and a mapping first takes over the entries of the mappings that it
merges, and then needs keys that can be told apart, which collections cannot. -/
namespace DebugLaunch.Yaml

namespace Graph

/-- The node with a number. -/
def node (graph : Graph) (number : Nat) : Node := graph.getD number ⟨.null, .missing, {}⟩

/-- The entries of a mapping. -/
def entries (graph : Graph) (number : Nat) : Option (List (Nat × Nat)) :=
  match (graph.node number).content with
  | .mapping entries => some entries
  | _ => none

/-- Gives a mapping new entries. -/
def setEntries (graph : Graph) (number : Nat) (entries : List (Nat × Nat)) : Graph :=
  graph.modify number fun node => { node with content := .mapping entries }

/-- Takes the first entry that merges out of entries: the number of what it merges, and the others.
-/
def takeMerge? (graph : Graph) : List (Nat × Nat) → Option (Nat × List (Nat × Nat))
  | [] => none
  | (key, value) :: rest =>
    if (graph.node key).tag = .merge then some (value, rest)
    else (takeMerge? graph rest).map fun (found, others) => (found, (key, value) :: others)

/-- The graph in which keys that are an equals sign are texts. -/
def plainKeys (graph : Graph) (entries : List (Nat × Nat)) : Graph :=
  entries.foldl (fun graph (key, _) =>
    if (graph.node key).tag = .defaultValue then
      graph.modify key fun node => { node with tag := .string }
    else graph) graph

/-- Puts the entries of merged mappings in front of the entries of a mapping. `merged` holds those
found so far. Of several mappings merged at once, an earlier one comes behind a later one. -/
def flatten : Nat → List (Nat × Nat) → Graph → Nat → Except Fault Graph
  | 0, _, _, _ => .error .tooDeep
  | fuel + 1, merged, graph, number => do
    let own := (graph.entries number).getD []
    match graph.takeMerge? own with
    | none =>
      let graph := graph.plainKeys own
      .ok (graph.setEntries number (merged ++ own))
    | some (value, others) =>
      let graph := graph.setEntries number others
      let start := (graph.node number).start
      let refused (number : Nat) (problem : Shape → Problem) : Fault :=
        let node := graph.node number
        .foundIn .mapping start node.start (problem node.content.shape)
      match (graph.node value).content with
      | .mapping _ =>
        let graph ← flatten fuel [] graph value
        flatten fuel (merged ++ (graph.entries value).getD []) graph number
      | .sequence items =>
        let (graph, found) ← items.foldlM (fun (graph, found) item => do
          match graph.entries item with
          | none => .error (refused item .itemNotMergeable)
          | some _ =>
            let graph ← flatten fuel [] graph item
            .ok (graph, (graph.entries item).getD [] ++ found)) (graph, [])
        flatten fuel (merged ++ found) graph number
      | .scalar _ => .error (refused value .notMergeable)

/-- The fault that a node has another shape than its tag wants. -/
def notOfShape (node : Node) (wanted : Shape) : Fault :=
  .found node.start (.notOfShape wanted node.content.shape)

/-- What a scalar writes, or the entry of a mapping whose key is an equals sign. -/
def scalarText (graph : Graph) : Nat → Nat → Except Fault Written
  | 0, _ => .error .tooDeep
  | fuel + 1, number =>
    let node := graph.node number
    match node.content with
    | .scalar written => .ok written
    | .sequence _ => .error (notOfShape node .scalar)
    | .mapping entries =>
      match entries.find? fun (key, _) => (graph.node key).tag = .defaultValue with
      | some (_, value) => scalarText graph fuel value
      | none => .error (notOfShape node .scalar)

/-- The value of a node whose tag is one of scalars. Of a mapping only the text is taken, and a
point in time has to be a scalar itself. -/
def scalarValue (graph : Graph) (number : Nat) : Except Fault Value := do
  let node := graph.node number
  match node.tag with
  | .unknown _ | .merge | .defaultValue => .error (.found node.start (.unknownTag node.tag.name))
  | _ => do
    let written ← graph.scalarText (graph.size + 1) number
    if node.tag = .timestamp && node.content.shape != .scalar then
      .error (.scalar .notASingleText node.start)
    Scalar.value node.tag node.start written

/-- Whether a tag is one of collections. -/
def isCollection (tag : Tag) : Bool :=
  [Tag.sequence, .mapping, .orderedMapping, .pairs, .set].contains tag

/-- The nodes that have been looked at, and those of them whose parts have not, the last one
first. -/
structure Survey where
  graph : Graph
  seen : Array Bool
  waiting : List Nat := []

/-- Looks at a node. -/
def Survey.visit (survey : Survey) (number : Nat) : Except Fault Survey :=
  if survey.seen.getD number true then .ok survey
  else
    let seen := survey.seen.setIfInBounds number true
    if isCollection (survey.graph.node number).tag then
      .ok { survey with seen, waiting := number :: survey.waiting }
    else do
      let _ ← survey.graph.scalarValue number
      .ok { survey with seen }

/-- Looks at the keys and values of the mapping that starts at a place. Its keys may not be
collections. -/
def Survey.visitEntries (start : Mark) (survey : Survey) :
    List (Nat × Nat) → Except Fault Survey
  | [] => .ok survey
  | (key, value) :: rest => do
    let survey ← survey.visit key
    let node := survey.graph.node key
    if isCollection node.tag then
      .error (.foundIn .mapping start node.start .unhashableKey)
    visitEntries start (← survey.visit value) rest

/-- Looks at the items of a sequence of pairs, each of which is a mapping of one entry. -/
def Survey.visitPairs (activity : Activity) (start : Mark) (survey : Survey) :
    List Nat → Except Fault Survey
  | [] => .ok survey
  | item :: rest => do
    let node := survey.graph.node item
    let refuse (problem : Problem) : Fault := .foundIn activity start node.start problem
    match node.content with
    | .mapping [(key, value)] =>
      let survey ← survey.visit key
      visitPairs activity start (← survey.visit value) rest
    | .mapping entries => .error (refuse (.severalEntries entries.length))
    | content => .error (refuse (.notASingleMapping content.shape))

/-- Looks at the parts of a node. -/
def Survey.visitParts (survey : Survey) (number : Nat) : Except Fault Survey := do
  let node := survey.graph.node number
  let pairs (activity : Activity) : Except Fault Survey :=
    match node.content with
    | .sequence items => survey.visitPairs activity node.start items
    | content => .error (.foundIn activity node.start node.start (.notASequence content.shape))
  match node.tag, node.content with
  | .sequence, .sequence items => items.foldlM Survey.visit survey
  | .sequence, _ => .error (notOfShape node .sequence)
  | .orderedMapping, _ => pairs .orderedMapping
  | .pairs, _ => pairs .pairs
  | _, .mapping _ =>
    let graph ← flatten (2 * survey.graph.size + 2) [] survey.graph number
    { survey with graph }.visitEntries node.start ((graph.entries number).getD [])
  | _, _ => .error (notOfShape node .mapping)

/-- Looks at the parts of all nodes that wait, those of each depth before those behind them. -/
def Survey.finish : Nat → Survey → Except Fault Graph
  | 0, survey => .ok survey.graph
  | fuel + 1, survey =>
    match survey.waiting.reverse with
    | [] => .ok survey.graph
    | numbers => do
      finish fuel (← numbers.foldlM Survey.visitParts { survey with waiting := [] })

/-- The value of a node that stands inside of the given collections. A collection inside of itself
is only said to be repeated. -/
def value (graph : Graph) : Nat → List Nat → Nat → Value
  | 0, _, _ => .null
  | fuel + 1, around, number =>
    let node := graph.node number
    if !isCollection node.tag then
      match graph.scalarValue number with
      | .ok value => value
      | .error _ => .null
    else if around.contains number then .repeated (node.tag = .mapping)
    else
      let part := value graph fuel (number :: around)
      let pair (item : Nat) : Value :=
        match (graph.entries item).getD [] with
        | (key, value) :: _ => .pair (part key) (part value)
        | [] => .null
      match node.tag, node.content with
      | .mapping, .mapping entries =>
        .mapping (entries.foldl (fun found (key, item) =>
          Value.put found (part key) (part item)) [])
      | .set, .mapping entries => .set (Value.distinct (entries.map fun (key, _) => part key))
      | .sequence, .sequence items => .list (items.map part)
      | _, .sequence items => .list (items.map pair)
      | _, _ => .null

end Graph

/-- The value that a source writes; a text without a document is null. A mapping has its entries in
order, also those whose key comes again, but the values of wanted keys only. Of another collection
the number of its parts is all that is given. -/
def load (wanted : Value → Bool) (source : Source) : Except Fault Value := do
  let (tokens, fault) := tokens source
  let (graph, root) ← Graph.ofTokens tokens fault
  match root with
  | none => .ok .null
  | some root => do
    let seen := Array.replicate graph.size false
    let survey ← ({ graph, seen } : Graph.Survey).visit root
    let graph ← survey.finish (graph.size + 1)
    let node := graph.node root
    match node.tag, node.content with
    | .mapping, .mapping entries =>
      let value := graph.value (graph.size + 1) [root]
      .ok (.mapping (entries.map fun (key, item) =>
        (value key, if wanted (value key) then value item else .null)))
    | _, _ => .ok (graph.value 1 [] root)

end DebugLaunch.Yaml
