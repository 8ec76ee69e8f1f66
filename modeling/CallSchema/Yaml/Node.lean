import CallSchema.Yaml.Event

/-!
The tree of a document. First the events become an outline, in which a reference to an anchored
node is a number; then each reference is replaced by what it refers to. Where the text breaks off,
the tree is nested too deeply or there are too many references, something is missing from the
tree. Whoever reads the tree in order meets what is missing where the text would fail.
-/
namespace CallSchema.Yaml

/-- A node of a document; `reference` is what stands in place of an alias. -/
inductive Node where
  | scalar (mark : Mark) (tag : Option Tag) (style : ScalarStyle) (text : String)
  | sequence (mark : Mark) (tag : Option Tag) (items : List Node)
  | mapping (mark : Mark) (tag : Option Tag) (entries : List (Node × Node))
  | reference (target : Node)
  | missing

instance : Inhabited Node := ⟨.missing⟩

/-- A node as it is written; references are by number. -/
inductive Outline where
  | scalar (mark : Mark) (tag : Option Tag) (style : ScalarStyle) (text : String)
  | sequence (mark : Mark) (tag : Option Tag) (items : List Outline)
  | mapping (mark : Mark) (tag : Option Tag) (entries : List (Outline × Outline))
  | alias (number : Nat)
  | missing

instance : Inhabited Outline := ⟨.missing⟩

/-- Anchors by their names' numbers. The number of a name is the count of names known when it was
given last, so a name given anew takes a number that the next new name takes again. -/
structure Anchors where
  numbers : List (String × Nat) := []

namespace Anchors

/-- The number that a further anchor gets, and the anchors with it. -/
def add (anchors : Anchors) (name : String) : Nat × Anchors :=
  let number := anchors.numbers.length
  (number, ⟨(name, number) :: anchors.numbers.filter fun entry => entry.1 != name⟩)

/-- The number of a name. -/
def number? (anchors : Anchors) (name : String) : Option Nat := anchors.numbers.lookup name

end Anchors

/-- A collection that is still open: how it begins, its anchor's number with the place among the
events where it was given, and the nodes in it, latest first. -/
structure OpenCollection where
  mark : Mark
  tag : Option Tag
  keyed : Bool
  anchor : Option (Nat × Nat)
  nodes : List Outline

/-- Keys and values in turn; the last value may be left out. -/
def pairs : List Outline → List (Outline × Outline)
  | key :: value :: rest => (key, value) :: pairs rest
  | [key] => [(key, .missing)]
  | [] => []

/-- The node of a collection that is complete. -/
def OpenCollection.close (frame : OpenCollection) : Outline :=
  if frame.keyed then .mapping frame.mark frame.tag (pairs frame.nodes.reverse)
  else .sequence frame.mark frame.tag frame.nodes.reverse

/-- An outline so far: the open collections, innermost first, the anchored nodes, each with its
number and the place where it was given, and the outermost node once it is complete. -/
structure OutlinePart where
  frames : List OpenCollection := []
  anchors : Anchors := {}
  anchored : List (Nat × Nat × Outline) := []
  root : Option Outline := none

namespace OutlinePart

/-- Puts a node into the innermost open collection; without one it is the outermost node. -/
def add (part : OutlinePart) (anchor : Option (Nat × Nat)) (node : Outline) : OutlinePart :=
  let anchored :=
    match anchor with
    | none => part.anchored
    | some (number, place) => (number, place, node) :: part.anchored
  match part.frames with
  | [] => { part with anchored, root := some node }
  | frame :: outer =>
    { part with anchored, frames := { frame with nodes := node :: frame.nodes } :: outer }

/-- Closes the innermost open collection. -/
def close (part : OutlinePart) : OutlinePart :=
  match part.frames with
  | [] => part
  | frame :: outer => { part with frames := outer }.add frame.anchor frame.close

/-- Numbers an anchor given at a place. -/
def number (part : OutlinePart) (place : Nat) : Option String → Option (Nat × Nat) × OutlinePart
  | none => (none, part)
  | some name =>
    let (number, anchors) := part.anchors.add name
    (some (number, place), { part with anchors })

/-- Closes everything that is open at the end of what can be read. -/
def closeAll : Nat → OutlinePart → OutlinePart
  | 0, part => part
  | count + 1, part => closeAll count part.close

/-- The outline of what can be read, with something missing at its end. -/
def breakOff (part : OutlinePart) : OutlinePart :=
  closeAll part.frames.length (part.add none .missing)

/-- Goes on with the events from a place; says too how many could be read. -/
def build : Nat → List Event → OutlinePart → Nat × OutlinePart
  | place, [], part =>
    (place, if part.frames.isEmpty && part.root.isSome then part else part.breakOff)
  | place, event :: rest, part =>
    match event.kind with
    | .alias name =>
      match part.anchors.number? name with
      | some number => build (place + 1) rest (part.add none (.alias number))
      | none => (place, part.breakOff)
    | .scalar anchor tag style text =>
      let (anchor, part) := part.number place anchor
      build (place + 1) rest (part.add anchor (.scalar event.mark tag style text))
    | .sequenceStart anchor tag =>
      let (anchor, part) := part.number place anchor
      build (place + 1) rest
        { part with frames := ⟨event.mark, tag, false, anchor, []⟩ :: part.frames }
    | .mappingStart anchor tag =>
      let (anchor, part) := part.number place anchor
      build (place + 1) rest
        { part with frames := ⟨event.mark, tag, true, anchor, []⟩ :: part.frames }
    | .sequenceEnd | .mappingEnd => build (place + 1) rest part.close
    | .documentStart | .documentEnd | .streamEnd => build (place + 1) rest part

/-- What a number refers to: the node whose anchor got it last. -/
def target (part : OutlinePart) (number : Nat) : Outline :=
  let latest := part.anchored.foldl (fun best (entry : Nat × Nat × Outline) =>
    if entry.1 = number then
      match best with
      | some (place, _) => if place < entry.2.1 then some entry.2 else best
      | none => some entry.2
    else best) (none : Option (Nat × Outline))
  match latest with
  | some (_, node) => node
  | none => .missing

end OutlinePart

/-- Replaces references by what they refer to, for as long as there are references to spend.
Collections may be nested less often than there are levels; past that nothing more is spent. -/
def expand (target : Nat → Outline) : Nat → Outline → StateM Nat Node
  | 0, _ => pure .missing
  | levels + 1, outline => do
    let followed : Outline × Bool ←
      match outline with
      | .alias number => do
        if (← get) = 0 then pure (.missing, true)
        else
          modify (· - 1)
          pure (target number, true)
      | outline => pure (outline, false)
    let node ←
      match followed.1 with
      | .scalar mark tag style text => pure (.scalar mark tag style text)
      | .sequence mark tag items =>
        if levels = 0 then
          set 0
          pure .missing
        else
          let items ← items.mapM (expand target levels)
          pure (.sequence mark tag items)
      | .mapping mark tag entries =>
        if levels = 0 then
          set 0
          pure .missing
        else
          let entries ← entries.mapM fun entry => do
            let key ← expand target levels entry.1
            let value ← expand target levels entry.2
            pure (key, value)
          pure (.mapping mark tag entries)
      | .alias _ | .missing => pure .missing
    pure (if followed.2 then .reference node else node)

/-- How often collections may be nested. -/
def nestingLimit : Nat := 128

/-- How many references a document may spend for each event. -/
def referencesPerEvent : Nat := 100

/-- The tree of a list of events. -/
def Node.ofEvents (events : List Event) : Node :=
  let (count, part) := OutlinePart.build 0 events {}
  match part.root with
  | some outline =>
    ((expand part.target (nestingLimit + 1) outline).run (referencesPerEvent * count)).1
  | none => .missing

/-- A text read as a document: its tree, unless the text is without content, and whether the text
is in order to its end and holds no second document. -/
structure Source where
  root : Option Node
  complete : Bool

/-- Reads a text as a document. -/
def Source.ofText (text : String) : Source :=
  let document := documentEvents text.toList
  { root :=
      if document.events.isEmpty && document.complete then none
      else some (Node.ofEvents document.events)
    complete := document.complete && document.alone }

end CallSchema.Yaml
