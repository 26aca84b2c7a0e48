import Conformance.Yaml.Event

/-!
# From the events of a YAML document to its tree

Events are put together on a stack that has one frame for each sequence and each mapping that is
open. If the events end too early, all frames are closed around the place where reading stopped.

Anchors are numbered, and a reference is known by the number of its anchor at the place where it
stands. The number of an anchor is the number of different names in front of it. So two anchors may
have one number, if a name is used twice; a reference then leads to the one that starts last.

* `Conformance.Yaml.NodeReader` – the stack;
* `Conformance.Yaml.readNodes` – the stack behind the events of a document.
-/

namespace Conformance.Yaml

/-- A sequence or a mapping that is open. -/
inductive Frame where
  /-- A sequence, with the number of its first event and its items, the last one first. -/
  | seq (event : Nat) (tag : Option String) (items : List Source)
  /-- A mapping, with the number of its first event, its entries, the last one first, and the key
  whose value has not come. -/
  | map (event : Nat) (tag : Option String) (entries : List (Source × Source)) (key : Option Source)

/-- The stack of a document. -/
structure NodeReader where
  /-- The frames, from the inside out. -/
  frames : List Frame
  /-- The whole tree, when it is complete. -/
  root : Option Source
  /-- The number of events. -/
  count : Nat
  /-- The anchors, with their numbers; the last use of a name comes first. -/
  names : List (String × Nat)
  /-- The numbers of anchors, each with the event that starts its node; the last one comes first. -/
  anchors : List (Nat × Nat)
  /-- The nodes that are complete, by the events that start them. -/
  nodes : List (Nat × Source)

namespace Frame

/-- The number of the first event. -/
def event : Frame → Nat
  | seq event _ _ => event
  | map event _ _ _ => event

/-- The frame with one more node. -/
def add (s : Source) : Frame → Frame
  | seq event tag items => seq event tag (s :: items)
  | map event tag entries none => map event tag entries (some s)
  | map event tag entries (some key) => map event tag ((key, s) :: entries) none

/-- The node of a frame that is closed. -/
def node : Frame → Source
  | seq _ tag items => .seq tag items.reverse
  | map _ tag entries _ => .map tag entries.reverse

/-- The frame around the place where reading stopped. -/
def breakOff : Frame → Frame
  | map event tag entries none => map event tag ((.broken, .broken) :: entries) none
  | f => f.add .broken

end Frame

namespace NodeReader

/-- The start of a document. -/
def start : NodeReader := ⟨[], none, 0, [], [], []⟩

/-! ### Anchors -/

/-- The number of different names. -/
def nameCount (r : NodeReader) : Nat := (r.names.map (·.1)).eraseDups.length

/-- Numbers the anchor of the node that starts with the next event. -/
def anchor (r : NodeReader) : Option String → NodeReader
  | none => r
  | some name =>
    let number := r.nameCount
    { r with names := (name, number) :: r.names, anchors := (number, r.count) :: r.anchors }

/-- The anchored nodes by their numbers. Of two with one number, the one that starts last comes
first. -/
def anchored (r : NodeReader) : List (Nat × Source) :=
  r.anchors.filterMap fun (number, event) => (r.nodes.lookup event).map fun s => (number, s)

/-! ### Nodes -/

/-- Adds a node to the innermost frame. -/
def attach (r : NodeReader) (s : Source) : NodeReader :=
  match r.frames with
  | [] => { r with root := some s }
  | f :: frames => { r with frames := f.add s :: frames }

/-- Adds a node that starts with the given event. -/
def complete (r : NodeReader) (event : Nat) (s : Source) : NodeReader :=
  { r with nodes := (event, s) :: r.nodes }.attach s

/-- Opens a frame. -/
def openFrame (r : NodeReader) (f : Frame) : NodeReader := { r with frames := f :: r.frames }

/-- Closes the innermost frame. -/
def closeFrame (r : NodeReader) : NodeReader :=
  match r.frames with
  | [] => r
  | f :: frames => { r with frames := frames }.complete f.event f.node

/-- Takes one event. A reference has to be to a known anchor. -/
def take? (r : NodeReader) (e : Event) : Option NodeReader :=
  let done := fun (r : NodeReader) => some { r with count := r.count + 1 }
  match e with
  | .alias name => (r.names.lookup name).bind fun number => done (r.attach (.alias number))
  | .scalar anchor s => done ((r.anchor anchor).complete r.count (.scalar s))
  | .sequenceStart anchor tag => done ((r.anchor anchor).openFrame (.seq r.count tag []))
  | .mappingStart anchor tag => done ((r.anchor anchor).openFrame (.map r.count tag [] none))
  | .sequenceEnd | .mappingEnd => done r.closeFrame
  | .documentStart | .documentEnd | .streamEnd => some r

/-- Takes events as long as references are to known anchors, and tells whether all were. -/
def takeAll (r : NodeReader) : List Event → NodeReader × Bool
  | [] => (r, true)
  | e :: rest =>
    match r.take? e with
    | none => (r, false)
    | some r => takeAll r rest

/-- Closes frames around a node, from the inside out. -/
def closeAround (r : NodeReader) : List Frame → Source → NodeReader
  | [], s => { r with frames := [], root := some s }
  | f :: outer, s =>
    let s := (f.add s).node
    { r with nodes := (f.event, s) :: r.nodes }.closeAround outer s

/-- The stack with all frames closed around the place where reading stopped. -/
def breakOff (r : NodeReader) : NodeReader :=
  match r.frames with
  | [] => if r.root.isSome then r else { r with root := some .broken }
  | f :: outer =>
    let s := f.breakOff.node
    { r with nodes := (f.event, s) :: r.nodes }.closeAround outer s

end NodeReader

/-- The stack behind the events of a document, and whether it breaks off. -/
def readNodes (events : List Event) : NodeReader × Bool :=
  let (r, allKnown) := NodeReader.start.takeAll events
  if allKnown && r.frames.isEmpty && r.root.isSome then (r, false) else (r.breakOff, true)

end Conformance.Yaml
