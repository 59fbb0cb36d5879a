import GeoDrafts.Markup.Event

/-!
Markup documents as trees of elements. The tree is built from the events of a text with a stack
of the elements that are still open.
-/

namespace GeoDrafts.Markup

/-- An element with its direct text, in which the pieces around its children are joined. -/
structure Element where
  name : String
  attributes : List (String × String)
  children : List Element
  rawText : String
  deriving Repr, Inhabited

namespace Element

def attribute? (e : Element) (name : String) : Option String :=
  (e.attributes.find? fun a => a.1 == name).map (·.2)

def childrenNamed (e : Element) (name : String) : List Element :=
  e.children.filter fun c => c.name == name

def child? (e : Element) (name : String) : Option Element :=
  e.children.find? fun c => c.name == name

/-- The direct text without blanks at its ends. -/
def text (e : Element) : String := Text.trim e.rawText

/-- The text of the first child with a name, unless it is empty. -/
def childText? (e : Element) (name : String) : Option String :=
  ((e.child? name).map text).filter fun t => !t.isEmpty

mutual

/-- The elements with a name below an element, parents before their children. -/
def descendantsNamed (name : String) : Element → List Element
  | ⟨_, _, children, _⟩ => namedWithin name children

/-- The elements with a name in and below a list of elements. -/
def namedWithin (name : String) : List Element → List Element
  | [] => []
  | c :: cs =>
    (if c.name == name then [c] else []) ++ descendantsNamed name c ++ namedWithin name cs

end

end Element

/-- An element that is still open, with its children so far in reverse. -/
structure Frame where
  tag : Tag
  children : List Element
  rawText : String
  deriving Repr

namespace Frame

def ofTag (tag : Tag) : Frame := ⟨tag, [], ""⟩

def close (f : Frame) : Element := ⟨f.tag.name, f.tag.attributes, f.children.reverse, f.rawText⟩

end Frame

/-- Puts a finished element into the innermost open one, or in the place of the root. -/
def attach (e : Element) : List Frame → Option Element →
    Except DecodeError (List Frame × Option Element)
  | f :: frames, root => .ok ({ f with children := e :: f.children } :: frames, root)
  | [], none => .ok ([], some e)
  | [], some _ => .error (.document .secondRoot)

/-- Takes one event. Text outside the root is ignored, even if it is malformed. -/
def step (frames : List Frame) (root : Option Element) :
    Event → Except DecodeError (List Frame × Option Element)
  | .start tag =>
    if maxElementDepth ≤ frames.length then .error (.document .tooDeep)
    else tag.map fun tag => (Frame.ofTag tag :: frames, root)
  | .empty tag => do
    let tag ← tag
    attach (Frame.ofTag tag).close frames root
  | .finish =>
    match frames with
    | f :: frames => attach f.close frames root
    | [] => .error .markup
  | .text content =>
    match frames with
    | [] => .ok ([], root)
    | f :: frames =>
      match content with
      | none => .error .markup
      | some s => .ok ({ f with rawText := f.rawText ++ s } :: frames, root)
  | .other => .ok (frames, root)
  | .malformed => .error .markup

/-- Takes events to their end, where no element is open and there is a root. -/
def build : List Frame → Option Element → List Event → Except DecodeError Element
  | [], some root, [] => .ok root
  | [], none, [] => .error (.document .noRoot)
  | _ :: _, _, [] => .error (.document .unclosed)
  | frames, root, event :: events =>
    match step frames root event with
    | .error e => .error e
    | .ok (frames, root) => build frames root events

def Element.read (text : String) : Except DecodeError Element := build [] none (events text)

def Element.readNamed (name text : String) : Except DecodeError Element := do
  let root ← Element.read text
  if root.name = name then .ok root else .error (.document (.wrongRoot root.name name))

end GeoDrafts.Markup
