import GeoDrafts.Format.Error
import GeoDrafts.Markup.Reference
import GeoDrafts.Text.Blank

/-!
Markup text as a sequence of events. An event is an opened, an empty or a closed element, or a
piece of text; comments, instructions and declarations are events without content. A fault of
the text is an event too, always the last one, so that whoever reads the events meets faults in
the order of the document.
-/

namespace GeoDrafts.Markup

/-- The name of an element without its namespace, with its attributes in order. -/
structure Tag where
  name : String
  attributes : List (String × String)
  deriving DecidableEq, Repr, Inhabited

inductive Event where
  | start (tag : Except DecodeError Tag)
  | empty (tag : Except DecodeError Tag)
  | finish
  /-- A piece of text, unless a reference in it is malformed. -/
  | text (content : Option String)
  | other
  | malformed
  deriving Repr

def isSpace (c : Char) : Bool := c == ' ' || c == '\t' || c == '\n' || c == '\r'

def skipSpace (cs : List Char) : List Char := cs.dropWhile isSpace

def trimSpace (cs : List Char) : List Char := Text.trimBy isSpace cs

/-- The part of a name after its first colon. -/
def localName (name : List Char) : String :=
  match name.dropWhile (· != ':') with
  | ':' :: rest => String.ofList rest
  | _ => String.ofList name

/-- The attributes of a tag from a place where one may start; `seen` holds the full keys so far.
A key is a first character and all that follows up to `=` or a blank. -/
def readAttributes : Nat → List (List Char) → List Char →
    Except DecodeError (List (String × String))
  | 0, _, _ => .ok []
  | fuel + 1, seen, cs =>
    match skipSpace cs with
    | [] => .ok []
    | first :: rest =>
      let key := first :: rest.takeWhile fun c => c != '=' && !isSpace c
      let rest := rest.dropWhile fun c => c != '=' && !isSpace c
      match skipSpace rest with
      | '=' :: rest =>
        if key ∈ seen then .error .attribute
        else
          match skipSpace rest with
          | quote :: rest =>
            if quote = '"' ∨ quote = '\'' then
              match rest.dropWhile (· != quote) with
              | _ :: after =>
                match resolve? (rest.takeWhile (· != quote)) with
                | none => .error .markup
                | some value => do
                  let more ← readAttributes fuel (key :: seen) after
                  .ok ((localName key, value) :: more)
              | [] => .error .attribute
            else .error .attribute
          | [] => .error .attribute
      | _ => .error .attribute

/-- The tag written between the angle brackets of an element, without the slash of an empty one.
The name runs up to the first blank. -/
def readTag (content : List Char) : Except DecodeError Tag := do
  let name := content.takeWhile fun c => !isSpace c
  let rest := content.dropWhile fun c => !isSpace c
  let attributes ← readAttributes rest.length [] rest
  .ok ⟨localName name, attributes⟩

/-- Splits a tag off at the first `>` outside quotes; `read` holds its content so far in
reverse. -/
def splitTag? (quote : Option Char) (read : List Char) : List Char →
    Option (List Char × List Char)
  | [] => none
  | c :: cs =>
    match quote with
    | some q => splitTag? (if c = q then none else some q) (c :: read) cs
    | none =>
      if c = '>' then some (read.reverse, cs)
      else if c = '"' ∨ c = '\'' then splitTag? (some c) (c :: read) cs
      else splitTag? none (c :: read) cs

/-- Splits a text at the first `>` that directly follows two characters `mark`, which are read
after the first `skipped` characters. -/
def splitAfterPair? (mark : Char) : Nat → List Char → List Char → Option (List Char × List Char)
  | _, _, [] => none
  | skipped, read, c :: cs =>
    if c = '>' ∧ skipped = 0 ∧ read.take 2 = [mark, mark] then some (read.reverse, cs)
    else splitAfterPair? mark (skipped - 1) (c :: read) cs

/-- Splits a declaration at the first `>` that no `<` before it waits for. -/
def splitDeclaration? (depth : Nat) (read : List Char) : List Char →
    Option (List Char × List Char)
  | [] => none
  | '<' :: cs => splitDeclaration? (depth + 1) ('<' :: read) cs
  | '>' :: cs =>
    if depth = 0 then some (read.reverse, cs) else splitDeclaration? (depth - 1) ('>' :: read) cs
  | c :: cs => splitDeclaration? depth (c :: read) cs

/-- Removes a word from the front of a text, without regard to ASCII case. -/
def dropWord? : List Char → List Char → Option (List Char)
  | [], cs => some cs
  | w :: ws, c :: cs => if w.toLower = c.toLower then dropWord? ws cs else none
  | _ :: _, [] => none

/-- Reads what follows `<!`: a comment, a section of plain text or a declaration. -/
def readBang? (cs : List Char) : Option (Event × List Char) :=
  match cs with
  | '-' :: _ => do
    let (content, rest) ← splitAfterPair? '-' 4 [] cs
    let _ ← dropWord? "--".toList content
    some (.other, rest)
  | '[' :: _ => do
    let (content, rest) ← splitAfterPair? ']' 0 [] cs
    let text ← dropWord? "[CDATA[".toList content
    some (.text (some (String.ofList (text.take (text.length - 2)))), rest)
  | 'D' :: _ | 'd' :: _ => do
    let (content, rest) ← splitDeclaration? 0 [] cs
    let body ← dropWord? "DOCTYPE".toList content
    if skipSpace body = [] then none else some (.other, rest)
  | _ => none

/-- Splits a text at its first `>`, which the end of the text can stand for. -/
def splitClosing (cs : List Char) : List Char × List Char :=
  (cs.takeWhile (· != '>'), (cs.dropWhile (· != '>')).drop 1)

/-- A closing name without the blanks after it. If there are only blanks, they stay. -/
def closingName (content : List Char) : List Char :=
  let name := (content.reverse.dropWhile isSpace).reverse
  if name = [] then content else name

/-- Reads what follows `</`: the name of the innermost open element. -/
def readClosing? (names : List (List Char)) (cs : List Char) :
    Option (Event × List (List Char) × List Char) :=
  let (content, rest) := splitClosing cs
  match names with
  | innermost :: outer =>
    if closingName content = innermost then some (.finish, outer, rest) else none
  | [] => none

/-- Reads what follows `<?`, which must end in a `?` of its own. -/
def readInstruction? (names : List (List Char)) (cs : List Char) :
    Option (Event × List (List Char) × List Char) :=
  let (content, rest) := splitClosing cs
  if 2 ≤ content.length ∧ content.getLast? = some '?' then some (.other, names, rest) else none

/-- Reads the tag of an element, which is empty if the tag ends in a slash. -/
def readElement? (names : List (List Char)) (cs : List Char) :
    Option (Event × List (List Char) × List Char) :=
  match splitTag? none [] cs with
  | none => none
  | some (content, rest) =>
    if content.getLast? = some '/' then some (.empty (readTag content.dropLast), names, rest)
    else some (.start (readTag content), content.takeWhile (fun c => !isSpace c) :: names, rest)

/-- Reads one markup construct after its `<`, with the names of the open elements, innermost
first. -/
def readMarkup? (names : List (List Char)) (cs : List Char) :
    Option (Event × List (List Char) × List Char) :=
  match cs with
  | '!' :: rest => (readBang? rest).map fun (event, rest) => (event, names, rest)
  | '/' :: rest => readClosing? names rest
  | '?' :: rest => readInstruction? names rest
  | _ => readElement? names cs

/-- The events of a text. Each piece of text is trimmed at both ends and dropped if nothing is
left; a lone `<` at the very end is ignored. -/
def eventsFrom : Nat → List (List Char) → List Char → List Event
  | 0, _, _ => []
  | fuel + 1, names, cs =>
    match skipSpace cs with
    | [] => []
    | ['<'] => []
    | '<' :: rest =>
      match readMarkup? names rest with
      | none => [.malformed]
      | some (event, names, rest) => event :: eventsFrom fuel names rest
    | cs =>
      .text (resolve? (trimSpace (cs.takeWhile (· != '<')))) ::
        eventsFrom fuel names (cs.dropWhile (· != '<'))

/-- Drops a byte order mark from the front of a text. -/
def skipMark : List Char → List Char
  | '\uFEFF' :: cs => cs
  | cs => cs

def events (text : String) : List Event :=
  let cs := skipMark text.toList
  eventsFrom (cs.length + 1) [] cs

end GeoDrafts.Markup
