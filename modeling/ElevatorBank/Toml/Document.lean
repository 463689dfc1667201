import ElevatorBank.Toml.Scalar
import ElevatorBank.Toml.Table

/-!
# TOML documents

Values, which may be arrays and tables between braces, and the lines of a
document: assignments, headers of tables and headers of lists of tables. The
lines, in their order, make the tree of settings.
-/
namespace ElevatorBank.Toml

/-- A reader: it takes the characters still to be read and gives what it read with
those left over. -/
abbrev Item (α : Type) := List Char → Option (α × List Char)

/-- A key: the path to its table, and the last part. -/
def keyPath? (cs : List Char) : Option ((List String × String) × List Char) := do
  let (parts, rest) ← dottedKey? limit cs
  return ((parts.dropLast, ← parts.getLast?), rest)

/-- The elements of an array after its opening bracket. Each takes a character at
least, so the number of characters bounds them. -/
def elements (value : Item Setting) : Nat → Item (List Setting)
  | 0, _ => none
  | fuel + 1, cs =>
    match skipLines false cs with
    | ']' :: rest => some ([], rest)
    | cs => do
      let (v, rest) ← value cs
      match skipLines false rest with
      | ']' :: rest => return ([v], rest)
      | ',' :: rest =>
        let (vs, rest) ← elements value fuel rest
        return (v :: vs, rest)
      | _ => none

/-- A key, an equals sign and a value. -/
def assignment? (value : Item Setting) : Item ((List String × String) × Setting) := fun cs => do
  let (key, '=' :: rest) ← keyPath? cs | none
  let (v, rest) ← value (skipBlanks rest)
  return ((key, v), rest)

/-- One assignment or more between braces. -/
def assignments (value : Item Setting) : Nat → Item (List ((List String × String) × Setting))
  | 0, _ => none
  | fuel + 1, cs => do
    let (a, rest) ← assignment? value cs
    match skipBlanks rest with
    | '\x7d' :: rest => return ([a], rest)
    | ',' :: rest =>
      let (as, rest) ← assignments value fuel rest
      return (a :: as, rest)
    | _ => none

/-- A table after its opening brace, on one line. -/
def inlineTable (value : Item Setting) : Item Setting := fun cs =>
  match skipBlanks cs with
  | '\x7d' :: rest => some (.table [], rest)
  | cs => do
    let (as, rest) ← assignments value cs.length cs
    return (.table (Node.settings (← Node.ofAssignments? as)), rest)

/-- A value that nests so deep at most. -/
def value : Nat → Item Setting
  | depth + 1, '[' :: rest =>
    (elements (value depth) (rest.length + 1) rest).map fun (vs, rest) => (.list vs, rest)
  | depth + 1, '\x7b' :: rest => inlineTable (value depth) rest
  | _, cs =>
    match cs with
    | '"' :: _ => (string? cs).map fun (s, rest) => (.text (String.ofList s), rest)
    | '\x27' :: _ => (string? cs).map fun (s, rest) => (.text (String.ofList s), rest)
    | cs => scalar? cs

inductive Line
  | assign (path : List String) (key : String) (v : Setting)
  | header (path : List String) (name : String)
  /-- The header of one more table of a list. -/
  | item (path : List String) (name : String)

/-- One line without what follows its content; blanks before it are passed over. -/
def content? : Item Line
  | '[' :: '[' :: rest => do
    let ((path, name), ']' :: ']' :: rest) ← keyPath? rest | none
    return (.item path name, rest)
  | '[' :: rest => do
    let ((path, name), ']' :: rest) ← keyPath? rest | none
    return (.header path name, rest)
  | cs => do
    let (((path, key), v), rest) ← assignment? (value limit) cs
    return (.assign path key v, rest)

/-- Whether a line has nothing before its end but perhaps a comment. -/
def isEmptyLine (cs : List Char) : Bool :=
  match cs with
  | [] => true
  | '#' :: _ => true
  | '\n' :: _ => true
  | '\r' :: _ => true
  | _ => false

/-- The rest of a line after its content, up to the next line. -/
def lineEnd? (cs : List Char) : Option (List Char) :=
  match skipComment (skipBlanks cs) with
  | [] => some []
  | cs => newline? cs

/-- The lines of a document, bounded by the number of its characters. -/
def lines? : Nat → List Char → Option (List Line)
  | 0, _ => none
  | fuel + 1, cs =>
    match skipBlanks cs with
    | [] => some []
    | cs =>
      if isEmptyLine cs then do lines? fuel (← lineEnd? cs)
      else do
        let (line, rest) ← content? cs
        return line :: (← lines? fuel (← lineEnd? rest))

/-- The tree so far and the table that assignments go to. -/
structure Draft where
  root : Entries Node := []
  current : List String := []

namespace Draft

def add (d : Draft) : Line → Option Draft
  | .assign path key v => do
    return { d with root := ← Node.within false (Node.assign path key v) d.current .header d.root }
  | .header path name => do
    return {
      root := ← Node.within false (Node.declare name) path .header d.root
      current := path ++ [name] }
  | .item path name => do
    return {
      root := ← Node.within false (Node.append name) path .header d.root
      current := path ++ [name] }

end Draft

/-- The settings of a document, which a byte order mark may begin. A document that
stands for a date as a whole has none. -/
def parse? (s : String) : Option (Entries Setting) := do
  let cs := match s.toList with
    | '\ufeff' :: cs => cs
    | cs => cs
  let lines ← lines? (cs.length + 1) cs
  let draft ← lines.foldlM Draft.add {}
  let .table es ← withDates? (.table (Node.settings draft.root)) | none
  return es

end ElevatorBank.Toml
