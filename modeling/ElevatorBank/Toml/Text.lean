import ElevatorBank.Text.Numeral

/-!
# Text in TOML

Blanks, line ends, comments, the four kinds of strings, and keys. A reader takes
the characters still to be read and gives what it read with those left over.
-/
namespace ElevatorBank.Toml

def isBlank (c : Char) : Bool := c == ' ' || c == '\t'

def skipBlanks (cs : List Char) : List Char := cs.dropWhile isBlank

/-- A character that may stand in a comment or a string as it is. -/
def isPlain (c : Char) : Bool := c == '\t' || (0x20 ≤ c.toNat && c.toNat != 0x7f)

/-- A line ends with a line feed, before which a carriage return may stand. -/
def newline? : List Char → Option (List Char)
  | '\n' :: rest => some rest
  | '\r' :: '\n' :: rest => some rest
  | _ => none

def skipComment : List Char → List Char
  | '#' :: rest => rest.dropWhile isPlain
  | cs => cs

/-- Passes over blanks, line ends and whole comments; `inComment` tells where it
begins. -/
def skipLines (inComment : Bool) : List Char → List Char
  | [] => []
  | '\n' :: rest => skipLines false rest
  | '\r' :: '\n' :: rest => skipLines false rest
  | c :: rest =>
    if inComment then if isPlain c then skipLines true rest else c :: rest
    else if c == '#' then skipLines true rest
    else if isBlank c then skipLines false rest
    else c :: rest

/-! ### Strings -/

/-- The character that a letter after a backslash stands for. -/
def escaped? : Char → Option Char
  | 'b' => some '\x08'
  | 't' => some '\t'
  | 'n' => some '\n'
  | 'f' => some '\x0c'
  | 'r' => some '\r'
  | '"' => some '"'
  | '\\' => some '\\'
  | _ => none

/-- Puts a character, if there is one, before what is read after it. -/
def push (c : Option Char) (read : Option (List Char × List Char)) :
    Option (List Char × List Char) := do
  let c ← c
  let (cs, rest) ← read
  return (c :: cs, rest)

/-- A string after its opening double quote. -/
def basic : List Char → Option (List Char × List Char)
  | [] => none
  | '"' :: rest => some ([], rest)
  | '\\' :: 'u' :: a :: b :: c :: d :: rest => push (Text.codePoint? [a, b, c, d]) (basic rest)
  | '\\' :: 'U' :: a :: b :: c :: d :: e :: f :: g :: h :: rest =>
    push (Text.codePoint? [a, b, c, d, e, f, g, h]) (basic rest)
  | '\\' :: e :: rest => push (escaped? e) (basic rest)
  | c :: rest => if c != '\\' && isPlain c then push (some c) (basic rest) else none

/-- A string after its opening single quote. -/
def verbatim (cs : List Char) : Option (List Char × List Char) :=
  match cs.span fun c => c != '\x27' && isPlain c with
  | (inner, '\x27' :: rest) => some (inner, rest)
  | _ => none

/-- Three quotes that close a long string, with up to two before them that still
belong to it. -/
def closing? (quote : Char) (cs : List Char) : Option (List Char × List Char) :=
  let run := (cs.take 5).takeWhile (· == quote)
  if run.length < 3 then none else some (run.drop 3, cs.drop run.length)

/-- A long string after its three opening double quotes. A backslash at the end
of a line takes all blanks and line ends after it away; `joining` tells that they
are being taken away. -/
def longBasic (joining : Bool) (cs : List Char) : Option (List Char × List Char) :=
  match closing? '"' cs with
  | some r => some r
  | none =>
    match cs with
    | [] => none
    | '\r' :: '\n' :: rest =>
      if joining then longBasic true rest else push (some '\n') (longBasic false rest)
    | '\n' :: rest =>
      if joining then longBasic true rest else push (some '\n') (longBasic false rest)
    | '\\' :: 'u' :: a :: b :: c :: d :: rest =>
      push (Text.codePoint? [a, b, c, d]) (longBasic false rest)
    | '\\' :: 'U' :: a :: b :: c :: d :: e :: f :: g :: h :: rest =>
      push (Text.codePoint? [a, b, c, d, e, f, g, h]) (longBasic false rest)
    | '\\' :: e :: rest =>
      if (newline? (skipBlanks (e :: rest))).isSome then longBasic true (e :: rest)
      else push (escaped? e) (longBasic false rest)
    | c :: rest =>
      if joining && isBlank c then longBasic true rest
      else if c != '\\' && isPlain c then push (some c) (longBasic false rest)
      else none

/-- A long string after its three opening single quotes. -/
def longVerbatim (cs : List Char) : Option (List Char × List Char) :=
  match closing? '\x27' cs with
  | some r => some r
  | none =>
    match cs with
    | [] => none
    | '\r' :: '\n' :: rest => push (some '\n') (longVerbatim rest)
    | c :: rest => if c == '\n' || isPlain c then push (some c) (longVerbatim rest) else none

/-- A long string begins after the line end that may follow its quotes. -/
def afterNewline (cs : List Char) : List Char := (newline? cs).getD cs

/-- A string of any kind with its quotes, if there is one. -/
def string? : List Char → Option (List Char × List Char)
  | '"' :: '"' :: '"' :: rest => longBasic false (afterNewline rest)
  | '"' :: rest => basic rest
  | '\x27' :: '\x27' :: '\x27' :: rest => longVerbatim (afterNewline rest)
  | '\x27' :: rest => verbatim rest
  | _ => none

/-! ### Keys -/

def isBareChar (c : Char) : Bool := c.isAlphanum || c == '-' || c == '_'

def bare? (cs : List Char) : Option (List Char × List Char) :=
  match cs.span isBareChar with
  | ([], _) => none
  | r => some r

def simpleKey? : List Char → Option (List Char × List Char)
  | '"' :: rest => basic rest
  | '\x27' :: rest => verbatim rest
  | cs => bare? cs

/-- Values nest, and keys have parts, up to this number. -/
def limit : Nat := 79

/-- A key of so many parts at most, with dots between them and blanks around. -/
def dottedKey? : Nat → List Char → Option (List String × List Char)
  | 0, _ => none
  | n + 1, cs => do
    let (part, rest) ← simpleKey? (skipBlanks cs)
    match skipBlanks rest with
    | '.' :: rest =>
      let (parts, rest) ← dottedKey? n rest
      return (String.ofList part :: parts, rest)
    | rest => return ([String.ofList part], rest)

end ElevatorBank.Toml
