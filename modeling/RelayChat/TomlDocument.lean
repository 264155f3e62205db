import RelayChat.TomlScalar

/-!
# Reading TOML documents

A document is a series of lines that add a value under a key or open a table.
`TomlDocument.parse?` reads the lines and puts the table of the whole document
together. Lists and tables in braces nest up to a fixed depth, which is what
the recursion of `value?` runs on.
-/

namespace RelayChat.TomlDocument

open TomlScalar

/-- Skips blanks, line ends and comments. The number bounds the characters. -/
def skipSpace : Nat → List Char → List Char
  | 0, s => s
  | bound + 1, s =>
    match s with
    | [] => []
    | '#' :: _ => skipSpace bound (skipComment s)
    | c :: rest =>
      if isBlank c then skipSpace bound rest
      else match newline? s with
        | some next => skipSpace bound next
        | none => s

/-- Skips blanks, line ends and comments. -/
def space (s : List Char) : List Char :=
  skipSpace s.length s

/-- The items of a list up to its bracket, each read by `item`. The number
bounds the items. -/
def items? (item : List Char → Option (TomlNode × List Char)) :
    Nat → List Char → Option (List TomlNode × List Char)
  | 0, _ => none
  | bound + 1, s =>
    match space s with
    | ']' :: rest => some ([], rest)
    | s => do
      let (node, rest) ← item s
      match space rest with
      | ',' :: rest => do
        let (nodes, rest) ← items? item bound rest
        return (node :: nodes, rest)
      | ']' :: rest => return ([node], rest)
      | _ => none

/-- The pairs of a table in braces up to its brace, their values read by `item`.
The number bounds the pairs. -/
def pairs? (item : List Char → Option (TomlNode × List Char)) :
    Nat → TomlEntries → List Char → Option (TomlEntries × List Char)
  | 0, _, _ => none
  | bound + 1, entries, s => do
    let (path, name, rest) ← key? s
    let rest ← expect? '=' rest
    let (node, rest) ← item (skipBlanks rest)
    let entries ← TomlEntries.addPair path name node ⟨.header, entries⟩
    match skipBlanks rest with
    | ',' :: rest => pairs? item bound entries rest
    | '}' :: rest => return (entries, rest)
    | _ => none

/-- How deeply lists and tables in braces may nest. -/
def maxNesting : Nat := 79

/-- A value in which others nest up to a depth. -/
def value? : Nat → List Char → Option (TomlNode × List Char)
  | 0, s => scalar? s
  | depth + 1, s =>
    match s with
    | '[' :: rest =>
      (items? (value? depth) (rest.length + 1) rest).map fun found => (.array found.1, found.2)
    | '{' :: rest =>
      match skipBlanks rest with
      | '}' :: rest => some (.inlineTable [], rest)
      | _ =>
        (pairs? (value? depth) (rest.length + 1) [] rest).map fun found =>
          (.inlineTable found.1, found.2)
    | _ => scalar? s

/-- What follows the rest of a line that holds only blanks and a comment. -/
def lineRest? (s : List Char) : Option (List Char) :=
  match skipComment (skipBlanks s) with
  | [] => some []
  | rest => newline? rest

/-- One line of a document. -/
inductive Statement where
  /-- A value under a key. -/
  | pair (path : List String) (name : String) (node : TomlNode)
  /-- The header of a table. -/
  | table (path : List String) (name : String)
  /-- The header of one more table of the same name. -/
  | nextTable (path : List String) (name : String)
deriving Repr

/-- The statement of a line that is neither empty nor a comment. -/
def statement? (s : List Char) : Option (Statement × List Char) :=
  match s with
  | '[' :: '[' :: rest => do
    let (path, name, rest) ← key? rest
    let rest ← expect? ']' rest
    let rest ← expect? ']' rest
    let rest ← lineRest? rest
    return (.nextTable path name, rest)
  | '[' :: rest => do
    let (path, name, rest) ← key? rest
    let rest ← expect? ']' rest
    let rest ← lineRest? rest
    return (.table path name, rest)
  | _ => do
    let (path, name, rest) ← key? s
    let rest ← expect? '=' rest
    let (node, rest) ← value? maxNesting (skipBlanks rest)
    let rest ← lineRest? rest
    return (.pair path name node, rest)

/-- The statements of a document. The number bounds the lines. -/
def statements? : Nat → List Char → Option (List Statement)
  | 0, _ => none
  | bound + 1, s =>
    match skipBlanks s with
    | [] => some []
    | '#' :: rest => do
      let rest ← lineRest? ('#' :: rest)
      statements? bound rest
    | s =>
      match newline? s with
      | some rest => statements? bound rest
      | none => do
        let (statement, rest) ← statement? s
        let statements ← statements? bound rest
        return statement :: statements

/-- A document on the way: its table so far, and the path of the header under
which the next values go. -/
structure Assembly where
  /-- The table of the document. -/
  root : TomlEntries
  /-- The table that is open. -/
  current : List String

/-- The document with one more statement. -/
def Assembly.add? (a : Assembly) : Statement → Option Assembly
  | .pair path name node => do
    let root ← TomlEntries.within .implied (TomlEntries.addPair path name node) a.current
      ⟨.header, a.root⟩
    return { a with root }
  | .table path name => do
    let root ← TomlEntries.within .implied (TomlEntries.openTable name) path ⟨.header, a.root⟩
    return ⟨root, path ++ [name]⟩
  | .nextTable path name => do
    let root ← TomlEntries.within .implied (TomlEntries.openNext name) path ⟨.header, a.root⟩
    return ⟨root, path ++ [name]⟩

/-- The text without a mark of byte order in front. -/
def skipMark : List Char → List Char
  | '\uFEFF' :: rest => rest
  | s => s

/-- The table of a whole document; `none` if it is malformed or says a thing
twice. -/
def parse? (text : String) : Option TomlEntries := do
  let chars := skipMark text.toList
  let statements ← statements? (chars.length + 1) chars
  let assembly ← statements.foldlM Assembly.add? ⟨[], []⟩
  return assembly.root

end RelayChat.TomlDocument
