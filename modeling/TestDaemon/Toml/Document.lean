import TestDaemon.Toml.Lexeme

/-! # Reading TOML

Values, lines and whole documents. A document is a series of lines that give a key its value or open a
table; the table under the present header is held apart until the next header or the end. Whether a
text is a document is all that a failure tells.
-/

namespace TestDaemon.Toml

/-! ## Values -/

/-- Read items up to a closing bracket; every item takes a character or more. -/
def readItems? (readValue : Reader Node) : (bound : Nat) → Reader (List Node)
  | 0, _ => none
  | bound + 1, cursor => do
    let cursor ← skipBlankLines? cursor
    match cursor.rest with
    | ']' :: _ => return ([], cursor.skip 1)
    | _ =>
      let (item, cursor) ← readValue cursor
      let cursor ← skipBlankLines? cursor
      match cursor.rest with
      | ',' :: _ =>
        let (items, cursor) ← readItems? readValue bound (cursor.skip 1)
        return (item :: items, cursor)
      | ']' :: _ => return ([item], cursor.skip 1)
      | _ => none

/-- Read a key and its value. -/
def readPair? (readValue : Reader Node) : Reader ((List Key × Key) × Node) := fun cursor => do
  let (key, cursor) ← readKey? cursor
  let cursor ← cursor.expect? ['=']
  let (value, cursor) ← readValue (skipSpaces cursor)
  return ((key, value), cursor)

/-- Read pairs up to a closing brace; every pair takes a character or more. -/
def readPairs? (readValue : Reader Node) : (bound : Nat) → Reader (List ((List Key × Key) × Node))
  | 0, _ => none
  | bound + 1, cursor => do
    let (pair, cursor) ← readPair? readValue cursor
    let cursor := skipSpaces cursor
    match cursor.rest with
    | ',' :: _ =>
      let (pairs, cursor) ← readPairs? readValue bound (cursor.skip 1)
      return (pair :: pairs, cursor)
    | '\x7d' :: _ => return ([pair], cursor.skip 1)
    | _ => none

/-- The table with the given pairs. -/
def ofPairs? (pairs : List ((List Key × Key) × Node)) : Option (List (Key × Node)) := do
  let root ← pairs.foldlM (fun table pair => table.define pair.1.1 pair.1.2 pair.2)
    (Node.table none .header [])
  match root with
  | .table _ _ entries => some entries
  | _ => none

/-- Read a table between braces, behind the opening one. -/
def readInline? (readValue : Reader Node) : Reader (List (Key × Node)) := fun cursor =>
  let cursor := skipSpaces cursor
  match cursor.rest with
  | '\x7d' :: _ => some ([], cursor.skip 1)
  | _ => do
    let (pairs, cursor) ← readPairs? readValue (cursor.rest.length + 1) cursor
    let entries ← ofPairs? pairs
    return (entries, cursor)

/-- Read a word and mark the stretch that it takes. -/
def spanning {α : Type} (read : Reader α) (make : Span → α → Node) : Reader Node := fun cursor =>
  (read cursor).map fun (value, after) => (make ⟨cursor.offset, after.offset⟩ value, after)

def readBoolean? : Reader Bool := fun cursor =>
  ((cursor.expect? "true".toList).map (true, ·)) <|>
    ((cursor.expect? "false".toList).map (false, ·))

/-- Read a date, a float or an integer. -/
def readNumeric? : Reader Node := fun cursor =>
  spanning (fun cursor => (readDatetime? cursor).map ((), ·)) (fun span _ => .datetime span) cursor <|>
    spanning readFloat? .float cursor <|> spanning readInteger? .integer cursor

/-- Read a value in which values are nested at most `depth` deep. -/
def readValue? : (depth : Nat) → Reader Node
  | depth, cursor =>
    match cursor.rest with
    | '"' :: _ => spanning readString? .string cursor
    | '\'' :: _ => spanning readString? .string cursor
    | '[' :: _ =>
      match depth with
      | 0 => none
      | depth + 1 =>
        spanning (fun cursor => readItems? (readValue? depth) cursor.rest.length (cursor.skip 1))
          (fun span items => .array (some span) false items) cursor
    | '\x7b' :: _ =>
      match depth with
      | 0 => none
      | depth + 1 =>
        spanning (fun cursor => readInline? (readValue? depth) (cursor.skip 1))
          (fun span entries => .table (some span) .inline entries) cursor
    | 't' :: _ => spanning readBoolean? .boolean cursor
    | 'f' :: _ => spanning readBoolean? .boolean cursor
    | _ => readNumeric? cursor

/-! ## Lines -/

/-- A document as far as it has been read: the closed tables, the table under the present header and
the path of that header, which is empty before the first one. -/
structure Draft where
  root : Node
  open? : Node
  path : Option (List Key × Key)
  listed : Bool

namespace Draft

def empty : Draft := ⟨.table none .header [], .table none .header [], none, false⟩

/-- Append a table to an array of tables, which then reaches from its first table to its last. -/
def pushTable (table : Node) : Node → Option Node
  | .array _ true items =>
    let items := items ++ [table]
    let span := do
      let first ← items.head?.bind Node.span?
      let last ← items.getLast?.bind Node.span?
      return Span.mk first.start last.stop
    some (.array span true items)
  | _ => none

/-- Put the table under the present header in its place. -/
def close? (draft : Draft) : Option Node :=
  match draft.path with
  | none => some draft.open?
  | some (path, key) =>
    draft.root.update false (fun parent =>
      match parent with
      | .table span kind entries =>
        match Node.find? key.name entries with
        | some (.array arraySpan true items) =>
          if draft.listed then do
            let array ← pushTable draft.open? (.array arraySpan true items)
            return .table span kind (Node.replace key.name array entries)
          else none
        | some (.table _ .parent _) =>
          if draft.listed then none
          else some (.table span kind (Node.replace key.name draft.open? entries))
        | some _ => none
        | none => if draft.listed then none else some (.table span kind (entries ++ [(key, draft.open?)]))
      | _ => none) path

/-- The table that a header finds under its key: none, or one that was only the parent of others. -/
def takeParent? (key : Key) : Node → Option (List (Key × Node) × Node)
  | .table span kind entries =>
    match Node.find? key.name entries with
    | none => some ([], .table span kind entries)
    | some (.table _ .parent children) => some (children, .table span kind (Node.remove key.name entries))
    | some _ => none
  | _ => none

/-- The table at the end of a path of headers. -/
def tableAt? : List Key → Node → Option Node
  | [], node => some node
  | key :: path, .table _ _ entries =>
    match Node.find? key.name entries with
    | none => tableAt? path (.table none .parent [])
    | some (.array _ true items) => items.getLast?.bind (tableAt? path)
    | some child => tableAt? path child
  | _ :: _, _ => none

/-- Open a table by its header. -/
def startTable? (draft : Draft) (path : List Key) (key : Key) (span : Span) : Option Draft := do
  let root ← draft.close?
  let root ← root.update false some path
  let (children, _) ← (tableAt? path root).bind (takeParent? key)
  let root ← root.update false (fun parent => (takeParent? key parent).map (·.2)) path
  return ⟨root, .table (some span) .header children, some (path, key), false⟩

/-- Make the array of tables that a header adds to. -/
def ensureArray (key : Key) : Node → Option Node
  | .table span kind entries =>
    match Node.find? key.name entries with
    | none => some (.table span kind (entries ++ [(key, .array none true [])]))
    | some (.array _ true _) => some (.table span kind entries)
    | some _ => none
  | _ => none

/-- Open the next table of an array by its header. -/
def startArrayTable? (draft : Draft) (path : List Key) (key : Key) (span : Span) : Option Draft := do
  let root ← draft.close?
  let root ← root.update false (ensureArray key) path
  return ⟨root, .table (some span) .header [], some (path, key), true⟩

/-- Let the present table reach up to the end of a value. -/
def stretch (table value : Node) : Node :=
  match table, value.span? with
  | .table (some span) kind entries, some last => .table (some ⟨span.start, last.stop⟩) kind entries
  | _, _ => table

/-- Add a value to the present table. -/
def define? (draft : Draft) (path : List Key) (key : Key) (value : Node) : Option Draft := do
  let table ← (stretch draft.open? value).define path key value
  return { draft with open? := table }

end Draft

/-- Read a header, and give its path and whether it has double brackets. -/
def readHeader? : Reader ((List Key × Key) × Bool) := fun cursor =>
  match cursor.rest with
  | '[' :: '[' :: _ => do
    let (key, cursor) ← readKey? (cursor.skip 2)
    let cursor ← cursor.expect? [']', ']']
    return ((key, true), cursor)
  | '[' :: _ => do
    let (key, cursor) ← readKey? (cursor.skip 1)
    let cursor ← cursor.expect? [']']
    return ((key, false), cursor)
  | _ => none

/-- Read one line of a document that is not at its end. -/
def readLine? (draft : Draft) (cursor : Cursor) : Option (Draft × Cursor) :=
  match cursor.rest with
  | '#' :: _ => (readLineEnd? (skipComment cursor)).map (draft, ·)
  | '\n' :: _ => (readNewline? cursor).map (draft, ·)
  | '\r' :: _ => (readNewline? cursor).map (draft, ·)
  | '[' :: _ => do
    let (((path, key), listed), after) ← readHeader? cursor
    let next ← readLineTail? after
    let span : Span := ⟨cursor.offset, after.offset⟩
    let draft ← if listed then draft.startArrayTable? path key span else draft.startTable? path key span
    return (draft, next)
  | _ => do
    let (((path, key), value), cursor) ← readPair? (readValue? (depthLimit - 1)) cursor
    let cursor ← readLineTail? cursor
    let draft ← draft.define? path key value
    return (draft, cursor)

/-- Read lines up to the end of the text; every line takes a character or more. -/
def readLines? : (bound : Nat) → Draft → Cursor → Option Draft
  | 0, _, _ => none
  | bound + 1, draft, cursor =>
    let cursor := skipSpaces cursor
    if cursor.rest.isEmpty then some draft
    else (readLine? draft cursor).bind fun (draft, cursor) => readLines? bound draft cursor

/-- Pass a byte order mark. -/
def skipMark (cursor : Cursor) : Cursor := (cursor.expect? ['\uFEFF']).getD cursor

/-- The document that a text is; `none` if it breaks the rules of the format. -/
def parse? (text : String) : Option (List (Key × Node)) := do
  let cursor := skipMark (.start text)
  let draft ← readLines? (cursor.rest.length + 1) .empty cursor
  match ← draft.close? with
  | .table _ _ entries => some entries
  | _ => none

end TestDaemon.Toml
