import TestDaemon.Binary64.Shortest

/-! # TOML documents

The values of a document, each with the stretch of text that it was read from. A table knows how it
came about, for that decides how it may be extended: by a header of its own, only as the parent of
one, by a dotted key, or between braces. Tables without a header of their own have no stretch.
-/

namespace TestDaemon.Toml

/-- A stretch of text, in octets. -/
structure Span where
  start : Nat
  stop : Nat
  deriving DecidableEq, Repr

structure Key where
  name : String
  span : Span
  deriving DecidableEq, Repr

/-- A float of a document, in which infinities and NaN may be written. -/
inductive FloatValue where
  | finite (negative : Bool) (magnitude : Binary64)
  | infinite (negative : Bool)
  | nan
  deriving DecidableEq, Repr

/-- The written form of a float, always in positional notation. -/
def FloatValue.toString : FloatValue → String
  | finite negative magnitude =>
    (if negative then "-" else "") ++ String.ofList magnitude.toPositional
  | infinite negative => if negative then "-inf" else "inf"
  | nan => "NaN"

inductive TableKind where
  | header
  | parent
  | dotted
  | inline
  deriving DecidableEq, Repr

/-- The flag `listed` tells an array of tables under headers from an array value. -/
inductive Node where
  | string (span : Span) (text : String)
  | integer (span : Span) (value : Int64)
  | float (span : Span) (value : FloatValue)
  | boolean (span : Span) (value : Bool)
  | datetime (span : Span)
  | array (span : Option Span) (listed : Bool) (items : List Node)
  | table (span : Option Span) (kind : TableKind) (entries : List (Key × Node))

namespace Node

def span? : Node → Option Span
  | string span _ => some span
  | integer span _ => some span
  | float span _ => some span
  | boolean span _ => some span
  | datetime span => some span
  | array span .. => span
  | table span .. => span

/-- The entry under a name. -/
def find? (name : String) (entries : List (Key × Node)) : Option Node :=
  (entries.find? (·.1.name = name)).map (·.2)

/-- The entries with another node under a name. -/
def replace (name : String) (node : Node) (entries : List (Key × Node)) : List (Key × Node) :=
  entries.map fun entry => if entry.1.name = name then (entry.1, node) else entry

/-- The entries without a name. -/
def remove (name : String) (entries : List (Key × Node)) : List (Key × Node) :=
  entries.filter (·.1.name ≠ name)

/-- Change the table at the end of a path, where missing tables on the way are made. The last table of
an array of tables stands for the array. A dotted path may not enter a table with a header. -/
def update (dotted : Bool) (change : Node → Option Node) : List Key → Node → Option Node
  | [], node => change node
  | key :: path, .table span kind entries =>
    match find? key.name entries with
    | none => do
      let child ← update dotted change path (.table none (if dotted then .dotted else .parent) [])
      return .table span kind (entries ++ [(key, child)])
    | some (.array arraySpan true items) =>
      match items.getLast? with
      | none => none
      | some last => do
        let child ← update dotted change path last
        return .table span kind (replace key.name (.array arraySpan true (items.dropLast ++ [child])) entries)
    | some (.table childSpan childKind children) =>
      if childKind = .inline ∨ (dotted ∧ childKind = .header) then none
      else do
        let child ← update dotted change path (.table childSpan childKind children)
        return .table span kind (replace key.name child entries)
    | some _ => none
  | _ :: _, _ => none

/-- Add an entry to a table that is reached by a dotted path or by none. -/
def insertNew (dotted : Bool) (key : Key) (value : Node) : Node → Option Node
  | .table span kind entries =>
    if (kind = .dotted) = dotted ∧ (find? key.name entries).isNone then
      some (.table span kind (entries ++ [(key, value)]))
    else none
  | _ => none

/-- Add a value under a dotted key. -/
def define (table : Node) (path : List Key) (key : Key) (value : Node) : Option Node :=
  table.update true (insertNew (!path.isEmpty) key value) path

end Node

end TestDaemon.Toml
