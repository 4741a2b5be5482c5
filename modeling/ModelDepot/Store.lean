import ModelDepot.Store.Schema
import ModelDepot.Store.Pattern
import Std.Data.ExtTreeSet

/-!
The document store: a table that has all columns in a database of the latest version. It holds
at most one document under an id, and lists them filtered, sorted and cut.
-/
namespace ModelDepot

/-- A set of ids in code point order. -/
abbrev IdSet := Std.ExtTreeSet String

structure Store where
  table : Table

/-- What a listing shall hold: at most `limit` documents after the first `offset`, in the order
    `sortBy`, whose name or description contains `search`, and whose id is among `ids`. -/
structure ListOptions where
  limit : Option Nat := none
  offset : Nat := 0
  sortBy : Option String := none
  search : Option String := none
  ids : Option (List String) := none
  deriving DecidableEq, Repr

/-- Some documents, and how many there are before the cut. -/
structure DocumentPage where
  items : List Document
  total : Nat
  deriving DecidableEq, Repr

/-- A column and the direction in which rows are put in its order. -/
structure SortKey where
  column : Column
  descending : Bool
  deriving DecidableEq, Repr

namespace SortKey

/-- The text before a given ending. -/
def before? (ending text : List Char) : Option (List Char) :=
  if ending.isSuffixOf text then some (text.take (text.length - ending.length)) else none

/-- A column with its direction behind a point; without one it is ascending. -/
def parse (text : String) : Except StoreError SortKey :=
  let text := Text.trimChars text.toList
  let (field, descending) :=
    match before? ".desc".toList text with
    | some field => (field, true)
    | none => ((before? ".asc".toList text).getD text, false)
  let field := String.ofList field
  match Column.ofLabel? field with
  | some column => .ok ⟨column, descending⟩
  | none => .error (.invalidQuery ("unsupported sort field " ++ Json.marked field))

/-- Rows with equal values are in the order of their ids, whatever the direction. -/
def compareRows (key : SortKey) (a b : Row) : Ordering :=
  let order := (a.value key.column).compare (b.value key.column)
  (if key.descending then order.swap else order).then (compare a.id b.id)

def sort (key : SortKey) (rows : List Row) : List Row :=
  rows.mergeSort fun a b => (key.compareRows a b).isLE

/-- The order of a listing that asks for none. -/
def byName : SortKey := ⟨.name, false⟩

end SortKey

namespace ListOptions

/-- The pattern of the search, if it asks for anything. -/
def pattern? (options : ListOptions) : Option String :=
  match options.search.map Text.trim with
  | none => none
  | some search => if search = "" then none else some (Pattern.containing search)

/-- The number of values that are bound in the listing. -/
def boundValues (options : ListOptions) : Nat :=
  (options.ids.map List.length).getD 0 + (if options.pattern?.isSome then 2 else 0) +
    (if options.limit.isSome then 1 else 0) + (if 0 < options.offset then 1 else 0)

/-- The part of the sorted rows that is asked for. -/
def cut {α : Type} (options : ListOptions) (rows : List α) : List α :=
  let rest := rows.drop options.offset
  match options.limit with
  | some limit => rest.take limit
  | none => rest

end ListOptions

/-- The largest number of bound values. -/
def maxBoundValues : Nat := 32766

namespace Store

/-- The store in a database that has all that it needs. -/
def ofDatabase (db : Database) : Except StoreError Store := do
  let version ← match db.readVersion with
    | .ok version => pure version
    | .error problem => throw (.database problem)
  if version ≠ Database.latestVersion then
    throw (.wrongVersion Database.latestVersion version)
  match db.table with
  | none => throw (.missingTable Table.name)
  | some table =>
    match Column.all.find? (!table.columns.contains ·.label) with
    | some column => throw (.missingColumn Table.name column.label)
    | none => return ⟨table⟩

/-- A store without documents. -/
def empty : Store := ⟨Table.empty⟩

/-- The store with a document under its id, in the place of any other. -/
def upsert (store : Store) (doc : Document) : Except StoreError Store :=
  match doc.validate with
  | .error problem => .error (.validation problem)
  | .ok () =>
    match store.table.put (.ofDocument doc) with
    | .ok table => .ok ⟨table⟩
    | .error problem => .error (.database problem)

/-- The store without a document, and whether it held one. -/
def delete (store : Store) (id : String) : Bool × Store :=
  ((store.table.find? id).isSome, ⟨store.table.erase id⟩)

def get (store : Store) (id : String) : Except StoreError (Option Document) :=
  match store.table.find? id with
  | none => .ok none
  | some row => some <$> row.toDocument

/-- The row's id is asked for. -/
def asksForId (options : ListOptions) (rows : List Row) : List Row :=
  match options.ids with
  | none => rows
  | some ids =>
    let wanted := Std.ExtTreeSet.ofList ids
    rows.filter fun row => wanted.contains row.id

/-- The row's name or description matches the search. -/
def matchesSearch (pattern : Option String) (row : Row) : Bool :=
  match pattern with
  | none => true
  | some pattern => Pattern.matchText pattern row.name || Pattern.matchText pattern row.description

def list (store : Store) (options : ListOptions) : Except StoreError DocumentPage := do
  let key ← match options.sortBy with
    | some text => SortKey.parse text
    | none => pure SortKey.byName
  if options.ids = some [] then return ⟨[], 0⟩
  if maxBoundValues < options.boundValues then throw (.database .sqlite)
  let candidates := asksForId options store.table.toList
  let pattern := options.pattern?
  if !candidates.isEmpty && pattern.any (fun p => Pattern.maxBytes < p.utf8ByteSize) then
    throw (.database .sqlite)
  let found := candidates.filter (matchesSearch pattern)
  let items ← (options.cut (key.sort found)).mapM Row.toDocument
  return ⟨items, found.length⟩

/-- The published documents by name. -/
def listPublished (store : Store) : Except StoreError (List Document) :=
  (SortKey.byName.sort (store.table.toList.filter (·.publish = 1))).mapM Row.toDocument

def allIds (store : Store) : IdSet := Std.ExtTreeSet.ofList (store.table.toList.map (·.id))

/-- The row was updated before the given time, or at an unknown one. -/
def isStale (cutoff : Int64) (row : Row) : Bool := row.lastUpdated = 0 || row.lastUpdated < cutoff

def staleIds (store : Store) (cutoff : Int64) : IdSet :=
  Std.ExtTreeSet.ofList ((store.table.toList.filter (isStale cutoff)).map (·.id))

end Store
end ModelDepot
