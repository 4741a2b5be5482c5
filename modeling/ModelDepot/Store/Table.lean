import ModelDepot.Store.Error

/-!
The table of process documents. A table that was made here has the id as its key, and takes every
row. One that was found may have fewer columns and no key, and then nothing can be put under an id.
What else tables may ask of their rows, with a key or without, is not told.
-/
namespace ModelDepot

/-- A row, whose mark of publication may be any number. -/
structure Row where
  id : String
  name : String := ""
  owner : String := ""
  bpmnXml : String := ""
  svgXml : String := ""
  publish : Int := 0
  publishDate : String := ""
  description : String := ""
  lastUpdated : Int64 := 0
  deriving DecidableEq, Repr

namespace Row

def ofDocument (doc : Document) : Row :=
  ⟨doc.id, doc.name, doc.owner, doc.bpmnXml, doc.svgXml, if doc.publish then 1 else 0,
    doc.publishDate, doc.description, doc.lastUpdated⟩

/-- The document of a row with a sound mark of publication and an id. -/
def toDocument (row : Row) : Except StoreError Document := do
  let publish ← match row.publish with
    | 0 => pure false
    | 1 => pure true
    | other =>
      throw (.invalidData ("invalid publish value " ++ Json.marked (toString other) ++
        " in processes.publish"))
  let doc : Document := ⟨row.id, row.name, row.owner, row.bpmnXml, row.svgXml, publish,
    row.publishDate, row.description, row.lastUpdated⟩
  match doc.validate with
  | .ok () => return doc
  | .error problem => throw (.validation problem)

end Row

/-- The columns of a document. -/
inductive Column where
  | id
  | name
  | owner
  | bpmnXml
  | svgXml
  | publish
  | publishDate
  | description
  | lastUpdated
  deriving DecidableEq, Repr

namespace Column

def all : List Column :=
  [id, name, owner, bpmnXml, svgXml, publish, publishDate, description, lastUpdated]

/-- What the database calls the column. -/
def label : Column → String
  | id => "id"
  | name => "name"
  | owner => "owner"
  | bpmnXml => "bpmn_xml"
  | svgXml => "svg_xml"
  | publish => "publish"
  | publishDate => "publish_date"
  | description => "description"
  | lastUpdated => "last_updated_unix"

def ofLabel? (label : String) : Option Column := all.find? (·.label == label)

end Column

/-- The value of a row in a column. -/
inductive ColumnValue where
  | text (value : String)
  | number (value : Int)
  deriving DecidableEq, Repr

/-- Texts are in code point order, numbers in their own, and numbers come before texts. -/
def ColumnValue.compare : ColumnValue → ColumnValue → Ordering
  | .text a, .text b => Ord.compare a b
  | .number a, .number b => Ord.compare a b
  | .number _, .text _ => .lt
  | .text _, .number _ => .gt

def Row.value (row : Row) : Column → ColumnValue
  | .id => .text row.id
  | .name => .text row.name
  | .owner => .text row.owner
  | .bpmnXml => .text row.bpmnXml
  | .svgXml => .text row.svgXml
  | .publish => .number row.publish
  | .publishDate => .text row.publishDate
  | .description => .text row.description
  | .lastUpdated => .number row.lastUpdated.toInt

/-- Rows under their ids, in a table as it is made here, or those of a table that was found without
    a key. -/
inductive Rows where
  | keyed (rows : Dict Row)
  | loose (rows : List Row)

def Rows.toList : Rows → List Row
  | .keyed rows => rows.toList.map (·.2)
  | .loose rows => rows

/-- The indexes that a table may have. -/
structure Indexes where
  publish : Bool := false
  lastUpdated : Bool := false
  name : Bool := false
  deriving DecidableEq, Repr

/-- A table as it is made here, or as it was found without a key, with the names of its columns. -/
structure Table where
  columns : List String
  rows : Rows
  indexes : Indexes := {}

namespace Table

def name : String := "processes"

/-- A new table. -/
def empty : Table := { columns := Column.all.map Column.label, rows := .keyed ∅ }

def toList (table : Table) : List Row := table.rows.toList

/-- The row under an id. -/
def find? (table : Table) (id : String) : Option Row :=
  match table.rows with
  | .keyed rows => rows[id]?
  | .loose rows => rows.find? (·.id == id)

/-- The table with a row under its id, in the place of any other; without a key nothing says which
    row that is. -/
def put (table : Table) (row : Row) : Except DatabaseError Table :=
  match table.rows with
  | .keyed rows => .ok { table with rows := .keyed (rows.insert row.id row) }
  | .loose _ => .error .sqlite

/-- The table without the rows of an id. -/
def erase (table : Table) (id : String) : Table :=
  match table.rows with
  | .keyed rows => { table with rows := .keyed (rows.erase id) }
  | .loose rows => { table with rows := .loose (rows.filter (·.id != id)) }

end Table
end ModelDepot
