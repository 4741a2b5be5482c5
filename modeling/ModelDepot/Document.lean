import ModelDepot.Text.Cut
import ModelDepot.Json.Shape

/-!
Process documents and what is asked of them before they are stored or published.
-/
namespace ModelDepot

structure Document where
  id : String := ""
  name : String := ""
  owner : String := ""
  bpmnXml : String := ""
  svgXml : String := ""
  publish : Bool := false
  publishDate : String := ""
  description : String := ""
  lastUpdated : Int64 := 0
  deriving DecidableEq, Repr

inductive ValidationError where
  | emptyId
  | missingName
  deriving DecidableEq, Repr

def ValidationError.message : ValidationError → String
  | .emptyId => "missing id"
  | .missingName => "missing name"

namespace Document

/-- A document needs an id. -/
def validate (doc : Document) : Except ValidationError Unit :=
  if Text.allBlank doc.id then .error .emptyId else .ok ()

/-- A document that is published needs an id and a name. -/
def validateForPublish (doc : Document) : Except ValidationError Unit := do
  doc.validate
  if Text.allBlank doc.name then throw .missingName

/-- The time of the last update is known. -/
def isStamped (doc : Document) : Bool := doc.lastUpdated ≠ 0

/-- The document with the time of its last update, which is now when it was unknown. -/
def stampIfUnset (doc : Document) (now : Int64) : Document :=
  if doc.isStamped then doc else { doc with lastUpdated := now }

def shape : Json.Shape Document where
  title := "ProcessDocument"
  blank := {}
  members := [
    .text "id" (·.id) fun s d => { d with id := s },
    .text "name" (·.name) fun s d => { d with name := s },
    .text "owner" (·.owner) fun s d => { d with owner := s },
    .text "bpmn_xml" (·.bpmnXml) fun s d => { d with bpmnXml := s },
    .text "svg_xml" (·.svgXml) fun s d => { d with svgXml := s },
    .flag "publish" (·.publish) fun b d => { d with publish := b },
    .text "publish_date" (·.publishDate) fun s d => { d with publishDate := s },
    .text "description" (·.description) fun s d => { d with description := s },
    .stamp "last_updated_unix" (·.lastUpdated) fun n d => { d with lastUpdated := n }]

end Document
end ModelDepot
