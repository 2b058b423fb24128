import FieldSurvey.Document.Basic
import FieldSurvey.Document.Yaml.Node
import FieldSurvey.Document.Yaml.Tokens

/-!
# Reading YAML texts

A YAML text is read into the tree of its parts, and from there into a document.
The kind of its plain scalars is left to whoever reads the document.
-/

namespace FieldSurvey.Yaml

/-- The only document of a text, if it has one. -/
def node? (edition : Edition) (text : List Char) : Option (Option Node) := do
  let tokens ← tokens? edition (← edition.readable? text)
  Node.ofTokens? edition tokens

mutual

/-- The document of a node.  A record with a key that is no scalar is something that
nobody reads. -/
def Node.toDocument : Node → Document
  | .scalar true text => .plain text
  | .scalar false text => .text text
  | .list items => .list (itemsToDocuments items)
  | .record fields => ((fieldsToDocuments? fields).map Document.record).getD .null

/-- The documents of items. -/
def itemsToDocuments : List Node → List Document
  | [] => []
  | first :: rest => first.toDocument :: itemsToDocuments rest

/-- The names and documents of fields. -/
def fieldsToDocuments? : List (Node × Node) → Option (List (String × Document))
  | [] => some []
  | (.scalar _ name, first) :: rest => do
    let fields ← fieldsToDocuments? rest
    return (name, first.toDocument) :: fields
  | _ :: _ => none

end

/-- The document of a text.  A text without tokens is an empty scalar. -/
def document? (text : String) : Option Document := do
  let node ← node? .older text.toList
  return (node.getD .empty).toDocument

end FieldSurvey.Yaml
