import Cadastre.Decode.JsonSource
import Cadastre.Decode.YamlSource
import Cadastre.Json.Writer
import Cadastre.Snapshot.Basic
import Cadastre.Time.Writer
import Cadastre.Yaml.Writer

/-!
# Saved snapshots

A snapshot is saved as a record of its time and its four lists, in JSON or in YAML, and read from
either. A warning without detail is saved without that field.
-/

namespace Cadastre

/-- The formats a snapshot is saved in. -/
inductive Format where
  | json
  | yaml
deriving DecidableEq, Repr

/-! ## Saving -/

/-- A route as a saved value. -/
def Route.toJson (r : Route) : Json :=
  .object
    [ ("method", .text r.method.name),
      ("path", .text r.path),
      ("statusCode", .number (.whole r.status.toNat)),
      ("authHint", .text r.auth.name),
      ("sourceFile", .text r.sourceFile),
      ("handler", .text r.handler) ]

/-- A column as a saved value. -/
def Column.toJson (c : Column) : Json :=
  .object [("name", .text c.name), ("type", .text c.type), ("nullable", .bool c.nullable)]

/-- A table as a saved value. -/
def Table.toJson (t : Table) : Json :=
  .object [("name", .text t.name), ("columns", .array (t.columns.map Column.toJson))]

/-- A module as a saved value. -/
def AdminModule.toJson (m : AdminModule) : Json :=
  .object
    [ ("slug", .text m.slug),
      ("label", .text m.label),
      ("labelEn", .text m.labelEn),
      ("endpoint", .text m.endpoint),
      ("description", .text m.description),
      ("descriptionEn", .text m.descriptionEn) ]

/-- A warning as a saved value. -/
def Warning.toJson (w : Warning) : Json :=
  .object <|
    [("source", .text w.source.name), ("message", .text w.message)] ++
      w.detail.toList.map fun d => ("detail", .text d)

/-- A snapshot as a saved value. -/
def Snapshot.toJson (s : Snapshot) : Json :=
  .object
    [ ("generatedAt", .text s.generatedAt.text),
      ("routes", .array (s.routes.map Route.toJson)),
      ("tables", .array (s.tables.map Table.toJson)),
      ("modules", .array (s.modules.map AdminModule.toJson)),
      ("warnings", .array (s.warnings.map Warning.toJson)) ]

/-- The text of a saved snapshot; it ends with a newline. -/
def Snapshot.render (s : Snapshot) : Format → String
  | .json => s.toJson.pretty ++ "\n"
  | .yaml => Yaml.write s.toJson

/-! ## Reading -/

section

open Decode

variable {σ : Type} [Source σ]

/-- How a route is read. -/
def Route.shape : Shape σ Route where
  name := "RouteDocItem"
  fields :=
    [ field "method" (oneOf Method.name Method.all) fun v r => { r with method := v },
      field "path" string fun v r => { r with path := v },
      field "statusCode" Decode.status fun v r => { r with status := v },
      field "authHint" (oneOf Auth.name Auth.all) fun v r => { r with auth := v },
      field "sourceFile" string fun v r => { r with sourceFile := v },
      field "handler" string fun v r => { r with handler := v } ]
  blank := ⟨.get, "", 0, .anyone, "", ""⟩

/-- How a column is read. -/
def Column.shape : Shape σ Column where
  name := "TableColumnDocItem"
  fields :=
    [ field "name" string fun v c => { c with name := v },
      field "type" string fun v c => { c with type := v },
      field "nullable" Source.bool fun v c => { c with nullable := v } ]
  blank := ⟨"", "", false⟩

/-- How a table is read. -/
def Table.shape : Shape σ Table where
  name := "TableDocItem"
  fields :=
    [ field "name" string fun v t => { t with name := v },
      field "columns" (list (record Column.shape)) fun v t => { t with columns := v } ]
  blank := ⟨"", []⟩

/-- How a module is read. -/
def AdminModule.shape : Shape σ AdminModule where
  name := "ModuleDocItem"
  fields :=
    [ field "slug" string fun v m => { m with slug := v },
      field "label" string fun v m => { m with label := v },
      field "labelEn" string fun v m => { m with labelEn := v },
      field "endpoint" string fun v m => { m with endpoint := v },
      field "description" string fun v m => { m with description := v },
      field "descriptionEn" string fun v m => { m with descriptionEn := v } ]
  blank := ⟨"", "", "", "", "", ""⟩

/-- How a warning is read. -/
def Warning.shape : Shape σ Warning where
  name := "ScanWarning"
  fields :=
    [ field "source" (oneOf Stage.name Stage.all) fun v w => { w with source := v },
      field "message" string fun v w => { w with message := v },
      optionalField "detail" (Decode.optional string) fun v w => { w with detail := v } ]
  blank := ⟨.api, "", none⟩

/-- How a snapshot is read. -/
def Snapshot.shape : Shape σ Snapshot where
  name := "DocumentationSnapshot"
  fields :=
    [ field "generatedAt" instant fun v s => { s with generatedAt := v },
      field "routes" (list (record Route.shape)) fun v s => { s with routes := v },
      field "tables" (list (record Table.shape)) fun v s => { s with tables := v },
      field "modules" (list (record AdminModule.shape)) fun v s => { s with modules := v },
      field "warnings" (list (record Warning.shape)) fun v s => { s with warnings := v } ]
  blank := ⟨Instant.epoch, [], [], [], []⟩

/-- A snapshot read from a saved value. -/
def Snapshot.decode (s : σ) : Decoding Snapshot := record Snapshot.shape s

end

/-- A snapshot read from a saved text. -/
def Snapshot.decodeText (format : Format) (text : String) : Decoded Snapshot :=
  match format with
  | .json => Json.decodeString Snapshot.decode text
  | .yaml => Yaml.decodeString Snapshot.decode text

end Cadastre
