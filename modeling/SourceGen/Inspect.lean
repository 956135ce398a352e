import SourceGen.Engine.Basic
import SourceGen.Text.Quoted

/-!
# Inspecting an engine

The state of an engine, of a registration and of a catalog in one line each, for logs: records with
their fields, lists in brackets, sets and maps in braces.
-/

namespace SourceGen

namespace Inspect

/-- A record. -/
def record (name : String) (fields : List (String × String)) : String :=
  name ++ " \x7b " ++ String.intercalate ", "
    (fields.map fun (field, text) => field ++ ": " ++ text)
    ++ " \x7d"

/-- A list. -/
def list (items : List String) : String :=
  "[" ++ String.intercalate ", " items ++ "]"

/-- A set, or a map whose entries are written out. -/
def braced (items : List String) : String :=
  "\x7b" ++ String.intercalate ", " items ++ "\x7d"

/-- A map. -/
def map (entries : List (String × String)) : String :=
  braced (entries.map fun (key, value) => key ++ ": " ++ value)

end Inspect

/-- A type name. -/
def TypeName.inspect (name : TypeName) : String :=
  "TypeName(" ++ Text.quoted name.text ++ ")"

/-- An identity. -/
def DeclarationId.inspect (id : DeclarationId) : String :=
  Inspect.record "DeclarationId"
    [("target", id.target.inspect), ("generator", id.generator.inspect)]

/-- An encoding. -/
def Encoding.inspect : Encoding → String
  | utf8 => "Utf8"
  | utf8Marked => "Utf8Bom"
  | utf16Little => "Utf16Le"
  | utf16Big => "Utf16Be"

/-- A registration, whose generator is not shown. -/
def Registration.inspect (registration : Registration) : String :=
  "GeneratorDeclaration \x7b id: " ++ registration.id.inspect
    ++ ", overwrite_if_exists: " ++ (if registration.overwrite then "true" else "false")
    ++ ", encoding: " ++ registration.encoding.inspect
    ++ ", output_name: " ++ Text.quoted registration.outputName.fileName
    ++ ", .. \x7d"

/-- The names of a catalog. -/
def Catalog.inspect (catalog : Catalog) : String :=
  Inspect.list (catalog.keys.map TypeName.inspect)

namespace Registry

/-- An index. -/
def inspectIndex (index : OrderedMap TypeName (List DeclarationId)) : String :=
  Inspect.map (index.entries.map fun (type, ids) =>
    (type.inspect, Inspect.list (ids.map DeclarationId.inspect)))

/-- A registry with its indexes. -/
def inspect (registry : Registry) : String :=
  Inspect.record "Registry"
    [ ("declarations",
        Inspect.map (registry.registrations.entries.map fun (id, registration) =>
          (id.inspect, registration.inspect))),
      ("by_target", inspectIndex registry.byTarget),
      ("by_generator", inspectIndex registry.byGenerator) ]

end Registry

/-- An engine with its registry, its two sets and the number of its plugins. -/
def Engine.inspect (engine : Engine) : String :=
  Inspect.record "Engine"
    [ ("root", Text.quoted engine.root),
      ("registry", engine.registry.inspect),
      ("suppressed", Inspect.braced (engine.suppressed.toList.map Text.quoted)),
      ("deferred", Inspect.braced (engine.deferred.toList.map Text.quoted)),
      ("plugins", toString engine.plugins.length) ]

end SourceGen
