import SourceGen.Data.Shape
import SourceGen.Encoding
import SourceGen.TypeName

/-!
# Declarations

A declaration binds a target type to the type that generates for it, which is the target itself
unless another one is named. The pair of the two is its identity.
-/

namespace SourceGen

/-- The identity of a declaration: the type whose source triggers generation, and the type that
generates. -/
structure DeclarationId where
  target : TypeName
  generator : TypeName
deriving DecidableEq, Inhabited

namespace DeclarationId

/-- Whether the target generates for itself. -/
def isSelfEmitting (id : DeclarationId) : Bool :=
  id.target = id.generator

/-- How a declaration is named in messages. -/
def text (id : DeclarationId) : String :=
  if id.isSelfEmitting then id.target.text else id.target.text ++ " -> " ++ id.generator.text

end DeclarationId

/-- A declaration as its author wrote it. The generator need not be named, and `overwrite` tells
whether an existing output may be replaced. -/
structure Declaration where
  target : TypeName
  generator : Option TypeName := none
  overwrite : Bool := true
  encoding : Encoding := .utf8
deriving DecidableEq, Inhabited

namespace Declaration

/-- The type that generates: the one named, else the target. -/
def generatorType (declaration : Declaration) : TypeName :=
  declaration.generator.getD declaration.target

/-- The identity of the declaration. -/
def id (declaration : Declaration) : DeclarationId :=
  ⟨declaration.target, declaration.generatorType⟩

/-- Whether the target generates for itself. -/
def isSelfEmitting (declaration : Declaration) : Bool :=
  declaration.id.isSelfEmitting

/-! ## Reading -/

/-- The names of the fields, in the order in which a sequence lists them. -/
def fields : List String :=
  ["target", "generator", "overwrite_if_exists", "encoding"]

/-- A declaration of which only some fields have been read. -/
structure Draft where
  target : Option TypeName := none
  generator : Option TypeName := none
  overwrite : Bool := true
  encoding : Encoding := .utf8

/-- The encoding of exactly this name. -/
def encodingOfName (name : String) : Except ShapeError Encoding :=
  match Encoding.ofName? name with
  | some encoding => .ok encoding
  | none => .error (.unknownVariant name (Encoding.all.map Encoding.name))

/-- Reads an encoding: its name, or a table whose one entry has that name and holds nothing. -/
def encodingOfValue : Value → Except ShapeError Encoding
  | .text name => encodingOfName name
  | .table [(name, content)] => do
    let encoding ← encodingOfName name
    match content with
    | .table [] | .sequence [] => .ok encoding
    | _ => .error .notAName
  | _ => .error .notAName

/-- Sets one field of a draft. -/
def Draft.set (draft : Draft) (field : String) (value : Value) : Except ShapeError Draft :=
  match field with
  | "target" => return { draft with target := some ⟨← value.asText⟩ }
  | "generator" => return { draft with generator := (← value.asText?).map TypeName.mk }
  | "overwrite_if_exists" => return { draft with overwrite := ← value.asBoolean }
  | "encoding" => return { draft with encoding := ← encodingOfValue value }
  | other => .error (.unknownField other fields)

/-- Reads a declaration. The target must be there; the check for it comes after all other fields. -/
def ofValue (value : Value) : Except ShapeError Declaration := do
  let draft ← value.asRecord "struct Declaration" fields ({} : Draft) Draft.set
  match draft.target with
  | some target =>
    .ok
      { target
        generator := draft.generator
        overwrite := draft.overwrite
        encoding := draft.encoding }
  | none =>
    match value with
    | .sequence items => .error (.tooShort items.length "struct Declaration with 4 elements")
    | _ => .error (.missingField "target")

end Declaration

end SourceGen
