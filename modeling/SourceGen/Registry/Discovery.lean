import SourceGen.Registry.Basic

/-!
# Discovery

Discovery takes the declarations one by one and registers those that can be: the identity is new,
the generator is in the catalog, it tells a name for its files, and that name is not blank. A
declaration that fails one of these is rejected for the first that it fails, and the others go on as
if it were not there.
-/

namespace SourceGen

/-- Why a declaration was not registered: the same identity was registered before, the catalog has
no such generator, asking the generator for a name panicked, or the name is blank. -/
inductive RejectReason where
  | duplicate
  | missingGenerator
  | outputNameFailed (panic : Panic)
  | blankOutputName
deriving DecidableEq

/-- The reason as it is shown to the user. -/
def RejectReason.message : RejectReason → String
  | duplicate => "declared more than once"
  | missingGenerator => "no generator implementation registered"
  | outputNameFailed panic => "output file name failed: " ++ panic.message
  | blankOutputName => "output file name is blank"

/-- A declaration that was not registered, and why. -/
structure Rejection where
  id : DeclarationId
  reason : RejectReason
deriving DecidableEq

/-- How a rejection is told in one line. -/
def Rejection.text (rejection : Rejection) : String :=
  rejection.id.text ++ ": " ++ rejection.reason.message

/-- The outcome of a discovery: what was registered, the identities accepted and the declarations
rejected, both in order, and how many generators were asked for a name. -/
structure Discovery where
  registry : Registry := {}
  accepted : List DeclarationId := []
  rejected : List Rejection := []
  asked : Nat := 0
deriving Inhabited

namespace Discovery

/-- Settles one declaration against what is registered so far. -/
def settle (catalog : Catalog) (registry : Registry) (asked : Nat) (declaration : Declaration) :
    Except RejectReason Registration :=
  if registry.registrations.contains declaration.id then .error .duplicate
  else
    match catalog.get? declaration.generatorType with
    | none => .error .missingGenerator
    | some generator =>
      match generator.fileName asked with
      | .error panic => .error (.outputNameFailed panic)
      | .ok requested =>
        match OutputName.resolve? requested declaration.target declaration.generatorType with
        | none => .error .blankOutputName
        | some outputName =>
          .ok
            { id := declaration.id
              overwrite := declaration.overwrite
              encoding := declaration.encoding
              outputName
              generator }

/-- Whether settling a declaration asks its generator for a name. -/
def asks (catalog : Catalog) (registry : Registry) (declaration : Declaration) : Bool :=
  !registry.registrations.contains declaration.id && catalog.contains declaration.generatorType

/-- Takes one more declaration. -/
def add (catalog : Catalog) (discovery : Discovery) (declaration : Declaration) : Discovery :=
  let asked := discovery.asked + if asks catalog discovery.registry declaration then 1 else 0
  match settle catalog discovery.registry discovery.asked declaration with
  | .ok registration =>
    { discovery with
      registry := discovery.registry.insert registration
      accepted := discovery.accepted ++ [declaration.id]
      asked }
  | .error reason =>
    { discovery with rejected := discovery.rejected ++ [⟨declaration.id, reason⟩], asked }

/-- Discovers a list of declarations. -/
def ofDeclarations (catalog : Catalog) (declarations : List Declaration) : Discovery :=
  declarations.foldl (add catalog) {}

end Discovery

end SourceGen
