import SourceGen.Host.Recording
import SourceGen.Project.Basic
import SourceGen.Proofs.Manifest.Checking
import SourceGen.Proofs.Registry.Indexes
import SourceGen.Proofs.TypeName.Scopes

/-!
# Names in a manifest

Reading a manifest checks every type name in it, and the linked generators have valid names too, so
the types of a loaded project are valid (`Project.valid_of_registered`).

The project `TwoTargets.project` is the smallest in which one change concerns a declaration it does
not name: `Player.cs` and `Enemy.cs` declare the targets `App.Player` and `App.Enemy`, and both use
the generator `Gen.Note`, which writes a note for every source. A change of one source runs its
target and fans out to the other.
-/

namespace SourceGen

/-- Both names of a declaration are valid. -/
def Declaration.Valid (declaration : Declaration) : Prop :=
  declaration.id.target.Valid ∧ declaration.id.generator.Valid

instance (declaration : Declaration) : Decidable declaration.Valid :=
  inferInstanceAs (Decidable (_ ∧ _))

/-- A declaration that names no generator has its target for one. -/
lemma Manifest.WellWritten.valid {manifest : Manifest} (written : manifest.WellWritten) :
    ∀ declaration ∈ manifest.declarations, declaration.Valid := by
  intro declaration listed
  have validTarget := written.targets declaration listed
  refine ⟨validTarget, ?_⟩
  cases named : declaration.generator with
  | none => simpa [Declaration.id, Declaration.generatorType, named] using validTarget
  | some name =>
    simpa [Declaration.id, Declaration.generatorType, named] using written.generators
      declaration listed name named

lemma ManifestFile.valid_of_openAt {files : FileSystem} {path : String} {file : ManifestFile}
    (opened : openAt files path = .ok file) :
    ∀ declaration ∈ file.manifest.declarations, declaration.Valid := by
  obtain ⟨_, _, read⟩ := openAt_eq_ok_iff.mp opened
  exact (Manifest.ofSource_eq_ok_iff.mp read).2.valid

lemma Samples.valid_declarations : ∀ declaration ∈ declarations, declaration.Valid := by
  decide

/-- The types of a project that is loaded from a manifest file have valid names. -/
theorem Project.valid_of_registered {files : FileSystem} {path : String} {file : ManifestFile}
    (opened : ManifestFile.openAt files path = .ok file) (catalog : Catalog) (site : Site)
    {id : DeclarationId}
    (registered : id ∈ (load file catalog site).registry.registrations.keys) :
    id.target.Valid ∧ id.generator.Valid := by
  obtain ⟨declaration, declared, rfl⟩ := Registry.exists_declaration_of_mem_keys registered
  rcases List.mem_append.mp declared with own | sample
  · exact ManifestFile.valid_of_openAt opened declaration own
  · exact Samples.valid_declarations declaration sample

/-! ## Two targets of one generator -/

namespace TwoTargets

/-- The manifest as a text. -/
def text : String :=
  "[settings]\nsource_extensions = ['cs']\n"
    ++ "[[declarations]]\ntarget = 'App.Player'\ngenerator = 'Gen.Note'\n"
    ++ "[[declarations]]\ntarget = 'App.Enemy'\ngenerator = 'Gen.Note'\n"

/-- The name of the generator. -/
def noteName : TypeName := ⟨"Gen.Note"⟩

/-- Writes a note for every source. -/
def note : Generator where
  fileName _ := .ok "Note.txt"
  emit _ request := .finished true request.context (request.buffer ++ "seen\n")

/-- The declaration of the player. -/
def player : DeclarationId := ⟨⟨"App.Player"⟩, noteName⟩

/-- The declaration of the enemy. -/
def enemy : DeclarationId := ⟨⟨"App.Enemy"⟩, noteName⟩

/-- The manifest. -/
def manifest : Manifest where
  settings := { sourceExtensions := ["cs"] }
  declarations :=
    [{ target := player.target, generator := some noteName },
      { target := enemy.target, generator := some noteName }]

/-- The manifest with its file. -/
def file : ManifestFile where
  path := "p/altgen.toml"
  content := text
  manifest := manifest

/-- The generator at hand. -/
def catalog : Catalog :=
  .ofList [(noteName, note)]

/-- The directory of the project with the two sources and the manifest. -/
def site : Site where
  files.top := .directory [("p", .directory
    [("Enemy.cs", .file []), ("Player.cs", .file []),
      ("altgen.toml", .file text.toUTF8.data.toList)])]

/-- A world in which a recording host knows the sources of the two targets, with some files
there. -/
def recordingWorld (playerPath enemyPath : String) (files : List String) : World RecordingHost where
  host := (({} : RecordingHost).declare playerPath player.target).declare enemyPath enemy.target
  site.files.top := .directory [("p", .directory (files.map fun name => (name, .file [])))]

/-- The loaded project. -/
def project : Project :=
  .load file catalog site

lemma opened : ManifestFile.openAt site.files "p/altgen.toml" = .ok file :=
  ManifestFile.openAt_eq_ok (by decide +kernel) (by decide +kernel)

end TwoTargets

end SourceGen
