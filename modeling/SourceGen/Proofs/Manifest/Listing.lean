import SourceGen.Proofs.Manifest.Checking
import SourceGen.Proofs.Manifest.Places
import SourceGen.Proofs.OutputNames
import SourceGen.Proofs.Toml.Lines

/-!
# Listings of declarations

A listing is a manifest in its plainest form: one block after the other, each with a header, a
target and perhaps a generator, and every name in double quotes. It reads as the declarations that
it lists (`Listing.deserializes`), and the places of a name in it are told by its lines
(`Listing.ofValue_text`): the name stands in quotes where a line gives it to a target or a
generator, and nowhere else.
-/

namespace SourceGen

/-! ## The characters of valid names -/

namespace TypeName

/-- A character of a table is no smaller than the table's first one. -/
lemma le_of_inRanges {ranges : List (Nat × Nat)} {least : Nat}
    (above : (ranges.all fun range => least ≤ range.1) = true) {c : Char}
    (inside : Text.inRanges ranges c = true) :
    least ≤ c.toNat := by
  obtain ⟨range, listed, within⟩ := List.any_eq_true.mp inside
  have lower : least ≤ range.1 := of_decide_eq_true (List.all_eq_true.mp above range listed)
  have upper : range.1 ≤ c.toNat := of_decide_eq_true (Bool.and_eq_true_iff.mp within).1
  exact lower.trans upper

/-- No character of an identifier comes before the digits. -/
lemma le_of_isIdentifierRest {c : Char} (identifier : isIdentifierRest c = true) :
    48 ≤ c.toNat := by
  rw [isIdentifierRest, Bool.or_eq_true, Bool.or_eq_true] at identifier
  rcases identifier with (alphabetic | numeric) | underscore
  · exact le_of_inRanges (by decide +kernel) alphabetic
  · exact le_of_inRanges (by decide +kernel) numeric
  · obtain rfl := of_decide_eq_true underscore
    decide

/-- The characters of identifiers stand for themselves between quotes of either kind. -/
lemma isVerbatim_of_isIdentifierRest {c : Char} (identifier : isIdentifierRest c = true) :
    Toml.isVerbatim c = true ∧ c ≠ '\'' := by
  have large := le_of_isIdentifierRest identifier
  have small : ∀ d : Char, d.toNat < 48 → c ≠ d := by
    rintro d below rfl
    exact absurd large (Nat.not_le.mpr below)
  have other : ∀ d : Char, isIdentifierRest d = false → c ≠ d := by
    rintro d no rfl
    exact Bool.false_ne_true (no.symm.trans identifier)
  have space : ' ' ≤ c := by
    rw [Char.le_def, UInt32.le_iff_toNat_le]
    exact Nat.le_trans (by decide) large
  have escape := other '\\' (by decide +kernel)
  have delete := other '\x7f' (by decide +kernel)
  refine ⟨Toml.isVerbatim_iff.mpr ⟨?_, small '"' (by decide), escape⟩, small '\'' (by decide)⟩
  simp [Toml.isPlain, space, delete]

lemma Valid.isVerbatim {name : TypeName} (valid : name.Valid) :
    ∀ c ∈ name.text.toList, Toml.isVerbatim c = true ∧ c ≠ '\'' := by
  intro c listed
  rcases valid.mem_text listed with identifier | rfl | rfl
  · exact isVerbatim_of_isIdentifierRest identifier
  · decide
  · decide

end TypeName

namespace Listing

open Toml (document)

/-! ## Lines and blocks -/

/-- A line of a listing: the header of a declaration, or a name that a field is given. -/
inductive Line where
  | header
  | name (field : NameField) (type : TypeName)

/-- The text of a line. -/
def Line.text : Line → List Char
  | header => '[' :: '[' :: ("declarations".toList ++ [']', ']'])
  | name field type => field.text.toList ++ ' ' :: '=' :: ' ' :: '"' :: (type.text.toList ++ ['"'])

/-- What a line tells. -/
def Line.told : Line → Toml.Statement
  | header => .item ["declarations"]
  | name field type => .assign [field.text] (.text type.text)

/-- The name in the line, if there is one, is valid. -/
def Line.Valid : Line → Prop
  | header => True
  | name _ type => type.Valid

/-- A declaration as it is listed: a target, and a generator when one is named. -/
structure Block where
  target : TypeName
  generator : Option TypeName := none
deriving DecidableEq

/-- The lines of a block. -/
def Block.lines (block : Block) : List Line :=
  .header :: .name .target block.target :: (block.generator.map (Line.name .generator)).toList

/-- The declaration of a block. -/
def Block.declaration (block : Block) : Declaration where
  target := block.target
  generator := block.generator

/-- The lines of a listing. -/
def lines (blocks : List Block) : List Line :=
  blocks.flatMap Block.lines

/-- The blocks as the text of a manifest. -/
def text (blocks : List Block) : String :=
  String.ofList (document Line.text (lines blocks))

/-- The manifest of a listing. -/
def manifest (blocks : List Block) : Manifest where
  declarations := blocks.map Block.declaration

lemma Block.valid_generator {block : Block} (valid : block.declaration.Valid) {name : TypeName}
    (named : block.generator = some name) : name.Valid := by
  have generator : block.declaration.id.generator = name := by
    simp [declaration, Declaration.id, Declaration.generatorType, named]
  exact generator ▸ valid.2

lemma valid_of_mem_lines {blocks : List Block} (valid : ∀ block ∈ blocks, block.declaration.Valid) :
    ∀ line ∈ lines blocks, line.Valid := by
  intro line listed
  obtain ⟨block, here, listed⟩ := List.mem_flatMap.mp listed
  simp only [Block.lines, List.mem_cons, Option.mem_toList, Option.map_eq_some_iff] at listed
  rcases listed with rfl | rfl | ⟨name, named, rfl⟩
  · trivial
  · exact (valid block here).1
  · exact Block.valid_generator (valid block here) named

/-! ## Reading a listing -/

lemma NameField.isBare (field : NameField) :
    field.text.toList ≠ [] ∧ ∀ c ∈ field.text.toList, Toml.isBare c = true := by
  rw [← List.all_eq_true]
  cases field <;> decide

lemma Line.Valid.tells {line : Line} (valid : line.Valid) : Toml.Tells line.text line.told := by
  cases line with
  | header =>
    have filled : "declarations".toList ≠ [] := by decide
    exact Toml.tells_item filled (List.all_eq_true.mp (by decide))
  | name field type =>
    have verbatim : ∀ c ∈ type.text.toList, Toml.isVerbatim c = true := fun c listed =>
      (TypeName.Valid.isVerbatim valid c listed).1
    have tells := Toml.tells_text (NameField.isBare field).1 (NameField.isBare field).2 verbatim
    rwa [String.ofList_toList, String.ofList_toList] at tells

/-- The entries of a block, in the order of their keys. -/
def Block.entries (block : Block) : Toml.Entries :=
  (block.generator.map fun name => ("generator", Toml.Node.value (.text name.text))).toList
    ++ [("target", .value (.text block.target.text))]

/-- A document with some declarations, newest first. -/
def drafted (items : List Toml.Entries) : Toml.Draft where
  current := ["declarations"]
  entries := [("declarations", .tables items)]

lemma foldlM_block (block : Block) (items : List Toml.Entries) :
    (block.lines.map Line.told).foldlM Toml.Draft.add (drafted items)
      = some (drafted (block.entries :: items)) := by
  obtain ⟨target, _ | generator⟩ := block <;> rfl

lemma foldlM_blocks (blocks : List Block) (items : List Toml.Entries) :
    ((lines blocks).map Line.told).foldlM Toml.Draft.add (drafted items)
      = some (drafted ((blocks.map Block.entries).reverse ++ items)) := by
  induction blocks generalizing items with
  | nil => rfl
  | cons block rest ih =>
    have whole : lines (block :: rest) = block.lines ++ lines rest := rfl
    rw [whole, List.map_append, List.foldlM_append, foldlM_block, Option.bind_eq_bind,
      Option.bind_some, ih]
    simp

/-- The finished tables of a repeated header, newest first. -/
lemma itemsToValues_eq_map (items : List Toml.Entries) :
    Toml.itemsToValues items = items.map fun entries => .table (Toml.entriesToValues entries) := by
  induction items with
  | nil => rfl
  | cons entries rest ih => rw [Toml.itemsToValues, ih, List.map_cons]

/-- The table of a block. -/
def Block.value (block : Block) : Value :=
  .table (Toml.entriesToValues block.entries)

/-- The table of a listing: under one key, the tables of its blocks; nothing when there are none. -/
def value (blocks : List Block) : Value :=
  .table (if blocks = [] then [] else [("declarations", .sequence (blocks.map Block.value))])

lemma build_lines (blocks : List Block) :
    Toml.build ((lines blocks).map Line.told) = some (value blocks) := by
  cases blocks with
  | nil => rfl
  | cons block rest =>
    -- The first header opens the array that the others find.
    have opened : ((lines (block :: rest)).map Line.told).foldlM Toml.Draft.add {}
        = ((lines (block :: rest)).map Line.told).foldlM Toml.Draft.add (drafted []) := rfl
    have finished : Toml.entriesToValues
        (drafted ((block :: rest).map Block.entries).reverse).entries
        = [("declarations", .sequence ((block :: rest).map Block.value))] := by
      rw [drafted, Toml.entriesToValues, Toml.Node.toValue, itemsToValues_eq_map, List.map_reverse,
        List.reverse_reverse, List.map_map]
      rfl
    rw [Toml.build, opened, foldlM_blocks, List.append_nil, Option.map_some, finished]
    rfl

/-- The table of a block reads as its declaration. -/
lemma ofValue_block (block : Block) : Declaration.ofValue block.value = .ok block.declaration := by
  obtain ⟨target, _ | generator⟩ := block <;> rfl

lemma mapM_ofValue (blocks : List Block) :
    (blocks.map Block.value).mapM Declaration.ofValue = .ok (blocks.map Block.declaration) := by
  induction blocks with
  | nil => rfl
  | cons block rest ih =>
    rw [List.map_cons, List.mapM_cons, ofValue_block, ih]
    rfl

/-- **A listing reads as what it lists.** -/
theorem deserializes {blocks : List Block} (valid : ∀ block ∈ blocks, block.declaration.Valid) :
    Manifest.Deserializes (text blocks) (manifest blocks) := by
  refine ⟨value blocks, ?_, ?_⟩
  · rw [text, Toml.read_of_lines fun line listed => (valid_of_mem_lines valid line listed).tells,
      build_lines]
  · cases blocks with
    | nil => rfl
    | cons block rest =>
      have sequence : (Value.sequence ((block :: rest).map Block.value)).asSequence
          Declaration.ofValue = .ok ((block :: rest).map Block.declaration) := mapM_ofValue _
      have set : Manifest.set {} "declarations" (.sequence ((block :: rest).map Block.value))
          = .ok (manifest (block :: rest)) := by
        simp only [Manifest.set, sequence]
        rfl
      rw [Manifest.ofValue, value, if_neg (List.cons_ne_nil _ _), Value.asRecord, List.foldlM_cons]
      dsimp only
      rw [set]
      rfl

/-! ## The places of a name -/

/-- The place of a name in a line that begins at an offset, if the line gives that name. -/
def Line.place? (type : TypeName) (offset : Nat) : Line → Option Span
  | header => none
  | name field other =>
    if other = type then
      some ⟨offset + Text.byteLength field.text.toList + 4, Text.byteLength type.text.toList⟩
    else none

/-- The places of a name in lines that begin at an offset, from top to bottom. -/
def placesFrom (type : TypeName) : (offset : Nat) → List Line → List Span
  | _, [] => []
  | offset, line :: rest =>
    (line.place? type offset).toList ++ placesFrom type
      (offset + Text.byteLength line.text + 1) rest

/-- The places of a name in a listing, from top to bottom. -/
def places (blocks : List Block) (type : TypeName) : List Span :=
  placesFrom type 0 (lines blocks)

/-- The place of the target in a block that stands behind others. -/
def targetPlace (before : List Block) (block : Block) : Span where
  offset := Text.byteLength (text before).toList + 27
  length := Text.byteLength block.target.text.toList

lemma Line.byteLength_name (field : NameField) (type : TypeName) :
    Text.byteLength
      (field.text.toList ++ [' ', '=', ' '] ++ '"' :: (type.text.toList ++ ['"', '\n']))
      = Text.byteLength (Line.name field type).text + 1 := by
  have sizes : '"'.utf8Size = 1 ∧ ' '.utf8Size = 1 ∧ '='.utf8Size = 1 ∧
      '\n'.utf8Size = 1 := by decide
  simp only [Line.text, Text.byteLength_append, Text.byteLength]
  omega

/-- The name stands behind its field, three more characters and a quote. -/
lemma Line.toList_place? (type : TypeName) (offset : Nat) (field : NameField) (other : TypeName) :
    ((Line.name field other).place? type offset).toList
      = (if other.text.toList = type.text.toList then
          [offset + Text.byteLength (field.text.toList ++ [' ', '=', ' '])] else []).map
        fun place => ⟨place + 1, Text.byteLength type.text.toList⟩ := by
  have same : other.text.toList = type.text.toList ↔ other = type := by
    rw [String.toList_inj, TypeName.mk.injEq]
  have spaces : Text.byteLength [' ', '=', ' '] = 3 := by decide
  rw [place?, Text.byteLength_append, spaces]
  by_cases here : other = type
  · rw [if_pos here, if_pos (same.mpr here)]
    rfl
  · rw [if_neg here, if_neg (mt same.mp here)]
    rfl

/-- A name is found where a line gives it. -/
lemma map_occurrencesFrom_document {type : TypeName} (valid : type.Valid) {lines : List Line}
    (validLines : ∀ line ∈ lines, line.Valid) (offset : Nat) :
    (Text.occurrencesFrom ('"' :: (type.text.toList ++ ['"'])) offset 0
      (document Line.text lines)).map
        (fun place => ⟨place + 1, Text.byteLength type.text.toList⟩)
      = placesFrom type offset lines := by
  have noQuote : ∀ {name : TypeName}, name.Valid → '"' ∉ name.text.toList := fun valid listed =>
    (Toml.isVerbatim_iff.mp (valid.isVerbatim _ listed).1).2.1 rfl
  have flat : '\n' ∉ type.text.toList :=
    fun listed => absurd (valid.isVerbatim _ listed).1 (by decide)
  induction lines generalizing offset with
  | nil => rfl
  | cons line rest ih =>
    obtain ⟨first, later⟩ := List.forall_mem_cons.mp validLines
    cases line with
    | header =>
      have whole : document Line.text (.header :: rest) = (Line.header.text ++ ['\n'])
          ++ document Line.text rest :=
        rfl
      rw [whole, Text.occurrencesFrom_append (by decide), ih later, placesFrom,
        Text.byteLength_append, ← Nat.add_assoc]
      rfl
    | name field other =>
      have whole : document Line.text (.name field other :: rest)
          = (field.text.toList ++ [' ', '=', ' '])
            ++ '"' :: (other.text.toList ++ '"' :: '\n' :: document Line.text rest) := by
        simp [document, Line.text]
      have front : '"' ∉ field.text.toList ++ [' ', '=', ' '] := by cases field <;> decide
      rw [whole, Text.occurrencesFrom_line (by decide) flat (noQuote valid) front (noQuote first),
        List.map_append, ih later, placesFrom, Line.toList_place?, Line.byteLength_name,
        Nat.add_assoc]

/-- No line has single quotes. -/
lemma apostrophe_notMem_document {lines : List Line} (valid : ∀ line ∈ lines, line.Valid) :
    '\'' ∉ document Line.text lines := by
  rw [document, List.mem_flatMap]
  rintro ⟨line, listed, quoted⟩
  have plain : '\'' ∉ line.text := by
    cases line with
    | header => decide
    | name field type =>
      have front : '\'' ∉ field.text.toList := by cases field <;> decide
      have name : '\'' ∉ type.text.toList := fun listedName =>
        (TypeName.Valid.isVerbatim (valid _ listed) _ listedName).2 rfl
      simp [Line.text, front, name]
  simp [plain] at quoted

/-- **The places of a name are told by the lines of the listing.** -/
theorem ofValue_text {blocks : List Block} (valid : ∀ block ∈ blocks, block.declaration.Valid)
    {type : TypeName} (validType : type.Valid) :
    Span.ofValue (text blocks) type.text = places blocks type := by
  have validLines := valid_of_mem_lines valid
  have plain : '\'' ∉ (text blocks).toList := by
    rw [text, String.toList_ofList]
    exact apostrophe_notMem_document validLines
  rw [Span.ofValue_eq_ofQuote plain, Span.ofQuote, text, String.toList_ofList]
  exact map_occurrencesFrom_document validType validLines 0

/-! ## The place of a target -/

lemma byteLength_cons (line : Line) (rest : List Line) :
    Text.byteLength (document Line.text (line :: rest))
      = Text.byteLength line.text + 1 + Text.byteLength (document Line.text rest) := by
  rw [document, List.flatMap_cons, Text.byteLength_append, Text.byteLength_append]
  rfl

lemma placesFrom_append (type : TypeName) (offset : Nat) (front rest : List Line) :
    placesFrom type offset (front ++ rest)
      = placesFrom type offset front
        ++ placesFrom type (offset + Text.byteLength (document Line.text front)) rest := by
  induction front generalizing offset with
  | nil => rfl
  | cons line more ih =>
    rw [List.cons_append, placesFrom, ih, placesFrom, List.append_assoc, byteLength_cons,
      ← Nat.add_assoc, ← Nat.add_assoc]

/-- A place lies within its line. -/
lemma Line.lt_of_place? {type : TypeName} {offset : Nat} {line : Line} {place : Span}
    (here : line.place? type offset = some place) : place.offset
      < offset + Text.byteLength line.text := by
  cases line with
  | header => cases here
  | name field other =>
    have size := Line.byteLength_name field other
    simp only [Text.byteLength_append, Text.byteLength] at size
    have sizes : '"'.utf8Size = 1 ∧ ' '.utf8Size = 1 ∧ '='.utf8Size = 1 ∧
        '\n'.utf8Size = 1 := by decide
    rw [place?] at here
    split at here
    · rw [← Option.some.inj here]
      dsimp only
      omega
    · cases here

lemma lt_of_mem_placesFrom {type : TypeName} {offset : Nat} {lines : List Line} {place : Span}
    (listed : place ∈ placesFrom type offset lines) :
    place.offset < offset + Text.byteLength (document Line.text lines) := by
  induction lines generalizing offset with
  | nil => cases listed
  | cons line rest ih =>
    rw [byteLength_cons]
    rw [placesFrom, List.mem_append, Option.mem_toList] at listed
    rcases listed with here | later
    · have within := Line.lt_of_place? here
      omega
    · have below := ih later
      omega

/-- The place of a target lies behind those in the blocks before. -/
lemma targetPlace_notMem (before : List Block) (block : Block) (type : TypeName) :
    targetPlace before block ∉ places before type := by
  intro listed
  have within := lt_of_mem_placesFrom listed
  rw [targetPlace, text, String.toList_ofList] at within
  dsimp only at within
  omega

/-- The first place of its target in a block is that of the target. -/
lemma exists_places_eq (before : List Block) (block : Block) (after : List Block) :
    ∃ later, places (before ++ block :: after) block.target
      = places before block.target ++ targetPlace before block :: later := by
  have whole : lines (before ++ block :: after) = lines before ++ (block.lines ++ lines after) := by
    rw [lines, List.flatMap_append, List.flatMap_cons]
    rfl
  have sizes : Text.byteLength Line.header.text = 16 ∧ Text.byteLength NameField.target.text.toList
      = 6 := by decide
  have here : (Line.name .target block.target).place? block.target
      (0 + Text.byteLength (document Line.text (lines before))
        + Text.byteLength Line.header.text + 1) = some (targetPlace before block) := by
    rw [Line.place?, if_pos rfl, sizes.1, sizes.2, targetPlace, text, String.toList_ofList,
      Nat.zero_add]
  rw [places, whole, placesFrom_append, Block.lines, List.cons_append, placesFrom, List.cons_append,
    placesFrom, here]
  exact ⟨_, rfl⟩

/-- The text at the place of a target is the target, in quotes. -/
lemma exists_text_eq (before : List Block) (block : Block) (after : List Block) :
    ∃ front rest, (text (before ++ block :: after)).toList
        = front ++ '"' :: (block.target.text.toList ++ '"' :: rest) ∧
      Text.byteLength front + 1 = (targetPlace before block).offset := by
  refine ⟨(text before).toList ++ (Line.header.text ++ ['\n'])
      ++ (NameField.target.text.toList ++ [' ', '=', ' ']),
    '\n' :: document Line.text ((block.generator.map (Line.name .generator)).toList ++ lines after),
      ?_, ?_⟩
  · simp [text, lines, document, Block.lines, Line.text]
  · have size : Text.byteLength (Line.header.text ++ ['\n']) = 17
        ∧ Text.byteLength (NameField.target.text.toList ++ [' ', '=', ' ']) = 9 := by decide
    rw [Text.byteLength_append, Text.byteLength_append, size.1, size.2, targetPlace]

end Listing

end SourceGen
