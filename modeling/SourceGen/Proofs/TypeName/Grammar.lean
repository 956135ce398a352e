import SourceGen.Proofs.Text.Pieces
import SourceGen.TypeName

/-!
# The grammar of type names

A type name is an identifier, or a type name followed by a separator and one more identifier, where
a separator is a dot or a double colon (`TypeName.Grammatical`). The check does not follow this
grammar. It cuts the text at the double colons that it meets from the left, cuts what it gets at
the dots, and looks at each part for itself.

The two agree because of how a text and its parts hang together (`TypeName.Joined`): any text is its
parts with separators between them (`joined_segments`), and cutting gives back the parts that a text
was joined from when none of them holds a dot or a colon (`segments_of_joined`). The characters of
identifiers are neither, and that is all the grammar needs to know of them: a third colon in a row
falls to the part behind it, which then begins with a colon and is no identifier.
-/

namespace SourceGen

/-! ## Tables of characters -/

/-- Tables without a common code point have no common character. -/
lemma Text.inRanges_eq_false_of_apart {left right : List (Nat × Nat)}
    (apart : (left.all fun range => right.all fun other => range.2 < other.1 || other.2 < range.1)
      = true)
    {c : Char} (inside : inRanges left c = true) : inRanges right c = false := by
  obtain ⟨range, listed, within⟩ := List.any_eq_true.mp inside
  refine List.any_eq_false.mpr fun other listedOther => ?_
  have away := List.all_eq_true.mp (List.all_eq_true.mp apart range listed) other listedOther
  simp only [Bool.and_eq_true, Bool.or_eq_true, decide_eq_true_eq] at within away ⊢
  omega

namespace TypeName

/-! ## Identifiers -/

/-- A letter or an underscore, and then letters, numbers and underscores. -/
def IsIdentifier (segment : List Char) : Prop :=
  ∃ first rest, segment = first :: rest ∧ isIdentifierStart first = true ∧
    ∀ c ∈ rest, isIdentifierRest c = true

/-- What stands between two identifiers of a name. -/
def separators : List (List Char) :=
  [['.'], [':', ':']]

lemma mem_separators {separator : List Char} :
    separator ∈ separators ↔ separator = ['.'] ∨ separator = [':', ':'] := by
  simp [separators]

/-- Neither a dot nor a colon is among the characters. -/
def IsPlain (segment : List Char) : Prop :=
  '.' ∉ segment ∧ ':' ∉ segment

lemma isPlain_cons {c : Char} {rest : List Char} :
    IsPlain (c :: rest) ↔ (c ≠ '.' ∧ c ≠ ':') ∧ IsPlain rest := by
  simp only [IsPlain, List.mem_cons, not_or, ne_eq, eq_comm (a := c)]
  exact and_and_and_comm

lemma isIdentifierRest_of_isIdentifierStart {c : Char} (start : isIdentifierStart c = true) :
    isIdentifierRest c = true := by
  rw [isIdentifierStart, Bool.or_eq_true] at start
  rw [isIdentifierRest, Bool.or_assoc, Bool.or_eq_true, Bool.or_eq_true]
  exact start.imp_right .inr

lemma IsIdentifier.isIdentifierRest {segment : List Char} (identifier : IsIdentifier segment) :
    ∀ c ∈ segment, isIdentifierRest c = true := by
  obtain ⟨first, rest, rfl, start, continues⟩ := identifier
  intro c listed
  rcases List.mem_cons.mp listed with rfl | later
  · exact isIdentifierRest_of_isIdentifierStart start
  · exact continues c later

lemma IsIdentifier.ne_nil {segment : List Char} (identifier : IsIdentifier segment) :
    segment ≠ [] := by
  obtain ⟨first, rest, rfl, _⟩ := identifier
  exact List.cons_ne_nil first rest

lemma IsIdentifier.isPlain {segment : List Char} (identifier : IsIdentifier segment) :
    IsPlain segment := by
  constructor
  · intro dot
    exact absurd (identifier.isIdentifierRest '.' dot) (by decide +kernel)
  · intro colon
    exact absurd (identifier.isIdentifierRest ':' colon) (by decide +kernel)

lemma isBlank_of_isIdentifierStart {c : Char} (start : isIdentifierStart c = true) :
    Text.isBlank c = false := by
  rw [isIdentifierStart, Bool.or_eq_true] at start
  rcases start with letter | underscore
  · exact Text.inRanges_eq_false_of_apart (by decide +kernel) letter
  · obtain rfl := of_decide_eq_true underscore
    decide

/-! ## Cutting from the left -/

lemma colonPieces_ne_nil (text : List Char) : colonPieces text ≠ [] := by
  fun_cases colonPieces text <;> exact List.cons_ne_nil _ _

/-- A dot or a double colon at the front ends an empty segment. -/
lemma segments_separator {separator : List Char} (separates : separator ∈ separators)
    (rest : List Char) :
    segments (separator ++ rest) = [] :: segments rest := by
  obtain ⟨first, others, cut⟩ := List.exists_cons_of_ne_nil (colonPieces_ne_nil rest)
  rcases mem_separators.mp separates with rfl | rfl
  · simp [segments, colonPieces, cut, Text.pieces]
  · simp [segments, colonPieces, Text.pieces]

/-- Any other character goes to the segment behind it. -/
lemma segments_cons {c : Char} {rest : List Char} (noDot : c ≠ '.')
    (noColons : ¬ [':', ':'] <+: c :: rest) :
    segments (c :: rest) = (segments rest).modifyHead (c :: ·) := by
  have whole : colonPieces (c :: rest) = (colonPieces rest).modifyHead (c :: ·) := by
    rw [colonPieces.eq_3 _ _ fun more colon next =>
      noColons (by rw [colon, next]; exact ⟨more, rfl⟩)]
    cases cut : colonPieces rest with
    | nil => exact absurd cut (colonPieces_ne_nil rest)
    | cons first others => rfl
  obtain ⟨first, others, cut⟩ := List.exists_cons_of_ne_nil (colonPieces_ne_nil rest)
  obtain ⟨segment, more, cutAgain⟩ :=
    List.exists_cons_of_ne_nil (Text.pieces_ne_nil (· = '.') first)
  rw [segments, segments, whole, cut, List.modifyHead_cons, List.flatMap_cons, List.flatMap_cons,
    Text.pieces, if_neg (by simpa using noDot), cutAgain]
  rfl

lemma segments_cons_of_ne {c : Char} (other : c ≠ '.' ∧ c ≠ ':') (rest : List Char) :
    segments (c :: rest) = (segments rest).modifyHead (c :: ·) := by
  refine segments_cons other.1 ?_
  rintro ⟨more, same⟩
  exact other.2 (List.cons.inj same).1.symm

/-- The characters in front of the first dot or colon are the first segment. -/
lemma segments_append {segment separator : List Char} (plain : IsPlain segment)
    (separates : separator ∈ separators) (rest : List Char) :
    segments (segment ++ separator ++ rest) = segment :: segments rest := by
  induction segment with
  | nil => exact segments_separator separates rest
  | cons c segment ih =>
    obtain ⟨other, plain⟩ := isPlain_cons.mp plain
    rw [List.cons_append, List.cons_append, segments_cons_of_ne other, ih plain,
      List.modifyHead_cons]

lemma segments_of_isPlain {text : List Char} (plain : IsPlain text) : segments text = [text] := by
  induction text with
  | nil => rfl
  | cons c rest ih =>
    obtain ⟨other, plain⟩ := isPlain_cons.mp plain
    rw [segments_cons_of_ne other, ih plain, List.modifyHead_cons]

/-! ## A text and its parts -/

/-- The text is made of the parts in their order, with a separator between each two of them. -/
inductive Joined : List (List Char) → List Char → Prop
  | last (part : List Char) : Joined [part] part
  | next (part : List Char) {separator : List Char} {parts : List (List Char)} {text : List Char} :
      separator ∈ separators → Joined parts text →
      Joined (part :: parts) (part ++ separator ++ text)

/-- A character in front of the text belongs to the first part. -/
lemma Joined.modifyHead {parts : List (List Char)} {text : List Char} (joined : Joined parts text)
    (c : Char) :
    Joined (parts.modifyHead (c :: ·)) (c :: text) := by
  cases joined with
  | last => exact .last (c :: text)
  | next part separates rest => exact .next (c :: part) separates rest

lemma Joined.concat {parts : List (List Char)} {text separator : List Char}
    (joined : Joined parts text) (separates : separator ∈ separators) (part : List Char) :
    Joined (parts ++ [part]) (text ++ separator ++ part) := by
  induction joined with
  | last first => exact .next first separates (.last part)
  | next first between _ ih =>
    have longer := Joined.next first between ih
    simpa only [List.append_assoc, List.cons_append] using longer

/-- Every text is its segments with separators between them. -/
lemma joined_segments (text : List Char) : Joined (segments text) text := by
  match text with
  | [] => exact .last []
  | c :: rest =>
    by_cases dot : c = '.'
    · subst dot
      have separates : ['.'] ∈ separators := List.mem_cons_self
      have cut : segments ('.' :: rest) = [] :: segments rest := segments_separator separates rest
      rw [cut]
      exact .next [] separates (joined_segments rest)
    by_cases colons : [':', ':'] <+: c :: rest
    · obtain ⟨more, whole⟩ := colons
      have separates : [':', ':'] ∈ separators := by decide
      have shorter : more.length < (c :: rest).length := by
        rw [← whole, List.length_append]
        exact Nat.lt_add_of_pos_left (by decide)
      rw [← whole, segments_separator separates more]
      exact .next [] separates (joined_segments more)
    · rw [segments_cons dot colons]
      exact (joined_segments rest).modifyHead c
termination_by text.length
decreasing_by
  · exact Nat.lt_succ_self rest.length
  · exact shorter
  · exact Nat.lt_succ_self rest.length

/-- Cutting gives back parts that hold neither dots nor colons. -/
lemma segments_of_joined {parts : List (List Char)} {text : List Char} (joined : Joined parts text)
    (plain : ∀ part ∈ parts, IsPlain part) : segments text = parts := by
  induction joined with
  | last part => exact segments_of_isPlain (plain part List.mem_cons_self)
  | next part separates _ ih =>
    rw [segments_append (plain part List.mem_cons_self) separates,
      ih fun other listed => plain other (List.mem_cons_of_mem part listed)]

/-! ## The grammar -/

/-- An identifier, followed by any number of separators with one more identifier each. -/
inductive Grammatical : List Char → Prop
  | identifier {segment : List Char} : IsIdentifier segment → Grammatical segment
  | member {scope separator segment : List Char} :
      Grammatical scope → separator ∈ separators → IsIdentifier segment →
        Grammatical (scope ++ separator ++ segment)

/-- A name can be extended at its front, too. -/
lemma Grammatical.inside {segment separator name : List Char} (identifier : IsIdentifier segment)
    (separates : separator ∈ separators) (grammatical : Grammatical name) :
    Grammatical (segment ++ separator ++ name) := by
  induction grammatical with
  | identifier last => exact .member (.identifier identifier) separates last
  | member _ between last ih =>
    have longer := Grammatical.member ih between last
    simpa only [List.append_assoc] using longer

lemma grammatical_of_joined {parts : List (List Char)} {text : List Char}
    (joined : Joined parts text) (identifiers : ∀ part ∈ parts, IsIdentifier part) :
    Grammatical text := by
  induction joined with
  | last part => exact .identifier (identifiers part List.mem_cons_self)
  | next part separates _ ih =>
    exact .inside (identifiers part List.mem_cons_self) separates
      (ih fun other listed => identifiers other (List.mem_cons_of_mem part listed))

lemma Grammatical.exists_joined {text : List Char} (grammatical : Grammatical text) :
    ∃ parts, Joined parts text ∧ ∀ part ∈ parts, IsIdentifier part := by
  induction grammatical with
  | identifier segment =>
    exact ⟨_, .last _, fun part listed => List.mem_singleton.mp listed ▸ segment⟩
  | member _ separates last ih =>
    obtain ⟨parts, joined, identifiers⟩ := ih
    refine ⟨_, joined.concat separates _, fun part listed => ?_⟩
    rcases List.mem_append.mp listed with earlier | final
    · exact identifiers part earlier
    · exact List.mem_singleton.mp final ▸ last

/-- The grammar asks each segment to be an identifier. -/
lemma grammatical_iff {text : List Char} :
    Grammatical text ↔ ∀ segment ∈ segments text, IsIdentifier segment := by
  constructor
  · intro grammatical
    obtain ⟨parts, joined, identifiers⟩ := grammatical.exists_joined
    rwa [segments_of_joined joined fun part listed => (identifiers part listed).isPlain]
  · exact grammatical_of_joined (joined_segments text)

lemma Grammatical.exists_first {text : List Char} (grammatical : Grammatical text) :
    ∃ first rest, text = first :: rest ∧ isIdentifierStart first = true := by
  induction grammatical with
  | identifier segment =>
    obtain ⟨first, rest, whole, start, _⟩ := segment
    exact ⟨first, rest, whole, start⟩
  | member _ _ _ ih =>
    obtain ⟨first, rest, rfl, start⟩ := ih
    exact ⟨first, _, rfl, start⟩

lemma Grammatical.isBlankText {text : List Char} (grammatical : Grammatical text) :
    Text.isBlankText text = false := by
  obtain ⟨first, rest, rfl, start⟩ := grammatical.exists_first
  rw [Text.isBlankText, List.all_cons, isBlank_of_isIdentifierStart start, Bool.false_and]

/-- A name is written with the characters of identifiers, dots and colons. -/
lemma Grammatical.mem_text {text : List Char} (grammatical : Grammatical text) {c : Char}
    (listed : c ∈ text) :
    isIdentifierRest c = true ∨ c = '.' ∨ c = ':' := by
  induction grammatical with
  | identifier segment => exact .inl (segment.isIdentifierRest c listed)
  | member _ separates last ih =>
    rcases List.mem_append.mp listed with inFront | inLast
    · rcases List.mem_append.mp inFront with inScope | inSeparator
      · exact ih inScope
      · rcases mem_separators.mp separates with rfl | rfl
        · exact .inr (.inl (List.mem_singleton.mp inSeparator))
        · exact .inr (.inr (by simpa using inSeparator))
    · exact .inl (last.isIdentifierRest c inLast)

/-! ## What is wrong with a segment -/

/-- What a defect of `name` tells of one of its segments: that it is empty, or which is its first
bad character. -/
inductive Defect.Blames (name : String) : Defect → List Char → Prop
  | empty : Blames name (.emptySegment name) []
  | first {c : Char} {rest : List Char} : isIdentifierStart c = false →
      Blames name (.badStart (String.ofList (c :: rest))) (c :: rest)
  | later {first c : Char} {sound rest : List Char} : isIdentifierStart first = true →
      (∀ d ∈ sound, isIdentifierRest d = true) → isIdentifierRest c = false →
      Blames name (.badCharacter (String.ofList (first :: sound ++ c :: rest)) c)
        (first :: sound ++ c :: rest)

lemma segmentDefect?_eq_none_iff {name : String} {segment : List Char} :
    segmentDefect? name segment = none ↔ IsIdentifier segment := by
  cases segment with
  | nil => exact iff_of_false nofun fun identifier => identifier.ne_nil rfl
  | cons first rest =>
    rw [segmentDefect?]
    by_cases start : isIdentifierStart first = true
    · rw [if_pos start, Option.map_eq_none_iff, List.find?_eq_none]
      constructor
      · intro continues
        exact ⟨first, rest, rfl, start, by simpa using continues⟩
      · rintro ⟨_, _, same, _, continues⟩
        obtain ⟨rfl, rfl⟩ := List.cons.inj same
        simpa using continues
    · rw [if_neg start]
      refine iff_of_false nofun ?_
      rintro ⟨_, _, same, starts, _⟩
      exact start ((List.cons.inj same).1 ▸ starts)

lemma segmentDefect?_eq_some_iff {name : String} {segment : List Char} {defect : Defect} :
    segmentDefect? name segment = some defect ↔ defect.Blames name segment := by
  constructor
  · intro found
    cases segment with
    | nil =>
      obtain rfl := Option.some.inj found
      exact .empty
    | cons first rest =>
      rw [segmentDefect?] at found
      by_cases start : isIdentifierStart first = true
      · rw [if_pos start, Option.map_eq_some_iff] at found
        obtain ⟨c, here, rfl⟩ := found
        obtain ⟨bad, sound, more, rfl, continues⟩ := List.find?_eq_some_iff_append.mp here
        exact .later start (by simpa using continues) (by simpa using bad)
      · rw [if_neg start] at found
        obtain rfl := Option.some.inj found
        exact .first (Bool.eq_false_iff.mpr start)
  · intro blames
    cases blames with
    | empty => rfl
    | first bad => rw [segmentDefect?, bad, if_neg Bool.false_ne_true]
    | @later first c sound rest start continues bad =>
      have found : (sound ++ c :: rest).find? (fun d => !isIdentifierRest d) = some c :=
        List.find?_eq_some_iff_append.mpr ⟨by simpa using bad, sound, rest,
          rfl, by simpa using continues⟩
      rw [List.cons_append, segmentDefect?, if_pos start, found]
      rfl

/-- The names that pass the check are those that the grammar makes. -/
lemma valid_iff {name : TypeName} : name.Valid ↔ Grammatical name.text.toList := by
  rw [grammatical_iff, Valid, defect?]
  by_cases blank : Text.isBlankText name.text.toList = true
  · rw [if_pos blank]
    refine iff_of_false nofun fun identifiers => ?_
    exact Bool.false_ne_true ((grammatical_iff.mpr identifiers).isBlankText.symm.trans blank)
  · rw [if_neg blank, List.findSome?_eq_none_iff]
    exact forall₂_congr fun segment _ => segmentDefect?_eq_none_iff

lemma Valid.mem_text {name : TypeName} (valid : name.Valid) {c : Char}
    (listed : c ∈ name.text.toList) :
    isIdentifierRest c = true ∨ c = '.' ∨ c = ':' :=
  (valid_iff.mp valid).mem_text listed

/-- The defect of a name is that of its leftmost segment with a defect. -/
lemma defect?_eq_some_iff {name : TypeName} (filled : ¬ Text.isBlankText name.text.toList = true)
    {defect : Defect} :
    name.defect? = some defect ↔
      ∃ before segment after, segments name.text.toList = before ++ segment :: after ∧
        (∀ earlier ∈ before, IsIdentifier earlier) ∧ defect.Blames name.text segment := by
  rw [defect?, if_neg filled, List.findSome?_eq_some_iff]
  simp only [segmentDefect?_eq_some_iff, segmentDefect?_eq_none_iff]
  constructor
  · rintro ⟨before, segment, after, cut, blames, sound⟩
    exact ⟨before, segment, after, cut, sound, blames⟩
  · rintro ⟨before, segment, after, cut, sound, blames⟩
    exact ⟨before, segment, after, cut, blames, sound⟩

/-- **The check accepts the grammar, and blames the leftmost segment that is no identifier.** A
name is valid just when its text follows the grammar. A name that is not valid is blank, or it has
a first segment that is no identifier, and the defect tells of that segment what is wrong with
it. -/
theorem validation_follows_grammar (name : TypeName) :
    (name.defect? = none ↔ Grammatical name.text.toList) ∧
      Joined (segments name.text.toList) name.text.toList ∧
      ∀ defect, name.defect? = some defect ↔
        if Text.isBlankText name.text.toList then defect = .blank
        else ∃ before segment after, segments name.text.toList = before ++ segment :: after ∧
          (∀ earlier ∈ before, IsIdentifier earlier) ∧ defect.Blames name.text segment := by
  refine ⟨valid_iff, joined_segments _, fun defect => ?_⟩
  by_cases blank : Text.isBlankText name.text.toList = true
  · rw [if_pos blank, defect?, if_pos blank, Option.some.injEq, eq_comm]
  · rw [if_neg blank, defect?_eq_some_iff blank]

/-- Of three colons in a row the last one belongs to the segment behind them. -/
example : defect? ⟨"app:::Foo"⟩ = some (.badStart ":Foo") := by
  decide +kernel

end TypeName

end SourceGen
