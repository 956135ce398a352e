import SourceGen.Proofs.TypeName.Grammar

/-!
# Short names and scopes

The short name is cut from the right: what follows the last double colon, and of that what follows
the last dot. The scope is what stands before it, less one separator. Both are made for texts of
every kind, and for every text the short name ends it (`shortChars_suffix`) and the scope, where
there is one, is what the text has in front of a separator and the short name
(`scopeChars?_eq_some_iff`).

In a valid name the cuts from the right meet the cuts from the left that the check makes, since the
identifier behind the last separator holds neither a dot nor a colon (`shortChars_append`). So the
short name of a valid name is its last identifier, the scope is the valid name in front of it, and
the two recompose the name (`scope_and_shortName`).
-/

namespace SourceGen

namespace TypeName

/-! ## The last double colon -/

/-- A double colon needs a colon behind its first character. -/
lemma hasColons_cons_of_no_colon {text : List Char} (plain : ':' ∉ text) (c : Char) :
    hasColons (c :: text) = false := by
  induction text generalizing c with
  | nil => simp [hasColons, startsWithColons]
  | cons d rest ih =>
    rw [List.mem_cons, not_or] at plain
    rw [hasColons, ih plain.2 d, Bool.or_false]
    simp [startsWithColons, Ne.symm plain.1]

lemma hasColons_of_no_colon {text : List Char} (plain : ':' ∉ text) : hasColons text = false := by
  cases text with
  | nil => rfl
  | cons c rest =>
    exact hasColons_cons_of_no_colon (fun colon => plain (List.mem_cons_of_mem c colon)) c

lemma hasColons_append_colons (front rest : List Char) :
    hasColons (front ++ ':' :: ':' :: rest) = true := by
  induction front with
  | nil => rfl
  | cons c front ih => rw [List.cons_append, hasColons, ih, Bool.or_true]

lemma afterLastColons_of_no_colon {text : List Char} (plain : ':' ∉ text) :
    afterLastColons text = text := by
  cases text with
  | nil => rfl
  | cons c rest =>
    have none := hasColons_of_no_colon plain
    rw [hasColons, Bool.or_eq_false_iff] at none
    rw [afterLastColons, none.1, none.2]
    rfl

lemma afterLastColons_append_colons (front : List Char) {text : List Char} (plain : ':' ∉ text) :
    afterLastColons (front ++ ':' :: ':' :: text) = text := by
  induction front with
  | nil =>
    rw [List.nil_append, afterLastColons, hasColons_cons_of_no_colon plain ':']
    rfl
  | cons c front ih =>
    rw [List.cons_append, afterLastColons, hasColons_append_colons, if_pos rfl, ih]

/-- The text behind the last colon stays whole. -/
lemma exists_afterLastColons_append (front : List Char) {text : List Char} (plain : ':' ∉ text) :
    ∃ rest, afterLastColons (front ++ text) = rest ++ text := by
  induction front with
  | nil => exact ⟨[], afterLastColons_of_no_colon plain⟩
  | cons c front ih =>
    rw [List.cons_append, afterLastColons]
    split
    · exact ih
    split
    · next starts =>
      cases front with
      | nil =>
        cases text with
        | nil => simp [startsWithColons] at starts
        | cons d more =>
          rw [List.mem_cons, not_or] at plain
          simp [startsWithColons, Ne.symm plain.1] at starts
      | cons d front => exact ⟨front, rfl⟩
    · exact ⟨c :: front, rfl⟩

/-- A text ends with what follows its last double colon. -/
lemma afterLastColons_suffix (text : List Char) : afterLastColons text <:+ text := by
  induction text with
  | nil => exact List.suffix_rfl
  | cons c rest ih =>
    rw [afterLastColons]
    split
    · exact ih.trans (List.suffix_cons c rest)
    · split
      · exact (List.drop_suffix 1 rest).trans (List.suffix_cons c rest)
      · exact List.suffix_rfl

/-! ## Short names -/

lemma shortChars_suffix (text : List Char) : shortChars text <:+ text :=
  (Text.afterLast_suffix _ _).trans (afterLastColons_suffix text)

lemma shortChars_of_isPlain {text : List Char} (plain : IsPlain text) : shortChars text = text := by
  rw [shortChars, afterLastColons_of_no_colon plain.2,
    Text.afterLast_eq_self (Text.forall_ne_of_not_mem plain.1)]

/-- What stands behind a separator and holds neither a dot nor a colon is the short name. -/
lemma shortChars_append (scope : List Char) {separator segment : List Char}
    (separates : separator ∈ separators) (plain : IsPlain segment) :
    shortChars (scope ++ separator ++ segment) = segment := by
  have noDot := Text.forall_ne_of_not_mem plain.1
  rw [shortChars, List.append_assoc]
  rcases mem_separators.mp separates with rfl | rfl
  · have noColon : ':' ∉ '.' :: segment := List.not_mem_cons_of_ne_of_not_mem (by decide) plain.2
    obtain ⟨rest, behind⟩ := exists_afterLastColons_append scope noColon
    rw [List.singleton_append, behind, Text.afterLast_append rest (by rfl) noDot]
  · have behind : afterLastColons (scope ++ ([':', ':'] ++ segment)) = segment :=
      afterLastColons_append_colons scope plain.2
    rw [behind, Text.afterLast_eq_self noDot]

/-! ## Scopes -/

/-- A text that ends in a dot does not end in a colon, so at most one separator can be taken off. -/
lemma dropSeparator?_eq_some_iff {head scope : List Char} :
    (Text.dropSuffix? [':', ':'] head).or (Text.dropSuffix? ['.'] head) = some scope ↔
      ∃ separator ∈ separators, head = scope ++ separator := by
  rw [Option.or_eq_some_iff, Text.dropSuffix?_eq_some_iff, Text.dropSuffix?_eq_some_iff]
  constructor
  · rintro (colons | ⟨_, dot⟩)
    · exact ⟨_, mem_separators.mpr (.inr rfl), colons⟩
    · exact ⟨_, mem_separators.mpr (.inl rfl), dot⟩
  · rintro ⟨separator, separates, whole⟩
    rcases mem_separators.mp separates with rfl | rfl
    · refine .inr ⟨Option.eq_none_iff_forall_not_mem.mpr fun other cut => ?_, whole⟩
      have last := congrArg List.getLast? (whole.symm.trans (Text.dropSuffix?_eq_some_iff.mp cut))
      simp at last
    · exact .inl whole

/-- The scope of a text, if it has one, stands in front of a separator and the short name. -/
lemma scopeChars?_eq_some_iff {text scope : List Char} :
    scopeChars? text = some scope ↔
      scope ≠ [] ∧ ∃ separator ∈ separators, text = scope ++ separator ++ shortChars text := by
  obtain ⟨head, whole⟩ := shortChars_suffix text
  have before : text.take (text.length - (shortChars text).length) = head := by
    have cut : (head ++ shortChars text).take head.length = head := List.take_left
    have size : text.length - (shortChars text).length = head.length := by
      have sizes := congrArg List.length whole
      rw [List.length_append] at sizes
      omega
    rwa [whole, ← size] at cut
  have same : ∀ separator, text = scope ++ separator ++ shortChars text ↔
      head = scope ++ separator := by
    intro separator
    have cancel : head ++ shortChars text = scope ++ separator ++ shortChars text ↔
        head = scope ++ separator :=
      List.append_left_inj _
    rwa [whole] at cancel
  simp only [scopeChars?, before, same, Option.filter_eq_some_iff, dropSeparator?_eq_some_iff,
    Bool.not_eq_true', List.isEmpty_eq_false_iff]
  exact and_comm

lemma scope?_eq_some_iff {name : TypeName} {scope : String} :
    name.scope? = some scope ↔
      scope ≠ "" ∧ (name.text = scope ++ "." ++ name.shortName ∨ name.text
        = scope ++ "::" ++ name.shortName) := by
  have ofChars : name.scope? = some scope ↔ scopeChars? name.text.toList = some scope.toList := by
    rw [scope?, Option.map_eq_some_iff]
    constructor
    · rintro ⟨chars, cut, rfl⟩
      rwa [String.toList_ofList]
    · exact fun cut => ⟨_, cut, String.ofList_toList⟩
  have text : ∀ separator : String, name.text = scope ++ separator ++ name.shortName ↔
      name.text.toList = scope.toList ++ separator.toList ++ shortChars name.text.toList := by
    intro separator
    rw [← String.toList_inj, String.toList_append, String.toList_append, shortName,
      String.toList_ofList]
  have dot : ".".toList = ['.'] := rfl
  have colons : "::".toList = [':', ':'] := rfl
  rw [ofChars, scopeChars?_eq_some_iff, text, text, dot, colons, ne_eq, String.toList_eq_nil_iff]
  simp only [separators, List.mem_cons, List.not_mem_nil, or_false, exists_eq_or_imp,
    exists_eq_left]

/-! ## Names from their parts -/

/-- Where the short name of a name begins, in bytes. -/
def shortOffset (name : TypeName) : String.Pos.Raw :=
  ⟨name.text.utf8ByteSize - name.shortName.utf8ByteSize⟩

/-- The short name begins inside the text and between two of its characters. -/
lemma shortOffset_isValid (name : TypeName) :
    name.shortName.utf8ByteSize ≤ name.text.utf8ByteSize ∧ name.shortOffset.IsValid name.text := by
  obtain ⟨head, whole⟩ := shortChars_suffix name.text.toList
  have text : name.text = String.ofList head ++ name.shortName := by
    rw [shortName, ← String.ofList_append, whole, String.ofList_toList]
  have size : name.text.utf8ByteSize = (String.ofList head).utf8ByteSize
      + name.shortName.utf8ByteSize := 
    (congrArg String.utf8ByteSize text).trans String.utf8ByteSize_append
  refine ⟨size ▸ Nat.le_add_left _ _, String.Pos.Raw.isValid_iff_exists_append.mpr ⟨_, _, text, ?_⟩⟩
  rw [shortOffset, size, Nat.add_sub_cancel]
  rfl

/-- A name of the grammar is an identifier, or it goes on with one behind a shorter name; that is
the short name. -/
lemma Grammatical.cut {text : List Char} (grammatical : Grammatical text) :
    IsIdentifier (shortChars text) ∧
      (text = shortChars text ∨
        ∃ scope, Grammatical scope ∧ ∃ separator ∈ separators,
          text = scope ++ separator ++ shortChars text) := by
  cases grammatical with
  | identifier segment =>
    rw [shortChars_of_isPlain segment.isPlain]
    exact ⟨segment, .inl rfl⟩
  | @member scope separator segment inner separates last =>
    rw [shortChars_append scope separates last.isPlain]
    exact ⟨last, .inr ⟨scope, inner, separator, separates, rfl⟩⟩

/-- A text that is its own short name has no scope. -/
lemma scopeChars?_of_short {text : List Char} (short : text = shortChars text) :
    scopeChars? text = none := by
  refine Option.eq_none_iff_forall_not_mem.mpr fun scope cut => ?_
  obtain ⟨filled, separator, _, whole⟩ := scopeChars?_eq_some_iff.mp cut
  rw [← short] at whole
  have none : scope ++ separator = [] := List.self_eq_append_left.mp whole
  exact filled (List.append_eq_nil_iff.mp none).1

lemma Valid.isIdentifier_shortName {name : TypeName} (valid : name.Valid) :
    IsIdentifier name.shortName.toList := by
  rw [shortName, String.toList_ofList]
  exact (valid_iff.mp valid).cut.1

/-- A valid name has a short name. -/
theorem Valid.shortName_ne {name : TypeName} (valid : name.Valid) : name.shortName ≠ "" := by
  intro empty
  exact valid.isIdentifier_shortName.ne_nil (by rw [empty]; rfl)

/-- A valid name without a scope is its short name, and the scope of any other is valid. -/
lemma Valid.scope_cases {name : TypeName} (valid : name.Valid) :
    name.scope? = none ∧ name.text = name.shortName ∨ ∃ scope, name.scope? = some scope ∧
    Valid ⟨scope⟩ := by
  obtain ⟨_, short | ⟨scope, inner, separator, separates, whole⟩⟩ := (valid_iff.mp valid).cut
  · refine .inl ⟨?_, ?_⟩
    · rw [scope?, scopeChars?_of_short short, Option.map_none]
    · rw [shortName, ← short, String.ofList_toList]
  · refine .inr ⟨String.ofList scope, ?_, ?_⟩
    · obtain ⟨first, rest, rfl, _⟩ := inner.exists_first
      have cut :=
        scopeChars?_eq_some_iff.mpr ⟨List.cons_ne_nil first rest, separator, separates, whole⟩
      rw [scope?, cut, Option.map_some]
    · rw [valid_iff, String.toList_ofList]
      exact inner

/-- **A valid name is its scope, a separator and its short name.** The short name of a valid name
is an identifier, and the name is this identifier alone, without a scope, or it has a scope, which
is a valid name, and is made of the scope, a separator and the short name. For any text, valid or
not, the short name ends the text, so that what stands before it can be cut off between two
characters, and the text has a scope just when it is made of something, a separator and the short
name. -/
theorem scope_and_shortName (name : TypeName) :
    (name.shortName.toList <:+ name.text.toList ∧ name.shortName.utf8ByteSize
      ≤ name.text.utf8ByteSize ∧
      name.shortOffset.IsValid name.text) ∧
    (∀ scope, name.scope? = some scope ↔
      scope ≠ "" ∧
        (name.text = scope ++ "." ++ name.shortName ∨
          name.text = scope ++ "::" ++ name.shortName)) ∧
    (name.Valid →
      (IsIdentifier name.shortName.toList ∧ '.' ∉ name.shortName.toList ∧
        ':' ∉ name.shortName.toList) ∧
        (name.scope? = none ∧ name.text = name.shortName ∨
          ∃ scope, name.scope? = some scope ∧ Valid ⟨scope⟩ ∧
            (name.text = scope ++ "." ++ name.shortName ∨
              name.text = scope ++ "::" ++ name.shortName))) := by
  refine ⟨⟨?_, name.shortOffset_isValid⟩, fun scope => scope?_eq_some_iff, fun valid => ⟨?_, ?_⟩⟩
  · rw [shortName, String.toList_ofList]
    exact shortChars_suffix _
  · exact ⟨valid.isIdentifier_shortName, valid.isIdentifier_shortName.isPlain⟩
  · rcases valid.scope_cases with short | ⟨scope, cut, inner⟩
    · exact .inl short
    · exact .inr ⟨scope, cut, inner, (scope?_eq_some_iff.mp cut).2⟩

/-- A name with both separators, and with characters that take more than one byte. -/
theorem scope_and_shortName_mixed :
    Valid ⟨"app::Größe.Maß"⟩ ∧ IsIdentifier "Maß".toList ∧ Valid ⟨"app::Größe"⟩ ∧
      scope? ⟨"app::Größe.Maß"⟩ = some "app::Größe" ∧ shortName ⟨"app::Größe.Maß"⟩ = "Maß" := by
  have valid : Valid ⟨"app::Größe.Maß"⟩ := by decide +kernel
  have short : shortName ⟨"app::Größe.Maß"⟩ = "Maß" := by decide +kernel
  obtain ⟨_, _, parts⟩ := scope_and_shortName ⟨"app::Größe.Maß"⟩
  obtain ⟨⟨identifier, _⟩, alone | ⟨scope, cut, inner, _⟩⟩ := parts valid
  · exact absurd alone.2 (by decide +kernel)
  · have same : scope? ⟨"app::Größe.Maß"⟩ = some "app::Größe" := by decide +kernel
    obtain rfl : "app::Größe" = scope := Option.some.inj (same.symm.trans cut)
    rw [short] at identifier
    exact ⟨valid, identifier, inner, cut, short⟩

end TypeName

end SourceGen
