import Mathlib.Tactic.Lemma
import SourceGen.Toml.Document

/-!
# Documents written line by line

A document is read statement by statement, each reader taking what it needs and leaving the rest.
When every statement is written on a line of its own, reading can be told line by line
(`Toml.Tells`): a header in brackets (`Toml.tells_item`), and a bare key with a text in double
quotes that needs no escapes (`Toml.tells_text`). The document then reads as the table that these
statements build (`Toml.read_of_lines`). The readers are given fuel, and the length of the document
is enough, since no line is empty.
-/

namespace SourceGen.Toml

/-! ## Texts and keys -/

/-- The characters that stand for themselves between double quotes. -/
def isVerbatim (c : Char) : Bool :=
  isPlain c && c ≠ '"' && c ≠ '\\'

lemma isVerbatim_iff {c : Char} : isVerbatim c = true ↔ isPlain c = true ∧ c ≠ '"' ∧ c ≠ '\\' := by
  simp [isVerbatim, and_assoc]

lemma basicString_of_verbatim {text : List Char} (verbatim : ∀ c ∈ text, isVerbatim c = true)
    (rest : List Char) :
    basicString .plain (text ++ '"' :: rest) = some (text, rest) := by
  induction text with
  | nil => rfl
  | cons c more ih =>
    obtain ⟨first, verbatim⟩ := List.forall_mem_cons.mp verbatim
    obtain ⟨plain, noQuote, noEscape⟩ := isVerbatim_iff.mp first
    rw [List.cons_append, basicString, if_neg noQuote, if_neg noEscape, if_pos plain, ih verbatim]
    rfl

lemma value_of_verbatim {text : List Char} (verbatim : ∀ c ∈ text, isVerbatim c = true)
    (fuel depth : Nat) (rest : List Char) :
    value (fuel + 1) depth ('"' :: (text ++ '"' :: '\n' :: rest))
      = some (.text (String.ofList text), '\n' :: rest) := by
  have single : startsTriple '"' ('"' :: (text ++ '"' :: '\n' :: rest)) = false := by
    cases text with
    | nil => rfl
    | cons c more =>
      have noQuote := (isVerbatim_iff.mp (verbatim c List.mem_cons_self)).2.1
      cases more <;> simp [startsTriple, noQuote]
  rw [value, single, if_neg Bool.false_ne_true, basicString_of_verbatim verbatim]
  rfl

lemma ne_of_isBare {c d : Char} (bare : isBare c = true) (other : isBare d = false) : c ≠ d := by
  rintro rfl
  exact Bool.false_ne_true (other.symm.trans bare)

section Keys

variable {word rest : List Char} (filled : word ≠ []) (bare : ∀ c ∈ word, isBare c = true)
  (ends : ∀ c, rest.head? = some c → isBare c = false)

include filled bare ends

lemma keyPart_of_bare : keyPart (word ++ rest) = some (String.ofList word, rest) := by
  have stops : rest.takeWhile isBare = [] ∧ rest.dropWhile isBare = rest := by
    cases rest with
    | nil => exact ⟨rfl, rfl⟩
    | cons c more => simp [ends c rfl]
  obtain ⟨c, more, rfl⟩ := List.exists_cons_of_ne_nil filled
  have first := bare c List.mem_cons_self
  have taken : (c :: more ++ rest).takeWhile isBare = c :: more := by
    rw [List.takeWhile_append_of_pos bare, stops.1, List.append_nil]
  have left : (c :: more ++ rest).dropWhile isBare = rest := by
    rw [List.dropWhile_append_of_pos bare, stops.2]
  unfold keyPart
  split
  · next same => exact absurd (List.cons.inj same).1 (ne_of_isBare first rfl)
  · next same => exact absurd (List.cons.inj same).1 (ne_of_isBare first rfl)
  · rw [taken, left]
    rfl

lemma key_of_bare (last : (skipSpace rest).head? ≠ some '.') :
    key (word ++ rest) = some ([String.ofList word], skipSpace rest) := by
  rw [key, keyParts, keyPart_of_bare filled bare ends]
  dsimp only
  split
  · next more same => exact absurd (by rw [same]; rfl) last
  · rfl

end Keys

/-! ## Lines -/

/-- A character that begins neither a blank, a line end, a comment nor a mark. -/
def Begins (c : Char) : Prop :=
  c ≠ '\uFEFF' ∧ c ≠ '\n' ∧ c ≠ '\r' ∧ c ≠ '#' ∧ isSpace c = false

lemma Begins.skipLines {c : Char} (begins : Begins c) (more : List Char) :
    skipLines false (c :: more) = some (c :: more) := by
  obtain ⟨_, noLineEnd, noReturn, noComment, noSpace⟩ := begins
  simp [Toml.skipLines, noComment, noSpace]

lemma begins_of_isBare {c : Char} (bare : isBare c = true) : Begins c :=
  ⟨ne_of_isBare bare (by decide), ne_of_isBare bare rfl, ne_of_isBare bare rfl,
    ne_of_isBare bare rfl,
    by simp [isSpace, ne_of_isBare (d := ' ') bare rfl, ne_of_isBare (d := '\t') bare rfl]⟩

/-- The line tells one statement, whatever the lines behind it are. -/
structure Tells (line : List Char) (told : Statement) : Prop where
  begins : ∃ c rest, line = c :: rest ∧ Begins c
  reads : ∀ fuel rest, statement (fuel + 2) (line ++ '\n' :: rest) = some (told, '\n' :: rest)

variable {word : List Char}

lemma tells_item (filled : word ≠ []) (bare : ∀ c ∈ word, isBare c = true) :
    Tells ('[' :: '[' :: (word ++ [']', ']'])) (.item [String.ofList word]) := by
  refine ⟨⟨'[', _, rfl, by simp [Begins, isSpace]⟩, fun fuel rest => ?_⟩
  obtain ⟨c, more, rfl⟩ := List.exists_cons_of_ne_nil filled
  have noSpace := (begins_of_isBare (bare c List.mem_cons_self)).2.2.2.2
  have read : key (c :: more ++ ']' :: ']' :: '\n' :: rest)
      = some ([String.ofList (c :: more)], _) :=
    key_of_bare filled bare (by simp [isBare]) (by simp [skipSpace, isSpace])
  have whole : skipSpace (c :: more ++ ']' :: ']' :: '\n' :: rest)
      = c :: more ++ ']' :: ']' :: '\n' :: rest := by
    simp [skipSpace, noSpace]
  have text : '[' :: '[' :: (c :: more ++ [']', ']']) ++ '\n' :: rest
      = '[' :: '[' :: (c :: more ++ ']' :: ']' :: '\n' :: rest) := by simp
  rw [text, statement, whole, read]
  rfl

/-- A bare word that is given a text in double quotes. -/
lemma tells_text {text : List Char} (filled : word ≠ []) (bare : ∀ c ∈ word, isBare c = true)
    (verbatim : ∀ c ∈ text, isVerbatim c = true) :
    Tells (word ++ ' ' :: '=' :: ' ' :: '"' :: (text ++ ['"']))
      (.assign [String.ofList word] (.text (String.ofList text))) := by
  obtain ⟨c, more, rfl⟩ := List.exists_cons_of_ne_nil filled
  have first := bare c List.mem_cons_self
  refine ⟨⟨c, _, rfl, begins_of_isBare first⟩, fun fuel rest => ?_⟩
  have noBracket : c ≠ '[' := ne_of_isBare first rfl
  have read : key (c :: more ++ ' ' :: '=' :: ' ' :: '"' :: (text ++ '"' :: '\n' :: rest))
      = some ([String.ofList (c :: more)], _) :=
    key_of_bare filled bare (by simp [isBare]) (by simp [skipSpace, isSpace])
  have whole : (c :: more ++ ' ' :: '=' :: ' ' :: '"' :: (text ++ ['"'])) ++ '\n' :: rest
      = c :: more ++ ' ' :: '=' :: ' ' :: '"' :: (text ++ '"' :: '\n' :: rest) := by simp
  have assigned : assignment false (fuel + 2) maxDepth
      (c :: more ++ ' ' :: '=' :: ' ' :: '"' :: (text ++ '"' :: '\n' :: rest))
      = some (([String.ofList (c :: more)], .text (String.ofList text)), '\n' :: rest) := by
    rw [assignment, read]
    change (value (fuel + 1) maxDepth ('"' :: (text ++ '"' :: '\n' :: rest))).map _ = _
    rw [value_of_verbatim verbatim]
    rfl
  rw [whole]
  unfold statement
  split
  · next same => exact absurd (List.cons.inj same).1 noBracket
  · next same => exact absurd (List.cons.inj same).1 noBracket
  · rw [assigned]
    rfl

/-! ## Documents -/

section Documents

variable {α : Type} {text : α → List Char} {told : α → Statement}

/-- The lines one below the other. -/
def document (text : α → List Char) (lines : List α) : List Char :=
  lines.flatMap fun line => text line ++ ['\n']

/-- No line is empty, so a document has at least as many characters as lines. -/
lemma length_le_document {lines : List α} : lines.length ≤ (document text lines).length := by
  induction lines with
  | nil => exact Nat.zero_le _
  | cons line rest ih =>
    rw [document, List.flatMap_cons, List.length_append, List.length_append, List.length_cons,
      List.length_singleton]
    have more : rest.length ≤ (rest.flatMap fun line => text line ++ ['\n']).length := ih
    omega

/-- The statements of a document are those of its lines. -/
lemma statements_of_lines {lines : List α} (tells : ∀ line ∈ lines, Tells (text line) (told line))
    (fuel : Nat) :
    statements (fuel + lines.length + 1) (document text lines) = some (lines.map told) := by
  induction lines with
  | nil => rfl
  | cons line rest ih =>
    obtain ⟨first, later⟩ := List.forall_mem_cons.mp tells
    obtain ⟨c, more, begun, begins⟩ := first.begins
    have whole : document text (line :: rest) = text line ++ '\n' :: document text rest := by
      simp [document]
    have read : statement (fuel + rest.length + 1 + 1) (text line ++ '\n' :: document text rest)
        = some (told line, '\n' :: document text rest) := first.reads (fuel + rest.length) _
    have ended : skipLineEnd ('\n' :: document text rest) = some (document text rest) := rfl
    rw [begun, List.cons_append] at whole read
    rw [whole, List.length_cons, ← Nat.add_assoc, statements, begins.skipLines]
    simp only [read, ended, ih later]
    rfl

/-- **A document that is written line by line reads as the table that its statements build.** -/
theorem read_of_lines {lines : List α} (tells : ∀ line ∈ lines, Tells (text line) (told line)) :
    read (String.ofList (document text lines)) = build (lines.map told) := by
  have unmarked : dropMark (document text lines) = document text lines := by
    cases lines with
    | nil => rfl
    | cons line rest =>
      obtain ⟨c, more, begun, noMark, _⟩ := (tells line List.mem_cons_self).begins
      rw [document, List.flatMap_cons, begun]
      unfold dropMark
      split
      · next same => exact absurd (List.cons.inj same).1 noMark
      · rfl
  have enough : (document text lines).length - lines.length + 1 + lines.length + 1
      = (document text lines).length + 2 := by
    have fits : lines.length ≤ (document text lines).length := length_le_document
    omega
  rw [read, String.toList_ofList, unmarked, ← enough, statements_of_lines tells, Option.bind_some]

end Documents

end SourceGen.Toml
