import StructuralSearch.Regex.Expression
import StructuralSearch.Search.TextPattern

/-!
# The expressions of text patterns

The source of a text pattern is a regular expression that is read without fail, whatever the literals
spell: an operator stands behind a backslash, and any other character is read as itself.

The key local fact is that the parts of a written token are read in front of any rest
(`Token.parts?_source_append`).  A token with its repetition is not changed by what follows it, since no
token begins with a sign.  So a pattern is written as what its tokens mean
(`TextPattern.read?_source`).
-/

namespace StructuralSearch

open Expression

namespace Token

/-- The items that a token is written as. -/
def items : Token → List Item
  | literal c => [.once [.char c]]
  | blanks => [.once [.blank], .repeated [.blank] true]
  | word => [.repeated [.word, .char '$'] true]
  | anything => [.repeated [.blank, .nonBlank] false]

/-- The parts that are read of a token. -/
def parts : Token → List Part
  | literal c => [.set [.char c]]
  | blanks => [.set [.blank], .sign '+']
  | word => [.set [.word, .char '$'], .sign '*']
  | anything => [.set [.blank, .nonBlank], .sign '*', .sign '?']

theorem source_literal (c : Char) : (literal c).source = Regex.escape c :=
  rfl

theorem source_blanks : blanks.source = ['\\', 's', '+'] := by
  decide +kernel

theorem source_word : word.source = ['[', '\\', 'w', '$', ']', '*'] := by
  decide +kernel

theorem source_anything :
    anything.source = ['[', '\\', 's', '\\', 'S', ']', '*', '?'] := by
  decide +kernel

/-! ### Reading the parts -/

/-- Behind a backslash an operator stands for itself. -/
theorem escaped?_of_contains {c : Char} (h : Regex.operators.contains c = true) :
    escaped? c = some (.char c) := by
  have hletters : ∀ d ∈ ['s', 'S', 'w', 'W'], Regex.operators.contains d = false := by
    simp [Regex.operators]
  have hne : ∀ d ∈ ['s', 'S', 'w', 'W'], c ≠ d := by
    rintro d hd rfl
    rw [hletters c hd] at h
    cases h
  rw [escaped?, if_neg (hne 's' (by decide)), if_neg (hne 'S' (by decide)),
    if_neg (hne 'w' (by decide)), if_neg (hne 'W' (by decide)), if_pos h]

/-- An operator behind a backslash is read as itself. -/
theorem parts?_escape_of_contains {c : Char} (h : Regex.operators.contains c = true)
    (rest : List Char) :
    parts? none ('\\' :: c :: rest) = (parts? none rest).map (.set [.char c] :: ·) := by
  rw [parts?, escaped?_of_contains h]
  rfl

/-- A character that is no operator is read as itself. -/
theorem parts?_of_not_contains {c : Char} (h : Regex.operators.contains c = false)
    (rest : List Char) :
    parts? none (c :: rest) = (parts? none rest).map (.set [.char c] :: ·) := by
  have hsigns : ∀ d ∈ ['\\', '[', '*', '+', '?'], Regex.operators.contains d = true := by
    simp [Regex.operators]
  have hne : ∀ d ∈ ['\\', '[', '*', '+', '?'], c ≠ d := by
    rintro d hd rfl
    rw [hsigns c hd] at h
    cases h
  have hsign : ['*', '+', '?'].contains c = false := by
    simp [hne]
  have hbackslash : ∀ d text, c = '\\' → rest = d :: text → False :=
    fun d text hc _ => hne '\\' (by decide) hc
  rw [parts?]
  · rw [if_neg (hne '[' (by decide)), hsign, h]
    rfl
  · exact hbackslash

/-- The signs of repetition are read as they stand. -/
theorem parts?_sign {c : Char} (h : c ∈ ['*', '+', '?']) (rest : List Char) :
    parts? none (c :: rest) = (parts? none rest).map (.sign c :: ·) := by
  revert c
  simp only [List.forall_mem_cons, List.not_mem_nil, false_implies, implies_true, and_true]
  exact ⟨rfl, rfl, rfl⟩

/-- **A written token is read**, whatever follows it. -/
theorem parts?_source_append (token : Token) (rest : List Char) :
    parts? none (token.source ++ rest) = (parts? none rest).map (token.parts ++ ·) := by
  cases token with
  | blanks =>
      have hset : parts? none ('\\' :: 's' :: '+' :: rest) =
          (parts? none ('+' :: rest)).map (.set [.blank] :: ·) := rfl
      rw [source_blanks, List.cons_append, List.cons_append, List.cons_append, List.nil_append,
        hset, parts?_sign (by decide), Option.map_map]
      rfl
  | word =>
      have hset : parts? none ('[' :: '\\' :: 'w' :: '$' :: ']' :: '*' :: rest) =
          (parts? none ('*' :: rest)).map (.set [.word, .char '$'] :: ·) := rfl
      rw [source_word]
      simp only [List.cons_append, List.nil_append, hset]
      rw [parts?_sign (by decide), Option.map_map]
      rfl
  | anything =>
      have hset : parts? none ('[' :: '\\' :: 's' :: '\\' :: 'S' :: ']' :: '*' :: '?' :: rest) =
          (parts? none ('*' :: '?' :: rest)).map (.set [.blank, .nonBlank] :: ·) := rfl
      rw [source_anything]
      simp only [List.cons_append, List.nil_append, hset]
      rw [parts?_sign (by decide), parts?_sign (by decide), Option.map_map, Option.map_map]
      rfl
  | literal c =>
      rw [source_literal, Regex.escape]
      cases hc : Regex.operators.contains c with
      | true =>
          rw [if_pos rfl]
          exact parts?_escape_of_contains hc rest
      | false =>
          rw [if_neg Bool.false_ne_true]
          exact parts?_of_not_contains hc rest

/-- Tokens that were written one after the other are read as their parts. -/
theorem parts?_flatMap_source (tokens : List Token) :
    parts? none (tokens.flatMap source) = some (tokens.flatMap parts) := by
  induction tokens with
  | nil => rfl
  | cons token tokens ih =>
      rw [List.flatMap_cons, parts?_source_append, ih, Option.map_some, List.flatMap_cons]

/-! ### Reading the items -/

/-- No token begins with a sign. -/
theorem exists_set_of_flatMap_parts (tokens : List Token) :
    tokens.flatMap parts = [] ∨ ∃ set rest, tokens.flatMap parts = .set set :: rest := by
  cases tokens with
  | nil => exact Or.inl rfl
  | cons token tokens => cases token <;> exact Or.inr ⟨_, _, rfl⟩

/-- The items of a token are read in front of parts that begin with no sign. -/
theorem items?_parts_append (token : Token) {rest : List Part}
    (h : rest = [] ∨ ∃ set more, rest = .set set :: more) :
    items? (token.parts ++ rest) = (items? rest).map (token.items ++ ·) := by
  rcases h with rfl | ⟨set, more, rfl⟩
  · cases token <;> rfl
  · cases token <;> rfl

/-- The parts of tokens are read as their items. -/
theorem items?_flatMap_parts (tokens : List Token) :
    items? (tokens.flatMap parts) = some (tokens.flatMap items) := by
  induction tokens with
  | nil => rfl
  | cons token tokens ih =>
      rw [List.flatMap_cons, items?_parts_append token (exists_set_of_flatMap_parts tokens), ih,
        Option.map_some, List.flatMap_cons]

/-- No token is written with a parenthesis in front. -/
theorem head?_flatMap_source (tokens : List Token) : (tokens.flatMap source).head? ≠ some '(' := by
  cases tokens with
  | nil => nofun
  | cons token tokens =>
      rw [List.flatMap_cons]
      cases token with
      | blanks => simp [source_blanks]
      | word => simp [source_word]
      | anything => simp [source_anything]
      | literal c =>
          rw [source_literal, Regex.escape]
          split
          · simp
          · rename_i hc
            intro hhead
            obtain rfl : c = '(' := Option.some.inj hhead
            exact hc (by decide)

end Token

namespace TextPattern

/-- The expression that a pattern is written as. -/
def expression (pattern : TextPattern) : Expression :=
  ⟨pattern.caseInsensitive, pattern.tokens.flatMap Token.items⟩

/-- The characters of a source: the flag and then the tokens. -/
theorem toList_source (pattern : TextPattern) : pattern.source.toList =
    (if pattern.caseInsensitive then ['(', '?', 'i', ')'] else []) ++
      pattern.tokens.flatMap Token.source := by
  rw [source, String.toList_append, String.toList_ofList]
  split <;> rfl

/-- **Sources are read.**  The source of a pattern is read as its expression. -/
theorem read?_source (pattern : TextPattern) :
    Expression.read? pattern.source = some pattern.expression := by
  have hbody : (parts? none (pattern.tokens.flatMap Token.source)).bind items? =
      some (pattern.tokens.flatMap Token.items) := by
    rw [Token.parts?_flatMap_source, Option.bind_some, Token.items?_flatMap_parts]
  obtain ⟨caseInsensitive, tokens⟩ := pattern
  rw [read?, toList_source]
  cases caseInsensitive with
  | true =>
      change ((parts? none (tokens.flatMap Token.source)).bind items?).map _ = _
      rw [hbody]
      rfl
  | false =>
      have hhead := Token.head?_flatMap_source tokens
      rw [if_neg Bool.false_ne_true, List.nil_append]
      split
      rename_i read text hread
      split at hread
      · rename_i rest hrest
        rw [hrest] at hhead
        exact absurd rfl hhead
      · obtain ⟨rfl, rfl⟩ := Prod.mk.inj hread
        rw [hbody]
        rfl

end TextPattern

end StructuralSearch
