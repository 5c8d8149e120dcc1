import StructuralSearch.Proofs.TextOccurrences

/-!
# Patterns read back from their sources

A pattern is written as a regular expression token by token, with nothing between the tokens.  Still
it can be read back, whatever its literals spell.  The written form of a token tells where it ends: an
operator follows a backslash, any other character stands alone, white space is a backslash with a
letter, which is no operator, and the two classes begin with a bracket, which no literal does.

The key local fact is that the reader takes off a written token in front of any rest
(`Token.first?_source_append`).  From it the whole source reads back as the pattern
(`TextPattern.ofSource?_source`), the flag included, because no token is written with a parenthesis in
front.

The tokens of a pattern are finer than the runs of its query.  Since a literal meets no literal, the
tokens can be put together to the meanings of the runs again (`Run.Cuts.meanings_tokens`).  So the
source tells what the query asks for (`TextPattern.sources_tell_queries`).
-/

namespace StructuralSearch

open Text

/-! ### Reading a source -/

namespace Token

/-- The token that is written at the front of a regular expression. -/
def first? : List Char → Option Token
  | [] => none
  | c :: rest =>
    if blanks.source.isPrefixOf (c :: rest) then some blanks
    else if word.source.isPrefixOf (c :: rest) then some word
    else if anything.source.isPrefixOf (c :: rest) then some anything
    else if c = '\\' then (rest.head?.filter Regex.operators.contains).map literal
    else if Regex.operators.contains c then none
    else some (literal c)

/-- Reads a regular expression as tokens.  Its first `skip` characters belong to a token that was read
before. -/
def readFrom? : Nat → List Char → Option (List Token)
  | 0, [] => some []
  | _ + 1, [] => none
  | skip + 1, _ :: rest => readFrom? skip rest
  | 0, c :: rest => do
    let token ← first? (c :: rest)
    return token :: (← readFrom? (token.source.length - 1) rest)

/-- **A written token is told by what it begins with**, whatever follows it. -/
theorem first?_source_append (token : Token) (rest : List Char) :
    first? (token.source ++ rest) = some token := by
  cases token with
  | blanks => simp [first?, source_blanks]
  | word => simp [first?, source_blanks, source_word]
  | anything => simp [first?, source_blanks, source_word, source_anything]
  | literal c =>
      rw [source_literal, Regex.escape]
      split
      · rename_i hc
        have hletter : c ≠ 's' := by
          rintro rfl
          exact absurd hc (by decide)
        simpa [first?, source_blanks, source_word, source_anything, hletter.symm] using hc
      · rename_i hc
        have hbackslash : c ≠ '\\' := by
          rintro rfl
          exact hc (by decide)
        have hbracket : c ≠ '[' := by
          rintro rfl
          exact hc (by decide)
        simpa [first?, source_blanks, source_word, source_anything, hbackslash, hbackslash.symm,
          hbracket.symm] using hc

/-- What is to be skipped is skipped. -/
theorem readFrom?_length_append (front rest : List Char) :
    readFrom? front.length (front ++ rest) = readFrom? 0 rest := by
  induction front with
  | nil => rfl
  | cons c front ih => exact ih

/-- No token is written with nothing. -/
theorem source_ne_nil (token : Token) : token.source ≠ [] := by
  cases token with
  | literal c =>
      rw [source_literal, Regex.escape]
      split <;> exact List.cons_ne_nil _ _
  | blanks => simp [source_blanks]
  | word => simp [source_word]
  | anything => simp [source_anything]

/-- Tokens that were written one after the other are read back. -/
theorem readFrom?_flatMap_source (tokens : List Token) :
    readFrom? 0 (tokens.flatMap source) = some tokens := by
  induction tokens with
  | nil => rfl
  | cons token tokens ih =>
      obtain ⟨c, others, hsource⟩ := List.exists_cons_of_ne_nil token.source_ne_nil
      have hfirst := token.first?_source_append (tokens.flatMap source)
      have hskip := readFrom?_length_append others (tokens.flatMap source)
      rw [hsource, List.cons_append] at hfirst
      rw [List.flatMap_cons, hsource, List.cons_append, readFrom?, hfirst]
      simp [hsource, hskip, ih]

end Token

namespace TextPattern

/-- Reads a regular expression as a pattern. -/
def ofSource? (source : String) : Option TextPattern :=
  match source.toList with
  | '(' :: '?' :: 'i' :: ')' :: rest => (Token.readFrom? 0 rest).map (⟨true, ·⟩)
  | text => (Token.readFrom? 0 text).map (⟨false, ·⟩)

/-- **Sources can be read back.**  The source of a pattern is read as the pattern. -/
theorem ofSource?_source (pattern : TextPattern) : ofSource? pattern.source = some pattern := by
  obtain ⟨caseInsensitive, tokens⟩ := pattern
  rw [ofSource?, toList_source]
  cases caseInsensitive with
  | true =>
      rw [if_pos rfl]
      simp only [List.cons_append, List.nil_append, Token.readFrom?_flatMap_source, Option.map_some]
  | false =>
      have hhead := Token.head?_flatMap_source tokens
      rw [if_neg Bool.false_ne_true, List.nil_append]
      split
      · rename_i rest hrest
        rw [hrest] at hhead
        exact absurd rfl hhead
      · rw [Token.readFrom?_flatMap_source, Option.map_some]

/-- Patterns of one source are the same. -/
theorem source_inj {a b : TextPattern} : a.source = b.source ↔ a = b := by
  constructor
  · intro h
    exact Option.some.inj (by rw [← ofSource?_source a, h, ofSource?_source])
  · rintro rfl
    rfl

end TextPattern

/-! ### From tokens to what the runs mean -/

/-- What a run of a text query asks for.  How much white space there is makes no difference, and
neither does whether `$$` or `$$$` asks for any text. -/
inductive Meaning
  | literal (text : List Char)
  | blanks
  | word
  | anything
  deriving DecidableEq, Repr

/-- What a run asks for. -/
def Run.meaning : Run → Meaning
  | plain false text => .literal text
  | plain true _ => .blanks
  | marker .identifier => .word
  | marker _ => .anything

namespace Meaning

/-- A character in front, which becomes a part of the literal there or a literal of its own. -/
def consLiteral (c : Char) : List Meaning → List Meaning
  | .literal text :: meanings => .literal (c :: text) :: meanings
  | meanings => .literal [c] :: meanings

/-- What tokens ask for together. -/
def ofTokens : List Token → List Meaning
  | [] => []
  | .literal c :: tokens => consLiteral c (ofTokens tokens)
  | .blanks :: tokens => .blanks :: ofTokens tokens
  | .word :: tokens => .word :: ofTokens tokens
  | .anything :: tokens => .anything :: ofTokens tokens

/-- The tokens that ask for it. -/
def tokens : Meaning → List Token
  | literal text => text.map .literal
  | blanks => [.blanks]
  | word => [.word]
  | anything => [.anything]

/-- The characters of a literal are put together again, if no literal follows. -/
theorem ofTokens_literal {text : List Char} (hne : text ≠ []) {tokens : List Token}
    (hstops : ∀ other meanings, ofTokens tokens ≠ .literal other :: meanings) :
    ofTokens (text.map .literal ++ tokens) = .literal text :: ofTokens tokens := by
  induction text with
  | nil => exact absurd rfl hne
  | cons c text ih =>
      rw [List.map_cons, List.cons_append, ofTokens]
      cases text with
      | nil =>
          rw [List.map_nil, List.nil_append, consLiteral]
          exact hstops
      | cons d text =>
          rw [ih (List.cons_ne_nil d text)]
          rfl

end Meaning

/-- The tokens of a run are those that ask for what it means. -/
theorem Run.tokens_meaning (run : Run) : run.meaning.tokens = run.tokens := by
  cases run with
  | marker m => cases m <;> rfl
  | plain blank text => cases blank <;> rfl

/-- The tokens of a run with tokens behind it that do not begin with a literal, or do not do so
behind a literal, ask for what the run asks for and then for the rest. -/
theorem Run.ofTokens_tokens_append {run : Run} (hproper : run.Proper) {tokens : List Token}
    (hstops : ∀ text, run = .plain false text →
      ∀ other meanings, Meaning.ofTokens tokens ≠ .literal other :: meanings) :
    Meaning.ofTokens (run.tokens ++ tokens) = run.meaning :: Meaning.ofTokens tokens := by
  cases run with
  | marker m => cases m <;> rfl
  | plain blank text =>
      cases blank with
      | true => rfl
      | false => exact Meaning.ofTokens_literal hproper.1 (hstops text rfl)

/-- **Tokens tell what the runs ask for.**  A literal of a query ends where a run of another sort
begins, so its characters are told from those of the next one. -/
theorem Run.Cuts.meanings_tokens {runs : List Run} {text : List Char} (h : Cuts runs text) :
    Meaning.ofTokens (runs.flatMap tokens) = runs.map meaning := by
  induction runs generalizing text with
  | nil => rfl
  | cons run runs ih =>
      obtain ⟨later, -, hlater⟩ := h.tail
      have hrest := ih hlater
      rw [List.flatMap_cons, List.map_cons, ← hrest]
      refine Run.ofTokens_tokens_append (h.proper run List.mem_cons_self) ?_
      rintro written rfl other meanings hother
      rw [hrest] at hother
      obtain ⟨next, others, rfl, hnext, -⟩ := List.map_eq_cons_iff.mp hother
      have hmeets := (List.isChain_cons_cons.mp h.apart).1
      cases next with
      | marker m => cases m <;> cases hnext
      | plain blank text =>
          cases blank with
          | true => cases hnext
          | false => exact hmeets rfl

namespace TextPattern

/-- A query that is read as a pattern is read as the tokens of its runs. -/
theorem eq_of_parse {query : String} {caseInsensitive : Bool} {pattern : TextPattern}
    (hpattern : parse query caseInsensitive = .ok pattern) {runs : List Run}
    (hruns : Run.Cuts runs (trim query).toList) :
    pattern = ⟨caseInsensitive, runs.flatMap Run.tokens⟩ := by
  rw [parse_eq hruns] at hpattern
  split at hpattern
  · cases hpattern
  · exact (Except.ok.inj hpattern).symm

/-- **Sources tell queries.**  The source of the pattern of a query can be read back as the case flag
and what the runs of the query ask for.  So the patterns of two queries have the same source exactly if
the flags are the same and the runs of the one ask for what those of the other ask for. -/
theorem sources_tell_queries {query query' : String} {caseInsensitive caseInsensitive' : Bool}
    {pattern pattern' : TextPattern} (hpattern : parse query caseInsensitive = .ok pattern)
    (hpattern' : parse query' caseInsensitive' = .ok pattern') {runs runs' : List Run}
    (hruns : Run.Cuts runs (trim query).toList) (hruns' : Run.Cuts runs' (trim query').toList) :
    (ofSource? pattern.source).map
        (fun read => (read.caseInsensitive, Meaning.ofTokens read.tokens)) =
      some (caseInsensitive, runs.map Run.meaning) ∧
    (pattern.source = pattern'.source ↔
      caseInsensitive = caseInsensitive' ∧ runs.map Run.meaning = runs'.map Run.meaning) := by
  obtain rfl := eq_of_parse hpattern hruns
  obtain rfl := eq_of_parse hpattern' hruns'
  refine ⟨?back, ?same⟩
  case back => rw [ofSource?_source, Option.map_some, hruns.meanings_tokens]
  case same =>
    rw [source_inj, mk.injEq]
    refine and_congr_right fun _ => ⟨fun htokens => ?_, fun hmeanings => ?_⟩
    · rw [← hruns.meanings_tokens, htokens, hruns'.meanings_tokens]
    · have htokens : ∀ runs : List Run,
          runs.flatMap Run.tokens = (runs.map Run.meaning).flatMap Meaning.tokens := by
        intro runs
        simp only [List.flatMap_map, Run.tokens_meaning]
      rw [htokens, hmeanings, htokens]

/-- The `\s+` of the query `\s+( $$ )` is read back as a literal.  Its white space is not told from other
white space, nor its `$$` from `$$$`. -/
theorem brackets_tell_queries :
    let query := "\\s+( $$ )"
    let query' := " \\s+(\n$$$\t)"
    ∃ pattern pattern', parse query true = .ok pattern ∧ parse query' true = .ok pattern' ∧
      pattern.source = pattern'.source ∧
      (ofSource? pattern.source).map
          (fun read => (read.caseInsensitive, Meaning.ofTokens read.tokens)) =
        some (true, [.literal "\\s+(".toList, .blanks, .anything, .blanks, .literal [')']]) := by
  intro query query'
  have hruns : Run.Cuts [.plain false "\\s+(".toList, .plain true [' '], .marker .node,
      .plain true [' '], .plain false [')']] (trim query).toList := by decide +kernel
  have hruns' : Run.Cuts [.plain false "\\s+(".toList, .plain true ['\n'], .marker .rest,
      .plain true ['\t'], .plain false [')']] (trim query').toList := by decide +kernel
  have hpattern := parse_eq hruns true
  have hpattern' := parse_eq hruns' true
  rw [if_neg (by decide +kernel)] at hpattern hpattern'
  obtain ⟨hback, hsame⟩ := sources_tell_queries hpattern hpattern' hruns hruns'
  exact ⟨_, _, hpattern, hpattern', hsame.mpr ⟨rfl, rfl⟩, hback⟩

end TextPattern

end StructuralSearch
