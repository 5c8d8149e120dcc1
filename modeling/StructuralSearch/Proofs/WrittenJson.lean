import Mathlib.Data.List.DropRight
import StructuralSearch.Json.Printer
import StructuralSearch.Json.Reader

/-!
# What is written as JSON is read back

The writer spreads a value over several lines and escapes what may not stand in a string; the reader
skips white space, undoes the escapes and puts surrogates together.  `parse_pretty` says that the one
undoes the other: a value whose strings stand for texts and whose numbers are natural numbers below
the limit is read from its own text, also with white space behind it.

The local fact is `ReadsBack`: whatever follows a written value, the reader stops right behind it.  It
is proved for each kind of value.  The steps that the reader may take are counted in the characters
that are written, two for each of them.
-/

namespace StructuralSearch.Json

/-- A value that can be written without loss: its strings stand for texts, and its numbers are
natural numbers that can be read. -/
inductive Writable : Json → Prop
  | null : Writable null
  | bool (value : Bool) : Writable (bool value)
  | natural {value : Nat} (hvalue : value ≤ naturalLimit) : Writable (natural value)
  | text (content : String) : Writable (text content)
  | array {items : List Json} (hitems : ∀ item ∈ items, Writable item) : Writable (array items)
  | record {members : List (String × Json)} (hmembers : ∀ member ∈ members, Writable member.2) :
      Writable (record members)

/-! ### White space -/

/-- White space in front changes nothing. -/
theorem skipSpace_append {gap : List Char} (hgap : ∀ c ∈ gap, isSpace c) (rest : List Char) :
    skipSpace (gap ++ rest) = skipSpace rest :=
  List.dropWhile_append_of_pos hgap

/-- Where no white space stands, nothing is skipped. -/
theorem skipSpace_cons {c : Char} (hc : isSpace c = false) (rest : List Char) :
    skipSpace (c :: rest) = c :: rest :=
  List.dropWhile_cons_of_neg (by simp [hc])

/-- A new line is white space. -/
theorem isSpace_of_mem_newLine {level : Nat} {c : Char} (h : c ∈ newLine level) : isSpace c := by
  rcases List.mem_cons.mp h with rfl | h
  · rfl
  · obtain rfl := List.eq_of_mem_replicate h
    rfl

/-- A new line is skipped. -/
theorem skipSpace_newLine (level : Nat) (rest : List Char) :
    skipSpace (newLine level ++ rest) = skipSpace rest :=
  skipSpace_append (fun _ => isSpace_of_mem_newLine) rest

/-- Texts that differ in the white space in front are the same value. -/
theorem value?_congr {a b : List Char} (h : skipSpace a = skipSpace b) (fuel : Nat) :
    value? fuel a = value? fuel b := by
  cases fuel with
  | zero => rfl
  | succ fuel => rw [value?, value?, h]

/-- Texts that differ in the white space in front are the same items. -/
theorem items?_congr {a b : List Char} (h : skipSpace a = skipSpace b) (fuel : Nat) :
    items? fuel a = items? fuel b := by
  cases fuel with
  | zero => rfl
  | succ fuel => rw [items?, items?, value?_congr h]

/-- Texts that differ in the white space in front are the same members. -/
theorem memberList?_congr {a b : List Char} (h : skipSpace a = skipSpace b) (fuel : Nat) :
    memberList? fuel a = memberList? fuel b := by
  cases fuel with
  | zero => rfl
  | succ fuel => rw [memberList?, memberList?, h]

/-- White space is skipped at once. -/
theorem skipSpace_skipSpace (rest : List Char) : skipSpace (skipSpace rest) = skipSpace rest :=
  List.dropWhile_idempotent _ rest

/-! ### Strings -/

/-- The code of a control character. -/
theorem hexValue4?_hexDigit : ∀ n < 0x20,
    hexValue4? '0' '0' (hexDigit (n / 16)) (hexDigit (n % 16)) = some n := by
  decide

/-- What stands behind a code unit is read further. -/
theorem stringUnits_cons_of_not_escaped {c : Char} (hquote : c ≠ '"') (hbackslash : c ≠ '\\')
    (hplain : ¬ c.toNat < 0x20) (rest : List Char) :
    stringUnits (c :: rest) =
      (stringUnits rest).map fun read => (c.toNat :: read.1, read.2) := by
  rw [stringUnits.eq_5 c rest hquote (fun _ _ _ _ _ h _ => hbackslash h) fun _ _ h _ => hbackslash h,
    if_neg hplain]
  cases stringUnits rest <;> rfl

/-- A written character is read as its code. -/
theorem stringUnits_stringChar (c : Char) (rest : List Char) :
    stringUnits (stringChar c ++ rest) =
      (stringUnits rest).map fun read => (c.toNat :: read.1, read.2) := by
  have hmap : ∀ unit : Nat,
      ((stringUnits rest).bind fun read => some (unit :: read.1, read.2)) =
        (stringUnits rest).map fun read => (unit :: read.1, read.2) := by
    intro unit
    cases stringUnits rest <;> rfl
  unfold stringChar
  split
  case h_8 hquote hbackslash _ _ _ _ _ =>
    split
    · rename_i hcontrol
      simp only [List.cons_append, List.nil_append]
      rw [stringUnits, hexValue4?_hexDigit c.toNat hcontrol]
      exact hmap c.toNat
    · rename_i hplain
      exact stringUnits_cons_of_not_escaped hquote hbackslash hplain rest
  all_goals exact hmap _

/-- The characters of a written string are read as their codes. -/
theorem stringUnits_flatMap_stringChar (text rest : List Char) :
    stringUnits (text.flatMap stringChar ++ '"' :: rest) = some (text.map Char.toNat, rest) := by
  induction text with
  | nil => rfl
  | cons c text ih =>
      rw [List.flatMap_cons, List.append_assoc, stringUnits_stringChar, ih]
      rfl

/-- No character has the code of a surrogate. -/
theorem not_surrogate (c : Char) : ¬ (0xd800 ≤ c.toNat ∧ c.toNat < 0xe000) := by
  have hvalid : c.toNat < 0xd800 ∨ 0xdfff < c.toNat ∧ c.toNat < 0x110000 := c.valid
  omega

/-- The codes of characters stand for these characters. -/
theorem textOfUnits_map_toNat (text : List Char) : textOfUnits (text.map Char.toNat) = some text := by
  induction text with
  | nil => rfl
  | cons c text ih =>
      have hc := not_surrogate c
      cases text with
      | nil => simp [textOfUnits, hc, Char.ofNat_toNat]
      | cons d text =>
          have hhigh : ¬ (0xd800 ≤ c.toNat ∧ c.toNat < 0xdc00) := by omega
          have hlow : ¬ (0xdc00 ≤ c.toNat ∧ c.toNat < 0xe000) := by omega
          rw [List.map_cons, List.map_cons, textOfUnits, if_neg hhigh, if_neg hlow]
          rw [List.map_cons] at ih
          rw [ih, Char.ofNat_toNat]
          rfl

/-- A written string is read behind its opening quote. -/
theorem stringBody_flatMap_stringChar (text : String) (rest : List Char) :
    stringBody (text.toList.flatMap stringChar ++ '"' :: rest) = some (some text, rest) := by
  simp [stringBody, stringUnits_flatMap_stringChar, textOfUnits_map_toNat]

/-! ### Numbers -/

/-- What may stand behind a value: nothing, a comma or white space. -/
def Stops (rest : List Char) : Prop :=
  ∀ c ∈ rest.head?, c = ',' ∨ isSpace c

/-- Neither a comma nor white space goes on with a number. -/
theorem Stops.ends_number {c : Char} {rest : List Char} (h : Stops (c :: rest)) :
    c.isDigit = false ∧ c ≠ '.' ∧ c ≠ 'e' ∧ c ≠ 'E' := by
  have hc : c = ',' ∨ ((c = ' ' ∨ c = '\n') ∨ c = '\t') ∨ c = '\r' := by
    simpa [isSpace] using h c rfl
  rcases hc with rfl | ((rfl | rfl) | rfl) | rfl <;> decide

/-- Behind white space a value may stop. -/
theorem stops_newLine (level : Nat) (rest : List Char) : Stops (newLine level ++ rest) := by
  rintro c hc
  obtain rfl : '\n' = c := by simpa [newLine] using hc
  exact Or.inr rfl

/-- Behind a comma a value may stop. -/
theorem stops_comma (rest : List Char) : Stops (',' :: rest) := by
  rintro c hc
  obtain rfl : ',' = c := by simpa using hc
  exact Or.inl rfl

/-- Digits are read up to the end of the number. -/
theorem digits?_append {digits rest : List Char} (hdigits : ∀ c ∈ digits, c.isDigit)
    (hne : digits ≠ []) (hrest : Stops rest) : digits? (digits ++ rest) = some (digits, rest) := by
  have hnone : rest.takeWhile Char.isDigit = [] ∧ rest.dropWhile Char.isDigit = rest := by
    cases rest with
    | nil => exact ⟨rfl, rfl⟩
    | cons c rest => simp [hrest.ends_number.1]
  have htake : (digits ++ rest).takeWhile Char.isDigit = digits := by
    rw [List.takeWhile_append_of_pos hdigits, hnone.1, List.append_nil]
  have hdrop : (digits ++ rest).dropWhile Char.isDigit = rest := by
    rw [List.dropWhile_append_of_pos hdigits, hnone.2]
  unfold digits?
  rw [htake, hdrop]
  cases digits with
  | nil => exact absurd rfl hne
  | cons c digits => rfl

/-- The value of the digits of a number is the number. -/
theorem digitsValue_toDigits (n : Nat) : digitsValue (Nat.toDigits 10 n) = n := by
  have h := Nat.ofDigitChars_ten_toDigits (n := n)
  rw [Nat.ofDigitChars_eq_foldl] at h
  simpa only [digitsValue, digitValue, Nat.mul_comm] using h

/-- Only zero is written with a zero in front. -/
theorem eq_zero_of_head?_toDigits {n : Nat} (h : (Nat.toDigits 10 n).head? = some '0') : n = 0 := by
  induction n using Nat.strongRecOn with
  | ind n ih =>
      rw [Nat.toDigits_eq_if (by decide)] at h
      split at h
      · exact Nat.digitChar_eq_zero.mp (Option.some.inj h)
      · rename_i hlarge
        rw [List.head?_append_of_ne_nil _ Nat.toDigits_ne_nil] at h
        have hzero := ih (n / 10) (by omega) h
        omega

/-- A number is written with a digit in front. -/
theorem exists_toDigits_eq_cons (n : Nat) :
    ∃ c digits, Nat.toDigits 10 n = c :: digits ∧ c.isDigit := by
  obtain ⟨c, digits, hdigits⟩ := List.exists_cons_of_ne_nil (Nat.toDigits_ne_nil (b := 10) (n := n))
  have hc : c ∈ Nat.toDigits 10 n := hdigits ▸ List.mem_cons_self
  exact ⟨c, digits, hdigits, Nat.isDigit_of_mem_toDigits (by decide) (by decide) hc⟩

/-- A number that begins with a digit has no sign. -/
theorem numberSign_of_isDigit {c : Char} (hc : c.isDigit) (text : List Char) :
    numberSign (c :: text) = (false, c :: text) := by
  refine numberSign.eq_2 _ fun text heq => ?_
  rw [(List.cons.inj heq).1] at hc
  exact absurd hc (by decide)

/-- The digits of a natural number are read as those before a point. -/
theorem whole?_toDigits (n : Nat) {rest : List Char} (hrest : Stops rest) :
    whole? (Nat.toDigits 10 n ++ rest) = some (Nat.toDigits 10 n, rest) := by
  have hdigits : ∀ c ∈ Nat.toDigits 10 n, c.isDigit := fun c hc =>
    Nat.isDigit_of_mem_toDigits (by decide) (by decide) hc
  rw [whole?, digits?_append hdigits Nat.toDigits_ne_nil hrest]
  refine if_neg fun hzeros => hzeros.2 ?_
  rw [eq_zero_of_head?_toDigits hzeros.1]
  rfl

/-- Where a value stops, there is no point. -/
theorem Stops.fraction? {rest : List Char} (h : Stops rest) : fraction? rest = some ([], rest) := by
  refine fraction?.eq_2 _ fun text heq => ?_
  rw [heq] at h
  exact absurd rfl h.ends_number.2.1

/-- Where a value stops, there is no exponent. -/
theorem Stops.exponent? {rest : List Char} (h : Stops rest) :
    exponent? rest = some ((false, []), rest) := by
  unfold Json.exponent?
  split
  · exact absurd rfl h.ends_number.2.2.1
  · exact absurd rfl h.ends_number.2.2.2
  · rfl

/-- A written natural number is read. -/
theorem number?_toDigits {n : Nat} (hn : n ≤ naturalLimit) {rest : List Char} (hrest : Stops rest) :
    number? (Nat.toDigits 10 n ++ rest) = some (natural n, rest) := by
  have hsign : numberSign (Nat.toDigits 10 n ++ rest) = (false, Nat.toDigits 10 n ++ rest) := by
    obtain ⟨c, digits, hdigits, hc⟩ := exists_toDigits_eq_cons n
    rw [hdigits]
    exact numberSign_of_isDigit hc _
  have hplain : ofLiteral ⟨false, Nat.toDigits 10 n, [], false, []⟩ = natural n := by
    simp [ofLiteral, Literal.isPlain, digitsValue_toDigits, hn]
  simp only [number?, hsign, whole?_toDigits n hrest, hrest.fraction?, hrest.exponent?, hplain,
    Option.bind_eq_bind, Option.bind_some, Option.pure_def]

/-! ### Values -/

/-- Whatever follows a written value, the reader stops right behind it, with two steps for each
character at the most. -/
def ReadsBack (json : Json) : Prop :=
  ∀ level fuel rest, Stops rest → 2 * (chars level json).length < fuel →
    value? fuel (chars level json ++ rest) = some (json, rest)

/-- A text of `null`, a truth value or a text is read in one step. -/
theorem readsBack_of_one_step {json : Json}
    (h : ∀ level fuel rest, value? (fuel + 1) (chars level json ++ rest) = some (json, rest)) :
    ReadsBack json := by
  intro level fuel rest _ hfuel
  obtain ⟨steps, rfl⟩ : ∃ steps, fuel = steps + 1 := ⟨fuel - 1, by omega⟩
  exact h level steps rest

theorem readsBack_null : ReadsBack null :=
  readsBack_of_one_step fun _ _ _ => rfl

theorem readsBack_bool (value : Bool) : ReadsBack (bool value) := by
  refine readsBack_of_one_step fun level fuel rest => ?_
  cases value <;> rfl

/-- A written text is read. -/
theorem readsBack_text (content : String) : ReadsBack (text content) := by
  refine readsBack_of_one_step fun level fuel rest => ?_
  have hbody := stringBody_flatMap_stringChar content rest
  simp only [text, chars, stringChars, Option.getD_some, List.cons_append, List.append_assoc,
    List.nil_append]
  rw [value?, skipSpace_cons rfl]
  simp only [hbody, Option.bind_eq_bind, Option.bind_some, Option.pure_def]

/-- A text that begins with a digit is a number. -/
theorem value?_of_isDigit {c : Char} (hc : c.isDigit) (fuel : Nat) (rest : List Char) :
    value? (fuel + 1) (c :: rest) = number? (c :: rest) := by
  have hspace : isSpace c = false := by
    rw [Bool.eq_false_iff]
    intro hspace
    have hstops : Stops (c :: rest) := by
      rintro d hd
      obtain rfl : c = d := by simpa using hd
      exact Or.inr hspace
    simp [hstops.ends_number.1] at hc
  rw [value?, skipSpace_cons hspace]
  split
  case h_7 => rfl
  all_goals
    rename_i heq
    rw [(List.cons.inj heq).1] at hc
    exact absurd hc (by decide)

/-- A written natural number is read. -/
theorem readsBack_natural {n : Nat} (hn : n ≤ naturalLimit) : ReadsBack (natural n) := by
  intro level fuel rest hrest hfuel
  obtain ⟨steps, rfl⟩ : ∃ steps, fuel = steps + 1 := ⟨fuel - 1, by omega⟩
  have hchars : chars level (natural n) = Nat.toDigits 10 n := Nat.toList_repr
  have hnumber := number?_toDigits hn hrest
  obtain ⟨c, digits, hdigits, hc⟩ := exists_toDigits_eq_cons n
  rw [hdigits, List.cons_append] at hnumber
  rw [hchars, hdigits, List.cons_append, value?_of_isDigit hc, hnumber]

/-! ### Arrays and objects -/

theorem itemChars_eq_map (level : Nat) (items : List Json) :
    itemChars level items = items.map (chars level) := by
  induction items with
  | nil => rfl
  | cons item items ih => simp [itemChars, ih]

/-- The text of a member. -/
def memberText (level : Nat) (member : String × Json) : List Char :=
  stringChars (some member.1) ++ ':' :: ' ' :: chars level member.2

theorem memberChars_eq_map (level : Nat) (members : List (String × Json)) :
    memberChars level (members.map fun member => (some member.1, member.2)) =
      members.map (memberText level) := by
  induction members with
  | nil => rfl
  | cons member members ih => simp [memberChars, memberText, ih]

/-- The first of several entries stands on a line of its own. -/
theorem entryLines_cons_cons (level : Nat) (entry next : List Char) (entries : List (List Char)) :
    entryLines level (entry :: next :: entries) =
      newLine level ++ (entry ++ ',' :: entryLines level (next :: entries)) := by
  simp [entryLines]

/-- Items that are read back one by one are read up to the closing bracket. -/
theorem items?_entryLines {items : List Json} (hitems : ∀ item ∈ items, ReadsBack item)
    (hne : items ≠ []) (level outer : Nat) {fuel : Nat}
    (hfuel : 2 * (entryLines level (items.map (chars level))).length ≤ fuel) (rest : List Char) :
    items? fuel (entryLines level (items.map (chars level)) ++ (newLine outer ++ ']' :: rest)) =
      some (items, rest) := by
  induction items generalizing fuel with
  | nil => exact absurd rfl hne
  | cons item items ih =>
      have hitem := hitems item List.mem_cons_self
      cases items with
      | nil =>
          simp only [List.map_cons, List.map_nil, entryLines, List.length_append] at hfuel ⊢
          have hline : 0 < (newLine level).length := Nat.succ_pos _
          obtain ⟨steps, rfl⟩ : ∃ steps, fuel = steps + 1 := ⟨fuel - 1, by omega⟩
          have hvalue := hitem level steps (newLine outer ++ ']' :: rest) (stops_newLine _ _)
            (by omega)
          have hclosing : skipSpace (newLine outer ++ ']' :: rest) = ']' :: rest :=
            (skipSpace_newLine _ _).trans (skipSpace_cons rfl _)
          rw [items?, List.append_assoc, value?_congr (skipSpace_newLine _ _), hvalue]
          simp only [Option.bind_eq_bind, Option.bind_some, hclosing, Option.pure_def]
      | cons next items =>
          simp only [List.map_cons, entryLines_cons_cons, List.length_append,
            List.length_cons] at hfuel ⊢
          have hline : 0 < (newLine level).length := Nat.succ_pos _
          obtain ⟨steps, rfl⟩ : ∃ steps, fuel = steps + 1 := ⟨fuel - 1, by omega⟩
          have hvalue := hitem level steps
            (',' :: (entryLines level (chars level next :: items.map (chars level)) ++
              (newLine outer ++ ']' :: rest))) (stops_comma _) (by omega)
          have hothers := @ih (fun other hother => hitems other (List.mem_cons_of_mem _ hother))
            (List.cons_ne_nil _ _) steps (by rw [List.map_cons]; omega)
          rw [items?, List.append_assoc, value?_congr (skipSpace_newLine _ _), List.append_assoc,
            List.cons_append, hvalue]
          rw [List.map_cons] at hothers
          simp only [Option.bind_eq_bind, Option.bind_some, skipSpace_cons (c := ',') rfl, hothers,
            Option.pure_def]

/-- What stands behind an opening bracket is an array if it is items. -/
theorem value?_bracket {fuel : Nat} {text rest : List Char} {items : List Json}
    (h : items? fuel text = some (items, rest)) :
    value? (fuel + 1) ('[' :: text) = some (array items, rest) := by
  simp only [value?, skipSpace_cons (c := '[') rfl]
  split
  · rename_i behind heq
    have hsame : skipSpace text = skipSpace (']' :: behind) := by
      rw [heq, skipSpace_cons rfl]
    rw [items?_congr hsame] at h
    cases fuel with
    | zero => cases h
    | succ steps =>
      have hnone : value? steps (']' :: behind) = none := by
        cases steps <;> rfl
      rw [items?, hnone] at h
      cases h
  · rw [items?_congr (skipSpace_skipSpace text), h]
    rfl

/-- The name and the value of a first member are read, up to what stands behind the value. -/
theorem memberList?_memberText {member : String × Json} (hmember : ReadsBack member.2) (level : Nat)
    {steps : Nat} (hsteps : 2 * (memberText level member).length ≤ steps) {rest : List Char}
    (hrest : Stops rest) {text : List Char}
    (htext : skipSpace text = skipSpace (memberText level member ++ rest)) :
    memberList? (steps + 1) text =
      match skipSpace rest with
      | ',' :: rest => do
        let (members, rest) ← memberList? steps rest
        return ((some member.1, member.2) :: members, rest)
      | '\x7d' :: rest => some ([(some member.1, member.2)], rest)
      | _ => none := by
  have hlength : (chars level member.2).length + 2 ≤ (memberText level member).length := by
    simp only [memberText, List.length_append, List.length_cons]
    omega
  have hspace : skipSpace ([' '] ++ (chars level member.2 ++ rest)) =
      skipSpace (chars level member.2 ++ rest) :=
    skipSpace_append (by simp [isSpace]) _
  have hvalue : value? steps (' ' :: (chars level member.2 ++ rest)) =
      some (member.2, rest) :=
    (value?_congr hspace steps).trans (hmember level steps rest hrest (by omega))
  have hname := stringBody_flatMap_stringChar member.1
    (':' :: ' ' :: (chars level member.2 ++ rest))
  have hquoted : memberText level member ++ rest =
      '"' :: (member.1.toList.flatMap stringChar ++
        '"' :: ':' :: ' ' :: (chars level member.2 ++ rest)) := by
    simp [memberText, stringChars]
  rw [memberList?, htext, hquoted, skipSpace_cons rfl]
  simp only [hname, Option.bind_eq_bind, Option.bind_some, skipSpace_cons (c := ':') rfl,
    Option.pure_def]
  rw [hvalue]
  rfl

/-- Members whose values are read back one by one are read up to the closing brace. -/
theorem memberList?_entryLines {members : List (String × Json)}
    (hmembers : ∀ member ∈ members, ReadsBack member.2) (hne : members ≠ []) (level outer : Nat)
    {fuel : Nat} (hfuel : 2 * (entryLines level (members.map (memberText level))).length ≤ fuel)
    (rest : List Char) :
    memberList? fuel
        (entryLines level (members.map (memberText level)) ++ (newLine outer ++ '\x7d' :: rest)) =
      some (members.map fun member => (some member.1, member.2), rest) := by
  induction members generalizing fuel with
  | nil => exact absurd rfl hne
  | cons member members ih =>
      have hmember := hmembers member List.mem_cons_self
      have hline : 0 < (newLine level).length := Nat.succ_pos _
      cases members with
      | nil =>
          simp only [List.map_cons, List.map_nil, entryLines, List.length_append] at hfuel ⊢
          obtain ⟨steps, rfl⟩ : ∃ steps, fuel = steps + 1 := ⟨fuel - 1, by omega⟩
          have hclosing : skipSpace (newLine outer ++ '\x7d' :: rest) = '\x7d' :: rest :=
            (skipSpace_newLine _ _).trans (skipSpace_cons rfl _)
          rw [List.append_assoc, memberList?_memberText hmember level (by omega)
            (stops_newLine outer _) (skipSpace_newLine _ _), hclosing]
          rfl
      | cons next members =>
          simp only [List.map_cons, entryLines_cons_cons, List.length_append,
            List.length_cons] at hfuel ⊢
          obtain ⟨steps, rfl⟩ : ∃ steps, fuel = steps + 1 := ⟨fuel - 1, by omega⟩
          have hothers := @ih (fun other hother => hmembers other (List.mem_cons_of_mem _ hother))
            (List.cons_ne_nil _ _) steps (by rw [List.map_cons]; omega)
          rw [List.map_cons, List.map_cons] at hothers
          rw [List.append_assoc, List.append_assoc, List.cons_append,
            memberList?_memberText hmember level (by omega) (stops_comma _) (skipSpace_newLine _ _)]
          simp only [skipSpace_cons (c := ',') rfl, hothers, Option.bind_eq_bind, Option.bind_some,
            Option.pure_def]

/-- What stands behind an opening brace is an object if it is members. -/
theorem value?_brace {fuel : Nat} {text rest : List Char} {members : List (Option String × Json)}
    (h : memberList? fuel text = some (members, rest)) :
    value? (fuel + 1) ('\x7b' :: text) = some (object members, rest) := by
  simp only [value?, skipSpace_cons (c := '\x7b') rfl]
  split
  · rename_i behind heq
    have hsame : skipSpace text = skipSpace ('\x7d' :: behind) := by
      rw [heq, skipSpace_cons rfl]
    rw [memberList?_congr hsame] at h
    cases fuel <;> cases h
  · rw [memberList?_congr (skipSpace_skipSpace text), h]
    rfl

/-- An array is read back if its items are. -/
theorem readsBack_array {items : List Json} (hitems : ∀ item ∈ items, ReadsBack item) :
    ReadsBack (array items) := by
  intro level fuel rest hrest hfuel
  obtain ⟨steps, rfl⟩ : ∃ steps, fuel = steps + 1 := ⟨fuel - 1, by omega⟩
  rw [chars, itemChars_eq_map, enclosed] at hfuel ⊢
  by_cases hnone : items = []
  · subst hnone
    rfl
  · rw [if_neg (by simpa using hnone)] at hfuel ⊢
    simp only [List.cons_append, List.append_assoc, List.length_cons, List.length_append,
      List.nil_append] at hfuel ⊢
    exact value?_bracket (items?_entryLines hitems hnone _ _ (by omega) rest)

/-- A record is read back if the values of its members are. -/
theorem readsBack_record {members : List (String × Json)}
    (hmembers : ∀ member ∈ members, ReadsBack member.2) : ReadsBack (record members) := by
  intro level fuel rest hrest hfuel
  obtain ⟨steps, rfl⟩ : ∃ steps, fuel = steps + 1 := ⟨fuel - 1, by omega⟩
  rw [record, chars, memberChars_eq_map, enclosed] at hfuel ⊢
  by_cases hnone : members = []
  · subst hnone
    rfl
  · rw [if_neg (by simpa using hnone)] at hfuel ⊢
    simp only [List.cons_append, List.append_assoc, List.length_cons, List.length_append,
      List.nil_append] at hfuel ⊢
    exact value?_brace (memberList?_entryLines hmembers hnone _ _ (by omega) rest)

/-- What can be written without loss is read back. -/
theorem Writable.readsBack {json : Json} (h : Writable json) : ReadsBack json := by
  induction h with
  | null => exact readsBack_null
  | bool value => exact readsBack_bool value
  | natural hvalue => exact readsBack_natural hvalue
  | text content => exact readsBack_text content
  | array _ ih => exact readsBack_array ih
  | record _ ih => exact readsBack_record ih

/-- **Writing loses nothing.**  The text of a value is read as this value, also if white space stands
behind it. -/
theorem parse_pretty {json : Json} (h : Writable json) {gap : String}
    (hgap : ∀ c ∈ gap.toList, isSpace c) : parse (json.pretty ++ gap) = some json := by
  have hchars : (json.pretty ++ gap).toList = chars 0 json ++ gap.toList := by
    simp [pretty]
  have hstops : Stops gap.toList := fun c hc => Or.inr (hgap c (List.mem_of_mem_head? hc))
  have hvalue := h.readsBack 0 (2 * (chars 0 json ++ gap.toList).length + 2) gap.toList hstops
    (by rw [List.length_append]; omega)
  have hnothing : skipSpace gap.toList = [] := List.dropWhile_eq_nil_iff.mpr hgap
  simp only [parse, hchars, hvalue, Option.bind_eq_bind, Option.bind_some, hnothing,
    List.isEmpty_nil, if_true]

end StructuralSearch.Json
