import JoinLatency.Database.Token
import JoinLatency.Proofs.Variant.Token

/-! Lexing of plain statements. A text without quotes, comments and operators has its statements
between the semicolons: no token reaches over one, so that what follows a semicolon is read as if
nothing stood before it.
-/

namespace JoinLatency.Database

-----------------------------------------------------------------------------------------
-- Plain texts
-----------------------------------------------------------------------------------------

/-- The characters of names and numbers, marks that stand alone, and blanks. -/
def isPlain (c : Char) : Bool :=
  isTokenChar c || ['*', '(', ')', ' ', '\n'].contains c

/-- A text of plain characters, in which no statement ends. -/
def Plain (text : List Char) : Prop :=
  ∀ c ∈ text, isPlain c = true

instance (text : List Char) : Decidable (Plain text) :=
  decidable_of_iff (text.all isPlain = true) List.all_eq_true

theorem Plain.append {text more : List Char} (h : Plain text) (later : Plain more)
    : Plain (text ++ more) := by
  intro c member
  rcases List.mem_append.mp member with here | there
  · exact h c here
  · exact later c there

theorem plain_append {text more : String} (h : Plain text.toList) (later : Plain more.toList)
    : Plain (text ++ more).toList := by
  rw [String.toList_append]
  exact h.append later

theorem Plain.tail {c : Char} {rest : List Char} (h : Plain (c :: rest)) : Plain rest :=
  fun other member => h other (List.mem_cons_of_mem c member)

theorem Plain.drop {text : List Char} (h : Plain text) (n : Nat) : Plain (text.drop n) :=
  fun c member => h c (List.mem_of_mem_drop member)

theorem plain_of_isTokenChar {text : List Char} (h : ∀ c ∈ text, isTokenChar c = true)
    : Plain text := by
  intro c member
  simp [isPlain, h c member]

-----------------------------------------------------------------------------------------
-- Tokens up to the end of a statement
-----------------------------------------------------------------------------------------

/-- The tokens of a text in which no statement ends; none if something in it is illegal. -/
def tokens? (text : List Char) : Option (List Token) :=
  match text with
  | [] => some []
  | c :: rest =>
      match lexOne c rest with
      | none => none
      | some (token, n) => (tokens? (rest.drop n)).map (token.toList ++ ·)
termination_by text.length
decreasing_by simp only [List.length_cons, List.length_drop]; omega

/-- The statement that some tokens are, unless there are none. -/
def finished (tokens : List Token) : List (Option (List Token)) :=
  if tokens.isEmpty then [] else [some tokens]

/-- What stands before a semicolon is taken as if the text ended there. -/
theorem takeWhile_stop {p : Char → Bool} (h : p ';' = false) (text more : List Char)
    : (text ++ ';' :: more).takeWhile p = text.takeWhile p := by
  induction text with
  | nil => simp [h]
  | cons c rest ih => simp only [List.cons_append, List.takeWhile_cons, ih]

theorem dropWhile_stop {p : Char → Bool} (h : p ';' = false) (text more : List Char)
    : (text ++ ';' :: more).dropWhile p = text.dropWhile p ++ ';' :: more := by
  induction text with
  | nil => simp [h]
  | cons c rest ih =>
      simp only [List.cons_append, List.dropWhile_cons, ih]
      split <;> rfl

theorem head?_stop {p : Char → Bool} (h : p ';' = false) (text more : List Char)
    : ((text ++ ';' :: more).head?.map p).getD false = (text.head?.map p).getD false := by
  cases text with
  | nil => simp [h]
  | cons c rest => rfl

theorem afterExponent_stop (text more : List Char)
    : Sql.afterExponent (text ++ ';' :: more) = Sql.afterExponent text ++ ';' :: more := by
  match text with
  | [] =>
      match more with
      | [] | [_] => rfl
      | _ :: _ :: _ => simp [Sql.afterExponent]
  | [e] => cases more <;> simp [Sql.afterExponent]
  | [e, d] =>
      by_cases exponent : e = 'e' ∨ e = 'E'
      · by_cases digit : d.isDigit = true <;> simp [Sql.afterExponent, exponent, digit]
      · simp [Sql.afterExponent, exponent]
  | e :: s :: d :: rest =>
      simp only [List.cons_append, Sql.afterExponent]
      split
      · split
        · exact dropWhile_stop (by decide) (d :: rest) more
        · split
          · exact dropWhile_stop (by decide) rest more
          · rfl
      · rfl

/-- What follows the digits of a number and those behind its point. -/
def afterFraction (text : List Char) : List Char :=
  match text.dropWhile Char.isDigit with
  | '.' :: rest => rest.dropWhile Char.isDigit
  | rest => rest

theorem afterFraction_stop (text more : List Char)
    : afterFraction (text ++ ';' :: more) = afterFraction text ++ ';' :: more := by
  have whole := dropWhile_stop (p := Char.isDigit) (by decide) text more
  rw [afterFraction, afterFraction, whole]
  match text.dropWhile Char.isDigit with
  | [] => rfl
  | c :: rest =>
      by_cases point : c = '.'
      · subst point
        exact dropWhile_stop (by decide) rest more
      · simp [point]

theorem numberStart_eq (text : List Char)
    : numberStart text
      = text.take (text.length - (Sql.afterExponent (afterFraction text)).length) := rfl

theorem numberStart_stop (text more : List Char)
    : numberStart (text ++ ';' :: more) = numberStart text := by
  rw [numberStart_eq, numberStart_eq, afterFraction_stop, afterExponent_stop]
  simp only [List.length_append, List.length_cons, Nat.add_sub_add_right]
  exact List.take_append_of_le_length (Nat.sub_le _ _)

theorem length_numberStart_le (text : List Char) : (numberStart text).length ≤ text.length := by
  rw [numberStart_eq]
  exact List.length_take_le' _ _

-----------------------------------------------------------------------------------------
-- One token
-----------------------------------------------------------------------------------------

/-- A token reaches no further than the text behind its first character, and ends no statement. -/
def Within (rest : List Char) : Option (Option Token × Nat) → Prop
  | none => True
  | some (token, n) => n ≤ rest.length ∧ token ≠ some (.symbol ";")

theorem lexNumber_stop (c : Char) (rest more : List Char)
    : lexNumber (c :: rest ++ ';' :: more) = lexNumber (c :: rest)
      ∧ Within rest (lexNumber (c :: rest)) := by
  have bound := length_numberStart_le (c :: rest)
  constructor
  · simp only [lexNumber, numberStart_stop, List.drop_append_of_le_length bound,
      head?_stop (p := isWordRest) (by decide)]
  · rw [lexNumber]
    split
    · trivial
    · simp only [List.length_cons] at bound
      exact ⟨by omega, by simp⟩

theorem lexSymbol_stop {c : Char} (plain : isPlain c = true) (rest more : List Char)
    : lexSymbol c (rest ++ ';' :: more) = lexSymbol c rest ∧ Within rest (lexSymbol c rest) := by
  have mark : c ≠ ';' := by
    rintro rfl
    cases plain
  have lone : pairs.contains [c, ';'] = false := by simp [pairs]
  have single : Token.symbol (String.singleton c) ≠ .symbol ";" := by
    intro same
    have chars := congrArg String.toList (Token.symbol.inj same)
    exact mark (by simpa using chars)
  cases rest with
  | nil =>
      constructor
      · simp only [lexSymbol, List.nil_append, lone]
        rfl
      · simp only [lexSymbol]
        split
        · exact ⟨Nat.le_refl 0, by simpa using single⟩
        · trivial
  | cons d rest =>
      constructor
      · rfl
      · simp only [lexSymbol]
        split
        · refine ⟨by simp, ?_⟩
          intro same
          have chars := congrArg String.toList (Token.symbol.inj (Option.some.inj same))
          simp at chars
        · split
          · exact ⟨Nat.zero_le _, by simpa using single⟩
          · trivial

/-- A plain character opens neither a quote nor a comment. -/
theorem lexOne_of_plain {c : Char} (plain : isPlain c = true) (rest : List Char)
    : lexOne c rest
      = if isSpace c then some (none, 0)
        else if isWordStart c then
          some (some (.word (String.ofList (c :: rest.takeWhile isWordRest))),
            (rest.takeWhile isWordRest).length)
        else if c.isDigit || (c == '.' && (rest.head?.map Char.isDigit).getD false) then
          lexNumber (c :: rest)
        else lexSymbol c rest := by
  have other {d : Char} (foreign : isPlain d = false) : c ≠ d := by
    rintro rfl
    rw [foreign] at plain
    cases plain
  rw [lexOne]
  · exact other (by decide)
  · exact other (by decide)
  · exact other (by decide)
  · exact other (by decide)
  · exact fun _ dash _ => other (by decide) dash
  · exact fun _ _ slash _ => other (by decide) slash

/-- No token of a plain text reaches over a semicolon. -/
theorem lexOne_stop {c : Char} (plain : isPlain c = true) (rest more : List Char)
    : lexOne c (rest ++ ';' :: more) = lexOne c rest ∧ Within rest (lexOne c rest) := by
  rw [lexOne_of_plain plain, lexOne_of_plain plain,
    takeWhile_stop (p := isWordRest) (by decide),
    head?_stop (p := Char.isDigit) (by decide)]
  split
  · exact ⟨rfl, Nat.zero_le _, by simp⟩
  · split
    · exact ⟨rfl, (List.takeWhile_sublist _).length_le, by simp⟩
    · split
      · exact lexNumber_stop c rest more
      · exact lexSymbol_stop plain rest more

-----------------------------------------------------------------------------------------
-- Statements between semicolons
-----------------------------------------------------------------------------------------

theorem tokens?_cons (c : Char) (rest : List Char)
    : tokens? (c :: rest)
      = match lexOne c rest with
        | none => none
        | some (token, n) => (tokens? (rest.drop n)).map (token.toList ++ ·) := by
  rw [tokens?]

theorem lexOne_semicolon (more : List Char) : lexOne ';' more = some (some (.symbol ";"), 0) := by
  cases more with
  | nil => rfl
  | cons d more =>
      have pair : pairs.contains [';', d] = false := by simp [pairs]
      have mark : lexOne ';' (d :: more) = lexSymbol ';' (d :: more) := rfl
      rw [mark, lexSymbol, pair]
      rfl

/-- A token that ends no statement joins the statement that is being read. -/
theorem statementsFrom_token {c : Char} {rest : List Char} {token : Option Token} {n : Nat}
    (lexed : lexOne c rest = some (token, n)) (goes : token ≠ some (.symbol ";"))
    (seen : List Token)
    : statementsFrom seen (c :: rest)
      = statementsFrom (token.toList.reverse ++ seen) (rest.drop n) := by
  rw [statementsFrom, lexed]
  cases token with
  | none => rfl
  | some token =>
      have other : (token == .symbol ";") = false :=
        beq_eq_false_iff_ne.mpr fun same => goes (congrArg some same)
      simp [other]

theorem statementsFrom_semicolon (seen : List Token) (more : List Char)
    : statementsFrom seen (';' :: more) = finished seen.reverse ++ statementsFrom [] more := by
  rw [statementsFrom, lexOne_semicolon]
  cases seen <;> simp [finished]

/-- The statement that is pending after a text without semicolons. -/
def endStatement (seen : List Token) : Option (List Token) → List (Option (List Token))
  | none => [none]
  | some tokens => finished (seen.reverse ++ tokens)

theorem endStatement_cons (seen : List Token) (token : Option Token)
    (tokens : Option (List Token))
    : endStatement seen (tokens.map (token.toList ++ ·))
      = endStatement (token.toList.reverse ++ seen) tokens := by
  cases tokens <;> simp [endStatement]

/-- A plain text before a semicolon is at most one statement, and what follows is read afresh;
nothing is read behind something illegal. By induction on the text, token by token.
-/
theorem statementsFrom_stop {text : List Char} (plain : Plain text) (seen : List Token)
    (more : List Char)
    : statementsFrom seen (text ++ ';' :: more)
      = endStatement seen (tokens? text)
        ++ if (tokens? text).isSome then statementsFrom [] more else [] := by
  fun_induction tokens? text generalizing seen with
  | case1 => simp [statementsFrom_semicolon, endStatement]
  | case2 c rest illegal =>
      obtain ⟨same, _⟩ := lexOne_stop (plain c List.mem_cons_self) rest more
      rw [List.cons_append, statementsFrom, same, illegal]
      rfl
  | case3 c rest token n lexed ih =>
      obtain ⟨same, within⟩ := lexOne_stop (plain c List.mem_cons_self) rest more
      rw [lexed] at within
      obtain ⟨bound, goes⟩ := within
      rw [List.cons_append, statementsFrom_token (same.trans lexed) goes,
        List.drop_append_of_le_length bound, ih (plain.tail.drop n), endStatement_cons,
        Option.isSome_map]

/-- A plain text alone is at most one statement. -/
theorem statementsFrom_plain {text : List Char} (plain : Plain text) (seen : List Token)
    : statementsFrom seen text = endStatement seen (tokens? text) := by
  fun_induction tokens? text generalizing seen with
  | case1 => cases seen <;> simp [statementsFrom, endStatement, finished]
  | case2 c rest illegal =>
      rw [statementsFrom, illegal]
      rfl
  | case3 c rest token n lexed ih =>
      obtain ⟨_, within⟩ := lexOne_stop (plain c List.mem_cons_self) rest []
      rw [lexed] at within
      rw [statementsFrom_token lexed within.2, ih (plain.tail.drop n), endStatement_cons]

/-- The statements of two texts with a semicolon between them are those of the first text, and
those of the second one unless something in the first is illegal.
-/
theorem statements_semicolon {text : String} (plain : Plain text.toList) (more : String)
    : statements (text ++ ";" ++ more)
      = statements text ++ if (tokens? text.toList).isSome then statements more else [] := by
  have chars : (text ++ ";" ++ more).toList = text.toList ++ ';' :: more.toList := by simp
  rw [statements, chars, statementsFrom_stop plain, statements, statementsFrom_plain plain,
    statements]

theorem statements_of_plain {text : String} (plain : Plain text.toList)
    : statements text = endStatement [] (tokens? text.toList) :=
  statementsFrom_plain plain []

-----------------------------------------------------------------------------------------
-- Words and blanks
-----------------------------------------------------------------------------------------

/-- A text does not go on with a word. -/
def EndsWord (text : List Char) : Prop :=
  ∀ c ∈ text.head?, isWordRest c = false

theorem endsWord_nil : EndsWord [] := by
  rintro c ⟨⟩

theorem endsWord_cons {c : Char} (h : isWordRest c = false) (rest : List Char)
    : EndsWord (c :: rest) := by
  rintro c ⟨⟩
  exact h

theorem isWordRest_of_isIdentifierRest {c : Char} (h : isIdentifierRest c = true)
    : isWordRest c = true := by
  simp only [isIdentifierRest, Char.isAlphanum, Bool.or_eq_true] at h
  rcases h with (letter | digit) | underscore
  · simp [isWordRest, isWordStart, letter]
  · simp [isWordRest, digit]
  · simp [isWordRest, isWordStart, underscore]

theorem isSpace_of_isIdentifierRest {c : Char} (h : isIdentifierRest c = true)
    : isSpace c = false := by
  rw [← Bool.not_eq_true]
  intro space
  simp only [isSpace, List.contains_iff_mem, List.mem_cons, List.not_mem_nil, or_false] at space
  rcases space with rfl | rfl | rfl | rfl | rfl | rfl <;> cases h

/-- A word is one token, as far as it goes. -/
theorem lexOne_word {c : Char} {word rest : List Char}
    (identifier : isIdentifierText (c :: word) = true) (ends : EndsWord rest)
    : lexOne c (word ++ rest)
      = some (some (.word (String.ofList (c :: word))), word.length) := by
  obtain ⟨first, later⟩ :=
    List.forall_mem_cons.mp (isIdentifierRest_of_isIdentifierText identifier)
  have plain : isPlain c = true := by simp [isPlain, isTokenChar_of_isIdentifierRest first]
  have start : isWordStart c = true := by
    simp only [isIdentifierText, Bool.and_eq_true] at identifier
    have letter := identifier.1
    simp only [isIdentifierStart, Bool.or_eq_true] at letter
    simp only [isWordStart, Bool.or_eq_true]
    exact .inl letter
  have stops : rest.takeWhile isWordRest = [] := by
    cases rest with
    | nil => rfl
    | cons d rest => rw [List.takeWhile_cons, ends d rfl, if_neg (by decide)]
  have taken : (word ++ rest).takeWhile isWordRest = word := by
    rw [List.takeWhile_append_of_pos, stops, List.append_nil]
    exact fun d member => isWordRest_of_isIdentifierRest (later d member)
  simp [lexOne_of_plain plain, isSpace_of_isIdentifierRest first, start, taken]

theorem tokens?_word {word rest : List Char} (identifier : isIdentifierText word = true)
    (ends : EndsWord rest)
    : tokens? (word ++ rest) = (tokens? rest).map (.word (String.ofList word) :: ·) := by
  cases word with
  | nil => cases identifier
  | cons c word =>
      rw [List.cons_append, tokens?_cons, lexOne_word identifier ends]
      simp

theorem statementsFrom_word {word rest : List Char} (identifier : isIdentifierText word = true)
    (ends : EndsWord rest) (seen : List Token)
    : statementsFrom seen (word ++ rest)
      = statementsFrom (.word (String.ofList word) :: seen) rest := by
  cases word with
  | nil => cases identifier
  | cons c word =>
      rw [List.cons_append, statementsFrom_token (lexOne_word identifier ends) (by simp)]
      simp

theorem lexOne_space (rest : List Char) : lexOne ' ' rest = some (none, 0) :=
  lexOne_of_plain (by decide) rest

theorem tokens?_space (rest : List Char) : tokens? (' ' :: rest) = tokens? rest := by
  rw [tokens?_cons, lexOne_space]
  simp

theorem statementsFrom_space (seen : List Token) (rest : List Char)
    : statementsFrom seen (' ' :: rest) = statementsFrom seen rest := by
  rw [statementsFrom_token (lexOne_space rest) (by simp)]
  rfl

/-- Blanks before a text do not change its statements. -/
theorem statements_blank {c : Char} (space : isSpace c = true) (plain : isPlain c = true)
    (text : String)
    : statements (String.singleton c ++ text) = statements text := by
  have lexed : lexOne c text.toList = some (none, 0) := by
    simp [lexOne_of_plain plain, space]
  have chars : (String.singleton c ++ text).toList = c :: text.toList := by simp
  rw [statements, chars, statementsFrom_token lexed (by simp), statements]
  rfl

-----------------------------------------------------------------------------------------
-- Quoted texts
-----------------------------------------------------------------------------------------

/-- A quoted text without quotes in it ends at the next quote. -/
theorem quoted?_of_plain {text rest : List Char} (plain : Plain text)
    (ends : ∀ c ∈ rest.head?, c ≠ '\'')
    : quoted? '\'' (text ++ '\'' :: rest) = some (text, text.length + 1) := by
  induction text with
  | nil =>
      cases rest with
      | nil => rfl
      | cons d rest => simp [quoted?, ends d rfl]
  | cons c text ih =>
      have other : c ≠ '\'' := by
        rintro rfl
        cases plain _ List.mem_cons_self
      have later := ih plain.tail
      cases more : text ++ '\'' :: rest with
      | nil => simp at more
      | cons d more' =>
          rw [List.cons_append, more, quoted?, ← more, later]
          simp [other]

theorem statementsFrom_quoted {text rest : List Char} (plain : Plain text)
    (ends : ∀ c ∈ rest.head?, c ≠ '\'') (seen : List Token)
    : statementsFrom seen ('\'' :: (text ++ '\'' :: rest))
      = statementsFrom (.text (String.ofList text) :: seen) rest := by
  have lexed : lexOne '\'' (text ++ '\'' :: rest)
      = some (some (.text (String.ofList text)), text.length + 1) := by
    rw [lexOne, lexQuoted, quoted?_of_plain plain ends]
    rfl
  rw [statementsFrom_token lexed (by simp)]
  simp

end JoinLatency.Database
