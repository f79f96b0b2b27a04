import JoinLatency.Json.Basic
import JoinLatency.Proofs.Json.Literals

/-! Lexing what was written. A value is lexed into its tokens in every style that breaks lines with
blanks only, whatever follows it, as long as nothing that follows goes on with a number.
-/

namespace JoinLatency.Json

-----------------------------------------------------------------------------------------
-- Tokens of a value
-----------------------------------------------------------------------------------------

mutual

/-- The tokens of a value. -/
def toTokens : Json → List Token
  | .null => [.null]
  | .bool value => [.bool value]
  | .number literal => [.number literal]
  | .string text => [.string text]
  | .array [] => [.openArray, .closeArray]
  | .array (item :: rest) =>
      .openArray :: (toTokens item ++ itemTokens rest ++ [.closeArray])
  | .object [] => [.openObject, .closeObject]
  | .object ((name, value) :: rest) =>
      .openObject :: .string name :: .colon
        :: (toTokens value ++ memberTokens rest ++ [.closeObject])

/-- The tokens of the items after the first. -/
def itemTokens : List Json → List Token
  | [] => []
  | item :: rest => .comma :: (toTokens item ++ itemTokens rest)

/-- The tokens of the members after the first. -/
def memberTokens : List (Option String × Json) → List Token
  | [] => []
  | (name, value) :: rest =>
      .comma :: .string name :: .colon :: (toTokens value ++ memberTokens rest)

end

/-- All literals of a value are numbers. -/
inductive WellFormed : Json → Prop
  | null : WellFormed .null
  | bool (value : Bool) : WellFormed (.bool value)
  | number {literal : List Char} (number : isNumber literal = true) : WellFormed (.number literal)
  | string (text : Option String) : WellFormed (.string text)
  | array {items : List Json} (items_wellFormed : ∀ item ∈ items, WellFormed item)
    : WellFormed (.array items)
  | object {members : List (Option String × Json)}
    (values_wellFormed : ∀ member ∈ members, WellFormed member.2)
    : WellFormed (.object members)

-----------------------------------------------------------------------------------------
-- Texts between tokens
-----------------------------------------------------------------------------------------

/-- A text does not go on with a number. -/
def EndsNumber (text : List Char) : Prop :=
  ∀ c ∈ text.head?, isNumberChar c = false

/-- A text is lexed into some tokens, whatever follows that does not go on with a number. -/
def LexesTo (text : List Char) (tokens : List Token) : Prop :=
  ∀ rest, EndsNumber rest
    → tokensFrom .between (text ++ rest) = (tokensFrom .between rest).map (tokens ++ ·)

/-- A text of blanks. -/
def Blank (text : List Char) : Prop :=
  ∀ c ∈ text, Mode.start c = some ([], .between) ∧ isNumberChar c = false

/-- A style breaks lines with blanks only, and sets a colon apart with nothing else. -/
structure Style.IsBlank (style : Style) : Prop where
  lineBreak (depth : Nat) : Blank (style.lineBreak depth)
  colon : ∃ blanks, style.colon = ':' :: blanks ∧ Blank blanks

theorem Style.isBlank_compact : Style.compact.IsBlank where
  lineBreak depth := by simp [Blank, compact]
  colon := ⟨[], rfl, by simp [Blank]⟩

theorem Style.isBlank_indented : Style.indented.IsBlank where
  lineBreak depth := by
    intro c member
    rcases List.mem_cons.mp member with rfl | space
    · exact ⟨rfl, rfl⟩
    · rw [List.eq_of_mem_replicate space]
      exact ⟨rfl, rfl⟩
  colon := ⟨[' '], rfl, by
    intro c member
    rw [List.mem_singleton.mp member]
    exact ⟨rfl, rfl⟩⟩

theorem endsNumber_cons {c : Char} (h : isNumberChar c = false) (rest : List Char)
    : EndsNumber (c :: rest) := by
  rintro c' ⟨⟩
  exact h

/-- Blanks before a text do not go on with a number if the text does not. -/
theorem Blank.endsNumber {blanks rest : List Char} (h : Blank blanks) (ends : EndsNumber rest)
    : EndsNumber (blanks ++ rest) := by
  cases blanks with
  | nil => exact ends
  | cons c others => exact endsNumber_cons (h c List.mem_cons_self).2 _

/-- A character that stands between tokens completes what it completes. -/
theorem tokensFrom_of_start {c : Char} {tokens : List Token}
    (h : Mode.start c = some (tokens, .between)) (rest : List Char)
    : tokensFrom .between (c :: rest) = (tokensFrom .between rest).map (tokens ++ ·) := by
  simp only [tokensFrom, Mode.step, h]

/-- Blanks leave no tokens, by induction along them. -/
theorem Blank.tokensFrom {blanks : List Char} (h : Blank blanks) (rest : List Char)
    : tokensFrom .between (blanks ++ rest) = tokensFrom .between rest := by
  induction blanks with
  | nil => rfl
  | cons c others ih =>
      rw [Blank, List.forall_mem_cons] at h
      rw [List.cons_append, tokensFrom_of_start h.1.1, ih h.2]
      simp

namespace LexesTo

variable {text text' : List Char} {tokens tokens' : List Token}

theorem nil : LexesTo [] [] := by
  intro rest _
  simp

/-- Texts one after the other are lexed one after the other, if the second one does not go on with
a number.
-/
theorem append (hl : LexesTo text tokens) (hr : LexesTo text' tokens')
    (ends : ∀ rest, EndsNumber rest → EndsNumber (text' ++ rest))
    : LexesTo (text ++ text') (tokens ++ tokens') := by
  intro rest apart
  rw [List.append_assoc, hl _ (ends rest apart), hr rest apart, Option.map_map]
  simp only [Function.comp_def, List.append_assoc]

/-- A token of one character comes before whatever is lexed behind it. -/
theorem cons {c : Char} {token : Token} (start : Mode.start c = some ([token], .between))
    (h : LexesTo text tokens)
    : LexesTo (c :: text) (token :: tokens) := by
  intro rest apart
  rw [List.cons_append, tokensFrom_of_start start, h rest apart, Option.map_map]
  simp only [Function.comp_def, List.cons_append, List.nil_append]

/-- Blanks before a text leave its tokens. -/
theorem blank {blanks : List Char} (hb : Blank blanks) (h : LexesTo text tokens)
    : LexesTo (blanks ++ text) tokens := by
  intro rest apart
  rw [List.append_assoc, hb.tokensFrom, h rest apart]

end LexesTo

-----------------------------------------------------------------------------------------
-- Strings
-----------------------------------------------------------------------------------------

theorem tokensFrom_step {mode : Mode} (next : Mode) {c : Char}
    (h : mode.step c = some ([], next)) (rest : List Char)
    : tokensFrom mode (c :: rest) = tokensFrom next rest := by
  simp [tokensFrom, h]

theorem tokensFrom_of_string {text : Partial} {chars : Option String} (h : text.close = chars)
    (rest : List Char)
    : tokensFrom (.string text) ('"' :: rest)
      = (tokensFrom .between rest).map ([.string chars] ++ ·) := by
  rw [← h]
  rfl

/-- The last digits of a control character name it. -/
theorem hexDigit_control
    : ∀ n < 0x20,
        hexDigit (Nat.digitChar (n / 16)) = some (n / 16)
        ∧ hexDigit (Nat.digitChar (n % 16)) = some (n % 16) := by
  decide

/-- A control character is read from its escape. -/
theorem tokensFrom_control {c : Char} (control : c.toNat < 0x20) (chars : List Char)
    (rest : List Char)
    : tokensFrom (.string { chars := some chars })
        ('\\' :: 'u' :: controlDigits c.toNat ++ rest)
      = tokensFrom (.string { chars := some (c :: chars) }) rest := by
  obtain ⟨high, low⟩ := hexDigit_control c.toNat control
  have zero : hexDigit '0' = some 0 := rfl
  have value : 16 * (c.toNat / 16) + c.toNat % 16 = c.toNat := by omega
  have plain : Partial.pushUnit { chars := some chars } c.toNat
      = { chars := some (c :: chars) } := by
    have scalar : ¬ 0xd800 ≤ c.toNat ∧ ¬ 0xdc00 ≤ c.toNat := by omega
    simp [Partial.pushUnit, Partial.push, scalar, Char.ofNat_toNat]
  simp only [controlDigits, List.cons_append, List.nil_append]
  rw [tokensFrom_step (.escape { chars := some chars }) rfl]
  rw [tokensFrom_step (.unit { chars := some chars } 4 0) rfl]
  rw [tokensFrom_step (.unit { chars := some chars } 3 0) (by simp [Mode.step, zero])]
  rw [tokensFrom_step (.unit { chars := some chars } 2 0) (by simp [Mode.step, zero])]
  rw [tokensFrom_step (.unit { chars := some chars } 1 (c.toNat / 16))
    (by simp [Mode.step, high])]
  rw [tokensFrom_step (.string { chars := some (c :: chars) })
    (by simp [Mode.step, low, value, plain])]

/-- A character is read from what is written for it inside a string. -/
theorem tokensFrom_escapeChar (c : Char) (chars rest : List Char)
    : tokensFrom (.string { chars := some chars }) (escapeChar c ++ rest)
      = tokensFrom (.string { chars := some (c :: chars) }) rest := by
  have named {letter : Char} (escape : Mode.step (.escape { chars := some chars }) letter
      = some ([], .string { chars := some (c :: chars) }))
      : tokensFrom (.string { chars := some chars }) ('\\' :: letter :: rest)
        = tokensFrom (.string { chars := some (c :: chars) }) rest := by
    rw [tokensFrom_step (.escape { chars := some chars }) rfl, tokensFrom_step _ escape]
  unfold escapeChar
  split
  iterate 7 exact named rfl
  next quote backslash _ _ _ _ _ =>
    split
    next control => exact tokensFrom_control control chars rest
    next plain =>
      have push : Partial.push { chars := some chars } c = { chars := some (c :: chars) } := rfl
      refine tokensFrom_step _ ?_ rest
      rw [Mode.step, if_neg (by simpa using quote), if_neg (by simpa using backslash),
        if_neg plain, push]

/-- A string is read from its characters, by induction along them. -/
theorem tokensFrom_string (text chars rest : List Char)
    : tokensFrom (.string { chars := some chars }) (text.flatMap escapeChar ++ '"' :: rest)
      = (tokensFrom .between rest).map
          ([.string (some (String.ofList (chars.reverse ++ text)))] ++ ·) := by
  induction text generalizing chars with
  | nil => simp [tokensFrom, Mode.step, Partial.close]
  | cons c text ih =>
      rw [List.flatMap_cons, List.append_assoc, tokensFrom_escapeChar, ih]
      simp

/-- Every string is lexed from what is written for it, also one that names no character. -/
theorem lexesTo_string (text : Option String)
    : LexesTo (writeString text) [.string text] := by
  intro rest _
  cases text with
  | none =>
      rw [writeString]
      iterate 7 rw [List.cons_append, tokensFrom_step _ rfl]
      exact tokensFrom_of_string rfl rest
  | some text =>
      rw [writeString, List.cons_append, tokensFrom_step (.string {}) rfl,
        List.append_assoc, List.singleton_append, tokensFrom_string, List.reverse_nil,
        List.nil_append, String.ofList_toList]

-----------------------------------------------------------------------------------------
-- Words and numbers
-----------------------------------------------------------------------------------------

/-- The letters of a word are read one by one, by induction along them. -/
theorem tokensFrom_word (letters rest : List Char) (last : Char) (token : Token)
    : tokensFrom (.word (letters ++ [last]) token) (letters ++ last :: rest)
      = (tokensFrom .between rest).map ([token] ++ ·) := by
  induction letters with
  | nil => simp [tokensFrom, Mode.step]
  | cons c letters ih =>
      have step : Mode.step (.word (c :: (letters ++ [last])) token) c
          = some ([], .word (letters ++ [last]) token) := by
        rw [Mode.step]
        · simp
        · simp
      rw [List.cons_append, List.cons_append, tokensFrom_step _ step, ih]

/-- A word is lexed into its token. -/
theorem lexesTo_word {first last : Char} (letters : List Char) {token : Token}
    (start : Mode.start first = some ([], .word (letters ++ [last]) token))
    : LexesTo (first :: (letters ++ [last])) [token] := by
  intro rest _
  have step : Mode.step .between first = some ([], .word (letters ++ [last]) token) := start
  rw [List.cons_append, tokensFrom_step _ step, List.append_assoc, List.singleton_append,
    tokensFrom_word]

/-- A digit or a minus sign starts a number. -/
theorem start_number {c : Char} (h : (c.isDigit || c == '-') = true)
    : Mode.start c = some ([], .number [c]) := by
  unfold Mode.start
  split
  all_goals exact if_pos h

/-- A number is read to its end, by induction along what is left of it. -/
theorem tokensFrom_number {text : List Char} (chars : ∀ c ∈ text, isNumberChar c = true)
    (before : List Char) (number : isNumber (before.reverse ++ text) = true) {rest : List Char}
    (ends : EndsNumber rest)
    : tokensFrom (.number before) (text ++ rest)
      = (tokensFrom .between rest).map ([.number (before.reverse ++ text)] ++ ·) := by
  induction text generalizing before with
  | nil =>
      rw [List.append_nil] at number ⊢
      have whole : Mode.endNumber before = some (.number before.reverse) := if_pos number
      cases rest with
      | nil => simp [tokensFrom, Mode.finish, whole]
      | cons c rest =>
          have apart : isNumberChar c = false := ends c rfl
          simp only [List.nil_append, tokensFrom, Mode.step, apart, Bool.false_eq_true, if_false,
            whole]
          cases start : Mode.start c with
          | none => simp
          | some next => simp [Function.comp_def]
  | cons c text ih =>
      rw [List.forall_mem_cons] at chars
      have more := ih chars.2 (c :: before) (by simpa using number)
      rw [List.cons_append, tokensFrom_step (.number (c :: before))
        (by simp [Mode.step, chars.1]), more]
      simp

theorem lexesTo_number {literal : List Char} (number : isNumber literal = true)
    : LexesTo literal [.number literal] := by
  obtain ⟨first, rest, rfl, opens, chars⟩ := opens_of_isNumber number
  intro later ends
  have start : Mode.step .between first = some ([], .number [first]) := start_number opens
  rw [List.cons_append, tokensFrom_step _ start]
  exact tokensFrom_number chars [first] number ends

-----------------------------------------------------------------------------------------
-- Values
-----------------------------------------------------------------------------------------

theorem itemTokens_eq (items : List Json)
    : itemTokens items = items.flatMap fun item => .comma :: item.toTokens := by
  induction items with
  | nil => rfl
  | cons item rest ih => simp [itemTokens, ih]

theorem memberTokens_eq (members : List (Option String × Json))
    : memberTokens members
      = members.flatMap fun (name, value) =>
          .comma :: .string name :: .colon :: value.toTokens := by
  induction members with
  | nil => rfl
  | cons member rest ih => simp [memberTokens, ih]

theorem writeItems_eq (style : Style) (depth : Nat) (items : List Json)
    : writeItems style depth items
      = items.flatMap fun item => ',' :: (style.lineBreak depth ++ write style depth item) := by
  induction items with
  | nil => rfl
  | cons item rest ih => simp [writeItems, ih]

theorem writeMembers_eq (style : Style) (depth : Nat) (members : List (Option String × Json))
    : writeMembers style depth members
      = members.flatMap fun (name, value) =>
          ',' :: (style.lineBreak depth
            ++ (writeString name ++ style.colon ++ write style depth value)) := by
  induction members with
  | nil => rfl
  | cons member rest ih => simp [writeMembers, ih]

section

variable {α : Type} {write : α → List Char} {tokens : α → List Token} {before after : List Char}
  {close : Char} {closing : Token}

/-- Parts behind commas and a closing bracket do not go on with a number. -/
theorem endsNumber_parts (blank : Blank after) (apart : isNumberChar close = false)
    (parts : List α) (rest : List Char)
    : EndsNumber (parts.flatMap (fun part => ',' :: (before ++ write part))
        ++ (after ++ [close]) ++ rest) := by
  cases parts with
  | nil =>
      rw [List.flatMap_nil, List.nil_append, List.append_assoc]
      exact blank.endsNumber (endsNumber_cons apart rest)
  | cons part parts => exact endsNumber_cons rfl _

/-- Parts behind commas and a closing bracket are lexed part by part, by induction along them. -/
theorem lexesTo_parts (hb : Blank before) (ha : Blank after) (apart : isNumberChar close = false)
    (closes : Mode.start close = some ([closing], .between)) {parts : List α}
    (h : ∀ part ∈ parts, LexesTo (write part) (tokens part))
    : LexesTo (parts.flatMap (fun part => ',' :: (before ++ write part)) ++ (after ++ [close]))
        (parts.flatMap (fun part => .comma :: tokens part) ++ [closing]) := by
  induction parts with
  | nil =>
      rw [List.flatMap_nil, List.flatMap_nil, List.nil_append, List.nil_append]
      exact .blank ha (.cons closes .nil)
  | cons part parts ih =>
      rw [List.forall_mem_cons] at h
      have others := h.1.append (ih h.2) fun rest _ => endsNumber_parts ha apart parts rest
      have whole := LexesTo.cons (c := ',') rfl (.blank hb others)
      simpa using whole

/-- Parts between brackets are lexed part by part. -/
theorem lexesTo_brackets (opening close : Char) {opened : Token}
    (opens : Mode.start opening = some ([opened], .between)) (hb : Blank before)
    (ha : Blank after) (apart : isNumberChar close = false)
    (closes : Mode.start close = some ([closing], .between)) {part : α} {parts : List α}
    (h : ∀ other ∈ part :: parts, LexesTo (write other) (tokens other))
    : LexesTo
        (opening :: (before ++ write part
          ++ parts.flatMap (fun part => ',' :: (before ++ write part)) ++ after ++ [close]))
        (opened :: (tokens part ++ parts.flatMap (fun part => .comma :: tokens part)
          ++ [closing])) := by
  rw [List.forall_mem_cons] at h
  have others := lexesTo_parts hb ha apart closes h.2
  have all := h.1.append others fun rest _ => endsNumber_parts ha apart parts rest
  simpa using LexesTo.cons opens (.blank hb all)

end

variable {style : Style} {value : Json}

/-- A name and a value around a colon are lexed one after the other. -/
theorem lexesTo_member (blank : style.IsBlank) (name : Option String) {text : List Char}
    {tokens : List Token} (h : LexesTo text tokens)
    : LexesTo (writeString name ++ style.colon ++ text) (.string name :: .colon :: tokens) := by
  obtain ⟨blanks, colon, empty⟩ := blank.colon
  rw [colon, List.append_assoc, List.cons_append]
  exact (lexesTo_string name).append (.cons rfl (.blank empty h))
    fun rest _ => endsNumber_cons rfl _

/-- A value is lexed into its tokens at every depth, by induction on the value. -/
theorem WellFormed.lexesTo (h : value.WellFormed) (blank : style.IsBlank) (depth : Nat)
    : LexesTo (value.write style depth) value.toTokens := by
  induction h generalizing depth with
  | null => exact lexesTo_word ['u', 'l'] rfl
  | bool value =>
      cases value with
      | false => exact lexesTo_word ['a', 'l', 's'] rfl
      | true => exact lexesTo_word ['r', 'u'] rfl
  | number number => exact lexesTo_number number
  | string text => exact lexesTo_string text
  | @array items _ ih =>
      cases items with
      | nil => exact .cons (c := '[') rfl (.cons (c := ']') rfl .nil)
      | cons item rest =>
          rw [write, toTokens, writeItems_eq, itemTokens_eq]
          exact lexesTo_brackets '[' ']' rfl (blank.lineBreak _) (blank.lineBreak _) rfl rfl
            fun other member => ih other member (depth + 1)
  | @object members _ ih =>
      cases members with
      | nil => exact .cons (c := '\x7b') rfl (.cons (c := '\x7d') rfl .nil)
      | cons member rest =>
          have parts (other : Option String × Json) (there : other ∈ member :: rest) :=
            lexesTo_member blank other.1 (ih other there (depth + 1))
          have whole := lexesTo_brackets '\x7b' '\x7d' rfl
            (blank.lineBreak (depth + 1)) (blank.lineBreak depth) rfl rfl parts
          rw [write, toTokens, writeMembers_eq, memberTokens_eq]
          simpa using whole

end JoinLatency.Json
