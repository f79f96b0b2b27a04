import JoinLatency.Database.Statement
import Mathlib

/-! Reading of statements. A reader is followed token by token: words that are there are taken, and
where the first word is another one a reader fails and the next one has its turn.
-/

namespace JoinLatency.Database

namespace Reader

variable {α β : Type} {reader other : Reader α} {tokens rest : List Token} {value : α}

-----------------------------------------------------------------------------------------
-- One reader after another
-----------------------------------------------------------------------------------------

theorem bind_of_some (h : reader tokens = some (value, rest)) (next : α → Reader β)
    : (reader >>= next) tokens = next value rest := by
  simp [bind, StateT.bind, h]

theorem bind_of_none (h : reader tokens = none) (next : α → Reader β)
    : (reader >>= next) tokens = none := by
  simp [bind, StateT.bind, h]

theorem orElse_of_some (h : reader tokens = some (value, rest))
    : (reader <|> other) tokens = some (value, rest) := by
  simp [HOrElse.hOrElse, OrElse.orElse, Alternative.orElse, StateT.orElse, h]

theorem orElse_of_none (h : reader tokens = none)
    : (reader <|> other) tokens = other tokens := by
  simp [HOrElse.hOrElse, OrElse.orElse, Alternative.orElse, StateT.orElse, h]

/-- A chain of readers has a value when all of them have one. -/
theorem bind_eq_some {next : α → Reader β} {result : β × List Token}
    : (reader >>= next) tokens = some result
      ↔ ∃ value rest, reader tokens = some (value, rest) ∧ next value rest = some result := by
  cases h : reader tokens with
  | none => simp [bind_of_none h]
  | some first =>
      obtain ⟨value, rest⟩ := first
      rw [bind_of_some h]
      constructor
      · intro found
        exact ⟨value, rest, rfl, found⟩
      · rintro ⟨_, _, same, found⟩
        cases same
        exact found

theorem orElse_eq_some {result : α × List Token}
    (h : (reader <|> other) tokens = some result)
    : reader tokens = some result ∨ other tokens = some result := by
  cases first : reader tokens with
  | none =>
      rw [orElse_of_none first] at h
      exact .inr h
  | some found =>
      rw [orElse_of_some first] at h
      exact .inl h

-----------------------------------------------------------------------------------------
-- Words, marks and names
-----------------------------------------------------------------------------------------

theorem word_eq (upper text : String) (rest : List Token)
    : word upper (.word text :: rest)
      = if text.map Char.toUpper == upper then some ((), rest) else none := by
  rw [word]
  show (if _ then _ else _ : Reader Unit) rest = _
  split <;> rfl

theorem word_of_eq {upper text : String} (h : text.map Char.toUpper = upper)
    : word upper (.word text :: rest) = some ((), rest) := by
  rw [word_eq, h, if_pos (by simp)]

theorem word_of_ne {upper text : String} (h : text.map Char.toUpper ≠ upper)
    : word upper (.word text :: rest) = none := by
  rw [word_eq, if_neg (by simpa using h)]

theorem words_cons (upper : String) (more : List String)
    : words (upper :: more) = (do word upper; words more) := rfl

theorem words_cons_of_eq {upper text : String} (h : text.map Char.toUpper = upper)
    (more : List String)
    : words (upper :: more) (.word text :: rest) = words more rest := by
  rw [words_cons, bind_of_some (word_of_eq h)]

theorem words_cons_of_ne {upper text : String} (h : text.map Char.toUpper ≠ upper)
    (more : List String)
    : words (upper :: more) (.word text :: rest) = none := by
  rw [words_cons, bind_of_none (word_of_ne h)]

theorem accepts_of_some {reader : Reader Unit} (h : reader tokens = some ((), rest))
    : accepts reader tokens = some (true, rest) := by
  rw [accepts]
  exact orElse_of_some (bind_of_some h _)

theorem accepts_of_none {reader : Reader Unit} (h : reader tokens = none)
    : accepts reader tokens = some (false, tokens) := by
  rw [accepts, orElse_of_none (bind_of_none h _)]
  rfl

theorem optional?_of_some (h : reader tokens = some (value, rest))
    : optional? reader tokens = some (some value, rest) := by
  rw [optional?]
  exact orElse_of_some (bind_of_some h _)

theorem optional?_of_none (h : reader tokens = none)
    : optional? reader tokens = some (none, tokens) := by
  rw [optional?, orElse_of_none (bind_of_none h _)]
  rfl

/-- Nothing is repeated where the first value is missing. -/
theorem many_of_none (h : reader tokens = none) : many reader tokens = some ([], tokens) := by
  have here : many reader tokens = upTo reader tokens.length tokens := rfl
  rw [here]
  cases tokens.length with
  | zero => rfl
  | succ n =>
      rw [upTo, orElse_of_none (bind_of_none h _)]
      rfl

/-- A word in any case is a name unless it is one of some words. -/
theorem nameOutside_eq (words : List String) (text : String) (rest : List Token)
    : nameOutside words (.word text :: rest)
      = if words.contains (text.map Char.toUpper) then none else some (text, rest) := by
  rw [nameOutside]
  show (if _ then _ else _ : Reader String) rest = _
  split <;> rfl

end Reader

-----------------------------------------------------------------------------------------
-- Statements by their first word
-----------------------------------------------------------------------------------------

namespace Statement

open Reader

/-- What comes behind definitions, insertions and removals starts with other words. -/
theorem later_of_first {first : String} (h : first = "CREATE" ∨ first = "DROP")
    (more : List Token)
    : (.select <$> Select.any <|> transaction <|> attachment <|> setting : Reader Statement)
        (.word first :: more)
      = none := by
  rcases h with rfl | rfl
  · cbv
  · cbv

/-- Only a removal starts with its word. -/
theorem any_drop (more : List Token)
    : any (.word "DROP" :: more) = removal (.word "DROP" :: more) := by
  have definition : definition (.word "DROP" :: more) = none := by cbv
  have insertion : insertion (.word "DROP" :: more) = none := by cbv
  rw [any, orElse_of_none definition, orElse_of_none insertion]
  cases removed : removal (.word "DROP" :: more) with
  | none => rw [orElse_of_none removed, later_of_first (.inr rfl)]
  | some result => exact orElse_of_some removed

/-- Only the definition of a table starts with its word. -/
theorem any_create (more : List Token)
    : any (.word "CREATE" :: more) = definition (.word "CREATE" :: more) := by
  have insertion : insertion (.word "CREATE" :: more) = none := by cbv
  have removal : removal (.word "CREATE" :: more) = none := by cbv
  rw [any]
  cases defined : definition (.word "CREATE" :: more) with
  | none =>
      rw [orElse_of_none defined, orElse_of_none insertion, orElse_of_none removal,
        later_of_first (.inl rfl)]
  | some result => exact orElse_of_some defined

/-- A statement is read when a reader takes all of its tokens. -/
theorem ofTokens_eq_ok {tokens : List Token} {statement : Statement}
    : ofTokens (some tokens) = .ok statement ↔ any tokens = some (statement, []) := by
  rw [ofTokens, StateT.run]
  cases read : any tokens with
  | none => simp [bind_of_none read]
  | some result =>
      obtain ⟨found, rest⟩ := result
      rw [bind_of_some read]
      cases rest with
      | nil =>
          rw [bind_of_some rfl]
          simp [pure, StateT.pure]
      | cons token rest =>
          rw [bind_of_none rfl]
          simp

/-- A statement that starts by dropping is a removal. -/
theorem drop_of_ofTokens {more : List Token} {statement : Statement}
    (h : ofTokens (some (.word "DROP" :: more)) = .ok statement)
    : ∃ table ifPresent, statement = .drop table ifPresent := by
  rw [ofTokens_eq_ok, any_drop] at h
  simp only [removal, bind_eq_some] at h
  obtain ⟨_, _, _, ifPresent, _, _, table, _, _, made⟩ := h
  exact ⟨table, ifPresent, (congrArg Prod.fst (Option.some.inj made)).symm⟩

/-- A statement that starts by creating defines a table by its columns or by a selection. -/
theorem create_of_ofTokens {more : List Token} {statement : Statement}
    (h : ofTokens (some (.word "CREATE" :: more)) = .ok statement)
    : ∃ table ifMissing,
        (∃ columns, statement = .create table ifMissing columns)
        ∨ ∃ select, statement = .createFrom table ifMissing select := by
  rw [ofTokens_eq_ok, any_create] at h
  simp only [definition, bind_eq_some] at h
  obtain ⟨_, _, _, ifMissing, _, _, table, _, _, made⟩ := h
  refine ⟨table, ifMissing, ?_⟩
  rcases orElse_eq_some made with listed | selected
  · obtain ⟨columns, _, _, last⟩ := bind_eq_some.mp listed
    exact .inl ⟨columns, (congrArg Prod.fst (Option.some.inj last)).symm⟩
  · obtain ⟨_, _, _, found⟩ := bind_eq_some.mp selected
    obtain ⟨select, _, _, last⟩ := bind_eq_some.mp found
    exact .inr ⟨select, (congrArg Prod.fst (Option.some.inj last)).symm⟩

end Statement

end JoinLatency.Database
