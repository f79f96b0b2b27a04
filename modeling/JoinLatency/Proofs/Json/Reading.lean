import JoinLatency.Json.Reader
import JoinLatency.Json.Record
import JoinLatency.Proofs.Json.Lexing

/-! Reading what was written. The tokens of a value lead the machine from before the value to behind
it, whatever lists and records are open, so that the text of a value is read as the value.
-/

namespace JoinLatency.Json

variable {value : Json} {frames : List Frame}

namespace Machine

theorem run_append (machine : Machine) (first second : List Token)
    : machine.run (first ++ second) = (machine.run first).bind fun next => next.run second := by
  induction first generalizing machine with
  | nil => rfl
  | cons token rest ih =>
      simp only [List.cons_append, run, ih, Option.bind_assoc]

theorem run_step {machine next : Machine} {token : Token} (h : machine.step token = some next)
    (rest : List Token)
    : machine.run (token :: rest) = next.run rest := by
  rw [run, h, Option.bind_some]

/-- A machine that stands before a value stands behind it after its tokens. -/
def Reads (value : Json) : Prop :=
  ∀ frames, run ⟨frames, .value⟩ value.toTokens = some ⟨frames, .after value⟩

/-- The first token of a value does not close a list, so that the first item of a list is read as
any other value.
-/
theorem run_firstItem (value : Json) (frames : List Frame)
    : run ⟨frames, .firstItem⟩ value.toTokens
      = run ⟨.array [] :: frames, .value⟩ value.toTokens := by
  match value with
  | .null | .bool _ | .number _ | .string _ | .array [] | .array (_ :: _) | .object []
  | .object (_ :: _) => rfl

/-- The items after the first are collected one by one, by induction along them. -/
theorem run_itemTokens {rest : List Json} (h : ∀ item ∈ rest, Reads item) (frames : List Frame)
    (items : List Json) (item : Json)
    : run ⟨.array items :: frames, .after item⟩ (itemTokens rest ++ [.closeArray])
      = some ⟨frames, .after (.array (items.reverse ++ item :: rest))⟩ := by
  induction rest generalizing items item with
  | nil => simp [itemTokens, run, step, closeValue]
  | cons next rest ih =>
      rw [List.forall_mem_cons] at h
      rw [itemTokens, List.cons_append, run_step rfl, List.append_assoc, run_append, h.1,
        Option.bind_some, ih h.2]
      simp

/-- The members after the first are collected one by one, by induction along them. -/
theorem run_memberTokens {rest : List (Option String × Json)}
    (h : ∀ member ∈ rest, Reads member.2) (frames : List Frame)
    (members : List (Option String × Json)) (name : Option String) (value : Json)
    : run ⟨.object members name :: frames, .after value⟩ (memberTokens rest ++ [.closeObject])
      = some ⟨frames, .after (.object (members.reverse ++ (name, value) :: rest))⟩ := by
  induction rest generalizing members name value with
  | nil => simp [memberTokens, run, step, closeValue]
  | cons next rest ih =>
      obtain ⟨name', value'⟩ := next
      rw [List.forall_mem_cons] at h
      rw [memberTokens, List.cons_append, run_step rfl, List.cons_append, run_step rfl,
        List.cons_append, run_step rfl, List.append_assoc, run_append, h.1, Option.bind_some,
        ih h.2]
      simp

end Machine

open Machine in
/-- The machine reads every value from its tokens, by induction on the value. -/
theorem WellFormed.reads (h : value.WellFormed) : Machine.Reads value := by
  intro frames
  induction h generalizing frames with
  | null => rfl
  | bool value => rfl
  | number number => rfl
  | string text => rfl
  | @array items _ ih =>
      cases items with
      | nil => rfl
      | cons item rest =>
          rw [List.forall_mem_cons] at ih
          rw [toTokens, run_step rfl, List.append_assoc, run_append, run_firstItem, ih.1,
            Option.bind_some, run_itemTokens ih.2]
          rfl
  | @object members _ ih =>
      cases members with
      | nil => rfl
      | cons member rest =>
          obtain ⟨name, value⟩ := member
          rw [List.forall_mem_cons] at ih
          rw [toTokens, run_step rfl, run_step rfl, run_step rfl, List.append_assoc, run_append,
            ih.1, Option.bind_some, run_memberTokens ih.2]
          rfl

/-- The text of a value, in every style that breaks lines with blanks only, is read as the value.
-/
theorem read?_write (h : value.WellFormed) {style : Style} (blank : style.IsBlank)
    : read? (String.ofList (value.write style 0)) = some value := by
  have lexed := h.lexesTo blank 0 [] (by rintro c ⟨⟩)
  have none : tokensFrom .between [] = some [] := rfl
  rw [List.append_nil, none, Option.map_some, List.append_nil] at lexed
  rw [read?, String.toList_ofList, tokens, lexed, Option.bind_some, ofTokens?, h.reads,
    Option.bind_some]
  rfl

/-- The text of a value on one line is read as the value. -/
theorem read?_compact (h : value.WellFormed) : read? value.compact = some value :=
  read?_write h Style.isBlank_compact

end JoinLatency.Json
