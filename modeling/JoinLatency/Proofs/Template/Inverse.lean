import JoinLatency.Proofs.Outcome
import JoinLatency.Template
import Mathlib.Data.List.Chain

/-! Reading and writing of templates are inverse. A literal is only flushed before a placeholder
and at the end, so the segments that are read are canonical, and canonical segments are read back
from what they write, one segment after the other.
-/

namespace JoinLatency

namespace Segment

def IsLiteral : Segment → Prop
  | .literal _ => True
  | .placeholder _ => False

/-- A literal holds some text, a placeholder has an identifier for its name. -/
def WellFormed : Segment → Prop
  | .literal text => text ≠ ""
  | .placeholder name => isIdentifier name = true

/-- Canonical segments are well formed, and no two literals stand side by side. -/
structure Canonical (segments : List Segment) : Prop where
  wellFormed : ∀ segment ∈ segments, segment.WellFormed
  apart : segments.IsChain fun left right => ¬ (left.IsLiteral ∧ right.IsLiteral)

instance : DecidablePred IsLiteral
  | .literal _ => isTrue trivial
  | .placeholder _ => isFalse id

instance : DecidablePred WellFormed
  | .literal text => inferInstanceAs (Decidable (text ≠ ""))
  | .placeholder name => inferInstanceAs (Decidable (isIdentifier name = true))

instance : DecidablePred Canonical := fun segments =>
  decidable_of_iff
    ((∀ segment ∈ segments, segment.WellFormed)
      ∧ segments.IsChain fun left right => ¬ (left.IsLiteral ∧ right.IsLiteral))
    ⟨fun h => ⟨h.1, h.2⟩, fun h => ⟨h.wellFormed, h.apart⟩⟩

theorem canonical_nil : Canonical [] :=
  ⟨by simp, .nil⟩

theorem Canonical.tail {segment : Segment} {rest : List Segment}
    (h : Canonical (segment :: rest))
    : Canonical rest :=
  ⟨fun other member => h.wellFormed other (List.mem_cons_of_mem _ member), h.apart.tail⟩

/-- A placeholder may stand before any canonical segments. -/
theorem Canonical.placeholder {name : String} {rest : List Segment}
    (identifier : isIdentifier name = true) (h : Canonical rest)
    : Canonical (.placeholder name :: rest) := by
  refine ⟨?_, List.isChain_cons.mpr ⟨fun _ _ both => both.1, h.apart⟩⟩
  intro segment member
  rcases List.mem_cons.mp member with rfl | member
  · exact identifier
  · exact h.wellFormed segment member

/-- A literal may be flushed where no literal follows. -/
theorem Canonical.flush (literal : List Char) {rest : List Segment} (h : Canonical rest)
    (first : ∀ segment ∈ rest.head?, ¬ segment.IsLiteral)
    : Canonical (Segment.flush literal ++ rest) := by
  cases literal with
  | nil => exact h
  | cons c literal =>
      refine ⟨?_, List.isChain_cons.mpr ⟨fun next here both => first next here both.2, h.apart⟩⟩
      intro segment member
      rcases List.mem_cons.mp member with rfl | member
      · intro empty
        simpa using congrArg String.toList empty
      · exact h.wellFormed segment member

-----------------------------------------------------------------------------------------
-- What was read is written back
-----------------------------------------------------------------------------------------

/-- The text of a placeholder whose name is being read, up to the characters read so far. -/
def opened : Option (List Char) → List Char
  | none => []
  | some name => '\x7b' :: name.reverse

theorem write_flush (literal : List Char)
    : (flush literal).flatMap write = literal.reverse.flatMap escapeChar := by
  cases literal with
  | nil => rfl
  | cons c literal => simp [flush, write]

theorem escapeChar_of_ne {c : Char} (opening : c ≠ '\x7b') (closing : c ≠ '\x7d')
    : escapeChar c = [c] := by
  simp [escapeChar, opening, closing]

/-- The segments of a text write the literal and the name that were pending and then the text, by
induction along the scan.
-/
theorem write_of_read {source : String} {literal : List Char} {name : Option (List Char)}
    {text : List Char} {segments : List Segment}
    (h : read source literal name text = .ok segments)
    : segments.flatMap write = literal.reverse.flatMap escapeChar ++ (opened name ++ text) := by
  fun_induction read source literal name text generalizing segments with
  | case1 literal =>
      obtain rfl := Except.ok.inj h
      simp [write_flush, opened]
  | case2 literal rest ih => simp [ih h, opened, escapeChar]
  | case3 literal rest ih => simp [ih h, opened, escapeChar]
  | case4 literal rest _ ih => simp [ih h, opened]
  | case5 => cases h
  | case6 literal c rest _ _ opening closing ih =>
      simp [ih h, opened, escapeChar_of_ne opening closing]
  | case7 => cases h
  | case8 literal name rest identifier ih =>
      obtain ⟨later, found, rfl⟩ := map_eq_ok.mp h
      simp [write_flush, ih found, opened, write]
  | case9 => cases h
  | case10 literal name c rest _ ih => simp [ih h, opened]

/-- The segments of a text are canonical, by induction along the scan. A placeholder separates the
literal before it from those behind it.
-/
theorem canonical_of_read {source : String} {literal : List Char} {name : Option (List Char)}
    {text : List Char} {segments : List Segment}
    (h : read source literal name text = .ok segments)
    : Canonical segments := by
  fun_induction read source literal name text generalizing segments with
  | case1 literal =>
      obtain rfl := Except.ok.inj h
      simpa using canonical_nil.flush literal (by simp)
  | case2 literal rest ih => exact ih h
  | case3 literal rest ih => exact ih h
  | case4 literal rest _ ih => exact ih h
  | case5 => cases h
  | case6 literal c rest _ _ _ _ ih => exact ih h
  | case7 => cases h
  | case8 literal name rest identifier ih =>
      obtain ⟨later, found, rfl⟩ := map_eq_ok.mp h
      refine ((ih found).placeholder ?_).flush literal (by simp [IsLiteral])
      simpa [isIdentifier] using identifier
  | case9 => cases h
  | case10 literal name c rest _ ih => exact ih h

-----------------------------------------------------------------------------------------
-- What was written is read back
-----------------------------------------------------------------------------------------

theorem read_of_ne {source : String} {literal rest : List Char} {c : Char}
    (opening : c ≠ '\x7b') (closing : c ≠ '\x7d')
    : read source literal none (c :: rest) = read source (c :: literal) none rest := by
  rw [read] <;> simp [opening, closing]

/-- An escaped text is read into the pending literal, whatever follows it. -/
theorem read_escaped (source : String) (literal text rest : List Char)
    : read source literal none (text.flatMap escapeChar ++ rest)
      = read source (text.reverse ++ literal) none rest := by
  induction text generalizing literal with
  | nil => rfl
  | cons c text ih =>
      rw [List.flatMap_cons, List.append_assoc, List.reverse_cons, List.append_assoc]
      by_cases opening : c = '\x7b'
      · subst opening
        exact ih ('\x7b' :: literal)
      · by_cases closing : c = '\x7d'
        · subst closing
          exact ih ('\x7d' :: literal)
        · rw [escapeChar_of_ne opening closing, List.singleton_append, read_of_ne opening closing]
          exact ih (c :: literal)

theorem ne_closing_of_identifier {text : List Char} (h : isIdentifierText text = true)
    : ∀ c ∈ text, c ≠ '\x7d' := by
  rintro c member rfl
  cases text with
  | nil => cases member
  | cons first rest =>
      simp only [isIdentifierText, Bool.and_eq_true, List.all_eq_true] at h
      rcases List.mem_cons.mp member with rfl | later
      · exact absurd h.1 (by decide)
      · exact absurd (h.2 _ later) (by decide)

theorem read_inside {source : String} {literal name rest : List Char} {c : Char}
    (closing : c ≠ '\x7d')
    : read source literal (some name) (c :: rest) = read source literal (some (c :: name)) rest := by
  rw [read]
  exact closing

/-- A name is read up to the closing brace behind it. -/
theorem read_name (source : String) (literal name text rest : List Char)
    (inside : ∀ c ∈ text, c ≠ '\x7d')
    : read source literal (some name) (text ++ '\x7d' :: rest)
      = read source literal (some (text.reverse ++ name)) ('\x7d' :: rest) := by
  induction text generalizing name with
  | nil => rfl
  | cons c text ih =>
      have later := ih (c :: name) fun other member => inside other (List.mem_cons_of_mem c member)
      rw [List.cons_append, read_inside (inside c List.mem_cons_self), later]
      simp

/-- A placeholder is read as such, since an identifier holds no brace. -/
theorem read_placeholder (source : String) (literal rest : List Char) {name : String}
    (identifier : isIdentifier name = true)
    : read source literal none (write (.placeholder name) ++ rest)
      = (read source [] none rest).map (flush literal ++ .placeholder name :: ·) := by
  have opening : ∀ more, name.toList ++ '\x7d' :: rest ≠ '\x7b' :: more := by
    intro more same
    rw [isIdentifier] at identifier
    cases chars : name.toList with
    | nil => simp [chars] at same
    | cons first others =>
        rw [chars] at same identifier
        obtain ⟨rfl, _⟩ := List.cons.inj same
        exact absurd identifier (by simp [isIdentifierText, isIdentifierStart])
  rw [write, List.cons_append, List.append_assoc, List.singleton_append, read]
  · rw [isIdentifier] at identifier
    rw [read_name source literal [] name.toList rest (ne_closing_of_identifier identifier), read]
    simp [identifier]
  · exact opening

/-- Canonical segments are read back behind a pending literal, unless they start with a literal
themselves, by induction along them.
-/
theorem read_write (source : String) (literal : List Char) {segments : List Segment}
    (h : Canonical segments)
    (first : literal = [] ∨ ∀ segment ∈ segments.head?, ¬ segment.IsLiteral)
    : read source literal none (segments.flatMap write) = .ok (flush literal ++ segments) := by
  induction segments generalizing literal with
  | nil => simp [read]
  | cons segment rest ih =>
      rw [List.flatMap_cons]
      cases segment with
      | placeholder name =>
          have identifier : isIdentifier name = true := h.wellFormed _ List.mem_cons_self
          rw [read_placeholder source literal _ identifier, ih [] h.tail (.inl rfl)]
          rfl
      | literal text =>
          obtain rfl : literal = [] := first.resolve_right fun other => other _ rfl trivial
          have some : text ≠ "" := h.wellFormed _ List.mem_cons_self
          have next : ∀ segment ∈ rest.head?, ¬ segment.IsLiteral := fun segment here both =>
            (List.isChain_cons.mp h.apart).1 segment here ⟨trivial, both⟩
          rw [write, read_escaped, List.append_nil, ih _ h.tail (.inr next)]
          simp [flush, some]

end Segment

namespace Template

/-- Reading and writing are inverse. The segments of an accepted text are canonical and write that
text, canonical segments write a text that is accepted as just these segments, and every other
text is refused as a template.
-/
theorem ofSource_inverse_write
    : (∀ (source : String) (template : Template),
        ofSource source = .ok template
        → template.source = source
          ∧ Segment.Canonical template.segments
          ∧ write template.segments = source)
      ∧ (∀ segments : List Segment,
          Segment.Canonical segments
          → ofSource (write segments) = .ok { source := write segments, segments })
      ∧ ∀ source : String,
          (∀ segments : List Segment, Segment.Canonical segments → write segments ≠ source)
          → ∃ fault, ofSource source = .error (.template fault) := by
  have reads (source : String) (template : Template) (accepted : ofSource source = .ok template)
      : template.source = source
        ∧ Segment.Canonical template.segments
        ∧ write template.segments = source := by
    rw [ofSource] at accepted
    cases found : Segment.read source [] none source.toList with
    | error fault => simp [found] at accepted
    | ok segments =>
        rw [found] at accepted
        obtain rfl := Except.ok.inj accepted
        refine ⟨rfl, Segment.canonical_of_read found, ?_⟩
        simp [write, Segment.write_of_read found, Segment.opened]
  refine ⟨reads, fun segments canonical => ?_, fun source other => ?_⟩
  · have back := Segment.read_write (write segments) [] canonical (.inl rfl)
    simp only [Segment.flush, List.isEmpty_nil, if_true, List.nil_append] at back
    rw [ofSource, write, String.toList_ofList, ← write, back]
  · cases found : Segment.read source [] none source.toList with
    | error fault => exact ⟨fault, by rw [ofSource, found]⟩
    | ok segments =>
        have accepted : ofSource source = .ok { source, segments } := by rw [ofSource, found]
        obtain ⟨_, canonical, same⟩ := reads source _ accepted
        exact absurd same (other segments canonical)

/-- A placeholder between braces of its own, and a brace that nothing closes. -/
theorem ofSource_inverse_write_braces
    : let segments := [.literal "\x7b", .placeholder "x", .literal "\x7d"]
      write segments = "\x7b\x7b\x7bx\x7d\x7d\x7d"
      ∧ Segment.Canonical segments
      ∧ ofSource (write segments) = .ok { source := write segments, segments } := by
  intro segments
  have canonical : Segment.Canonical segments := by decide
  exact ⟨by decide, canonical, ofSource_inverse_write.2.1 segments canonical⟩

end Template

end JoinLatency
