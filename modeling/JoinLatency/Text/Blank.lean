/-! White space of a text is the Unicode White_Space class. Trimming a text removes the longest
blank runs at its two ends and nothing inside.
-/

namespace JoinLatency.Text

/-- A character is blank when it is one of the 25 code points of the White_Space class. -/
def isBlank (c : Char) : Bool :=
  let n := c.toNat
  (9 ≤ n && n ≤ 13) || n == 0x20 || n == 0x85 || n == 0xa0 || n == 0x1680
    || (0x2000 ≤ n && n ≤ 0x200a) || n == 0x2028 || n == 0x2029 || n == 0x202f
    || n == 0x205f || n == 0x3000

/-- Trimming drops the blank characters before the first and after the last other one. -/
def trim (text : List Char) : List Char :=
  ((text.dropWhile isBlank).reverse.dropWhile isBlank).reverse

/-- A text that consists of blanks has nothing left. -/
theorem trim_eq_nil_of_all {text : List Char} (h : text.all isBlank = true) : trim text = [] := by
  have hd : text.dropWhile isBlank = [] := by
    induction text with
    | nil => rfl
    | cons c rest ih =>
        simp only [List.all_cons, Bool.and_eq_true] at h
        simp [h.1, ih h.2]
  simp [trim, hd]

end JoinLatency.Text
