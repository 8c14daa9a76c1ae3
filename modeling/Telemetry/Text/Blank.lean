import Telemetry.Text.Ranges
/-!
# Telemetry.Text.Blank

**Blank characters**: the Unicode property `White_Space`, and trimming by it.
-/

namespace Telemetry.Text

/-- The code points with the property `White_Space`. -/
def whiteSpace : Ranges := [
  (0x9, 0xd), (0x20, 0x20), (0x85, 0x85), (0xa0, 0xa0), (0x1680, 0x1680), (0x2000, 0x200a),
  (0x2028, 0x2029), (0x202f, 0x202f), (0x205f, 0x205f), (0x3000, 0x3000)]

def isBlank (c : Char) : Bool := whiteSpace.contains c.toNat

/-- The text without the blanks at its two ends. -/
def trim (cs : List Char) : List Char :=
  ((cs.dropWhile isBlank).reverse.dropWhile isBlank).reverse

theorem isBlank_of_mem_takeWhile {cs : List Char} {c : Char} (h : c ∈ cs.takeWhile isBlank) :
    isBlank c = true :=
  List.all_eq_true.mp List.all_takeWhile c h

theorem isBlank_of_head?_dropWhile {cs : List Char} {c : Char}
    (h : c ∈ (cs.dropWhile isBlank).head?) : isBlank c = false := by
  have hstop := List.head?_dropWhile_not isBlank cs
  rw [Option.mem_def.mp h] at hstop
  exact hstop

theorem dropWhile_of_head? {cs : List Char} (h : ∀ c ∈ cs.head?, isBlank c = false) :
    cs.dropWhile isBlank = cs := by
  cases cs with
  | nil => rfl
  | cons c rest => simp [h c rfl]

/-- What stands between the blanks at the two ends of a text. -/
structure IsTrimmed (text inner : List Char) : Prop where
  ends : ∃ before after, text = before ++ inner ++ after ∧
    (∀ c ∈ before, isBlank c = true) ∧ ∀ c ∈ after, isBlank c = true
  head : ∀ c ∈ inner.head?, isBlank c = false
  last : ∀ c ∈ inner.getLast?, isBlank c = false

theorem isTrimmed_trim (text : List Char) : IsTrimmed text (trim text) := by
  let front := text.dropWhile isBlank
  let back := front.reverse
  have hfront : front = trim text ++ (back.takeWhile isBlank).reverse := by
    rw [trim, ← List.reverse_append, List.takeWhile_append_dropWhile, List.reverse_reverse]
  refine ⟨⟨text.takeWhile isBlank, (back.takeWhile isBlank).reverse, ?_, ?_, ?_⟩, ?_, ?_⟩
  · rw [List.append_assoc, ← hfront, List.takeWhile_append_dropWhile]
  · exact fun c hc => isBlank_of_mem_takeWhile hc
  · exact fun c hc => isBlank_of_mem_takeWhile (List.mem_reverse.mp hc)
  · intro c hc
    have hhead : c ∈ front.head? := by
      rw [hfront, List.head?_append, Option.mem_def.mp hc]
      rfl
    exact isBlank_of_head?_dropWhile hhead
  · intro c hc
    rw [trim, List.getLast?_reverse] at hc
    exact isBlank_of_head?_dropWhile hc

/-- A text can be trimmed to one text only. -/
theorem IsTrimmed.trim_eq {text inner : List Char} (h : IsTrimmed text inner) :
    trim text = inner := by
  obtain ⟨⟨before, after, rfl, hbefore, hafter⟩, hhead, hlast⟩ := h
  cases inner with
  | nil =>
    -- nothing but blanks
    have hnone : (after ++ []).dropWhile isBlank = [] := List.dropWhile_append_of_pos hafter
    rw [List.append_nil] at hnone
    rw [trim, List.append_nil, List.dropWhile_append_of_pos hbefore, hnone]
    rfl
  | cons c rest =>
    have hfront : (before ++ c :: rest ++ after).dropWhile isBlank = c :: rest ++ after := by
      rw [List.append_assoc, List.dropWhile_append_of_pos hbefore]
      exact dropWhile_of_head? hhead
    have hback : (c :: rest).reverse.dropWhile isBlank = (c :: rest).reverse := by
      apply dropWhile_of_head?
      rwa [List.head?_reverse]
    have hblanks : ∀ c ∈ after.reverse, isBlank c = true := fun c hc =>
      hafter c (List.mem_reverse.mp hc)
    rw [trim, hfront, List.reverse_append, List.dropWhile_append_of_pos hblanks, hback,
      List.reverse_reverse]

/-- Trimming takes the blanks off the end of a text without blanks. -/
theorem trim_append {cs blanks : List Char} (hcs : ∀ c ∈ cs, isBlank c = false)
    (hblanks : ∀ c ∈ blanks, isBlank c = true) : trim (cs ++ blanks) = cs := by
  have htrimmed : IsTrimmed (cs ++ blanks) cs :=
    { ends := ⟨[], blanks, rfl, by simp, hblanks⟩
      head := fun c hc => hcs c (List.mem_of_mem_head? hc)
      last := fun c hc => hcs c (List.mem_of_mem_getLast? hc) }
  exact htrimmed.trim_eq

end Telemetry.Text
