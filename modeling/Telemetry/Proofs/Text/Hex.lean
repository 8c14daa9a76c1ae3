import Telemetry.Text.Hex
/-!
# Telemetry.Proofs.Text.Hex

**Which texts are read as bytes.** A hex text (`IsHexText`) has blanks at its ends, at most one mark
at its front, and then digits in pairs with blanks anywhere among them. All hex texts are read, and
what was written is one. Every other text should be refused, whatever characters it has.

The reader takes more than that: any number of marks, and a plus sign in the place of a leading
zero. Such a text is loose (`IsLooseText`), and no hex text is. So a text is read as it should be
exactly if it is not loose, which is the main statement, `readsExactly_iff`.
-/

namespace Telemetry.Text.Hex

/-! ### Digits -/

/-- The character is the digit of this value, in either case. -/
def IsDigit (c : Char) (n : Nat) : Prop :=
  "0123456789abcdef".toList[n]? = some c ∨ "0123456789ABCDEF".toList[n]? = some c

instance (c : Char) (n : Nat) : Decidable (IsDigit c n) :=
  inferInstanceAs (Decidable (_ ∨ _))

theorem le_of_digit? {c : Char} {n : Nat} (h : digit? c = some n) : c ≤ 'f' := by
  unfold digit? at h
  split at h
  · rename_i hc
    exact Char.le_trans hc.2 (by decide)
  · split at h
    · rename_i hc
      exact hc.2
    · split at h
      · rename_i hc
        exact Char.le_trans hc.2 (by decide)
      · cases h

/-- If the digits of a list are read as their places, so is each of them. -/
theorem digit?_of_getElem? {digits : List Char}
    (hall : digits.map digit? = (List.range 16).map some) {c : Char} {n : Nat}
    (h : digits[n]? = some c) : digit? c = some n := by
  have hread : (digits.map digit?)[n]? = some (digit? c) := by
    rw [List.getElem?_map, h, Option.map_some]
  rw [hall, List.getElem?_map] at hread
  obtain ⟨k, hk, hread⟩ := Option.map_eq_some_iff.mp hread
  obtain ⟨_, rfl⟩ := List.getElem?_eq_some_iff.mp hk
  rw [← hread, List.getElem_range]

theorem digit?_eq_some_iff {c : Char} {n : Nat} : digit? c = some n ↔ IsDigit c n := by
  constructor
  · intro h
    -- up to the last digit the characters are few enough to be looked at one by one
    have hall : ∀ m : Fin 128, ∀ k ∈ digit? (Char.ofNat m), IsDigit (Char.ofNat m) k := by
      decide +kernel
    have hlt : c.toNat < 128 :=
      Nat.lt_of_le_of_lt (UInt32.le_iff_toNat_le.mp (Char.le_def.mp (le_of_digit? h))) (by decide)
    have hc := hall ⟨c.toNat, hlt⟩ n
    rw [Char.ofNat_toNat] at hc
    exact hc h
  · rintro (h | h)
    · exact digit?_of_getElem? (by decide +kernel) h
    · exact digit?_of_getElem? (by decide +kernel) h

theorem not_isDigit_of_digit? {c : Char} {n : Nat} (h : digit? c = none) : ¬ IsDigit c n := by
  intro hc
  rw [digit?_eq_some_iff.mpr hc] at h
  cases h

/-! ### Pairs -/

/-- The two digits of a byte, the high one first. -/
def IsPair (high low : Char) (b : UInt8) : Prop :=
  ∃ h l, IsDigit high h ∧ IsDigit low l ∧ b = UInt8.ofNat (16 * h + l)

/-- Two digits, or a plus sign in the place of a leading zero. -/
def IsLoosePair (high low : Char) (b : UInt8) : Prop :=
  IsPair high low b ∨ high = '+' ∧ IsPair '0' low b

theorem not_isPair_plus {low : Char} {b : UInt8} : ¬ IsPair '+' low b := by
  rintro ⟨h, l, hhigh, -, -⟩
  exact not_isDigit_of_digit? (by decide) hhigh

theorem pair?_of_ne {high low : Char} {b : UInt8} (h : high ≠ '+') :
    pair? high low = some b ↔ IsPair high low b := by
  rw [pair?, if_neg h]
  constructor
  · intro hread
    obtain ⟨h, hhigh, hread⟩ := Option.bind_eq_some_iff.mp hread
    obtain ⟨l, hlow, hread⟩ := Option.bind_eq_some_iff.mp hread
    exact ⟨h, l, digit?_eq_some_iff.mp hhigh, digit?_eq_some_iff.mp hlow,
      (Option.some.inj hread).symm⟩
  · rintro ⟨h, l, hhigh, hlow, rfl⟩
    rw [digit?_eq_some_iff.mpr hhigh, digit?_eq_some_iff.mpr hlow]
    rfl

theorem pair?_eq_some_iff {high low : Char} {b : UInt8} :
    pair? high low = some b ↔ IsLoosePair high low b := by
  unfold IsLoosePair
  by_cases hplus : high = '+'
  · subst hplus
    have hzero : pair? '+' low = pair? '0' low := rfl
    rw [hzero, pair?_of_ne (by decide)]
    simp [not_isPair_plus]
  · rw [pair?_of_ne hplus]
    simp [hplus]

/-- The characters are pairs, one for each byte. -/
inductive Spells (pair : Char → Char → UInt8 → Prop) : List Char → List UInt8 → Prop
  | nil : Spells pair [] []
  | cons {high low : Char} {b : UInt8} {cs : List Char} {bytes : List UInt8}
    (hpair : pair high low b) (hrest : Spells pair cs bytes) :
    Spells pair (high :: low :: cs) (b :: bytes)

theorem pairs?_eq_some_iff {cs : List Char} {bytes : List UInt8} :
    pairs? cs = some bytes ↔ Spells IsLoosePair cs bytes := by
  constructor
  · intro h
    fun_induction pairs? cs generalizing bytes with
    | case1 =>
      obtain rfl := Option.some.inj h
      exact .nil
    | case2 => cases h
    | case3 high low rest ih =>
      obtain ⟨b, hb, h⟩ := Option.bind_eq_some_iff.mp h
      obtain ⟨bs, hbs, h⟩ := Option.bind_eq_some_iff.mp h
      obtain rfl := Option.some.inj h
      exact .cons (pair?_eq_some_iff.mp hb) (ih hbs)
  · intro h
    induction h with
    | nil => rfl
    | cons hpair _ ih =>
      rw [pairs?, pair?_eq_some_iff.mpr hpair, ih]
      rfl

/-- What is loose about pairs is a plus sign. -/
theorem spells_isPair_iff {cs : List Char} {bytes : List UInt8} :
    Spells IsPair cs bytes ↔ Spells IsLoosePair cs bytes ∧ '+' ∉ cs := by
  have hplus : ∀ n, ¬ IsDigit '+' n := fun n => not_isDigit_of_digit? (by decide)
  constructor
  · intro h
    induction h with
    | nil => exact ⟨.nil, List.not_mem_nil⟩
    | cons hpair _ ih =>
      refine ⟨.cons (.inl hpair) ih.1, ?_⟩
      obtain ⟨h, l, hhigh, hlow, -⟩ := hpair
      simp only [List.mem_cons, not_or]
      exact ⟨fun heq => hplus h (heq ▸ hhigh), fun heq => hplus l (heq ▸ hlow), ih.2⟩
  · rintro ⟨h, hnone⟩
    induction h with
    | nil => exact .nil
    | cons hpair _ ih =>
      simp only [List.mem_cons, not_or] at hnone
      rcases hpair with hpair | ⟨rfl, -⟩
      · exact .cons hpair (ih hnone.2.2)
      · exact absurd rfl hnone.1

/-! ### Marks -/

/-- So many marks. -/
def marks : Nat → List Char
  | 0 => []
  | n + 1 => '0' :: 'x' :: marks n

theorem length_marks (n : Nat) : (marks n).length = 2 * n := by
  induction n with
  | zero => rfl
  | succ n ih =>
    rw [marks, List.length_cons, List.length_cons, ih]
    omega

theorem plus_not_mem_marks (n : Nat) : '+' ∉ marks n := by
  induction n with
  | zero => exact List.not_mem_nil
  | succ n ih => simp [marks, ih]

theorem exists_marks (cs : List Char) : ∃ n, cs = marks n ++ dropMarks cs := by
  fun_induction dropMarks cs with
  | case1 rest ih =>
    obtain ⟨n, hn⟩ := ih
    exact ⟨n + 1, congrArg ('0' :: 'x' :: ·) hn⟩
  | case2 cs => exact ⟨0, rfl⟩

theorem dropMarks_marks (n : Nat) (rest : List Char) :
    dropMarks (marks n ++ rest) = dropMarks rest := by
  induction n with
  | zero => rfl
  | succ n ih =>
    rw [marks, List.cons_append, List.cons_append, dropMarks]
    exact ih

/-- No pair is a mark. -/
theorem dropMarks_of_spells {rest : List Char} {bytes : List UInt8}
    (h : Spells IsLoosePair (rest.filter fun c => !isBlank c) bytes) : dropMarks rest = rest := by
  unfold dropMarks
  split
  · rename_i rest
    have hkept : ('0' :: 'x' :: rest).filter (fun c => !isBlank c) =
        '0' :: 'x' :: rest.filter fun c => !isBlank c := rfl
    rw [hkept] at h
    cases h with
    | cons hpair _ =>
      obtain ⟨_, l, -, hlow, -⟩ | ⟨hzero, -⟩ := hpair
      · exact absurd hlow (not_isDigit_of_digit? (by decide))
      · exact absurd hzero (by decide)
  · rfl

/-! ### Texts -/

/-- Between the blanks at its ends the text has so many marks and then pairs for the bytes, with
blanks anywhere among them. -/
def Writes (pair : Char → Char → UInt8 → Prop) (n : Nat) (text : String) (bytes : List UInt8) :
    Prop :=
  ∃ rest, IsTrimmed text.toList (marks n ++ rest) ∧
    Spells pair (rest.filter fun c => !isBlank c) bytes

/-- The text has one mark at most, and pairs of digits. -/
def IsHexText (text : String) (bytes : List UInt8) : Prop := ∃ n ≤ 1, Writes IsPair n text bytes

/-- The text is a hex text but for further marks, or for plus signs in the place of zeros. -/
def IsLooseText (text : String) (bytes : List UInt8) : Prop :=
  ∃ n, Writes IsLoosePair n text bytes ∧ (2 ≤ n ∨ '+' ∈ text.toList)

variable {text : String} {bytes : List UInt8}

theorem decode?_eq_some_iff_writes :
    decode? text = some bytes ↔ ∃ n, Writes IsLoosePair n text bytes := by
  rw [decode?, pairs?_eq_some_iff]
  constructor
  · intro h
    obtain ⟨n, hn⟩ := exists_marks (trim text.toList)
    exact ⟨n, _, hn ▸ isTrimmed_trim text.toList, h⟩
  · rintro ⟨n, rest, htrimmed, hspells⟩
    rw [htrimmed.trim_eq, dropMarks_marks, dropMarks_of_spells hspells]
    exact hspells

/-- A text has its marks in one way. -/
theorem Writes.marks_eq {n m : Nat} {other : List UInt8} (h : Writes IsLoosePair n text bytes)
    (h' : Writes IsLoosePair m text other) : n = m := by
  obtain ⟨rest, htrimmed, hspells⟩ := h
  obtain ⟨rest', htrimmed', hspells'⟩ := h'
  have hsame : marks n ++ rest = marks m ++ rest' := htrimmed.trim_eq.symm.trans htrimmed'.trim_eq
  have hrest : rest = rest' := by
    have hdrop := congrArg dropMarks hsame
    rwa [dropMarks_marks, dropMarks_marks, dropMarks_of_spells hspells,
      dropMarks_of_spells hspells'] at hdrop
  subst hrest
  have hlength := congrArg List.length (List.append_cancel_right hsame)
  rw [length_marks, length_marks] at hlength
  omega

theorem plus_mem_iff {n : Nat} {rest : List Char}
    (h : IsTrimmed text.toList (marks n ++ rest)) :
    '+' ∈ text.toList ↔ '+' ∈ rest.filter fun c => !isBlank c := by
  have hblank : isBlank '+' = false := by decide
  have hmarks := plus_not_mem_marks n
  obtain ⟨before, after, htext, hbefore, hafter⟩ := h.ends
  have hbefore : '+' ∉ before := fun hmem => by simp [hbefore _ hmem] at hblank
  have hafter : '+' ∉ after := fun hmem => by simp [hafter _ hmem] at hblank
  simp [htext, hbefore, hafter, hmarks, hblank]

theorem writes_isPair_iff {n : Nat} :
    Writes IsPair n text bytes ↔ Writes IsLoosePair n text bytes ∧ '+' ∉ text.toList := by
  constructor
  · rintro ⟨rest, htrimmed, hspells⟩
    obtain ⟨hloose, hplus⟩ := spells_isPair_iff.mp hspells
    exact ⟨⟨rest, htrimmed, hloose⟩, fun hmem => hplus ((plus_mem_iff htrimmed).mp hmem)⟩
  · rintro ⟨⟨rest, htrimmed, hloose⟩, hplus⟩
    exact ⟨rest, htrimmed, spells_isPair_iff.mpr
      ⟨hloose, fun hmem => hplus ((plus_mem_iff htrimmed).mpr hmem)⟩⟩

/-- No hex text is loose. -/
theorem IsHexText.not_isLooseText (h : IsHexText text bytes) (other : List UInt8) :
    ¬ IsLooseText text other := by
  obtain ⟨n, hn, hwrites⟩ := h
  obtain ⟨hwrites, hplus⟩ := writes_isPair_iff.mp hwrites
  rintro ⟨m, hwrites', hm | hmem⟩
  · have := hwrites.marks_eq hwrites'
    omega
  · exact hplus hmem

/-- What is read is a hex text or a loose one. -/
theorem decode?_eq_some_iff : decode? text = some bytes ↔
    IsHexText text bytes ∨ IsLooseText text bytes := by
  rw [decode?_eq_some_iff_writes]
  constructor
  · rintro ⟨n, hwrites⟩
    by_cases hloose : 2 ≤ n ∨ '+' ∈ text.toList
    · exact .inr ⟨n, hwrites, hloose⟩
    · rw [not_or] at hloose
      exact .inl ⟨n, by omega, writes_isPair_iff.mpr ⟨hwrites, hloose.2⟩⟩
  · rintro (⟨n, -, hwrites⟩ | ⟨n, hwrites, -⟩)
    · exact ⟨n, (writes_isPair_iff.mp hwrites).1⟩
    · exact ⟨n, hwrites⟩

/-- The text is read as what it stands for, and refused if it stands for nothing. -/
def ReadsExactly (text : String) : Prop :=
  ∀ bytes, decode? text = some bytes ↔ IsHexText text bytes

/-- **A text is read as a hex text exactly if it is not loose.** The reader takes hex texts, loose
texts and no others, and what was written is read back. -/
theorem readsExactly_iff (text : String) :
    (ReadsExactly text ↔ ∀ bytes, ¬ IsLooseText text bytes) ∧
    (∀ bytes, decode? text = some bytes ↔ IsHexText text bytes ∨ IsLooseText text bytes) ∧
    ∀ bytes, decode? (encode bytes) = some bytes := by
  refine ⟨⟨fun hexact bytes hloose => ?_, fun hnone bytes => ?_⟩, fun _ => decode?_eq_some_iff,
    fun bytes => ?_⟩
  · have hhex := (hexact bytes).mp (decode?_eq_some_iff.mpr (.inr hloose))
    exact hhex.not_isLooseText bytes hloose
  · rw [decode?_eq_some_iff, or_iff_left (hnone bytes)]
  · have hread : decode? (encode bytes ++ "") = some bytes := decode?_encode bytes (by simp)
    rwa [String.append_empty] at hread

/-- Blanks at both ends and inside a pair, a mark, and digits of either case. -/
theorem readsExactly_spaced :
    let text := "\u2003 0x11 0\t0 fF\n"
    ReadsExactly text ∧ IsHexText text [0x11, 0, 0xff] ∧ decode? text = some [0x11, 0, 0xff] := by
  intro text
  have htrim : trim text.toList = marks 1 ++ "11 0\t0 fF".toList := by decide +kernel
  have hspells : Spells IsPair ("11 0\t0 fF".toList.filter fun c => !isBlank c) [0x11, 0, 0xff] :=
    spells_isPair_iff.mpr ⟨pairs?_eq_some_iff.mp (by decide +kernel), by decide +kernel⟩
  have hhex : IsHexText text [0x11, 0, 0xff] :=
    ⟨1, Nat.le_refl _, _, htrim ▸ isTrimmed_trim text.toList, hspells⟩
  have hexact := (readsExactly_iff text).1.mpr hhex.not_isLooseText
  exact ⟨hexact, hhex, (hexact _).mpr hhex⟩

/-- A plus sign is no digit, but it is read as a zero. -/
theorem not_readsExactly_plus : ¬ ∀ text, ReadsExactly text := by
  intro hall
  have hread : decode? "04 00 +1 00" = some [4, 0, 1, 0] := by decide +kernel
  obtain ⟨n, -, hwrites⟩ := (hall _ _).mp hread
  exact (writes_isPair_iff.mp hwrites).2 (by decide +kernel)

/-- Neither is a second mark at the front part of a hex text, but it is dropped like the first. -/
theorem not_readsExactly_marks : ¬ ReadsExactly "0x0x04000100" := by
  intro hexact
  have hread : decode? "0x0x04000100" = some [4, 0, 1, 0] := by decide +kernel
  have htrim : trim "0x0x04000100".toList = marks 2 ++ "04000100".toList := by decide +kernel
  have hwrites : Writes IsLoosePair 2 "0x0x04000100" [4, 0, 1, 0] :=
    ⟨_, htrim ▸ isTrimmed_trim _, pairs?_eq_some_iff.mp (by decide +kernel)⟩
  exact ((hexact _).mp hread).not_isLooseText _ ⟨2, hwrites, .inl (Nat.le_refl _)⟩

end Telemetry.Text.Hex
