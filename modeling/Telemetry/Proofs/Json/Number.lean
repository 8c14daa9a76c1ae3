import Mathlib.Data.List.Basic
import Telemetry.Json.Reader
import Telemetry.Json.Writer
import Telemetry.Proofs.Decimal.Shortest
/-!
# Telemetry.Proofs.Json.Number

**A number that is written reads back as it was**, in its form and in its value. The digits of
a decimal may be set out with a point anywhere and with or without an exponent; as reading
depends on the value only (`Decimal.nearestIndex_mul_pow`), it is enough that each layout keeps
the value.

The main statement is `scanNumber_renderNumber`, which reads a number off the front of a text
that goes on with something that cannot belong to it.
-/

namespace Telemetry.Json

open Decimal (readDigits)

/-! ### Digits -/

theorem readDigits_append (start : Nat) (ds es : List Char) :
    readDigits start (ds ++ es) = readDigits (readDigits start ds) es :=
  List.foldl_append

theorem readDigits_toDigits (n : Nat) : readDigits 0 (Nat.toDigits 10 n) = n :=
  Nat.ofDigitChars_ten_toDigits

theorem readDigits_zeros (start n : Nat) :
    readDigits start (Layout.zeros n) = start * 10 ^ n := by
  rw [Nat.mul_comm]
  exact Nat.ofDigitChars_replicate_zero

theorem isDigit_of_mem_toDigits {n : Nat} {c : Char} (h : c ∈ Nat.toDigits 10 n) :
    c.isDigit = true :=
  Nat.isDigit_of_mem_toDigits (by decide) (by decide) h

theorem isDigit_of_mem_zeros {n : Nat} {c : Char} (h : c ∈ Layout.zeros n) : c.isDigit = true := by
  obtain rfl := List.eq_of_mem_replicate h
  rfl

/-- Only zero has the leading digit zero. -/
theorem head?_toDigits_ne {n : Nat} (hn : n ≠ 0) : (Nat.toDigits 10 n).head? ≠ some '0' := by
  induction n using Nat.strong_induction_on with
  | h n ih =>
    rcases Nat.lt_or_ge n 10 with hlt | hge
    · rw [Nat.toDigits_of_lt_base hlt]
      have hdigit : ∀ m < 10, m ≠ 0 → [Nat.digitChar m].head? ≠ some '0' := by decide
      exact hdigit n hlt hn
    · rw [Nat.toDigits_of_base_le (by decide) hge,
        List.head?_append_of_ne_nil _ Nat.toDigits_ne_nil]
      exact ih (n / 10) (by omega) (by omega)

/-! ### What may follow a number -/

/-- The text does not go on with a digit. -/
def NoDigit (cs : List Char) : Prop := ∀ c ∈ cs.head?, c.isDigit = false

/-- The text is at its end or goes on with a comma or a closing bracket. -/
def Delimited (cs : List Char) : Prop := ∀ c ∈ cs.head?, c = ',' ∨ c = ']' ∨ c = '\x7d'

theorem Delimited.noDigit {cs : List Char} (h : Delimited cs) : NoDigit cs := by
  intro c hc
  rcases h c hc with rfl | rfl | rfl <;> rfl

theorem noDigit_cons {c : Char} (h : c.isDigit = false) (cs : List Char) : NoDigit (c :: cs) := by
  intro d hd
  cases hd
  exact h

theorem takeWhile_digits {ds cs : List Char} (hds : ∀ c ∈ ds, c.isDigit = true) (hcs : NoDigit cs) :
    (ds ++ cs).takeWhile Char.isDigit = ds := by
  rw [List.takeWhile_append_of_pos hds]
  cases cs with
  | nil => simp
  | cons c cs => simp [hcs c rfl]

theorem dropWhile_digits {ds cs : List Char} (hds : ∀ c ∈ ds, c.isDigit = true) (hcs : NoDigit cs) :
    (ds ++ cs).dropWhile Char.isDigit = cs := by
  rw [List.dropWhile_append_of_pos hds]
  cases cs with
  | nil => rfl
  | cons c cs => simp [hcs c rfl]

/-! ### The parts of a number -/

/-- The digits before the point: at least one, and no zero before another. -/
structure IsWhole (ds : List Char) : Prop where
  digits : ∀ c ∈ ds, c.isDigit = true
  ne_nil : ds ≠ []
  no_leading_zero : ds.head? = some '0' → ds.length = 1

theorem isWhole_toDigits (n : Nat) : IsWhole (Nat.toDigits 10 n) where
  digits _ := isDigit_of_mem_toDigits
  ne_nil := Nat.toDigits_ne_nil
  no_leading_zero h := by
    obtain rfl : n = 0 := by
      by_contra hn
      exact head?_toDigits_ne hn h
    rfl

theorem fractionPart_of_digits {ds cs : List Char} (hds : ∀ c ∈ ds, c.isDigit = true)
    (hne : ds ≠ []) (hcs : NoDigit cs) : fractionPart ('.' :: (ds ++ cs)) = some (some ds, cs) := by
  simp [fractionPart, takeWhile_digits hds hcs, dropWhile_digits hds hcs, hne]

theorem Delimited.fractionPart_eq {cs : List Char} (h : Delimited cs) :
    fractionPart cs = some (none, cs) := by
  cases cs with
  | nil => rfl
  | cons c cs => rcases h c rfl with rfl | rfl | rfl <;> rfl

theorem Delimited.exponentPart_eq {cs : List Char} (h : Delimited cs) :
    exponentPart cs = some (none, cs) := by
  cases cs with
  | nil => rfl
  | cons c cs => rcases h c rfl with rfl | rfl | rfl <;> rfl

theorem unsignedNumber_eq {negative : Bool} {whole cs cs' rest : List Char}
    {fraction : Option (List Char)} {exponent : Option Int} (hwhole : IsWhole whole)
    (hcs : NoDigit cs) (hfraction : fractionPart cs = some (fraction, cs'))
    (hexponent : exponentPart cs' = some (exponent, rest)) :
    unsignedNumber negative (whole ++ cs) =
      (if fraction.isNone && exponent.isNone then wholeNumber negative (readDigits 0 whole)
        else realNumber negative whole (fraction.getD []) (exponent.getD 0)).map (·, rest) := by
  have hlead : (whole.isEmpty || whole.head? == some '0' && decide (whole.length ≠ 1)) = false := by
    have hempty := List.isEmpty_eq_false_iff.mpr hwhole.ne_nil
    have hzero := hwhole.no_leading_zero
    simpa [hempty] using hzero
  unfold unsignedNumber
  rw [takeWhile_digits hwhole.digits hcs, dropWhile_digits hwhole.digits hcs]
  dsimp only
  rw [hlead, hfraction, if_neg Bool.false_ne_true]
  dsimp only [Option.bind_eq_bind, Option.bind_some]
  rw [hexponent]
  dsimp only [Option.bind_some]
  split
  · exact (Option.map_eq_bind ..).symm
  · exact (Option.map_eq_bind ..).symm

/-- A number starts with a digit. -/
theorem exists_digit_of_unsignedNumber {negative : Bool} {cs : List Char} {n : JsonNumber}
    {rest : List Char} (h : unsignedNumber negative cs = some (n, rest)) :
    ∃ c tail, cs = c :: tail ∧ c.isDigit = true := by
  cases cs with
  | nil => simp [unsignedNumber] at h
  | cons c tail =>
    cases hc : c.isDigit with
    | true => exact ⟨c, tail, rfl, hc⟩
    | false => simp [unsignedNumber, hc] at h

theorem scanNumber_of_unsignedNumber {cs : List Char} {n : JsonNumber} {rest : List Char}
    (h : unsignedNumber false cs = some (n, rest)) : scanNumber cs = some (n, rest) := by
  obtain ⟨c, tail, rfl, hc⟩ := exists_digit_of_unsignedNumber h
  unfold scanNumber
  split
  · rename_i heq
    obtain ⟨rfl, -⟩ := List.cons.inj heq
    exact absurd hc (by decide)
  · exact h

/-- A number starts with a digit or its sign. -/
theorem exists_of_scanNumber {cs : List Char} {n : JsonNumber} {rest : List Char}
    (h : scanNumber cs = some (n, rest)) :
    ∃ c tail, cs = c :: tail ∧ (c.isDigit = true ∨ c = '-') := by
  unfold scanNumber at h
  split at h
  · exact ⟨_, _, rfl, Or.inr rfl⟩
  · obtain ⟨c, tail, rfl, hc⟩ := exists_digit_of_unsignedNumber h
    exact ⟨c, tail, rfl, Or.inl hc⟩

/-! ### Whole numbers -/

theorem unsignedNumber_toDigits {negative : Bool} (n : Nat) {rest : List Char}
    (hrest : Delimited rest) : unsignedNumber negative (Nat.toDigits 10 n ++ rest) =
      (wholeNumber negative n).map (·, rest) := by
  rw [unsignedNumber_eq (isWhole_toDigits n) hrest.noDigit hrest.fractionPart_eq
    hrest.exponentPart_eq, readDigits_toDigits]
  rfl

theorem wholeNumber_toNat (n : UInt64) : wholeNumber false n.toNat = some (.unsigned n) := by
  have hlt : n.toNat < UInt64.size := n.toNat_lt
  simp [wholeNumber, hlt]

theorem wholeNumber_natAbs {n : Int64} (hn : n < 0) :
    wholeNumber true n.toInt.natAbs = some (.signed n) := by
  have hneg : n.toInt < 0 := Int64.lt_iff_toInt_lt.mp hn
  have hlow := n.le_toInt
  have hpos : 0 < n.toInt.natAbs := by omega
  have hle : 2 * n.toInt.natAbs ≤ UInt64.size := by
    unfold UInt64.size
    omega
  have hback : -(n.toInt.natAbs : Int) = n.toInt := by omega
  unfold wholeNumber
  rw [if_neg (by simp), if_pos (by simp [hpos, hle]), hback, Int64.ofInt_toInt]

/-! ### Real numbers -/

theorem realNumber_eq {negative : Bool} {whole fraction : List Char} {exponent : Int} {d : Decimal}
    (hfinite : (d.toBinary64 negative).isFinite = true)
    (hvalue : Decimal.nearestIndex ⟨readDigits 0 (whole ++ fraction), exponent - fraction.length⟩ =
      d.nearestIndex) :
    realNumber negative whole fraction exponent = some (.real (d.toBinary64 negative)) := by
  have hsame : Decimal.toBinary64 negative
      ⟨readDigits 0 (whole ++ fraction), exponent - fraction.length⟩ = d.toBinary64 negative := by
    rw [Decimal.toBinary64_eq, Decimal.toBinary64_eq, hvalue]
  unfold realNumber
  rw [← readDigits_append]
  dsimp only
  rw [hsame, if_pos hfinite]

section Layouts

variable {negative : Bool} {d : Decimal} {rest : List Char}

/-- Digits with a point among them are read as the decimal that they make. -/
theorem unsignedNumber_point {whole fraction : List Char}
    (hfinite : (d.toBinary64 negative).isFinite = true) (hwhole : IsWhole whole)
    (hfraction : ∀ c ∈ fraction, c.isDigit = true) (hne : fraction ≠ [])
    (hvalue : Decimal.nearestIndex ⟨readDigits 0 (whole ++ fraction), -fraction.length⟩ =
      d.nearestIndex) (hrest : Delimited rest) :
    unsignedNumber negative (whole ++ '.' :: fraction ++ rest) =
      some (.real (d.toBinary64 negative), rest) := by
  have hreal : realNumber negative whole fraction 0 = some (.real (d.toBinary64 negative)) :=
    realNumber_eq hfinite (by rw [Int.zero_sub, hvalue])
  rw [List.append_assoc, List.cons_append, unsignedNumber_eq hwhole (noDigit_cons rfl _)
    (fractionPart_of_digits hfraction hne hrest.noDigit) hrest.exponentPart_eq]
  simp [hreal]

/-- Digits that are all before the point are filled up with zeros. -/
theorem unsignedNumber_positional_of_nonneg
    (hfinite : (d.toBinary64 negative).isFinite = true) (hexp : 0 ≤ d.exponent)
    (hzero : d.digits = 0 → d.exponent = 0) (hrest : Delimited rest) :
    unsignedNumber negative
        (numberLayout.positional (Nat.toDigits 10 d.digits) d.exponent ++ rest) =
      some (.real (d.toBinary64 negative), rest) := by
  have htext : numberLayout.positional (Nat.toDigits 10 d.digits) d.exponent =
      (Nat.toDigits 10 d.digits ++ Layout.zeros d.exponent.toNat) ++ '.' :: Layout.zeros 1 := by
    simp [Layout.positional, hexp, numberLayout, Layout.zeros]
  have hwhole : IsWhole (Nat.toDigits 10 d.digits ++ Layout.zeros d.exponent.toNat) := by
    refine ⟨?_, by simp [Nat.toDigits_ne_nil], ?_⟩
    · intro c hc
      rcases List.mem_append.mp hc with hc | hc
      · exact isDigit_of_mem_toDigits hc
      · exact isDigit_of_mem_zeros hc
    · rw [List.head?_append_of_ne_nil _ Nat.toDigits_ne_nil]
      intro hhead
      have hdigits : d.digits = 0 := by
        by_contra hne
        exact head?_toDigits_ne hne hhead
      simp [hzero hdigits, hdigits, Layout.zeros]
  rw [htext]
  refine unsignedNumber_point hfinite hwhole (fun _ => isDigit_of_mem_zeros) (by decide) ?_ hrest
  rw [readDigits_append, readDigits_append, readDigits_toDigits, readDigits_zeros,
    readDigits_zeros, Decimal.nearestIndex_mul_pow, Decimal.nearestIndex_mul_pow]
  congr 1
  simp [Layout.zeros, hexp]

/-- The digits of a number with zeros before them, so that there are more than `places`. -/
def padded (n places : Nat) : List Char :=
  Layout.zeros (places + 1 - (Nat.toDigits 10 n).length) ++ Nat.toDigits 10 n

theorem isDigit_of_mem_padded {n places : Nat} {c : Char} (h : c ∈ padded n places) :
    c.isDigit = true := by
  rcases List.mem_append.mp h with h | h
  · exact isDigit_of_mem_zeros h
  · exact isDigit_of_mem_toDigits h

theorem readDigits_padded (n places : Nat) : readDigits 0 (padded n places) = n := by
  rw [padded, readDigits_append, readDigits_zeros, Nat.zero_mul, readDigits_toDigits]

theorem length_padded (n places : Nat) :
    (padded n places).length = max (places + 1) (Nat.toDigits 10 n).length := by
  rw [padded, List.length_append, Layout.zeros, List.length_replicate]
  omega

/-- If there are zeros in front, they make up what is missing. -/
theorem length_padded_of_head? {n places : Nat} (hn : n ≠ 0)
    (h : (padded n places).head? = some '0') : (padded n places).length = places + 1 := by
  rw [length_padded]
  rcases Nat.lt_or_ge places (Nat.toDigits 10 n).length with hlt | hge
  · rw [padded, Nat.sub_eq_zero_of_le hlt] at h
    exact absurd h (head?_toDigits_ne hn)
  · omega

/-- Digits with the point among or before them have one digit before the point at least. -/
theorem exists_positional_of_neg (hexp : d.exponent < 0) (hdigits : d.digits ≠ 0) :
    ∃ whole fraction, numberLayout.positional (Nat.toDigits 10 d.digits) d.exponent =
        whole ++ '.' :: fraction ∧
      IsWhole whole ∧ (∀ c ∈ fraction, c.isDigit = true) ∧ (fraction.length : Int) = -d.exponent ∧
      readDigits 0 (whole ++ fraction) = d.digits := by
  obtain ⟨places, hplaces⟩ : ∃ places : Nat, (-d.exponent).toNat = places := ⟨_, rfl⟩
  have htext : numberLayout.positional (Nat.toDigits 10 d.digits) d.exponent =
      (padded d.digits places).take ((padded d.digits places).length - places) ++
        '.' :: (padded d.digits places).drop ((padded d.digits places).length - places) := by
    rw [Layout.positional, if_neg (Int.not_le.mpr hexp), hplaces]
    rfl
  have hlen : places + 1 ≤ (padded d.digits places).length := by
    rw [length_padded]
    exact Nat.le_max_left _ _
  refine ⟨_, _, htext, ⟨?_, ?_, ?_⟩, ?_, ?_, ?_⟩
  · intro c hc
    exact isDigit_of_mem_padded (List.mem_of_mem_take hc)
  · rw [← List.length_pos_iff, List.length_take]
    omega
  · rw [List.head?_take, if_neg (by omega), List.length_take]
    intro hhead
    have hone := length_padded_of_head? hdigits hhead
    omega
  · intro c hc
    exact isDigit_of_mem_padded (List.mem_of_mem_drop hc)
  · rw [List.length_drop]
    omega
  · rw [List.take_append_drop, readDigits_padded]

theorem unsignedNumber_positional_of_neg (hfinite : (d.toBinary64 negative).isFinite = true)
    (hexp : d.exponent < 0) (hdigits : d.digits ≠ 0) (hrest : Delimited rest) :
    unsignedNumber negative
        (numberLayout.positional (Nat.toDigits 10 d.digits) d.exponent ++ rest) =
      some (.real (d.toBinary64 negative), rest) := by
  obtain ⟨whole, fraction, htext, hwhole, hfraction, hlength, hread⟩ :=
    exists_positional_of_neg hexp hdigits
  have hne : fraction ≠ [] := by
    rw [← List.length_pos_iff]
    omega
  rw [htext]
  refine unsignedNumber_point hfinite hwhole hfraction hne ?_ hrest
  rw [hread, hlength, Int.neg_neg]

/-- An exponent with its sign. -/
def exponentText (lead : Int) : List Char :=
  'e' :: (if lead < 0 then ['-'] else ['+']) ++ Nat.toDigits 10 lead.natAbs

theorem exponentPart_exponentText (lead : Int) (hrest : NoDigit rest) :
    exponentPart (exponentText lead ++ rest) = some (some lead, rest) := by
  obtain ⟨n, hn⟩ : ∃ n, lead.natAbs = n := ⟨_, rfl⟩
  have hdigits : ∀ c ∈ Nat.toDigits 10 n, c.isDigit = true := fun _ => isDigit_of_mem_toDigits
  unfold exponentText
  rw [hn]
  split
  · have hneg : -(n : Int) = lead := by omega
    simp [exponentPart, exponentSign, takeWhile_digits hdigits hrest,
      dropWhile_digits hdigits hrest, Nat.toDigits_ne_nil, readDigits_toDigits, hneg]
  · have hpos : (n : Int) = lead := by omega
    simp [exponentPart, exponentSign, takeWhile_digits hdigits hrest,
      dropWhile_digits hdigits hrest, Nat.toDigits_ne_nil, readDigits_toDigits, hpos]

/-- Digits with an exponent after them are read as the decimal that they make. -/
theorem unsignedNumber_exponent {whole fraction : List Char} {lead : Int}
    (hfinite : (d.toBinary64 negative).isFinite = true) (hwhole : IsWhole whole)
    (hfraction : ∀ c ∈ fraction, c.isDigit = true)
    (hvalue : Decimal.nearestIndex ⟨readDigits 0 (whole ++ fraction), lead - fraction.length⟩ =
      d.nearestIndex) (hrest : Delimited rest) :
    unsignedNumber negative (whole ++ ((if fraction = [] then [] else '.' :: fraction) ++
        (exponentText lead ++ rest))) = some (.real (d.toBinary64 negative), rest) := by
  have hreal := realNumber_eq hfinite hvalue
  have hexponent := exponentPart_exponentText lead hrest.noDigit
  have hmark : NoDigit (exponentText lead ++ rest) := noDigit_cons rfl _
  split
  · rename_i hnil
    rw [hnil] at hreal
    rw [List.nil_append, unsignedNumber_eq hwhole hmark rfl hexponent]
    show (realNumber negative whole [] lead).map (·, rest) = _
    rw [hreal]
    rfl
  · rename_i hne
    rw [List.cons_append, unsignedNumber_eq hwhole (noDigit_cons rfl _)
      (fractionPart_of_digits hfraction hne hmark) hexponent]
    show (realNumber negative whole fraction lead).map (·, rest) = _
    rw [hreal]
    rfl

theorem unsignedNumber_scientific (hfinite : (d.toBinary64 negative).isFinite = true)
    (hrest : Delimited rest) :
    unsignedNumber negative
        (numberLayout.scientific (Nat.toDigits 10 d.digits)
          (d.exponent + (Nat.toDigits 10 d.digits).length - 1) ++ rest) =
      some (.real (d.toBinary64 negative), rest) := by
  obtain ⟨lead, hlead⟩ : ∃ lead, d.exponent + (Nat.toDigits 10 d.digits).length - 1 = lead :=
    ⟨_, rfl⟩
  have htext : numberLayout.scientific (Nat.toDigits 10 d.digits) lead ++ rest =
      (Nat.toDigits 10 d.digits).take 1 ++
        ((if (Nat.toDigits 10 d.digits).drop 1 = [] then []
          else '.' :: (Nat.toDigits 10 d.digits).drop 1) ++ (exponentText lead ++ rest)) := by
    simp only [Layout.scientific, numberLayout, exponentText, List.drop_eq_nil_iff, if_true,
      List.append_assoc, List.cons_append]
  have hpos : 0 < (Nat.toDigits 10 d.digits).length := Nat.length_toDigits_pos
  have hwhole : IsWhole ((Nat.toDigits 10 d.digits).take 1) := by
    refine ⟨fun c hc => isDigit_of_mem_toDigits (List.mem_of_mem_take hc), ?_, fun _ => ?_⟩
    · simp [Nat.toDigits_ne_nil]
    · rw [List.length_take]
      omega
  rw [hlead, htext]
  refine unsignedNumber_exponent hfinite hwhole
    (fun c hc => isDigit_of_mem_toDigits (List.mem_of_mem_drop hc)) ?_ hrest
  rw [List.take_append_drop, readDigits_toDigits]
  congr 2
  rw [List.length_drop]
  omega

/-- **A decimal is read back however it is set out.** -/
theorem unsignedNumber_decimal (hfinite : (d.toBinary64 negative).isFinite = true)
    (hrest : Delimited rest) : unsignedNumber negative (numberLayout.decimal d ++ rest) =
      some (.real (d.toBinary64 negative), rest) := by
  unfold Layout.decimal
  dsimp only
  split
  · rename_i hzero
    have hsame : Decimal.toBinary64 negative ⟨0, 0⟩ = d.toBinary64 negative := by
      rw [Decimal.toBinary64_eq, Decimal.toBinary64_eq,
        Decimal.nearestIndex_of_digits_eq_zero hzero, Decimal.nearestIndex_of_digits_eq_zero rfl]
    rw [← hsame] at hfinite ⊢
    exact unsignedNumber_positional_of_nonneg hfinite (Int.le_refl 0) (fun _ => rfl) hrest
  rename_i hdigits
  split
  · rcases Int.lt_or_le d.exponent 0 with hexp | hexp
    · exact unsignedNumber_positional_of_neg hfinite hexp hdigits hrest
    · exact unsignedNumber_positional_of_nonneg hfinite hexp (fun h => absurd h hdigits) hrest
  · exact unsignedNumber_scientific hfinite hrest

end Layouts

/-! ### Written numbers -/

/-- The numbers that have a text of their own: a whole number is written as `signed` only below
zero, and a real number is finite. -/
inductive WritableNumber : JsonNumber → Prop
  | unsigned (n : UInt64) : WritableNumber (.unsigned n)
  | signed {n : Int64} (h : n < 0) : WritableNumber (.signed n)
  | real {x : Binary64} (h : x.isFinite = true) : WritableNumber (.real x)

theorem toList_text {x : Binary64} (hx : x.isFinite = true) : (numberLayout.text x).toList =
    (if x.negative then ['-'] else []) ++
      numberLayout.decimal (Decimal.shortest numberLayout.tie x.index) := by
  rw [Layout.text, Binary64.isNaN_of_isFinite hx, if_neg Bool.false_ne_true]
  dsimp only
  rw [if_pos hx, String.toList_ofList]

theorem renderNumber_signed {n : Int64} (hn : n < 0) :
    renderNumber (.signed n) = '-' :: Nat.toDigits 10 n.toInt.natAbs := by
  have hneg : n.toInt < 0 := Int64.lt_iff_toInt_lt.mp hn
  show (toString n.toInt).toList = _
  cases hint : n.toInt with
  | ofNat m =>
    rw [hint] at hneg
    exact absurd (Int.natCast_nonneg m) (Int.not_le.mpr hneg)
  | negSucc m =>
    show ("-" ++ (m + 1).repr).toList = _
    simp only [String.toList_append, Nat.repr_eq_ofList_toDigits, String.toList_ofList]
    rfl

/-- **A number reads back off the front of a text.** -/
theorem scanNumber_renderNumber {n : JsonNumber} (hn : WritableNumber n) {rest : List Char}
    (hrest : Delimited rest) : scanNumber (renderNumber n ++ rest) = some (n, rest) := by
  cases hn with
  | unsigned n =>
    apply scanNumber_of_unsignedNumber
    show unsignedNumber false (Nat.toDigits 10 n.toNat ++ rest) = _
    rw [unsignedNumber_toDigits _ hrest, wholeNumber_toNat]
    rfl
  | @signed n hneg =>
    rw [renderNumber_signed hneg]
    show unsignedNumber true (Nat.toDigits 10 n.toInt.natAbs ++ rest) = _
    rw [unsignedNumber_toDigits _ hrest, wholeNumber_natAbs hneg]
    rfl
  | @real x hx =>
    have hback := Decimal.toBinary64_shortest numberLayout.tie hx
    have hdecimal : unsignedNumber x.negative
        (numberLayout.decimal (Decimal.shortest numberLayout.tie x.index) ++ rest) =
        some (.real x, rest) := by
      rw [unsignedNumber_decimal (by rw [hback, hx]) hrest, hback]
    show scanNumber ((numberLayout.text x).toList ++ rest) = _
    rw [toList_text hx]
    cases hneg : x.negative with
    | true =>
      rw [hneg] at hdecimal
      exact hdecimal
    | false =>
      rw [hneg] at hdecimal
      exact scanNumber_of_unsignedNumber hdecimal

end Telemetry.Json
