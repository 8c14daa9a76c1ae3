import Telemetry.Text.Blank
/-!
# Telemetry.Text.Hex

**Bytes as hexadecimal text.** `encode` writes two lower-case digits for each byte.

`decode?` is lenient about what people paste: blanks anywhere, any number of `0x`
marks at the front, digits of either case. What is left is read in pairs, each a
number in base sixteen, where a plus sign may stand in the place of a leading zero.
-/

namespace Telemetry.Text.Hex

/-- The two digits of a byte. -/
def encodeByte (b : UInt8) : List Char :=
  [Nat.digitChar (b.toNat / 16), Nat.digitChar (b.toNat % 16)]

def encode (bytes : List UInt8) : String := String.ofList (bytes.flatMap encodeByte)

def digit? (c : Char) : Option Nat :=
  if '0' ≤ c ∧ c ≤ '9' then some (c.toNat - '0'.toNat)
  else if 'a' ≤ c ∧ c ≤ 'f' then some (c.toNat - 'a'.toNat + 10)
  else if 'A' ≤ c ∧ c ≤ 'F' then some (c.toNat - 'A'.toNat + 10)
  else none

/-- The number that a pair of characters spells. -/
def pair? (high low : Char) : Option UInt8 := do
  let h ← if high = '+' then some 0 else digit? high
  let l ← digit? low
  return UInt8.ofNat (16 * h + l)

/-- The bytes of a text of pairs. -/
def pairs? : List Char → Option (List UInt8)
  | [] => some []
  | [_] => none
  | high :: low :: rest => do
    let b ← pair? high low
    let bs ← pairs? rest
    return b :: bs

theorem digit?_digitChar {n : Nat} (h : n < 16) : digit? (Nat.digitChar n) = some n := by
  have all : ∀ m : Fin 16, digit? (Nat.digitChar m.val) = some m.val := by decide
  exact all ⟨n, h⟩

theorem digitChar_ne_plus {n : Nat} (h : n < 16) : Nat.digitChar n ≠ '+' := by
  have all : ∀ m : Fin 16, Nat.digitChar m.val ≠ '+' := by decide
  exact all ⟨n, h⟩

/-- The two digits of a byte are read as that byte. -/
theorem pairs?_encodeByte (b : UInt8) (rest : List Char) :
    pairs? (encodeByte b ++ rest) = (pairs? rest).map (b :: ·) := by
  have hlt := b.toNat_lt
  have hhigh : b.toNat / 16 < 16 := by omega
  have hlow : b.toNat % 16 < 16 := by omega
  have hpair : pair? (Nat.digitChar (b.toNat / 16)) (Nat.digitChar (b.toNat % 16)) = some b := by
    rw [pair?, if_neg (digitChar_ne_plus hhigh), digit?_digitChar hhigh, digit?_digitChar hlow]
    show some (UInt8.ofNat (16 * (b.toNat / 16) + b.toNat % 16)) = some b
    rw [Nat.div_add_mod, UInt8.ofNat_toNat]
  show pairs? (_ :: _ :: rest) = _
  rw [pairs?, hpair]
  cases pairs? rest <;> rfl

/-- Drops every `0x` mark at the front. -/
def dropMarks : List Char → List Char
  | '0' :: 'x' :: rest => dropMarks rest
  | cs => cs

def decode? (text : String) : Option (List UInt8) :=
  pairs? ((dropMarks (trim text.toList)).filter fun c => !isBlank c)

theorem pairs?_flatMap_encodeByte (bytes : List UInt8) :
    pairs? (bytes.flatMap encodeByte) = some bytes := by
  induction bytes with
  | nil => rfl
  | cons b rest ih =>
    rw [List.flatMap_cons, pairs?_encodeByte, ih]
    rfl

/-- No digit is a blank or belongs to a mark. -/
theorem digit_plain {bytes : List UInt8} {c : Char} (h : c ∈ bytes.flatMap encodeByte) :
    isBlank c = false ∧ c ≠ 'x' := by
  have hall : ∀ n : Fin 16, isBlank (Nat.digitChar n.val) = false ∧ Nat.digitChar n.val ≠ 'x' := by
    decide
  obtain ⟨b, -, hc⟩ := List.mem_flatMap.mp h
  have hlt := b.toNat_lt
  simp only [encodeByte, List.mem_cons, List.not_mem_nil, or_false] at hc
  rcases hc with rfl | rfl
  · exact hall ⟨b.toNat / 16, by omega⟩
  · exact hall ⟨b.toNat % 16, by omega⟩

theorem dropMarks_of_not_mem {cs : List Char} (h : 'x' ∉ cs) : dropMarks cs = cs := by
  unfold dropMarks
  split
  · simp at h
  · rfl

/-- **Bytes that were written are read back**, whatever blanks follow them. -/
theorem decode?_encode (bytes : List UInt8) {blanks : String}
    (h : ∀ c ∈ blanks.toList, isBlank c = true) : decode? (encode bytes ++ blanks) = some bytes := by
  have hplain : ∀ c ∈ bytes.flatMap encodeByte, isBlank c = false := fun c hc => (digit_plain hc).1
  have htrim : trim (encode bytes ++ blanks).toList = bytes.flatMap encodeByte := by
    rw [String.toList_append, encode, String.toList_ofList]
    exact trim_append hplain h
  have hkept : (bytes.flatMap encodeByte).filter (fun c => !isBlank c) =
      bytes.flatMap encodeByte := by
    rw [List.filter_eq_self]
    intro c hc
    rw [hplain c hc]
    rfl
  rw [decode?, htrim, dropMarks_of_not_mem fun hx => (digit_plain hx).2 rfl, hkept,
    pairs?_flatMap_encodeByte]

end Telemetry.Text.Hex
