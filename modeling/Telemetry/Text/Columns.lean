import Telemetry.Text.Ligature
import Telemetry.Text.Pictograph
/-!
# Telemetry.Text.Columns

**Columns that a line takes** in a fixed-pitch terminal. Characters add up, except where
several of them are shown as one sign: pictographs under a variation selector, with a
skin tone or joined by a zero width joiner, flags, and letters that merge.

What a character adds depends only on what follows it, so the line is read from its end
(`Ahead.step`), and all that is kept of the part read is what it begins with (`Ahead`).
-/

namespace Telemetry.Text

/-- What a stretch of text begins with, as far as a character in front of it can merge
with that. Where a flag `joined` is kept, it tells whether a joiner stands first. -/
inductive Onset
  | plain
  /-- A sign in colour. -/
  | emoji
  | skinTone
  /-- A joiner and a sign in colour, and these under an enclosing keycap. -/
  | joinedEmoji
  | joinedKeycap
  /-- A regional indicator, and several. -/
  | indicator
  | indicators
  /-- One regional indicator, or a run of them, that a joiner ties to a sign in colour. -/
  | joinedIndicator
  | joinedIndicators (even : Bool)
  /-- The end of a flag written in tags that a joiner ties to a sign in colour. -/
  | joinedTags (letters digits : Nat)
  | alef
  /-- The Hebrew letter lamed. -/
  | lamed (joined : Bool)
  /-- The Buginese letter ya, and the vowel sign i with a joiner and that letter. -/
  | ya (joined : Bool)
  | iYa
  /-- A consonant of Tifinagh, and the consonant joiner with one. -/
  | tifinagh (joined : Bool)
  | tifinaghJoiner
  /-- A tone letter of Lisu that can stand last in a pair. -/
  | tone
  /-- The Old Turkic letter i. -/
  | orkhonI (joined : Bool)
  /-- A Khmer letter that has a form below the line. -/
  | subjoined
  /-- The vowel signs e and ai of Kirat Rai. -/
  | vowelE
  | vowelAi
  deriving DecidableEq

namespace Onset

/-- What a text begins with whose first character merges with nothing after it. -/
def ofChar (c : Char) : Onset :=
  if isAlef c then alef
  else if isSubjoinable c then subjoined
  else if isTifinaghConsonant c then tifinagh false
  else if isFinalTone c then tone
  else if isRegionalIndicator c then indicator
  else if isSkinTone c then skinTone
  else if isColourful c then emoji
  else
    match c.toNat with
    | 0x5dc => lamed false
    | 0x1a10 => ya false
    | 0x10c03 => orkhonI false
    | 0x16d67 => vowelE
    | 0x16d68 => vowelAi
    | _ => plain

/-- Whether the text begins with a letter that a letter in front of it merges with, also
across ignored marks. -/
def isLetter : Onset → Bool
  | alef | lamed _ | ya _ | iYa | tifinagh _ | tifinaghJoiner | tone | orkhonI _ | subjoined => true
  | _ => false

def isJoinedSign : Onset → Bool
  | joinedEmoji | joinedKeycap => true
  | _ => false

/-- The same letter behind a joiner. -/
def join : Onset → Onset
  | lamed _ => lamed true
  | ya _ => ya true
  | tifinagh _ => tifinagh true
  | orkhonI _ => orkhonI true
  | o => o

/-- What a character adds that merges with what follows it, and what the text then begins
with. A part of a sign that is already counted adds nothing, and one that makes the sign
narrower than its parts takes back a column. -/
def merge (c : Char) : Onset → Option (Int × Onset)
  | plain | joinedKeycap | lamed false | ya false | orkhonI false => none
  | emoji => if c = '\u200d' then some (0, joinedEmoji) else none
  | skinTone =>
    if isSkinned c then some (0, emoji)
    else if c = '\u200d' then some (0, joinedEmoji) else none
  | joinedEmoji =>
    if c = '\u20e3' then some (0, joinedKeycap)
    else if isRegionalIndicator c then some (1, joinedIndicator)
    else if isSkinTone c then some (0, skinTone)
    else if c.toNat = 0xe007f then some (0, joinedTags 0 0)
    else if isColourful c then some (0, emoji) else none
  | indicator => if isRegionalIndicator c then some (1, indicators) else none
  | indicators =>
    if isRegionalIndicator c then some (1, indicators)
    else if c = '\u200d' then some (0, joinedEmoji) else none
  | joinedIndicator =>
    if isRegionalIndicator c then some (-1, joinedIndicators true) else none
  | joinedIndicators even =>
    if isRegionalIndicator c then some (if even then 3 else -1, joinedIndicators !even)
    else if c = '\u200d' then some (0, joinedEmoji) else none
  | joinedTags letters digits =>
    if c.toNat = 0x1f3f4 ∧ (digits = 0 ∧ 3 ≤ letters ∨ digits = 3) then some (0, emoji)
    else if 0xe0061 ≤ c.toNat ∧ c.toNat ≤ 0xe007a ∧ digits = 0 ∧ letters < 6 then
      some (0, joinedTags (letters + 1) 0)
    else if 0xe0030 ≤ c.toNat ∧ c.toNat ≤ 0xe0039 ∧ digits < 3 ∧ letters ≤ 4 then
      some (0, joinedTags letters (digits + 1))
    else none
  | alef =>
    if isLam c then some (0, plain) else if isTransparent c then some (0, alef) else none
  | lamed true => if c = '\u05d0' then some (0, plain) else none
  | ya true => if c = '\u1a17' then some (0, iYa) else none
  | iYa => if c = '\u1a15' then some (0, plain) else none
  | tifinagh joined =>
    if c = '\u2d7f' then some (1, tifinaghJoiner)
    else if joined && isTifinaghConsonant c then some (0, plain) else none
  | tifinaghJoiner => if isTifinaghConsonant c then some (-1, plain) else none
  | tone => if isLeadingTone c then some (0, plain) else none
  | orkhonI true => if c.toNat = 0x10c32 then some (0, plain) else none
  | subjoined => if c = '\u17d2' then some (-1, plain) else none
  | vowelE =>
    match c.toNat with
    | 0x16d63 | 0x16d69 => some (0, plain)
    | 0x16d67 => some (0, vowelAi)
    | 0x16d68 => some (1, vowelE)
    | _ => none
  | vowelAi => if c.toNat = 0x16d63 then some (0, plain) else none

end Onset

/-- What a variation selector asks for: a pictograph in colour, a pictograph in outline, or
a fullwidth quotation mark. -/
inductive Selector
  | colour
  | outline
  | fullwidth
  deriving DecidableEq

def Selector.ofChar? (c : Char) : Option Selector :=
  if c = '\ufe0f' then some .colour
  else if c = '\ufe0e' then some .outline
  else if c = '\ufe01' then some .fullwidth
  else none

/-- The quotation marks that a variation selector widens. -/
def isQuotationMark (c : Char) : Bool :=
  c = '\u2018' || c = '\u2019' || c = '\u201c' || c = '\u201d'

/-- The beginning of the text after a character: variation selectors, which ask for a form
of the character, and what stands behind them. Where a letter stands there, the selectors
in front of it add up; otherwise only the first one is kept. -/
structure Ahead where
  selectors : List Selector
  onset : Onset

namespace Ahead

/-- Nothing that a character could merge with. -/
def nothing : Ahead := ⟨[], .plain⟩

/-- Whether a sign in front of the text is asked for in colour, which only the selector
right behind it can do. -/
def asksColour (a : Ahead) : Bool := a.selectors.head? == some .colour

/-- The text behind selectors that have no use for the character in front of them. Letters
merge across them, and nothing else does. -/
def settled (a : Ahead) : Onset :=
  if !a.selectors.isEmpty && !a.onset.isLetter then .plain else a.onset

/-- The text with one more selector in front of it. A selector for colour leaves a joiner
and the sign behind it together. -/
def select (a : Ahead) (s : Selector) : Ahead :=
  if a.settled.isLetter then ⟨s :: a.selectors, a.settled⟩
  else ⟨[s], if s = .colour && a.settled.isJoinedSign then a.settled else .plain⟩

/-- What a character adds to the columns of the text after it, and what the text then
begins with. Characters up to the no-break space merge with nothing. -/
def step (a : Ahead) (c : Char) : Int × Ahead :=
  if a.asksColour ∧ isTwofold c then
    (if a.onset.isJoinedSign then 0 else 2, ⟨[], .emoji⟩)
  else if c ≤ '\u00a0' then (1, nothing)
  else
    match Selector.ofChar? c with
    | some s => (0, a.select s)
    | none =>
      if a.selectors.contains .outline ∧ isOutlinable c then (1, nothing)
      else if a.selectors.contains .fullwidth ∧ isQuotationMark c then (2, nothing)
      else if a.settled.isLetter ∧ a.settled ≠ .alef ∧ c = '\u200d' then
        (0, ⟨[], a.settled.join⟩)
      else if a.settled.isLetter ∧ a.settled ≠ .alef ∧ isIgnoredMark c then
        (0, ⟨[], a.settled⟩)
      else
        match a.settled.merge c with
        | some (columns, onset) => (columns, ⟨[], onset⟩)
        | none => (charWidth c, ⟨[], .ofChar c⟩)

end Ahead

/-- The columns of a text, and what it begins with. -/
def scanLine (line : List Char) : Int × Ahead :=
  line.foldr (fun c (columns, ahead) =>
    let (added, ahead) := ahead.step c
    (columns + added, ahead)) (0, .nothing)

/-- How many columns a line takes. -/
def lineWidth (line : List Char) : Nat := (scanLine line).1.toNat

end Telemetry.Text
