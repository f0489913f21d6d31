import EntityRelationship.Text.Character
import EntityRelationship.Text.Table.Emoji
import EntityRelationship.Text.Table.Ligature

/-!
# Clusters

Some characters are shown together with their neighbors, and take fewer or more columns than by
themselves: the parts of a family of emoji, a flag, a letter with a selector of its style, or two
letters that are joined into one shape. A text is measured from its end to its beginning. What has
been measured leaves a context, which tells how the character before it is shown.

A step gives the columns that a character settles. The columns of a cluster that the next character
may still change are pending, and are settled with that character.
-/

namespace EntityRelationship.Text

/-! ## Classes of characters -/

/-- Whether a character is shown as an emoji by itself. -/
def isEmoji (c : Char) : Bool :=
  inRanges emojiRanges c.toNat

/-- Whether a character can be shown in emoji style on request. -/
def takesEmojiStyle (c : Char) : Bool :=
  inRanges twoStyleRanges c.toNat

/-- Whether an emoji can be shown in text style on request. An enclosed ideograph stays as wide as
it is. -/
def takesTextStyle (c : Char) : Bool :=
  takesEmojiStyle c && isEmoji c && !inRanges [(0x1F200, 0x1F2FF)] c.toNat

/-- Whether a character is a quotation mark that can be shown in a wide form on request. -/
def takesWideForm (c : Char) : Bool :=
  c == '‘' || c == '’' || c == '“' || c == '”'

/-- Whether a character is a skin tone, which changes the emoji before it. -/
def isSkinTone (c : Char) : Bool :=
  inRanges [(0x1F3FB, 0x1F3FF)] c.toNat

/-- Whether a character shows people or parts of the body, and takes a skin tone. -/
def takesSkinTone (c : Char) : Bool :=
  inRanges skinToneRanges c.toNat

/-- Whether a character is a regional indicator, two of which make a flag. -/
def isIndicator (c : Char) : Bool :=
  inRanges [(0x1F1E6, 0x1F1FF)] c.toNat

/-- Whether a character is a letter of the tag that names the flag of a region. -/
def isTagLetter (c : Char) : Bool :=
  inRanges [(0xE0061, 0xE007A)] c.toNat

/-- Whether a character is a digit of the tag that names the flag of a region. -/
def isTagDigit (c : Char) : Bool :=
  inRanges [(0xE0030, 0xE0039)] c.toNat

/-- The zero-width joiner. -/
def joiner : Char := '\u200D'

/-- The sign that joins two Tifinagh consonants. -/
def consonantSign : Char := '\u2D7F'

/-- Whether a character is a Tifinagh consonant. -/
def isTifinagh (c : Char) : Bool :=
  inRanges tifinaghRanges c.toNat

/-- Whether a character is an invisible mark, which does not part the letters around it. -/
def isInvisibleMark (c : Char) : Bool :=
  inRanges invisibleMarkRanges c.toNat

/-- Whether a character may stand between a lam and an alef that are joined. -/
def isTransparent (c : Char) : Bool :=
  charWidth c == 0 && !inRanges partingRanges c.toNat

/-! ## Ligatures -/

/-- The beginning of a ligature, which is the part that stands last. -/
inductive Ligature where
  /-- An Arabic alef. -/
  | alef
  /-- A Hebrew lamed. -/
  | lamed
  | joinedLamed
  /-- The Buginese letter ya. -/
  | ya
  | joinedYa
  /-- The Buginese vowel i and a joined ya. -/
  | vowelYa
  /-- A Tifinagh consonant. -/
  | consonant
  | joinedConsonant
  /-- A Tifinagh consonant and the sign that joins it to the one before it. -/
  | signedConsonant
  /-- The second part of a tone in the Fraser script. -/
  | tone
  /-- The Old Turkic letter i. -/
  | turkicI
  | joinedTurkicI
  /-- A Khmer letter that can be written below the one before it. -/
  | subscript
  deriving DecidableEq

namespace Ligature

/-- The ligature that a character begins. -/
def ofChar? (c : Char) : Option Ligature :=
  if c.toNat ≤ 0xA0 then none
  else if c = '\u05DC' then some lamed
  else if inRanges alefRanges c.toNat then some alef
  else if inRanges subscriptRanges c.toNat then some subscript
  else if c = '\u1A10' then some ya
  else if isTifinagh c then some consonant
  else if c = '\uA4FC' || c = '\uA4FD' then some tone
  else if c.toNat = 0x10C03 then some turkicI
  else none

/-- The ligature with a joiner before it. -/
def join : Ligature → Ligature
  | lamed => joinedLamed
  | ya => joinedYa
  | consonant => joinedConsonant
  | turkicI => joinedTurkicI
  | l => l

/-- The columns of a ligature that are not settled. A letter that turns out to be a subscript takes
none, and the sign between two consonants takes none. -/
def pending : Ligature → Nat
  | subscript | signedConsonant => 1
  | _ => 0

/-- The ligature behind a character that goes unseen in it. -/
def pass? (l : Ligature) (c : Char) : Option Ligature :=
  if l = alef then none
  else if c = joiner then some l.join
  else if isInvisibleMark c then some l
  else none

/-- Whether a character completes a ligature, in which it takes no column of its own. -/
def isCompletedBy (l : Ligature) (c : Char) : Bool :=
  match l with
  | alef => inRanges lamRanges c.toNat
  | joinedLamed => c == '\u05D0'
  | subscript => c == '\u17D2'
  | vowelYa => c == '\u1A15'
  | joinedConsonant | signedConsonant => isTifinagh c
  | tone => inRanges [(0xA4F8, 0xA4FB)] c.toNat
  | joinedTurkicI => c.toNat == 0x10C32
  | lamed | ya | joinedYa | consonant | turkicI => false

/-- The ligature that a character prolongs without being a column of its own for now. -/
def extend? (l : Ligature) (c : Char) : Option Ligature :=
  match l with
  | alef => if isTransparent c then some alef else none
  | joinedYa => if c = '\u1A17' then some vowelYa else none
  | consonant | joinedConsonant => if c = consonantSign then some signedConsonant else none
  | _ => none

end Ligature

/-! ## Clusters -/

/-- What a character finds behind it, as far as the two may be shown together. -/
inductive Cluster where
  /-- Nothing that a character could be shown with. -/
  | plain
  | lineFeed
  /-- A character in emoji style. -/
  | emoji
  | skinTone
  /-- A single regional indicator. -/
  | indicator
  /-- Regional indicators. -/
  | indicators
  /-- A joiner before an emoji. -/
  | joinedEmoji
  /-- The frame of a keycap, joined to an emoji. -/
  | joinedKeycap
  /-- A regional indicator, joined to an emoji. -/
  | joinedIndicator
  /-- Pairs of regional indicators, joined to an emoji. -/
  | joinedPairs
  /-- Such pairs and a further regional indicator. -/
  | joinedOdd
  /-- The end of the tag of a flag, joined to an emoji. Digits stand before letters. -/
  | joinedTag (letters digits : Nat)
  /-- The Kirat Rai vowel e. -/
  | vowelE
  /-- The Kirat Rai vowel ai, or the two vowels that make it. -/
  | vowelAi
  | ligature (l : Ligature)
  deriving DecidableEq

namespace Cluster

/-- The cluster that a character begins. -/
def ofChar (c : Char) : Cluster :=
  if c = '\n' then lineFeed
  else if c.toNat = 0x16D67 then vowelE
  else if c.toNat = 0x16D68 then vowelAi
  else if isIndicator c then indicator
  else if isSkinTone c then skinTone
  else if isEmoji c then emoji
  else
    match Ligature.ofChar? c with
    | some l => ligature l
    | none => plain

/-- The columns of a cluster that are not settled. A single indicator is narrow, and a pair that is
joined to an emoji takes none. -/
def pending : Cluster → Nat
  | joinedIndicator | joinedOdd => 1
  | ligature l => l.pending
  | _ => 0

/-- Whether a cluster is a ligature. -/
def isLigature : Cluster → Bool
  | ligature _ => true
  | _ => false

/-- Whether a cluster is joined to the character before it if that is in emoji style. -/
def awaitsStyle : Cluster → Bool
  | joinedEmoji | joinedKeycap => true
  | _ => false

/-- A result that settles some columns if a condition holds. -/
def given (condition : Bool) (columns : Nat) (k : Cluster) : Option (Nat × Cluster) :=
  if condition then some (columns, k) else none

/-- How a joiner before an emoji combines with a character. -/
def combineJoined? (c : Char) : Option (Nat × Cluster) :=
  if isIndicator c then some (0, joinedIndicator)
  else if isSkinTone c then some (0, skinTone)
  else if c = '\u20E3' then some (0, joinedKeycap)
  else if c.toNat = 0xE007F then some (0, joinedTag 0 0)
  else given (isEmoji c) 0 emoji

/-- How the tag of a flag combines with a character. A tag has at most six letters, or three digits
and at most four letters, and the flag itself precedes it. -/
def combineTag? (letters digits : Nat) (c : Char) : Option (Nat × Cluster) :=
  if isTagLetter c && digits == 0 && letters < 6 then some (0, joinedTag (letters + 1) 0)
  else if isTagDigit c && digits < 3 && letters ≤ 4 then some (0, joinedTag letters (digits + 1))
  else given (c.toNat == 0x1F3F4 && (digits == 3 || digits == 0 && 3 ≤ letters)) 0 emoji

/-- The columns that a character settles if it combines with the cluster behind it, and the cluster
that the two make. -/
def combine? (k : Cluster) (c : Char) : Option (Nat × Cluster) :=
  match k with
  | plain | joinedKeycap => none
  | lineFeed => given (c == '\r') 0 plain
  | emoji => given (c == joiner) 0 joinedEmoji
  | skinTone => if takesSkinTone c then some (0, emoji) else given (c == joiner) 0 joinedEmoji
  | indicator => given (isIndicator c) 1 indicators
  | indicators =>
    if isIndicator c then some (1, indicators) else given (c == joiner) 0 joinedEmoji
  | joinedEmoji => combineJoined? c
  | joinedIndicator => given (isIndicator c) 0 joinedPairs
  | joinedPairs =>
    if isIndicator c then some (2, joinedOdd) else given (c == joiner) 0 joinedEmoji
  | joinedOdd =>
    if isIndicator c then some (0, joinedPairs) else given (c == joiner) 1 joinedEmoji
  | joinedTag letters digits => combineTag? letters digits c
  | vowelE =>
    if c.toNat = 0x16D63 || c.toNat = 0x16D69 then some (0, plain)
    else if c.toNat = 0x16D67 then some (0, vowelAi)
    else given (c.toNat == 0x16D68) 1 vowelE
  | vowelAi => given (c.toNat == 0x16D63) 0 plain
  | ligature l =>
    if l.isCompletedBy c then some (0, plain) else (l.extend? c).map fun l => (0, ligature l)

end Cluster

/-! ## Contexts -/

/-- A character that asks for a style of the character before it. -/
inductive Selector where
  | emojiStyle
  | textStyle
  | wideForm
  deriving DecidableEq

/-- The selector that a character is. -/
def Selector.ofChar? (c : Char) : Option Selector :=
  if c = '\uFE0F' then some emojiStyle
  else if c = '\uFE0E' then some textStyle
  else if c = '\uFE01' then some wideForm
  else none

/-- What a character finds behind it: a cluster, and the selectors before the cluster. -/
structure Context where
  cluster : Cluster := .plain
  emojiStyle : Bool := false
  textStyle : Bool := false
  wideForm : Bool := false
  deriving DecidableEq

namespace Context

/-- The context at the end of a text. -/
def empty : Context := {}

/-- The columns of a context that are not settled. -/
def pending (x : Context) : Nat :=
  x.cluster.pending

/-- The context with a further selector. -/
def mark (x : Context) : Selector → Context
  | .emojiStyle => { x with emojiStyle := true }
  | .textStyle => { x with textStyle := true }
  | .wideForm => { x with wideForm := true }

/-- The context that a character leaves if it does not combine with what is behind it, and the
columns that are settled by it alone. -/
def start (c : Char) : Nat × Context :=
  match Selector.ofChar? c with
  | some s => (0, empty.mark s)
  | none =>
    let k := Cluster.ofChar c
    (charWidth c - k.pending, { cluster := k })

/-- The step over a character that does not combine with what is behind it. -/
def close (x : Context) (c : Char) : Nat × Context :=
  (x.pending + (start c).1, (start c).2)

/-- Whether a selector leaves the cluster behind it as it is. -/
def keeps (x : Context) (s : Selector) : Bool :=
  x.cluster.isLigature || (s == .emojiStyle && x.cluster.awaitsStyle)

/-- The columns of a character in a style that is asked for, unless it has no such style. -/
def styled? (x : Context) (c : Char) : Option Nat :=
  if x.textStyle && takesTextStyle c then some 1
  else if x.wideForm && takesWideForm c then some 2
  else none

/-- The context behind a character that has none of the styles that are asked for. -/
def giveUp (x : Context) : Context :=
  { x with textStyle := false, wideForm := false }

/-- The cluster behind a character that goes unseen in it. -/
def pass? (x : Context) (c : Char) : Option Cluster :=
  match x.cluster with
  | .ligature l => (l.pass? c).map .ligature
  | _ => none

/-- The step over a character to which no style applies. -/
def stepPlain (x : Context) (c : Char) : Nat × Context :=
  match x.pass? c with
  | some k => (0, { x with cluster := k })
  | none =>
    match x.cluster.combine? c with
    | some (n, k) => (n, { cluster := k })
    | none => x.close c

/-- The step over a character to which emoji style does not apply. -/
def stepText (x : Context) (c : Char) : Nat × Context :=
  match Selector.ofChar? c with
  | some s => if x.keeps s then (0, x.mark s) else x.close c
  | none =>
    match x.styled? c with
    | some n => (x.pending + n, empty)
    | none => x.giveUp.stepPlain c

/-- The columns that a character settles before a context, and the context that it leaves. -/
def step (x : Context) (c : Char) : Nat × Context :=
  if x.emojiStyle then
    if takesEmojiStyle c then
      (if x.cluster.awaitsStyle then 0 else x.pending + 2, { cluster := .emoji })
    else if x.cluster.isLigature then ({ x with emojiStyle := false }).stepText c
    else x.close c
  else x.stepText c

end Context

end EntityRelationship.Text
