import QueryAdvisor.Text.Blank
import QueryAdvisor.Text.EmojiTable
import QueryAdvisor.Text.LigatureTable
import QueryAdvisor.Text.WidthTable

/-!
# Terminal columns

How many columns of a terminal a line fills. A character alone fills two when
it is wide, none when it combines with its neighbour, and else one. Some
neighbours are drawn as one: letters of a ligature, pictures that joiners make
into one picture, and a character with the selector that says how it is shown.

A line is measured from its end. What stands behind a place matters to the
character in front of it only as far as a `Context` tells.
-/

namespace QueryAdvisor.Text

/-- What a place is followed by. -/
inductive Follower where
  /-- Nothing that changes the character in front. -/
  | other
  /-- A picture. -/
  | emoji
  /-- A skin tone. -/
  | tone
  /-- One letter of a flag. -/
  | flagLetter
  /-- Two or more letters of flags. -/
  | flagLetters
  /-- A joiner and a picture. -/
  | joinedEmoji
  /-- The frame of a key, a joiner and a picture. -/
  | joinedKey
  /-- One letter of a flag, a joiner and a picture. -/
  | joinedFlagLetter
  /-- Pairs of letters of flags, a joiner and a picture. -/
  | joinedFlagPairs
  /-- Pairs of letters of flags and one before them, a joiner and a picture. -/
  | joinedFlagPairsAndLetter
  /-- So many letters of a tag and its end, a joiner and a picture. -/
  | joinedTagLetters (count : Nat)
  /-- So many digits in front of the letters of a tag, a joiner and a picture. -/
  | joinedTagDigits (count : Nat)
  /-- The Kirat Rai vowel sign E. -/
  | kiratRaiE
  /-- The Kirat Rai vowel sign AI. -/
  | kiratRaiAi
  /-- An Arabic alef. -/
  | alef
  /-- A Hebrew lamed, with or without a joiner in front. -/
  | lamed (joined : Bool)
  /-- A Buginese ya, with or without a joiner in front. -/
  | bugineseYa (joined : Bool)
  /-- A Buginese vowel sign I in front of a joined ya. -/
  | bugineseIYa
  /-- A Tifinagh consonant, with or without a joiner in front. -/
  | tifinagh (joined : Bool)
  /-- The Tifinagh consonant joiner and a consonant. -/
  | tifinaghJoiner
  /-- A Lisu tone letter that combines with another before it. -/
  | lisuTone
  /-- An Old Turkic Orkhon I, with or without a joiner in front. -/
  | orkhonI (joined : Bool)
  /-- A Khmer letter that a coeng draws below the one before. -/
  | coengLetter
deriving DecidableEq, Repr

namespace Follower

/-- Whether default-ignorable marks and selectors leave a follower in place. -/
def isLigature : Follower → Bool
  | .alef | .lamed _ | .bugineseYa _ | .bugineseIYa | .tifinagh _ | .tifinaghJoiner | .lisuTone
  | .orkhonI _ | .coengLetter => true
  | _ => false

/-- What is left of a follower behind a joiner that is part of a ligature. -/
def joined : Follower → Follower
  | .lamed _ => .lamed true
  | .bugineseYa _ => .bugineseYa true
  | .tifinagh _ => .tifinagh true
  | .orkhonI _ => .orkhonI true
  | f => f

/-- Whether a picture with a selector is part of the picture that follows. -/
def isJoinedPicture : Follower → Bool
  | .joinedEmoji | .joinedKey => true
  | _ => false

end Follower

/-- How a selector asks for the character in front of it to be shown. -/
inductive Selector where
  | text
  | picture
  | wideQuote
deriving DecidableEq, Repr

/-- What stands behind a place: a selector, if any, and what follows it. -/
structure Context where
  follower : Follower := .other
  selector : Option Selector := none
deriving DecidableEq, Repr

/-- Whether a code point is a letter of a flag. -/
def isFlagLetter (n : Nat) : Bool :=
  0x1f1e6 ≤ n && n ≤ 0x1f1ff

/-- Whether a code point is a skin tone. -/
def isTone (n : Nat) : Bool :=
  0x1f3fb ≤ n && n ≤ 0x1f3ff

/-- Whether a code point is a small letter of a tag. -/
def isTagLetter (n : Nat) : Bool :=
  0xe0061 ≤ n && n ≤ 0xe007a

/-- Whether a code point is a digit of a tag. -/
def isTagDigit (n : Nat) : Bool :=
  0xe0030 ≤ n && n ≤ 0xe0039

/-- The joiner that makes one picture of two, or one letter. -/
def joiner : Nat := 0x200d

/-- The selector that a code point is. -/
def selector? (n : Nat) : Option Selector :=
  if n = 0xfe0e then some .text
  else if n = 0xfe0f then some .picture
  else if n = 0xfe01 then some .wideQuote
  else none

/-- The columns that a code point fills whatever stands around it. -/
def columnsOf (n : Nat) : Nat :=
  if n ≤ 0xa0 then 1
  else if covers zeroWidthRanges n then 0
  else if covers wideRanges n then 2
  else if n = 0x17d8 then 3
  else 1

/-- What a code point is to the character in front of it. -/
def followerOf (n : Nat) : Follower :=
  if n ≤ 0xa0 then .other
  else if covers emojiRanges n then .emoji
  else if isTone n then .tone
  else if isFlagLetter n then .flagLetter
  else if n = 0x16d67 then .kiratRaiE
  else if n = 0x16d68 then .kiratRaiAi
  else if covers alefRanges n then .alef
  else if n = 0x5dc then .lamed false
  else if n = 0x1a10 then .bugineseYa false
  else if covers tifinaghRanges n then .tifinagh false
  else if n = 0xa4fc || n = 0xa4fd then .lisuTone
  else if n = 0x10c03 then .orkhonI false
  else if covers coengRanges n then .coengLetter
  else .other

/-- Columns to add and what then follows, if a condition holds. -/
def mergeIf (condition : Bool) (columns : Int) (follower : Follower) : Option (Int × Follower) :=
  if condition then some (columns, follower) else none

/-- A code point that is drawn as one with what follows: the columns it adds to
those of its follower, and what it is to the character in front of it. -/
def merged? (n : Nat) : Follower → Option (Int × Follower)
  | .other => none
  | .emoji => mergeIf (n == joiner) 0 .joinedEmoji
  | .tone => (mergeIf (covers toneRanges n) 0 .emoji).or (mergeIf (n == joiner) 0 .joinedEmoji)
  | .flagLetter => mergeIf (isFlagLetter n) 1 .flagLetters
  | .flagLetters =>
      (mergeIf (isFlagLetter n) 1 .flagLetters).or (mergeIf (n == joiner) 0 .joinedEmoji)
  | .joinedEmoji =>
      if n = 0x20e3 then some (0, .joinedKey)
      else if isFlagLetter n then some (1, .joinedFlagLetter)
      else if isTone n then some (0, .tone)
      else if n = 0xe007f then some (0, .joinedTagLetters 0)
      else mergeIf (covers emojiRanges n) 0 .emoji
  | .joinedKey => none
  | .joinedFlagLetter => mergeIf (isFlagLetter n) (-1) .joinedFlagPairs
  | .joinedFlagPairs =>
      (mergeIf (isFlagLetter n) 3 .joinedFlagPairsAndLetter).or (mergeIf (n == joiner) 0 .joinedEmoji)
  | .joinedFlagPairsAndLetter =>
      (mergeIf (isFlagLetter n) (-1) .joinedFlagPairs).or (mergeIf (n == joiner) 0 .joinedEmoji)
  | .joinedTagLetters count =>
      if isTagLetter n then mergeIf (count < 6) 0 (.joinedTagLetters (count + 1))
      else if isTagDigit n then mergeIf (count < 5) 0 (.joinedTagDigits 1)
      else mergeIf (3 ≤ count && n == 0x1f3f4) 0 .emoji
  | .joinedTagDigits count =>
      if isTagDigit n then mergeIf (count < 3) 0 (.joinedTagDigits (count + 1))
      else mergeIf (count == 3 && n == 0x1f3f4) 0 .emoji
  | .kiratRaiE =>
      if n = 0x16d63 || n = 0x16d69 then some (0, .other)
      else if n = 0x16d67 then some (0, .kiratRaiAi)
      else mergeIf (n == 0x16d68) 1 .kiratRaiE
  | .kiratRaiAi => mergeIf (n == 0x16d63) 0 .other
  | .alef =>
      if covers lamRanges n then some (0, .other)
      else mergeIf (covers zeroWidthRanges n && !covers separatingRanges n) 0 .alef
  | .lamed joined => mergeIf (joined && n == 0x5d0) 0 .other
  | .bugineseYa joined => mergeIf (joined && n == 0x1a17) 0 .bugineseIYa
  | .bugineseIYa => mergeIf (n == 0x1a15) 0 .other
  | .tifinagh joined =>
      if n = 0x2d7f then some (1, .tifinaghJoiner)
      else mergeIf (joined && covers tifinaghRanges n) 0 .other
  | .tifinaghJoiner => mergeIf (covers tifinaghRanges n) (-1) .other
  | .lisuTone => mergeIf (0xa4f8 ≤ n && n ≤ 0xa4fb) 0 .other
  | .orkhonI joined => mergeIf (joined && n == 0x10c32) 0 .other
  | .coengLetter => mergeIf (n == 0x17d2) (-1) .other

namespace Context

/-- The context in front of a selector. -/
def select (context : Context) (s : Selector) : Context :=
  let keeps := context.follower.isLigature || (s == .picture && context.follower.isJoinedPicture)
  ⟨if keeps then context.follower else .other, some s⟩

/-- The columns that a code point adds in front of what follows it, its
selector apart, and the context in front of it. -/
def place (follower : Follower) (n : Nat) : Int × Context :=
  if follower.isLigature && follower != .alef && n == joiner then (0, ⟨follower.joined, none⟩)
  else if follower.isLigature && follower != .alef && covers ignorableMarkRanges n then
    (0, ⟨follower, none⟩)
  else
    match merged? n follower with
    | some (columns, follower) => (columns, ⟨follower, none⟩)
    | none => (columnsOf n, ⟨followerOf n, none⟩)

/-- Whether a code point is a picture by default that a selector shows as text. -/
def isTextOnRequest (n : Nat) : Bool :=
  covers presentationRanges n && covers emojiRanges n && !(0x1f200 ≤ n && n ≤ 0x1f2ff)

/-- Whether a code point is a curly quotation mark. -/
def isCurlyQuote (n : Nat) : Bool :=
  n == 0x2018 || n == 0x2019 || n == 0x201c || n == 0x201d

/-- The columns that a code point adds in a context, and the context in front
of it. -/
def step (context : Context) (n : Nat) : Int × Context :=
  let bare : Context :=
    if context.selector = some .picture && !context.follower.isLigature then {}
    else { context with selector := none }
  match context.selector with
  | some .picture =>
      if covers presentationRanges n then
        (if context.follower.isJoinedPicture then 0 else 2, ⟨.emoji, none⟩)
      else match selector? n with
        | some s => (0, bare.select s)
        | none => place bare.follower n
  | other =>
      match selector? n with
      | some s => (0, bare.select s)
      | none =>
          if other = some .text && isTextOnRequest n then (1, {})
          else if other = some .wideQuote && isCurlyQuote n then (2, {})
          else place bare.follower n

end Context

/-- The columns that a line fills, and the context that it is to what stands in
front of it. -/
def measured : List Char → Int × Context
  | [] => (0, {})
  | c :: rest =>
      let (columns, context) := measured rest
      let (added, context) := context.step c.toNat
      (columns + added, context)

/-- The columns that a line fills. -/
def columns (line : List Char) : Nat :=
  (measured line).1.toNat

end QueryAdvisor.Text
