import DocSchema.Unicode.BinaryProperty
import DocSchema.Unicode.Script

/-!
# Segmentation

Three properties sort the characters by the part that they play where text is divided into
graphemes, words and sentences.  The values of each one exclude one another; characters with no part
of their own have no value here.  Most values are derived from the general category and from binary
properties, and a few short lists complete them.

* `GraphemeBreak`, `WordBreak`, `SentenceBreak`: the values, each with its members and its names.
-/

namespace DocSchema.Unicode

/-! ## Parts of several values -/

/-- The zero-width joiner. -/
def joinerSet : RangeSet := .single 0x200D

/-- The carriage return. -/
def carriageReturnSet : RangeSet := .single 0xD

/-- The line feed. -/
def lineFeedSet : RangeSet := .single 0xA

/-- Format controls that extend nothing, join nothing and stand before no digits. -/
def plainFormatSet : RangeSet :=
  Category.members [.format]
    \ (graphemeExtendSet ∪ joinerSet ∪ Tables.prependedConcatenationMark)

/-- Digits, the marks that stand before digits, and two more signs of numbers. -/
def numericSet : RangeSet :=
  Category.members [.decimalNumber]
    ∪ (Tables.prependedConcatenationMark \ .single 0x70F) ∪ .ofHex "66B 19DA"

/-! ## Graphemes -/

/-- The syllables of the Korean alphabet with a vowel and no final consonant: every twenty-eighth
one. -/
def openSyllableSet : RangeSet :=
  .ofRanges ((List.range 399).map fun i => (0xAC00 + 28 * i, 0xAC00 + 28 * i))

/-- What a character does at the borders of graphemes. -/
inductive GraphemeBreak where
  | carriageReturn
  | lineFeed
  | control
  | extend
  | joiner
  | regionalIndicator
  | prepend
  | spacingMark
  | leadingConsonant
  | vowel
  | finalConsonant
  | openSyllable
  | closedSyllable
  deriving DecidableEq, Repr

namespace GraphemeBreak

/-- The code points with a value. -/
def members : GraphemeBreak → RangeSet
  | carriageReturn => carriageReturnSet
  | lineFeed => lineFeedSet
  | control =>
    let ignorable := Category.members [.unassigned] ∩ Tables.defaultIgnorable
    (Category.members [.lineSeparator, .paragraphSeparator, .control] ∪ plainFormatSet ∪ ignorable)
      \ (carriageReturnSet ∪ lineFeedSet)
  | extend => graphemeExtendSet ∪ Tables.emojiModifier
  | joiner => joinerSet
  | regionalIndicator => Tables.regionalIndicator
  | prepend =>
    Tables.prependedConcatenationMark
      ∪ .ofHex "D4E 111C2-111C3 113D1 1193F 11941 11A3A 11A84-11A89 11D46 11F02"
  | spacingMark =>
    let apart := RangeSet.ofHex
      "102B-102C 1038 1062-1064 1067-106D 1083 1087-108C 108F 109A-109C 1A61 1A63-1A64 AA7B AA7D
       11720-11721"
    (Category.members [.spacingMark] \ (graphemeExtendSet ∪ apart)) ∪ .ofHex "E33 EB3"
  | leadingConsonant => .ofHex "1100-115F A960-A97C"
  | vowel => .ofHex "1160-11A7 D7B0-D7C6 16D63 16D67-16D6A"
  | finalConsonant => .ofHex "11A8-11FF D7CB-D7FB"
  | openSyllable => openSyllableSet
  | closedSyllable => RangeSet.range 0xAC00 0xD7A3 \ openSyllableSet

/-- The names of the values, in lower case and without separators. -/
def names : List (List String × GraphemeBreak) := [
  (["cr"], carriageReturn),
  (["lf"], lineFeed),
  (["cn", "control"], control),
  (["ex", "extend"], extend),
  (["zwj"], joiner),
  (["ri", "regionalindicator"], regionalIndicator),
  (["pp", "prepend"], prepend),
  (["sm", "spacingmark"], spacingMark),
  (["l"], leadingConsonant),
  (["v"], vowel),
  (["t"], finalConsonant),
  (["lv"], openSyllable),
  (["lvt"], closedSyllable)]

/-- The value with a name. -/
def ofName? (name : String) : Option GraphemeBreak :=
  (names.find? fun (spellings, _) => spellings.contains name).map Prod.snd

end GraphemeBreak

/-! ## Words -/

/-- What a character does at the borders of words. -/
inductive WordBreak where
  | carriageReturn
  | lineFeed
  | newline
  | extend
  | joiner
  | regionalIndicator
  | format
  | katakana
  | hebrewLetter
  | letter
  | singleQuote
  | doubleQuote
  | betweenEither
  | betweenLetters
  | betweenNumbers
  | numeric
  | extendAny
  | space
  deriving DecidableEq, Repr

namespace WordBreak

/-- Marks of any kind and emoji modifiers. -/
def extendSet : RangeSet :=
  graphemeExtendSet ∪ Category.members [.spacingMark] ∪ Tables.emojiModifier

/-- The characters of Katakana, with the signs that are used in it. -/
def katakanaSet : RangeSet := .ofHex
  "3031-3035 309B-309C 30A0-30FA 30FC-30FF 31F0-31FF 32D0-32FE 3300-3357 FF66-FF9D 1AFF0-1AFF3
   1AFF5-1AFFB 1AFFD-1AFFE 1B000 1B120-1B122 1B155 1B164-1B167"

/-- The letters of Hebrew. -/
def hebrewSet : RangeSet :=
  Script.members "Hebr" ∩ Category.members [.otherLetter]

/-- The scripts without marks between words, whose words no rule on single characters finds. -/
def unspacedScripts : List String :=
  ["Thai", "Laoo", "Mymr", "Khmr", "Tale", "Talu", "Lana", "Tavt", "Ahom", "Hira"]

/-- The code points with a value. -/
def members : WordBreak → RangeSet
  | carriageReturn => carriageReturnSet
  | lineFeed => lineFeedSet
  | newline => .ofHex "B-C 85 2028-2029"
  | extend => extendSet
  | joiner => joinerSet
  | regionalIndicator => Tables.regionalIndicator
  | format => plainFormatSet \ .single 0x200B
  | katakana => katakanaSet
  | hebrewLetter => hebrewSet
  | letter =>
    let others := .unions
      [Tables.ideographic, katakanaSet, hebrewSet, extendSet,
        .unions (unspacedScripts.map Script.members)]
    (alphabeticSet \ others) ∪ .ofHex
      "2C2-2C5 2D2-2D7 2DE-2DF 2E5-2EB 2ED 2EF-2FF 55A-55C 55E 58A 5F3 70F A708-A716 A720-A721
       A789-A78A AB5B"
  | singleQuote => .single 0x27
  | doubleQuote => .single 0x22
  | betweenEither => .ofHex "2E 2018-2019 2024 FE52 FF07 FF0E"
  | betweenLetters => .ofHex "3A B7 387 55F 5F4 2027 FE13 FE55 FF1A"
  | betweenNumbers => .ofHex "2C 3B 37E 589 60C-60D 66C 7F8 2044 FE50 FE54 FF0C FF1B"
  | numeric => numericSet
  | extendAny => .ofHex "5F 202F 203F-2040 2054 FE33-FE34 FE4D-FE4F FF3F"
  | space => .ofHex "20 1680 2000-2006 2008-200A 205F 3000"

/-- The names of the values, in lower case and without separators. -/
def names : List (List String × WordBreak) := [
  (["cr"], carriageReturn),
  (["lf"], lineFeed),
  (["nl", "newline"], newline),
  (["extend"], extend),
  (["zwj"], joiner),
  (["ri", "regionalindicator"], regionalIndicator),
  (["fo", "format"], format),
  (["ka", "katakana"], katakana),
  (["hl", "hebrewletter"], hebrewLetter),
  (["le", "aletter"], letter),
  (["sq", "singlequote"], singleQuote),
  (["dq", "doublequote"], doubleQuote),
  (["mb", "midnumlet"], betweenEither),
  (["ml", "midletter"], betweenLetters),
  (["mn", "midnum"], betweenNumbers),
  (["nu", "numeric"], numeric),
  (["ex", "extendnumlet"], extendAny),
  (["wsegspace"], space)]

/-- The value with a name. -/
def ofName? (name : String) : Option WordBreak :=
  (names.find? fun (spellings, _) => spellings.contains name).map Prod.snd

end WordBreak

/-! ## Sentences -/

/-- What a character does at the borders of sentences. -/
inductive SentenceBreak where
  | carriageReturn
  | lineFeed
  | separator
  | extend
  | format
  | space
  | lower
  | upper
  | otherLetter
  | numeric
  | ambiguousTerminator
  | continuing
  | terminator
  | closing
  deriving DecidableEq, Repr

namespace SentenceBreak

/-- Marks of any kind and the joiner. -/
def extendSet : RangeSet :=
  graphemeExtendSet ∪ Category.members [.spacingMark] ∪ joinerSet

/-- Lowercase characters.  The letters of Georgian, which are written alike at the start of a
sentence, are left out. -/
def lowerSet : RangeSet :=
  lowercaseSet \ (extendSet ∪ .ofHex "10D0-10FA 10FD-10FF")

/-- Uppercase and titlecase characters, again without Georgian ones. -/
def upperSet : RangeSet :=
  raisedCaseSet \ .ofHex "1C90-1CBA 1CBD-1CBF"

/-- The separators of lines and paragraphs. -/
def separatorSet : RangeSet := .ofHex "85 2028-2029"

/-- Full stops, which may also end an abbreviation. -/
def ambiguousTerminatorSet : RangeSet := .ofHex "2E 2024 FE52 FF0E"

/-- The code points with a value. -/
def members : SentenceBreak → RangeSet
  | carriageReturn => carriageReturnSet
  | lineFeed => lineFeedSet
  | separator => separatorSet
  | extend => extendSet
  | format => plainFormatSet ∪ .single 0x70F
  | space => Tables.whiteSpace \ (carriageReturnSet ∪ lineFeedSet ∪ separatorSet)
  | lower => lowerSet
  | upper => upperSet
  | otherLetter => (alphabeticSet \ (lowerSet ∪ upperSet ∪ extendSet)) ∪ .single 0x5F3
  | numeric => numericSet ∪ .single 0x66C
  | ambiguousTerminator => ambiguousTerminatorSet
  | continuing => .ofHex
    "2C-2D 3A-3B 37E 55D 60C-60D 7F8 1802 1808 2013-2014 3001 FE10-FE11 FE13-FE14 FE31-FE32
     FE50-FE51 FE54-FE55 FE58 FE63 FF0C-FF0D FF1A-FF1B FF64"
  | terminator => Tables.sentenceTerminal \ ambiguousTerminatorSet
  | closing =>
    let brackets := Category.members
      [.openPunctuation, .closePunctuation, .initialPunctuation, .finalPunctuation]
    ((brackets ∪ Tables.quotationMark) \ .ofHex "FF02 FF07")
      ∪ .ofHex "275B-2760 2E00-2E01 2E06-2E08 2E0B 1F676-1F678"

/-- The names of the values, in lower case and without separators. -/
def names : List (List String × SentenceBreak) := [
  (["cr"], carriageReturn),
  (["lf"], lineFeed),
  (["se", "sep"], separator),
  (["ex", "extend"], extend),
  (["fo", "format"], format),
  (["sp"], space),
  (["lo", "lower"], lower),
  (["up", "upper"], upper),
  (["le", "oletter"], otherLetter),
  (["nu", "numeric"], numeric),
  (["at", "aterm"], ambiguousTerminator),
  (["sc", "scontinue"], continuing),
  (["st", "sterm"], terminator),
  (["cl", "close"], closing)]

/-- The value with a name. -/
def ofName? (name : String) : Option SentenceBreak :=
  (names.find? fun (spellings, _) => spellings.contains name).map Prod.snd

end SentenceBreak

end DocSchema.Unicode
