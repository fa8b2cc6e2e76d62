import SchemaForm.Regex.Property.Derived
import SchemaForm.Regex.Property.Script

/-!
# Boundaries in texts

The classes of characters that decide where visible units, words and sentences
end, in the edition that patterns refer to.
-/

namespace SchemaForm
namespace Regex
namespace Segment

open Text (Charset)
open Derived (db)

/-! ## Shared classes -/

/-- The carriage return. -/
def carriageReturn : Charset :=
  .single 0xd

/-- The line feed. -/
def lineFeed : Charset :=
  .single 0xa

/-- The joiner that makes one visible unit of two. -/
def joiner : Charset :=
  .single 0x200d

/-- Spacing marks. -/
def spacingMark : Charset :=
  db.category .spacingMark

/-- Marks that stand before a number. -/
def numberMark : Charset :=
  Listed.prependedMark \ .single 0x70f

/-! ## Visible units -/

/-- Signs of consonant clusters that begin a visible unit. -/
def prependedLetter : Charset :=
  .ofRanges
    [(0xd4e, 0xd4e), (0x111c2, 0x111c3), (0x113d1, 0x113d1), (0x1193f, 0x1193f),
      (0x11941, 0x11941), (0x11a3a, 0x11a3a), (0x11a84, 0x11a89), (0x11d46, 0x11d46),
      (0x11f02, 0x11f02)]

/-- Spacing marks that stand for themselves. -/
def detachedMark : Charset :=
  .ofRanges
    [(0x102b, 0x102c), (0x1038, 0x1038), (0x1062, 0x1064), (0x1067, 0x106d),
      (0x1083, 0x1083), (0x1087, 0x108c), (0x108f, 0x108f), (0x109a, 0x109c),
      (0x1a61, 0x1a61), (0x1a63, 0x1a64), (0xaa7b, 0xaa7b), (0xaa7d, 0xaa7d),
      (0x11720, 0x11721)]

/-- Characters that extend a visible unit. -/
def graphemeExtend : Charset :=
  db.extending ∪ Listed.emojiModifier

/-- Controls, formats and separators. -/
def graphemeControl : Charset :=
  .unionAll
    [db.ofCategories [.control, .format, .lineSeparator, .paragraphSeparator],
      db.category .unassigned ∩ Derived.ignorable] \
    .unionAll [graphemeExtend, Listed.prependedMark, carriageReturn, lineFeed, joiner]

/-- Spacing marks that belong to the unit before them. -/
def graphemeSpacing : Charset :=
  .unionAll [spacingMark \ db.extending, .single 0xe33, .single 0xeb3] \ detachedMark

/-- Leading consonants of Hangul syllables. -/
def leading : Charset :=
  .ofRanges [(0x1100, 0x115f), (0xa960, 0xa97c)]

/-- Vowels of Hangul syllables, and those of Kirat Rai. -/
def vowel : Charset :=
  .ofRanges [(0x1160, 0x11a7), (0xd7b0, 0xd7c6), (0x16d63, 0x16d63), (0x16d67, 0x16d6a)]

/-- Trailing consonants of Hangul syllables. -/
def trailing : Charset :=
  .ofRanges [(0x11a8, 0x11ff), (0xd7cb, 0xd7fb)]

/-- Hangul syllables without a trailing consonant: every twenty-eighth one. -/
def openSyllable : Charset :=
  .ofRanges ((List.range 399).map fun i => (0xac00 + 28 * i, 0xac00 + 28 * i))

/-- Hangul syllables with a trailing consonant. -/
def closedSyllable : Charset :=
  .range 0xac00 0xd7a3 \ openSyllable

/-- The class with a name that decides where visible units end. -/
def grapheme? (name : String) : Option Charset :=
  match name with
  | "cn" | "control" => some graphemeControl
  | "cr" => some carriageReturn
  | "ex" | "extend" => some graphemeExtend
  | "l" => some leading
  | "lf" => some lineFeed
  | "lv" => some openSyllable
  | "lvt" => some closedSyllable
  | "pp" | "prepend" => some (Listed.prependedMark ∪ prependedLetter)
  | "ri" | "regionalindicator" => some Listed.regionalIndicator
  | "sm" | "spacingmark" => some graphemeSpacing
  | "t" => some trailing
  | "v" => some vowel
  | "zwj" => some joiner
  | _ => none

/-! ## Words -/

/-- Letters and marks of scripts that write words without spaces. -/
def complexContext : Charset :=
  .ofRanges
    [(0xe01, 0xe3a), (0xe40, 0xe4e), (0xe81, 0xe82), (0xe84, 0xe84), (0xe86, 0xe8a),
      (0xe8c, 0xea3), (0xea5, 0xea5), (0xea7, 0xebd), (0xec0, 0xec4), (0xec6, 0xec6),
      (0xec8, 0xece), (0xedc, 0xedf), (0x1000, 0x103f), (0x1050, 0x108f), (0x109a, 0x109f),
      (0x1780, 0x17d3), (0x17d7, 0x17d7), (0x17dc, 0x17dd), (0x1950, 0x196d),
      (0x1970, 0x1974), (0x1980, 0x19ab), (0x19b0, 0x19c9), (0x19de, 0x19df),
      (0x1a20, 0x1a5e), (0x1a60, 0x1a7c), (0x1aa0, 0x1aad), (0xa9e0, 0xa9ef),
      (0xa9fa, 0xa9fe), (0xaa60, 0xaac2), (0xaadb, 0xaadf), (0x11700, 0x1171a),
      (0x1171d, 0x1172b), (0x1173a, 0x1173b), (0x1173f, 0x11746)]

/-- Signs that count as letters of words. -/
def letterOthers : Charset :=
  .ofRanges
    [(0xb8, 0xb8), (0x2c2, 0x2c5), (0x2d2, 0x2d7), (0x2de, 0x2df), (0x2e5, 0x2eb),
      (0x2ed, 0x2ed), (0x2ef, 0x2ff), (0x55a, 0x55c), (0x55e, 0x55e), (0x58a, 0x58a),
      (0x5f3, 0x5f3), (0x70f, 0x70f), (0xa708, 0xa716), (0xa720, 0xa721), (0xa789, 0xa78a),
      (0xab5b, 0xab5b)]

/-- Digits of words. -/
def wordNumeric : Charset :=
  .unionAll [db.category .decimalNumber, numberMark, .single 0x66b, .single 0x19da]

/-- Characters that extend the one before them in a word. -/
def wordExtend : Charset :=
  .unionAll [db.extending, spacingMark, Listed.emojiModifier] \ joiner

/-- Formats within words. -/
def wordFormat : Charset :=
  db.category .format \
    .unionAll [wordExtend, .single 0x200b, joiner, Listed.prependedMark]

/-- The own characters of a script. -/
def ofScript (code : String) : Charset :=
  ((Script.find? code).map Script.members).getD ∅

/-- Katakana and its signs. -/
def katakana : Charset :=
  .unionAll
    [ofScript "kana",
      .ofRanges
        [(0x3031, 0x3035), (0x309b, 0x309c), (0x30a0, 0x30a0), (0x30fc, 0x30fc),
          (0xff70, 0xff70)]]

/-- Hebrew letters. -/
def hebrewLetter : Charset :=
  ofScript "hebr" ∩ db.category .otherLetter

/-- Letters of scripts that write words with spaces. -/
def wordLetter : Charset :=
  (db.alphabetic \
    .unionAll
      [Listed.ideographic, katakana, complexContext, ofScript "hira", wordExtend,
        hebrewLetter]) ∪ letterOthers

/-- Signs within words. -/
def midLetter : Charset :=
  .ofRanges
    [(0x3a, 0x3a), (0xb7, 0xb7), (0x387, 0x387), (0x55f, 0x55f), (0x5f4, 0x5f4),
      (0x2027, 0x2027), (0xfe13, 0xfe13), (0xfe55, 0xfe55), (0xff1a, 0xff1a)]

/-- Signs within numbers. -/
def midNumber : Charset :=
  .ofRanges
    [(0x2c, 0x2c), (0x3b, 0x3b), (0x37e, 0x37e), (0x589, 0x589), (0x60c, 0x60d),
      (0x66c, 0x66c), (0x7f8, 0x7f8), (0x2044, 0x2044), (0xfe50, 0xfe50), (0xfe54, 0xfe54),
      (0xff0c, 0xff0c), (0xff1b, 0xff1b)]

/-- Signs within words and numbers. -/
def midAny : Charset :=
  .ofRanges
    [(0x2e, 0x2e), (0x2018, 0x2019), (0x2024, 0x2024), (0xfe52, 0xfe52), (0xff07, 0xff07),
      (0xff0e, 0xff0e)]

/-- Connectors of words and numbers. -/
def wordConnector : Charset :=
  .ofRanges
    [(0x5f, 0x5f), (0x202f, 0x202f), (0x203f, 0x2040), (0x2054, 0x2054), (0xfe33, 0xfe34),
      (0xfe4d, 0xfe4f), (0xff3f, 0xff3f)]

/-- Spaces between words. -/
def wordSpace : Charset :=
  .ofRanges
    [(0x20, 0x20), (0x1680, 0x1680), (0x2000, 0x2006), (0x2008, 0x200a), (0x205f, 0x205f),
      (0x3000, 0x3000)]

/-- Ends of lines but for the carriage return and the line feed. -/
def newline : Charset :=
  .ofRanges [(0xb, 0xc), (0x85, 0x85), (0x2028, 0x2029)]

/-- The class with a name that decides where words end. -/
def word? (name : String) : Option Charset :=
  match name with
  | "cr" => some carriageReturn
  | "dq" | "doublequote" => some (.single 0x22)
  | "ex" | "extendnumlet" => some wordConnector
  | "extend" => some wordExtend
  | "fo" | "format" => some wordFormat
  | "hl" | "hebrewletter" => some hebrewLetter
  | "ka" | "katakana" => some katakana
  | "le" | "aletter" => some wordLetter
  | "lf" => some lineFeed
  | "mb" | "midnumlet" => some midAny
  | "ml" | "midletter" => some midLetter
  | "mn" | "midnum" => some midNumber
  | "nl" | "newline" => some newline
  | "nu" | "numeric" => some wordNumeric
  | "ri" | "regionalindicator" => some Listed.regionalIndicator
  | "sq" | "singlequote" => some (.single 0x27)
  | "wsegspace" => some wordSpace
  | "zwj" => some joiner
  | _ => none

/-! ## Sentences -/

/-- Capitals of Georgian, which do not begin a sentence. -/
def georgianUpper : Charset :=
  .ofRanges [(0x1c90, 0x1cba), (0x1cbd, 0x1cbf)]

/-- Small letters of Georgian, which have no capitals at the beginning of a sentence. -/
def georgianLower : Charset :=
  .ofRanges [(0x10d0, 0x10fa), (0x10fd, 0x10ff)]

/-- Characters that extend the one before them in a sentence. -/
def sentenceExtend : Charset :=
  .unionAll [db.extending, spacingMark, joiner]

/-- Small letters. -/
def sentenceLower : Charset :=
  db.lowercase \ (db.extending ∪ georgianLower)

/-- Capitals. -/
def sentenceUpper : Charset :=
  (db.uppercase ∪ db.category .titlecaseLetter) \ georgianUpper

/-- Letters without a case. -/
def sentenceLetter : Charset :=
  (db.alphabetic ∪ .single 0x5f3) \
    .unionAll [sentenceLower, sentenceUpper, sentenceExtend]

/-- Digits of sentences. -/
def sentenceNumeric : Charset :=
  wordNumeric ∪ .single 0x66c

/-- Full stops, which may also end an abbreviation. -/
def fullStop : Charset :=
  .ofRanges [(0x2e, 0x2e), (0x2024, 0x2024), (0xfe52, 0xfe52), (0xff0e, 0xff0e)]

/-- Signs after which a sentence goes on. -/
def continuing : Charset :=
  .ofRanges
    [(0x2c, 0x2d), (0x3a, 0x3b), (0x37e, 0x37e), (0x55d, 0x55d), (0x60c, 0x60d),
      (0x7f8, 0x7f8), (0x1802, 0x1802), (0x1808, 0x1808), (0x2013, 0x2014), (0x3001, 0x3001),
      (0xfe10, 0xfe11), (0xfe13, 0xfe14), (0xfe31, 0xfe32), (0xfe50, 0xfe51),
      (0xfe54, 0xfe55), (0xfe58, 0xfe58), (0xfe63, 0xfe63), (0xff0c, 0xff0d),
      (0xff1a, 0xff1b), (0xff64, 0xff64)]

/-- Spaces between sentences. -/
def sentenceSpace : Charset :=
  .ofRanges
    [(0x9, 0x9), (0xb, 0xc), (0x20, 0x20), (0xa0, 0xa0), (0x1680, 0x1680), (0x2000, 0x200a),
      (0x202f, 0x202f), (0x205f, 0x205f), (0x3000, 0x3000)]

/-- Separators of paragraphs. -/
def separator : Charset :=
  .ofRanges [(0x85, 0x85), (0x2028, 0x2029)]

/-- Quotation marks without a direction. -/
def plainQuote : Charset :=
  .ofRanges
    [(0x22, 0x22), (0x27, 0x27), (0x275b, 0x2760), (0x2e00, 0x2e01), (0x2e06, 0x2e08),
      (0x2e0b, 0x2e0b), (0x1f676, 0x1f678)]

/-- Brackets and quotation marks. -/
def closing : Charset :=
  db.ofCategories
    [.openPunctuation, .closePunctuation, .initialPunctuation, .finalPunctuation] ∪ plainQuote

/-- Formats within sentences. -/
def sentenceFormat : Charset :=
  db.category .format \ (sentenceExtend ∪ numberMark)

/-- The class with a name that decides where sentences end. -/
def sentence? (name : String) : Option Charset :=
  match name with
  | "at" | "aterm" => some fullStop
  | "cl" | "close" => some closing
  | "cr" => some carriageReturn
  | "ex" | "extend" => some sentenceExtend
  | "fo" | "format" => some sentenceFormat
  | "le" | "oletter" => some sentenceLetter
  | "lf" => some lineFeed
  | "lo" | "lower" => some sentenceLower
  | "nu" | "numeric" => some sentenceNumeric
  | "sc" | "scontinue" => some continuing
  | "se" | "sep" => some separator
  | "sp" => some sentenceSpace
  | "st" | "sterm" => some (Listed.sentenceTerminal \ fullStop)
  | "up" | "upper" => some sentenceUpper
  | _ => none

end Segment
end Regex
end SchemaForm
