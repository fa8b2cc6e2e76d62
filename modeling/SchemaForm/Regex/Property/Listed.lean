import SchemaForm.Text.Charset

/-!
# Listed properties

Properties of characters that the character database gives as lists, in the
edition that patterns refer to.

Main results:

- Theorem `asciiHexDigit_isAscii`: the digits that are called ASCII are.
-/

namespace SchemaForm
namespace Regex
namespace Listed

open Text (Charset)

/-- Digits of hexadecimal numbers in ASCII. -/
def asciiHexDigit : Charset :=
  .ofRanges [(0x30, 0x39), (0x41, 0x46), (0x61, 0x66)]

/-- Digits of hexadecimal numbers, full-width ones included. -/
def hexDigit : Charset :=
  .ofRanges
    [(0x30, 0x39), (0x41, 0x46), (0x61, 0x66), (0xff10, 0xff19), (0xff21, 0xff26),
      (0xff41, 0xff46)]

/-- White space. -/
def blank : Charset :=
  .ofRanges
    [(0x9, 0xd), (0x20, 0x20), (0x85, 0x85), (0xa0, 0xa0), (0x1680, 0x1680), (0x2000, 0x200a),
      (0x2028, 0x2029), (0x202f, 0x202f), (0x205f, 0x205f), (0x3000, 0x3000)]

/-- White space in patterns and programs. -/
def patternBlank : Charset :=
  .ofRanges [(0x9, 0xd), (0x20, 0x20), (0x85, 0x85), (0x200e, 0x200f), (0x2028, 0x2029)]

/-- Characters that are reserved for the symbols of patterns and programs. -/
def patternSymbol : Charset :=
  .ofGaps (String.join [
    "33 14 9 6 25 3 0 0 25 3 33 6 0 0 0 1 0 0 0 1 3 0 3 0 2 0 22 0 30 0 7959 23 7 14 1 18 0 9 ",
    "304 719 159 629 29 1131 511 127 384 2 3 24 14 0 52492 1 260 1"])

/-- Controls of the direction of writing. -/
def bidiControl : Charset :=
  .ofRanges [(0x61c, 0x61c), (0x200e, 0x200f), (0x202a, 0x202e), (0x2066, 0x2069)]

/-- Controls of the joining of letters. -/
def joinControl : Charset :=
  .ofRanges [(0x200c, 0x200d)]

/-- Dashes. -/
def dash : Charset :=
  .ofGaps (String.join [
    "45 0 1371 0 50 0 3648 0 1028 0 2056 5 60 0 38 0 14 0 389 0 3075 0 1 0 30 1 3 0 27 0 445 ",
    "0 18 0 110 0 52623 1 36 0 9 0 168 0 3679 0 317 0"])

/-- Hyphens. -/
def hyphen : Charset :=
  .ofRanges
    [(0x2d, 0x2d), (0xad, 0xad), (0x58a, 0x58a), (0x1806, 0x1806), (0x2010, 0x2011),
      (0x2e17, 0x2e17), (0x30fb, 0x30fb), (0xfe63, 0xfe63), (0xff0d, 0xff0d), (0xff65, 0xff65)]

/-- Quotation marks. -/
def quotationMark : Charset :=
  .ofRanges
    [(0x22, 0x22), (0x27, 0x27), (0xab, 0xab), (0xbb, 0xbb), (0x2018, 0x201f),
      (0x2039, 0x203a), (0x2e42, 0x2e42), (0x300c, 0x300f), (0x301d, 0x301f), (0xfe41, 0xfe44),
      (0xff02, 0xff02), (0xff07, 0xff07), (0xff62, 0xff63)]

/-- Punctuation that ends a sentence. -/
def sentenceTerminal : Charset :=
  .ofGaps (String.join [
    "33 0 11 0 15 0 1352 0 146 2 179 0 42 2 245 0 60 0 0 0 2 1 292 1 1763 1 789 0 3 1 772 0 ",
    "197 1 156 1 44 0 4 0 313 1 353 3 161 1 9 1 1 1 28 2 186 1 64 1 931 0 22 1 8 2 3246 2 305 ",
    "0 12 0 21 1 428 0 29947 0 269 1 226 0 2 0 381 1 85 1 94 0 151 1 146 2 143 1 248 0 21029 ",
    "0 1 1 58 0 2 1 168 0 11 0 15 0 64 0 2803 1 1276 4 43 3 188 1 116 3 126 2 128 1 5 0 15 1 ",
    "87 1 0 1 107 0 297 1 116 1 372 1 4 14 104 1 248 2 516 0 0 0 250 1 86 1 419 1 691 1 73 1 ",
    "19240 1 132 0 64 1 10 0 552 1 295 0 19973 0 7655 0"])

/-- Punctuation that ends a part of a text. -/
def terminalPunctuation : Charset :=
  .ofGaps (String.join [
    "33 0 9 0 0 0 10 1 2 0 829 0 7 0 512 0 56 0 71 0 13 0 0 2 179 0 42 10 0 0 234 1 53 5 0 7 ",
    "30 0 260 1 1267 1 171 0 3 5 310 1 788 7 772 0 123 2 70 1 156 2 2 0 38 3 1 1 313 1 353 3 ",
    "161 1 9 1 0 2 28 2 186 4 61 1 931 0 22 1 8 2 3246 2 305 0 12 0 3 0 9 0 0 1 2 1 427 1 ",
    "29946 1 268 2 226 4 381 1 85 1 94 0 150 2 146 2 126 0 15 1 248 0 21029 0 1 1 56 2 0 3 ",
    "168 0 9 0 0 0 10 1 2 0 64 0 1 0 1081 0 47 0 1157 0 198 0 309 1 151 5 67 5 88 3 951 4 43 ",
    "3 188 6 111 3 126 2 128 1 5 0 15 1 87 4 107 0 297 1 116 2 11 1 357 3 2 14 104 1 248 2 ",
    "516 0 0 0 250 1 86 1 3 1 413 2 44 0 644 1 73 1 1322 4 17912 1 132 0 64 2 9 0 552 1 294 1 ",
    "19973 0 7654 3"])

/-- Characters whose use is discouraged. -/
def deprecated : Charset :=
  .ofRanges
    [(0x149, 0x149), (0x673, 0x673), (0xf77, 0xf77), (0xf79, 0xf79), (0x17a3, 0x17a4),
      (0x206a, 0x206f), (0x2329, 0x232a), (0xe0001, 0xe0001)]

/-- Code points that never stand for a character. -/
def noncharacter : Charset :=
  .ofGaps (String.join [
    "64976 31 525 1 65533 1 65533 1 65533 1 65533 1 65533 1 65533 1 65533 1 65533 1 65533 1 ",
    "65533 1 65533 1 65533 1 65533 1 65533 1 65533 1 65533 1"])

/-- Selectors of variants of the character before them. -/
def variationSelector : Charset :=
  .ofRanges [(0x180b, 0x180d), (0x180f, 0x180f), (0xfe00, 0xfe0f), (0xe0100, 0xe01ef)]

/-- Marks that stand before the characters that they enclose. -/
def prependedMark : Charset :=
  .ofRanges
    [(0x600, 0x605), (0x6dd, 0x6dd), (0x70f, 0x70f), (0x890, 0x891), (0x8e2, 0x8e2),
      (0x110bd, 0x110bd), (0x110cd, 0x110cd)]

/-- Characters without a visible form that are neither formats nor variation selectors. -/
def ignorableOthers : Charset :=
  .ofRanges
    [(0x34f, 0x34f), (0x115f, 0x1160), (0x17b4, 0x17b5), (0x2065, 0x2065), (0x3164, 0x3164),
      (0xffa0, 0xffa0), (0xfff0, 0xfff8), (0xe0000, 0xe0000), (0xe0002, 0xe001f),
      (0xe0080, 0xe00ff), (0xe01f0, 0xe0fff)]

/-- Marks that change the letter before them in Arabic. -/
def combiningMark : Charset :=
  .ofRanges
    [(0x654, 0x655), (0x658, 0x658), (0x6dc, 0x6dc), (0x6e3, 0x6e3), (0x6e7, 0x6e8),
      (0x8ca, 0x8cb), (0x8cd, 0x8cf), (0x8d3, 0x8d3), (0x8f3, 0x8f3)]

/-- Vowels that are written before their consonant and stored in that order. -/
def logicalOrderException : Charset :=
  .ofRanges
    [(0xe40, 0xe44), (0xec0, 0xec4), (0x19b5, 0x19b7), (0x19ba, 0x19ba), (0xaab5, 0xaab6),
      (0xaab9, 0xaab9), (0xaabb, 0xaabc)]

/-- Characters whose dot gives way to a mark above. -/
def softDotted : Charset :=
  .ofGaps (String.join [
    "105 1 195 0 280 0 29 0 51 0 19 0 319 0 97 0 0 0 6408 0 50 0 12 0 2 0 131 0 156 0 420 0 ",
    "213 1 2865 0 108452 1 49 1 49 1 49 1 49 1 49 1 49 1 49 1 49 1 49 1 49 1 49 1 49 1 2181 0 ",
    "304 1 25 0"])

/-- Marks and letters that modify another character. -/
def diacritic : Charset :=
  .ofGaps (String.join [
    "94 0 0 0 70 0 5 0 3 0 1 1 502 158 0 7 4 5 16 1 3 0 8 1 252 4 208 0 54 44 0 0 0 1 0 1 0 0 ",
    "130 7 3 1 133 1 3 1 2 2 66 26 90 10 57 10 33 1 125 7 40 9 15 27 60 0 15 0 2 3 27 0 73 0 ",
    "15 0 109 0 15 0 109 0 15 0 46 2 59 0 15 0 6 0 118 0 109 0 15 0 109 0 15 0 108 1 15 0 123 ",
    "0 110 0 11 5 0 0 106 0 12 4 74 1 26 0 0 0 0 0 3 1 65 2 0 1 61 0 111 0 0 1 39 1 3 4 24 6 ",
    "0 0 9 1 704 2 947 1 29 0 147 10 8 0 346 2 291 0 19 7 1 0 47 14 1 10 103 0 14 0 37 8 53 1 ",
    "57 0 10 1 65 1 63 5 81 24 3 0 5 0 1 2 49 62 47 35 4 11 36 10 444 0 0 2 10 2 12 2 12 2 12 ",
    "1 3311 2 316 0 505 5 104 3 94 0 30065 0 11 1 0 0 27 1 81 1 13 33 101 2 108 1 11 0 36 0 ",
    "150 0 26 17 56 3 35 0 94 0 11 0 35 0 148 2 64 3 50 0 99 4 8 2 127 1 20271 0 768 15 269 0 ",
    "0 0 46 0 44 1 66 0 763 0 1182 5 0 41 0 8 636 2 3 0 164 1 570 5 37 0 25 4 398 2 69 10 48 ",
    "3 191 0 40 0 71 1 119 1 61 0 75 0 8 2 103 1 177 1 79 1 15 0 23 6 2 4 88 2 0 1 12 1 94 0 ",
    "2 0 122 1 250 1 125 0 117 1 114 0 268 1 257 1 3 0 155 0 82 0 17 0 80 0 420 0 257 0 0 1 ",
    "80 0 424 1 22 0 5355 14 11480 0 2495 4 58 6 563 1 545 16 79 1 16381 3 0 6 0 1 7936 45 1 ",
    "22 543 2 2 5 7 7 1 6 29 3 3713 61 193 6 374 0 60 3 765 1 735 6 108 2 0 2"])

/-- Characters that prolong the one before them. -/
def extender : Charset :=
  .ofGaps (String.join [
    "183 0 535 1 877 0 440 0 629 0 136 0 88 0 751 0 126 0 2370 0 55 0 610 0 397 0 67 0 5000 0 ",
    "42 4 102 1 92 2 28437 0 1525 0 961 0 21 0 136 0 107 0 20 1 21626 0 2063 1 1482 0 26 0 3 ",
    "0 1222 0 292 0 115 1 497 2 1230 0 20648 1 1179 1 0 0 29015 1 1200 0 851 2"])

/-- Signs that join consonants to a cluster. -/
def graphemeLink : Charset :=
  .ofGaps (String.join [
    "2381 0 126 0 126 0 126 0 126 0 126 0 126 0 126 0 108 1 15 0 123 0 110 0 126 0 200 0 179 ",
    "1 1752 1 29 0 156 0 652 0 226 0 100 1 69 1 4490 0 31365 0 36 0 150 0 141 0 107 0 308 0 ",
    "245 0 24144 0 1541 0 40 0 13 0 56 0 120 1 138 0 115 0 179 0 97 0 127 2 112 0 126 0 251 0 ",
    "126 0 117 0 115 0 268 0 258 1 160 0 82 0 17 0 80 0 420 0 259 1 80 0 424 1 16875 0"])

/-- Mathematical characters that are no mathematical symbols. -/
def mathOthers : Charset :=
  .ofGaps (String.join [
    "94 0 880 2 1 0 25 1 1 1 7199 0 26 2 10 0 31 3 23 1 13 1 64 12 3 0 2 1 3 4 17 0 3 0 1 9 0 ",
    "0 2 4 5 0 2 1 1 1 0 2 0 5 2 3 4 4 74 4 1 3 0 1 0 1 0 0 0 4 1 1 3 1 3 17 1 1 0 0 0 6 0 0 ",
    "5 1 289 3 167 1 0 0 23 0 16 0 444 1 11 8 4 4 4 1 1 1 2 4 13 0 0 0 1 5 23 1 56 0 0 0 28 3 ",
    "8 1 341 1 30 9 402 21 62 3 31 1 54370 0 0 0 3 0 210 0 0 0 54464 84 0 70 0 1 1 0 1 1 1 3 ",
    "0 11 0 0 0 6 0 64 0 3 1 7 0 6 0 27 0 3 0 4 0 0 2 6 0 339 1 24 0 24 0 30 0 24 0 30 0 24 0 ",
    "30 0 24 0 30 0 24 0 7 1 49 5631 3 0 26 0 1 0 0 1 0 0 9 0 3 0 0 0 0 5 0 3 0 0 0 0 0 0 2 0 ",
    "1 0 0 1 0 0 0 0 0 0 0 0 0 0 1 0 0 1 3 0 6 0 3 0 3 0 0 0 9 0 16 4 2 0 4 0 16"])

/-- Ideographs. -/
def ideographic : Charset :=
  .ofGaps (String.join [
    "12294 1 24 8 13 2 964 6591 63 20991 22783 365 1 105 29961 0 26 6135 7 1237 40 9 9318 395 ",
    "19715 42719 31 4153 5 221 1 5761 13 7472 14 621 2465 541 1505 4938 4 4191"])

/-- Unified ideographs. -/
def unifiedIdeograph : Charset :=
  .ofGaps (String.join [
    "13312 6591 63 20991 23053 1 0 0 0 1 9 0 0 0 0 1 1 2 67029 42719 31 4153 5 221 1 5761 13 ",
    "7472 14 621 4513 4938 4 4191"])

/-- Radicals of ideographs. -/
def radical : Charset :=
  .ofRanges [(0x2e80, 0x2e99), (0x2e9b, 0x2ef3), (0x2f00, 0x2fd5)]

/-- Operators with one operand in descriptions of ideographs. -/
def unaryDescription : Charset :=
  .ofRanges [(0x2ffe, 0x2fff)]

/-- Operators with two operands in descriptions of ideographs. -/
def binaryDescription : Charset :=
  .ofRanges [(0x2ff0, 0x2ff1), (0x2ff4, 0x2ffd), (0x31ef, 0x31ef)]

/-- Operators with three operands in descriptions of ideographs. -/
def trinaryDescription : Charset :=
  .ofRanges [(0x2ff2, 0x2ff3)]

/-- Letters that name a region in pairs. -/
def regionalIndicator : Charset :=
  .ofRanges [(0x1f1e6, 0x1f1ff)]

/-- Emoji. -/
def emoji : Charset :=
  .ofGaps (String.join [
    "35 0 5 0 4 9 110 0 3 0 8076 0 11 0 215 0 21 0 89 5 14 1 366 1 11 0 165 0 24 10 3 2 198 0 ",
    "230 1 9 0 8 0 57 3 0 4 8 0 1 0 1 1 1 0 3 0 1 0 0 1 1 0 2 0 2 1 7 2 4 0 0 0 4 11 10 1 1 0 ",
    "0 1 0 0 17 0 1 1 17 5 0 0 0 1 2 1 4 0 1 1 3 1 10 1 4 1 1 0 4 1 0 0 0 1 19 1 4 5 0 3 1 0 ",
    "3 0 1 0 1 5 0 0 1 0 0 0 0 0 5 0 2 0 5 0 9 1 14 0 1 0 3 0 0 0 3 2 0 0 10 1 47 2 8 0 13 0 ",
    "13 0 371 1 462 2 18 1 50 0 3 0 1241 0 11 0 600 0 0 0 114025 0 201 0 159 1 11 1 13 0 1 9 ",
    "74 25 0 1 22 0 19 0 1 8 20 1 173 33 1 111 1 1 0 2 1 82 1 2 0 262 0 62 10 5 0 23 6 1 1 7 ",
    "11 0 1 3 1 0 3 1 12 1 1 0 7 1 8 0 4 2 11 2 7 2 1 0 0 0 3 0 5 0 2 0 5 85 47 69 4 7 1 2 3 ",
    "9 2 0 0 1 2 0 1 9 226 11 3 0 282 46 0 9 0 184 111 12 2 9 4 55 6 14 1 10 5 8"])

/-- Parts of emoji. -/
def emojiComponent : Charset :=
  .ofRanges
    [(0x23, 0x23), (0x2a, 0x2a), (0x30, 0x39), (0x200d, 0x200d), (0x20e3, 0x20e3),
      (0xfe0f, 0xfe0f), (0x1f1e6, 0x1f1ff), (0x1f3fb, 0x1f3ff), (0x1f9b0, 0x1f9b3),
      (0xe0020, 0xe007f)]

/-- Modifiers of emoji. -/
def emojiModifier : Charset :=
  .ofRanges [(0x1f3fb, 0x1f3ff)]

/-- Emoji that a modifier may follow. -/
def emojiModifierBase : Charset :=
  .ofGaps (String.join [
    "9757 0 218 0 15 3 117878 0 59 2 1 0 1 2 116 1 1 10 20 18 2 0 3 2 0 2 6 0 0 0 23 0 200 1 ",
    "3 0 20 0 3 1 173 2 2 4 82 0 15 2 8 0 10 0 574 0 1 0 7 7 5 0 8 9 1 2 55 0 60 1 0 1 0 0 16 ",
    "2 0 12 228 2 41 8"])

/-- Emoji that are shown as pictures. -/
def emojiPresentation : Charset :=
  .ofGaps (String.join [
    "8986 1 204 3 2 0 1 0 520 1 20 1 49 11 42 0 18 0 12 0 7 1 16 1 4 1 7 0 4 0 20 0 6 1 0 0 3 ",
    "0 1 0 6 0 3 1 27 0 34 0 0 0 3 2 0 0 60 2 23 0 13 0 858 1 50 0 3 0 115885 0 201 0 189 0 1 ",
    "9 74 25 0 0 23 0 19 0 1 4 0 2 20 1 173 32 11 8 0 69 0 21 11 42 3 4 11 16 2 0 2 70 0 0 0 ",
    "186 1 62 12 3 0 23 17 0 25 1 12 0 85 84 47 69 5 0 2 2 1 2 3 3 10 1 6 8 226 11 3 0 282 46 ",
    "0 9 0 184 111 12 2 9 4 55 6 14 1 10 5 8"])

/-- Pictographs, code points reserved for them included. -/
def pictographic : Charset :=
  .ofGaps (String.join [
    "169 0 3 0 8076 0 11 0 215 0 21 0 89 5 14 1 366 1 11 0 94 0 69 0 24 10 3 2 198 0 230 1 9 ",
    "0 8 0 57 3 0 5 0 11 0 113 9 117 1 10 0 0 0 0 5 0 2 0 5 0 9 1 14 0 1 0 3 0 0 0 3 2 0 0 10 ",
    "4 44 2 8 0 13 0 13 0 371 1 462 2 18 1 50 0 3 0 1241 0 11 0 600 0 0 0 114021 255 12 2 30 ",
    "0 59 5 11 1 13 0 1 9 17 56 26 14 9 0 19 0 1 8 0 3 8 433 4 317 7 265 47 127 115 11 84 42 ",
    "11 3 55 7 9 5 39 7 29 81 11 46 0 9 0 440 255 1021"])

/-- Characters that may begin a name though they are no letters. -/
def identifierStartOthers : Charset :=
  .ofRanges [(0x1885, 0x1886), (0x2118, 0x2118), (0x212e, 0x212e), (0x309b, 0x309c)]

/-- Characters that may stand in a name for reasons of history. -/
def identifierContinueOthers : Charset :=
  .ofRanges
    [(0xb7, 0xb7), (0x387, 0x387), (0x1369, 0x1371), (0x19da, 0x19da), (0x200c, 0x200d),
      (0x30fb, 0x30fb), (0xff65, 0xff65)]

/-- Mathematical symbols that may begin a name. -/
def mathStart : Charset :=
  .ofRanges
    [(0x2202, 0x2202), (0x2207, 0x2207), (0x221e, 0x221e), (0x1d6c1, 0x1d6c1),
      (0x1d6db, 0x1d6db), (0x1d6fb, 0x1d6fb), (0x1d715, 0x1d715), (0x1d735, 0x1d735),
      (0x1d74f, 0x1d74f), (0x1d76f, 0x1d76f), (0x1d789, 0x1d789), (0x1d7a9, 0x1d7a9),
      (0x1d7c3, 0x1d7c3)]

/-- Superscripts and subscripts that may stand in a name. -/
def mathContinue : Charset :=
  .ofRanges
    [(0xb2, 0xb3), (0xb9, 0xb9), (0x2070, 0x2070), (0x2074, 0x207e), (0x2080, 0x208e)]

/-- Characters that upper case changes. -/
def upperCaseChanging : Charset :=
  .ofGaps (String.join [
    "97 25 57 0 40 23 0 7 0 0 0 0 0 0 0 0 0 0 0 0 0 0 0 0 0 0 0 0 0 0 0 0 0 0 0 0 0 0 0 0 0 0 ",
    "0 0 0 0 0 0 0 0 0 0 0 0 0 0 0 0 0 0 0 0 0 0 1 0 0 0 0 0 0 0 0 0 0 0 0 0 0 1 0 0 0 0 0 0 ",
    "0 0 0 0 0 0 0 0 0 0 0 0 0 0 0 0 0 0 0 0 0 0 0 0 0 0 0 0 0 0 0 0 0 0 0 0 0 0 0 0 1 0 0 0 ",
    "0 2 1 0 0 0 1 0 2 0 4 0 1 0 2 2 1 0 1 0 0 0 0 0 1 0 3 0 1 0 2 0 0 0 1 0 2 0 0 0 4 1 0 1 ",
    "0 1 0 0 0 0 0 0 0 0 0 0 0 0 0 0 0 1 0 0 0 0 0 0 0 0 0 0 0 0 0 0 0 0 0 1 0 1 0 0 2 0 0 0 ",
    "0 0 0 0 0 0 0 0 0 0 0 0 0 0 0 0 0 0 0 0 0 0 0 0 0 0 0 0 0 0 0 0 0 0 0 0 2 0 0 0 0 0 0 0 ",
    "0 0 0 0 0 0 0 0 0 0 7 0 1 1 0 0 3 0 0 0 0 0 0 0 0 5 0 1 0 0 0 1 2 1 0 3 0 4 1 0 0 1 1 0 ",
    "6 0 1 0 0 1 2 5 4 0 9 1 165 0 42 0 0 0 2 0 2 2 17 0 26 34 0 1 2 2 0 0 0 0 0 0 0 0 0 0 0 ",
    "0 0 0 0 0 0 0 0 0 0 0 0 4 0 0 1 0 1 0 51 47 0 0 0 0 0 0 0 0 0 0 0 0 0 0 0 0 0 0 0 0 0 0 ",
    "0 0 0 0 0 0 0 0 0 0 0 0 8 0 0 0 0 0 0 0 0 0 0 0 0 0 0 0 0 0 0 0 0 0 0 0 0 0 0 0 0 0 0 0 ",
    "0 0 0 0 0 0 0 0 0 0 0 0 0 0 0 0 0 0 0 0 0 0 1 0 0 0 0 0 0 0 0 0 0 0 0 1 0 0 0 0 0 0 0 0 ",
    "0 0 0 0 0 0 0 0 0 0 0 0 0 0 0 0 0 0 0 0 0 0 0 0 0 0 0 0 0 0 0 0 0 0 0 0 0 0 0 0 0 0 0 0 ",
    "0 0 0 0 0 0 0 0 0 0 0 0 0 0 0 0 0 0 0 0 0 0 0 0 0 0 0 0 0 0 0 0 0 0 0 0 0 0 0 0 0 0 0 0 ",
    "48 38 2887 42 1 2 759 5 2177 8 0 0 237 0 2 0 15 0 113 0 0 0 0 0 0 0 0 0 0 0 0 0 0 0 0 0 ",
    "0 0 0 0 0 0 0 0 0 0 0 0 0 0 0 0 0 0 0 0 0 0 0 0 0 0 0 0 0 0 0 0 0 0 0 0 0 0 0 0 0 0 0 0 ",
    "0 0 0 0 0 0 0 0 0 0 0 0 0 0 0 0 0 0 0 0 0 0 0 0 0 0 0 0 0 0 0 0 0 0 0 0 0 0 0 0 0 0 0 0 ",
    "0 0 0 0 0 0 0 0 0 0 0 0 0 0 0 0 0 0 0 0 0 0 0 0 0 0 0 0 0 0 0 0 0 0 0 0 0 0 0 0 0 0 0 6 ",
    "4 0 0 0 0 0 0 0 0 0 0 0 0 0 0 0 0 0 0 0 0 0 0 0 0 0 0 0 0 0 0 0 0 0 0 0 0 0 0 0 0 0 0 0 ",
    "0 0 0 0 0 0 0 0 0 0 0 0 0 0 0 0 0 0 0 0 0 0 0 0 0 0 0 0 0 0 0 0 0 0 0 0 0 0 0 0 0 0 0 0 ",
    "0 0 0 0 0 0 0 8 7 5 9 7 7 7 7 5 9 7 7 7 7 13 1 52 0 1 3 0 0 0 2 2 0 1 3 0 2 3 1 1 7 7 9 ",
    "2 0 1 3 0 336 0 32 15 3 0 842 25 1861 47 0 0 2 1 0 0 0 0 0 0 5 0 1 0 9 0 0 0 0 0 0 0 0 0 ",
    "0 0 0 0 0 0 0 0 0 0 0 0 0 0 0 0 0 0 0 0 0 0 0 0 0 0 0 0 0 0 0 0 0 0 0 0 0 0 0 0 0 0 0 0 ",
    "0 0 0 0 0 0 0 0 0 0 0 0 0 0 0 0 0 0 0 0 0 0 0 0 0 0 0 0 0 0 0 0 0 0 0 0 0 0 0 0 0 0 0 0 ",
    "0 0 7 0 0 0 3 0 11 37 0 0 4 0 30994 0 0 0 0 0 0 0 0 0 0 0 0 0 0 0 0 0 0 0 0 0 0 0 0 0 0 ",
    "0 0 0 0 0 0 0 0 0 0 0 0 0 0 0 0 0 0 0 18 0 0 0 0 0 0 0 0 0 0 0 0 0 0 0 0 0 0 0 0 0 0 0 0 ",
    "0 0 0 134 0 0 0 0 0 0 0 0 0 0 0 0 0 2 0 0 0 0 0 0 0 0 0 0 0 0 0 0 0 0 0 0 0 0 0 0 0 0 0 ",
    "0 0 0 0 0 0 0 0 0 0 0 0 0 0 0 0 0 0 0 0 0 0 0 0 0 0 0 0 0 0 0 0 0 0 0 0 9 0 0 0 1 0 0 0 ",
    "0 0 0 0 0 0 3 0 3 0 0 1 1 0 0 0 0 0 0 0 0 0 0 0 0 0 0 0 0 0 0 0 10 0 0 0 0 0 0 0 0 0 0 0 ",
    "0 0 0 0 3 0 0 0 1 0 2 0 4 0 0 0 0 0 25 0 859 0 27 79 20287 6 11 4 1064 25 1228 39 135 35 ",
    "154 10 0 14 0 6 0 1 1794 50 124 21 2873 31 21887 31 31393 33"])

/-- The digits that are called ASCII are. -/
theorem asciiHexDigit_isAscii : asciiHexDigit.isAscii = true := by
  decide

end Listed
end Regex
end SchemaForm
