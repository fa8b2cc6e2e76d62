import SchemaForm.Text.Charset

/-!
# Scripts

The scripts that characters belong to, in the edition that patterns refer to,
by their four-letter codes and by their long names, in lower case and without
separators.  Characters that several scripts share are common or inherited, and
the extension of a script has those that it uses.
-/

namespace SchemaForm
namespace Regex

open Text (Charset)

/-- A script: its code, its long name, its own characters, and the characters of other scripts that
it uses as well. -/
structure Script where
  code : String
  name : String
  members : Charset
  borrowed : Charset

namespace Script

/-- All scripts. -/
def all : List Script :=
  [⟨"adlm", "adlam", .ofGaps "125184 75 3 9 3 1", .ofGaps "1567 0 31 0 6669 0 3568 0"⟩,
    ⟨"aghb", "caucasianalbanian", .ofGaps "66864 51 10 0", .ofGaps "772 0 43 0 43 0"⟩,
    ⟨"ahom", "ahom", .ofGaps "71424 26 1 14 3 22", ∅⟩,
    ⟨"arab", "arabic",
      .ofGaps (String.join [
      "1536 4 0 5 0 13 0 2 0 31 0 9 10 25 0 107 0 33 79 47 239 30 0 1 4 74 0 28 62031 114 15 ",
      "362 1 79 1 53 6 0 31 15 111 4 0 134 3938 30 66 2 54 3 57087 3 0 26 0 1 0 0 1 0 0 9 0 3 ",
      "0 0 0 0 5 0 3 0 0 0 0 0 0 2 0 1 0 0 1 0 0 0 0 0 0 0 0 0 0 1 0 0 1 3 0 6 0 3 0 3 0 0 0 ",
      "9 0 16 4 2 0 4 0 16 51 1"]),
      .ofGaps "1548 0 13 0 2 0 31 0 9 10 25 0 6621 0 3568 0 52987 1 1439 27"⟩,
    ⟨"armi", "imperialaramaic", .ofGaps "67648 21 0 8", ∅⟩,
    ⟨"armn", "armenian", .ofGaps "1329 37 1 49 1 2 62850 4", .ofGaps "776 0"⟩,
    ⟨"avst", "avestan", .ofGaps "68352 53 2 6", .ofGaps "183 0 11639 1"⟩,
    ⟨"bali", "balinese", .ofGaps "6912 76 0 49", ∅⟩,
    ⟨"bamu", "bamum", .ofGaps "42656 87 49415 568", ∅⟩,
    ⟨"bass", "bassavah", .ofGaps "92880 29 1 5", ∅⟩,
    ⟨"batk", "batak", .ofGaps "7104 51 7 3", ∅⟩,
    ⟨"beng", "bengali",
      .ofGaps "2432 3 0 7 1 1 1 21 0 6 0 0 2 3 1 8 1 1 1 3 7 0 3 1 0 4 1 24",
      .ofGaps "700 0 1683 1 16 1 4969 0 0 0 1 1 0 0 7 0 7 0 1 0 3 0 1 2 35832 0"⟩,
    ⟨"bhks", "bhaiksuki", .ofGaps "72704 8 0 44 0 13 9 28", ∅⟩,
    ⟨"bopo", "bopomofo",
      .ofGaps "746 1 11800 42 111 31",
      .ofGaps "711 0 0 2 12 0 11558 2 3 9 0 12 9 3 1 0 5 0 194 0 52552 1 281 4"⟩,
    ⟨"brah", "brahmi", .ofGaps "69632 77 3 35 8 0", ∅⟩,
    ⟨"brai", "braille", .ofGaps "10240 255", ∅⟩,
    ⟨"bugi", "buginese", .ofGaps "6656 27 1 1", .ofGaps "43471 0"⟩,
    ⟨"buhd", "buhid", .ofGaps "5952 19", .ofGaps "5941 1"⟩,
    ⟨"cakm", "chakma", .ofGaps "69888 52 0 17", .ofGaps "2534 9 1615 9"⟩,
    ⟨"cans", "canadianaboriginal", .ofGaps "5120 639 559 69 65977 15", ∅⟩,
    ⟨"cari", "carian", .ofGaps "66208 48", .ofGaps "183 0 8097 0 1 0 3538 0"⟩,
    ⟨"cham", "cham", .ofGaps "43520 54 8 13 1 9 1 3", ∅⟩,
    ⟨"cher", "cherokee", .ofGaps "5024 85 1 5 38769 79", .ofGaps "768 2 0 0 5 1 21 1 10 1"⟩,
    ⟨"chrs", "chorasmian", .ofGaps "69552 27", ∅⟩,
    ⟨"copt", "coptic",
      .ofGaps "994 13 10383 115 4 6",
      .ofGaps "183 0 583 0 2 1 0 0 107 1 10912 0 54471 27"⟩,
    ⟨"cpmn", "cyprominoan", .ofGaps "77712 98", .ofGaps "65792 1"⟩,
    ⟨"cprt", "cypriot", .ofGaps "67584 5 1 0 0 43 0 1 2 0 1 0", .ofGaps "65792 2 3 44 2 8"⟩,
    ⟨"cyrl", "cyrillic",
      .ofGaps (String.join [
      "1024 132 1 168 5967 10 159 0 75 0 4198 31 30783 95 22413 1 57855 61 32 0"]),
      .ofGaps "700 0 66 2 0 0 0 0 0 0 1 0 4 0 370 1 6512 0 4169 0"⟩,
    ⟨"deva", "devanagari",
      .ofGaps "2304 80 3 14 1 25 40799 31 29183 9",
      .ofGaps "700 0 1683 1 16 1 4969 38 0 1 1013 0 34622 9"⟩,
    ⟨"diak", "divesakuru", .ofGaps "71936 6 1 0 1 7 0 1 0 29 0 1 1 11 8 9", ∅⟩,
    ⟨"dogr", "dogra", .ofGaps "71680 59", .ofGaps "2404 11 40639 9"⟩,
    ⟨"dsrt", "deseret", .ofGaps "66560 79", ∅⟩,
    ⟨"dupl", "duployan",
      .ofGaps "113664 106 4 12 2 8 6 9 1 3",
      .ofGaps "183 0 590 1 0 0 23 1 11030 0 101986 3"⟩,
    ⟨"egyp", "egyptianhieroglyphs", .ofGaps "77824 1109 9 3994", ∅⟩,
    ⟨"elba", "elbasan", .ofGaps "66816 39", .ofGaps "183 0 588 0"⟩,
    ⟨"elym", "elymaic", .ofGaps "69600 22", ∅⟩,
    ⟨"ethi", "ethiopic",
      .ofGaps (String.join [
      "4608 72 0 3 1 6 0 0 0 3 1 40 0 3 1 32 0 3 1 6 0 0 0 3 1 14 0 56 0 3 1 66 1 31 2 25 ",
      "6629 22 8 6 0 6 0 6 0 6 0 6 0 6 0 6 0 6 32033 5 1 5 1 5 8 6 0 6 81072 6 0 3 0 1 0 14"]),
      .ofGaps "782 0"⟩,
    ⟨"gara", "garay", .ofGaps "68928 37 2 28 7 1", .ofGaps "1548 0 13 0 2 0"⟩,
    ⟨"geor", "georgian",
      .ofGaps "4256 37 0 0 4 0 1 42 0 3 2959 42 1 2 4159 37 0 0 4 0",
      .ofGaps "183 0 1232 0 2928 0 3933 0 3541 0"⟩,
    ⟨"glag", "glagolitic",
      .ofGaps "11264 95 111519 6 0 16 1 6 0 1 0 4",
      .ofGaps "183 0 586 0 0 0 381 0 1 0 256 0 2928 0 3933 0 3559 0 30762 0"⟩,
    ⟨"gong", "gunjalagondi", .ofGaps "73056 5 0 1 0 36 0 1 0 5 6 9", .ofGaps "183 0 2219 1"⟩,
    ⟨"gonm", "masaramgondi", .ofGaps "72960 6 0 1 0 43 2 0 0 1 0 8 7 9", .ofGaps "2404 1"⟩,
    ⟨"goth", "gothic", .ofGaps "66352 26", .ofGaps "183 0 587 1 1 0 39 0"⟩,
    ⟨"gran", "grantha",
      .ofGaps "70400 3 0 7 1 1 1 21 0 6 0 1 0 4 1 8 1 1 1 2 1 0 5 0 4 6 1 6 2 4",
      .ofGaps "2385 1 16 1 639 13 4315 0 0 1 29 2 2 1 1013 0 62025 0 3219 1 0 0"⟩,
    ⟨"grek", "greek",
      .ofGaps (String.join [
      "880 3 0 2 1 3 0 0 3 0 0 0 0 2 0 0 0 19 0 62 13 15 6437 4 49 4 3 4 83 0 319 21 1 5 1 37 ",
      "1 5 1 7 0 0 0 0 0 0 0 30 1 52 0 14 0 13 1 5 0 18 1 2 0 8 294 0 35389 0 21977 78 16 0 ",
      "53342 69"]),
      .ofGaps "183 0 583 1 1 0 0 0 0 0 9 0 45 0 1 0 45 0 6730 1 666 0"⟩,
    ⟨"gujr", "gujarati",
      .ofGaps "2689 2 0 8 0 2 0 21 0 6 0 1 0 4 1 9 0 2 0 2 1 0 14 3 1 11 6 6",
      .ofGaps "2385 1 16 1 40649 9"⟩,
    ⟨"gukh", "gurungkhema", .ofGaps "90368 57", .ofGaps "2405 0"⟩,
    ⟨"guru", "gurmukhi",
      .ofGaps "2561 2 0 5 3 1 1 21 0 6 0 1 0 1 0 1 1 0 0 4 3 1 1 2 2 0 6 3 0 0 6 16",
      .ofGaps "2385 1 16 1 40649 9"⟩,
    ⟨"hang", "hangul",
      .ofGaps (String.join [
      "4352 255 7725 1 256 93 112 30 64 30 30432 28 642 11171 11 22 3 48 10147 30 2 5 1 5 1 5 ",
      "1 2"]),
      .ofGaps "12289 2 3 9 0 12 15 0 5 0 194 0 52552 1 281 4"⟩,
    ⟨"hani", "han",
      .ofGaps (String.join [
      "11904 25 0 88 11 213 46 0 0 0 24 8 13 3 963 6591 63 20991 22783 365 1 105 29959 1 11 1 ",
      "36877 42719 31 4153 5 221 1 5761 13 7472 14 621 2465 541 1505 4938 4 4191"]),
      .ofGaps (String.join [
      "183 0 12087 15 0 2 1 0 0 9 0 12 9 3 1 0 5 0 3 3 186 0 147 15 31 37 8 0 47 39 55 48 14 ",
      "11 50 0 87 24 9 4 95 30 29440 7 22332 1 281 4 54265 17 7901 1"])⟩,
    ⟨"hano", "hanunoo", .ofGaps "5920 20", .ofGaps "5941 1"⟩,
    ⟨"hatr", "hatran", .ofGaps "67808 18 0 1 4 4", ∅⟩,
    ⟨"hebr", "hebrew",
      .ofGaps "1425 54 7 26 3 5 62759 25 0 4 0 0 0 1 0 1 0 9",
      .ofGaps "775 1"⟩,
    ⟨"hira", "hiragana",
      .ofGaps "12353 85 5 2 98144 286 17 0 28 2 16556 0",
      .ofGaps "12289 2 3 9 0 12 15 5 0 0 3 1 90 3 2 0 89 1 52551 1 281 4 9 0 44 1"⟩,
    ⟨"hluw", "anatolianhieroglyphs", .ofGaps "82944 582", ∅⟩,
    ⟨"hmng", "pahawhhmong", .ofGaps "92928 69 9 9 0 6 0 20 4 18", ∅⟩,
    ⟨"hmnp", "nyiakengpuachuehmong", .ofGaps "123136 44 2 13 1 9 3 1", ∅⟩,
    ⟨"hung", "oldhungarian", .ofGaps "68736 50 12 50 6 5", .ofGaps "8282 0 1 0 3538 0 14 0"⟩,
    ⟨"ital", "olditalic", .ofGaps "66304 35 8 2", ∅⟩,
    ⟨"java", "javanese", .ofGaps "43392 77 1 9 3 1", .ofGaps "43471 0"⟩,
    ⟨"kali", "kayahli", .ofGaps "43264 45 0 0", .ofGaps "43310 0"⟩,
    ⟨"kana", "katakana",
      .ofGaps (String.join [
      "12449 89 1 2 239 15 207 46 0 87 52237 9 0 44 45137 3 0 6 0 1 0 0 286 2 49 0 13 3"]),
      .ofGaps (String.join [
      "773 0 28 0 11484 2 3 9 0 12 15 5 0 0 3 1 90 3 2 0 89 1 52551 1 281 4 9 0 44 1"])⟩,
    ⟨"kawi", "kawi", .ofGaps "73472 16 0 40 2 28", ∅⟩,
    ⟨"khar", "kharoshthi", .ofGaps "68096 3 0 1 4 7 0 2 0 28 1 2 3 9 6 8", ∅⟩,
    ⟨"khmr", "khmer", .ofGaps "6016 93 1 9 5 9 485 31", ∅⟩,
    ⟨"khoj", "khojki", .ofGaps "70144 17 0 46", .ofGaps "2790 9 40255 9"⟩,
    ⟨"kits", "khitansmallscript", .ofGaps "94180 0 6938 469 40 0", ∅⟩,
    ⟨"knda", "kannada",
      .ofGaps "3200 12 0 2 0 22 0 9 0 4 1 8 0 2 0 3 6 1 5 1 0 3 1 9 0 2",
      .ofGaps "2385 1 16 1 4969 0 0 1 5 0 22 0 0 0 35642 5"⟩,
    ⟨"krai", "kiratrai", .ofGaps "93504 57", ∅⟩,
    ⟨"kthi", "kaithi", .ofGaps "69760 66 9 0", .ofGaps "2406 9 9408 0 31229 9"⟩,
    ⟨"lana", "taitham", .ofGaps "6688 62 0 28 1 10 5 9 5 13", ∅⟩,
    ⟨"laoo", "lao", .ofGaps "3713 1 0 0 0 4 0 23 0 0 0 22 1 4 0 0 0 6 0 9 1 3", ∅⟩,
    ⟨"latn", "latin",
      .ofGaps (String.join [
      "65 25 5 25 46 0 14 0 4 22 0 30 0 448 38 4 6682 37 5 48 4 3 4 12 0 69 64 255 368 0 12 0 ",
      "15 12 140 1 5 0 26 0 16 40 2774 31 31393 101 2 66 1 1 0 0 0 7 20 13 815 42 0 8 0 3 ",
      "20373 6 1049 25 5 25 2084 5 0 41 0 8 55108 30 5 5"]),
      .ofGaps (String.join [
      "183 0 515 0 9 0 0 2 0 0 8 0 0 0 37 14 0 1 0 0 14 2 6 1 0 1 37 0 4 0 3 12 276 1 1225 1 ",
      "1959 0 3323 0 565 0 191 0 3365 0 30951 7 549 0"])⟩,
    ⟨"lepc", "lepcha", .ofGaps "7168 55 2 14 2 2", ∅⟩,
    ⟨"limb", "limbu", .ofGaps "6400 30 0 11 3 11 3 0 2 11", .ofGaps "2405 0"⟩,
    ⟨"lina", "lineara", .ofGaps "67072 310 8 21 9 7", .ofGaps "65799 44"⟩,
    ⟨"linb", "linearb",
      .ofGaps "65536 11 0 25 0 18 0 1 0 14 1 13 33 122",
      .ofGaps "65792 2 3 44 2 8"⟩,
    ⟨"lisu", "lisu", .ofGaps "42192 47 31407 0", .ofGaps "700 0 15 0 11579 1"⟩,
    ⟨"lyci", "lycian", .ofGaps "66176 28", .ofGaps "8282 0"⟩,
    ⟨"lydi", "lydian", .ofGaps "67872 25 4 0", .ofGaps "183 0 11640 0"⟩,
    ⟨"mahj", "mahajani", .ofGaps "69968 38", .ofGaps "183 0 2219 11 40639 9"⟩,
    ⟨"maka", "makasar", .ofGaps "73440 24", ∅⟩,
    ⟨"mand", "mandaic", .ofGaps "2112 27 1 0", .ofGaps "1600 0"⟩,
    ⟨"mani", "manichaean", .ofGaps "68288 38 3 11", .ofGaps "1600 0"⟩,
    ⟨"marc", "marchen", .ofGaps "72816 31 1 21 0 13", ∅⟩,
    ⟨"medf", "medefaidrin", .ofGaps "93760 90", ∅⟩,
    ⟨"mend", "mendekikakui", .ofGaps "124928 196 1 15", ∅⟩,
    ⟨"merc", "meroiticcursive", .ofGaps "68000 23 3 19 1 45", ∅⟩,
    ⟨"mero", "meroitichieroglyphs", .ofGaps "67968 31", .ofGaps "8285 0"⟩,
    ⟨"mlym", "malayalam",
      .ofGaps "3328 12 0 2 0 50 0 2 0 5 3 15 1 25",
      .ofGaps "2385 1 16 1 4979 0 22 0 35644 2"⟩,
    ⟨"modi", "modi", .ofGaps "71168 68 10 9", .ofGaps "43056 9"⟩,
    ⟨"mong", "mongolian",
      .ofGaps "6144 1 1 0 0 19 5 88 6 42 64948 12",
      .ofGaps "6146 1 0 0 2088 0 4048 1 4 3"⟩,
    ⟨"mroo", "mro", .ofGaps "92736 30 0 9 3 1", ∅⟩,
    ⟨"mtei", "meeteimayek", .ofGaps "43744 22 200 45 1 9", ∅⟩,
    ⟨"mult", "multani", .ofGaps "70272 6 0 0 0 3 0 14 0 10", .ofGaps "2662 9"⟩,
    ⟨"mymr", "myanmar", .ofGaps "4096 159 39231 30 96 31 27727 19", .ofGaps "43310 0"⟩,
    ⟨"nagm", "nagmundari", .ofGaps "124112 41", ∅⟩,
    ⟨"nand", "nandinagari",
      .ofGaps "72096 7 1 45 1 10",
      .ofGaps "2385 0 17 1 895 9 4088 0 7 0 6 0 35636 5"⟩,
    ⟨"narb", "oldnortharabian", .ofGaps "68224 31", ∅⟩,
    ⟨"nbat", "nabataean", .ofGaps "67712 30 7 8", ∅⟩,
    ⟨"newa", "newa", .ofGaps "70656 91 0 4", .ofGaps "2385 1 4993 0 0 1 8 0 5 0 0 0 0 0"⟩,
    ⟨"nkoo", "nko", .ofGaps "1984 58 1 2", .ofGaps "1548 0 13 0 2 0 63261 1"⟩,
    ⟨"nshu", "nushu", .ofGaps "94177 0 16781 395", ∅⟩,
    ⟨"ogam", "ogham", .ofGaps "5760 28", ∅⟩,
    ⟨"olck", "olchiki", .ofGaps "7248 47", ∅⟩,
    ⟨"onao", "olonal", .ofGaps "124368 42 3 0", .ofGaps "2404 1"⟩,
    ⟨"orkh", "oldturkic", .ofGaps "68608 72", .ofGaps "8282 0 3540 0"⟩,
    ⟨"orya", "oriya",
      .ofGaps "2817 2 0 7 1 1 1 21 0 6 0 1 0 4 1 8 1 1 1 2 6 2 3 1 0 4 1 17",
      .ofGaps "2385 1 16 1 4979 0 22 0"⟩,
    ⟨"osge", "osage", .ofGaps "66736 35 3 35", .ofGaps "769 0 1 0 5 0 75 0"⟩,
    ⟨"osma", "osmanya", .ofGaps "66688 29 1 9", ∅⟩,
    ⟨"ougr", "olduyghur", .ofGaps "69488 25", .ofGaps "1600 0 66736 0"⟩,
    ⟨"palm", "palmyrene", .ofGaps "67680 31", ∅⟩,
    ⟨"pauc", "paucinhau", .ofGaps "72384 56", ∅⟩,
    ⟨"perm", "oldpermic", .ofGaps "66384 42", .ofGaps "183 0 583 0 4 2 9 0 366 0"⟩,
    ⟨"phag", "phagspa", .ofGaps "43072 55", .ofGaps "6146 1 0 0 2088 0 4049 0"⟩,
    ⟨"phli", "inscriptionalpahlavi", .ofGaps "68448 18 4 7", ∅⟩,
    ⟨"phlp", "psalterpahlavi", .ofGaps "68480 17 6 3 11 6", .ofGaps "1600 0"⟩,
    ⟨"phnx", "phoenician", .ofGaps "67840 27 2 0", ∅⟩,
    ⟨"plrd", "miao", .ofGaps "93952 74 3 56 6 16", ∅⟩,
    ⟨"prti", "inscriptionalparthian", .ofGaps "68416 21 1 7", ∅⟩,
    ⟨"rjng", "rejang", .ofGaps "43312 35 10 0", ∅⟩,
    ⟨"rohg", "hanifirohingya", .ofGaps "68864 39 7 9", .ofGaps "1548 0 13 0 2 0 31 0 146 0"⟩,
    ⟨"runr", "runic", .ofGaps "5792 74 2 10", .ofGaps "5867 2"⟩,
    ⟨"samr", "samaritan", .ofGaps "2048 45 1 14", .ofGaps "11825 0"⟩,
    ⟨"sarb", "oldsoutharabian", .ofGaps "68192 31", ∅⟩,
    ⟨"saur", "saurashtra", .ofGaps "43136 69 7 11", ∅⟩,
    ⟨"sgnw", "signwriting", .ofGaps "120832 651 14 4 0 14", ∅⟩,
    ⟨"shaw", "shavian", .ofGaps "66640 47", .ofGaps "183 0"⟩,
    ⟨"shrd", "sharada",
      .ofGaps "70016 95",
      .ofGaps "2385 0 4996 0 0 0 1 1 1 0 8 0 1 0 35649 5 1 0"⟩,
    ⟨"sidd", "siddham", .ofGaps "71040 53 1 37", ∅⟩,
    ⟨"sind", "khudawadi", .ofGaps "70320 58 4 9", .ofGaps "2404 1 40649 9"⟩,
    ⟨"sinh", "sinhala",
      .ofGaps "3457 2 0 17 2 23 0 8 0 0 1 6 2 0 3 5 0 0 0 7 5 9 1 2 66539 19",
      .ofGaps "2404 1 5003 0"⟩,
    ⟨"sogd", "sogdian", .ofGaps "69424 41", .ofGaps "1600 0"⟩,
    ⟨"sogo", "oldsogdian", .ofGaps "69376 39", ∅⟩,
    ⟨"sora", "sorasompeng", .ofGaps "69840 24 6 9", ∅⟩,
    ⟨"soyo", "soyombo", .ofGaps "72272 82", ∅⟩,
    ⟨"sund", "sundanese", .ofGaps "7040 63 255 7", ∅⟩,
    ⟨"sunu", "sunuwar", .ofGaps "72640 33 13 9", .ofGaps "768 1 0 0 8 0 1 0 27 0 2 0"⟩,
    ⟨"sylo", "sylotinagri", .ofGaps "43008 44", .ofGaps "2404 1 127 9"⟩,
    ⟨"syrc", "syriac",
      .ofGaps "1792 13 0 59 1 2 271 10",
      .ofGaps "771 1 1 1 0 0 23 2 6 1 0 1 729 0 13 1 1 0 31 0 9 10 25 0 6022 0 0 0"⟩,
    ⟨"tagb", "tagbanwa", .ofGaps "5984 12 0 2 0 1", .ofGaps "5941 1"⟩,
    ⟨"takr", "takri", .ofGaps "71296 57 5 9", .ofGaps "2404 1 40649 9"⟩,
    ⟨"tale", "taile", .ofGaps "6480 29 1 4", .ofGaps "768 1 4 1 2 0 3378 9"⟩,
    ⟨"talu", "newtailue", .ofGaps "6528 43 3 25 5 10 2 1", ∅⟩,
    ⟨"taml", "tamil",
      .ofGaps (String.join [
      "2946 1 0 5 2 2 0 3 2 1 0 0 0 1 2 1 2 2 2 11 3 4 2 2 0 3 1 0 5 0 13 20 70596 49 12 0"]),
      .ofGaps "2385 1 16 1 4979 0 35863 0 27148 0 0 0 54 1"⟩,
    ⟨"tang", "tangut", .ofGaps "94176 0 30 6135 7 767 511 8", .ofGaps "12272 15 494 0"⟩,
    ⟨"tavt", "taiviet", .ofGaps "43648 66 23 4", ∅⟩,
    ⟨"telu", "telugu",
      .ofGaps "3072 12 0 2 0 22 0 15 1 8 0 2 0 3 6 1 0 2 1 0 1 3 1 9 6 8",
      .ofGaps "2385 1 16 1 4974 1 0 0 0 0 22 0"⟩,
    ⟨"tfng", "tifinagh", .ofGaps "11568 55 6 1 13 0", .ofGaps "770 0 0 0 0 3 24 0"⟩,
    ⟨"tglg", "tagalog", .ofGaps "5888 21 8 0", .ofGaps "5941 1"⟩,
    ⟨"thaa", "thaana", .ofGaps "1920 49", .ofGaps "1548 0 13 1 1 0 63 9 63367 0 9 0"⟩,
    ⟨"thai", "thai", .ofGaps "3585 57 4 27", .ofGaps "700 0 25 0 42 0 44 0"⟩,
    ⟨"tibt", "tibetan", .ofGaps "3840 71 0 35 3 38 0 35 0 14 0 6 3 1", .ofGaps "12296 3"⟩,
    ⟨"tirh", "tirhuta", .ofGaps "70784 71 7 9", .ofGaps "2385 1 16 1 4974 0 11 0 14 0 35644 9"⟩,
    ⟨"tnsa", "tangsa", .ofGaps "92784 78 0 9", ∅⟩,
    ⟨"todr", "todhri", .ofGaps "67008 51", .ofGaps "769 0 1 0 1 0 8 0 0 0 73 0"⟩,
    ⟨"toto", "toto", .ofGaps "123536 30", .ofGaps "700 0"⟩,
    ⟨"tutg", "tulutigalari",
      .ofGaps "70528 9 0 0 1 0 0 37 0 9 0 0 1 0 0 3 0 9 0 1 7 1",
      .ofGaps "3302 9 4097 0 0 0 35642 5 186 0"⟩,
    ⟨"ugar", "ugaritic", .ofGaps "66432 29 0 0", ∅⟩,
    ⟨"vaii", "vai", .ofGaps "42240 299", ∅⟩,
    ⟨"vith", "vithkuqi", .ofGaps "66928 10 0 14 0 6 0 1 0 10 0 14 0 6 0 1", ∅⟩,
    ⟨"wara", "warangciti", .ofGaps "71840 82 11 0", ∅⟩,
    ⟨"wcho", "wancho", .ofGaps "123584 57 4 0", ∅⟩,
    ⟨"xpeo", "oldpersian", .ofGaps "66464 35 3 13", ∅⟩,
    ⟨"xsux", "cuneiform", .ofGaps "73728 921 101 110 0 4 10 195", ∅⟩,
    ⟨"yezi", "yezidi", .ofGaps "69248 41 0 2 1 1", .ofGaps "1548 0 13 0 2 0 63 9"⟩,
    ⟨"yiii", "yi", .ofGaps "40960 1164 2 54", .ofGaps "12289 1 4 9 1 7 222 0 52836 4"⟩,
    ⟨"zanb", "zanabazarsquare", .ofGaps "72192 71", ∅⟩,
    ⟨"zinh", "inherited",
      .ofGaps (String.join [
      "768 111 276 1 451 10 25 0 735 3 4442 30 512 2 0 12 0 6 3 0 5 0 2 1 197 63 523 1 193 32 ",
      "3896 3 106 1 52580 15 15 13 974 0 225 0 4185 0 48067 45 1 22 543 2 16 7 1 6 29 3 ",
      "798545 239"]),
      ∅⟩,
    ⟨"zyyy", "common",
      .ofGaps (String.join [
      "0 64 25 5 25 46 0 14 0 4 22 0 30 0 448 38 4 4 1 19 115 0 8 0 5 0 0 0 636 0 5 0 13 0 2 ",
      "0 31 0 155 0 515 0 128 1 1240 0 404 3 289 0 1518 2 70 1 202 1 0 0 1228 0 12 0 6 3 0 5 ",
      "0 2 1 0 772 11 1 86 0 10 2 10 0 14 16 32 62 37 0 2 1 5 0 26 0 16 40 2 3 665 21 10 20 ",
      "927 255 627 1 31 0 104 511 93 401 20 0 0 0 24 14 7 3 3 90 1 2 0 89 1 146 15 31 37 8 0 ",
      "47 63 30 80 46 0 87 167 6591 63 22783 33 101 2 164 9 243 0 159 0 394 0 13 1 20945 1 ",
      "207 9 21 34 0 18 0 3 146 0 0 31 25 5 25 10 9 0 44 1 63 6 0 6 9 4 257 2 3 44 2 8 79 12 ",
      "50 44 227 26 47523 3 3931 249 5 435 155 115 59 245 9 38 1 61 2 16 7 1 6 29 3 60 212 19 ",
      "11 19 11 86 8 24 134 84 0 70 0 1 1 0 1 1 1 3 0 11 0 0 0 6 0 64 0 3 1 7 0 6 0 27 0 3 0 ",
      "4 0 0 2 6 0 339 1 291 1 49 5232 67 75 60 705 43 3 99 11 14 1 14 0 14 0 36 9 173 55 25 ",
      "0 1 12 43 3 8 6 1 13 5 153 983 3 16 2 12 2 118 3 94 5 11 3 0 14 11 3 55 7 9 5 39 7 29 ",
      "1 11 3 1 61 339 11 13 1 12 2 9 4 55 6 14 1 10 5 8 6 146 0 101 787462 0 29 95"]),
      ∅⟩]

/-- Former codes of scripts with the present ones. -/
def formerCodes : List (String × String) :=
  [("qaac", "copt"), ("qaai", "zinh")]

/-- The script with a code or a long name. -/
def find? (name : String) : Option Script :=
  let name := (formerCodes.lookup name).getD name
  all.find? fun script => script.code = name ∨ script.name = name

/-- Whether a script stands for the characters that several scripts share. -/
def isShared (script : Script) : Bool :=
  script.code == "zyyy" || script.code == "zinh"

/-- The characters that any script uses besides its own. -/
def allBorrowed : Charset :=
  .unionAll (all.map borrowed)

/-- The characters that a script uses.  Of the shared ones, only those stay shared that no script
uses as its own. -/
def extended (script : Script) : Charset :=
  if script.isShared then script.members \ allBorrowed else script.members ∪ script.borrowed

end Script
end Regex
end SchemaForm
