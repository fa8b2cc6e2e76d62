import SchemaForm.Text.Charset

/-!
# Editions of the character database

The Unicode character database grows from edition to edition, and code points
that were assigned once stay assigned.  The table lists what each edition
added.

Main results:

- Theorem `assigned_mono`: a later edition keeps what an earlier one assigned.
-/

namespace SchemaForm
namespace Text

/-- An edition of the Unicode character database. -/
structure Edition where
  major : Nat
  minor : Nat
deriving DecidableEq, Repr

namespace Edition

/-- Whether an edition is the other one or came before it. -/
def upTo (edition last : Edition) : Bool :=
  edition.major < last.major || (edition.major == last.major && edition.minor ≤ last.minor)

/-- The code points that each edition assigned first, noncharacters included. -/
def additions : List (Edition × Charset) :=
  [(⟨1, 1⟩, .ofGaps (String.join [
      "0 501 3 29 55 88 6 46 0 9 21 69 25 1 17 1 3 0 2 0 4 6 0 0 0 19 0 43 0 6 2 0 0 0 0 0 0 ",
      "0 0 17 12 11 0 65 0 11 0 40 8 52 1 1 1 1 2 27 1 7 1 1 54 37 1 6 0 38 0 0 37 9 0 8 11 ",
      "26 4 4 22 0 13 0 2 0 0 25 4 18 12 13 1 71 1 4 0 14 0 29 1 9 518 2 0 52 1 17 1 4 2 24 ",
      "15 2 0 7 1 1 1 21 0 6 0 0 2 3 1 0 0 6 1 1 1 2 8 0 3 1 0 4 1 20 6 0 1 5 3 1 1 21 0 6 0 ",
      "1 0 1 0 1 1 0 0 4 3 1 1 2 10 3 0 0 6 14 11 2 0 6 0 0 0 2 0 21 0 6 0 1 0 4 1 9 0 2 0 2 ",
      "1 0 14 0 4 9 16 2 0 7 1 1 1 21 0 6 0 1 1 3 1 7 2 1 1 2 7 1 3 1 0 2 3 10 16 1 0 5 2 2 0 ",
      "3 2 1 0 0 0 1 2 1 2 2 2 7 0 2 3 4 2 2 0 3 8 0 14 11 13 2 0 7 0 2 0 22 0 9 0 4 3 6 0 2 ",
      "0 3 6 1 8 1 3 9 17 1 0 7 0 2 0 22 0 9 0 4 3 6 0 2 0 3 6 1 6 0 0 1 3 9 17 1 0 7 0 2 0 ",
      "22 0 15 3 5 1 2 0 3 8 0 7 1 3 9 144 57 3 28 36 1 0 0 1 1 0 0 1 0 5 3 0 6 0 2 0 0 0 0 1 ",
      "1 0 12 0 2 1 4 0 0 0 5 1 9 1 1 449 37 9 38 3 0 3 89 4 67 4 81 3077 154 4 89 5 21 1 5 1 ",
      "37 1 5 1 7 0 0 0 0 0 0 0 30 1 52 0 14 0 13 1 5 0 18 1 2 0 8 0 46 0 22 34 6 2 26 16 10 ",
      "36 17 29 56 25 47 12 90 20 241 13 0 0 120 132 36 26 10 20 138 20 149 9 79 15 19 5 85 ",
      "144 3 0 3 1 27 0 34 0 0 0 3 2 0 0 6 1 6 13 30 2 23 0 13 2112 55 6 0 0 83 3 5 1 93 5 39 ",
      "3 93 0 15 95 28 2 35 27 27 2 49 14 11 3 46 0 118 3 98 1 30 6656 20901 16473 6701 209 6 ",
      "11 4 5 24 0 4 0 0 0 1 0 1 0 107 32 364 15 63 1 53 39 11 35 3 11 20 3 9 0 18 0 3 3 2 0 ",
      "0 0 134 1 0 0 93 1 93 2 5 1 5 1 5 1 2 2 6 0 6 13 2"])),
    (⟨2, 0⟩, .ofGaps (String.join [
      "1425 16 0 12 19 0 2362 71 0 32 6 26 3 5 0 0 0 20 2 6 0 0 3808 0 526 0 35667 11171 91 ",
      "2047 73725 1 65533 1 65533 1 65533 1 65533 1 65533 1 65533 1 65533 1 65533 1 65533 1 ",
      "65533 1 65533 1 65533 1 65533 131073"])),
    (⟨2, 1⟩, .ofGaps "8364 0 57166 0"),
    (⟨3, 0⟩, .ofGaps (String.join [
      "502 3 29 7 1 17 116 4 48 0 9 4 86 8 18 0 115 0 2 0 0 0 0 0 0 0 29 0 11 0 65 0 11 0 41 ",
      "1 1 3 91 1 155 0 199 2 97 1 4 0 14 0 41 4 0 13 0 29 2 26 52 48 1488 1 0 17 2 23 0 8 0 ",
      "0 1 6 2 0 3 5 0 0 0 7 17 2 372 0 42 0 22 2 6 0 0 2 0 14 1 0 47 33 0 4 0 1 0 6 2 3 5 25 ",
      "421 6 0 62 0 0 0 3 1 6 0 0 0 3 1 38 0 0 0 3 1 30 0 0 0 3 1 6 0 0 0 3 1 6 0 6 0 22 0 30 ",
      "0 0 0 3 1 6 0 38 0 18 5 27 34 84 11 629 8 28 2 80 142 92 2 9 21 14 0 9 5 87 7 41 1924 ",
      "0 23 5 94 2 49 1 84 1 71 0 102 8 268 0 120 0 0 29 137 1 456 7 32 0 85 1 397 255 1407 ",
      "25 0 88 11 213 25 11 59 2 2 0 352 23 583 6581 21065 1164 2 17 1 15 0 11 0 2 0 0 22101 ",
      "0 1242 2"])),
    (⟨3, 1⟩, .ofGaps (String.join [
      "1012 1 63961 31 1295 30 0 3 11 26 180 37 1 37 52145 245 9 38 2 179 545 84 0 70 0 1 1 0 ",
      "1 1 1 3 0 11 0 0 0 3 0 1 0 64 0 3 1 7 0 6 0 27 0 3 0 4 0 0 2 6 0 337 3 289 3 49 10239 ",
      "42710 20776 541 722402 0 29 95"])),
    (⟨3, 2⟩, .ofGaps (String.join [
      "544 0 301 0 18 12 103 1 27 0 146 1 56 1 1 1 1 1 48 15 349 1 320 0 2372 1 1542 12 0 6 ",
      "10 22 8 19 11 12 0 2 0 1 2258 0 5 4 3 0 6 4 12 0 61 1 49 6 81 14 167 11 241 13 123 0 ",
      "29 51 283 19 150 9 87 7 21 1 89 11 1 9 221 13 89 27 3 15 255 511 1338 2 86 1 7 1 93 0 ",
      "239 15 80 14 80 14 29153 1 15 0 11 0 2 0 21865 58 912 0 2 15 52 1 43 0 234 1"])),
    (⟨4, 0⟩, .ofGaps (String.join [
      "545 0 17 2 118 1 62 16 79 7 4 2 150 4 515 3 8 8 63 2 148 1 14 0 44 2 28 2 435 0 183 0 ",
      "66 0 0 0 135 0 83 2 12 0 66 0 58 0 128 7 192 1 2846 0 17 9 261 28 2 11 3 11 3 0 2 41 1 ",
      "4 106 31 767 107 742 1 229 0 658 1 301 0 275 1 115 7 13 1 1117 13 1806 1 48 0 42 1 77 ",
      "3 166 3 98 1 30 0 6591 63 45052 0 72 1 438 11 0 25 0 18 0 1 0 14 1 13 33 122 4 2 3 44 ",
      "2 8 575 29 0 0 133 1 37 79 1 9 853 5 1 0 0 43 0 1 2 0 1 0 51903 86 361 0 797757 239"])),
    (⟨4, 1⟩, .ofGaps (String.join [
      "567 10 277 4 158 3 245 1 169 0 33 2 66 0 17 0 57 5 240 29 526 0 79 0 486 0 46 0 1000 1 ",
      "294 1 0 0 265 0 62 0 62 0 38 0 30 0 30 0 30 0 14 0 38 0 22 1 30 25 1509 41 5 25 5 9 3 ",
      "1 31 27 1 1 843 87 656 1 0 6 48 4 28 3 52 0 79 0 14 0 643 10 571 0 100 1 17 10 4 15 ",
      "269 6 838 5 235 46 0 46 32 106 13 44 9 53 8 0 15 22 8 6 0 6 0 6 0 6 0 6 0 6 0 6 0 6 32 ",
      "23 3 1 929 15 173 0 27942 21 1859 22 232 43 21059 105 821 9 805 74 532 35 3 13 1577 3 ",
      "0 1 4 7 0 2 0 26 3 2 3 8 7 8 51110 69 1117 1"])),
    (⟨5, 0⟩, .ofGaps (String.join [
      "578 13 298 2 336 0 41 5 15 3 165 0 516 58 383 1 0 1 865 1 12 1 3596 75 3 44 582 6 50 1 ",
      "747 3 92 1 52 0 598 11 713 0 275 3 840 6 4 3 315 12 6 3 31390 3 4 1 285 55 24711 25 4 ",
      "0 5855 878 144 98 12 3 44779 17 1111 1"])),
    (⟨5, 1⟩, .ofGaps (String.join [
      "880 3 1 1 86 0 182 0 139 15 225 4 10 4 31 4 301 17 496 1 221 0 34 0 205 0 28 1 107 0 ",
      "107 0 25 1 7 1 19 7 188 0 5 0 28 1 11 5 2 6 490 1 96 0 2 2 76 0 4 0 1 0 6 2 3 5 25 63 ",
      "3 1 2057 0 724 42 2 11 69 55 2 14 2 50 330 27 180 3 89 5 355 0 138 0 93 0 52 3 1299 0 ",
      "20 9 2 3 263 0 30 3 810 4 3 40 2 4 279 2 0 2 3 5 353 31 23 3 1 18 763 0 161 19 28119 7 ",
      "1339 299 19 31 1 17 7 27 130 4 1 106 109 4 127 68 8 11 37 83 10 0 159 54 8 13 1 9 1 3 ",
      "21443 2 872 11 51 45 129 28 2 48 1614 25 4 0 51176 0 7893 43 3 99"])),
    (⟨5, 2⟩, .ofGaps (String.join [
      "1316 1 729 45 1 14 192 0 76 0 5 0 34 1 127 0 1496 3 192 3 187 4 67 4 81 5 511 0 629 8 ",
      "559 69 179 1 45 0 68 62 0 28 1 10 5 9 5 13 545 34 265 0 695 2 150 2 53 0 605 0 692 1 ",
      "28 2 3 9 0 18 0 0 3 23 86 0 1020 4 277 0 12 1 106 6 318 0 1041 11 28019 7 1283 47 415 ",
      "87 311 9 165 27 99 28 2 77 0 10 3 1 127 27 3 66 23 4 223 45 1 9 11189 22 3 48 8814 2 ",
      "3537 21 0 8 185 1 323 31 127 53 2 28 1 26 4 7 127 72 534 30 512 65 7997 1070 48336 10 ",
      "4 30 1 0 10 0 0 0 1 0 2 0 2 4 7 0 6 0 24 0 0 1 1 0 9 3 1 0 110 0 14 33 13 8 46262 4148"])),
    (⟨6, 0⟩, .ofGaps (String.join [
      "1318 1 247 0 61 0 479 27 1 0 218 1 18 0 5 1 26 4 505 5 432 0 15 0 18 0 572 3 72 1 897 ",
      "1 2144 51 7 3 507 0 663 7 27 0 814 10 729 0 18 0 0 3 28 0 3 1 27 0 34 0 0 0 3 2 8 1 51 ",
      "2 23 0 13 0 13 1 1439 0 13 0 1079 2 29860 1 298 1 0 1 13 9 79 0 773 5 1 5 1 5 8 6 0 6 ",
      "20610 15 5181 77 3 29 22415 568 17862 1 16541 14 1 13 1 14 0 14 79 0 0 10 0 0 0 1 0 2 ",
      "0 2 4 7 0 6 0 9 5 8 0 0 1 1 0 9 3 1 0 9 74 25 0 1 46 8 20 1 173 32 14 5 0 69 2 19 11 ",
      "36 0 4 20 16 14 62 0 0 0 181 0 3 2 61 17 23 146 4 0 15 0 2 0 0 0 0 0 0 0 2 0 5 1 3 0 0 ",
      "1 3 0 11 3 10 47 69 57 115 49099 221"])),
    (⟨6, 1⟩, .ofGaps (String.join [
      "1423 0 115 0 666 0 0 10 54 26 496 0 1004 1 486 0 4 0 46 2 2730 2 11 5 255 7 42 3 2771 ",
      "0 0 0 1315 1 50 0 4 0 55 1 201 9 29071 0 1702 7 34 0 241 1 21 0 76 1 741 22 20278 1 ",
      "3919 55 5 1 1807 24 6 9 5 52 0 13 59 72 6 9 1189 55 7 9 22581 68 10 46 15 16 32351 3 0 ",
      "26 0 1 0 0 1 0 0 9 0 3 0 0 0 0 5 0 3 0 0 0 0 0 0 2 0 1 0 0 1 0 0 0 0 0 0 0 0 0 0 1 0 0 ",
      "1 3 0 6 0 3 0 3 0 0 0 9 0 16 4 2 0 4 0 16 51 1 631 1 979 3 187 0 15 0 2 0 0 0 0 0 0 0 ",
      "2 0 5 1 3 0 0 1 3 0"])),
    (⟨6, 2⟩, .ofGaps "8378 0"),
    (⟨6, 3⟩, .ofGaps "1564 0 6728 3"),
    (⟨7, 0⟩, .ofGaps (String.join [
      "895 0 423 7 92 1 117 0 666 0 10 5 75 0 119 0 6 0 638 0 50 0 75 0 126 0 227 9 2304 7 ",
      "547 1 400 14 568 1 236 14 708 2 821 6 772 0 1099 2 9 25 1 31 1 33 2 11 0 7 617 6 30804 ",
      "5 245 11 10 2 1 1 68 0 487 30 124 3 175 47 3 1 21184 6 860 1 18 0 318 27 34 0 47 42 ",
      "388 39 7 51 10 0 143 310 8 21 9 7 247 62 7 8 463 31 31 38 3 11 136 17 6 3 11 6 1230 0 ",
      "207 38 85 0 11 0 5 19 10 17 0 42 113 58 4 9 6 2 0 7 1 1 1 21 0 6 0 1 0 4 1 8 1 1 1 2 8 ",
      "0 4 6 1 6 2 4 266 71 7 9 165 53 1 17 53 68 10 9 581 82 11 0 447 56 2165 41 201 11 4 0 ",
      "17866 30 0 9 3 1 95 29 1 5 9 69 9 9 0 6 0 20 4 18 20591 106 4 12 2 8 6 9 1 7 11099 196 ",
      "1 15 2023 0 31 21 20 1 531 11 8 0 69 0 21 11 36 0 4 3 4 11 16 6 70 0 0 0 181 0 3 1 62 ",
      "1 3 6 28 17 0 40 0 85 69 1 12 47 69 9 15 12 2 3 139 84 42 11 3 55 7 9 5 39 7 29"])),
    (⟨8, 0⟩, .ofGaps (String.join [
      "2227 1 45 0 532 0 351 0 259 0 1684 0 1 5 3263 0 202 1 2655 3 29660 8 1735 0 239 0 33 5 ",
      "323 1 609 3 11 79 21101 1 2735 18 0 1 4 4 187 1 1 15 1 45 639 50 12 50 6 5 1224 3 13 4 ",
      "159 6 0 0 0 3 0 14 0 10 85 0 78 0 632 19 289 25 2 14 3 15 3160 0 229 195 7867 582 ",
      "35734 10 1558 651 14 4 0 14 6268 2 77 1 78 4 35 7 254 0 74 4 242 1 138 0 574 8 102 4 ",
      "58 0 48734 5761"])),
    (⟨9, 0⟩, .ofGaps (String.join [
      "2230 7 21 14 924 0 205 0 3 2 0 6 22 2 3846 8 369 0 1534 3 2627 1 31080 0 277 0 22726 1 ",
      "800 35 3 35 3393 0 448 89 0 0 0 0 513 12 1426 8 0 44 0 13 9 28 2 31 1 21 0 13 21288 0 ",
      "30 6124 18 754 21772 6 0 16 1 6 0 1 0 4 2260 74 4 9 3 1 2106 17 141 0 829 0 40 0 299 1 ",
      "32 2 545 5 0 7 7 0 1 11 0 11 3 14 37 12"])),
    (⟨10, 0⟩, .ofGaps (String.join [
      "2144 10 400 1 251 5 511 0 57 1 4025 0 253 3 708 0 830 0 2001 0 625 4 739 0 28326 20 ",
      "25409 2 5839 71 7 51 1 22 0 4 604 6 0 1 0 43 2 0 0 1 0 8 7 9 21126 0 16415 284 80 395 ",
      "16227 5 1132 1 33 1 518 11 18 0 7 7 0 1 24 0 17 12 37 5 55 22 54472 7472"])),
    (⟨11, 0⟩, .ofGaps (String.join [
      "1376 0 38 0 101 0 524 2 210 0 297 0 118 0 396 0 126 0 3058 0 1046 42 1 2 3833 2 21 24 ",
      "3 14 586 4 735 0 28346 4 1982 0 7 1 323 1 24883 1 17 0 694 39 7 9 453 39 7 41 370 0 ",
      "117 2 499 0 289 0 698 0 228 59 608 0 705 5 0 1 0 36 0 1 0 5 6 9 309 24 20294 90 6481 4 ",
      "19181 19 125 6 6391 67 1145 0 1480 0 218 3 371 2 27 4 1 3 2 0 0 3 23 10 12 9 6 1 35 24 ",
      "95 13"])),
    (⟨12, 0⟩, .ofGaps (String.join [
      "3191 0 525 0 1 0 1 0 0 5 3 0 6 0 6 1 1 0 12 0 3646 0 3789 0 52 0 590 0 31081 5 1 4 926 ",
      "1 25719 22 1127 0 599 0 742 7 1 45 1 10 158 1 1337 49 12 0 5167 8 15115 5 3 0 46 8 89 ",
      "1 6157 5 10583 2 16 3 12183 44 2 13 1 9 3 1 367 57 4 0 1610 0 948 60 1069 0 1383 0 35 ",
      "0 228 11 288 2 46 0 48 0 8 0 40 5 2 1 9 5 2 7 1 2 47 83 27 3 3 2 4 2 12 5"])),
    (⟨12, 1⟩, .ofGaps "13055 0"),
    (⟨13, 0⟩, .ofGaps (String.join [
      "2238 9 652 0 429 0 123 0 3388 1 4309 0 695 2 871 4 7157 9 21039 12 1993 3 41 1 52 0 ",
      "826 3 22063 0 3298 41 0 2 1 1 253 27 378 0 133 1 649 0 4 1 1181 6 1 0 1 7 0 1 0 29 0 1 ",
      "1 11 8 9 1621 0 20530 0 10 1 6912 482 41 8 25603 2 92 2 60 0 1319 1 34 1 434 1 89 0 ",
      "100 0 3 1 41 1 5 2 28 0 167 0 13 3 14 18 6 6 8 2 12 6 40 146 0 54 36 9 43740 6 22817 ",
      "4938"])),
    (⟨14, 0⟩, .ofGaps (String.join [
      "1565 0 593 30 0 1 5 7 20 0 17 10 872 0 31 0 126 0 2606 0 6 0 8 0 238 0 688 13 124 0 47 ",
      "1 634 0 708 0 2925 0 46 0 498 10 29086 2 1983 1 13 1 0 0 0 4 23 2 21452 0 380 15 126 0 ",
      "45 1 1903 10 0 14 0 6 0 1 0 10 0 14 0 6 0 1 450 5 0 41 0 8 1972 25 229 5 75 0 1525 0 ",
      "133 6 872 15 5327 98 14972 78 0 9 17701 3 0 6 0 1 287 3 7644 45 1 22 8 115 548 1 3348 ",
      "30 880 30 1328 6 0 3 0 1 0 14 3805 2 271 0 391 0 81 0 173 1 43 3 9 3 7 2 16 2 5 7 7 6 ",
      "44006 1 4180 3"])),
    (⟨15, 0⟩, .ofGaps (String.join [
      "3315 0 473 0 65581 2 830 2 2237 9 1013 16 0 40 2 27 5332 0 8 28 31963 0 33 0 8553 19 ",
      "3152 5 260 61 32 0 1087 41 4577 0 150 2 3 4 88 0 666 2 14 1 35 2 10 2 0 0 13 1 9 1 11 ",
      "0 13 1 48191 0 23573 4191"])),
    (⟨15, 1⟩, .ofGaps "12284 3 494 0 178687 621"),
    (⟨16, 0⟩, .ofGaps (String.join [
      "2199 0 4789 1 46 0 264 1 1947 2 3513 1 30180 2 11 2 24034 51 1867 37 2 28 7 1 305 2 54 ",
      "0 1154 9 0 0 1 0 0 37 0 9 0 0 1 0 0 3 0 9 0 1 7 1 748 19 1243 33 13 9 863 0 5380 3994 ",
      "7428 57 3077 57 8068 0 16127 249 5 435 5915 42 3 0 4785 9 3 1 454 0 4 0 45 0 6 0 20 0 ",
      "1 0 8 0 224 36"])),
    (⟨17, 0⟩, .ofGaps (String.join [
      "2191 0 971 0 126 0 3569 14 1 11 1492 0 2771 0 31798 1 1 0 0 0 27 0 21456 15 444 1 53 6 ",
      "2928 25 1386 2 7 8 32 1 3171 7 583 43 3 9 20661 24 1 24 285 4 6144 7 1288 21 96 114 ",
      "16134 2 444 22 14 16 6094 30 0 21 7 1 4055 0 157 3 340 8 378 3 49 0 2 0 56 0 3 0 27 0 ",
      "3 0 265 0 47934 5 5985 11 21761 4297"]))]

/-- All code points that an edition assigns. -/
def assigned (edition : Edition) : Charset :=
  .unionAll ((additions.filter fun row => row.1.upTo edition).map Prod.snd)

/-- A later edition keeps what an earlier one assigned. -/
theorem assigned_mono {first last : Edition} (h : first.upTo last = true) {c : Char}
    (hc : first.assigned.contains c = true) : last.assigned.contains c = true := by
  simp only [assigned, Charset.contains_unionAll, List.any_map, List.any_filter,
    List.any_eq_true, Bool.and_eq_true, Function.comp] at hc ⊢
  obtain ⟨row, hRow, hUpTo, hMember⟩ := hc
  refine ⟨row, hRow, ?_, hMember⟩
  simp only [upTo, Bool.or_eq_true, Bool.and_eq_true, decide_eq_true_eq, beq_iff_eq] at *
  omega

end Edition
end Text
end SchemaForm
