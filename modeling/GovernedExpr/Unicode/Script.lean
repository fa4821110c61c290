import GovernedExpr.Unicode.Runs

/-!
# Scripts

The characters of each script, and for each script the characters that other scripts share with
it.

* `Script` is a script with its names, in lower case and without separators;
* `scripts` lists them all, and `scriptNamed?` finds one by a name;
* `Script.own` are the characters of the script, `Script.extended` those that are used with it:
  a character of the common or inherited script that is used with certain scripts only counts as
  extended for these, and no longer for the common or inherited script.
-/

namespace GovernedExpr.Unicode

open GovernedExpr.Text

/-- A script: its names, the runs of its own characters, and the runs of the characters in which
the extended script differs. -/
structure Script where
  names : List String
  ownRuns : List String
  differing : List String

/-- The characters of a script. -/
def Script.own (s : Script) : CodeSet := setOfRuns s.ownRuns

/-- The characters that are used with a script. -/
def Script.extended (s : Script) : CodeSet := s.own.symmDiff (setOfRuns s.differing)

/-- The scripts from Adlam to Grantha. -/
def scriptsFirst : List Script := [
  { names := ["adlm", "adlam"]
    ownRuns := ["125184 76 4 10 4 2"]
    differing := ["1567 1 32 1 6670 1 3569 1"] },
  { names := ["ahom"]
    ownRuns := ["71424 27 2 15 4 23"]
    differing := [] },
  { names := ["hluw", "anatolianhieroglyphs"]
    ownRuns := ["82944 583"]
    differing := [] },
  { names := ["arab", "arabic"]
    ownRuns := [
      "1536 5 1 6 1 14 1 3 1 32 1 10 11 26 1 108 1 34 80 48 240 31 1 2 5 75 1 29 62032 115 16",
      "363 2 80 2 54 7 1 32 16 112 5 1 135 3939 31 67 3 55 4 57088 4 1 27 1 2 1 1 2 1 1 10 1 4",
      "1 1 1 1 6 1 4 1 1 1 1 1 1 3 1 2 1 1 2 1 1 1 1 1 1 1 1 1 1 2 1 1 2 4 1 7 1 4 1 4 1 1 1 10",
      "1 17 5 3 1 5 1 17 52 2"]
    differing := ["1548 1 14 1 3 1 32 1 10 11 26 1 6622 1 3569 1 52988 2 1440 28"] },
  { names := ["armn", "armenian"]
    ownRuns := ["1329 38 2 50 2 3 62851 5"]
    differing := ["776 1"] },
  { names := ["avst", "avestan"]
    ownRuns := ["68352 54 3 7"]
    differing := ["183 1 11640 2"] },
  { names := ["bali", "balinese"]
    ownRuns := ["6912 77 1 50"]
    differing := [] },
  { names := ["bamu", "bamum"]
    ownRuns := ["42656 88 49416 569"]
    differing := [] },
  { names := ["bass", "bassavah"]
    ownRuns := ["92880 30 2 6"]
    differing := [] },
  { names := ["batk", "batak"]
    ownRuns := ["7104 52 8 4"]
    differing := [] },
  { names := ["beng", "bengali"]
    ownRuns := ["2432 4 1 8 2 2 2 22 1 7 1 1 3 4 2 9 2 2 2 4 8 1 4 2 1 5 2 25"]
    differing := ["700 1 1684 2 17 2 4970 1 1 1 2 2 1 1 8 1 8 1 2 1 4 1 2 3 35833 1"] },
  { names := ["bhks", "bhaiksuki"]
    ownRuns := ["72704 9 1 45 1 14 10 29"]
    differing := [] },
  { names := ["bopo", "bopomofo"]
    ownRuns := ["746 2 11801 43 112 32"]
    differing := ["711 1 1 3 13 1 11559 3 4 10 1 13 10 4 2 1 6 1 195 1 52553 2 282 5"] },
  { names := ["brah", "brahmi"]
    ownRuns := ["69632 78 4 36 9 1"]
    differing := [] },
  { names := ["brai", "braille"]
    ownRuns := ["10240 256"]
    differing := [] },
  { names := ["bugi", "buginese"]
    ownRuns := ["6656 28 2 2"]
    differing := ["43471 1"] },
  { names := ["buhd", "buhid"]
    ownRuns := ["5952 20"]
    differing := ["5941 2"] },
  { names := ["cans", "canadianaboriginal"]
    ownRuns := ["5120 640 560 70 65978 16"]
    differing := [] },
  { names := ["cari", "carian"]
    ownRuns := ["66208 49"]
    differing := ["183 1 8098 1 2 1 3539 1"] },
  { names := ["aghb", "caucasianalbanian"]
    ownRuns := ["66864 52 11 1"]
    differing := ["772 1 44 1 44 1"] },
  { names := ["cakm", "chakma"]
    ownRuns := ["69888 53 1 18"]
    differing := ["2534 10 1616 10"] },
  { names := ["cham"]
    ownRuns := ["43520 55 9 14 2 10 2 4"]
    differing := [] },
  { names := ["cher", "cherokee"]
    ownRuns := ["5024 86 2 6 38770 80"]
    differing := ["768 3 1 1 6 2 22 2 11 2"] },
  { names := ["chrs", "chorasmian"]
    ownRuns := ["69552 28"]
    differing := [] },
  { names := ["zyyy", "common"]
    ownRuns := [
      "0 65 26 6 26 47 1 15 1 5 23 1 31 1 449 39 5 5 2 20 116 1 9 1 6 1 1 1 637 1 6 1 14 1 3 1",
      "32 1 156 1 516 1 129 2 1241 1 405 4 290 1 1519 3 71 2 203 2 1 1 1229 1 13 1 7 4 1 6 1 3",
      "2 1 773 12 2 87 1 11 3 11 1 15 17 33 63 38 1 3 2 6 1 27 1 17 41 3 4 666 22 11 21 928 256",
      "628 2 32 1 105 512 94 402 21 1 1 1 25 15 8 4 4 91 2 3 1 90 2 147 16 32 38 9 1 48 64 31",
      "81 47 1 88 168 6592 64 22784 34 102 3 165 10 244 1 160 1 395 1 14 2 20946 2 208 10 22 35",
      "1 19 1 4 147 1 1 32 26 6 26 11 10 1 45 2 64 7 1 7 10 5 258 3 4 45 3 9 80 13 51 45 228 27",
      "47524 4 3932 250 6 436 156 116 60 246 10 39 2 62 3 17 8 2 7 30 4 61 213 20 12 20 12 87 9",
      "25 135 85 1 71 1 2 2 1 2 2 2 4 1 12 1 1 1 7 1 65 1 4 2 8 1 7 1 28 1 4 1 5 1 1 3 7 1 340",
      "2 292 2 50 5233 68 76 61 706 44 4 100 12 15 2 15 1 15 1 37 10 174 56 26 1 2 13 44 4 9 7",
      "2 14 6 154 984 4 17 3 13 3 119 4 95 6 12 4 1 15 12 4 56 8 10 6 40 8 30 2 12 4 2 62 340",
      "12 14 2 13 3 10 5 56 7 15 2 11 6 9 7 147 1 102 787463 1 30 96"]
    differing := [
      "183 1 516 1 10 1 1 3 1 1 9 1 1 1 154 1 663 1 14 1 3 1 32 1 803 2 1941 1 1519 3 71 2 203",
      "2 1 1 1229 1 13 1 7 4 1 6 1 3 2 1 820 1 31 1 10 1 2 1 3513 1 24 2 10 1 4 1 1 1 428 16 1",
      "3 2 1 1 10 1 13 16 6 1 1 4 4 91 2 3 1 90 2 147 16 32 38 9 1 48 40 56 49 15 12 51 1 88 25",
      "10 5 96 31 29441 8 296 10 244 1 160 1 21358 2 261 2 282 5 10 1 45 2 352 3 4 45 3 9 417",
      "27 47524 4 5820 18 7902 2"] },
  { names := ["copt", "coptic", "qaac"]
    ownRuns := ["994 14 10384 116 5 7"]
    differing := ["183 1 584 1 3 2 1 1 108 2 10913 1 54472 28"] },
  { names := ["xsux", "cuneiform"]
    ownRuns := ["73728 922 102 111 1 5 11 196"]
    differing := [] },
  { names := ["cprt", "cypriot"]
    ownRuns := ["67584 6 2 1 1 44 1 2 3 1 2 1"]
    differing := ["65792 3 4 45 3 9"] },
  { names := ["cpmn", "cyprominoan"]
    ownRuns := ["77712 99"]
    differing := ["65792 2"] },
  { names := ["cyrl", "cyrillic"]
    ownRuns := ["1024 133 2 169 5968 11 160 1 76 1 4199 32 30784 96 22414 2 57856 62 33 1"]
    differing := ["700 1 67 3 1 1 1 1 1 1 2 1 5 1 371 2 6513 1 4170 1"] },
  { names := ["dsrt", "deseret"]
    ownRuns := ["66560 80"]
    differing := [] },
  { names := ["deva", "devanagari"]
    ownRuns := ["2304 81 4 15 2 26 40800 32 29184 10"]
    differing := ["700 1 1684 2 17 2 4970 39 1 2 1014 1 34623 10"] },
  { names := ["diak", "divesakuru"]
    ownRuns := ["71936 7 2 1 2 8 1 2 1 30 1 2 2 12 9 10"]
    differing := [] },
  { names := ["dogr", "dogra"]
    ownRuns := ["71680 60"]
    differing := ["2404 12 40640 10"] },
  { names := ["dupl", "duployan"]
    ownRuns := ["113664 107 5 13 3 9 7 10 2 4"]
    differing := ["183 1 591 2 1 1 24 2 11031 1 101987 4"] },
  { names := ["egyp", "egyptianhieroglyphs"]
    ownRuns := ["77824 1110 10 3995"]
    differing := [] },
  { names := ["elba", "elbasan"]
    ownRuns := ["66816 40"]
    differing := ["183 1 589 1"] },
  { names := ["elym", "elymaic"]
    ownRuns := ["69600 23"]
    differing := [] },
  { names := ["ethi", "ethiopic"]
    ownRuns := [
      "4608 73 1 4 2 7 1 1 1 4 2 41 1 4 2 33 1 4 2 7 1 1 1 4 2 15 1 57 1 4 2 67 2 32 3 26 6630",
      "23 9 7 1 7 1 7 1 7 1 7 1 7 1 7 1 7 32034 6 2 6 2 6 9 7 1 7 81073 7 1 4 1 2 1 15"]
    differing := ["782 1"] },
  { names := ["gara", "garay"]
    ownRuns := ["68928 38 3 29 8 2"]
    differing := ["1548 1 14 1 3 1"] },
  { names := ["geor", "georgian"]
    ownRuns := ["4256 38 1 1 5 1 2 43 1 4 2960 43 2 3 4160 38 1 1 5 1"]
    differing := ["183 1 1233 1 2929 1 3934 1 3542 1"] },
  { names := ["glag", "glagolitic"]
    ownRuns := ["11264 96 111520 7 1 17 2 7 1 2 1 5"]
    differing := ["183 1 587 1 1 1 382 1 2 1 257 1 2929 1 3934 1 3560 1 30763 1"] },
  { names := ["goth", "gothic"]
    ownRuns := ["66352 27"]
    differing := ["183 1 588 2 2 1 40 1"] },
  { names := ["gran", "grantha"]
    ownRuns := ["70400 4 1 8 2 2 2 22 1 7 1 2 1 5 2 9 2 2 2 3 2 1 6 1 5 7 2 7 3 5"]
    differing := ["2385 2 17 2 640 14 4316 1 1 2 30 3 3 2 1014 1 62026 1 3220 2 1 1"] }]

/-- The scripts from Greek to Medefaidrin. -/
def scriptsSecond : List Script := [
  { names := ["grek", "greek"]
    ownRuns := [
      "880 4 1 3 2 4 1 1 4 1 1 1 1 3 1 1 1 20 1 63 14 16 6438 5 50 5 4 5 84 1 320 22 2 6 2 38 2",
      "6 2 8 1 1 1 1 1 1 1 31 2 53 1 15 1 14 2 6 1 19 2 3 1 9 295 1 35390 1 21978 79 17 1 53343",
      "70"]
    differing := ["183 1 584 2 2 1 1 1 1 1 10 1 46 1 2 1 46 1 6731 2 667 1"] },
  { names := ["gujr", "gujarati"]
    ownRuns := ["2689 3 1 9 1 3 1 22 1 7 1 2 1 5 2 10 1 3 1 3 2 1 15 4 2 12 7 7"]
    differing := ["2385 2 17 2 40650 10"] },
  { names := ["gong", "gunjalagondi"]
    ownRuns := ["73056 6 1 2 1 37 1 2 1 6 7 10"]
    differing := ["183 1 2220 2"] },
  { names := ["guru", "gurmukhi"]
    ownRuns := ["2561 3 1 6 4 2 2 22 1 7 1 2 1 2 1 2 2 1 1 5 4 2 2 3 3 1 7 4 1 1 7 17"]
    differing := ["2385 2 17 2 40650 10"] },
  { names := ["gukh", "gurungkhema"]
    ownRuns := ["90368 58"]
    differing := ["2405 1"] },
  { names := ["hani", "han"]
    ownRuns := [
      "11904 26 1 89 12 214 47 1 1 1 25 9 14 4 964 6592 64 20992 22784 366 2 106 29960 2 12 2",
      "36878 42720 32 4154 6 222 2 5762 14 7473 15 622 2466 542 1506 4939 5 4192"]
    differing := [
      "183 1 12088 16 1 3 2 1 1 10 1 13 10 4 2 1 6 1 4 4 187 1 148 16 32 38 9 1 48 40 56 49 15",
      "12 51 1 88 25 10 5 96 31 29441 8 22333 2 282 5 54266 18 7902 2"] },
  { names := ["hang", "hangul"]
    ownRuns := [
      "4352 256 7726 2 257 94 113 31 65 31 30433 29 643 11172 12 23 4 49 10148 31 3 6 2 6 2 6 2",
      "3"]
    differing := ["12289 3 4 10 1 13 16 1 6 1 195 1 52553 2 282 5"] },
  { names := ["rohg", "hanifirohingya"]
    ownRuns := ["68864 40 8 10"]
    differing := ["1548 1 14 1 3 1 32 1 147 1"] },
  { names := ["hano", "hanunoo"]
    ownRuns := ["5920 21"]
    differing := ["5941 2"] },
  { names := ["hatr", "hatran"]
    ownRuns := ["67808 19 1 2 5 5"]
    differing := [] },
  { names := ["hebr", "hebrew"]
    ownRuns := ["1425 55 8 27 4 6 62760 26 1 5 1 1 1 2 1 2 1 10"]
    differing := ["775 2"] },
  { names := ["hira", "hiragana"]
    ownRuns := ["12353 86 6 3 98145 287 18 1 29 3 16557 1"]
    differing := ["12289 3 4 10 1 13 16 6 1 1 4 2 91 4 3 1 90 2 52552 2 282 5 10 1 45 2"] },
  { names := ["armi", "imperialaramaic"]
    ownRuns := ["67648 22 1 9"]
    differing := [] },
  { names := ["zinh", "inherited", "qaai"]
    ownRuns := [
      "768 112 277 2 452 11 26 1 736 4 4443 31 513 3 1 13 1 7 4 1 6 1 3 2 198 64 524 2 194 33",
      "3897 4 107 2 52581 16 16 14 975 1 226 1 4186 1 48068 46 2 23 544 3 17 8 2 7 30 4 798546",
      "240"]
    differing := [
      "768 15 1 2 1 1 12 1 2 3 7 2 1 2 16 1 2 1 18 1 5 1 4 13 277 2 452 11 26 1 736 2 4989 3 1",
      "13 1 7 4 1 6 1 3 2 198 2 54 1 1 1 757 1 3897 4 107 2 53829 1 4186 1"] },
  { names := ["phli", "inscriptionalpahlavi"]
    ownRuns := ["68448 19 5 8"]
    differing := [] },
  { names := ["prti", "inscriptionalparthian"]
    ownRuns := ["68416 22 2 8"]
    differing := [] },
  { names := ["java", "javanese"]
    ownRuns := ["43392 78 2 10 4 2"]
    differing := ["43471 1"] },
  { names := ["kthi", "kaithi"]
    ownRuns := ["69760 67 10 1"]
    differing := ["2406 10 9409 1 31230 10"] },
  { names := ["knda", "kannada"]
    ownRuns := ["3200 13 1 3 1 23 1 10 1 5 2 9 1 3 1 4 7 2 6 2 1 4 2 10 1 3"]
    differing := ["2385 2 17 2 4970 1 1 2 6 1 23 1 1 1 35643 6"] },
  { names := ["kana", "katakana"]
    ownRuns := [
      "12449 90 2 3 240 16 208 47 1 88 52238 10 1 45 45138 4 1 7 1 2 1 1 287 3 50 1 14 4"]
    differing := [
      "773 1 29 1 11485 3 4 10 1 13 16 6 1 1 4 2 91 4 3 1 90 2 52552 2 282 5 10 1 45 2"] },
  { names := ["kawi"]
    ownRuns := ["73472 17 1 41 3 29"]
    differing := [] },
  { names := ["kali", "kayahli"]
    ownRuns := ["43264 46 1 1"]
    differing := ["43310 1"] },
  { names := ["khar", "kharoshthi"]
    ownRuns := ["68096 4 1 2 5 8 1 3 1 29 2 3 4 10 7 9"]
    differing := [] },
  { names := ["kits", "khitansmallscript"]
    ownRuns := ["94180 1 6939 470 41 1"]
    differing := [] },
  { names := ["khmr", "khmer"]
    ownRuns := ["6016 94 2 10 6 10 486 32"]
    differing := [] },
  { names := ["khoj", "khojki"]
    ownRuns := ["70144 18 1 47"]
    differing := ["2790 10 40256 10"] },
  { names := ["sind", "khudawadi"]
    ownRuns := ["70320 59 5 10"]
    differing := ["2404 2 40650 10"] },
  { names := ["krai", "kiratrai"]
    ownRuns := ["93504 58"]
    differing := [] },
  { names := ["laoo", "lao"]
    ownRuns := ["3713 2 1 1 1 5 1 24 1 1 1 23 2 5 1 1 1 7 1 10 2 4"]
    differing := [] },
  { names := ["latn", "latin"]
    ownRuns := [
      "65 26 6 26 47 1 15 1 5 23 1 31 1 449 39 5 6683 38 6 49 5 4 5 13 1 70 65 256 369 1 13 1",
      "16 13 141 2 6 1 27 1 17 41 2775 32 31394 102 3 67 2 2 1 1 1 8 21 14 816 43 1 9 1 4 20374",
      "7 1050 26 6 26 2085 6 1 42 1 9 55109 31 6 6"]
    differing := [
      "183 1 516 1 10 1 1 3 1 1 9 1 1 1 38 15 1 2 1 1 12 1 2 3 7 2 1 2 38 1 5 1 4 13 277 2 1226",
      "2 1960 1 3324 1 566 1 192 1 3366 1 30952 8 550 1"] },
  { names := ["lepc", "lepcha"]
    ownRuns := ["7168 56 3 15 3 3"]
    differing := [] },
  { names := ["limb", "limbu"]
    ownRuns := ["6400 31 1 12 4 12 4 1 3 12"]
    differing := ["2405 1"] },
  { names := ["lina", "lineara"]
    ownRuns := ["67072 311 9 22 10 8"]
    differing := ["65799 45"] },
  { names := ["linb", "linearb"]
    ownRuns := ["65536 12 1 26 1 19 1 2 1 15 2 14 34 123"]
    differing := ["65792 3 4 45 3 9"] },
  { names := ["lisu"]
    ownRuns := ["42192 48 31408 1"]
    differing := ["700 1 16 1 11580 2"] },
  { names := ["lyci", "lycian"]
    ownRuns := ["66176 29"]
    differing := ["8282 1"] },
  { names := ["lydi", "lydian"]
    ownRuns := ["67872 26 5 1"]
    differing := ["183 1 11641 1"] },
  { names := ["mahj", "mahajani"]
    ownRuns := ["69968 39"]
    differing := ["183 1 2220 12 40640 10"] },
  { names := ["maka", "makasar"]
    ownRuns := ["73440 25"]
    differing := [] },
  { names := ["mlym", "malayalam"]
    ownRuns := ["3328 13 1 3 1 51 1 3 1 6 4 16 2 26"]
    differing := ["2385 2 17 2 4980 1 23 1 35645 3"] },
  { names := ["mand", "mandaic"]
    ownRuns := ["2112 28 2 1"]
    differing := ["1600 1"] },
  { names := ["mani", "manichaean"]
    ownRuns := ["68288 39 4 12"]
    differing := ["1600 1"] },
  { names := ["marc", "marchen"]
    ownRuns := ["72816 32 2 22 1 14"]
    differing := [] },
  { names := ["gonm", "masaramgondi"]
    ownRuns := ["72960 7 1 2 1 44 3 1 1 2 1 9 8 10"]
    differing := ["2404 2"] },
  { names := ["medf", "medefaidrin"]
    ownRuns := ["93760 91"]
    differing := [] }]

/-- The scripts from Meetei Mayek to Shavian. -/
def scriptsThird : List Script := [
  { names := ["mtei", "meeteimayek"]
    ownRuns := ["43744 23 201 46 2 10"]
    differing := [] },
  { names := ["mend", "mendekikakui"]
    ownRuns := ["124928 197 2 16"]
    differing := [] },
  { names := ["merc", "meroiticcursive"]
    ownRuns := ["68000 24 4 20 2 46"]
    differing := [] },
  { names := ["mero", "meroitichieroglyphs"]
    ownRuns := ["67968 32"]
    differing := ["8285 1"] },
  { names := ["plrd", "miao"]
    ownRuns := ["93952 75 4 57 7 17"]
    differing := [] },
  { names := ["modi"]
    ownRuns := ["71168 69 11 10"]
    differing := ["43056 10"] },
  { names := ["mong", "mongolian"]
    ownRuns := ["6144 2 2 1 1 20 6 89 7 43 64949 13"]
    differing := ["6146 2 1 1 2089 1 4049 2 5 4"] },
  { names := ["mroo", "mro"]
    ownRuns := ["92736 31 1 10 4 2"]
    differing := [] },
  { names := ["mult", "multani"]
    ownRuns := ["70272 7 1 1 1 4 1 15 1 11"]
    differing := ["2662 10"] },
  { names := ["mymr", "myanmar"]
    ownRuns := ["4096 160 39232 31 97 32 27728 20"]
    differing := ["43310 1"] },
  { names := ["nbat", "nabataean"]
    ownRuns := ["67712 31 8 9"]
    differing := [] },
  { names := ["nagm", "nagmundari"]
    ownRuns := ["124112 42"]
    differing := [] },
  { names := ["nand", "nandinagari"]
    ownRuns := ["72096 8 2 46 2 11"]
    differing := ["2404 2 896 10 4089 1 8 1 7 1 35637 6"] },
  { names := ["talu", "newtailue"]
    ownRuns := ["6528 44 4 26 6 11 3 2"]
    differing := [] },
  { names := ["newa"]
    ownRuns := ["70656 92 1 5"]
    differing := [] },
  { names := ["nkoo", "nko"]
    ownRuns := ["1984 59 2 3"]
    differing := ["1548 1 14 1 3 1 63262 2"] },
  { names := ["nshu", "nushu"]
    ownRuns := ["94177 1 16782 396"]
    differing := [] },
  { names := ["hmnp", "nyiakengpuachuehmong"]
    ownRuns := ["123136 45 3 14 2 10 4 2"]
    differing := [] },
  { names := ["ogam", "ogham"]
    ownRuns := ["5760 29"]
    differing := [] },
  { names := ["olck", "olchiki"]
    ownRuns := ["7248 48"]
    differing := [] },
  { names := ["onao", "olonal"]
    ownRuns := ["124368 43 4 1"]
    differing := ["2404 2"] },
  { names := ["hung", "oldhungarian"]
    ownRuns := ["68736 51 13 51 7 6"]
    differing := ["8282 1 2 1 3539 1 15 1"] },
  { names := ["ital", "olditalic"]
    ownRuns := ["66304 36 9 3"]
    differing := [] },
  { names := ["narb", "oldnortharabian"]
    ownRuns := ["68224 32"]
    differing := [] },
  { names := ["perm", "oldpermic"]
    ownRuns := ["66384 43"]
    differing := ["183 1 584 1 5 3 10 1 367 1"] },
  { names := ["xpeo", "oldpersian"]
    ownRuns := ["66464 36 4 14"]
    differing := [] },
  { names := ["sogo", "oldsogdian"]
    ownRuns := ["69376 40"]
    differing := [] },
  { names := ["sarb", "oldsoutharabian"]
    ownRuns := ["68192 32"]
    differing := [] },
  { names := ["orkh", "oldturkic"]
    ownRuns := ["68608 73"]
    differing := ["8282 1 3541 1"] },
  { names := ["ougr", "olduyghur"]
    ownRuns := ["69488 26"]
    differing := ["1600 1 66737 1"] },
  { names := ["orya", "oriya"]
    ownRuns := ["2817 3 1 8 2 2 2 22 1 7 1 2 1 5 2 9 2 2 2 3 7 3 4 2 1 5 2 18"]
    differing := ["2385 2 17 2 4980 1 23 1"] },
  { names := ["osge", "osage"]
    ownRuns := ["66736 36 4 36"]
    differing := ["769 1 2 1 6 1 76 1"] },
  { names := ["osma", "osmanya"]
    ownRuns := ["66688 30 2 10"]
    differing := [] },
  { names := ["hmng", "pahawhhmong"]
    ownRuns := ["92928 70 10 10 1 7 1 21 5 19"]
    differing := [] },
  { names := ["palm", "palmyrene"]
    ownRuns := ["67680 32"]
    differing := [] },
  { names := ["pauc", "paucinhau"]
    ownRuns := ["72384 57"]
    differing := [] },
  { names := ["phag", "phagspa"]
    ownRuns := ["43072 56"]
    differing := ["6146 2 1 1 2089 1 4050 1"] },
  { names := ["phnx", "phoenician"]
    ownRuns := ["67840 28 3 1"]
    differing := [] },
  { names := ["phlp", "psalterpahlavi"]
    ownRuns := ["68480 18 7 4 12 7"]
    differing := ["1600 1"] },
  { names := ["rjng", "rejang"]
    ownRuns := ["43312 36 11 1"]
    differing := [] },
  { names := ["runr", "runic"]
    ownRuns := ["5792 75 3 11"]
    differing := ["5867 3"] },
  { names := ["samr", "samaritan"]
    ownRuns := ["2048 46 2 15"]
    differing := ["11825 1"] },
  { names := ["saur", "saurashtra"]
    ownRuns := ["43136 70 8 12"]
    differing := [] },
  { names := ["shrd", "sharada"]
    ownRuns := ["70016 96"]
    differing := ["2385 1 4997 1 1 1 2 2 2 1 35663 6 2 1"] },
  { names := ["shaw", "shavian"]
    ownRuns := ["66640 48"]
    differing := ["183 1"] }]

/-- The scripts from Siddham to Zanabazar Square. -/
def scriptsFourth : List Script := [
  { names := ["sidd", "siddham"]
    ownRuns := ["71040 54 2 38"]
    differing := [] },
  { names := ["sgnw", "signwriting"]
    ownRuns := ["120832 652 15 5 1 15"]
    differing := [] },
  { names := ["sinh", "sinhala"]
    ownRuns := ["3457 3 1 18 3 24 1 9 1 1 2 7 3 1 4 6 1 1 1 8 6 10 2 3 66540 20"]
    differing := ["2404 2 5004 1"] },
  { names := ["sogd", "sogdian"]
    ownRuns := ["69424 42"]
    differing := ["1600 1"] },
  { names := ["sora", "sorasompeng"]
    ownRuns := ["69840 25 7 10"]
    differing := [] },
  { names := ["soyo", "soyombo"]
    ownRuns := ["72272 83"]
    differing := [] },
  { names := ["sund", "sundanese"]
    ownRuns := ["7040 64 256 8"]
    differing := [] },
  { names := ["sunu", "sunuwar"]
    ownRuns := ["72640 34 14 10"]
    differing := ["768 2 1 1 9 1 2 1 28 1 3 1"] },
  { names := ["sylo", "sylotinagri"]
    ownRuns := ["43008 45"]
    differing := ["2404 2 128 10"] },
  { names := ["syrc", "syriac"]
    ownRuns := ["1792 14 1 60 2 3 272 11"]
    differing := ["771 2 2 2 1 1 21 1 2 3 7 2 1 1 731 1 14 2 2 1 32 1 10 11 26 1 6023 1 1 1"] },
  { names := ["tglg", "tagalog"]
    ownRuns := ["5888 22 9 1"]
    differing := ["5941 2"] },
  { names := ["tagb", "tagbanwa"]
    ownRuns := ["5984 13 1 3 1 2"]
    differing := ["5941 2"] },
  { names := ["tale", "taile"]
    ownRuns := ["6480 30 2 5"]
    differing := ["768 2 5 2 3 1 3379 10"] },
  { names := ["lana", "taitham"]
    ownRuns := ["6688 63 1 29 2 11 6 10 6 14"]
    differing := [] },
  { names := ["tavt", "taiviet"]
    ownRuns := ["43648 67 24 5"]
    differing := [] },
  { names := ["takr", "takri"]
    ownRuns := ["71296 58 6 10"]
    differing := ["2404 2 40650 10"] },
  { names := ["taml", "tamil"]
    ownRuns := [
      "2946 2 1 6 3 3 1 4 3 2 1 1 1 2 3 2 3 3 3 12 4 5 3 3 1 4 2 1 6 1 14 21 70597 50 13 1"]
    differing := ["2385 2 17 2 4980 1 35864 1 27149 1 1 1 55 2"] },
  { names := ["tnsa", "tangsa"]
    ownRuns := ["92784 79 1 10"]
    differing := [] },
  { names := ["tang", "tangut"]
    ownRuns := ["94176 1 31 6136 8 768 512 9"]
    differing := ["12272 16 495 1"] },
  { names := ["telu", "telugu"]
    ownRuns := ["3072 13 1 3 1 23 1 16 2 9 1 3 1 4 7 2 1 3 2 1 2 4 2 10 7 9"]
    differing := ["2385 2 17 2 4980 1 23 1"] },
  { names := ["thaa", "thaana"]
    ownRuns := ["1920 50"]
    differing := ["1548 1 14 2 2 1 64 10 63368 1 10 1"] },
  { names := ["thai"]
    ownRuns := ["3585 58 5 28"]
    differing := ["700 1 26 1 43 1 45 1"] },
  { names := ["tibt", "tibetan"]
    ownRuns := ["3840 72 1 36 4 39 1 36 1 15 1 7 4 2"]
    differing := ["12296 4"] },
  { names := ["tfng", "tifinagh"]
    ownRuns := ["11568 56 7 2 14 1"]
    differing := ["770 1 1 1 2 1 1 1"] },
  { names := ["tirh", "tirhuta"]
    ownRuns := ["70784 72 8 10"]
    differing := ["2385 2 17 2 5004 1 35645 10"] },
  { names := ["todr", "todhri"]
    ownRuns := ["67008 52"]
    differing := ["769 1 2 1 2 1 9 1 1 1 74 1"] },
  { names := ["toto"]
    ownRuns := ["123536 31"]
    differing := ["700 1"] },
  { names := ["tutg", "tulutigalari"]
    ownRuns := ["70528 10 1 1 2 1 1 38 1 10 1 1 2 1 1 4 1 10 1 2 8 2"]
    differing := ["3302 10 4098 1 1 1 35643 6 187 1"] },
  { names := ["ugar", "ugaritic"]
    ownRuns := ["66432 30 1 1"]
    differing := [] },
  { names := ["vaii", "vai"]
    ownRuns := ["42240 300"]
    differing := [] },
  { names := ["vith", "vithkuqi"]
    ownRuns := ["66928 11 1 15 1 7 1 2 1 11 1 15 1 7 1 2"]
    differing := [] },
  { names := ["wcho", "wancho"]
    ownRuns := ["123584 58 5 1"]
    differing := [] },
  { names := ["wara", "warangciti"]
    ownRuns := ["71840 83 12 1"]
    differing := [] },
  { names := ["yezi", "yezidi"]
    ownRuns := ["69248 42 1 3 2 2"]
    differing := ["1548 1 14 1 3 1 64 10"] },
  { names := ["yiii", "yi"]
    ownRuns := ["40960 1165 3 55"]
    differing := ["12289 2 5 10 2 8 223 1 52837 5"] },
  { names := ["zanb", "zanabazarsquare"]
    ownRuns := ["72192 72"]
    differing := [] }]

/-- All scripts. -/
def scripts : List Script :=
  scriptsFirst ++ scriptsSecond ++ scriptsThird ++ scriptsFourth

/-- The script with a name. -/
def scriptNamed? (name : String) : Option Script :=
  scripts.find? fun s => s.names.contains name

end GovernedExpr.Unicode
