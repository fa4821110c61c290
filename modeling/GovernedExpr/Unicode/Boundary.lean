import GovernedExpr.Unicode.Property
import GovernedExpr.Unicode.Script

/-!
# Classes of characters at boundaries

Where a text is divided into graphemes, words and sentences depends on classes of characters, one
division of all characters for each of the three.  A class is built from categories and
properties where it is defined so, and listed otherwise.

* `Grapheme.named`, `Word.named` and `Sentence.named` list the classes with their names, in lower
  case and without separators;
* characters of no class are called "other" elsewhere; that remainder is not listed.
-/

namespace GovernedExpr.Unicode

open GovernedExpr.Text

/-- The one character CR. -/
def carriageReturn : CodeSet := CodeSet.single 0xD

/-- The one character LF. -/
def lineFeed : CodeSet := CodeSet.single 0xA

/-- The one character that joins its neighbours. -/
def joiner : CodeSet := CodeSet.single 0x200D

namespace Grapheme

/-- Characters that continue the grapheme before them. -/
def extend : CodeSet :=
  Property.graphemeExtend.union Property.emojiModifier

/-- Characters that are drawn into the grapheme after them. -/
def prepend : CodeSet := CodeSet.ofRanges [
  (0x600, 0x605), (0x6DD, 0x6DD), (0x70F, 0x70F), (0x890, 0x891), (0x8E2, 0x8E2), (0xD4E, 0xD4E),
  (0x110BD, 0x110BD), (0x110CD, 0x110CD), (0x111C2, 0x111C3), (0x113D1, 0x113D1),
  (0x1193F, 0x1193F), (0x11941, 0x11941), (0x11A3A, 0x11A3A), (0x11A84, 0x11A89),
  (0x11D46, 0x11D46), (0x11F02, 0x11F02)]

/-- Characters with a boundary on both sides. -/
def control : CodeSet :=
  (((((Category.lineSeparator.union Category.paragraphSeparator).union Category.control).union
    Category.format).union (Category.unassigned.inter Property.defaultIgnorable)).diff
    (((carriageReturn.union lineFeed).union (CodeSet.range 0x200C 0x200D)).union
      (Property.prependedMark.union Property.graphemeExtend)))

/-- Spacing marks that stand for themselves. -/
def freeSpacing : CodeSet := CodeSet.ofRanges [
  (0x102B, 0x102C), (0x1038, 0x1038), (0x1062, 0x1064), (0x1067, 0x106D), (0x1083, 0x1083),
  (0x1087, 0x108C), (0x108F, 0x108F), (0x109A, 0x109C), (0x1A61, 0x1A61), (0x1A63, 0x1A64),
  (0xAA7B, 0xAA7B), (0xAA7D, 0xAA7D), (0x11720, 0x11721)]

/-- Spacing marks that are drawn into the grapheme before them. -/
def spacingMark : CodeSet :=
  ((Category.spacing.diff Property.graphemeExtend).diff freeSpacing).union
    (CodeSet.ofRanges [(0xE33, 0xE33), (0xEB3, 0xEB3)])

/-- Leading consonants of syllables. -/
def leading : CodeSet := CodeSet.ofRanges [(0x1100, 0x115F), (0xA960, 0xA97C)]

/-- Vowels of syllables. -/
def vowel : CodeSet := CodeSet.ofRanges [
  (0x1160, 0x11A7), (0xD7B0, 0xD7C6), (0x16D63, 0x16D63), (0x16D67, 0x16D6A)]

/-- Trailing consonants of syllables. -/
def trailing : CodeSet := CodeSet.ofRanges [(0x11A8, 0x11FF), (0xD7CB, 0xD7FB)]

/-- Syllables without a trailing consonant: every twenty-eighth one. -/
def openSyllable : CodeSet :=
  CodeSet.ofRanges ((List.range 399).map fun i => (0xAC00 + 28 * i, 0xAC00 + 28 * i))

/-- Syllables with a trailing consonant. -/
def closedSyllable : CodeSet :=
  CodeSet.ofRanges ((List.range 399).map fun i => (0xAC01 + 28 * i, 0xAC1B + 28 * i))

/-- The classes of graphemes by their names. -/
def named : List (List String × CodeSet) := [
  (["cn", "control"], control),
  (["cr"], carriageReturn),
  (["ex", "extend"], extend),
  (["l"], leading),
  (["lf"], lineFeed),
  (["lv"], openSyllable),
  (["lvt"], closedSyllable),
  (["pp", "prepend"], prepend),
  (["ri", "regionalindicator"], Property.regionalIndicator),
  (["sm", "spacingmark"], spacingMark),
  (["t"], trailing),
  (["v"], vowel),
  (["zwj"], joiner)]

end Grapheme

namespace Word

/-- Characters that continue the word before them. -/
def extend : CodeSet :=
  ((Property.graphemeExtend.union Category.spacing).union Property.emojiModifier).diff joiner

/-- Format characters. -/
def format : CodeSet :=
  Category.format.diff
    ((CodeSet.ofRanges [(0x200B, 0x200D), (0xE0020, 0xE007F)]).union Grapheme.prepend)

/-- Hebrew letters. -/
def hebrewLetter : CodeSet :=
  ((scriptNamed? "hebrew").elim CodeSet.empty Script.own).inter Category.otherLetter

/-- Characters of Katakana. -/
def katakana : CodeSet := CodeSet.ofRanges [
  (0x3031, 0x3035), (0x309B, 0x309C), (0x30A0, 0x30FA), (0x30FC, 0x30FF), (0x31F0, 0x31FF),
  (0x32D0, 0x32FE), (0x3300, 0x3357), (0xFF66, 0xFF9D), (0x1AFF0, 0x1AFF3), (0x1AFF5, 0x1AFFB),
  (0x1AFFD, 0x1AFFE), (0x1B000, 0x1B000), (0x1B120, 0x1B122), (0x1B155, 0x1B155),
  (0x1B164, 0x1B167)]

/-- Alphabetic characters of scripts that are written without blanks between words. -/
def unspaced : CodeSet := setOfRuns [
    "3585 48 1 2 12 7 58 2 1 1 1 5 1 24 1 1 1 10 1 2 9 1 2 5 1 1 21 4 288 43 20 1 16 6 4 4 3 1",
    "3 2 7 3 4 13 12 1 1777 52 35 1 4 1 371 30 2 5 11 44 4 26 86 53 82 1 36664 5 1 10 10 5 97",
    "23 3 1 3 50 1 1 3 2 2 5 2 1 1 1 24 3 27682 27 37 7"]

/-- Characters that count as letters of words although they are not alphabetic. -/
def letterLike : CodeSet := setOfRuns [
    "706 4 12 6 6 2 5 7 1 1 1 17 602 3 1 1 43 1 104 1 283 1 40952 15 9 2 103 2 976 1"]

/-- Letters. -/
def letter : CodeSet :=
  (Property.alphabetic.diff
    (((((Property.ideographic.union katakana).union hebrewLetter).union extend).union
      ((scriptNamed? "hiragana").elim CodeSet.empty Script.own)).union unspaced)).union letterLike

/-- Numbers. -/
def numeric : CodeSet :=
  Category.decimalDigit.union (CodeSet.ofRanges [
    (0x600, 0x605), (0x66B, 0x66B), (0x6DD, 0x6DD), (0x890, 0x891), (0x8E2, 0x8E2),
    (0x19DA, 0x19DA), (0x110BD, 0x110BD), (0x110CD, 0x110CD)])

/-- Characters that join letters and numbers. -/
def joining : CodeSet := CodeSet.ofRanges [
  (0x5F, 0x5F), (0x202F, 0x202F), (0x203F, 0x2040), (0x2054, 0x2054), (0xFE33, 0xFE34),
  (0xFE4D, 0xFE4F), (0xFF3F, 0xFF3F)]

/-- Characters that may stand between letters. -/
def betweenLetters : CodeSet := CodeSet.ofRanges [
  (0x3A, 0x3A), (0xB7, 0xB7), (0x387, 0x387), (0x55F, 0x55F), (0x5F4, 0x5F4), (0x2027, 0x2027),
  (0xFE13, 0xFE13), (0xFE55, 0xFE55), (0xFF1A, 0xFF1A)]

/-- Characters that may stand between numbers. -/
def betweenNumbers : CodeSet := CodeSet.ofRanges [
  (0x2C, 0x2C), (0x3B, 0x3B), (0x37E, 0x37E), (0x589, 0x589), (0x60C, 0x60D), (0x66C, 0x66C),
  (0x7F8, 0x7F8), (0x2044, 0x2044), (0xFE50, 0xFE50), (0xFE54, 0xFE54), (0xFF0C, 0xFF0C),
  (0xFF1B, 0xFF1B)]

/-- Characters that may stand between letters or between numbers. -/
def betweenBoth : CodeSet := CodeSet.ofRanges [
  (0x2E, 0x2E), (0x2018, 0x2019), (0x2024, 0x2024), (0xFE52, 0xFE52), (0xFF07, 0xFF07),
  (0xFF0E, 0xFF0E)]

/-- Breaks of lines besides CR and LF. -/
def newline : CodeSet := CodeSet.ofRanges [(0xB, 0xC), (0x85, 0x85), (0x2028, 0x2029)]

/-- Blanks that are kept together. -/
def blank : CodeSet := CodeSet.ofRanges [
  (0x20, 0x20), (0x1680, 0x1680), (0x2000, 0x2006), (0x2008, 0x200A), (0x205F, 0x205F),
  (0x3000, 0x3000)]

/-- The classes of words by their names. -/
def named : List (List String × CodeSet) := [
  (["le", "aletter"], letter),
  (["cr"], carriageReturn),
  (["dq", "doublequote"], CodeSet.single 0x22),
  (["extend"], extend),
  (["ex", "extendnumlet"], joining),
  (["fo", "format"], format),
  (["hl", "hebrewletter"], hebrewLetter),
  (["ka", "katakana"], katakana),
  (["lf"], lineFeed),
  (["ml", "midletter"], betweenLetters),
  (["mn", "midnum"], betweenNumbers),
  (["mb", "midnumlet"], betweenBoth),
  (["nl", "newline"], newline),
  (["nu", "numeric"], numeric),
  (["ri", "regionalindicator"], Property.regionalIndicator),
  (["sq", "singlequote"], CodeSet.single 0x27),
  (["wsegspace"], blank),
  (["zwj"], joiner)]

end Word

namespace Sentence

/-- Characters that continue the sentence before them. -/
def extend : CodeSet :=
  Property.graphemeExtend.union Category.spacing |>.union joiner

/-- Format characters. -/
def format : CodeSet :=
  (Category.format.diff
    ((CodeSet.ofRanges [(0x200C, 0x200D), (0xE0020, 0xE007F)]).union Grapheme.prepend)).union
    (CodeSet.single 0x70F)

/-- Lower-case letters. -/
def lower : CodeSet :=
  (Property.lowercase.diff Property.graphemeExtend).diff
    (CodeSet.ofRanges [(0x10D0, 0x10FA), (0x10FD, 0x10FF)])

/-- Upper-case letters. -/
def upper : CodeSet :=
  (Category.titlecase.union Property.uppercase).diff
    (CodeSet.ofRanges [(0x1C90, 0x1CBA), (0x1CBD, 0x1CBF)])

/-- Letters without case. -/
def letter : CodeSet :=
  (Property.alphabetic.diff ((lower.union upper).union extend)).union (CodeSet.single 0x5F3)

/-- Numbers. -/
def numeric : CodeSet :=
  Word.numeric.union (CodeSet.single 0x66C)

/-- Full stops, which need not end a sentence. -/
def fullStop : CodeSet := CodeSet.ofRanges [
  (0x2E, 0x2E), (0x2024, 0x2024), (0xFE52, 0xFE52), (0xFF0E, 0xFF0E)]

/-- Other ends of sentences. -/
def terminal : CodeSet :=
  Property.sentenceTerminal.diff fullStop

/-- Quotation marks and brackets, which may follow the end of a sentence. -/
def closing : CodeSet :=
  (((((Category.opening.union Category.closing).union Category.initialQuote).union
    Category.finalQuote).union Property.quotationMark).diff
    (CodeSet.ofRanges [(0xFF02, 0xFF02), (0xFF07, 0xFF07)])).union
    (CodeSet.ofRanges [
      (0x275B, 0x2760), (0x2E00, 0x2E01), (0x2E06, 0x2E08), (0x2E0B, 0x2E0B),
      (0x1F676, 0x1F678)])

/-- Characters after which a sentence goes on. -/
def goingOn : CodeSet := CodeSet.ofRanges [
  (0x2C, 0x2D), (0x3A, 0x3B), (0x37E, 0x37E), (0x55D, 0x55D), (0x60C, 0x60D), (0x7F8, 0x7F8),
  (0x1802, 0x1802), (0x1808, 0x1808), (0x2013, 0x2014), (0x3001, 0x3001), (0xFE10, 0xFE11),
  (0xFE13, 0xFE14), (0xFE31, 0xFE32), (0xFE50, 0xFE51), (0xFE54, 0xFE55), (0xFE58, 0xFE58),
  (0xFE63, 0xFE63), (0xFF0C, 0xFF0D), (0xFF1A, 0xFF1B), (0xFF64, 0xFF64)]

/-- Breaks of lines and of paragraphs besides CR and LF. -/
def separator : CodeSet := CodeSet.ofRanges [(0x85, 0x85), (0x2028, 0x2029)]

/-- Blanks inside a line. -/
def blank : CodeSet :=
  Property.whiteSpace.diff ((separator.union carriageReturn).union lineFeed)

/-- The classes of sentences by their names. -/
def named : List (List String × CodeSet) := [
  (["at", "aterm"], fullStop),
  (["cl", "close"], closing),
  (["cr"], carriageReturn),
  (["ex", "extend"], extend),
  (["fo", "format"], format),
  (["le", "oletter"], letter),
  (["lf"], lineFeed),
  (["lo", "lower"], lower),
  (["nu", "numeric"], numeric),
  (["sc", "scontinue"], goingOn),
  (["se", "sep"], separator),
  (["sp"], blank),
  (["st", "sterm"], terminal),
  (["up", "upper"], upper)]

end Sentence

end GovernedExpr.Unicode
