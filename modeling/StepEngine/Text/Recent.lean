import StepEngine.Text.CharSet
/-!
# Recent characters

The tables of categories, scripts and properties are those of version 16.0 of the character set, that
patterns keep to. Texts are read and shown, and names of machines spelled, by version 17.0, that has
some characters more.

* `Recent.letters`, `numbers`, `marks`, `spacingMarks`, `signs` : those characters;
* `Recent.alphabetic` : those with the property Alphabetic;
* `Recent.shown` : those that are seen as characters of their own;
* `Recent.all` : all of them.
-/

namespace StepEngine.Text.Recent

/-- The recent letters, and numbers that are letters. -/
def letters : CharSet := .ofRanges [
  (0x88F, 0x88F), (0xC5C, 0xC5C), (0xCDC, 0xCDC), (0xA7CE, 0xA7CF), (0xA7D2, 0xA7D2),
  (0xA7D4, 0xA7D4), (0xA7F1, 0xA7F1), (0x10940, 0x10959), (0x10EC5, 0x10EC7), (0x11DB0, 0x11DDB),
  (0x16EA0, 0x16EB8), (0x16EBB, 0x16ED3), (0x16FF2, 0x16FF6), (0x187F8, 0x187FF),
  (0x18D09, 0x18D1E), (0x18D80, 0x18DF2), (0x1E6C0, 0x1E6DE), (0x1E6E0, 0x1E6E2),
  (0x1E6E4, 0x1E6E5), (0x1E6E7, 0x1E6ED), (0x1E6F0, 0x1E6F4), (0x1E6FE, 0x1E6FF),
  (0x2B73A, 0x2B73F), (0x2CEA2, 0x2CEAD), (0x323B0, 0x33479)]

def numbers : CharSet := .ofRanges [
  (0x11DE0, 0x11DE9)]

/-- The recent marks without a width of their own. -/
def marks : CharSet := .ofRanges [
  (0x1ACF, 0x1ADD), (0x1AE0, 0x1AEB), (0x10EFA, 0x10EFB), (0x11B60, 0x11B60), (0x11B62, 0x11B64),
  (0x11B66, 0x11B66), (0x1E6E3, 0x1E6E3), (0x1E6E6, 0x1E6E6), (0x1E6EE, 0x1E6EF),
  (0x1E6F5, 0x1E6F5)]

def spacingMarks : CharSet := .ofRanges [
  (0x11B61, 0x11B61), (0x11B65, 0x11B65), (0x11B67, 0x11B67)]

def signs : CharSet := .ofRanges [
  (0x20C1, 0x20C1), (0x2B96, 0x2B96), (0xFBC3, 0xFBD2), (0xFD90, 0xFD91), (0xFDC8, 0xFDCE),
  (0x10ED0, 0x10ED8), (0x1CCFA, 0x1CCFC), (0x1CEBA, 0x1CED0), (0x1CEE0, 0x1CEF0),
  (0x1F6D8, 0x1F6D8), (0x1F777, 0x1F77A), (0x1F8D0, 0x1F8D8), (0x1FA54, 0x1FA57),
  (0x1FA8A, 0x1FA8A), (0x1FA8E, 0x1FA8E), (0x1FAC8, 0x1FAC8), (0x1FACD, 0x1FACD),
  (0x1FAEA, 0x1FAEA), (0x1FAEF, 0x1FAEF), (0x1FBFA, 0x1FBFA)]

/-- The recent characters with the property Alphabetic: the letters and the marks of younger scripts
than Latin. -/
def alphabetic : CharSet :=
  (letters.union spacingMarks).union (marks.diff (.ofRanges [(0x1ACF, 0x1AEB)]))

/-- The recent characters that are seen as characters of their own. -/
def shown : CharSet :=
  (letters.union spacingMarks).union (numbers.union signs)

def all : CharSet :=
  shown.union marks

end StepEngine.Text.Recent
