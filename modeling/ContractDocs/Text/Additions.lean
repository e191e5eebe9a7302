/-
What version 17 of the character database adds to the letters and digits of
version 16. Words keep to version 16, so these are no word characters.
-/
import ContractDocs.Text.Ranges

namespace ContractDocs.Text

/-- The alphabetic code points that are new. -/
def addedLetters : Ranges :=
  [
    (0x88F, 0x88F), (0xC5C, 0xC5C), (0xCDC, 0xCDC), (0xA7CE, 0xA7CF), (0xA7D2, 0xA7D2),
    (0xA7D4, 0xA7D4), (0xA7F1, 0xA7F1), (0x10940, 0x10959), (0x10EC5, 0x10EC7),
    (0x10EFA, 0x10EFB), (0x11B60, 0x11B67), (0x11DB0, 0x11DDB), (0x16EA0, 0x16EB8),
    (0x16EBB, 0x16ED3), (0x16FF2, 0x16FF6), (0x187F8, 0x187FF), (0x18D09, 0x18D1E),
    (0x18D80, 0x18DF2), (0x1E6C0, 0x1E6DE), (0x1E6E0, 0x1E6F5), (0x1E6FE, 0x1E6FF),
    (0x2B73A, 0x2B73F), (0x2CEA2, 0x2CEAD), (0x323B0, 0x33479)
  ]

/-- The decimal digits that are new. -/
def addedDigits : Ranges :=
  [(0x11DE0, 0x11DE9)]

end ContractDocs.Text
