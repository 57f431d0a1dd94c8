/-! # Compatibility decompositions: letters of the alphabets and abugidas

A row gives the full decompositions of consecutive code points, from its first one on.
-/

namespace Bibliography.Unicode.Decomposition
set_option autoImplicit false
set_option maxRecDepth 4000

/-- Letters of the alphabets and abugidas: rows of at most 32 decompositions. -/
def alphabetic : List (Nat × List String) := [
  (0xA0, [" "]),
  (0xA8, [" \u0308"]),
  (0xAA, ["a"]),
  (0xAF, [" \u0304"]),
  (0xB2, ["2", "3", " \u0301", "μ"]),
  (0xB8, [" \u0327", "1", "o"]),
  (0xBC, ["1⁄4", "1⁄2", "3⁄4"]),
  (0xC0, ["A\u0300", "A\u0301", "A\u0302", "A\u0303", "A\u0308", "A\u030a"]),
  (0xC7, ["C\u0327", "E\u0300", "E\u0301", "E\u0302", "E\u0308", "I\u0300", "I\u0301",
    "I\u0302", "I\u0308"]),
  (0xD1, ["N\u0303", "O\u0300", "O\u0301", "O\u0302", "O\u0303", "O\u0308"]),
  (0xD9, ["U\u0300", "U\u0301", "U\u0302", "U\u0308", "Y\u0301"]),
  (0xE0, ["a\u0300", "a\u0301", "a\u0302", "a\u0303", "a\u0308", "a\u030a"]),
  (0xE7, ["c\u0327", "e\u0300", "e\u0301", "e\u0302", "e\u0308", "i\u0300", "i\u0301",
    "i\u0302", "i\u0308"]),
  (0xF1, ["n\u0303", "o\u0300", "o\u0301", "o\u0302", "o\u0303", "o\u0308"]),
  (0xF9, ["u\u0300", "u\u0301", "u\u0302", "u\u0308", "y\u0301"]),
  (0xFF, ["y\u0308", "A\u0304", "a\u0304", "A\u0306", "a\u0306", "A\u0328", "a\u0328",
    "C\u0301", "c\u0301", "C\u0302", "c\u0302", "C\u0307", "c\u0307", "C\u030c",
    "c\u030c", "D\u030c", "d\u030c"]),
  (0x112, ["E\u0304", "e\u0304", "E\u0306", "e\u0306", "E\u0307", "e\u0307", "E\u0328",
    "e\u0328", "E\u030c", "e\u030c", "G\u0302", "g\u0302", "G\u0306", "g\u0306",
    "G\u0307", "g\u0307", "G\u0327", "g\u0327", "H\u0302", "h\u0302"]),
  (0x128, ["I\u0303", "i\u0303", "I\u0304", "i\u0304", "I\u0306", "i\u0306", "I\u0328",
    "i\u0328", "I\u0307"]),
  (0x132, ["IJ", "ij", "J\u0302", "j\u0302", "K\u0327", "k\u0327"]),
  (0x139, ["L\u0301", "l\u0301", "L\u0327", "l\u0327", "L\u030c", "l\u030c", "L·", "l·"]),
  (0x143, ["N\u0301", "n\u0301", "N\u0327", "n\u0327", "N\u030c", "n\u030c", "ʼn"]),
  (0x14C, ["O\u0304", "o\u0304", "O\u0306", "o\u0306", "O\u030b", "o\u030b"]),
  (0x154, ["R\u0301", "r\u0301", "R\u0327", "r\u0327", "R\u030c", "r\u030c", "S\u0301",
    "s\u0301", "S\u0302", "s\u0302", "S\u0327", "s\u0327", "S\u030c", "s\u030c",
    "T\u0327", "t\u0327", "T\u030c", "t\u030c"]),
  (0x168, ["U\u0303", "u\u0303", "U\u0304", "u\u0304", "U\u0306", "u\u0306", "U\u030a",
    "u\u030a", "U\u030b", "u\u030b", "U\u0328", "u\u0328", "W\u0302", "w\u0302",
    "Y\u0302", "y\u0302", "Y\u0308", "Z\u0301", "z\u0301", "Z\u0307", "z\u0307",
    "Z\u030c", "z\u030c", "s"]),
  (0x1A0, ["O\u031b", "o\u031b"]),
  (0x1AF, ["U\u031b", "u\u031b"]),
  (0x1C4, ["DZ\u030c", "Dz\u030c", "dz\u030c", "LJ", "Lj", "lj", "NJ", "Nj", "nj", "A\u030c",
    "a\u030c", "I\u030c", "i\u030c", "O\u030c", "o\u030c", "U\u030c", "u\u030c",
    "U\u0308\u0304", "u\u0308\u0304", "U\u0308\u0301", "u\u0308\u0301", "U\u0308\u030c",
    "u\u0308\u030c", "U\u0308\u0300", "u\u0308\u0300"]),
  (0x1DE, ["A\u0308\u0304", "a\u0308\u0304", "A\u0307\u0304", "a\u0307\u0304", "Æ\u0304",
    "æ\u0304"]),
  (0x1E6, ["G\u030c", "g\u030c", "K\u030c", "k\u030c", "O\u0328", "o\u0328", "O\u0328\u0304",
    "o\u0328\u0304", "Ʒ\u030c", "ʒ\u030c", "j\u030c", "DZ", "Dz", "dz", "G\u0301",
    "g\u0301"]),
  (0x1F8, ["N\u0300", "n\u0300", "A\u030a\u0301", "a\u030a\u0301", "Æ\u0301", "æ\u0301",
    "Ø\u0301", "ø\u0301", "A\u030f", "a\u030f", "A\u0311", "a\u0311", "E\u030f",
    "e\u030f", "E\u0311", "e\u0311", "I\u030f", "i\u030f", "I\u0311", "i\u0311",
    "O\u030f", "o\u030f", "O\u0311", "o\u0311", "R\u030f", "r\u030f", "R\u0311",
    "r\u0311", "U\u030f", "u\u030f", "U\u0311", "u\u0311"]),
  (0x218, ["S\u0326", "s\u0326", "T\u0326", "t\u0326"]),
  (0x21E, ["H\u030c", "h\u030c"]),
  (0x226, ["A\u0307", "a\u0307", "E\u0327", "e\u0327", "O\u0308\u0304", "o\u0308\u0304",
    "O\u0303\u0304", "o\u0303\u0304", "O\u0307", "o\u0307", "O\u0307\u0304",
    "o\u0307\u0304", "Y\u0304", "y\u0304"]),
  (0x2B0, ["h", "ɦ", "j", "r", "ɹ", "ɻ", "ʁ", "w", "y"]),
  (0x2D8, [" \u0306", " \u0307", " \u030a", " \u0328", " \u0303", " \u030b"]),
  (0x2E0, ["ɣ", "l", "s", "x", "ʕ"]),
  (0x340, ["\u0300", "\u0301"]),
  (0x343, ["\u0313", "\u0308\u0301"]),
  (0x374, ["ʹ"]),
  (0x37A, [" \u0345"]),
  (0x37E, [";"]),
  (0x384, [" \u0301", " \u0308\u0301", "Α\u0301", "·", "Ε\u0301", "Η\u0301", "Ι\u0301"]),
  (0x38C, ["Ο\u0301"]),
  (0x38E, ["Υ\u0301", "Ω\u0301", "ι\u0308\u0301"]),
  (0x3AA, ["Ι\u0308", "Υ\u0308", "α\u0301", "ε\u0301", "η\u0301", "ι\u0301", "υ\u0308\u0301"]),
  (0x3CA, ["ι\u0308", "υ\u0308", "ο\u0301", "υ\u0301", "ω\u0301"]),
  (0x3D0, ["β", "θ", "Υ", "Υ\u0301", "Υ\u0308", "φ", "π"]),
  (0x3F0, ["κ", "ρ", "ς"]),
  (0x3F4, ["Θ", "ε"]),
  (0x3F9, ["Σ"]),
  (0x400, ["Е\u0300", "Е\u0308"]),
  (0x403, ["Г\u0301"]),
  (0x407, ["І\u0308"]),
  (0x40C, ["К\u0301", "И\u0300", "У\u0306"]),
  (0x419, ["И\u0306"]),
  (0x439, ["и\u0306"]),
  (0x450, ["е\u0300", "е\u0308"]),
  (0x453, ["г\u0301"]),
  (0x457, ["і\u0308"]),
  (0x45C, ["к\u0301", "и\u0300", "у\u0306"]),
  (0x476, ["Ѵ\u030f", "ѵ\u030f"]),
  (0x4C1, ["Ж\u0306", "ж\u0306"]),
  (0x4D0, ["А\u0306", "а\u0306", "А\u0308", "а\u0308"]),
  (0x4D6, ["Е\u0306", "е\u0306"]),
  (0x4DA, ["Ә\u0308", "ә\u0308", "Ж\u0308", "ж\u0308", "З\u0308", "з\u0308"]),
  (0x4E2, ["И\u0304", "и\u0304", "И\u0308", "и\u0308", "О\u0308", "о\u0308"]),
  (0x4EA, ["Ө\u0308", "ө\u0308", "Э\u0308", "э\u0308", "У\u0304", "у\u0304", "У\u0308",
    "у\u0308", "У\u030b", "у\u030b", "Ч\u0308", "ч\u0308"]),
  (0x4F8, ["Ы\u0308", "ы\u0308"]),
  (0x587, ["եւ"]),
  (0x622, ["\u0627\u0653", "\u0627\u0654", "\u0648\u0654", "\u0627\u0655", "\u064a\u0654"]),
  (0x675, ["\u0627\u0674", "\u0648\u0674", "\u06c7\u0674", "\u064a\u0674"]),
  (0x6C0, ["\u06d5\u0654"]),
  (0x6C2, ["\u06c1\u0654"]),
  (0x6D3, ["\u06d2\u0654"]),
  (0x929, ["न\u093c"]),
  (0x931, ["र\u093c"]),
  (0x934, ["ळ\u093c"]),
  (0x958, ["क\u093c", "ख\u093c", "ग\u093c", "ज\u093c", "ड\u093c", "ढ\u093c", "फ\u093c",
    "य\u093c"]),
  (0x9CB, ["\u09c7\u09be", "\u09c7\u09d7"]),
  (0x9DC, ["ড\u09bc", "ঢ\u09bc"]),
  (0x9DF, ["য\u09bc"]),
  (0xA33, ["ਲ\u0a3c"]),
  (0xA36, ["ਸ\u0a3c"]),
  (0xA59, ["ਖ\u0a3c", "ਗ\u0a3c", "ਜ\u0a3c"]),
  (0xA5E, ["ਫ\u0a3c"]),
  (0xB48, ["\u0b47\u0b56"]),
  (0xB4B, ["\u0b47\u0b3e", "\u0b47\u0b57"]),
  (0xB5C, ["ଡ\u0b3c", "ଢ\u0b3c"]),
  (0xB94, ["ஒ\u0bd7"]),
  (0xBCA, ["\u0bc6\u0bbe", "\u0bc7\u0bbe", "\u0bc6\u0bd7"]),
  (0xC48, ["\u0c46\u0c56"]),
  (0xCC0, ["\u0cbf\u0cd5"]),
  (0xCC7, ["\u0cc6\u0cd5", "\u0cc6\u0cd6"]),
  (0xCCA, ["\u0cc6\u0cc2", "\u0cc6\u0cc2\u0cd5"]),
  (0xD4A, ["\u0d46\u0d3e", "\u0d47\u0d3e", "\u0d46\u0d57"]),
  (0xDDA, ["\u0dd9\u0dca"]),
  (0xDDC, ["\u0dd9\u0dcf", "\u0dd9\u0dcf\u0dca", "\u0dd9\u0ddf"]),
  (0xE33, ["\u0e4dา"]),
  (0xEB3, ["\u0ecdາ"]),
  (0xEDC, ["ຫນ", "ຫມ"]),
  (0xF0C, ["་"]),
  (0xF43, ["ག\u0fb7"]),
  (0xF4D, ["ཌ\u0fb7"]),
  (0xF52, ["ད\u0fb7"]),
  (0xF57, ["བ\u0fb7"]),
  (0xF5C, ["ཛ\u0fb7"]),
  (0xF69, ["ཀ\u0fb5"]),
  (0xF73, ["\u0f71\u0f72"]),
  (0xF75, ["\u0f71\u0f74", "\u0fb2\u0f80", "\u0fb2\u0f71\u0f80", "\u0fb3\u0f80",
    "\u0fb3\u0f71\u0f80"]),
  (0xF81, ["\u0f71\u0f80"]),
  (0xF93, ["\u0f92\u0fb7"]),
  (0xF9D, ["\u0f9c\u0fb7"]),
  (0xFA2, ["\u0fa1\u0fb7"]),
  (0xFA7, ["\u0fa6\u0fb7"]),
  (0xFAC, ["\u0fab\u0fb7"]),
  (0xFB9, ["\u0f90\u0fb5"]),
  (0x1026, ["ဥ\u102e"]),
  (0x10FC, ["ნ"]),
  (0x1B06, ["ᬅ\u1b35"]),
  (0x1B08, ["ᬇ\u1b35"]),
  (0x1B0A, ["ᬉ\u1b35"]),
  (0x1B0C, ["ᬋ\u1b35"]),
  (0x1B0E, ["ᬍ\u1b35"]),
  (0x1B12, ["ᬑ\u1b35"]),
  (0x1B3B, ["\u1b3a\u1b35"]),
  (0x1B3D, ["\u1b3c\u1b35"]),
  (0x1B40, ["\u1b3e\u1b35", "\u1b3f\u1b35"]),
  (0x1B43, ["\u1b42\u1b35"]),
  (0x1D2C, ["A", "Æ", "B"]),
  (0x1D30, ["D", "E", "Ǝ", "G", "H", "I", "J", "K", "L", "M", "N"]),
  (0x1D3C, ["O", "Ȣ", "P", "R", "T", "U", "W", "a", "ɐ", "ɑ", "ᴂ", "b", "d", "e", "ə", "ɛ", "ɜ",
    "g"]),
  (0x1D4F, ["k", "m", "ŋ", "o", "ɔ", "ᴖ", "ᴗ", "p", "t", "u", "ᴝ", "ɯ", "v", "ᴥ", "β", "γ", "δ",
    "φ", "χ", "i", "r", "u", "v", "β", "γ", "ρ", "φ", "χ"]),
  (0x1D78, ["н"]),
  (0x1D9B, ["ɒ", "c", "ɕ", "ð", "ɜ", "f", "ɟ", "ɡ", "ɥ", "ɨ", "ɩ", "ɪ", "ᵻ", "ʝ", "ɭ", "ᶅ", "ʟ",
    "ɱ", "ɰ", "ɲ", "ɳ", "ɴ", "ɵ", "ɸ", "ʂ", "ʃ", "ƫ", "ʉ", "ʊ", "ᴜ", "ʋ", "ʌ"]),
  (0x1DBB, ["z", "ʐ", "ʑ", "ʒ", "θ"]),
  (0x1E00, ["A\u0325", "a\u0325", "B\u0307", "b\u0307", "B\u0323", "b\u0323", "B\u0331",
    "b\u0331", "C\u0327\u0301", "c\u0327\u0301", "D\u0307", "d\u0307", "D\u0323",
    "d\u0323", "D\u0331", "d\u0331", "D\u0327", "d\u0327", "D\u032d", "d\u032d",
    "E\u0304\u0300", "e\u0304\u0300", "E\u0304\u0301", "e\u0304\u0301", "E\u032d",
    "e\u032d", "E\u0330", "e\u0330", "E\u0327\u0306", "e\u0327\u0306", "F\u0307",
    "f\u0307"]),
  (0x1E20, ["G\u0304", "g\u0304", "H\u0307", "h\u0307", "H\u0323", "h\u0323", "H\u0308",
    "h\u0308", "H\u0327", "h\u0327", "H\u032e", "h\u032e", "I\u0330", "i\u0330",
    "I\u0308\u0301", "i\u0308\u0301", "K\u0301", "k\u0301", "K\u0323", "k\u0323",
    "K\u0331", "k\u0331", "L\u0323", "l\u0323", "L\u0323\u0304", "l\u0323\u0304",
    "L\u0331", "l\u0331", "L\u032d", "l\u032d", "M\u0301", "m\u0301"]),
  (0x1E40, ["M\u0307", "m\u0307", "M\u0323", "m\u0323", "N\u0307", "n\u0307", "N\u0323",
    "n\u0323", "N\u0331", "n\u0331", "N\u032d", "n\u032d", "O\u0303\u0301",
    "o\u0303\u0301", "O\u0303\u0308", "o\u0303\u0308", "O\u0304\u0300", "o\u0304\u0300",
    "O\u0304\u0301", "o\u0304\u0301", "P\u0301", "p\u0301", "P\u0307", "p\u0307",
    "R\u0307", "r\u0307", "R\u0323", "r\u0323", "R\u0323\u0304", "r\u0323\u0304",
    "R\u0331", "r\u0331"]),
  (0x1E60, ["S\u0307", "s\u0307", "S\u0323", "s\u0323", "S\u0301\u0307", "s\u0301\u0307",
    "S\u030c\u0307", "s\u030c\u0307", "S\u0323\u0307", "s\u0323\u0307", "T\u0307",
    "t\u0307", "T\u0323", "t\u0323", "T\u0331", "t\u0331", "T\u032d", "t\u032d",
    "U\u0324", "u\u0324", "U\u0330", "u\u0330", "U\u032d", "u\u032d", "U\u0303\u0301",
    "u\u0303\u0301", "U\u0304\u0308", "u\u0304\u0308", "V\u0303", "v\u0303", "V\u0323",
    "v\u0323"]),
  (0x1E80, ["W\u0300", "w\u0300", "W\u0301", "w\u0301", "W\u0308", "w\u0308", "W\u0307",
    "w\u0307", "W\u0323", "w\u0323", "X\u0307", "x\u0307", "X\u0308", "x\u0308",
    "Y\u0307", "y\u0307", "Z\u0302", "z\u0302", "Z\u0323", "z\u0323", "Z\u0331",
    "z\u0331", "h\u0331", "t\u0308", "w\u030a", "y\u030a", "aʾ", "s\u0307"]),
  (0x1EA0, ["A\u0323", "a\u0323", "A\u0309", "a\u0309", "A\u0302\u0301", "a\u0302\u0301",
    "A\u0302\u0300", "a\u0302\u0300", "A\u0302\u0309", "a\u0302\u0309", "A\u0302\u0303",
    "a\u0302\u0303", "A\u0323\u0302", "a\u0323\u0302", "A\u0306\u0301", "a\u0306\u0301",
    "A\u0306\u0300", "a\u0306\u0300", "A\u0306\u0309", "a\u0306\u0309", "A\u0306\u0303",
    "a\u0306\u0303", "A\u0323\u0306", "a\u0323\u0306", "E\u0323", "e\u0323", "E\u0309",
    "e\u0309", "E\u0303", "e\u0303", "E\u0302\u0301", "e\u0302\u0301"]),
  (0x1EC0, ["E\u0302\u0300", "e\u0302\u0300", "E\u0302\u0309", "e\u0302\u0309", "E\u0302\u0303",
    "e\u0302\u0303", "E\u0323\u0302", "e\u0323\u0302", "I\u0309", "i\u0309", "I\u0323",
    "i\u0323", "O\u0323", "o\u0323", "O\u0309", "o\u0309", "O\u0302\u0301",
    "o\u0302\u0301", "O\u0302\u0300", "o\u0302\u0300", "O\u0302\u0309", "o\u0302\u0309",
    "O\u0302\u0303", "o\u0302\u0303", "O\u0323\u0302", "o\u0323\u0302", "O\u031b\u0301",
    "o\u031b\u0301", "O\u031b\u0300", "o\u031b\u0300", "O\u031b\u0309", "o\u031b\u0309"]),
  (0x1EE0, ["O\u031b\u0303", "o\u031b\u0303", "O\u031b\u0323", "o\u031b\u0323", "U\u0323",
    "u\u0323", "U\u0309", "u\u0309", "U\u031b\u0301", "u\u031b\u0301", "U\u031b\u0300",
    "u\u031b\u0300", "U\u031b\u0309", "u\u031b\u0309", "U\u031b\u0303", "u\u031b\u0303",
    "U\u031b\u0323", "u\u031b\u0323", "Y\u0300", "y\u0300", "Y\u0323", "y\u0323",
    "Y\u0309", "y\u0309", "Y\u0303", "y\u0303"]),
  (0x1F00, ["α\u0313", "α\u0314", "α\u0313\u0300", "α\u0314\u0300", "α\u0313\u0301",
    "α\u0314\u0301", "α\u0313\u0342", "α\u0314\u0342", "Α\u0313", "Α\u0314",
    "Α\u0313\u0300", "Α\u0314\u0300", "Α\u0313\u0301", "Α\u0314\u0301", "Α\u0313\u0342",
    "Α\u0314\u0342", "ε\u0313", "ε\u0314", "ε\u0313\u0300", "ε\u0314\u0300",
    "ε\u0313\u0301", "ε\u0314\u0301"]),
  (0x1F18, ["Ε\u0313", "Ε\u0314", "Ε\u0313\u0300", "Ε\u0314\u0300", "Ε\u0313\u0301",
    "Ε\u0314\u0301"]),
  (0x1F20, ["η\u0313", "η\u0314", "η\u0313\u0300", "η\u0314\u0300", "η\u0313\u0301",
    "η\u0314\u0301", "η\u0313\u0342", "η\u0314\u0342", "Η\u0313", "Η\u0314",
    "Η\u0313\u0300", "Η\u0314\u0300", "Η\u0313\u0301", "Η\u0314\u0301", "Η\u0313\u0342",
    "Η\u0314\u0342", "ι\u0313", "ι\u0314", "ι\u0313\u0300", "ι\u0314\u0300",
    "ι\u0313\u0301", "ι\u0314\u0301", "ι\u0313\u0342", "ι\u0314\u0342", "Ι\u0313",
    "Ι\u0314", "Ι\u0313\u0300", "Ι\u0314\u0300", "Ι\u0313\u0301", "Ι\u0314\u0301",
    "Ι\u0313\u0342", "Ι\u0314\u0342"]),
  (0x1F40, ["ο\u0313", "ο\u0314", "ο\u0313\u0300", "ο\u0314\u0300", "ο\u0313\u0301",
    "ο\u0314\u0301"]),
  (0x1F48, ["Ο\u0313", "Ο\u0314", "Ο\u0313\u0300", "Ο\u0314\u0300", "Ο\u0313\u0301",
    "Ο\u0314\u0301"]),
  (0x1F50, ["υ\u0313", "υ\u0314", "υ\u0313\u0300", "υ\u0314\u0300", "υ\u0313\u0301",
    "υ\u0314\u0301", "υ\u0313\u0342", "υ\u0314\u0342"]),
  (0x1F59, ["Υ\u0314"]),
  (0x1F5B, ["Υ\u0314\u0300"]),
  (0x1F5D, ["Υ\u0314\u0301"]),
  (0x1F5F, ["Υ\u0314\u0342", "ω\u0313", "ω\u0314", "ω\u0313\u0300", "ω\u0314\u0300",
    "ω\u0313\u0301", "ω\u0314\u0301", "ω\u0313\u0342", "ω\u0314\u0342", "Ω\u0313",
    "Ω\u0314", "Ω\u0313\u0300", "Ω\u0314\u0300", "Ω\u0313\u0301", "Ω\u0314\u0301",
    "Ω\u0313\u0342", "Ω\u0314\u0342", "α\u0300", "α\u0301", "ε\u0300", "ε\u0301",
    "η\u0300", "η\u0301", "ι\u0300", "ι\u0301", "ο\u0300", "ο\u0301", "υ\u0300",
    "υ\u0301", "ω\u0300", "ω\u0301"]),
  (0x1F80, ["α\u0313\u0345", "α\u0314\u0345", "α\u0313\u0300\u0345", "α\u0314\u0300\u0345",
    "α\u0313\u0301\u0345", "α\u0314\u0301\u0345", "α\u0313\u0342\u0345",
    "α\u0314\u0342\u0345", "Α\u0313\u0345", "Α\u0314\u0345", "Α\u0313\u0300\u0345",
    "Α\u0314\u0300\u0345", "Α\u0313\u0301\u0345", "Α\u0314\u0301\u0345",
    "Α\u0313\u0342\u0345", "Α\u0314\u0342\u0345", "η\u0313\u0345", "η\u0314\u0345",
    "η\u0313\u0300\u0345", "η\u0314\u0300\u0345", "η\u0313\u0301\u0345",
    "η\u0314\u0301\u0345", "η\u0313\u0342\u0345", "η\u0314\u0342\u0345", "Η\u0313\u0345",
    "Η\u0314\u0345", "Η\u0313\u0300\u0345", "Η\u0314\u0300\u0345", "Η\u0313\u0301\u0345",
    "Η\u0314\u0301\u0345", "Η\u0313\u0342\u0345", "Η\u0314\u0342\u0345"]),
  (0x1FA0, ["ω\u0313\u0345", "ω\u0314\u0345", "ω\u0313\u0300\u0345", "ω\u0314\u0300\u0345",
    "ω\u0313\u0301\u0345", "ω\u0314\u0301\u0345", "ω\u0313\u0342\u0345",
    "ω\u0314\u0342\u0345", "Ω\u0313\u0345", "Ω\u0314\u0345", "Ω\u0313\u0300\u0345",
    "Ω\u0314\u0300\u0345", "Ω\u0313\u0301\u0345", "Ω\u0314\u0301\u0345",
    "Ω\u0313\u0342\u0345", "Ω\u0314\u0342\u0345", "α\u0306", "α\u0304", "α\u0300\u0345",
    "α\u0345", "α\u0301\u0345"]),
  (0x1FB6, ["α\u0342", "α\u0342\u0345", "Α\u0306", "Α\u0304", "Α\u0300", "Α\u0301", "Α\u0345",
    " \u0313", "ι", " \u0313", " \u0342", " \u0308\u0342", "η\u0300\u0345", "η\u0345",
    "η\u0301\u0345"]),
  (0x1FC6, ["η\u0342", "η\u0342\u0345", "Ε\u0300", "Ε\u0301", "Η\u0300", "Η\u0301", "Η\u0345",
    " \u0313\u0300", " \u0313\u0301", " \u0313\u0342", "ι\u0306", "ι\u0304",
    "ι\u0308\u0300", "ι\u0308\u0301"]),
  (0x1FD6, ["ι\u0342", "ι\u0308\u0342", "Ι\u0306", "Ι\u0304", "Ι\u0300", "Ι\u0301"]),
  (0x1FDD, [" \u0314\u0300", " \u0314\u0301", " \u0314\u0342", "υ\u0306", "υ\u0304",
    "υ\u0308\u0300", "υ\u0308\u0301", "ρ\u0313", "ρ\u0314", "υ\u0342", "υ\u0308\u0342",
    "Υ\u0306", "Υ\u0304", "Υ\u0300", "Υ\u0301", "Ρ\u0314", " \u0308\u0300",
    " \u0308\u0301", "`"]),
  (0x1FF2, ["ω\u0300\u0345", "ω\u0345", "ω\u0301\u0345"]),
  (0x1FF6, ["ω\u0342", "ω\u0342\u0345", "Ο\u0300", "Ο\u0301", "Ω\u0300", "Ω\u0301", "Ω\u0345",
    " \u0301", " \u0314"])
]

end Bibliography.Unicode.Decomposition
