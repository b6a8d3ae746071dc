/-!
# Folding of domains

Domains that differ only in case, in width or in style are the same. The tables give the characters
that are written as another single character: all such characters below U+2000, and beyond those
that are written in ASCII. Some characters are not written at all.
-/

namespace ApiConsole.Url.Domain

/-- Runs of characters that are not written: the first and the last of each. -/
def silentRuns : List (Nat × Nat) :=
  [
    (0xAD, 0xAD), (0x34F, 0x34F), (0x115F, 0x1160), (0x17B4, 0x17B5), (0x180B, 0x180F),
    (0x200B, 0x200B), (0x2060, 0x2064), (0x206A, 0x206F), (0x3164, 0x3164), (0xFE00, 0xFE0F),
    (0xFEFF, 0xFEFF), (0xFFA0, 0xFFA0), (0x1BCA0, 0x1BCA3), (0x1D173, 0x1D17A), (0xE0100, 0xE01EF)
  ]

/-- Runs of characters that are written as the characters of another run: the first and the last of
each, and the first of the other. -/
def shiftedRuns : List (Nat × Nat × Nat) :=
  [
    (0xAA, 0xAA, 0x61), (0xB2, 0xB3, 0x32), (0xB5, 0xB5, 0x3BC), (0xB9, 0xB9, 0x31),
    (0xBA, 0xBA, 0x6F), (0xC0, 0xD6, 0xE0), (0xD8, 0xDE, 0xF8), (0x178, 0x178, 0xFF),
    (0x17F, 0x17F, 0x73), (0x181, 0x181, 0x253), (0x186, 0x186, 0x254), (0x187, 0x187, 0x188),
    (0x189, 0x18A, 0x256), (0x18B, 0x18B, 0x18C), (0x18E, 0x18E, 0x1DD), (0x18F, 0x18F, 0x259),
    (0x190, 0x190, 0x25B), (0x191, 0x191, 0x192), (0x193, 0x193, 0x260), (0x194, 0x194, 0x263),
    (0x196, 0x196, 0x269), (0x197, 0x197, 0x268), (0x198, 0x198, 0x199), (0x19C, 0x19C, 0x26F),
    (0x19D, 0x19D, 0x272), (0x19F, 0x19F, 0x275), (0x1A6, 0x1A6, 0x280), (0x1A7, 0x1A7, 0x1A8),
    (0x1A9, 0x1A9, 0x283), (0x1AC, 0x1AC, 0x1AD), (0x1AE, 0x1AE, 0x288), (0x1AF, 0x1AF, 0x1B0),
    (0x1B1, 0x1B2, 0x28A), (0x1B7, 0x1B7, 0x292), (0x1B8, 0x1B8, 0x1B9), (0x1BC, 0x1BC, 0x1BD),
    (0x1F4, 0x1F4, 0x1F5), (0x1F6, 0x1F6, 0x195), (0x1F7, 0x1F7, 0x1BF), (0x220, 0x220, 0x19E),
    (0x23A, 0x23A, 0x2C65), (0x23B, 0x23B, 0x23C), (0x23D, 0x23D, 0x19A), (0x23E, 0x23E, 0x2C66),
    (0x241, 0x241, 0x242), (0x243, 0x243, 0x180), (0x244, 0x244, 0x289), (0x245, 0x245, 0x28C),
    (0x2B0, 0x2B0, 0x68), (0x2B1, 0x2B1, 0x266), (0x2B2, 0x2B2, 0x6A), (0x2B3, 0x2B3, 0x72),
    (0x2B4, 0x2B4, 0x279), (0x2B5, 0x2B5, 0x27B), (0x2B6, 0x2B6, 0x281), (0x2B7, 0x2B7, 0x77),
    (0x2B8, 0x2B8, 0x79), (0x2E0, 0x2E0, 0x263), (0x2E1, 0x2E1, 0x6C), (0x2E2, 0x2E2, 0x73),
    (0x2E3, 0x2E3, 0x78), (0x2E4, 0x2E4, 0x295), (0x340, 0x341, 0x300), (0x343, 0x343, 0x313),
    (0x345, 0x345, 0x3B9), (0x374, 0x374, 0x2B9), (0x376, 0x376, 0x377), (0x37E, 0x37E, 0x3B),
    (0x37F, 0x37F, 0x3F3), (0x386, 0x386, 0x3AC), (0x387, 0x387, 0xB7), (0x388, 0x38A, 0x3AD),
    (0x38C, 0x38C, 0x3CC), (0x38E, 0x38F, 0x3CD), (0x391, 0x3A1, 0x3B1), (0x3A3, 0x3AB, 0x3C3),
    (0x3CF, 0x3CF, 0x3D7), (0x3D0, 0x3D0, 0x3B2), (0x3D1, 0x3D1, 0x3B8), (0x3D2, 0x3D2, 0x3C5),
    (0x3D3, 0x3D3, 0x3CD), (0x3D4, 0x3D4, 0x3CB), (0x3D5, 0x3D5, 0x3C6), (0x3D6, 0x3D6, 0x3C0),
    (0x3F0, 0x3F0, 0x3BA), (0x3F1, 0x3F1, 0x3C1), (0x3F2, 0x3F2, 0x3C3), (0x3F4, 0x3F4, 0x3B8),
    (0x3F5, 0x3F5, 0x3B5), (0x3F7, 0x3F7, 0x3F8), (0x3F9, 0x3F9, 0x3C3), (0x3FA, 0x3FA, 0x3FB),
    (0x3FD, 0x3FF, 0x37B), (0x400, 0x40F, 0x450), (0x410, 0x42F, 0x430), (0x4C0, 0x4C0, 0x4CF),
    (0x531, 0x556, 0x561), (0xF0C, 0xF0C, 0xF0B), (0x10A0, 0x10C5, 0x2D00),
    (0x10C7, 0x10C7, 0x2D27), (0x10CD, 0x10CD, 0x2D2D), (0x10FC, 0x10FC, 0x10DC),
    (0x13F8, 0x13FD, 0x13F0), (0x1C80, 0x1C80, 0x432), (0x1C81, 0x1C81, 0x434),
    (0x1C82, 0x1C82, 0x43E), (0x1C83, 0x1C84, 0x441), (0x1C85, 0x1C85, 0x442),
    (0x1C86, 0x1C86, 0x44A), (0x1C87, 0x1C87, 0x463), (0x1C88, 0x1C88, 0xA64B),
    (0x1C89, 0x1C89, 0x1C8A), (0x1C90, 0x1CBA, 0x10D0), (0x1CBD, 0x1CBF, 0x10FD),
    (0x1D2C, 0x1D2C, 0x61), (0x1D2D, 0x1D2D, 0xE6), (0x1D2E, 0x1D2E, 0x62), (0x1D30, 0x1D31, 0x64),
    (0x1D32, 0x1D32, 0x1DD), (0x1D33, 0x1D3A, 0x67), (0x1D3C, 0x1D3C, 0x6F),
    (0x1D3D, 0x1D3D, 0x223), (0x1D3E, 0x1D3E, 0x70), (0x1D3F, 0x1D3F, 0x72), (0x1D40, 0x1D41, 0x74),
    (0x1D42, 0x1D42, 0x77), (0x1D43, 0x1D43, 0x61), (0x1D44, 0x1D45, 0x250),
    (0x1D46, 0x1D46, 0x1D02), (0x1D47, 0x1D47, 0x62), (0x1D48, 0x1D49, 0x64),
    (0x1D4A, 0x1D4A, 0x259), (0x1D4B, 0x1D4C, 0x25B), (0x1D4D, 0x1D4D, 0x67),
    (0x1D4F, 0x1D4F, 0x6B), (0x1D50, 0x1D50, 0x6D), (0x1D51, 0x1D51, 0x14B), (0x1D52, 0x1D52, 0x6F),
    (0x1D53, 0x1D53, 0x254), (0x1D54, 0x1D55, 0x1D16), (0x1D56, 0x1D56, 0x70),
    (0x1D57, 0x1D58, 0x74), (0x1D59, 0x1D59, 0x1D1D), (0x1D5A, 0x1D5A, 0x26F),
    (0x1D5B, 0x1D5B, 0x76), (0x1D5C, 0x1D5C, 0x1D25), (0x1D5D, 0x1D5F, 0x3B2),
    (0x1D60, 0x1D61, 0x3C6), (0x1D62, 0x1D62, 0x69), (0x1D63, 0x1D63, 0x72), (0x1D64, 0x1D65, 0x75),
    (0x1D66, 0x1D67, 0x3B2), (0x1D68, 0x1D68, 0x3C1), (0x1D69, 0x1D6A, 0x3C6),
    (0x1D78, 0x1D78, 0x43D), (0x1D9B, 0x1D9B, 0x252), (0x1D9C, 0x1D9C, 0x63),
    (0x1D9D, 0x1D9D, 0x255), (0x1D9E, 0x1D9E, 0xF0), (0x1D9F, 0x1D9F, 0x25C),
    (0x1DA0, 0x1DA0, 0x66), (0x1DA1, 0x1DA1, 0x25F), (0x1DA2, 0x1DA2, 0x261),
    (0x1DA3, 0x1DA3, 0x265), (0x1DA4, 0x1DA6, 0x268), (0x1DA7, 0x1DA7, 0x1D7B),
    (0x1DA8, 0x1DA8, 0x29D), (0x1DA9, 0x1DA9, 0x26D), (0x1DAA, 0x1DAA, 0x1D85),
    (0x1DAB, 0x1DAB, 0x29F), (0x1DAC, 0x1DAC, 0x271), (0x1DAD, 0x1DAD, 0x270),
    (0x1DAE, 0x1DB1, 0x272), (0x1DB2, 0x1DB2, 0x278), (0x1DB3, 0x1DB4, 0x282),
    (0x1DB5, 0x1DB5, 0x1AB), (0x1DB6, 0x1DB7, 0x289), (0x1DB8, 0x1DB8, 0x1D1C),
    (0x1DB9, 0x1DBA, 0x28B), (0x1DBB, 0x1DBB, 0x7A), (0x1DBC, 0x1DBE, 0x290),
    (0x1DBF, 0x1DBF, 0x3B8), (0x1E9B, 0x1E9B, 0x1E61), (0x1E9E, 0x1E9E, 0xDF),
    (0x1F08, 0x1F0F, 0x1F00), (0x1F18, 0x1F1D, 0x1F10), (0x1F28, 0x1F2F, 0x1F20),
    (0x1F38, 0x1F3F, 0x1F30), (0x1F48, 0x1F4D, 0x1F40), (0x1F59, 0x1F59, 0x1F51),
    (0x1F5B, 0x1F5B, 0x1F53), (0x1F5D, 0x1F5D, 0x1F55), (0x1F5F, 0x1F5F, 0x1F57),
    (0x1F68, 0x1F6F, 0x1F60), (0x1F71, 0x1F71, 0x3AC), (0x1F73, 0x1F73, 0x3AD),
    (0x1F75, 0x1F75, 0x3AE), (0x1F77, 0x1F77, 0x3AF), (0x1F79, 0x1F79, 0x3CC),
    (0x1F7B, 0x1F7B, 0x3CD), (0x1F7D, 0x1F7D, 0x3CE), (0x1FB8, 0x1FB9, 0x1FB0),
    (0x1FBA, 0x1FBA, 0x1F70), (0x1FBB, 0x1FBB, 0x3AC), (0x1FBE, 0x1FBE, 0x3B9),
    (0x1FC8, 0x1FC8, 0x1F72), (0x1FC9, 0x1FC9, 0x3AD), (0x1FCA, 0x1FCA, 0x1F74),
    (0x1FCB, 0x1FCB, 0x3AE), (0x1FD3, 0x1FD3, 0x390), (0x1FD8, 0x1FD9, 0x1FD0),
    (0x1FDA, 0x1FDA, 0x1F76), (0x1FDB, 0x1FDB, 0x3AF), (0x1FE3, 0x1FE3, 0x3B0),
    (0x1FE8, 0x1FE9, 0x1FE0), (0x1FEA, 0x1FEA, 0x1F7A), (0x1FEB, 0x1FEB, 0x3CD),
    (0x1FEC, 0x1FEC, 0x1FE5), (0x1FEF, 0x1FEF, 0x60), (0x1FF8, 0x1FF8, 0x1F78),
    (0x1FF9, 0x1FF9, 0x3CC), (0x1FFA, 0x1FFA, 0x1F7C), (0x1FFB, 0x1FFB, 0x3CE),
    (0x2070, 0x2070, 0x30), (0x2071, 0x2071, 0x69), (0x2074, 0x2079, 0x34), (0x207A, 0x207A, 0x2B),
    (0x207C, 0x207C, 0x3D), (0x207D, 0x207E, 0x28), (0x207F, 0x207F, 0x6E), (0x2080, 0x2089, 0x30),
    (0x208A, 0x208A, 0x2B), (0x208C, 0x208C, 0x3D), (0x208D, 0x208E, 0x28), (0x2090, 0x2090, 0x61),
    (0x2091, 0x2091, 0x65), (0x2092, 0x2092, 0x6F), (0x2093, 0x2093, 0x78), (0x2095, 0x2095, 0x68),
    (0x2096, 0x2099, 0x6B), (0x209A, 0x209A, 0x70), (0x209B, 0x209C, 0x73), (0x2102, 0x2102, 0x63),
    (0x210A, 0x210B, 0x67), (0x210C, 0x210C, 0x68), (0x210D, 0x210D, 0x68), (0x210E, 0x210E, 0x68),
    (0x2110, 0x2110, 0x69), (0x2111, 0x2111, 0x69), (0x2112, 0x2112, 0x6C), (0x2113, 0x2113, 0x6C),
    (0x2115, 0x2115, 0x6E), (0x2119, 0x211B, 0x70), (0x211C, 0x211C, 0x72), (0x211D, 0x211D, 0x72),
    (0x2124, 0x2124, 0x7A), (0x2128, 0x2128, 0x7A), (0x212A, 0x212A, 0x6B), (0x212C, 0x212D, 0x62),
    (0x212F, 0x212F, 0x65), (0x2130, 0x2130, 0x65), (0x2131, 0x2131, 0x66), (0x2133, 0x2133, 0x6D),
    (0x2134, 0x2134, 0x6F), (0x2139, 0x2139, 0x69), (0x2145, 0x2145, 0x64), (0x2146, 0x2146, 0x64),
    (0x2147, 0x2147, 0x65), (0x2148, 0x2149, 0x69), (0x2160, 0x2160, 0x69), (0x2164, 0x2164, 0x76),
    (0x2169, 0x2169, 0x78), (0x216C, 0x216C, 0x6C), (0x216D, 0x216E, 0x63), (0x216F, 0x216F, 0x6D),
    (0x2170, 0x2170, 0x69), (0x2174, 0x2174, 0x76), (0x2179, 0x2179, 0x78), (0x217C, 0x217C, 0x6C),
    (0x217D, 0x217E, 0x63), (0x217F, 0x217F, 0x6D), (0x2460, 0x2468, 0x31), (0x24B6, 0x24CF, 0x61),
    (0x24D0, 0x24E9, 0x61), (0x24EA, 0x24EA, 0x30), (0x2C7C, 0x2C7C, 0x6A), (0x2C7D, 0x2C7D, 0x76),
    (0x3002, 0x3002, 0x2E), (0xA7F1, 0xA7F1, 0x73), (0xA7F2, 0xA7F2, 0x63), (0xA7F3, 0xA7F3, 0x66),
    (0xA7F4, 0xA7F4, 0x71), (0xFB29, 0xFB29, 0x2B), (0xFE10, 0xFE10, 0x2C), (0xFE14, 0xFE14, 0x3B),
    (0xFE15, 0xFE15, 0x21), (0xFE33, 0xFE33, 0x5F), (0xFE34, 0xFE34, 0x5F), (0xFE35, 0xFE36, 0x28),
    (0xFE37, 0xFE37, 0x7B), (0xFE38, 0xFE38, 0x7D), (0xFE4D, 0xFE4D, 0x5F), (0xFE4E, 0xFE4E, 0x5F),
    (0xFE4F, 0xFE4F, 0x5F), (0xFE50, 0xFE50, 0x2C), (0xFE54, 0xFE54, 0x3B), (0xFE57, 0xFE57, 0x21),
    (0xFE59, 0xFE5A, 0x28), (0xFE5B, 0xFE5B, 0x7B), (0xFE5C, 0xFE5C, 0x7D), (0xFE60, 0xFE60, 0x26),
    (0xFE61, 0xFE62, 0x2A), (0xFE63, 0xFE63, 0x2D), (0xFE66, 0xFE66, 0x3D), (0xFE69, 0xFE69, 0x24),
    (0xFF01, 0xFF02, 0x21), (0xFF04, 0xFF04, 0x24), (0xFF06, 0xFF0E, 0x26), (0xFF10, 0xFF19, 0x30),
    (0xFF1B, 0xFF1B, 0x3B), (0xFF1D, 0xFF1D, 0x3D), (0xFF21, 0xFF3A, 0x61), (0xFF3F, 0xFF5B, 0x5F),
    (0xFF5D, 0xFF5E, 0x7D), (0xFF61, 0xFF61, 0x2E), (0x107A5, 0x107A5, 0x71),
    (0x1CCD6, 0x1CCEF, 0x61), (0x1CCF0, 0x1CCF9, 0x30), (0x1D400, 0x1D419, 0x61),
    (0x1D41A, 0x1D433, 0x61), (0x1D434, 0x1D44D, 0x61), (0x1D44E, 0x1D454, 0x61),
    (0x1D456, 0x1D467, 0x69), (0x1D468, 0x1D481, 0x61), (0x1D482, 0x1D49B, 0x61),
    (0x1D49C, 0x1D49C, 0x61), (0x1D49E, 0x1D49F, 0x63), (0x1D4A2, 0x1D4A2, 0x67),
    (0x1D4A5, 0x1D4A6, 0x6A), (0x1D4A9, 0x1D4AC, 0x6E), (0x1D4AE, 0x1D4B5, 0x73),
    (0x1D4B6, 0x1D4B9, 0x61), (0x1D4BB, 0x1D4BB, 0x66), (0x1D4BD, 0x1D4C3, 0x68),
    (0x1D4C5, 0x1D4CF, 0x70), (0x1D4D0, 0x1D4E9, 0x61), (0x1D4EA, 0x1D503, 0x61),
    (0x1D504, 0x1D505, 0x61), (0x1D507, 0x1D50A, 0x64), (0x1D50D, 0x1D514, 0x6A),
    (0x1D516, 0x1D51C, 0x73), (0x1D51E, 0x1D537, 0x61), (0x1D538, 0x1D539, 0x61),
    (0x1D53B, 0x1D53E, 0x64), (0x1D540, 0x1D544, 0x69), (0x1D546, 0x1D546, 0x6F),
    (0x1D54A, 0x1D550, 0x73), (0x1D552, 0x1D56B, 0x61), (0x1D56C, 0x1D585, 0x61),
    (0x1D586, 0x1D59F, 0x61), (0x1D5A0, 0x1D5B9, 0x61), (0x1D5BA, 0x1D5D3, 0x61),
    (0x1D5D4, 0x1D5ED, 0x61), (0x1D5EE, 0x1D607, 0x61), (0x1D608, 0x1D621, 0x61),
    (0x1D622, 0x1D63B, 0x61), (0x1D63C, 0x1D655, 0x61), (0x1D656, 0x1D66F, 0x61),
    (0x1D670, 0x1D689, 0x61), (0x1D68A, 0x1D6A3, 0x61), (0x1D7CE, 0x1D7D7, 0x30),
    (0x1D7D8, 0x1D7E1, 0x30), (0x1D7E2, 0x1D7EB, 0x30), (0x1D7EC, 0x1D7F5, 0x30),
    (0x1D7F6, 0x1D7FF, 0x30), (0x1F12B, 0x1F12B, 0x63), (0x1F12C, 0x1F12C, 0x72),
    (0x1F130, 0x1F149, 0x61), (0x1FBF0, 0x1FBF9, 0x30)
  ]

/-- Runs in which every other character, the first and the last among them, is written as the one
behind it. -/
def pairedRuns : List (Nat × Nat) :=
  [
    (0x100, 0x12E), (0x134, 0x136), (0x139, 0x13D), (0x141, 0x147), (0x14A, 0x176), (0x179, 0x17D),
    (0x182, 0x184), (0x1A0, 0x1A4), (0x1B3, 0x1B5), (0x1CD, 0x1DB), (0x1DE, 0x1EE), (0x1F8, 0x21E),
    (0x222, 0x232), (0x246, 0x24E), (0x370, 0x372), (0x3D8, 0x3EE), (0x460, 0x480), (0x48A, 0x4BE),
    (0x4C1, 0x4CD), (0x4D0, 0x52E), (0x1E00, 0x1E94), (0x1EA0, 0x1EFE)
  ]

def isSilent (c : Char) : Bool :=
  silentRuns.any fun (first, last) => first ≤ c.toNat && c.toNat ≤ last

def fold (c : Char) : Char :=
  let n := c.toNat
  if n < 0x80 then c.toLower
  else
    match shiftedRuns.find? fun (first, last, _) => first ≤ n && n ≤ last with
    | some (first, _, image) => Char.ofNat (image + (n - first))
    | none =>
        if pairedRuns.any fun (first, last) => first ≤ n && n ≤ last && (n - first) % 2 == 0 then
          Char.ofNat (n + 1)
        else c

end ApiConsole.Url.Domain
