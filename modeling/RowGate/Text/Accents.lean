import RowGate.Text.Ranges
/-!
# Accents

Stripping accents: nonspacing marks disappear and a character decomposing to an ASCII letter or
digit with marks becomes that letter or digit.
-/

namespace RowGate.Text

def markRanges : RangeTable :=
#[
  (0x300, 0x36f), (0x483, 0x487), (0x591, 0x5bd), (0x5bf, 0x5bf), (0x5c1, 0x5c2), (0x5c4, 0x5c5),
  (0x5c7, 0x5c7), (0x610, 0x61a), (0x64b, 0x65f), (0x670, 0x670), (0x6d6, 0x6dc), (0x6df, 0x6e4),
  (0x6e7, 0x6e8), (0x6ea, 0x6ed), (0x711, 0x711), (0x730, 0x74a), (0x7a6, 0x7b0), (0x7eb, 0x7f3),
  (0x7fd, 0x7fd), (0x816, 0x819), (0x81b, 0x823), (0x825, 0x827), (0x829, 0x82d), (0x859, 0x85b),
  (0x898, 0x89f), (0x8ca, 0x8e1), (0x8e3, 0x902), (0x93a, 0x93a), (0x93c, 0x93c), (0x941, 0x948),
  (0x94d, 0x94d), (0x951, 0x957), (0x962, 0x963), (0x981, 0x981), (0x9bc, 0x9bc), (0x9c1, 0x9c4),
  (0x9cd, 0x9cd), (0x9e2, 0x9e3), (0x9fe, 0x9fe), (0xa01, 0xa02), (0xa3c, 0xa3c), (0xa41, 0xa42),
  (0xa47, 0xa48), (0xa4b, 0xa4d), (0xa51, 0xa51), (0xa70, 0xa71), (0xa75, 0xa75), (0xa81, 0xa82),
  (0xabc, 0xabc), (0xac1, 0xac5), (0xac7, 0xac8), (0xacd, 0xacd), (0xae2, 0xae3), (0xafa, 0xaff),
  (0xb01, 0xb01), (0xb3c, 0xb3c), (0xb3f, 0xb3f), (0xb41, 0xb44), (0xb4d, 0xb4d), (0xb55, 0xb56),
  (0xb62, 0xb63), (0xb82, 0xb82), (0xbc0, 0xbc0), (0xbcd, 0xbcd), (0xc00, 0xc00), (0xc04, 0xc04),
  (0xc3c, 0xc3c), (0xc3e, 0xc40), (0xc46, 0xc48), (0xc4a, 0xc4d), (0xc55, 0xc56), (0xc62, 0xc63),
  (0xc81, 0xc81), (0xcbc, 0xcbc), (0xcbf, 0xcbf), (0xcc6, 0xcc6), (0xccc, 0xccd), (0xce2, 0xce3),
  (0xd00, 0xd01), (0xd3b, 0xd3c), (0xd41, 0xd44), (0xd4d, 0xd4d), (0xd62, 0xd63), (0xd81, 0xd81),
  (0xdca, 0xdca), (0xdd2, 0xdd4), (0xdd6, 0xdd6), (0xe31, 0xe31), (0xe34, 0xe3a), (0xe47, 0xe4e),
  (0xeb1, 0xeb1), (0xeb4, 0xebc), (0xec8, 0xecd), (0xf18, 0xf19), (0xf35, 0xf35), (0xf37, 0xf37),
  (0xf39, 0xf39), (0xf71, 0xf7e), (0xf80, 0xf84), (0xf86, 0xf87), (0xf8d, 0xf97), (0xf99, 0xfbc),
  (0xfc6, 0xfc6), (0x102d, 0x1030), (0x1032, 0x1037), (0x1039, 0x103a), (0x103d, 0x103e), (0x1058, 0x1059),
  (0x105e, 0x1060), (0x1071, 0x1074), (0x1082, 0x1082), (0x1085, 0x1086), (0x108d, 0x108d), (0x109d, 0x109d),
  (0x135d, 0x135f), (0x1712, 0x1714), (0x1732, 0x1733), (0x1752, 0x1753), (0x1772, 0x1773), (0x17b4, 0x17b5),
  (0x17b7, 0x17bd), (0x17c6, 0x17c6), (0x17c9, 0x17d3), (0x17dd, 0x17dd), (0x180b, 0x180d), (0x180f, 0x180f),
  (0x1885, 0x1886), (0x18a9, 0x18a9), (0x1920, 0x1922), (0x1927, 0x1928), (0x1932, 0x1932), (0x1939, 0x193b),
  (0x1a17, 0x1a18), (0x1a1b, 0x1a1b), (0x1a56, 0x1a56), (0x1a58, 0x1a5e), (0x1a60, 0x1a60), (0x1a62, 0x1a62),
  (0x1a65, 0x1a6c), (0x1a73, 0x1a7c), (0x1a7f, 0x1a7f), (0x1ab0, 0x1abd), (0x1abf, 0x1ace), (0x1b00, 0x1b03),
  (0x1b34, 0x1b34), (0x1b36, 0x1b3a), (0x1b3c, 0x1b3c), (0x1b42, 0x1b42), (0x1b6b, 0x1b73), (0x1b80, 0x1b81),
  (0x1ba2, 0x1ba5), (0x1ba8, 0x1ba9), (0x1bab, 0x1bad), (0x1be6, 0x1be6), (0x1be8, 0x1be9), (0x1bed, 0x1bed),
  (0x1bef, 0x1bf1), (0x1c2c, 0x1c33), (0x1c36, 0x1c37), (0x1cd0, 0x1cd2), (0x1cd4, 0x1ce0), (0x1ce2, 0x1ce8),
  (0x1ced, 0x1ced), (0x1cf4, 0x1cf4), (0x1cf8, 0x1cf9), (0x1dc0, 0x1dff), (0x20d0, 0x20dc), (0x20e1, 0x20e1),
  (0x20e5, 0x20f0), (0x2cef, 0x2cf1), (0x2d7f, 0x2d7f), (0x2de0, 0x2dff), (0x302a, 0x302d), (0x3099, 0x309a),
  (0xa66f, 0xa66f), (0xa674, 0xa67d), (0xa69e, 0xa69f), (0xa6f0, 0xa6f1), (0xa802, 0xa802), (0xa806, 0xa806),
  (0xa80b, 0xa80b), (0xa825, 0xa826), (0xa82c, 0xa82c), (0xa8c4, 0xa8c5), (0xa8e0, 0xa8f1), (0xa8ff, 0xa8ff),
  (0xa926, 0xa92d), (0xa947, 0xa951), (0xa980, 0xa982), (0xa9b3, 0xa9b3), (0xa9b6, 0xa9b9), (0xa9bc, 0xa9bd),
  (0xa9e5, 0xa9e5), (0xaa29, 0xaa2e), (0xaa31, 0xaa32), (0xaa35, 0xaa36), (0xaa43, 0xaa43), (0xaa4c, 0xaa4c),
  (0xaa7c, 0xaa7c), (0xaab0, 0xaab0), (0xaab2, 0xaab4), (0xaab7, 0xaab8), (0xaabe, 0xaabf), (0xaac1, 0xaac1),
  (0xaaec, 0xaaed), (0xaaf6, 0xaaf6), (0xabe5, 0xabe5), (0xabe8, 0xabe8), (0xabed, 0xabed), (0xfb1e, 0xfb1e),
  (0xfe00, 0xfe0f), (0xfe20, 0xfe2f), (0x101fd, 0x101fd), (0x102e0, 0x102e0), (0x10376, 0x1037a), (0x10a01, 0x10a03),
  (0x10a05, 0x10a06), (0x10a0c, 0x10a0f), (0x10a38, 0x10a3a), (0x10a3f, 0x10a3f), (0x10ae5, 0x10ae6), (0x10d24, 0x10d27),
  (0x10eab, 0x10eac), (0x10f46, 0x10f50), (0x10f82, 0x10f85), (0x11001, 0x11001), (0x11038, 0x11046), (0x11070, 0x11070),
  (0x11073, 0x11074), (0x1107f, 0x11081), (0x110b3, 0x110b6), (0x110b9, 0x110ba), (0x110c2, 0x110c2), (0x11100, 0x11102),
  (0x11127, 0x1112b), (0x1112d, 0x11134), (0x11173, 0x11173), (0x11180, 0x11181), (0x111b6, 0x111be), (0x111c9, 0x111cc),
  (0x111cf, 0x111cf), (0x1122f, 0x11231), (0x11234, 0x11234), (0x11236, 0x11237), (0x1123e, 0x1123e), (0x112df, 0x112df),
  (0x112e3, 0x112ea), (0x11300, 0x11301), (0x1133b, 0x1133c), (0x11340, 0x11340), (0x11366, 0x1136c), (0x11370, 0x11374),
  (0x11438, 0x1143f), (0x11442, 0x11444), (0x11446, 0x11446), (0x1145e, 0x1145e), (0x114b3, 0x114b8), (0x114ba, 0x114ba),
  (0x114bf, 0x114c0), (0x114c2, 0x114c3), (0x115b2, 0x115b5), (0x115bc, 0x115bd), (0x115bf, 0x115c0), (0x115dc, 0x115dd),
  (0x11633, 0x1163a), (0x1163d, 0x1163d), (0x1163f, 0x11640), (0x116ab, 0x116ab), (0x116ad, 0x116ad), (0x116b0, 0x116b5),
  (0x116b7, 0x116b7), (0x1171d, 0x1171f), (0x11722, 0x11725), (0x11727, 0x1172b), (0x1182f, 0x11837), (0x11839, 0x1183a),
  (0x1193b, 0x1193c), (0x1193e, 0x1193e), (0x11943, 0x11943), (0x119d4, 0x119d7), (0x119da, 0x119db), (0x119e0, 0x119e0),
  (0x11a01, 0x11a0a), (0x11a33, 0x11a38), (0x11a3b, 0x11a3e), (0x11a47, 0x11a47), (0x11a51, 0x11a56), (0x11a59, 0x11a5b),
  (0x11a8a, 0x11a96), (0x11a98, 0x11a99), (0x11c30, 0x11c36), (0x11c38, 0x11c3d), (0x11c3f, 0x11c3f), (0x11c92, 0x11ca7),
  (0x11caa, 0x11cb0), (0x11cb2, 0x11cb3), (0x11cb5, 0x11cb6), (0x11d31, 0x11d36), (0x11d3a, 0x11d3a), (0x11d3c, 0x11d3d),
  (0x11d3f, 0x11d45), (0x11d47, 0x11d47), (0x11d90, 0x11d91), (0x11d95, 0x11d95), (0x11d97, 0x11d97), (0x11ef3, 0x11ef4),
  (0x16af0, 0x16af4), (0x16b30, 0x16b36), (0x16f4f, 0x16f4f), (0x16f8f, 0x16f92), (0x16fe4, 0x16fe4), (0x1bc9d, 0x1bc9e),
  (0x1cf00, 0x1cf2d), (0x1cf30, 0x1cf46), (0x1d167, 0x1d169), (0x1d17b, 0x1d182), (0x1d185, 0x1d18b), (0x1d1aa, 0x1d1ad),
  (0x1d242, 0x1d244), (0x1da00, 0x1da36), (0x1da3b, 0x1da6c), (0x1da75, 0x1da75), (0x1da84, 0x1da84), (0x1da9b, 0x1da9f),
  (0x1daa1, 0x1daaf), (0x1e000, 0x1e006), (0x1e008, 0x1e018), (0x1e01b, 0x1e021), (0x1e023, 0x1e024), (0x1e026, 0x1e02a),
  (0x1e130, 0x1e136), (0x1e2ae, 0x1e2ae), (0x1e2ec, 0x1e2ef), (0x1e8d0, 0x1e8d6), (0x1e944, 0x1e94a), (0xe0100, 0xe01ef)]

def accentBases : Array (Nat × Nat × Char) :=
#[
  (0xc0, 0xc5, 'A'), (0xc7, 0xc7, 'C'), (0xc8, 0xcb, 'E'), (0xcc, 0xcf, 'I'), (0xd1, 0xd1, 'N'),
  (0xd2, 0xd6, 'O'), (0xd9, 0xdc, 'U'), (0xdd, 0xdd, 'Y'), (0xe0, 0xe5, 'a'), (0xe7, 0xe7, 'c'),
  (0xe8, 0xeb, 'e'), (0xec, 0xef, 'i'), (0xf1, 0xf1, 'n'), (0xf2, 0xf6, 'o'), (0xf9, 0xfc, 'u'),
  (0xfd, 0xfd, 'y'), (0xff, 0xff, 'y'), (0x100, 0x100, 'A'), (0x101, 0x101, 'a'), (0x102, 0x102, 'A'),
  (0x103, 0x103, 'a'), (0x104, 0x104, 'A'), (0x105, 0x105, 'a'), (0x106, 0x106, 'C'), (0x107, 0x107, 'c'),
  (0x108, 0x108, 'C'), (0x109, 0x109, 'c'), (0x10a, 0x10a, 'C'), (0x10b, 0x10b, 'c'), (0x10c, 0x10c, 'C'),
  (0x10d, 0x10d, 'c'), (0x10e, 0x10e, 'D'), (0x10f, 0x10f, 'd'), (0x112, 0x112, 'E'), (0x113, 0x113, 'e'),
  (0x114, 0x114, 'E'), (0x115, 0x115, 'e'), (0x116, 0x116, 'E'), (0x117, 0x117, 'e'), (0x118, 0x118, 'E'),
  (0x119, 0x119, 'e'), (0x11a, 0x11a, 'E'), (0x11b, 0x11b, 'e'), (0x11c, 0x11c, 'G'), (0x11d, 0x11d, 'g'),
  (0x11e, 0x11e, 'G'), (0x11f, 0x11f, 'g'), (0x120, 0x120, 'G'), (0x121, 0x121, 'g'), (0x122, 0x122, 'G'),
  (0x123, 0x123, 'g'), (0x124, 0x124, 'H'), (0x125, 0x125, 'h'), (0x128, 0x128, 'I'), (0x129, 0x129, 'i'),
  (0x12a, 0x12a, 'I'), (0x12b, 0x12b, 'i'), (0x12c, 0x12c, 'I'), (0x12d, 0x12d, 'i'), (0x12e, 0x12e, 'I'),
  (0x12f, 0x12f, 'i'), (0x130, 0x130, 'I'), (0x134, 0x134, 'J'), (0x135, 0x135, 'j'), (0x136, 0x136, 'K'),
  (0x137, 0x137, 'k'), (0x139, 0x139, 'L'), (0x13a, 0x13a, 'l'), (0x13b, 0x13b, 'L'), (0x13c, 0x13c, 'l'),
  (0x13d, 0x13d, 'L'), (0x13e, 0x13e, 'l'), (0x143, 0x143, 'N'), (0x144, 0x144, 'n'), (0x145, 0x145, 'N'),
  (0x146, 0x146, 'n'), (0x147, 0x147, 'N'), (0x148, 0x148, 'n'), (0x14c, 0x14c, 'O'), (0x14d, 0x14d, 'o'),
  (0x14e, 0x14e, 'O'), (0x14f, 0x14f, 'o'), (0x150, 0x150, 'O'), (0x151, 0x151, 'o'), (0x154, 0x154, 'R'),
  (0x155, 0x155, 'r'), (0x156, 0x156, 'R'), (0x157, 0x157, 'r'), (0x158, 0x158, 'R'), (0x159, 0x159, 'r'),
  (0x15a, 0x15a, 'S'), (0x15b, 0x15b, 's'), (0x15c, 0x15c, 'S'), (0x15d, 0x15d, 's'), (0x15e, 0x15e, 'S'),
  (0x15f, 0x15f, 's'), (0x160, 0x160, 'S'), (0x161, 0x161, 's'), (0x162, 0x162, 'T'), (0x163, 0x163, 't'),
  (0x164, 0x164, 'T'), (0x165, 0x165, 't'), (0x168, 0x168, 'U'), (0x169, 0x169, 'u'), (0x16a, 0x16a, 'U'),
  (0x16b, 0x16b, 'u'), (0x16c, 0x16c, 'U'), (0x16d, 0x16d, 'u'), (0x16e, 0x16e, 'U'), (0x16f, 0x16f, 'u'),
  (0x170, 0x170, 'U'), (0x171, 0x171, 'u'), (0x172, 0x172, 'U'), (0x173, 0x173, 'u'), (0x174, 0x174, 'W'),
  (0x175, 0x175, 'w'), (0x176, 0x176, 'Y'), (0x177, 0x177, 'y'), (0x178, 0x178, 'Y'), (0x179, 0x179, 'Z'),
  (0x17a, 0x17a, 'z'), (0x17b, 0x17b, 'Z'), (0x17c, 0x17c, 'z'), (0x17d, 0x17d, 'Z'), (0x17e, 0x17e, 'z'),
  (0x1a0, 0x1a0, 'O'), (0x1a1, 0x1a1, 'o'), (0x1af, 0x1af, 'U'), (0x1b0, 0x1b0, 'u'), (0x1cd, 0x1cd, 'A'),
  (0x1ce, 0x1ce, 'a'), (0x1cf, 0x1cf, 'I'), (0x1d0, 0x1d0, 'i'), (0x1d1, 0x1d1, 'O'), (0x1d2, 0x1d2, 'o'),
  (0x1d3, 0x1d3, 'U'), (0x1d4, 0x1d4, 'u'), (0x1d5, 0x1d5, 'U'), (0x1d6, 0x1d6, 'u'), (0x1d7, 0x1d7, 'U'),
  (0x1d8, 0x1d8, 'u'), (0x1d9, 0x1d9, 'U'), (0x1da, 0x1da, 'u'), (0x1db, 0x1db, 'U'), (0x1dc, 0x1dc, 'u'),
  (0x1de, 0x1de, 'A'), (0x1df, 0x1df, 'a'), (0x1e0, 0x1e0, 'A'), (0x1e1, 0x1e1, 'a'), (0x1e6, 0x1e6, 'G'),
  (0x1e7, 0x1e7, 'g'), (0x1e8, 0x1e8, 'K'), (0x1e9, 0x1e9, 'k'), (0x1ea, 0x1ea, 'O'), (0x1eb, 0x1eb, 'o'),
  (0x1ec, 0x1ec, 'O'), (0x1ed, 0x1ed, 'o'), (0x1f0, 0x1f0, 'j'), (0x1f4, 0x1f4, 'G'), (0x1f5, 0x1f5, 'g'),
  (0x1f8, 0x1f8, 'N'), (0x1f9, 0x1f9, 'n'), (0x1fa, 0x1fa, 'A'), (0x1fb, 0x1fb, 'a'), (0x200, 0x200, 'A'),
  (0x201, 0x201, 'a'), (0x202, 0x202, 'A'), (0x203, 0x203, 'a'), (0x204, 0x204, 'E'), (0x205, 0x205, 'e'),
  (0x206, 0x206, 'E'), (0x207, 0x207, 'e'), (0x208, 0x208, 'I'), (0x209, 0x209, 'i'), (0x20a, 0x20a, 'I'),
  (0x20b, 0x20b, 'i'), (0x20c, 0x20c, 'O'), (0x20d, 0x20d, 'o'), (0x20e, 0x20e, 'O'), (0x20f, 0x20f, 'o'),
  (0x210, 0x210, 'R'), (0x211, 0x211, 'r'), (0x212, 0x212, 'R'), (0x213, 0x213, 'r'), (0x214, 0x214, 'U'),
  (0x215, 0x215, 'u'), (0x216, 0x216, 'U'), (0x217, 0x217, 'u'), (0x218, 0x218, 'S'), (0x219, 0x219, 's'),
  (0x21a, 0x21a, 'T'), (0x21b, 0x21b, 't'), (0x21e, 0x21e, 'H'), (0x21f, 0x21f, 'h'), (0x226, 0x226, 'A'),
  (0x227, 0x227, 'a'), (0x228, 0x228, 'E'), (0x229, 0x229, 'e'), (0x22a, 0x22a, 'O'), (0x22b, 0x22b, 'o'),
  (0x22c, 0x22c, 'O'), (0x22d, 0x22d, 'o'), (0x22e, 0x22e, 'O'), (0x22f, 0x22f, 'o'), (0x230, 0x230, 'O'),
  (0x231, 0x231, 'o'), (0x232, 0x232, 'Y'), (0x233, 0x233, 'y'), (0x1e00, 0x1e00, 'A'), (0x1e01, 0x1e01, 'a'),
  (0x1e02, 0x1e02, 'B'), (0x1e03, 0x1e03, 'b'), (0x1e04, 0x1e04, 'B'), (0x1e05, 0x1e05, 'b'), (0x1e06, 0x1e06, 'B'),
  (0x1e07, 0x1e07, 'b'), (0x1e08, 0x1e08, 'C'), (0x1e09, 0x1e09, 'c'), (0x1e0a, 0x1e0a, 'D'), (0x1e0b, 0x1e0b, 'd'),
  (0x1e0c, 0x1e0c, 'D'), (0x1e0d, 0x1e0d, 'd'), (0x1e0e, 0x1e0e, 'D'), (0x1e0f, 0x1e0f, 'd'), (0x1e10, 0x1e10, 'D'),
  (0x1e11, 0x1e11, 'd'), (0x1e12, 0x1e12, 'D'), (0x1e13, 0x1e13, 'd'), (0x1e14, 0x1e14, 'E'), (0x1e15, 0x1e15, 'e'),
  (0x1e16, 0x1e16, 'E'), (0x1e17, 0x1e17, 'e'), (0x1e18, 0x1e18, 'E'), (0x1e19, 0x1e19, 'e'), (0x1e1a, 0x1e1a, 'E'),
  (0x1e1b, 0x1e1b, 'e'), (0x1e1c, 0x1e1c, 'E'), (0x1e1d, 0x1e1d, 'e'), (0x1e1e, 0x1e1e, 'F'), (0x1e1f, 0x1e1f, 'f'),
  (0x1e20, 0x1e20, 'G'), (0x1e21, 0x1e21, 'g'), (0x1e22, 0x1e22, 'H'), (0x1e23, 0x1e23, 'h'), (0x1e24, 0x1e24, 'H'),
  (0x1e25, 0x1e25, 'h'), (0x1e26, 0x1e26, 'H'), (0x1e27, 0x1e27, 'h'), (0x1e28, 0x1e28, 'H'), (0x1e29, 0x1e29, 'h'),
  (0x1e2a, 0x1e2a, 'H'), (0x1e2b, 0x1e2b, 'h'), (0x1e2c, 0x1e2c, 'I'), (0x1e2d, 0x1e2d, 'i'), (0x1e2e, 0x1e2e, 'I'),
  (0x1e2f, 0x1e2f, 'i'), (0x1e30, 0x1e30, 'K'), (0x1e31, 0x1e31, 'k'), (0x1e32, 0x1e32, 'K'), (0x1e33, 0x1e33, 'k'),
  (0x1e34, 0x1e34, 'K'), (0x1e35, 0x1e35, 'k'), (0x1e36, 0x1e36, 'L'), (0x1e37, 0x1e37, 'l'), (0x1e38, 0x1e38, 'L'),
  (0x1e39, 0x1e39, 'l'), (0x1e3a, 0x1e3a, 'L'), (0x1e3b, 0x1e3b, 'l'), (0x1e3c, 0x1e3c, 'L'), (0x1e3d, 0x1e3d, 'l'),
  (0x1e3e, 0x1e3e, 'M'), (0x1e3f, 0x1e3f, 'm'), (0x1e40, 0x1e40, 'M'), (0x1e41, 0x1e41, 'm'), (0x1e42, 0x1e42, 'M'),
  (0x1e43, 0x1e43, 'm'), (0x1e44, 0x1e44, 'N'), (0x1e45, 0x1e45, 'n'), (0x1e46, 0x1e46, 'N'), (0x1e47, 0x1e47, 'n'),
  (0x1e48, 0x1e48, 'N'), (0x1e49, 0x1e49, 'n'), (0x1e4a, 0x1e4a, 'N'), (0x1e4b, 0x1e4b, 'n'), (0x1e4c, 0x1e4c, 'O'),
  (0x1e4d, 0x1e4d, 'o'), (0x1e4e, 0x1e4e, 'O'), (0x1e4f, 0x1e4f, 'o'), (0x1e50, 0x1e50, 'O'), (0x1e51, 0x1e51, 'o'),
  (0x1e52, 0x1e52, 'O'), (0x1e53, 0x1e53, 'o'), (0x1e54, 0x1e54, 'P'), (0x1e55, 0x1e55, 'p'), (0x1e56, 0x1e56, 'P'),
  (0x1e57, 0x1e57, 'p'), (0x1e58, 0x1e58, 'R'), (0x1e59, 0x1e59, 'r'), (0x1e5a, 0x1e5a, 'R'), (0x1e5b, 0x1e5b, 'r'),
  (0x1e5c, 0x1e5c, 'R'), (0x1e5d, 0x1e5d, 'r'), (0x1e5e, 0x1e5e, 'R'), (0x1e5f, 0x1e5f, 'r'), (0x1e60, 0x1e60, 'S'),
  (0x1e61, 0x1e61, 's'), (0x1e62, 0x1e62, 'S'), (0x1e63, 0x1e63, 's'), (0x1e64, 0x1e64, 'S'), (0x1e65, 0x1e65, 's'),
  (0x1e66, 0x1e66, 'S'), (0x1e67, 0x1e67, 's'), (0x1e68, 0x1e68, 'S'), (0x1e69, 0x1e69, 's'), (0x1e6a, 0x1e6a, 'T'),
  (0x1e6b, 0x1e6b, 't'), (0x1e6c, 0x1e6c, 'T'), (0x1e6d, 0x1e6d, 't'), (0x1e6e, 0x1e6e, 'T'), (0x1e6f, 0x1e6f, 't'),
  (0x1e70, 0x1e70, 'T'), (0x1e71, 0x1e71, 't'), (0x1e72, 0x1e72, 'U'), (0x1e73, 0x1e73, 'u'), (0x1e74, 0x1e74, 'U'),
  (0x1e75, 0x1e75, 'u'), (0x1e76, 0x1e76, 'U'), (0x1e77, 0x1e77, 'u'), (0x1e78, 0x1e78, 'U'), (0x1e79, 0x1e79, 'u'),
  (0x1e7a, 0x1e7a, 'U'), (0x1e7b, 0x1e7b, 'u'), (0x1e7c, 0x1e7c, 'V'), (0x1e7d, 0x1e7d, 'v'), (0x1e7e, 0x1e7e, 'V'),
  (0x1e7f, 0x1e7f, 'v'), (0x1e80, 0x1e80, 'W'), (0x1e81, 0x1e81, 'w'), (0x1e82, 0x1e82, 'W'), (0x1e83, 0x1e83, 'w'),
  (0x1e84, 0x1e84, 'W'), (0x1e85, 0x1e85, 'w'), (0x1e86, 0x1e86, 'W'), (0x1e87, 0x1e87, 'w'), (0x1e88, 0x1e88, 'W'),
  (0x1e89, 0x1e89, 'w'), (0x1e8a, 0x1e8a, 'X'), (0x1e8b, 0x1e8b, 'x'), (0x1e8c, 0x1e8c, 'X'), (0x1e8d, 0x1e8d, 'x'),
  (0x1e8e, 0x1e8e, 'Y'), (0x1e8f, 0x1e8f, 'y'), (0x1e90, 0x1e90, 'Z'), (0x1e91, 0x1e91, 'z'), (0x1e92, 0x1e92, 'Z'),
  (0x1e93, 0x1e93, 'z'), (0x1e94, 0x1e94, 'Z'), (0x1e95, 0x1e95, 'z'), (0x1e96, 0x1e96, 'h'), (0x1e97, 0x1e97, 't'),
  (0x1e98, 0x1e98, 'w'), (0x1e99, 0x1e99, 'y'), (0x1ea0, 0x1ea0, 'A'), (0x1ea1, 0x1ea1, 'a'), (0x1ea2, 0x1ea2, 'A'),
  (0x1ea3, 0x1ea3, 'a'), (0x1ea4, 0x1ea4, 'A'), (0x1ea5, 0x1ea5, 'a'), (0x1ea6, 0x1ea6, 'A'), (0x1ea7, 0x1ea7, 'a'),
  (0x1ea8, 0x1ea8, 'A'), (0x1ea9, 0x1ea9, 'a'), (0x1eaa, 0x1eaa, 'A'), (0x1eab, 0x1eab, 'a'), (0x1eac, 0x1eac, 'A'),
  (0x1ead, 0x1ead, 'a'), (0x1eae, 0x1eae, 'A'), (0x1eaf, 0x1eaf, 'a'), (0x1eb0, 0x1eb0, 'A'), (0x1eb1, 0x1eb1, 'a'),
  (0x1eb2, 0x1eb2, 'A'), (0x1eb3, 0x1eb3, 'a'), (0x1eb4, 0x1eb4, 'A'), (0x1eb5, 0x1eb5, 'a'), (0x1eb6, 0x1eb6, 'A'),
  (0x1eb7, 0x1eb7, 'a'), (0x1eb8, 0x1eb8, 'E'), (0x1eb9, 0x1eb9, 'e'), (0x1eba, 0x1eba, 'E'), (0x1ebb, 0x1ebb, 'e'),
  (0x1ebc, 0x1ebc, 'E'), (0x1ebd, 0x1ebd, 'e'), (0x1ebe, 0x1ebe, 'E'), (0x1ebf, 0x1ebf, 'e'), (0x1ec0, 0x1ec0, 'E'),
  (0x1ec1, 0x1ec1, 'e'), (0x1ec2, 0x1ec2, 'E'), (0x1ec3, 0x1ec3, 'e'), (0x1ec4, 0x1ec4, 'E'), (0x1ec5, 0x1ec5, 'e'),
  (0x1ec6, 0x1ec6, 'E'), (0x1ec7, 0x1ec7, 'e'), (0x1ec8, 0x1ec8, 'I'), (0x1ec9, 0x1ec9, 'i'), (0x1eca, 0x1eca, 'I'),
  (0x1ecb, 0x1ecb, 'i'), (0x1ecc, 0x1ecc, 'O'), (0x1ecd, 0x1ecd, 'o'), (0x1ece, 0x1ece, 'O'), (0x1ecf, 0x1ecf, 'o'),
  (0x1ed0, 0x1ed0, 'O'), (0x1ed1, 0x1ed1, 'o'), (0x1ed2, 0x1ed2, 'O'), (0x1ed3, 0x1ed3, 'o'), (0x1ed4, 0x1ed4, 'O'),
  (0x1ed5, 0x1ed5, 'o'), (0x1ed6, 0x1ed6, 'O'), (0x1ed7, 0x1ed7, 'o'), (0x1ed8, 0x1ed8, 'O'), (0x1ed9, 0x1ed9, 'o'),
  (0x1eda, 0x1eda, 'O'), (0x1edb, 0x1edb, 'o'), (0x1edc, 0x1edc, 'O'), (0x1edd, 0x1edd, 'o'), (0x1ede, 0x1ede, 'O'),
  (0x1edf, 0x1edf, 'o'), (0x1ee0, 0x1ee0, 'O'), (0x1ee1, 0x1ee1, 'o'), (0x1ee2, 0x1ee2, 'O'), (0x1ee3, 0x1ee3, 'o'),
  (0x1ee4, 0x1ee4, 'U'), (0x1ee5, 0x1ee5, 'u'), (0x1ee6, 0x1ee6, 'U'), (0x1ee7, 0x1ee7, 'u'), (0x1ee8, 0x1ee8, 'U'),
  (0x1ee9, 0x1ee9, 'u'), (0x1eea, 0x1eea, 'U'), (0x1eeb, 0x1eeb, 'u'), (0x1eec, 0x1eec, 'U'), (0x1eed, 0x1eed, 'u'),
  (0x1eee, 0x1eee, 'U'), (0x1eef, 0x1eef, 'u'), (0x1ef0, 0x1ef0, 'U'), (0x1ef1, 0x1ef1, 'u'), (0x1ef2, 0x1ef2, 'Y'),
  (0x1ef3, 0x1ef3, 'y'), (0x1ef4, 0x1ef4, 'Y'), (0x1ef5, 0x1ef5, 'y'), (0x1ef6, 0x1ef6, 'Y'), (0x1ef7, 0x1ef7, 'y'),
  (0x1ef8, 0x1ef8, 'Y'), (0x1ef9, 0x1ef9, 'y'), (0x212a, 0x212a, 'K'), (0x212b, 0x212b, 'A')]

end RowGate.Text

namespace Char

def isNonspacingMark (c : Char) : Bool := RowGate.Text.markRanges.contains c.toNat

/-- The characters left of `c` once accents are stripped. -/
def stripAccents (c : Char) : List Char :=
  if c.val < 0x80 then [c]
  else if c.isNonspacingMark then []
  else match RowGate.Text.accentBases.find? fun e => e.1 ≤ c.toNat && c.toNat ≤ e.2.1 with
    | some e => [e.2.2]
    | none => [c]

end Char
