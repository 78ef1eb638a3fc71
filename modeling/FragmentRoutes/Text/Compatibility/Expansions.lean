/-
  Letters that stand for several characters: the full compatibility decompositions of
  Unicode 14 of more than one character, restricted to the characters of identifiers.
  Hangul syllables are decomposed by arithmetic and are not listed.
-/

namespace FragmentRoutes.Text.Compatibility

/-- Part 1 of `expansions`, from 0xc0 to 0x133. -/
def expansions1 : List (Nat × List Nat) := [
  (0xc0, [0x41, 0x300]), (0xc1, [0x41, 0x301]), (0xc2, [0x41, 0x302]), (0xc3, [0x41, 0x303]),
  (0xc4, [0x41, 0x308]), (0xc5, [0x41, 0x30a]), (0xc7, [0x43, 0x327]), (0xc8, [0x45, 0x300]),
  (0xc9, [0x45, 0x301]), (0xca, [0x45, 0x302]), (0xcb, [0x45, 0x308]), (0xcc, [0x49, 0x300]),
  (0xcd, [0x49, 0x301]), (0xce, [0x49, 0x302]), (0xcf, [0x49, 0x308]), (0xd1, [0x4e, 0x303]),
  (0xd2, [0x4f, 0x300]), (0xd3, [0x4f, 0x301]), (0xd4, [0x4f, 0x302]), (0xd5, [0x4f, 0x303]),
  (0xd6, [0x4f, 0x308]), (0xd9, [0x55, 0x300]), (0xda, [0x55, 0x301]), (0xdb, [0x55, 0x302]),
  (0xdc, [0x55, 0x308]), (0xdd, [0x59, 0x301]), (0xe0, [0x61, 0x300]), (0xe1, [0x61, 0x301]),
  (0xe2, [0x61, 0x302]), (0xe3, [0x61, 0x303]), (0xe4, [0x61, 0x308]), (0xe5, [0x61, 0x30a]),
  (0xe7, [0x63, 0x327]), (0xe8, [0x65, 0x300]), (0xe9, [0x65, 0x301]), (0xea, [0x65, 0x302]),
  (0xeb, [0x65, 0x308]), (0xec, [0x69, 0x300]), (0xed, [0x69, 0x301]), (0xee, [0x69, 0x302]),
  (0xef, [0x69, 0x308]), (0xf1, [0x6e, 0x303]), (0xf2, [0x6f, 0x300]), (0xf3, [0x6f, 0x301]),
  (0xf4, [0x6f, 0x302]), (0xf5, [0x6f, 0x303]), (0xf6, [0x6f, 0x308]), (0xf9, [0x75, 0x300]),
  (0xfa, [0x75, 0x301]), (0xfb, [0x75, 0x302]), (0xfc, [0x75, 0x308]), (0xfd, [0x79, 0x301]),
  (0xff, [0x79, 0x308]), (0x100, [0x41, 0x304]), (0x101, [0x61, 0x304]), (0x102, [0x41, 0x306]),
  (0x103, [0x61, 0x306]), (0x104, [0x41, 0x328]), (0x105, [0x61, 0x328]), (0x106, [0x43, 0x301]),
  (0x107, [0x63, 0x301]), (0x108, [0x43, 0x302]), (0x109, [0x63, 0x302]), (0x10a, [0x43, 0x307]),
  (0x10b, [0x63, 0x307]), (0x10c, [0x43, 0x30c]), (0x10d, [0x63, 0x30c]), (0x10e, [0x44, 0x30c]),
  (0x10f, [0x64, 0x30c]), (0x112, [0x45, 0x304]), (0x113, [0x65, 0x304]), (0x114, [0x45, 0x306]),
  (0x115, [0x65, 0x306]), (0x116, [0x45, 0x307]), (0x117, [0x65, 0x307]), (0x118, [0x45, 0x328]),
  (0x119, [0x65, 0x328]), (0x11a, [0x45, 0x30c]), (0x11b, [0x65, 0x30c]), (0x11c, [0x47, 0x302]),
  (0x11d, [0x67, 0x302]), (0x11e, [0x47, 0x306]), (0x11f, [0x67, 0x306]), (0x120, [0x47, 0x307]),
  (0x121, [0x67, 0x307]), (0x122, [0x47, 0x327]), (0x123, [0x67, 0x327]), (0x124, [0x48, 0x302]),
  (0x125, [0x68, 0x302]), (0x128, [0x49, 0x303]), (0x129, [0x69, 0x303]), (0x12a, [0x49, 0x304]),
  (0x12b, [0x69, 0x304]), (0x12c, [0x49, 0x306]), (0x12d, [0x69, 0x306]), (0x12e, [0x49, 0x328]),
  (0x12f, [0x69, 0x328]), (0x130, [0x49, 0x307]), (0x132, [0x49, 0x4a]), (0x133, [0x69, 0x6a])]

/-- Part 2 of `expansions`, from 0x134 to 0x1e2. -/
def expansions2 : List (Nat × List Nat) := [
  (0x134, [0x4a, 0x302]), (0x135, [0x6a, 0x302]), (0x136, [0x4b, 0x327]), (0x137, [0x6b, 0x327]),
  (0x139, [0x4c, 0x301]), (0x13a, [0x6c, 0x301]), (0x13b, [0x4c, 0x327]), (0x13c, [0x6c, 0x327]),
  (0x13d, [0x4c, 0x30c]), (0x13e, [0x6c, 0x30c]), (0x13f, [0x4c, 0xb7]), (0x140, [0x6c, 0xb7]),
  (0x143, [0x4e, 0x301]), (0x144, [0x6e, 0x301]), (0x145, [0x4e, 0x327]), (0x146, [0x6e, 0x327]),
  (0x147, [0x4e, 0x30c]), (0x148, [0x6e, 0x30c]), (0x149, [0x2bc, 0x6e]), (0x14c, [0x4f, 0x304]),
  (0x14d, [0x6f, 0x304]), (0x14e, [0x4f, 0x306]), (0x14f, [0x6f, 0x306]), (0x150, [0x4f, 0x30b]),
  (0x151, [0x6f, 0x30b]), (0x154, [0x52, 0x301]), (0x155, [0x72, 0x301]), (0x156, [0x52, 0x327]),
  (0x157, [0x72, 0x327]), (0x158, [0x52, 0x30c]), (0x159, [0x72, 0x30c]), (0x15a, [0x53, 0x301]),
  (0x15b, [0x73, 0x301]), (0x15c, [0x53, 0x302]), (0x15d, [0x73, 0x302]), (0x15e, [0x53, 0x327]),
  (0x15f, [0x73, 0x327]), (0x160, [0x53, 0x30c]), (0x161, [0x73, 0x30c]), (0x162, [0x54, 0x327]),
  (0x163, [0x74, 0x327]), (0x164, [0x54, 0x30c]), (0x165, [0x74, 0x30c]), (0x168, [0x55, 0x303]),
  (0x169, [0x75, 0x303]), (0x16a, [0x55, 0x304]), (0x16b, [0x75, 0x304]), (0x16c, [0x55, 0x306]),
  (0x16d, [0x75, 0x306]), (0x16e, [0x55, 0x30a]), (0x16f, [0x75, 0x30a]), (0x170, [0x55, 0x30b]),
  (0x171, [0x75, 0x30b]), (0x172, [0x55, 0x328]), (0x173, [0x75, 0x328]), (0x174, [0x57, 0x302]),
  (0x175, [0x77, 0x302]), (0x176, [0x59, 0x302]), (0x177, [0x79, 0x302]), (0x178, [0x59, 0x308]),
  (0x179, [0x5a, 0x301]), (0x17a, [0x7a, 0x301]), (0x17b, [0x5a, 0x307]), (0x17c, [0x7a, 0x307]),
  (0x17d, [0x5a, 0x30c]), (0x17e, [0x7a, 0x30c]), (0x1a0, [0x4f, 0x31b]), (0x1a1, [0x6f, 0x31b]),
  (0x1af, [0x55, 0x31b]), (0x1b0, [0x75, 0x31b]), (0x1c4, [0x44, 0x5a, 0x30c]),
  (0x1c5, [0x44, 0x7a, 0x30c]), (0x1c6, [0x64, 0x7a, 0x30c]), (0x1c7, [0x4c, 0x4a]),
  (0x1c8, [0x4c, 0x6a]), (0x1c9, [0x6c, 0x6a]), (0x1ca, [0x4e, 0x4a]), (0x1cb, [0x4e, 0x6a]),
  (0x1cc, [0x6e, 0x6a]), (0x1cd, [0x41, 0x30c]), (0x1ce, [0x61, 0x30c]), (0x1cf, [0x49, 0x30c]),
  (0x1d0, [0x69, 0x30c]), (0x1d1, [0x4f, 0x30c]), (0x1d2, [0x6f, 0x30c]), (0x1d3, [0x55, 0x30c]),
  (0x1d4, [0x75, 0x30c]), (0x1d5, [0x55, 0x308, 0x304]), (0x1d6, [0x75, 0x308, 0x304]),
  (0x1d7, [0x55, 0x308, 0x301]), (0x1d8, [0x75, 0x308, 0x301]), (0x1d9, [0x55, 0x308, 0x30c]),
  (0x1da, [0x75, 0x308, 0x30c]), (0x1db, [0x55, 0x308, 0x300]), (0x1dc, [0x75, 0x308, 0x300]),
  (0x1de, [0x41, 0x308, 0x304]), (0x1df, [0x61, 0x308, 0x304]), (0x1e0, [0x41, 0x307, 0x304]),
  (0x1e1, [0x61, 0x307, 0x304]), (0x1e2, [0xc6, 0x304])]

/-- Part 3 of `expansions`, from 0x1e3 to 0x419. -/
def expansions3 : List (Nat × List Nat) := [
  (0x1e3, [0xe6, 0x304]), (0x1e6, [0x47, 0x30c]), (0x1e7, [0x67, 0x30c]), (0x1e8, [0x4b, 0x30c]),
  (0x1e9, [0x6b, 0x30c]), (0x1ea, [0x4f, 0x328]), (0x1eb, [0x6f, 0x328]),
  (0x1ec, [0x4f, 0x328, 0x304]), (0x1ed, [0x6f, 0x328, 0x304]), (0x1ee, [0x1b7, 0x30c]),
  (0x1ef, [0x292, 0x30c]), (0x1f0, [0x6a, 0x30c]), (0x1f1, [0x44, 0x5a]), (0x1f2, [0x44, 0x7a]),
  (0x1f3, [0x64, 0x7a]), (0x1f4, [0x47, 0x301]), (0x1f5, [0x67, 0x301]), (0x1f8, [0x4e, 0x300]),
  (0x1f9, [0x6e, 0x300]), (0x1fa, [0x41, 0x30a, 0x301]), (0x1fb, [0x61, 0x30a, 0x301]),
  (0x1fc, [0xc6, 0x301]), (0x1fd, [0xe6, 0x301]), (0x1fe, [0xd8, 0x301]), (0x1ff, [0xf8, 0x301]),
  (0x200, [0x41, 0x30f]), (0x201, [0x61, 0x30f]), (0x202, [0x41, 0x311]), (0x203, [0x61, 0x311]),
  (0x204, [0x45, 0x30f]), (0x205, [0x65, 0x30f]), (0x206, [0x45, 0x311]), (0x207, [0x65, 0x311]),
  (0x208, [0x49, 0x30f]), (0x209, [0x69, 0x30f]), (0x20a, [0x49, 0x311]), (0x20b, [0x69, 0x311]),
  (0x20c, [0x4f, 0x30f]), (0x20d, [0x6f, 0x30f]), (0x20e, [0x4f, 0x311]), (0x20f, [0x6f, 0x311]),
  (0x210, [0x52, 0x30f]), (0x211, [0x72, 0x30f]), (0x212, [0x52, 0x311]), (0x213, [0x72, 0x311]),
  (0x214, [0x55, 0x30f]), (0x215, [0x75, 0x30f]), (0x216, [0x55, 0x311]), (0x217, [0x75, 0x311]),
  (0x218, [0x53, 0x326]), (0x219, [0x73, 0x326]), (0x21a, [0x54, 0x326]), (0x21b, [0x74, 0x326]),
  (0x21e, [0x48, 0x30c]), (0x21f, [0x68, 0x30c]), (0x226, [0x41, 0x307]), (0x227, [0x61, 0x307]),
  (0x228, [0x45, 0x327]), (0x229, [0x65, 0x327]), (0x22a, [0x4f, 0x308, 0x304]),
  (0x22b, [0x6f, 0x308, 0x304]), (0x22c, [0x4f, 0x303, 0x304]), (0x22d, [0x6f, 0x303, 0x304]),
  (0x22e, [0x4f, 0x307]), (0x22f, [0x6f, 0x307]), (0x230, [0x4f, 0x307, 0x304]),
  (0x231, [0x6f, 0x307, 0x304]), (0x232, [0x59, 0x304]), (0x233, [0x79, 0x304]),
  (0x344, [0x308, 0x301]), (0x386, [0x391, 0x301]), (0x388, [0x395, 0x301]),
  (0x389, [0x397, 0x301]), (0x38a, [0x399, 0x301]), (0x38c, [0x39f, 0x301]),
  (0x38e, [0x3a5, 0x301]), (0x38f, [0x3a9, 0x301]), (0x390, [0x3b9, 0x308, 0x301]),
  (0x3aa, [0x399, 0x308]), (0x3ab, [0x3a5, 0x308]), (0x3ac, [0x3b1, 0x301]),
  (0x3ad, [0x3b5, 0x301]), (0x3ae, [0x3b7, 0x301]), (0x3af, [0x3b9, 0x301]),
  (0x3b0, [0x3c5, 0x308, 0x301]), (0x3ca, [0x3b9, 0x308]), (0x3cb, [0x3c5, 0x308]),
  (0x3cc, [0x3bf, 0x301]), (0x3cd, [0x3c5, 0x301]), (0x3ce, [0x3c9, 0x301]),
  (0x3d3, [0x3a5, 0x301]), (0x3d4, [0x3a5, 0x308]), (0x400, [0x415, 0x300]),
  (0x401, [0x415, 0x308]), (0x403, [0x413, 0x301]), (0x407, [0x406, 0x308]),
  (0x40c, [0x41a, 0x301]), (0x40d, [0x418, 0x300]), (0x40e, [0x423, 0x306]),
  (0x419, [0x418, 0x306])]

/-- Part 4 of `expansions`, from 0x439 to 0xddd. -/
def expansions4 : List (Nat × List Nat) := [
  (0x439, [0x438, 0x306]), (0x450, [0x435, 0x300]), (0x451, [0x435, 0x308]),
  (0x453, [0x433, 0x301]), (0x457, [0x456, 0x308]), (0x45c, [0x43a, 0x301]),
  (0x45d, [0x438, 0x300]), (0x45e, [0x443, 0x306]), (0x476, [0x474, 0x30f]),
  (0x477, [0x475, 0x30f]), (0x4c1, [0x416, 0x306]), (0x4c2, [0x436, 0x306]),
  (0x4d0, [0x410, 0x306]), (0x4d1, [0x430, 0x306]), (0x4d2, [0x410, 0x308]),
  (0x4d3, [0x430, 0x308]), (0x4d6, [0x415, 0x306]), (0x4d7, [0x435, 0x306]),
  (0x4da, [0x4d8, 0x308]), (0x4db, [0x4d9, 0x308]), (0x4dc, [0x416, 0x308]),
  (0x4dd, [0x436, 0x308]), (0x4de, [0x417, 0x308]), (0x4df, [0x437, 0x308]),
  (0x4e2, [0x418, 0x304]), (0x4e3, [0x438, 0x304]), (0x4e4, [0x418, 0x308]),
  (0x4e5, [0x438, 0x308]), (0x4e6, [0x41e, 0x308]), (0x4e7, [0x43e, 0x308]),
  (0x4ea, [0x4e8, 0x308]), (0x4eb, [0x4e9, 0x308]), (0x4ec, [0x42d, 0x308]),
  (0x4ed, [0x44d, 0x308]), (0x4ee, [0x423, 0x304]), (0x4ef, [0x443, 0x304]),
  (0x4f0, [0x423, 0x308]), (0x4f1, [0x443, 0x308]), (0x4f2, [0x423, 0x30b]),
  (0x4f3, [0x443, 0x30b]), (0x4f4, [0x427, 0x308]), (0x4f5, [0x447, 0x308]),
  (0x4f8, [0x42b, 0x308]), (0x4f9, [0x44b, 0x308]), (0x587, [0x565, 0x582]),
  (0x622, [0x627, 0x653]), (0x623, [0x627, 0x654]), (0x624, [0x648, 0x654]),
  (0x625, [0x627, 0x655]), (0x626, [0x64a, 0x654]), (0x675, [0x627, 0x674]),
  (0x676, [0x648, 0x674]), (0x677, [0x6c7, 0x674]), (0x678, [0x64a, 0x674]),
  (0x6c0, [0x6d5, 0x654]), (0x6c2, [0x6c1, 0x654]), (0x6d3, [0x6d2, 0x654]),
  (0x929, [0x928, 0x93c]), (0x931, [0x930, 0x93c]), (0x934, [0x933, 0x93c]),
  (0x958, [0x915, 0x93c]), (0x959, [0x916, 0x93c]), (0x95a, [0x917, 0x93c]),
  (0x95b, [0x91c, 0x93c]), (0x95c, [0x921, 0x93c]), (0x95d, [0x922, 0x93c]),
  (0x95e, [0x92b, 0x93c]), (0x95f, [0x92f, 0x93c]), (0x9cb, [0x9c7, 0x9be]),
  (0x9cc, [0x9c7, 0x9d7]), (0x9dc, [0x9a1, 0x9bc]), (0x9dd, [0x9a2, 0x9bc]),
  (0x9df, [0x9af, 0x9bc]), (0xa33, [0xa32, 0xa3c]), (0xa36, [0xa38, 0xa3c]),
  (0xa59, [0xa16, 0xa3c]), (0xa5a, [0xa17, 0xa3c]), (0xa5b, [0xa1c, 0xa3c]),
  (0xa5e, [0xa2b, 0xa3c]), (0xb48, [0xb47, 0xb56]), (0xb4b, [0xb47, 0xb3e]),
  (0xb4c, [0xb47, 0xb57]), (0xb5c, [0xb21, 0xb3c]), (0xb5d, [0xb22, 0xb3c]),
  (0xb94, [0xb92, 0xbd7]), (0xbca, [0xbc6, 0xbbe]), (0xbcb, [0xbc7, 0xbbe]),
  (0xbcc, [0xbc6, 0xbd7]), (0xc48, [0xc46, 0xc56]), (0xcc0, [0xcbf, 0xcd5]),
  (0xcc7, [0xcc6, 0xcd5]), (0xcc8, [0xcc6, 0xcd6]), (0xcca, [0xcc6, 0xcc2]),
  (0xccb, [0xcc6, 0xcc2, 0xcd5]), (0xd4a, [0xd46, 0xd3e]), (0xd4b, [0xd47, 0xd3e]),
  (0xd4c, [0xd46, 0xd57]), (0xdda, [0xdd9, 0xdca]), (0xddc, [0xdd9, 0xdcf]),
  (0xddd, [0xdd9, 0xdcf, 0xdca])]

/-- Part 5 of `expansions`, from 0xdde to 0x1e3f. -/
def expansions5 : List (Nat × List Nat) := [
  (0xdde, [0xdd9, 0xddf]), (0xe33, [0xe4d, 0xe32]), (0xeb3, [0xecd, 0xeb2]),
  (0xedc, [0xeab, 0xe99]), (0xedd, [0xeab, 0xea1]), (0xf43, [0xf42, 0xfb7]),
  (0xf4d, [0xf4c, 0xfb7]), (0xf52, [0xf51, 0xfb7]), (0xf57, [0xf56, 0xfb7]),
  (0xf5c, [0xf5b, 0xfb7]), (0xf69, [0xf40, 0xfb5]), (0xf73, [0xf71, 0xf72]),
  (0xf75, [0xf71, 0xf74]), (0xf76, [0xfb2, 0xf80]), (0xf77, [0xfb2, 0xf71, 0xf80]),
  (0xf78, [0xfb3, 0xf80]), (0xf79, [0xfb3, 0xf71, 0xf80]), (0xf81, [0xf71, 0xf80]),
  (0xf93, [0xf92, 0xfb7]), (0xf9d, [0xf9c, 0xfb7]), (0xfa2, [0xfa1, 0xfb7]),
  (0xfa7, [0xfa6, 0xfb7]), (0xfac, [0xfab, 0xfb7]), (0xfb9, [0xf90, 0xfb5]),
  (0x1026, [0x1025, 0x102e]), (0x1b06, [0x1b05, 0x1b35]), (0x1b08, [0x1b07, 0x1b35]),
  (0x1b0a, [0x1b09, 0x1b35]), (0x1b0c, [0x1b0b, 0x1b35]), (0x1b0e, [0x1b0d, 0x1b35]),
  (0x1b12, [0x1b11, 0x1b35]), (0x1b3b, [0x1b3a, 0x1b35]), (0x1b3d, [0x1b3c, 0x1b35]),
  (0x1b40, [0x1b3e, 0x1b35]), (0x1b41, [0x1b3f, 0x1b35]), (0x1b43, [0x1b42, 0x1b35]),
  (0x1e00, [0x41, 0x325]), (0x1e01, [0x61, 0x325]), (0x1e02, [0x42, 0x307]),
  (0x1e03, [0x62, 0x307]), (0x1e04, [0x42, 0x323]), (0x1e05, [0x62, 0x323]),
  (0x1e06, [0x42, 0x331]), (0x1e07, [0x62, 0x331]), (0x1e08, [0x43, 0x327, 0x301]),
  (0x1e09, [0x63, 0x327, 0x301]), (0x1e0a, [0x44, 0x307]), (0x1e0b, [0x64, 0x307]),
  (0x1e0c, [0x44, 0x323]), (0x1e0d, [0x64, 0x323]), (0x1e0e, [0x44, 0x331]),
  (0x1e0f, [0x64, 0x331]), (0x1e10, [0x44, 0x327]), (0x1e11, [0x64, 0x327]),
  (0x1e12, [0x44, 0x32d]), (0x1e13, [0x64, 0x32d]), (0x1e14, [0x45, 0x304, 0x300]),
  (0x1e15, [0x65, 0x304, 0x300]), (0x1e16, [0x45, 0x304, 0x301]), (0x1e17, [0x65, 0x304, 0x301]),
  (0x1e18, [0x45, 0x32d]), (0x1e19, [0x65, 0x32d]), (0x1e1a, [0x45, 0x330]),
  (0x1e1b, [0x65, 0x330]), (0x1e1c, [0x45, 0x327, 0x306]), (0x1e1d, [0x65, 0x327, 0x306]),
  (0x1e1e, [0x46, 0x307]), (0x1e1f, [0x66, 0x307]), (0x1e20, [0x47, 0x304]),
  (0x1e21, [0x67, 0x304]), (0x1e22, [0x48, 0x307]), (0x1e23, [0x68, 0x307]),
  (0x1e24, [0x48, 0x323]), (0x1e25, [0x68, 0x323]), (0x1e26, [0x48, 0x308]),
  (0x1e27, [0x68, 0x308]), (0x1e28, [0x48, 0x327]), (0x1e29, [0x68, 0x327]),
  (0x1e2a, [0x48, 0x32e]), (0x1e2b, [0x68, 0x32e]), (0x1e2c, [0x49, 0x330]),
  (0x1e2d, [0x69, 0x330]), (0x1e2e, [0x49, 0x308, 0x301]), (0x1e2f, [0x69, 0x308, 0x301]),
  (0x1e30, [0x4b, 0x301]), (0x1e31, [0x6b, 0x301]), (0x1e32, [0x4b, 0x323]),
  (0x1e33, [0x6b, 0x323]), (0x1e34, [0x4b, 0x331]), (0x1e35, [0x6b, 0x331]),
  (0x1e36, [0x4c, 0x323]), (0x1e37, [0x6c, 0x323]), (0x1e38, [0x4c, 0x323, 0x304]),
  (0x1e39, [0x6c, 0x323, 0x304]), (0x1e3a, [0x4c, 0x331]), (0x1e3b, [0x6c, 0x331]),
  (0x1e3c, [0x4c, 0x32d]), (0x1e3d, [0x6c, 0x32d]), (0x1e3e, [0x4d, 0x301]),
  (0x1e3f, [0x6d, 0x301])]

/-- Part 6 of `expansions`, from 0x1e40 to 0x1ea7. -/
def expansions6 : List (Nat × List Nat) := [
  (0x1e40, [0x4d, 0x307]), (0x1e41, [0x6d, 0x307]), (0x1e42, [0x4d, 0x323]),
  (0x1e43, [0x6d, 0x323]), (0x1e44, [0x4e, 0x307]), (0x1e45, [0x6e, 0x307]),
  (0x1e46, [0x4e, 0x323]), (0x1e47, [0x6e, 0x323]), (0x1e48, [0x4e, 0x331]),
  (0x1e49, [0x6e, 0x331]), (0x1e4a, [0x4e, 0x32d]), (0x1e4b, [0x6e, 0x32d]),
  (0x1e4c, [0x4f, 0x303, 0x301]), (0x1e4d, [0x6f, 0x303, 0x301]), (0x1e4e, [0x4f, 0x303, 0x308]),
  (0x1e4f, [0x6f, 0x303, 0x308]), (0x1e50, [0x4f, 0x304, 0x300]), (0x1e51, [0x6f, 0x304, 0x300]),
  (0x1e52, [0x4f, 0x304, 0x301]), (0x1e53, [0x6f, 0x304, 0x301]), (0x1e54, [0x50, 0x301]),
  (0x1e55, [0x70, 0x301]), (0x1e56, [0x50, 0x307]), (0x1e57, [0x70, 0x307]),
  (0x1e58, [0x52, 0x307]), (0x1e59, [0x72, 0x307]), (0x1e5a, [0x52, 0x323]),
  (0x1e5b, [0x72, 0x323]), (0x1e5c, [0x52, 0x323, 0x304]), (0x1e5d, [0x72, 0x323, 0x304]),
  (0x1e5e, [0x52, 0x331]), (0x1e5f, [0x72, 0x331]), (0x1e60, [0x53, 0x307]),
  (0x1e61, [0x73, 0x307]), (0x1e62, [0x53, 0x323]), (0x1e63, [0x73, 0x323]),
  (0x1e64, [0x53, 0x301, 0x307]), (0x1e65, [0x73, 0x301, 0x307]), (0x1e66, [0x53, 0x30c, 0x307]),
  (0x1e67, [0x73, 0x30c, 0x307]), (0x1e68, [0x53, 0x323, 0x307]), (0x1e69, [0x73, 0x323, 0x307]),
  (0x1e6a, [0x54, 0x307]), (0x1e6b, [0x74, 0x307]), (0x1e6c, [0x54, 0x323]),
  (0x1e6d, [0x74, 0x323]), (0x1e6e, [0x54, 0x331]), (0x1e6f, [0x74, 0x331]),
  (0x1e70, [0x54, 0x32d]), (0x1e71, [0x74, 0x32d]), (0x1e72, [0x55, 0x324]),
  (0x1e73, [0x75, 0x324]), (0x1e74, [0x55, 0x330]), (0x1e75, [0x75, 0x330]),
  (0x1e76, [0x55, 0x32d]), (0x1e77, [0x75, 0x32d]), (0x1e78, [0x55, 0x303, 0x301]),
  (0x1e79, [0x75, 0x303, 0x301]), (0x1e7a, [0x55, 0x304, 0x308]), (0x1e7b, [0x75, 0x304, 0x308]),
  (0x1e7c, [0x56, 0x303]), (0x1e7d, [0x76, 0x303]), (0x1e7e, [0x56, 0x323]),
  (0x1e7f, [0x76, 0x323]), (0x1e80, [0x57, 0x300]), (0x1e81, [0x77, 0x300]),
  (0x1e82, [0x57, 0x301]), (0x1e83, [0x77, 0x301]), (0x1e84, [0x57, 0x308]),
  (0x1e85, [0x77, 0x308]), (0x1e86, [0x57, 0x307]), (0x1e87, [0x77, 0x307]),
  (0x1e88, [0x57, 0x323]), (0x1e89, [0x77, 0x323]), (0x1e8a, [0x58, 0x307]),
  (0x1e8b, [0x78, 0x307]), (0x1e8c, [0x58, 0x308]), (0x1e8d, [0x78, 0x308]),
  (0x1e8e, [0x59, 0x307]), (0x1e8f, [0x79, 0x307]), (0x1e90, [0x5a, 0x302]),
  (0x1e91, [0x7a, 0x302]), (0x1e92, [0x5a, 0x323]), (0x1e93, [0x7a, 0x323]),
  (0x1e94, [0x5a, 0x331]), (0x1e95, [0x7a, 0x331]), (0x1e96, [0x68, 0x331]),
  (0x1e97, [0x74, 0x308]), (0x1e98, [0x77, 0x30a]), (0x1e99, [0x79, 0x30a]),
  (0x1e9a, [0x61, 0x2be]), (0x1e9b, [0x73, 0x307]), (0x1ea0, [0x41, 0x323]),
  (0x1ea1, [0x61, 0x323]), (0x1ea2, [0x41, 0x309]), (0x1ea3, [0x61, 0x309]),
  (0x1ea4, [0x41, 0x302, 0x301]), (0x1ea5, [0x61, 0x302, 0x301]), (0x1ea6, [0x41, 0x302, 0x300]),
  (0x1ea7, [0x61, 0x302, 0x300])]

/-- Part 7 of `expansions`, from 0x1ea8 to 0x1f11. -/
def expansions7 : List (Nat × List Nat) := [
  (0x1ea8, [0x41, 0x302, 0x309]), (0x1ea9, [0x61, 0x302, 0x309]), (0x1eaa, [0x41, 0x302, 0x303]),
  (0x1eab, [0x61, 0x302, 0x303]), (0x1eac, [0x41, 0x323, 0x302]), (0x1ead, [0x61, 0x323, 0x302]),
  (0x1eae, [0x41, 0x306, 0x301]), (0x1eaf, [0x61, 0x306, 0x301]), (0x1eb0, [0x41, 0x306, 0x300]),
  (0x1eb1, [0x61, 0x306, 0x300]), (0x1eb2, [0x41, 0x306, 0x309]), (0x1eb3, [0x61, 0x306, 0x309]),
  (0x1eb4, [0x41, 0x306, 0x303]), (0x1eb5, [0x61, 0x306, 0x303]), (0x1eb6, [0x41, 0x323, 0x306]),
  (0x1eb7, [0x61, 0x323, 0x306]), (0x1eb8, [0x45, 0x323]), (0x1eb9, [0x65, 0x323]),
  (0x1eba, [0x45, 0x309]), (0x1ebb, [0x65, 0x309]), (0x1ebc, [0x45, 0x303]),
  (0x1ebd, [0x65, 0x303]), (0x1ebe, [0x45, 0x302, 0x301]), (0x1ebf, [0x65, 0x302, 0x301]),
  (0x1ec0, [0x45, 0x302, 0x300]), (0x1ec1, [0x65, 0x302, 0x300]), (0x1ec2, [0x45, 0x302, 0x309]),
  (0x1ec3, [0x65, 0x302, 0x309]), (0x1ec4, [0x45, 0x302, 0x303]), (0x1ec5, [0x65, 0x302, 0x303]),
  (0x1ec6, [0x45, 0x323, 0x302]), (0x1ec7, [0x65, 0x323, 0x302]), (0x1ec8, [0x49, 0x309]),
  (0x1ec9, [0x69, 0x309]), (0x1eca, [0x49, 0x323]), (0x1ecb, [0x69, 0x323]),
  (0x1ecc, [0x4f, 0x323]), (0x1ecd, [0x6f, 0x323]), (0x1ece, [0x4f, 0x309]),
  (0x1ecf, [0x6f, 0x309]), (0x1ed0, [0x4f, 0x302, 0x301]), (0x1ed1, [0x6f, 0x302, 0x301]),
  (0x1ed2, [0x4f, 0x302, 0x300]), (0x1ed3, [0x6f, 0x302, 0x300]), (0x1ed4, [0x4f, 0x302, 0x309]),
  (0x1ed5, [0x6f, 0x302, 0x309]), (0x1ed6, [0x4f, 0x302, 0x303]), (0x1ed7, [0x6f, 0x302, 0x303]),
  (0x1ed8, [0x4f, 0x323, 0x302]), (0x1ed9, [0x6f, 0x323, 0x302]), (0x1eda, [0x4f, 0x31b, 0x301]),
  (0x1edb, [0x6f, 0x31b, 0x301]), (0x1edc, [0x4f, 0x31b, 0x300]), (0x1edd, [0x6f, 0x31b, 0x300]),
  (0x1ede, [0x4f, 0x31b, 0x309]), (0x1edf, [0x6f, 0x31b, 0x309]), (0x1ee0, [0x4f, 0x31b, 0x303]),
  (0x1ee1, [0x6f, 0x31b, 0x303]), (0x1ee2, [0x4f, 0x31b, 0x323]), (0x1ee3, [0x6f, 0x31b, 0x323]),
  (0x1ee4, [0x55, 0x323]), (0x1ee5, [0x75, 0x323]), (0x1ee6, [0x55, 0x309]),
  (0x1ee7, [0x75, 0x309]), (0x1ee8, [0x55, 0x31b, 0x301]), (0x1ee9, [0x75, 0x31b, 0x301]),
  (0x1eea, [0x55, 0x31b, 0x300]), (0x1eeb, [0x75, 0x31b, 0x300]), (0x1eec, [0x55, 0x31b, 0x309]),
  (0x1eed, [0x75, 0x31b, 0x309]), (0x1eee, [0x55, 0x31b, 0x303]), (0x1eef, [0x75, 0x31b, 0x303]),
  (0x1ef0, [0x55, 0x31b, 0x323]), (0x1ef1, [0x75, 0x31b, 0x323]), (0x1ef2, [0x59, 0x300]),
  (0x1ef3, [0x79, 0x300]), (0x1ef4, [0x59, 0x323]), (0x1ef5, [0x79, 0x323]),
  (0x1ef6, [0x59, 0x309]), (0x1ef7, [0x79, 0x309]), (0x1ef8, [0x59, 0x303]),
  (0x1ef9, [0x79, 0x303]), (0x1f00, [0x3b1, 0x313]), (0x1f01, [0x3b1, 0x314]),
  (0x1f02, [0x3b1, 0x313, 0x300]), (0x1f03, [0x3b1, 0x314, 0x300]),
  (0x1f04, [0x3b1, 0x313, 0x301]), (0x1f05, [0x3b1, 0x314, 0x301]),
  (0x1f06, [0x3b1, 0x313, 0x342]), (0x1f07, [0x3b1, 0x314, 0x342]), (0x1f08, [0x391, 0x313]),
  (0x1f09, [0x391, 0x314]), (0x1f0a, [0x391, 0x313, 0x300]), (0x1f0b, [0x391, 0x314, 0x300]),
  (0x1f0c, [0x391, 0x313, 0x301]), (0x1f0d, [0x391, 0x314, 0x301]),
  (0x1f0e, [0x391, 0x313, 0x342]), (0x1f0f, [0x391, 0x314, 0x342]), (0x1f10, [0x3b5, 0x313]),
  (0x1f11, [0x3b5, 0x314])]

/-- Part 8 of `expansions`, from 0x1f12 to 0x1f83. -/
def expansions8 : List (Nat × List Nat) := [
  (0x1f12, [0x3b5, 0x313, 0x300]), (0x1f13, [0x3b5, 0x314, 0x300]),
  (0x1f14, [0x3b5, 0x313, 0x301]), (0x1f15, [0x3b5, 0x314, 0x301]), (0x1f18, [0x395, 0x313]),
  (0x1f19, [0x395, 0x314]), (0x1f1a, [0x395, 0x313, 0x300]), (0x1f1b, [0x395, 0x314, 0x300]),
  (0x1f1c, [0x395, 0x313, 0x301]), (0x1f1d, [0x395, 0x314, 0x301]), (0x1f20, [0x3b7, 0x313]),
  (0x1f21, [0x3b7, 0x314]), (0x1f22, [0x3b7, 0x313, 0x300]), (0x1f23, [0x3b7, 0x314, 0x300]),
  (0x1f24, [0x3b7, 0x313, 0x301]), (0x1f25, [0x3b7, 0x314, 0x301]),
  (0x1f26, [0x3b7, 0x313, 0x342]), (0x1f27, [0x3b7, 0x314, 0x342]), (0x1f28, [0x397, 0x313]),
  (0x1f29, [0x397, 0x314]), (0x1f2a, [0x397, 0x313, 0x300]), (0x1f2b, [0x397, 0x314, 0x300]),
  (0x1f2c, [0x397, 0x313, 0x301]), (0x1f2d, [0x397, 0x314, 0x301]),
  (0x1f2e, [0x397, 0x313, 0x342]), (0x1f2f, [0x397, 0x314, 0x342]), (0x1f30, [0x3b9, 0x313]),
  (0x1f31, [0x3b9, 0x314]), (0x1f32, [0x3b9, 0x313, 0x300]), (0x1f33, [0x3b9, 0x314, 0x300]),
  (0x1f34, [0x3b9, 0x313, 0x301]), (0x1f35, [0x3b9, 0x314, 0x301]),
  (0x1f36, [0x3b9, 0x313, 0x342]), (0x1f37, [0x3b9, 0x314, 0x342]), (0x1f38, [0x399, 0x313]),
  (0x1f39, [0x399, 0x314]), (0x1f3a, [0x399, 0x313, 0x300]), (0x1f3b, [0x399, 0x314, 0x300]),
  (0x1f3c, [0x399, 0x313, 0x301]), (0x1f3d, [0x399, 0x314, 0x301]),
  (0x1f3e, [0x399, 0x313, 0x342]), (0x1f3f, [0x399, 0x314, 0x342]), (0x1f40, [0x3bf, 0x313]),
  (0x1f41, [0x3bf, 0x314]), (0x1f42, [0x3bf, 0x313, 0x300]), (0x1f43, [0x3bf, 0x314, 0x300]),
  (0x1f44, [0x3bf, 0x313, 0x301]), (0x1f45, [0x3bf, 0x314, 0x301]), (0x1f48, [0x39f, 0x313]),
  (0x1f49, [0x39f, 0x314]), (0x1f4a, [0x39f, 0x313, 0x300]), (0x1f4b, [0x39f, 0x314, 0x300]),
  (0x1f4c, [0x39f, 0x313, 0x301]), (0x1f4d, [0x39f, 0x314, 0x301]), (0x1f50, [0x3c5, 0x313]),
  (0x1f51, [0x3c5, 0x314]), (0x1f52, [0x3c5, 0x313, 0x300]), (0x1f53, [0x3c5, 0x314, 0x300]),
  (0x1f54, [0x3c5, 0x313, 0x301]), (0x1f55, [0x3c5, 0x314, 0x301]),
  (0x1f56, [0x3c5, 0x313, 0x342]), (0x1f57, [0x3c5, 0x314, 0x342]), (0x1f59, [0x3a5, 0x314]),
  (0x1f5b, [0x3a5, 0x314, 0x300]), (0x1f5d, [0x3a5, 0x314, 0x301]),
  (0x1f5f, [0x3a5, 0x314, 0x342]), (0x1f60, [0x3c9, 0x313]), (0x1f61, [0x3c9, 0x314]),
  (0x1f62, [0x3c9, 0x313, 0x300]), (0x1f63, [0x3c9, 0x314, 0x300]),
  (0x1f64, [0x3c9, 0x313, 0x301]), (0x1f65, [0x3c9, 0x314, 0x301]),
  (0x1f66, [0x3c9, 0x313, 0x342]), (0x1f67, [0x3c9, 0x314, 0x342]), (0x1f68, [0x3a9, 0x313]),
  (0x1f69, [0x3a9, 0x314]), (0x1f6a, [0x3a9, 0x313, 0x300]), (0x1f6b, [0x3a9, 0x314, 0x300]),
  (0x1f6c, [0x3a9, 0x313, 0x301]), (0x1f6d, [0x3a9, 0x314, 0x301]),
  (0x1f6e, [0x3a9, 0x313, 0x342]), (0x1f6f, [0x3a9, 0x314, 0x342]), (0x1f70, [0x3b1, 0x300]),
  (0x1f71, [0x3b1, 0x301]), (0x1f72, [0x3b5, 0x300]), (0x1f73, [0x3b5, 0x301]),
  (0x1f74, [0x3b7, 0x300]), (0x1f75, [0x3b7, 0x301]), (0x1f76, [0x3b9, 0x300]),
  (0x1f77, [0x3b9, 0x301]), (0x1f78, [0x3bf, 0x300]), (0x1f79, [0x3bf, 0x301]),
  (0x1f7a, [0x3c5, 0x300]), (0x1f7b, [0x3c5, 0x301]), (0x1f7c, [0x3c9, 0x300]),
  (0x1f7d, [0x3c9, 0x301]), (0x1f80, [0x3b1, 0x313, 0x345]), (0x1f81, [0x3b1, 0x314, 0x345]),
  (0x1f82, [0x3b1, 0x313, 0x300, 0x345]), (0x1f83, [0x3b1, 0x314, 0x300, 0x345])]

/-- Part 9 of `expansions`, from 0x1f84 to 0x212b. -/
def expansions9 : List (Nat × List Nat) := [
  (0x1f84, [0x3b1, 0x313, 0x301, 0x345]), (0x1f85, [0x3b1, 0x314, 0x301, 0x345]),
  (0x1f86, [0x3b1, 0x313, 0x342, 0x345]), (0x1f87, [0x3b1, 0x314, 0x342, 0x345]),
  (0x1f88, [0x391, 0x313, 0x345]), (0x1f89, [0x391, 0x314, 0x345]),
  (0x1f8a, [0x391, 0x313, 0x300, 0x345]), (0x1f8b, [0x391, 0x314, 0x300, 0x345]),
  (0x1f8c, [0x391, 0x313, 0x301, 0x345]), (0x1f8d, [0x391, 0x314, 0x301, 0x345]),
  (0x1f8e, [0x391, 0x313, 0x342, 0x345]), (0x1f8f, [0x391, 0x314, 0x342, 0x345]),
  (0x1f90, [0x3b7, 0x313, 0x345]), (0x1f91, [0x3b7, 0x314, 0x345]),
  (0x1f92, [0x3b7, 0x313, 0x300, 0x345]), (0x1f93, [0x3b7, 0x314, 0x300, 0x345]),
  (0x1f94, [0x3b7, 0x313, 0x301, 0x345]), (0x1f95, [0x3b7, 0x314, 0x301, 0x345]),
  (0x1f96, [0x3b7, 0x313, 0x342, 0x345]), (0x1f97, [0x3b7, 0x314, 0x342, 0x345]),
  (0x1f98, [0x397, 0x313, 0x345]), (0x1f99, [0x397, 0x314, 0x345]),
  (0x1f9a, [0x397, 0x313, 0x300, 0x345]), (0x1f9b, [0x397, 0x314, 0x300, 0x345]),
  (0x1f9c, [0x397, 0x313, 0x301, 0x345]), (0x1f9d, [0x397, 0x314, 0x301, 0x345]),
  (0x1f9e, [0x397, 0x313, 0x342, 0x345]), (0x1f9f, [0x397, 0x314, 0x342, 0x345]),
  (0x1fa0, [0x3c9, 0x313, 0x345]), (0x1fa1, [0x3c9, 0x314, 0x345]),
  (0x1fa2, [0x3c9, 0x313, 0x300, 0x345]), (0x1fa3, [0x3c9, 0x314, 0x300, 0x345]),
  (0x1fa4, [0x3c9, 0x313, 0x301, 0x345]), (0x1fa5, [0x3c9, 0x314, 0x301, 0x345]),
  (0x1fa6, [0x3c9, 0x313, 0x342, 0x345]), (0x1fa7, [0x3c9, 0x314, 0x342, 0x345]),
  (0x1fa8, [0x3a9, 0x313, 0x345]), (0x1fa9, [0x3a9, 0x314, 0x345]),
  (0x1faa, [0x3a9, 0x313, 0x300, 0x345]), (0x1fab, [0x3a9, 0x314, 0x300, 0x345]),
  (0x1fac, [0x3a9, 0x313, 0x301, 0x345]), (0x1fad, [0x3a9, 0x314, 0x301, 0x345]),
  (0x1fae, [0x3a9, 0x313, 0x342, 0x345]), (0x1faf, [0x3a9, 0x314, 0x342, 0x345]),
  (0x1fb0, [0x3b1, 0x306]), (0x1fb1, [0x3b1, 0x304]), (0x1fb2, [0x3b1, 0x300, 0x345]),
  (0x1fb3, [0x3b1, 0x345]), (0x1fb4, [0x3b1, 0x301, 0x345]), (0x1fb6, [0x3b1, 0x342]),
  (0x1fb7, [0x3b1, 0x342, 0x345]), (0x1fb8, [0x391, 0x306]), (0x1fb9, [0x391, 0x304]),
  (0x1fba, [0x391, 0x300]), (0x1fbb, [0x391, 0x301]), (0x1fbc, [0x391, 0x345]),
  (0x1fc2, [0x3b7, 0x300, 0x345]), (0x1fc3, [0x3b7, 0x345]), (0x1fc4, [0x3b7, 0x301, 0x345]),
  (0x1fc6, [0x3b7, 0x342]), (0x1fc7, [0x3b7, 0x342, 0x345]), (0x1fc8, [0x395, 0x300]),
  (0x1fc9, [0x395, 0x301]), (0x1fca, [0x397, 0x300]), (0x1fcb, [0x397, 0x301]),
  (0x1fcc, [0x397, 0x345]), (0x1fd0, [0x3b9, 0x306]), (0x1fd1, [0x3b9, 0x304]),
  (0x1fd2, [0x3b9, 0x308, 0x300]), (0x1fd3, [0x3b9, 0x308, 0x301]), (0x1fd6, [0x3b9, 0x342]),
  (0x1fd7, [0x3b9, 0x308, 0x342]), (0x1fd8, [0x399, 0x306]), (0x1fd9, [0x399, 0x304]),
  (0x1fda, [0x399, 0x300]), (0x1fdb, [0x399, 0x301]), (0x1fe0, [0x3c5, 0x306]),
  (0x1fe1, [0x3c5, 0x304]), (0x1fe2, [0x3c5, 0x308, 0x300]), (0x1fe3, [0x3c5, 0x308, 0x301]),
  (0x1fe4, [0x3c1, 0x313]), (0x1fe5, [0x3c1, 0x314]), (0x1fe6, [0x3c5, 0x342]),
  (0x1fe7, [0x3c5, 0x308, 0x342]), (0x1fe8, [0x3a5, 0x306]), (0x1fe9, [0x3a5, 0x304]),
  (0x1fea, [0x3a5, 0x300]), (0x1feb, [0x3a5, 0x301]), (0x1fec, [0x3a1, 0x314]),
  (0x1ff2, [0x3c9, 0x300, 0x345]), (0x1ff3, [0x3c9, 0x345]), (0x1ff4, [0x3c9, 0x301, 0x345]),
  (0x1ff6, [0x3c9, 0x342]), (0x1ff7, [0x3c9, 0x342, 0x345]), (0x1ff8, [0x39f, 0x300]),
  (0x1ff9, [0x39f, 0x301]), (0x1ffa, [0x3a9, 0x300]), (0x1ffb, [0x3a9, 0x301]),
  (0x1ffc, [0x3a9, 0x345]), (0x212b, [0x41, 0x30a])]

/-- Part 10 of `expansions`, from 0x2161 to 0xfb31. -/
def expansions10 : List (Nat × List Nat) := [
  (0x2161, [0x49, 0x49]), (0x2162, [0x49, 0x49, 0x49]), (0x2163, [0x49, 0x56]),
  (0x2165, [0x56, 0x49]), (0x2166, [0x56, 0x49, 0x49]), (0x2167, [0x56, 0x49, 0x49, 0x49]),
  (0x2168, [0x49, 0x58]), (0x216a, [0x58, 0x49]), (0x216b, [0x58, 0x49, 0x49]),
  (0x2171, [0x69, 0x69]), (0x2172, [0x69, 0x69, 0x69]), (0x2173, [0x69, 0x76]),
  (0x2175, [0x76, 0x69]), (0x2176, [0x76, 0x69, 0x69]), (0x2177, [0x76, 0x69, 0x69, 0x69]),
  (0x2178, [0x69, 0x78]), (0x217a, [0x78, 0x69]), (0x217b, [0x78, 0x69, 0x69]),
  (0x304c, [0x304b, 0x3099]), (0x304e, [0x304d, 0x3099]), (0x3050, [0x304f, 0x3099]),
  (0x3052, [0x3051, 0x3099]), (0x3054, [0x3053, 0x3099]), (0x3056, [0x3055, 0x3099]),
  (0x3058, [0x3057, 0x3099]), (0x305a, [0x3059, 0x3099]), (0x305c, [0x305b, 0x3099]),
  (0x305e, [0x305d, 0x3099]), (0x3060, [0x305f, 0x3099]), (0x3062, [0x3061, 0x3099]),
  (0x3065, [0x3064, 0x3099]), (0x3067, [0x3066, 0x3099]), (0x3069, [0x3068, 0x3099]),
  (0x3070, [0x306f, 0x3099]), (0x3071, [0x306f, 0x309a]), (0x3073, [0x3072, 0x3099]),
  (0x3074, [0x3072, 0x309a]), (0x3076, [0x3075, 0x3099]), (0x3077, [0x3075, 0x309a]),
  (0x3079, [0x3078, 0x3099]), (0x307a, [0x3078, 0x309a]), (0x307c, [0x307b, 0x3099]),
  (0x307d, [0x307b, 0x309a]), (0x3094, [0x3046, 0x3099]), (0x309e, [0x309d, 0x3099]),
  (0x309f, [0x3088, 0x308a]), (0x30ac, [0x30ab, 0x3099]), (0x30ae, [0x30ad, 0x3099]),
  (0x30b0, [0x30af, 0x3099]), (0x30b2, [0x30b1, 0x3099]), (0x30b4, [0x30b3, 0x3099]),
  (0x30b6, [0x30b5, 0x3099]), (0x30b8, [0x30b7, 0x3099]), (0x30ba, [0x30b9, 0x3099]),
  (0x30bc, [0x30bb, 0x3099]), (0x30be, [0x30bd, 0x3099]), (0x30c0, [0x30bf, 0x3099]),
  (0x30c2, [0x30c1, 0x3099]), (0x30c5, [0x30c4, 0x3099]), (0x30c7, [0x30c6, 0x3099]),
  (0x30c9, [0x30c8, 0x3099]), (0x30d0, [0x30cf, 0x3099]), (0x30d1, [0x30cf, 0x309a]),
  (0x30d3, [0x30d2, 0x3099]), (0x30d4, [0x30d2, 0x309a]), (0x30d6, [0x30d5, 0x3099]),
  (0x30d7, [0x30d5, 0x309a]), (0x30d9, [0x30d8, 0x3099]), (0x30da, [0x30d8, 0x309a]),
  (0x30dc, [0x30db, 0x3099]), (0x30dd, [0x30db, 0x309a]), (0x30f4, [0x30a6, 0x3099]),
  (0x30f7, [0x30ef, 0x3099]), (0x30f8, [0x30f0, 0x3099]), (0x30f9, [0x30f1, 0x3099]),
  (0x30fa, [0x30f2, 0x3099]), (0x30fe, [0x30fd, 0x3099]), (0x30ff, [0x30b3, 0x30c8]),
  (0xfb00, [0x66, 0x66]), (0xfb01, [0x66, 0x69]), (0xfb02, [0x66, 0x6c]),
  (0xfb03, [0x66, 0x66, 0x69]), (0xfb04, [0x66, 0x66, 0x6c]), (0xfb05, [0x73, 0x74]),
  (0xfb06, [0x73, 0x74]), (0xfb13, [0x574, 0x576]), (0xfb14, [0x574, 0x565]),
  (0xfb15, [0x574, 0x56b]), (0xfb16, [0x57e, 0x576]), (0xfb17, [0x574, 0x56d]),
  (0xfb1d, [0x5d9, 0x5b4]), (0xfb1f, [0x5f2, 0x5b7]), (0xfb2a, [0x5e9, 0x5c1]),
  (0xfb2b, [0x5e9, 0x5c2]), (0xfb2c, [0x5e9, 0x5bc, 0x5c1]), (0xfb2d, [0x5e9, 0x5bc, 0x5c2]),
  (0xfb2e, [0x5d0, 0x5b7]), (0xfb2f, [0x5d0, 0x5b8]), (0xfb30, [0x5d0, 0x5bc]),
  (0xfb31, [0x5d1, 0x5bc])]

/-- Part 11 of `expansions`, from 0xfb32 to 0xfc33. -/
def expansions11 : List (Nat × List Nat) := [
  (0xfb32, [0x5d2, 0x5bc]), (0xfb33, [0x5d3, 0x5bc]), (0xfb34, [0x5d4, 0x5bc]),
  (0xfb35, [0x5d5, 0x5bc]), (0xfb36, [0x5d6, 0x5bc]), (0xfb38, [0x5d8, 0x5bc]),
  (0xfb39, [0x5d9, 0x5bc]), (0xfb3a, [0x5da, 0x5bc]), (0xfb3b, [0x5db, 0x5bc]),
  (0xfb3c, [0x5dc, 0x5bc]), (0xfb3e, [0x5de, 0x5bc]), (0xfb40, [0x5e0, 0x5bc]),
  (0xfb41, [0x5e1, 0x5bc]), (0xfb43, [0x5e3, 0x5bc]), (0xfb44, [0x5e4, 0x5bc]),
  (0xfb46, [0x5e6, 0x5bc]), (0xfb47, [0x5e7, 0x5bc]), (0xfb48, [0x5e8, 0x5bc]),
  (0xfb49, [0x5e9, 0x5bc]), (0xfb4a, [0x5ea, 0x5bc]), (0xfb4b, [0x5d5, 0x5b9]),
  (0xfb4c, [0x5d1, 0x5bf]), (0xfb4d, [0x5db, 0x5bf]), (0xfb4e, [0x5e4, 0x5bf]),
  (0xfb4f, [0x5d0, 0x5dc]), (0xfba4, [0x6d5, 0x654]), (0xfba5, [0x6d5, 0x654]),
  (0xfbb0, [0x6d2, 0x654]), (0xfbb1, [0x6d2, 0x654]), (0xfbdd, [0x6c7, 0x674]),
  (0xfbea, [0x64a, 0x654, 0x627]), (0xfbeb, [0x64a, 0x654, 0x627]),
  (0xfbec, [0x64a, 0x654, 0x6d5]), (0xfbed, [0x64a, 0x654, 0x6d5]),
  (0xfbee, [0x64a, 0x654, 0x648]), (0xfbef, [0x64a, 0x654, 0x648]),
  (0xfbf0, [0x64a, 0x654, 0x6c7]), (0xfbf1, [0x64a, 0x654, 0x6c7]),
  (0xfbf2, [0x64a, 0x654, 0x6c6]), (0xfbf3, [0x64a, 0x654, 0x6c6]),
  (0xfbf4, [0x64a, 0x654, 0x6c8]), (0xfbf5, [0x64a, 0x654, 0x6c8]),
  (0xfbf6, [0x64a, 0x654, 0x6d0]), (0xfbf7, [0x64a, 0x654, 0x6d0]),
  (0xfbf8, [0x64a, 0x654, 0x6d0]), (0xfbf9, [0x64a, 0x654, 0x649]),
  (0xfbfa, [0x64a, 0x654, 0x649]), (0xfbfb, [0x64a, 0x654, 0x649]),
  (0xfc00, [0x64a, 0x654, 0x62c]), (0xfc01, [0x64a, 0x654, 0x62d]),
  (0xfc02, [0x64a, 0x654, 0x645]), (0xfc03, [0x64a, 0x654, 0x649]),
  (0xfc04, [0x64a, 0x654, 0x64a]), (0xfc05, [0x628, 0x62c]), (0xfc06, [0x628, 0x62d]),
  (0xfc07, [0x628, 0x62e]), (0xfc08, [0x628, 0x645]), (0xfc09, [0x628, 0x649]),
  (0xfc0a, [0x628, 0x64a]), (0xfc0b, [0x62a, 0x62c]), (0xfc0c, [0x62a, 0x62d]),
  (0xfc0d, [0x62a, 0x62e]), (0xfc0e, [0x62a, 0x645]), (0xfc0f, [0x62a, 0x649]),
  (0xfc10, [0x62a, 0x64a]), (0xfc11, [0x62b, 0x62c]), (0xfc12, [0x62b, 0x645]),
  (0xfc13, [0x62b, 0x649]), (0xfc14, [0x62b, 0x64a]), (0xfc15, [0x62c, 0x62d]),
  (0xfc16, [0x62c, 0x645]), (0xfc17, [0x62d, 0x62c]), (0xfc18, [0x62d, 0x645]),
  (0xfc19, [0x62e, 0x62c]), (0xfc1a, [0x62e, 0x62d]), (0xfc1b, [0x62e, 0x645]),
  (0xfc1c, [0x633, 0x62c]), (0xfc1d, [0x633, 0x62d]), (0xfc1e, [0x633, 0x62e]),
  (0xfc1f, [0x633, 0x645]), (0xfc20, [0x635, 0x62d]), (0xfc21, [0x635, 0x645]),
  (0xfc22, [0x636, 0x62c]), (0xfc23, [0x636, 0x62d]), (0xfc24, [0x636, 0x62e]),
  (0xfc25, [0x636, 0x645]), (0xfc26, [0x637, 0x62d]), (0xfc27, [0x637, 0x645]),
  (0xfc28, [0x638, 0x645]), (0xfc29, [0x639, 0x62c]), (0xfc2a, [0x639, 0x645]),
  (0xfc2b, [0x63a, 0x62c]), (0xfc2c, [0x63a, 0x645]), (0xfc2d, [0x641, 0x62c]),
  (0xfc2e, [0x641, 0x62d]), (0xfc2f, [0x641, 0x62e]), (0xfc30, [0x641, 0x645]),
  (0xfc31, [0x641, 0x649]), (0xfc32, [0x641, 0x64a]), (0xfc33, [0x642, 0x62d])]

/-- Part 12 of `expansions`, from 0xfc34 to 0xfc9d. -/
def expansions12 : List (Nat × List Nat) := [
  (0xfc34, [0x642, 0x645]), (0xfc35, [0x642, 0x649]), (0xfc36, [0x642, 0x64a]),
  (0xfc37, [0x643, 0x627]), (0xfc38, [0x643, 0x62c]), (0xfc39, [0x643, 0x62d]),
  (0xfc3a, [0x643, 0x62e]), (0xfc3b, [0x643, 0x644]), (0xfc3c, [0x643, 0x645]),
  (0xfc3d, [0x643, 0x649]), (0xfc3e, [0x643, 0x64a]), (0xfc3f, [0x644, 0x62c]),
  (0xfc40, [0x644, 0x62d]), (0xfc41, [0x644, 0x62e]), (0xfc42, [0x644, 0x645]),
  (0xfc43, [0x644, 0x649]), (0xfc44, [0x644, 0x64a]), (0xfc45, [0x645, 0x62c]),
  (0xfc46, [0x645, 0x62d]), (0xfc47, [0x645, 0x62e]), (0xfc48, [0x645, 0x645]),
  (0xfc49, [0x645, 0x649]), (0xfc4a, [0x645, 0x64a]), (0xfc4b, [0x646, 0x62c]),
  (0xfc4c, [0x646, 0x62d]), (0xfc4d, [0x646, 0x62e]), (0xfc4e, [0x646, 0x645]),
  (0xfc4f, [0x646, 0x649]), (0xfc50, [0x646, 0x64a]), (0xfc51, [0x647, 0x62c]),
  (0xfc52, [0x647, 0x645]), (0xfc53, [0x647, 0x649]), (0xfc54, [0x647, 0x64a]),
  (0xfc55, [0x64a, 0x62c]), (0xfc56, [0x64a, 0x62d]), (0xfc57, [0x64a, 0x62e]),
  (0xfc58, [0x64a, 0x645]), (0xfc59, [0x64a, 0x649]), (0xfc5a, [0x64a, 0x64a]),
  (0xfc5b, [0x630, 0x670]), (0xfc5c, [0x631, 0x670]), (0xfc5d, [0x649, 0x670]),
  (0xfc64, [0x64a, 0x654, 0x631]), (0xfc65, [0x64a, 0x654, 0x632]),
  (0xfc66, [0x64a, 0x654, 0x645]), (0xfc67, [0x64a, 0x654, 0x646]),
  (0xfc68, [0x64a, 0x654, 0x649]), (0xfc69, [0x64a, 0x654, 0x64a]), (0xfc6a, [0x628, 0x631]),
  (0xfc6b, [0x628, 0x632]), (0xfc6c, [0x628, 0x645]), (0xfc6d, [0x628, 0x646]),
  (0xfc6e, [0x628, 0x649]), (0xfc6f, [0x628, 0x64a]), (0xfc70, [0x62a, 0x631]),
  (0xfc71, [0x62a, 0x632]), (0xfc72, [0x62a, 0x645]), (0xfc73, [0x62a, 0x646]),
  (0xfc74, [0x62a, 0x649]), (0xfc75, [0x62a, 0x64a]), (0xfc76, [0x62b, 0x631]),
  (0xfc77, [0x62b, 0x632]), (0xfc78, [0x62b, 0x645]), (0xfc79, [0x62b, 0x646]),
  (0xfc7a, [0x62b, 0x649]), (0xfc7b, [0x62b, 0x64a]), (0xfc7c, [0x641, 0x649]),
  (0xfc7d, [0x641, 0x64a]), (0xfc7e, [0x642, 0x649]), (0xfc7f, [0x642, 0x64a]),
  (0xfc80, [0x643, 0x627]), (0xfc81, [0x643, 0x644]), (0xfc82, [0x643, 0x645]),
  (0xfc83, [0x643, 0x649]), (0xfc84, [0x643, 0x64a]), (0xfc85, [0x644, 0x645]),
  (0xfc86, [0x644, 0x649]), (0xfc87, [0x644, 0x64a]), (0xfc88, [0x645, 0x627]),
  (0xfc89, [0x645, 0x645]), (0xfc8a, [0x646, 0x631]), (0xfc8b, [0x646, 0x632]),
  (0xfc8c, [0x646, 0x645]), (0xfc8d, [0x646, 0x646]), (0xfc8e, [0x646, 0x649]),
  (0xfc8f, [0x646, 0x64a]), (0xfc90, [0x649, 0x670]), (0xfc91, [0x64a, 0x631]),
  (0xfc92, [0x64a, 0x632]), (0xfc93, [0x64a, 0x645]), (0xfc94, [0x64a, 0x646]),
  (0xfc95, [0x64a, 0x649]), (0xfc96, [0x64a, 0x64a]), (0xfc97, [0x64a, 0x654, 0x62c]),
  (0xfc98, [0x64a, 0x654, 0x62d]), (0xfc99, [0x64a, 0x654, 0x62e]),
  (0xfc9a, [0x64a, 0x654, 0x645]), (0xfc9b, [0x64a, 0x654, 0x647]), (0xfc9c, [0x628, 0x62c]),
  (0xfc9d, [0x628, 0x62d])]

/-- Part 13 of `expansions`, from 0xfc9e to 0xfd01. -/
def expansions13 : List (Nat × List Nat) := [
  (0xfc9e, [0x628, 0x62e]), (0xfc9f, [0x628, 0x645]), (0xfca0, [0x628, 0x647]),
  (0xfca1, [0x62a, 0x62c]), (0xfca2, [0x62a, 0x62d]), (0xfca3, [0x62a, 0x62e]),
  (0xfca4, [0x62a, 0x645]), (0xfca5, [0x62a, 0x647]), (0xfca6, [0x62b, 0x645]),
  (0xfca7, [0x62c, 0x62d]), (0xfca8, [0x62c, 0x645]), (0xfca9, [0x62d, 0x62c]),
  (0xfcaa, [0x62d, 0x645]), (0xfcab, [0x62e, 0x62c]), (0xfcac, [0x62e, 0x645]),
  (0xfcad, [0x633, 0x62c]), (0xfcae, [0x633, 0x62d]), (0xfcaf, [0x633, 0x62e]),
  (0xfcb0, [0x633, 0x645]), (0xfcb1, [0x635, 0x62d]), (0xfcb2, [0x635, 0x62e]),
  (0xfcb3, [0x635, 0x645]), (0xfcb4, [0x636, 0x62c]), (0xfcb5, [0x636, 0x62d]),
  (0xfcb6, [0x636, 0x62e]), (0xfcb7, [0x636, 0x645]), (0xfcb8, [0x637, 0x62d]),
  (0xfcb9, [0x638, 0x645]), (0xfcba, [0x639, 0x62c]), (0xfcbb, [0x639, 0x645]),
  (0xfcbc, [0x63a, 0x62c]), (0xfcbd, [0x63a, 0x645]), (0xfcbe, [0x641, 0x62c]),
  (0xfcbf, [0x641, 0x62d]), (0xfcc0, [0x641, 0x62e]), (0xfcc1, [0x641, 0x645]),
  (0xfcc2, [0x642, 0x62d]), (0xfcc3, [0x642, 0x645]), (0xfcc4, [0x643, 0x62c]),
  (0xfcc5, [0x643, 0x62d]), (0xfcc6, [0x643, 0x62e]), (0xfcc7, [0x643, 0x644]),
  (0xfcc8, [0x643, 0x645]), (0xfcc9, [0x644, 0x62c]), (0xfcca, [0x644, 0x62d]),
  (0xfccb, [0x644, 0x62e]), (0xfccc, [0x644, 0x645]), (0xfccd, [0x644, 0x647]),
  (0xfcce, [0x645, 0x62c]), (0xfccf, [0x645, 0x62d]), (0xfcd0, [0x645, 0x62e]),
  (0xfcd1, [0x645, 0x645]), (0xfcd2, [0x646, 0x62c]), (0xfcd3, [0x646, 0x62d]),
  (0xfcd4, [0x646, 0x62e]), (0xfcd5, [0x646, 0x645]), (0xfcd6, [0x646, 0x647]),
  (0xfcd7, [0x647, 0x62c]), (0xfcd8, [0x647, 0x645]), (0xfcd9, [0x647, 0x670]),
  (0xfcda, [0x64a, 0x62c]), (0xfcdb, [0x64a, 0x62d]), (0xfcdc, [0x64a, 0x62e]),
  (0xfcdd, [0x64a, 0x645]), (0xfcde, [0x64a, 0x647]), (0xfcdf, [0x64a, 0x654, 0x645]),
  (0xfce0, [0x64a, 0x654, 0x647]), (0xfce1, [0x628, 0x645]), (0xfce2, [0x628, 0x647]),
  (0xfce3, [0x62a, 0x645]), (0xfce4, [0x62a, 0x647]), (0xfce5, [0x62b, 0x645]),
  (0xfce6, [0x62b, 0x647]), (0xfce7, [0x633, 0x645]), (0xfce8, [0x633, 0x647]),
  (0xfce9, [0x634, 0x645]), (0xfcea, [0x634, 0x647]), (0xfceb, [0x643, 0x644]),
  (0xfcec, [0x643, 0x645]), (0xfced, [0x644, 0x645]), (0xfcee, [0x646, 0x645]),
  (0xfcef, [0x646, 0x647]), (0xfcf0, [0x64a, 0x645]), (0xfcf1, [0x64a, 0x647]),
  (0xfcf2, [0x640, 0x64e, 0x651]), (0xfcf3, [0x640, 0x64f, 0x651]),
  (0xfcf4, [0x640, 0x650, 0x651]), (0xfcf5, [0x637, 0x649]), (0xfcf6, [0x637, 0x64a]),
  (0xfcf7, [0x639, 0x649]), (0xfcf8, [0x639, 0x64a]), (0xfcf9, [0x63a, 0x649]),
  (0xfcfa, [0x63a, 0x64a]), (0xfcfb, [0x633, 0x649]), (0xfcfc, [0x633, 0x64a]),
  (0xfcfd, [0x634, 0x649]), (0xfcfe, [0x634, 0x64a]), (0xfcff, [0x62d, 0x649]),
  (0xfd00, [0x62d, 0x64a]), (0xfd01, [0x62c, 0x649])]

/-- Part 14 of `expansions`, from 0xfd02 to 0xfd77. -/
def expansions14 : List (Nat × List Nat) := [
  (0xfd02, [0x62c, 0x64a]), (0xfd03, [0x62e, 0x649]), (0xfd04, [0x62e, 0x64a]),
  (0xfd05, [0x635, 0x649]), (0xfd06, [0x635, 0x64a]), (0xfd07, [0x636, 0x649]),
  (0xfd08, [0x636, 0x64a]), (0xfd09, [0x634, 0x62c]), (0xfd0a, [0x634, 0x62d]),
  (0xfd0b, [0x634, 0x62e]), (0xfd0c, [0x634, 0x645]), (0xfd0d, [0x634, 0x631]),
  (0xfd0e, [0x633, 0x631]), (0xfd0f, [0x635, 0x631]), (0xfd10, [0x636, 0x631]),
  (0xfd11, [0x637, 0x649]), (0xfd12, [0x637, 0x64a]), (0xfd13, [0x639, 0x649]),
  (0xfd14, [0x639, 0x64a]), (0xfd15, [0x63a, 0x649]), (0xfd16, [0x63a, 0x64a]),
  (0xfd17, [0x633, 0x649]), (0xfd18, [0x633, 0x64a]), (0xfd19, [0x634, 0x649]),
  (0xfd1a, [0x634, 0x64a]), (0xfd1b, [0x62d, 0x649]), (0xfd1c, [0x62d, 0x64a]),
  (0xfd1d, [0x62c, 0x649]), (0xfd1e, [0x62c, 0x64a]), (0xfd1f, [0x62e, 0x649]),
  (0xfd20, [0x62e, 0x64a]), (0xfd21, [0x635, 0x649]), (0xfd22, [0x635, 0x64a]),
  (0xfd23, [0x636, 0x649]), (0xfd24, [0x636, 0x64a]), (0xfd25, [0x634, 0x62c]),
  (0xfd26, [0x634, 0x62d]), (0xfd27, [0x634, 0x62e]), (0xfd28, [0x634, 0x645]),
  (0xfd29, [0x634, 0x631]), (0xfd2a, [0x633, 0x631]), (0xfd2b, [0x635, 0x631]),
  (0xfd2c, [0x636, 0x631]), (0xfd2d, [0x634, 0x62c]), (0xfd2e, [0x634, 0x62d]),
  (0xfd2f, [0x634, 0x62e]), (0xfd30, [0x634, 0x645]), (0xfd31, [0x633, 0x647]),
  (0xfd32, [0x634, 0x647]), (0xfd33, [0x637, 0x645]), (0xfd34, [0x633, 0x62c]),
  (0xfd35, [0x633, 0x62d]), (0xfd36, [0x633, 0x62e]), (0xfd37, [0x634, 0x62c]),
  (0xfd38, [0x634, 0x62d]), (0xfd39, [0x634, 0x62e]), (0xfd3a, [0x637, 0x645]),
  (0xfd3b, [0x638, 0x645]), (0xfd3c, [0x627, 0x64b]), (0xfd3d, [0x627, 0x64b]),
  (0xfd50, [0x62a, 0x62c, 0x645]), (0xfd51, [0x62a, 0x62d, 0x62c]),
  (0xfd52, [0x62a, 0x62d, 0x62c]), (0xfd53, [0x62a, 0x62d, 0x645]),
  (0xfd54, [0x62a, 0x62e, 0x645]), (0xfd55, [0x62a, 0x645, 0x62c]),
  (0xfd56, [0x62a, 0x645, 0x62d]), (0xfd57, [0x62a, 0x645, 0x62e]),
  (0xfd58, [0x62c, 0x645, 0x62d]), (0xfd59, [0x62c, 0x645, 0x62d]),
  (0xfd5a, [0x62d, 0x645, 0x64a]), (0xfd5b, [0x62d, 0x645, 0x649]),
  (0xfd5c, [0x633, 0x62d, 0x62c]), (0xfd5d, [0x633, 0x62c, 0x62d]),
  (0xfd5e, [0x633, 0x62c, 0x649]), (0xfd5f, [0x633, 0x645, 0x62d]),
  (0xfd60, [0x633, 0x645, 0x62d]), (0xfd61, [0x633, 0x645, 0x62c]),
  (0xfd62, [0x633, 0x645, 0x645]), (0xfd63, [0x633, 0x645, 0x645]),
  (0xfd64, [0x635, 0x62d, 0x62d]), (0xfd65, [0x635, 0x62d, 0x62d]),
  (0xfd66, [0x635, 0x645, 0x645]), (0xfd67, [0x634, 0x62d, 0x645]),
  (0xfd68, [0x634, 0x62d, 0x645]), (0xfd69, [0x634, 0x62c, 0x64a]),
  (0xfd6a, [0x634, 0x645, 0x62e]), (0xfd6b, [0x634, 0x645, 0x62e]),
  (0xfd6c, [0x634, 0x645, 0x645]), (0xfd6d, [0x634, 0x645, 0x645]),
  (0xfd6e, [0x636, 0x62d, 0x649]), (0xfd6f, [0x636, 0x62e, 0x645]),
  (0xfd70, [0x636, 0x62e, 0x645]), (0xfd71, [0x637, 0x645, 0x62d]),
  (0xfd72, [0x637, 0x645, 0x62d]), (0xfd73, [0x637, 0x645, 0x645]),
  (0xfd74, [0x637, 0x645, 0x64a]), (0xfd75, [0x639, 0x62c, 0x645]),
  (0xfd76, [0x639, 0x645, 0x645]), (0xfd77, [0x639, 0x645, 0x645])]

/-- Part 15 of `expansions`, from 0xfd78 to 0xfe86. -/
def expansions15 : List (Nat × List Nat) := [
  (0xfd78, [0x639, 0x645, 0x649]), (0xfd79, [0x63a, 0x645, 0x645]),
  (0xfd7a, [0x63a, 0x645, 0x64a]), (0xfd7b, [0x63a, 0x645, 0x649]),
  (0xfd7c, [0x641, 0x62e, 0x645]), (0xfd7d, [0x641, 0x62e, 0x645]),
  (0xfd7e, [0x642, 0x645, 0x62d]), (0xfd7f, [0x642, 0x645, 0x645]),
  (0xfd80, [0x644, 0x62d, 0x645]), (0xfd81, [0x644, 0x62d, 0x64a]),
  (0xfd82, [0x644, 0x62d, 0x649]), (0xfd83, [0x644, 0x62c, 0x62c]),
  (0xfd84, [0x644, 0x62c, 0x62c]), (0xfd85, [0x644, 0x62e, 0x645]),
  (0xfd86, [0x644, 0x62e, 0x645]), (0xfd87, [0x644, 0x645, 0x62d]),
  (0xfd88, [0x644, 0x645, 0x62d]), (0xfd89, [0x645, 0x62d, 0x62c]),
  (0xfd8a, [0x645, 0x62d, 0x645]), (0xfd8b, [0x645, 0x62d, 0x64a]),
  (0xfd8c, [0x645, 0x62c, 0x62d]), (0xfd8d, [0x645, 0x62c, 0x645]),
  (0xfd8e, [0x645, 0x62e, 0x62c]), (0xfd8f, [0x645, 0x62e, 0x645]),
  (0xfd92, [0x645, 0x62c, 0x62e]), (0xfd93, [0x647, 0x645, 0x62c]),
  (0xfd94, [0x647, 0x645, 0x645]), (0xfd95, [0x646, 0x62d, 0x645]),
  (0xfd96, [0x646, 0x62d, 0x649]), (0xfd97, [0x646, 0x62c, 0x645]),
  (0xfd98, [0x646, 0x62c, 0x645]), (0xfd99, [0x646, 0x62c, 0x649]),
  (0xfd9a, [0x646, 0x645, 0x64a]), (0xfd9b, [0x646, 0x645, 0x649]),
  (0xfd9c, [0x64a, 0x645, 0x645]), (0xfd9d, [0x64a, 0x645, 0x645]),
  (0xfd9e, [0x628, 0x62e, 0x64a]), (0xfd9f, [0x62a, 0x62c, 0x64a]),
  (0xfda0, [0x62a, 0x62c, 0x649]), (0xfda1, [0x62a, 0x62e, 0x64a]),
  (0xfda2, [0x62a, 0x62e, 0x649]), (0xfda3, [0x62a, 0x645, 0x64a]),
  (0xfda4, [0x62a, 0x645, 0x649]), (0xfda5, [0x62c, 0x645, 0x64a]),
  (0xfda6, [0x62c, 0x62d, 0x649]), (0xfda7, [0x62c, 0x645, 0x649]),
  (0xfda8, [0x633, 0x62e, 0x649]), (0xfda9, [0x635, 0x62d, 0x64a]),
  (0xfdaa, [0x634, 0x62d, 0x64a]), (0xfdab, [0x636, 0x62d, 0x64a]),
  (0xfdac, [0x644, 0x62c, 0x64a]), (0xfdad, [0x644, 0x645, 0x64a]),
  (0xfdae, [0x64a, 0x62d, 0x64a]), (0xfdaf, [0x64a, 0x62c, 0x64a]),
  (0xfdb0, [0x64a, 0x645, 0x64a]), (0xfdb1, [0x645, 0x645, 0x64a]),
  (0xfdb2, [0x642, 0x645, 0x64a]), (0xfdb3, [0x646, 0x62d, 0x64a]),
  (0xfdb4, [0x642, 0x645, 0x62d]), (0xfdb5, [0x644, 0x62d, 0x645]),
  (0xfdb6, [0x639, 0x645, 0x64a]), (0xfdb7, [0x643, 0x645, 0x64a]),
  (0xfdb8, [0x646, 0x62c, 0x62d]), (0xfdb9, [0x645, 0x62e, 0x64a]),
  (0xfdba, [0x644, 0x62c, 0x645]), (0xfdbb, [0x643, 0x645, 0x645]),
  (0xfdbc, [0x644, 0x62c, 0x645]), (0xfdbd, [0x646, 0x62c, 0x62d]),
  (0xfdbe, [0x62c, 0x62d, 0x64a]), (0xfdbf, [0x62d, 0x62c, 0x64a]),
  (0xfdc0, [0x645, 0x62c, 0x64a]), (0xfdc1, [0x641, 0x645, 0x64a]),
  (0xfdc2, [0x628, 0x62d, 0x64a]), (0xfdc3, [0x643, 0x645, 0x645]),
  (0xfdc4, [0x639, 0x62c, 0x645]), (0xfdc5, [0x635, 0x645, 0x645]),
  (0xfdc6, [0x633, 0x62e, 0x64a]), (0xfdc7, [0x646, 0x62c, 0x64a]),
  (0xfdf0, [0x635, 0x644, 0x6d2]), (0xfdf1, [0x642, 0x644, 0x6d2]),
  (0xfdf2, [0x627, 0x644, 0x644, 0x647]), (0xfdf3, [0x627, 0x643, 0x628, 0x631]),
  (0xfdf4, [0x645, 0x62d, 0x645, 0x62f]), (0xfdf5, [0x635, 0x644, 0x639, 0x645]),
  (0xfdf6, [0x631, 0x633, 0x648, 0x644]), (0xfdf7, [0x639, 0x644, 0x64a, 0x647]),
  (0xfdf8, [0x648, 0x633, 0x644, 0x645]), (0xfdf9, [0x635, 0x644, 0x649]),
  (0xfe71, [0x640, 0x64b]), (0xfe77, [0x640, 0x64e]), (0xfe79, [0x640, 0x64f]),
  (0xfe7b, [0x640, 0x650]), (0xfe7d, [0x640, 0x651]), (0xfe7f, [0x640, 0x652]),
  (0xfe81, [0x627, 0x653]), (0xfe82, [0x627, 0x653]), (0xfe83, [0x627, 0x654]),
  (0xfe84, [0x627, 0x654]), (0xfe85, [0x648, 0x654]), (0xfe86, [0x648, 0x654])]

/-- Part 16 of `expansions`, from 0xfe87 to 0x11938. -/
def expansions16 : List (Nat × List Nat) := [
  (0xfe87, [0x627, 0x655]), (0xfe88, [0x627, 0x655]), (0xfe89, [0x64a, 0x654]),
  (0xfe8a, [0x64a, 0x654]), (0xfe8b, [0x64a, 0x654]), (0xfe8c, [0x64a, 0x654]),
  (0xfef5, [0x644, 0x627, 0x653]), (0xfef6, [0x644, 0x627, 0x653]),
  (0xfef7, [0x644, 0x627, 0x654]), (0xfef8, [0x644, 0x627, 0x654]),
  (0xfef9, [0x644, 0x627, 0x655]), (0xfefa, [0x644, 0x627, 0x655]), (0xfefb, [0x644, 0x627]),
  (0xfefc, [0x644, 0x627]), (0x1109a, [0x11099, 0x110ba]), (0x1109c, [0x1109b, 0x110ba]),
  (0x110ab, [0x110a5, 0x110ba]), (0x1112e, [0x11131, 0x11127]), (0x1112f, [0x11132, 0x11127]),
  (0x1134b, [0x11347, 0x1133e]), (0x1134c, [0x11347, 0x11357]), (0x114bb, [0x114b9, 0x114ba]),
  (0x114bc, [0x114b9, 0x114b0]), (0x114be, [0x114b9, 0x114bd]), (0x115ba, [0x115b8, 0x115af]),
  (0x115bb, [0x115b9, 0x115af]), (0x11938, [0x11935, 0x11930])]

/-- Characters that stand for several characters each. -/
def expansions : List (Nat × List Nat) :=
  expansions1 ++ expansions2 ++ expansions3 ++ expansions4 ++ expansions5 ++ expansions6 ++
  expansions7 ++ expansions8 ++ expansions9 ++ expansions10 ++ expansions11 ++ expansions12 ++
  expansions13 ++ expansions14 ++ expansions15 ++ expansions16

end FragmentRoutes.Text.Compatibility
