/-
  Letters that stand for one plainer letter: the compatibility decompositions of
  Unicode 14 of a single character, restricted to the characters of identifiers.
  An entry `(first, image, count)` says that the `count` code points from `first`
  on stand for the `count` code points from `image` on.
-/

namespace FragmentRoutes.Text.Compatibility

/-- Part 1 of `runs`, from 0xaa to 0x1dbc. -/
def runs1 : List (Nat × Nat × Nat) := [
  (0xaa, 0x61, 1), (0xb5, 0x3bc, 1), (0xba, 0x6f, 1), (0x17f, 0x73, 1), (0x2b0, 0x68, 1),
  (0x2b1, 0x266, 1), (0x2b2, 0x6a, 1), (0x2b3, 0x72, 1), (0x2b4, 0x279, 1), (0x2b5, 0x27b, 1),
  (0x2b6, 0x281, 1), (0x2b7, 0x77, 1), (0x2b8, 0x79, 1), (0x2e0, 0x263, 1), (0x2e1, 0x6c, 1),
  (0x2e2, 0x73, 1), (0x2e3, 0x78, 1), (0x2e4, 0x295, 1), (0x340, 0x300, 2), (0x343, 0x313, 1),
  (0x374, 0x2b9, 1), (0x387, 0xb7, 1), (0x3d0, 0x3b2, 1), (0x3d1, 0x3b8, 1), (0x3d2, 0x3a5, 1),
  (0x3d5, 0x3c6, 1), (0x3d6, 0x3c0, 1), (0x3f0, 0x3ba, 1), (0x3f1, 0x3c1, 2), (0x3f4, 0x398, 1),
  (0x3f5, 0x3b5, 1), (0x3f9, 0x3a3, 1), (0x10fc, 0x10dc, 1), (0x1d2c, 0x41, 1), (0x1d2d, 0xc6, 1),
  (0x1d2e, 0x42, 1), (0x1d30, 0x44, 2), (0x1d32, 0x18e, 1), (0x1d33, 0x47, 8), (0x1d3c, 0x4f, 1),
  (0x1d3d, 0x222, 1), (0x1d3e, 0x50, 1), (0x1d3f, 0x52, 1), (0x1d40, 0x54, 2), (0x1d42, 0x57, 1),
  (0x1d43, 0x61, 1), (0x1d44, 0x250, 2), (0x1d46, 0x1d02, 1), (0x1d47, 0x62, 1),
  (0x1d48, 0x64, 2), (0x1d4a, 0x259, 1), (0x1d4b, 0x25b, 2), (0x1d4d, 0x67, 1), (0x1d4f, 0x6b, 1),
  (0x1d50, 0x6d, 1), (0x1d51, 0x14b, 1), (0x1d52, 0x6f, 1), (0x1d53, 0x254, 1),
  (0x1d54, 0x1d16, 2), (0x1d56, 0x70, 1), (0x1d57, 0x74, 2), (0x1d59, 0x1d1d, 1),
  (0x1d5a, 0x26f, 1), (0x1d5b, 0x76, 1), (0x1d5c, 0x1d25, 1), (0x1d5d, 0x3b2, 3),
  (0x1d60, 0x3c6, 2), (0x1d62, 0x69, 1), (0x1d63, 0x72, 1), (0x1d64, 0x75, 2), (0x1d66, 0x3b2, 2),
  (0x1d68, 0x3c1, 1), (0x1d69, 0x3c6, 2), (0x1d78, 0x43d, 1), (0x1d9b, 0x252, 1),
  (0x1d9c, 0x63, 1), (0x1d9d, 0x255, 1), (0x1d9e, 0xf0, 1), (0x1d9f, 0x25c, 1), (0x1da0, 0x66, 1),
  (0x1da1, 0x25f, 1), (0x1da2, 0x261, 1), (0x1da3, 0x265, 1), (0x1da4, 0x268, 3),
  (0x1da7, 0x1d7b, 1), (0x1da8, 0x29d, 1), (0x1da9, 0x26d, 1), (0x1daa, 0x1d85, 1),
  (0x1dab, 0x29f, 1), (0x1dac, 0x271, 1), (0x1dad, 0x270, 1), (0x1dae, 0x272, 4),
  (0x1db2, 0x278, 1), (0x1db3, 0x282, 2), (0x1db5, 0x1ab, 1), (0x1db6, 0x289, 2),
  (0x1db8, 0x1d1c, 1), (0x1db9, 0x28b, 2), (0x1dbb, 0x7a, 1), (0x1dbc, 0x290, 3)]

/-- Part 2 of `runs`, from 0x1dbf to 0x3187. -/
def runs2 : List (Nat × Nat × Nat) := [
  (0x1dbf, 0x3b8, 1), (0x1fbe, 0x3b9, 1), (0x2071, 0x69, 1), (0x207f, 0x6e, 1), (0x2090, 0x61, 1),
  (0x2091, 0x65, 1), (0x2092, 0x6f, 1), (0x2093, 0x78, 1), (0x2094, 0x259, 1), (0x2095, 0x68, 1),
  (0x2096, 0x6b, 4), (0x209a, 0x70, 1), (0x209b, 0x73, 2), (0x2102, 0x43, 1), (0x2107, 0x190, 1),
  (0x210a, 0x67, 1), (0x210b, 0x48, 1), (0x210c, 0x48, 1), (0x210d, 0x48, 1), (0x210e, 0x68, 1),
  (0x210f, 0x127, 1), (0x2110, 0x49, 1), (0x2111, 0x49, 1), (0x2112, 0x4c, 1), (0x2113, 0x6c, 1),
  (0x2115, 0x4e, 1), (0x2119, 0x50, 3), (0x211c, 0x52, 1), (0x211d, 0x52, 1), (0x2124, 0x5a, 1),
  (0x2126, 0x3a9, 1), (0x2128, 0x5a, 1), (0x212a, 0x4b, 1), (0x212c, 0x42, 2), (0x212f, 0x65, 1),
  (0x2130, 0x45, 2), (0x2133, 0x4d, 1), (0x2134, 0x6f, 1), (0x2135, 0x5d0, 4), (0x2139, 0x69, 1),
  (0x213c, 0x3c0, 1), (0x213d, 0x3b3, 1), (0x213e, 0x393, 1), (0x213f, 0x3a0, 1),
  (0x2145, 0x44, 1), (0x2146, 0x64, 2), (0x2148, 0x69, 2), (0x2160, 0x49, 1), (0x2164, 0x56, 1),
  (0x2169, 0x58, 1), (0x216c, 0x4c, 1), (0x216d, 0x43, 2), (0x216f, 0x4d, 1), (0x2170, 0x69, 1),
  (0x2174, 0x76, 1), (0x2179, 0x78, 1), (0x217c, 0x6c, 1), (0x217d, 0x63, 2), (0x217f, 0x6d, 1),
  (0x2c7c, 0x6a, 1), (0x2c7d, 0x56, 1), (0x2d6f, 0x2d61, 1), (0x3038, 0x5341, 1),
  (0x3039, 0x5344, 2), (0x3131, 0x1100, 2), (0x3133, 0x11aa, 1), (0x3134, 0x1102, 1),
  (0x3135, 0x11ac, 2), (0x3137, 0x1103, 3), (0x313a, 0x11b0, 6), (0x3140, 0x111a, 1),
  (0x3141, 0x1106, 3), (0x3144, 0x1121, 1), (0x3145, 0x1109, 10), (0x314f, 0x1161, 21),
  (0x3164, 0x1160, 1), (0x3165, 0x1114, 2), (0x3167, 0x11c7, 2), (0x3169, 0x11cc, 1),
  (0x316a, 0x11ce, 1), (0x316b, 0x11d3, 1), (0x316c, 0x11d7, 1), (0x316d, 0x11d9, 1),
  (0x316e, 0x111c, 1), (0x316f, 0x11dd, 1), (0x3170, 0x11df, 1), (0x3171, 0x111d, 2),
  (0x3173, 0x1120, 1), (0x3174, 0x1122, 2), (0x3176, 0x1127, 1), (0x3177, 0x1129, 1),
  (0x3178, 0x112b, 5), (0x317d, 0x1132, 1), (0x317e, 0x1136, 1), (0x317f, 0x1140, 1),
  (0x3180, 0x1147, 1), (0x3181, 0x114c, 1), (0x3182, 0x11f1, 2), (0x3184, 0x1157, 3),
  (0x3187, 0x1184, 2)]

/-- Part 3 of `runs`, from 0x3189 to 0xf951. -/
def runs3 : List (Nat × Nat × Nat) := [
  (0x3189, 0x1188, 1), (0x318a, 0x1191, 2), (0x318c, 0x1194, 1), (0x318d, 0x119e, 1),
  (0x318e, 0x11a1, 1), (0xa69c, 0x44a, 1), (0xa69d, 0x44c, 1), (0xa770, 0xa76f, 1),
  (0xa7f2, 0x43, 1), (0xa7f3, 0x46, 1), (0xa7f4, 0x51, 1), (0xa7f8, 0x126, 1), (0xa7f9, 0x153, 1),
  (0xab5c, 0xa727, 1), (0xab5d, 0xab37, 1), (0xab5e, 0x26b, 1), (0xab5f, 0xab52, 1),
  (0xab69, 0x28d, 1), (0xf900, 0x8c48, 1), (0xf901, 0x66f4, 1), (0xf902, 0x8eca, 1),
  (0xf903, 0x8cc8, 1), (0xf904, 0x6ed1, 1), (0xf905, 0x4e32, 1), (0xf906, 0x53e5, 1),
  (0xf907, 0x9f9c, 1), (0xf908, 0x9f9c, 1), (0xf909, 0x5951, 1), (0xf90a, 0x91d1, 1),
  (0xf90b, 0x5587, 1), (0xf90c, 0x5948, 1), (0xf90d, 0x61f6, 1), (0xf90e, 0x7669, 1),
  (0xf90f, 0x7f85, 1), (0xf910, 0x863f, 1), (0xf911, 0x87ba, 1), (0xf912, 0x88f8, 1),
  (0xf913, 0x908f, 1), (0xf914, 0x6a02, 1), (0xf915, 0x6d1b, 1), (0xf916, 0x70d9, 1),
  (0xf917, 0x73de, 1), (0xf918, 0x843d, 1), (0xf919, 0x916a, 1), (0xf91a, 0x99f1, 1),
  (0xf91b, 0x4e82, 1), (0xf91c, 0x5375, 1), (0xf91d, 0x6b04, 1), (0xf91e, 0x721b, 1),
  (0xf91f, 0x862d, 1), (0xf920, 0x9e1e, 1), (0xf921, 0x5d50, 1), (0xf922, 0x6feb, 1),
  (0xf923, 0x85cd, 1), (0xf924, 0x8964, 1), (0xf925, 0x62c9, 1), (0xf926, 0x81d8, 1),
  (0xf927, 0x881f, 1), (0xf928, 0x5eca, 1), (0xf929, 0x6717, 1), (0xf92a, 0x6d6a, 1),
  (0xf92b, 0x72fc, 1), (0xf92c, 0x90ce, 1), (0xf92d, 0x4f86, 1), (0xf92e, 0x51b7, 1),
  (0xf92f, 0x52de, 1), (0xf930, 0x64c4, 1), (0xf931, 0x6ad3, 1), (0xf932, 0x7210, 1),
  (0xf933, 0x76e7, 1), (0xf934, 0x8001, 1), (0xf935, 0x8606, 1), (0xf936, 0x865c, 1),
  (0xf937, 0x8def, 1), (0xf938, 0x9732, 1), (0xf939, 0x9b6f, 1), (0xf93a, 0x9dfa, 1),
  (0xf93b, 0x788c, 1), (0xf93c, 0x797f, 1), (0xf93d, 0x7da0, 1), (0xf93e, 0x83c9, 1),
  (0xf93f, 0x9304, 1), (0xf940, 0x9e7f, 1), (0xf941, 0x8ad6, 1), (0xf942, 0x58df, 1),
  (0xf943, 0x5f04, 1), (0xf944, 0x7c60, 1), (0xf945, 0x807e, 1), (0xf946, 0x7262, 1),
  (0xf947, 0x78ca, 1), (0xf948, 0x8cc2, 1), (0xf949, 0x96f7, 1), (0xf94a, 0x58d8, 1),
  (0xf94b, 0x5c62, 1), (0xf94c, 0x6a13, 1), (0xf94d, 0x6dda, 1), (0xf94e, 0x6f0f, 1),
  (0xf94f, 0x7d2f, 1), (0xf950, 0x7e37, 1), (0xf951, 0x964b, 1)]

/-- Part 4 of `runs`, from 0xf952 to 0xf9b5. -/
def runs4 : List (Nat × Nat × Nat) := [
  (0xf952, 0x52d2, 1), (0xf953, 0x808b, 1), (0xf954, 0x51dc, 1), (0xf955, 0x51cc, 1),
  (0xf956, 0x7a1c, 1), (0xf957, 0x7dbe, 1), (0xf958, 0x83f1, 1), (0xf959, 0x9675, 1),
  (0xf95a, 0x8b80, 1), (0xf95b, 0x62cf, 1), (0xf95c, 0x6a02, 1), (0xf95d, 0x8afe, 1),
  (0xf95e, 0x4e39, 1), (0xf95f, 0x5be7, 1), (0xf960, 0x6012, 1), (0xf961, 0x7387, 1),
  (0xf962, 0x7570, 1), (0xf963, 0x5317, 1), (0xf964, 0x78fb, 1), (0xf965, 0x4fbf, 1),
  (0xf966, 0x5fa9, 1), (0xf967, 0x4e0d, 1), (0xf968, 0x6ccc, 1), (0xf969, 0x6578, 1),
  (0xf96a, 0x7d22, 1), (0xf96b, 0x53c3, 1), (0xf96c, 0x585e, 1), (0xf96d, 0x7701, 1),
  (0xf96e, 0x8449, 1), (0xf96f, 0x8aaa, 1), (0xf970, 0x6bba, 1), (0xf971, 0x8fb0, 1),
  (0xf972, 0x6c88, 1), (0xf973, 0x62fe, 1), (0xf974, 0x82e5, 1), (0xf975, 0x63a0, 1),
  (0xf976, 0x7565, 1), (0xf977, 0x4eae, 1), (0xf978, 0x5169, 1), (0xf979, 0x51c9, 1),
  (0xf97a, 0x6881, 1), (0xf97b, 0x7ce7, 1), (0xf97c, 0x826f, 1), (0xf97d, 0x8ad2, 1),
  (0xf97e, 0x91cf, 1), (0xf97f, 0x52f5, 1), (0xf980, 0x5442, 1), (0xf981, 0x5973, 1),
  (0xf982, 0x5eec, 1), (0xf983, 0x65c5, 1), (0xf984, 0x6ffe, 1), (0xf985, 0x792a, 1),
  (0xf986, 0x95ad, 1), (0xf987, 0x9a6a, 1), (0xf988, 0x9e97, 1), (0xf989, 0x9ece, 1),
  (0xf98a, 0x529b, 1), (0xf98b, 0x66c6, 1), (0xf98c, 0x6b77, 1), (0xf98d, 0x8f62, 1),
  (0xf98e, 0x5e74, 1), (0xf98f, 0x6190, 1), (0xf990, 0x6200, 1), (0xf991, 0x649a, 1),
  (0xf992, 0x6f23, 1), (0xf993, 0x7149, 1), (0xf994, 0x7489, 1), (0xf995, 0x79ca, 1),
  (0xf996, 0x7df4, 1), (0xf997, 0x806f, 1), (0xf998, 0x8f26, 1), (0xf999, 0x84ee, 1),
  (0xf99a, 0x9023, 1), (0xf99b, 0x934a, 1), (0xf99c, 0x5217, 1), (0xf99d, 0x52a3, 1),
  (0xf99e, 0x54bd, 1), (0xf99f, 0x70c8, 1), (0xf9a0, 0x88c2, 1), (0xf9a1, 0x8aaa, 1),
  (0xf9a2, 0x5ec9, 1), (0xf9a3, 0x5ff5, 1), (0xf9a4, 0x637b, 1), (0xf9a5, 0x6bae, 1),
  (0xf9a6, 0x7c3e, 1), (0xf9a7, 0x7375, 1), (0xf9a8, 0x4ee4, 1), (0xf9a9, 0x56f9, 1),
  (0xf9aa, 0x5be7, 1), (0xf9ab, 0x5dba, 1), (0xf9ac, 0x601c, 1), (0xf9ad, 0x73b2, 1),
  (0xf9ae, 0x7469, 1), (0xf9af, 0x7f9a, 1), (0xf9b0, 0x8046, 1), (0xf9b1, 0x9234, 1),
  (0xf9b2, 0x96f6, 1), (0xf9b3, 0x9748, 1), (0xf9b4, 0x9818, 1), (0xf9b5, 0x4f8b, 1)]

/-- Part 5 of `runs`, from 0xf9b6 to 0xfa1e. -/
def runs5 : List (Nat × Nat × Nat) := [
  (0xf9b6, 0x79ae, 1), (0xf9b7, 0x91b4, 1), (0xf9b8, 0x96b8, 1), (0xf9b9, 0x60e1, 1),
  (0xf9ba, 0x4e86, 1), (0xf9bb, 0x50da, 1), (0xf9bc, 0x5bee, 1), (0xf9bd, 0x5c3f, 1),
  (0xf9be, 0x6599, 1), (0xf9bf, 0x6a02, 1), (0xf9c0, 0x71ce, 1), (0xf9c1, 0x7642, 1),
  (0xf9c2, 0x84fc, 1), (0xf9c3, 0x907c, 1), (0xf9c4, 0x9f8d, 1), (0xf9c5, 0x6688, 1),
  (0xf9c6, 0x962e, 1), (0xf9c7, 0x5289, 1), (0xf9c8, 0x677b, 1), (0xf9c9, 0x67f3, 1),
  (0xf9ca, 0x6d41, 1), (0xf9cb, 0x6e9c, 1), (0xf9cc, 0x7409, 1), (0xf9cd, 0x7559, 1),
  (0xf9ce, 0x786b, 1), (0xf9cf, 0x7d10, 1), (0xf9d0, 0x985e, 1), (0xf9d1, 0x516d, 1),
  (0xf9d2, 0x622e, 1), (0xf9d3, 0x9678, 1), (0xf9d4, 0x502b, 1), (0xf9d5, 0x5d19, 1),
  (0xf9d6, 0x6dea, 1), (0xf9d7, 0x8f2a, 1), (0xf9d8, 0x5f8b, 1), (0xf9d9, 0x6144, 1),
  (0xf9da, 0x6817, 1), (0xf9db, 0x7387, 1), (0xf9dc, 0x9686, 1), (0xf9dd, 0x5229, 1),
  (0xf9de, 0x540f, 1), (0xf9df, 0x5c65, 1), (0xf9e0, 0x6613, 1), (0xf9e1, 0x674e, 1),
  (0xf9e2, 0x68a8, 1), (0xf9e3, 0x6ce5, 1), (0xf9e4, 0x7406, 1), (0xf9e5, 0x75e2, 1),
  (0xf9e6, 0x7f79, 1), (0xf9e7, 0x88cf, 1), (0xf9e8, 0x88e1, 1), (0xf9e9, 0x91cc, 1),
  (0xf9ea, 0x96e2, 1), (0xf9eb, 0x533f, 1), (0xf9ec, 0x6eba, 1), (0xf9ed, 0x541d, 1),
  (0xf9ee, 0x71d0, 1), (0xf9ef, 0x7498, 1), (0xf9f0, 0x85fa, 1), (0xf9f1, 0x96a3, 1),
  (0xf9f2, 0x9c57, 1), (0xf9f3, 0x9e9f, 1), (0xf9f4, 0x6797, 1), (0xf9f5, 0x6dcb, 1),
  (0xf9f6, 0x81e8, 1), (0xf9f7, 0x7acb, 1), (0xf9f8, 0x7b20, 1), (0xf9f9, 0x7c92, 1),
  (0xf9fa, 0x72c0, 1), (0xf9fb, 0x7099, 1), (0xf9fc, 0x8b58, 1), (0xf9fd, 0x4ec0, 1),
  (0xf9fe, 0x8336, 1), (0xf9ff, 0x523a, 1), (0xfa00, 0x5207, 1), (0xfa01, 0x5ea6, 1),
  (0xfa02, 0x62d3, 1), (0xfa03, 0x7cd6, 1), (0xfa04, 0x5b85, 1), (0xfa05, 0x6d1e, 1),
  (0xfa06, 0x66b4, 1), (0xfa07, 0x8f3b, 1), (0xfa08, 0x884c, 1), (0xfa09, 0x964d, 1),
  (0xfa0a, 0x898b, 1), (0xfa0b, 0x5ed3, 1), (0xfa0c, 0x5140, 1), (0xfa0d, 0x55c0, 1),
  (0xfa10, 0x585a, 1), (0xfa12, 0x6674, 1), (0xfa15, 0x51de, 1), (0xfa16, 0x732a, 1),
  (0xfa17, 0x76ca, 1), (0xfa18, 0x793c, 1), (0xfa19, 0x795e, 1), (0xfa1a, 0x7965, 1),
  (0xfa1b, 0x798f, 1), (0xfa1c, 0x9756, 1), (0xfa1d, 0x7cbe, 1), (0xfa1e, 0x7fbd, 1)]

/-- Part 6 of `runs`, from 0xfa20 to 0xfa8c. -/
def runs6 : List (Nat × Nat × Nat) := [
  (0xfa20, 0x8612, 1), (0xfa22, 0x8af8, 1), (0xfa25, 0x9038, 1), (0xfa26, 0x90fd, 1),
  (0xfa2a, 0x98ef, 1), (0xfa2b, 0x98fc, 1), (0xfa2c, 0x9928, 1), (0xfa2d, 0x9db4, 1),
  (0xfa2e, 0x90de, 1), (0xfa2f, 0x96b7, 1), (0xfa30, 0x4fae, 1), (0xfa31, 0x50e7, 1),
  (0xfa32, 0x514d, 1), (0xfa33, 0x52c9, 1), (0xfa34, 0x52e4, 1), (0xfa35, 0x5351, 1),
  (0xfa36, 0x559d, 1), (0xfa37, 0x5606, 1), (0xfa38, 0x5668, 1), (0xfa39, 0x5840, 1),
  (0xfa3a, 0x58a8, 1), (0xfa3b, 0x5c64, 1), (0xfa3c, 0x5c6e, 1), (0xfa3d, 0x6094, 1),
  (0xfa3e, 0x6168, 1), (0xfa3f, 0x618e, 1), (0xfa40, 0x61f2, 1), (0xfa41, 0x654f, 1),
  (0xfa42, 0x65e2, 1), (0xfa43, 0x6691, 1), (0xfa44, 0x6885, 1), (0xfa45, 0x6d77, 1),
  (0xfa46, 0x6e1a, 1), (0xfa47, 0x6f22, 1), (0xfa48, 0x716e, 1), (0xfa49, 0x722b, 1),
  (0xfa4a, 0x7422, 1), (0xfa4b, 0x7891, 1), (0xfa4c, 0x793e, 1), (0xfa4d, 0x7949, 1),
  (0xfa4e, 0x7948, 1), (0xfa4f, 0x7950, 1), (0xfa50, 0x7956, 1), (0xfa51, 0x795d, 1),
  (0xfa52, 0x798d, 2), (0xfa54, 0x7a40, 1), (0xfa55, 0x7a81, 1), (0xfa56, 0x7bc0, 1),
  (0xfa57, 0x7df4, 1), (0xfa58, 0x7e09, 1), (0xfa59, 0x7e41, 1), (0xfa5a, 0x7f72, 1),
  (0xfa5b, 0x8005, 1), (0xfa5c, 0x81ed, 1), (0xfa5d, 0x8279, 1), (0xfa5e, 0x8279, 1),
  (0xfa5f, 0x8457, 1), (0xfa60, 0x8910, 1), (0xfa61, 0x8996, 1), (0xfa62, 0x8b01, 1),
  (0xfa63, 0x8b39, 1), (0xfa64, 0x8cd3, 1), (0xfa65, 0x8d08, 1), (0xfa66, 0x8fb6, 1),
  (0xfa67, 0x9038, 1), (0xfa68, 0x96e3, 1), (0xfa69, 0x97ff, 1), (0xfa6a, 0x983b, 1),
  (0xfa6b, 0x6075, 1), (0xfa6c, 0x242ee, 1), (0xfa6d, 0x8218, 1), (0xfa70, 0x4e26, 1),
  (0xfa71, 0x51b5, 1), (0xfa72, 0x5168, 1), (0xfa73, 0x4f80, 1), (0xfa74, 0x5145, 1),
  (0xfa75, 0x5180, 1), (0xfa76, 0x52c7, 1), (0xfa77, 0x52fa, 1), (0xfa78, 0x559d, 1),
  (0xfa79, 0x5555, 1), (0xfa7a, 0x5599, 1), (0xfa7b, 0x55e2, 1), (0xfa7c, 0x585a, 1),
  (0xfa7d, 0x58b3, 1), (0xfa7e, 0x5944, 1), (0xfa7f, 0x5954, 1), (0xfa80, 0x5a62, 1),
  (0xfa81, 0x5b28, 1), (0xfa82, 0x5ed2, 1), (0xfa83, 0x5ed9, 1), (0xfa84, 0x5f69, 1),
  (0xfa85, 0x5fad, 1), (0xfa86, 0x60d8, 1), (0xfa87, 0x614e, 1), (0xfa88, 0x6108, 1),
  (0xfa89, 0x618e, 1), (0xfa8a, 0x6160, 1), (0xfa8b, 0x61f2, 1), (0xfa8c, 0x6234, 1)]

/-- Part 7 of `runs`, from 0xfa8d to 0xfb60. -/
def runs7 : List (Nat × Nat × Nat) := [
  (0xfa8d, 0x63c4, 1), (0xfa8e, 0x641c, 1), (0xfa8f, 0x6452, 1), (0xfa90, 0x6556, 1),
  (0xfa91, 0x6674, 1), (0xfa92, 0x6717, 1), (0xfa93, 0x671b, 1), (0xfa94, 0x6756, 1),
  (0xfa95, 0x6b79, 1), (0xfa96, 0x6bba, 1), (0xfa97, 0x6d41, 1), (0xfa98, 0x6edb, 1),
  (0xfa99, 0x6ecb, 1), (0xfa9a, 0x6f22, 1), (0xfa9b, 0x701e, 1), (0xfa9c, 0x716e, 1),
  (0xfa9d, 0x77a7, 1), (0xfa9e, 0x7235, 1), (0xfa9f, 0x72af, 1), (0xfaa0, 0x732a, 1),
  (0xfaa1, 0x7471, 1), (0xfaa2, 0x7506, 1), (0xfaa3, 0x753b, 1), (0xfaa4, 0x761d, 1),
  (0xfaa5, 0x761f, 1), (0xfaa6, 0x76ca, 1), (0xfaa7, 0x76db, 1), (0xfaa8, 0x76f4, 1),
  (0xfaa9, 0x774a, 1), (0xfaaa, 0x7740, 1), (0xfaab, 0x78cc, 1), (0xfaac, 0x7ab1, 1),
  (0xfaad, 0x7bc0, 1), (0xfaae, 0x7c7b, 1), (0xfaaf, 0x7d5b, 1), (0xfab0, 0x7df4, 1),
  (0xfab1, 0x7f3e, 1), (0xfab2, 0x8005, 1), (0xfab3, 0x8352, 1), (0xfab4, 0x83ef, 1),
  (0xfab5, 0x8779, 1), (0xfab6, 0x8941, 1), (0xfab7, 0x8986, 1), (0xfab8, 0x8996, 1),
  (0xfab9, 0x8abf, 1), (0xfaba, 0x8af8, 1), (0xfabb, 0x8acb, 1), (0xfabc, 0x8b01, 1),
  (0xfabd, 0x8afe, 1), (0xfabe, 0x8aed, 1), (0xfabf, 0x8b39, 1), (0xfac0, 0x8b8a, 1),
  (0xfac1, 0x8d08, 1), (0xfac2, 0x8f38, 1), (0xfac3, 0x9072, 1), (0xfac4, 0x9199, 1),
  (0xfac5, 0x9276, 1), (0xfac6, 0x967c, 1), (0xfac7, 0x96e3, 1), (0xfac8, 0x9756, 1),
  (0xfac9, 0x97db, 1), (0xfaca, 0x97ff, 1), (0xfacb, 0x980b, 1), (0xfacc, 0x983b, 1),
  (0xfacd, 0x9b12, 1), (0xface, 0x9f9c, 1), (0xfacf, 0x2284a, 1), (0xfad0, 0x22844, 1),
  (0xfad1, 0x233d5, 1), (0xfad2, 0x3b9d, 1), (0xfad3, 0x4018, 1), (0xfad4, 0x4039, 1),
  (0xfad5, 0x25249, 1), (0xfad6, 0x25cd0, 1), (0xfad7, 0x27ed3, 1), (0xfad8, 0x9f43, 1),
  (0xfad9, 0x9f8e, 1), (0xfb20, 0x5e2, 1), (0xfb21, 0x5d0, 1), (0xfb22, 0x5d3, 2),
  (0xfb24, 0x5db, 3), (0xfb27, 0x5e8, 1), (0xfb28, 0x5ea, 1), (0xfb50, 0x671, 1),
  (0xfb51, 0x671, 1), (0xfb52, 0x67b, 1), (0xfb53, 0x67b, 1), (0xfb54, 0x67b, 1),
  (0xfb55, 0x67b, 1), (0xfb56, 0x67e, 1), (0xfb57, 0x67e, 1), (0xfb58, 0x67e, 1),
  (0xfb59, 0x67e, 1), (0xfb5a, 0x680, 1), (0xfb5b, 0x680, 1), (0xfb5c, 0x680, 1),
  (0xfb5d, 0x680, 1), (0xfb5e, 0x67a, 1), (0xfb5f, 0x67a, 1), (0xfb60, 0x67a, 1)]

/-- Part 8 of `runs`, from 0xfb61 to 0xfbfe. -/
def runs8 : List (Nat × Nat × Nat) := [
  (0xfb61, 0x67a, 1), (0xfb62, 0x67f, 1), (0xfb63, 0x67f, 1), (0xfb64, 0x67f, 1),
  (0xfb65, 0x67f, 1), (0xfb66, 0x679, 1), (0xfb67, 0x679, 1), (0xfb68, 0x679, 1),
  (0xfb69, 0x679, 1), (0xfb6a, 0x6a4, 1), (0xfb6b, 0x6a4, 1), (0xfb6c, 0x6a4, 1),
  (0xfb6d, 0x6a4, 1), (0xfb6e, 0x6a6, 1), (0xfb6f, 0x6a6, 1), (0xfb70, 0x6a6, 1),
  (0xfb71, 0x6a6, 1), (0xfb72, 0x684, 1), (0xfb73, 0x684, 1), (0xfb74, 0x684, 1),
  (0xfb75, 0x684, 1), (0xfb76, 0x683, 1), (0xfb77, 0x683, 1), (0xfb78, 0x683, 1),
  (0xfb79, 0x683, 1), (0xfb7a, 0x686, 1), (0xfb7b, 0x686, 1), (0xfb7c, 0x686, 1),
  (0xfb7d, 0x686, 2), (0xfb7f, 0x687, 1), (0xfb80, 0x687, 1), (0xfb81, 0x687, 1),
  (0xfb82, 0x68d, 1), (0xfb83, 0x68d, 1), (0xfb84, 0x68c, 1), (0xfb85, 0x68c, 1),
  (0xfb86, 0x68e, 1), (0xfb87, 0x68e, 1), (0xfb88, 0x688, 1), (0xfb89, 0x688, 1),
  (0xfb8a, 0x698, 1), (0xfb8b, 0x698, 1), (0xfb8c, 0x691, 1), (0xfb8d, 0x691, 1),
  (0xfb8e, 0x6a9, 1), (0xfb8f, 0x6a9, 1), (0xfb90, 0x6a9, 1), (0xfb91, 0x6a9, 1),
  (0xfb92, 0x6af, 1), (0xfb93, 0x6af, 1), (0xfb94, 0x6af, 1), (0xfb95, 0x6af, 1),
  (0xfb96, 0x6b3, 1), (0xfb97, 0x6b3, 1), (0xfb98, 0x6b3, 1), (0xfb99, 0x6b3, 1),
  (0xfb9a, 0x6b1, 1), (0xfb9b, 0x6b1, 1), (0xfb9c, 0x6b1, 1), (0xfb9d, 0x6b1, 1),
  (0xfb9e, 0x6ba, 1), (0xfb9f, 0x6ba, 2), (0xfba1, 0x6bb, 1), (0xfba2, 0x6bb, 1),
  (0xfba3, 0x6bb, 1), (0xfba6, 0x6c1, 1), (0xfba7, 0x6c1, 1), (0xfba8, 0x6c1, 1),
  (0xfba9, 0x6c1, 1), (0xfbaa, 0x6be, 1), (0xfbab, 0x6be, 1), (0xfbac, 0x6be, 1),
  (0xfbad, 0x6be, 1), (0xfbae, 0x6d2, 1), (0xfbaf, 0x6d2, 1), (0xfbd3, 0x6ad, 1),
  (0xfbd4, 0x6ad, 1), (0xfbd5, 0x6ad, 1), (0xfbd6, 0x6ad, 1), (0xfbd7, 0x6c7, 1),
  (0xfbd8, 0x6c7, 1), (0xfbd9, 0x6c6, 1), (0xfbda, 0x6c6, 1), (0xfbdb, 0x6c8, 1),
  (0xfbdc, 0x6c8, 1), (0xfbde, 0x6cb, 1), (0xfbdf, 0x6cb, 1), (0xfbe0, 0x6c5, 1),
  (0xfbe1, 0x6c5, 1), (0xfbe2, 0x6c9, 1), (0xfbe3, 0x6c9, 1), (0xfbe4, 0x6d0, 1),
  (0xfbe5, 0x6d0, 1), (0xfbe6, 0x6d0, 1), (0xfbe7, 0x6d0, 1), (0xfbe8, 0x649, 1),
  (0xfbe9, 0x649, 1), (0xfbfc, 0x6cc, 1), (0xfbfd, 0x6cc, 1), (0xfbfe, 0x6cc, 1)]

/-- Part 9 of `runs`, from 0xfbff to 0xff72. -/
def runs9 : List (Nat × Nat × Nat) := [
  (0xfbff, 0x6cc, 1), (0xfe33, 0x5f, 1), (0xfe34, 0x5f, 1), (0xfe4d, 0x5f, 1), (0xfe4e, 0x5f, 1),
  (0xfe4f, 0x5f, 1), (0xfe80, 0x621, 1), (0xfe8d, 0x627, 1), (0xfe8e, 0x627, 2),
  (0xfe90, 0x628, 1), (0xfe91, 0x628, 1), (0xfe92, 0x628, 2), (0xfe94, 0x629, 2),
  (0xfe96, 0x62a, 1), (0xfe97, 0x62a, 1), (0xfe98, 0x62a, 2), (0xfe9a, 0x62b, 1),
  (0xfe9b, 0x62b, 1), (0xfe9c, 0x62b, 2), (0xfe9e, 0x62c, 1), (0xfe9f, 0x62c, 1),
  (0xfea0, 0x62c, 2), (0xfea2, 0x62d, 1), (0xfea3, 0x62d, 1), (0xfea4, 0x62d, 2),
  (0xfea6, 0x62e, 1), (0xfea7, 0x62e, 1), (0xfea8, 0x62e, 2), (0xfeaa, 0x62f, 2),
  (0xfeac, 0x630, 2), (0xfeae, 0x631, 2), (0xfeb0, 0x632, 2), (0xfeb2, 0x633, 1),
  (0xfeb3, 0x633, 1), (0xfeb4, 0x633, 2), (0xfeb6, 0x634, 1), (0xfeb7, 0x634, 1),
  (0xfeb8, 0x634, 2), (0xfeba, 0x635, 1), (0xfebb, 0x635, 1), (0xfebc, 0x635, 2),
  (0xfebe, 0x636, 1), (0xfebf, 0x636, 1), (0xfec0, 0x636, 2), (0xfec2, 0x637, 1),
  (0xfec3, 0x637, 1), (0xfec4, 0x637, 2), (0xfec6, 0x638, 1), (0xfec7, 0x638, 1),
  (0xfec8, 0x638, 2), (0xfeca, 0x639, 1), (0xfecb, 0x639, 1), (0xfecc, 0x639, 2),
  (0xfece, 0x63a, 1), (0xfecf, 0x63a, 1), (0xfed0, 0x63a, 1), (0xfed1, 0x641, 1),
  (0xfed2, 0x641, 1), (0xfed3, 0x641, 1), (0xfed4, 0x641, 2), (0xfed6, 0x642, 1),
  (0xfed7, 0x642, 1), (0xfed8, 0x642, 2), (0xfeda, 0x643, 1), (0xfedb, 0x643, 1),
  (0xfedc, 0x643, 2), (0xfede, 0x644, 1), (0xfedf, 0x644, 1), (0xfee0, 0x644, 2),
  (0xfee2, 0x645, 1), (0xfee3, 0x645, 1), (0xfee4, 0x645, 2), (0xfee6, 0x646, 1),
  (0xfee7, 0x646, 1), (0xfee8, 0x646, 2), (0xfeea, 0x647, 1), (0xfeeb, 0x647, 1),
  (0xfeec, 0x647, 2), (0xfeee, 0x648, 2), (0xfef0, 0x649, 2), (0xfef2, 0x64a, 1),
  (0xfef3, 0x64a, 1), (0xfef4, 0x64a, 1), (0xff10, 0x30, 10), (0xff21, 0x41, 26),
  (0xff3f, 0x5f, 1), (0xff41, 0x61, 26), (0xff66, 0x30f2, 1), (0xff67, 0x30a1, 1),
  (0xff68, 0x30a3, 1), (0xff69, 0x30a5, 1), (0xff6a, 0x30a7, 1), (0xff6b, 0x30a9, 1),
  (0xff6c, 0x30e3, 1), (0xff6d, 0x30e5, 1), (0xff6e, 0x30e7, 1), (0xff6f, 0x30c3, 1),
  (0xff70, 0x30fc, 1), (0xff71, 0x30a2, 1), (0xff72, 0x30a4, 1)]

/-- Part 10 of `runs`, from 0xff73 to 0x1d49c. -/
def runs10 : List (Nat × Nat × Nat) := [
  (0xff73, 0x30a6, 1), (0xff74, 0x30a8, 1), (0xff75, 0x30aa, 2), (0xff77, 0x30ad, 1),
  (0xff78, 0x30af, 1), (0xff79, 0x30b1, 1), (0xff7a, 0x30b3, 1), (0xff7b, 0x30b5, 1),
  (0xff7c, 0x30b7, 1), (0xff7d, 0x30b9, 1), (0xff7e, 0x30bb, 1), (0xff7f, 0x30bd, 1),
  (0xff80, 0x30bf, 1), (0xff81, 0x30c1, 1), (0xff82, 0x30c4, 1), (0xff83, 0x30c6, 1),
  (0xff84, 0x30c8, 1), (0xff85, 0x30ca, 6), (0xff8b, 0x30d2, 1), (0xff8c, 0x30d5, 1),
  (0xff8d, 0x30d8, 1), (0xff8e, 0x30db, 1), (0xff8f, 0x30de, 5), (0xff94, 0x30e4, 1),
  (0xff95, 0x30e6, 1), (0xff96, 0x30e8, 6), (0xff9c, 0x30ef, 1), (0xff9d, 0x30f3, 1),
  (0xff9e, 0x3099, 2), (0xffa0, 0x1160, 1), (0xffa1, 0x1100, 2), (0xffa3, 0x11aa, 1),
  (0xffa4, 0x1102, 1), (0xffa5, 0x11ac, 2), (0xffa7, 0x1103, 3), (0xffaa, 0x11b0, 6),
  (0xffb0, 0x111a, 1), (0xffb1, 0x1106, 3), (0xffb4, 0x1121, 1), (0xffb5, 0x1109, 10),
  (0xffc2, 0x1161, 6), (0xffca, 0x1167, 6), (0xffd2, 0x116d, 6), (0xffda, 0x1173, 3),
  (0x10781, 0x2d0, 2), (0x10783, 0xe6, 1), (0x10784, 0x299, 1), (0x10785, 0x253, 1),
  (0x10787, 0x2a3, 1), (0x10788, 0xab66, 1), (0x10789, 0x2a5, 1), (0x1078a, 0x2a4, 1),
  (0x1078b, 0x256, 2), (0x1078d, 0x1d91, 1), (0x1078e, 0x258, 1), (0x1078f, 0x25e, 1),
  (0x10790, 0x2a9, 1), (0x10791, 0x264, 1), (0x10792, 0x262, 1), (0x10793, 0x260, 1),
  (0x10794, 0x29b, 1), (0x10795, 0x127, 1), (0x10796, 0x29c, 1), (0x10797, 0x267, 1),
  (0x10798, 0x284, 1), (0x10799, 0x2aa, 2), (0x1079b, 0x26c, 1), (0x1079c, 0x1df04, 1),
  (0x1079d, 0xa78e, 1), (0x1079e, 0x26e, 1), (0x1079f, 0x1df05, 1), (0x107a0, 0x28e, 1),
  (0x107a1, 0x1df06, 1), (0x107a2, 0xf8, 1), (0x107a3, 0x276, 2), (0x107a5, 0x71, 1),
  (0x107a6, 0x27a, 1), (0x107a7, 0x1df08, 1), (0x107a8, 0x27d, 2), (0x107aa, 0x280, 1),
  (0x107ab, 0x2a8, 1), (0x107ac, 0x2a6, 1), (0x107ad, 0xab67, 1), (0x107ae, 0x2a7, 1),
  (0x107af, 0x288, 1), (0x107b0, 0x2c71, 1), (0x107b2, 0x28f, 1), (0x107b3, 0x2a1, 2),
  (0x107b5, 0x298, 1), (0x107b6, 0x1c0, 3), (0x107b9, 0x1df0a, 1), (0x107ba, 0x1df1e, 1),
  (0x1d400, 0x41, 26), (0x1d41a, 0x61, 26), (0x1d434, 0x41, 26), (0x1d44e, 0x61, 7),
  (0x1d456, 0x69, 18), (0x1d468, 0x41, 26), (0x1d482, 0x61, 26), (0x1d49c, 0x41, 1)]

/-- Part 11 of `runs`, from 0x1d49e to 0x1ee09. -/
def runs11 : List (Nat × Nat × Nat) := [
  (0x1d49e, 0x43, 2), (0x1d4a2, 0x47, 1), (0x1d4a5, 0x4a, 2), (0x1d4a9, 0x4e, 4),
  (0x1d4ae, 0x53, 8), (0x1d4b6, 0x61, 4), (0x1d4bb, 0x66, 1), (0x1d4bd, 0x68, 7),
  (0x1d4c5, 0x70, 11), (0x1d4d0, 0x41, 26), (0x1d4ea, 0x61, 26), (0x1d504, 0x41, 2),
  (0x1d507, 0x44, 4), (0x1d50d, 0x4a, 8), (0x1d516, 0x53, 7), (0x1d51e, 0x61, 26),
  (0x1d538, 0x41, 2), (0x1d53b, 0x44, 4), (0x1d540, 0x49, 5), (0x1d546, 0x4f, 1),
  (0x1d54a, 0x53, 7), (0x1d552, 0x61, 26), (0x1d56c, 0x41, 26), (0x1d586, 0x61, 26),
  (0x1d5a0, 0x41, 26), (0x1d5ba, 0x61, 26), (0x1d5d4, 0x41, 26), (0x1d5ee, 0x61, 26),
  (0x1d608, 0x41, 26), (0x1d622, 0x61, 26), (0x1d63c, 0x41, 26), (0x1d656, 0x61, 26),
  (0x1d670, 0x41, 26), (0x1d68a, 0x61, 26), (0x1d6a4, 0x131, 1), (0x1d6a5, 0x237, 1),
  (0x1d6a8, 0x391, 17), (0x1d6b9, 0x398, 1), (0x1d6ba, 0x3a3, 7), (0x1d6c2, 0x3b1, 25),
  (0x1d6dc, 0x3b5, 1), (0x1d6dd, 0x3b8, 1), (0x1d6de, 0x3ba, 1), (0x1d6df, 0x3c6, 1),
  (0x1d6e0, 0x3c1, 1), (0x1d6e1, 0x3c0, 1), (0x1d6e2, 0x391, 17), (0x1d6f3, 0x398, 1),
  (0x1d6f4, 0x3a3, 7), (0x1d6fc, 0x3b1, 25), (0x1d716, 0x3b5, 1), (0x1d717, 0x3b8, 1),
  (0x1d718, 0x3ba, 1), (0x1d719, 0x3c6, 1), (0x1d71a, 0x3c1, 1), (0x1d71b, 0x3c0, 1),
  (0x1d71c, 0x391, 17), (0x1d72d, 0x398, 1), (0x1d72e, 0x3a3, 7), (0x1d736, 0x3b1, 25),
  (0x1d750, 0x3b5, 1), (0x1d751, 0x3b8, 1), (0x1d752, 0x3ba, 1), (0x1d753, 0x3c6, 1),
  (0x1d754, 0x3c1, 1), (0x1d755, 0x3c0, 1), (0x1d756, 0x391, 17), (0x1d767, 0x398, 1),
  (0x1d768, 0x3a3, 7), (0x1d770, 0x3b1, 25), (0x1d78a, 0x3b5, 1), (0x1d78b, 0x3b8, 1),
  (0x1d78c, 0x3ba, 1), (0x1d78d, 0x3c6, 1), (0x1d78e, 0x3c1, 1), (0x1d78f, 0x3c0, 1),
  (0x1d790, 0x391, 17), (0x1d7a1, 0x398, 1), (0x1d7a2, 0x3a3, 7), (0x1d7aa, 0x3b1, 25),
  (0x1d7c4, 0x3b5, 1), (0x1d7c5, 0x3b8, 1), (0x1d7c6, 0x3ba, 1), (0x1d7c7, 0x3c6, 1),
  (0x1d7c8, 0x3c1, 1), (0x1d7c9, 0x3c0, 1), (0x1d7ca, 0x3dc, 2), (0x1d7ce, 0x30, 10),
  (0x1d7d8, 0x30, 10), (0x1d7e2, 0x30, 10), (0x1d7ec, 0x30, 10), (0x1d7f6, 0x30, 10),
  (0x1ee00, 0x627, 2), (0x1ee02, 0x62c, 1), (0x1ee03, 0x62f, 1), (0x1ee05, 0x648, 1),
  (0x1ee06, 0x632, 1), (0x1ee07, 0x62d, 1), (0x1ee08, 0x637, 1), (0x1ee09, 0x64a, 1)]

/-- Part 12 of `runs`, from 0x1ee0a to 0x1eea9. -/
def runs12 : List (Nat × Nat × Nat) := [
  (0x1ee0a, 0x643, 4), (0x1ee0e, 0x633, 1), (0x1ee0f, 0x639, 1), (0x1ee10, 0x641, 1),
  (0x1ee11, 0x635, 1), (0x1ee12, 0x642, 1), (0x1ee13, 0x631, 1), (0x1ee14, 0x634, 1),
  (0x1ee15, 0x62a, 2), (0x1ee17, 0x62e, 1), (0x1ee18, 0x630, 1), (0x1ee19, 0x636, 1),
  (0x1ee1a, 0x638, 1), (0x1ee1b, 0x63a, 1), (0x1ee1c, 0x66e, 1), (0x1ee1d, 0x6ba, 1),
  (0x1ee1e, 0x6a1, 1), (0x1ee1f, 0x66f, 1), (0x1ee21, 0x628, 1), (0x1ee22, 0x62c, 1),
  (0x1ee24, 0x647, 1), (0x1ee27, 0x62d, 1), (0x1ee29, 0x64a, 1), (0x1ee2a, 0x643, 4),
  (0x1ee2e, 0x633, 1), (0x1ee2f, 0x639, 1), (0x1ee30, 0x641, 1), (0x1ee31, 0x635, 1),
  (0x1ee32, 0x642, 1), (0x1ee34, 0x634, 1), (0x1ee35, 0x62a, 2), (0x1ee37, 0x62e, 1),
  (0x1ee39, 0x636, 1), (0x1ee3b, 0x63a, 1), (0x1ee42, 0x62c, 1), (0x1ee47, 0x62d, 1),
  (0x1ee49, 0x64a, 1), (0x1ee4b, 0x644, 1), (0x1ee4d, 0x646, 1), (0x1ee4e, 0x633, 1),
  (0x1ee4f, 0x639, 1), (0x1ee51, 0x635, 1), (0x1ee52, 0x642, 1), (0x1ee54, 0x634, 1),
  (0x1ee57, 0x62e, 1), (0x1ee59, 0x636, 1), (0x1ee5b, 0x63a, 1), (0x1ee5d, 0x6ba, 1),
  (0x1ee5f, 0x66f, 1), (0x1ee61, 0x628, 1), (0x1ee62, 0x62c, 1), (0x1ee64, 0x647, 1),
  (0x1ee67, 0x62d, 1), (0x1ee68, 0x637, 1), (0x1ee69, 0x64a, 1), (0x1ee6a, 0x643, 1),
  (0x1ee6c, 0x645, 2), (0x1ee6e, 0x633, 1), (0x1ee6f, 0x639, 1), (0x1ee70, 0x641, 1),
  (0x1ee71, 0x635, 1), (0x1ee72, 0x642, 1), (0x1ee74, 0x634, 1), (0x1ee75, 0x62a, 2),
  (0x1ee77, 0x62e, 1), (0x1ee79, 0x636, 1), (0x1ee7a, 0x638, 1), (0x1ee7b, 0x63a, 1),
  (0x1ee7c, 0x66e, 1), (0x1ee7e, 0x6a1, 1), (0x1ee80, 0x627, 2), (0x1ee82, 0x62c, 1),
  (0x1ee83, 0x62f, 1), (0x1ee84, 0x647, 2), (0x1ee86, 0x632, 1), (0x1ee87, 0x62d, 1),
  (0x1ee88, 0x637, 1), (0x1ee89, 0x64a, 1), (0x1ee8b, 0x644, 3), (0x1ee8e, 0x633, 1),
  (0x1ee8f, 0x639, 1), (0x1ee90, 0x641, 1), (0x1ee91, 0x635, 1), (0x1ee92, 0x642, 1),
  (0x1ee93, 0x631, 1), (0x1ee94, 0x634, 1), (0x1ee95, 0x62a, 2), (0x1ee97, 0x62e, 1),
  (0x1ee98, 0x630, 1), (0x1ee99, 0x636, 1), (0x1ee9a, 0x638, 1), (0x1ee9b, 0x63a, 1),
  (0x1eea1, 0x628, 1), (0x1eea2, 0x62c, 1), (0x1eea3, 0x62f, 1), (0x1eea5, 0x648, 1),
  (0x1eea6, 0x632, 1), (0x1eea7, 0x62d, 1), (0x1eea8, 0x637, 1), (0x1eea9, 0x64a, 1)]

/-- Part 13 of `runs`, from 0x1eeab to 0x2f855. -/
def runs13 : List (Nat × Nat × Nat) := [
  (0x1eeab, 0x644, 3), (0x1eeae, 0x633, 1), (0x1eeaf, 0x639, 1), (0x1eeb0, 0x641, 1),
  (0x1eeb1, 0x635, 1), (0x1eeb2, 0x642, 1), (0x1eeb3, 0x631, 1), (0x1eeb4, 0x634, 1),
  (0x1eeb5, 0x62a, 2), (0x1eeb7, 0x62e, 1), (0x1eeb8, 0x630, 1), (0x1eeb9, 0x636, 1),
  (0x1eeba, 0x638, 1), (0x1eebb, 0x63a, 1), (0x1fbf0, 0x30, 10), (0x2f800, 0x4e3d, 1),
  (0x2f801, 0x4e38, 1), (0x2f802, 0x4e41, 1), (0x2f803, 0x20122, 1), (0x2f804, 0x4f60, 1),
  (0x2f805, 0x4fae, 1), (0x2f806, 0x4fbb, 1), (0x2f807, 0x5002, 1), (0x2f808, 0x507a, 1),
  (0x2f809, 0x5099, 1), (0x2f80a, 0x50e7, 1), (0x2f80b, 0x50cf, 1), (0x2f80c, 0x349e, 1),
  (0x2f80d, 0x2063a, 1), (0x2f80e, 0x514d, 1), (0x2f80f, 0x5154, 1), (0x2f810, 0x5164, 1),
  (0x2f811, 0x5177, 1), (0x2f812, 0x2051c, 1), (0x2f813, 0x34b9, 1), (0x2f814, 0x5167, 1),
  (0x2f815, 0x518d, 1), (0x2f816, 0x2054b, 1), (0x2f817, 0x5197, 1), (0x2f818, 0x51a4, 1),
  (0x2f819, 0x4ecc, 1), (0x2f81a, 0x51ac, 1), (0x2f81b, 0x51b5, 1), (0x2f81c, 0x291df, 1),
  (0x2f81d, 0x51f5, 1), (0x2f81e, 0x5203, 1), (0x2f81f, 0x34df, 1), (0x2f820, 0x523b, 1),
  (0x2f821, 0x5246, 1), (0x2f822, 0x5272, 1), (0x2f823, 0x5277, 1), (0x2f824, 0x3515, 1),
  (0x2f825, 0x52c7, 1), (0x2f826, 0x52c9, 1), (0x2f827, 0x52e4, 1), (0x2f828, 0x52fa, 1),
  (0x2f829, 0x5305, 2), (0x2f82b, 0x5317, 1), (0x2f82c, 0x5349, 1), (0x2f82d, 0x5351, 1),
  (0x2f82e, 0x535a, 1), (0x2f82f, 0x5373, 1), (0x2f830, 0x537d, 1), (0x2f831, 0x537f, 1),
  (0x2f832, 0x537f, 1), (0x2f833, 0x537f, 1), (0x2f834, 0x20a2c, 1), (0x2f835, 0x7070, 1),
  (0x2f836, 0x53ca, 1), (0x2f837, 0x53df, 1), (0x2f838, 0x20b63, 1), (0x2f839, 0x53eb, 1),
  (0x2f83a, 0x53f1, 1), (0x2f83b, 0x5406, 1), (0x2f83c, 0x549e, 1), (0x2f83d, 0x5438, 1),
  (0x2f83e, 0x5448, 1), (0x2f83f, 0x5468, 1), (0x2f840, 0x54a2, 1), (0x2f841, 0x54f6, 1),
  (0x2f842, 0x5510, 1), (0x2f843, 0x5553, 1), (0x2f844, 0x5563, 1), (0x2f845, 0x5584, 1),
  (0x2f846, 0x5584, 1), (0x2f847, 0x5599, 1), (0x2f848, 0x55ab, 1), (0x2f849, 0x55b3, 1),
  (0x2f84a, 0x55c2, 1), (0x2f84b, 0x5716, 1), (0x2f84c, 0x5606, 1), (0x2f84d, 0x5717, 1),
  (0x2f84e, 0x5651, 1), (0x2f84f, 0x5674, 1), (0x2f850, 0x5207, 1), (0x2f851, 0x58ee, 1),
  (0x2f852, 0x57ce, 1), (0x2f853, 0x57f4, 1), (0x2f854, 0x580d, 1), (0x2f855, 0x578b, 1)]

/-- Part 14 of `runs`, from 0x2f856 to 0x2f8ba. -/
def runs14 : List (Nat × Nat × Nat) := [
  (0x2f856, 0x5832, 1), (0x2f857, 0x5831, 1), (0x2f858, 0x58ac, 1), (0x2f859, 0x214e4, 1),
  (0x2f85a, 0x58f2, 1), (0x2f85b, 0x58f7, 1), (0x2f85c, 0x5906, 1), (0x2f85d, 0x591a, 1),
  (0x2f85e, 0x5922, 1), (0x2f85f, 0x5962, 1), (0x2f860, 0x216a8, 1), (0x2f861, 0x216ea, 1),
  (0x2f862, 0x59ec, 1), (0x2f863, 0x5a1b, 1), (0x2f864, 0x5a27, 1), (0x2f865, 0x59d8, 1),
  (0x2f866, 0x5a66, 1), (0x2f867, 0x36ee, 1), (0x2f868, 0x36fc, 1), (0x2f869, 0x5b08, 1),
  (0x2f86a, 0x5b3e, 1), (0x2f86b, 0x5b3e, 1), (0x2f86c, 0x219c8, 1), (0x2f86d, 0x5bc3, 1),
  (0x2f86e, 0x5bd8, 1), (0x2f86f, 0x5be7, 1), (0x2f870, 0x5bf3, 1), (0x2f871, 0x21b18, 1),
  (0x2f872, 0x5bff, 1), (0x2f873, 0x5c06, 1), (0x2f874, 0x5f53, 1), (0x2f875, 0x5c22, 1),
  (0x2f876, 0x3781, 1), (0x2f877, 0x5c60, 1), (0x2f878, 0x5c6e, 1), (0x2f879, 0x5cc0, 1),
  (0x2f87a, 0x5c8d, 1), (0x2f87b, 0x21de4, 1), (0x2f87c, 0x5d43, 1), (0x2f87d, 0x21de6, 1),
  (0x2f87e, 0x5d6e, 1), (0x2f87f, 0x5d6b, 1), (0x2f880, 0x5d7c, 1), (0x2f881, 0x5de1, 2),
  (0x2f883, 0x382f, 1), (0x2f884, 0x5dfd, 1), (0x2f885, 0x5e28, 1), (0x2f886, 0x5e3d, 1),
  (0x2f887, 0x5e69, 1), (0x2f888, 0x3862, 1), (0x2f889, 0x22183, 1), (0x2f88a, 0x387c, 1),
  (0x2f88b, 0x5eb0, 1), (0x2f88c, 0x5eb3, 1), (0x2f88d, 0x5eb6, 1), (0x2f88e, 0x5eca, 1),
  (0x2f88f, 0x2a392, 1), (0x2f890, 0x5efe, 1), (0x2f891, 0x22331, 1), (0x2f892, 0x22331, 1),
  (0x2f893, 0x8201, 1), (0x2f894, 0x5f22, 1), (0x2f895, 0x5f22, 1), (0x2f896, 0x38c7, 1),
  (0x2f897, 0x232b8, 1), (0x2f898, 0x261da, 1), (0x2f899, 0x5f62, 1), (0x2f89a, 0x5f6b, 1),
  (0x2f89b, 0x38e3, 1), (0x2f89c, 0x5f9a, 1), (0x2f89d, 0x5fcd, 1), (0x2f89e, 0x5fd7, 1),
  (0x2f89f, 0x5ff9, 1), (0x2f8a0, 0x6081, 1), (0x2f8a1, 0x393a, 1), (0x2f8a2, 0x391c, 1),
  (0x2f8a3, 0x6094, 1), (0x2f8a4, 0x226d4, 1), (0x2f8a5, 0x60c7, 1), (0x2f8a6, 0x6148, 1),
  (0x2f8a7, 0x614c, 1), (0x2f8a8, 0x614e, 1), (0x2f8a9, 0x614c, 1), (0x2f8aa, 0x617a, 1),
  (0x2f8ab, 0x618e, 1), (0x2f8ac, 0x61b2, 1), (0x2f8ad, 0x61a4, 1), (0x2f8ae, 0x61af, 1),
  (0x2f8af, 0x61de, 1), (0x2f8b0, 0x61f2, 1), (0x2f8b1, 0x61f6, 1), (0x2f8b2, 0x6210, 1),
  (0x2f8b3, 0x621b, 1), (0x2f8b4, 0x625d, 1), (0x2f8b5, 0x62b1, 1), (0x2f8b6, 0x62d4, 1),
  (0x2f8b7, 0x6350, 1), (0x2f8b8, 0x22b0c, 1), (0x2f8b9, 0x633d, 1), (0x2f8ba, 0x62fc, 1)]

/-- Part 15 of `runs`, from 0x2f8bb to 0x2f91f. -/
def runs15 : List (Nat × Nat × Nat) := [
  (0x2f8bb, 0x6368, 1), (0x2f8bc, 0x6383, 1), (0x2f8bd, 0x63e4, 1), (0x2f8be, 0x22bf1, 1),
  (0x2f8bf, 0x6422, 1), (0x2f8c0, 0x63c5, 1), (0x2f8c1, 0x63a9, 1), (0x2f8c2, 0x3a2e, 1),
  (0x2f8c3, 0x6469, 1), (0x2f8c4, 0x647e, 1), (0x2f8c5, 0x649d, 1), (0x2f8c6, 0x6477, 1),
  (0x2f8c7, 0x3a6c, 1), (0x2f8c8, 0x654f, 1), (0x2f8c9, 0x656c, 1), (0x2f8ca, 0x2300a, 1),
  (0x2f8cb, 0x65e3, 1), (0x2f8cc, 0x66f8, 1), (0x2f8cd, 0x6649, 1), (0x2f8ce, 0x3b19, 1),
  (0x2f8cf, 0x6691, 1), (0x2f8d0, 0x3b08, 1), (0x2f8d1, 0x3ae4, 1), (0x2f8d2, 0x5192, 1),
  (0x2f8d3, 0x5195, 1), (0x2f8d4, 0x6700, 1), (0x2f8d5, 0x669c, 1), (0x2f8d6, 0x80ad, 1),
  (0x2f8d7, 0x43d9, 1), (0x2f8d8, 0x6717, 1), (0x2f8d9, 0x671b, 1), (0x2f8da, 0x6721, 1),
  (0x2f8db, 0x675e, 1), (0x2f8dc, 0x6753, 1), (0x2f8dd, 0x233c3, 1), (0x2f8de, 0x3b49, 1),
  (0x2f8df, 0x67fa, 1), (0x2f8e0, 0x6785, 1), (0x2f8e1, 0x6852, 1), (0x2f8e2, 0x6885, 1),
  (0x2f8e3, 0x2346d, 1), (0x2f8e4, 0x688e, 1), (0x2f8e5, 0x681f, 1), (0x2f8e6, 0x6914, 1),
  (0x2f8e7, 0x3b9d, 1), (0x2f8e8, 0x6942, 1), (0x2f8e9, 0x69a3, 1), (0x2f8ea, 0x69ea, 1),
  (0x2f8eb, 0x6aa8, 1), (0x2f8ec, 0x236a3, 1), (0x2f8ed, 0x6adb, 1), (0x2f8ee, 0x3c18, 1),
  (0x2f8ef, 0x6b21, 1), (0x2f8f0, 0x238a7, 1), (0x2f8f1, 0x6b54, 1), (0x2f8f2, 0x3c4e, 1),
  (0x2f8f3, 0x6b72, 1), (0x2f8f4, 0x6b9f, 1), (0x2f8f5, 0x6bba, 2), (0x2f8f7, 0x23a8d, 1),
  (0x2f8f8, 0x21d0b, 1), (0x2f8f9, 0x23afa, 1), (0x2f8fa, 0x6c4e, 1), (0x2f8fb, 0x23cbc, 1),
  (0x2f8fc, 0x6cbf, 1), (0x2f8fd, 0x6ccd, 1), (0x2f8fe, 0x6c67, 1), (0x2f8ff, 0x6d16, 1),
  (0x2f900, 0x6d3e, 1), (0x2f901, 0x6d77, 1), (0x2f902, 0x6d41, 1), (0x2f903, 0x6d69, 1),
  (0x2f904, 0x6d78, 1), (0x2f905, 0x6d85, 1), (0x2f906, 0x23d1e, 1), (0x2f907, 0x6d34, 1),
  (0x2f908, 0x6e2f, 1), (0x2f909, 0x6e6e, 1), (0x2f90a, 0x3d33, 1), (0x2f90b, 0x6ecb, 1),
  (0x2f90c, 0x6ec7, 1), (0x2f90d, 0x23ed1, 1), (0x2f90e, 0x6df9, 1), (0x2f90f, 0x6f6e, 1),
  (0x2f910, 0x23f5e, 1), (0x2f911, 0x23f8e, 1), (0x2f912, 0x6fc6, 1), (0x2f913, 0x7039, 1),
  (0x2f914, 0x701e, 1), (0x2f915, 0x701b, 1), (0x2f916, 0x3d96, 1), (0x2f917, 0x704a, 1),
  (0x2f918, 0x707d, 1), (0x2f919, 0x7077, 1), (0x2f91a, 0x70ad, 1), (0x2f91b, 0x20525, 1),
  (0x2f91c, 0x7145, 1), (0x2f91d, 0x24263, 1), (0x2f91e, 0x719c, 1), (0x2f91f, 0x243ab, 1)]

/-- Part 16 of `runs`, from 0x2f920 to 0x2f984. -/
def runs16 : List (Nat × Nat × Nat) := [
  (0x2f920, 0x7228, 1), (0x2f921, 0x7235, 1), (0x2f922, 0x7250, 1), (0x2f923, 0x24608, 1),
  (0x2f924, 0x7280, 1), (0x2f925, 0x7295, 1), (0x2f926, 0x24735, 1), (0x2f927, 0x24814, 1),
  (0x2f928, 0x737a, 1), (0x2f929, 0x738b, 1), (0x2f92a, 0x3eac, 1), (0x2f92b, 0x73a5, 1),
  (0x2f92c, 0x3eb8, 1), (0x2f92d, 0x3eb8, 1), (0x2f92e, 0x7447, 1), (0x2f92f, 0x745c, 1),
  (0x2f930, 0x7471, 1), (0x2f931, 0x7485, 1), (0x2f932, 0x74ca, 1), (0x2f933, 0x3f1b, 1),
  (0x2f934, 0x7524, 1), (0x2f935, 0x24c36, 1), (0x2f936, 0x753e, 1), (0x2f937, 0x24c92, 1),
  (0x2f938, 0x7570, 1), (0x2f939, 0x2219f, 1), (0x2f93a, 0x7610, 1), (0x2f93b, 0x24fa1, 1),
  (0x2f93c, 0x24fb8, 1), (0x2f93d, 0x25044, 1), (0x2f93e, 0x3ffc, 1), (0x2f93f, 0x4008, 1),
  (0x2f940, 0x76f4, 1), (0x2f941, 0x250f3, 1), (0x2f942, 0x250f2, 1), (0x2f943, 0x25119, 1),
  (0x2f944, 0x25133, 1), (0x2f945, 0x771e, 2), (0x2f947, 0x771f, 1), (0x2f948, 0x774a, 1),
  (0x2f949, 0x4039, 1), (0x2f94a, 0x778b, 1), (0x2f94b, 0x4046, 1), (0x2f94c, 0x4096, 1),
  (0x2f94d, 0x2541d, 1), (0x2f94e, 0x784e, 1), (0x2f94f, 0x788c, 1), (0x2f950, 0x78cc, 1),
  (0x2f951, 0x40e3, 1), (0x2f952, 0x25626, 1), (0x2f953, 0x7956, 1), (0x2f954, 0x2569a, 1),
  (0x2f955, 0x256c5, 1), (0x2f956, 0x798f, 1), (0x2f957, 0x79eb, 1), (0x2f958, 0x412f, 1),
  (0x2f959, 0x7a40, 1), (0x2f95a, 0x7a4a, 1), (0x2f95b, 0x7a4f, 1), (0x2f95c, 0x2597c, 1),
  (0x2f95d, 0x25aa7, 1), (0x2f95e, 0x25aa7, 1), (0x2f95f, 0x7aee, 1), (0x2f960, 0x4202, 1),
  (0x2f961, 0x25bab, 1), (0x2f962, 0x7bc6, 1), (0x2f963, 0x7bc9, 1), (0x2f964, 0x4227, 1),
  (0x2f965, 0x25c80, 1), (0x2f966, 0x7cd2, 1), (0x2f967, 0x42a0, 1), (0x2f968, 0x7ce8, 1),
  (0x2f969, 0x7ce3, 1), (0x2f96a, 0x7d00, 1), (0x2f96b, 0x25f86, 1), (0x2f96c, 0x7d63, 1),
  (0x2f96d, 0x4301, 1), (0x2f96e, 0x7dc7, 1), (0x2f96f, 0x7e02, 1), (0x2f970, 0x7e45, 1),
  (0x2f971, 0x4334, 1), (0x2f972, 0x26228, 1), (0x2f973, 0x26247, 1), (0x2f974, 0x4359, 1),
  (0x2f975, 0x262d9, 1), (0x2f976, 0x7f7a, 1), (0x2f977, 0x2633e, 1), (0x2f978, 0x7f95, 1),
  (0x2f979, 0x7ffa, 1), (0x2f97a, 0x8005, 1), (0x2f97b, 0x264da, 1), (0x2f97c, 0x26523, 1),
  (0x2f97d, 0x8060, 1), (0x2f97e, 0x265a8, 1), (0x2f97f, 0x8070, 1), (0x2f980, 0x2335f, 1),
  (0x2f981, 0x43d5, 1), (0x2f982, 0x80b2, 1), (0x2f983, 0x8103, 1), (0x2f984, 0x440b, 1)]

/-- Part 17 of `runs`, from 0x2f985 to 0x2f9e8. -/
def runs17 : List (Nat × Nat × Nat) := [
  (0x2f985, 0x813e, 1), (0x2f986, 0x5ab5, 1), (0x2f987, 0x267a7, 1), (0x2f988, 0x267b5, 1),
  (0x2f989, 0x23393, 1), (0x2f98a, 0x2339c, 1), (0x2f98b, 0x8201, 1), (0x2f98c, 0x8204, 1),
  (0x2f98d, 0x8f9e, 1), (0x2f98e, 0x446b, 1), (0x2f98f, 0x8291, 1), (0x2f990, 0x828b, 1),
  (0x2f991, 0x829d, 1), (0x2f992, 0x52b3, 1), (0x2f993, 0x82b1, 1), (0x2f994, 0x82b3, 1),
  (0x2f995, 0x82bd, 1), (0x2f996, 0x82e6, 1), (0x2f997, 0x26b3c, 1), (0x2f998, 0x82e5, 1),
  (0x2f999, 0x831d, 1), (0x2f99a, 0x8363, 1), (0x2f99b, 0x83ad, 1), (0x2f99c, 0x8323, 1),
  (0x2f99d, 0x83bd, 1), (0x2f99e, 0x83e7, 1), (0x2f99f, 0x8457, 1), (0x2f9a0, 0x8353, 1),
  (0x2f9a1, 0x83ca, 1), (0x2f9a2, 0x83cc, 1), (0x2f9a3, 0x83dc, 1), (0x2f9a4, 0x26c36, 1),
  (0x2f9a5, 0x26d6b, 1), (0x2f9a6, 0x26cd5, 1), (0x2f9a7, 0x452b, 1), (0x2f9a8, 0x84f1, 1),
  (0x2f9a9, 0x84f3, 1), (0x2f9aa, 0x8516, 1), (0x2f9ab, 0x273ca, 1), (0x2f9ac, 0x8564, 1),
  (0x2f9ad, 0x26f2c, 1), (0x2f9ae, 0x455d, 1), (0x2f9af, 0x4561, 1), (0x2f9b0, 0x26fb1, 1),
  (0x2f9b1, 0x270d2, 1), (0x2f9b2, 0x456b, 1), (0x2f9b3, 0x8650, 1), (0x2f9b4, 0x865c, 1),
  (0x2f9b5, 0x8667, 1), (0x2f9b6, 0x8669, 1), (0x2f9b7, 0x86a9, 1), (0x2f9b8, 0x8688, 1),
  (0x2f9b9, 0x870e, 1), (0x2f9ba, 0x86e2, 1), (0x2f9bb, 0x8779, 1), (0x2f9bc, 0x8728, 1),
  (0x2f9bd, 0x876b, 1), (0x2f9be, 0x8786, 1), (0x2f9bf, 0x45d7, 1), (0x2f9c0, 0x87e1, 1),
  (0x2f9c1, 0x8801, 1), (0x2f9c2, 0x45f9, 1), (0x2f9c3, 0x8860, 1), (0x2f9c4, 0x8863, 1),
  (0x2f9c5, 0x27667, 1), (0x2f9c6, 0x88d7, 1), (0x2f9c7, 0x88de, 1), (0x2f9c8, 0x4635, 1),
  (0x2f9c9, 0x88fa, 1), (0x2f9ca, 0x34bb, 1), (0x2f9cb, 0x278ae, 1), (0x2f9cc, 0x27966, 1),
  (0x2f9cd, 0x46be, 1), (0x2f9ce, 0x46c7, 1), (0x2f9cf, 0x8aa0, 1), (0x2f9d0, 0x8aed, 1),
  (0x2f9d1, 0x8b8a, 1), (0x2f9d2, 0x8c55, 1), (0x2f9d3, 0x27ca8, 1), (0x2f9d4, 0x8cab, 1),
  (0x2f9d5, 0x8cc1, 1), (0x2f9d6, 0x8d1b, 1), (0x2f9d7, 0x8d77, 1), (0x2f9d8, 0x27f2f, 1),
  (0x2f9d9, 0x20804, 1), (0x2f9da, 0x8dcb, 1), (0x2f9db, 0x8dbc, 1), (0x2f9dc, 0x8df0, 1),
  (0x2f9dd, 0x208de, 1), (0x2f9de, 0x8ed4, 1), (0x2f9df, 0x8f38, 1), (0x2f9e0, 0x285d2, 1),
  (0x2f9e1, 0x285ed, 1), (0x2f9e2, 0x9094, 1), (0x2f9e3, 0x90f1, 1), (0x2f9e4, 0x9111, 1),
  (0x2f9e5, 0x2872e, 1), (0x2f9e6, 0x911b, 1), (0x2f9e7, 0x9238, 1), (0x2f9e8, 0x92d7, 2)]

/-- Part 18 of `runs`, from 0x2f9ea to 0x2fa1d. -/
def runs18 : List (Nat × Nat × Nat) := [
  (0x2f9ea, 0x927c, 1), (0x2f9eb, 0x93f9, 1), (0x2f9ec, 0x9415, 1), (0x2f9ed, 0x28bfa, 1),
  (0x2f9ee, 0x958b, 1), (0x2f9ef, 0x4995, 1), (0x2f9f0, 0x95b7, 1), (0x2f9f1, 0x28d77, 1),
  (0x2f9f2, 0x49e6, 1), (0x2f9f3, 0x96c3, 1), (0x2f9f4, 0x5db2, 1), (0x2f9f5, 0x9723, 1),
  (0x2f9f6, 0x29145, 1), (0x2f9f7, 0x2921a, 1), (0x2f9f8, 0x4a6e, 1), (0x2f9f9, 0x4a76, 1),
  (0x2f9fa, 0x97e0, 1), (0x2f9fb, 0x2940a, 1), (0x2f9fc, 0x4ab2, 1), (0x2f9fd, 0x29496, 1),
  (0x2f9fe, 0x980b, 1), (0x2f9ff, 0x980b, 1), (0x2fa00, 0x9829, 1), (0x2fa01, 0x295b6, 1),
  (0x2fa02, 0x98e2, 1), (0x2fa03, 0x4b33, 1), (0x2fa04, 0x9929, 1), (0x2fa05, 0x99a7, 1),
  (0x2fa06, 0x99c2, 1), (0x2fa07, 0x99fe, 1), (0x2fa08, 0x4bce, 1), (0x2fa09, 0x29b30, 1),
  (0x2fa0a, 0x9b12, 1), (0x2fa0b, 0x9c40, 1), (0x2fa0c, 0x9cfd, 1), (0x2fa0d, 0x4cce, 1),
  (0x2fa0e, 0x4ced, 1), (0x2fa0f, 0x9d67, 1), (0x2fa10, 0x2a0ce, 1), (0x2fa11, 0x4cf8, 1),
  (0x2fa12, 0x2a105, 1), (0x2fa13, 0x2a20e, 1), (0x2fa14, 0x2a291, 1), (0x2fa15, 0x9ebb, 1),
  (0x2fa16, 0x4d56, 1), (0x2fa17, 0x9ef9, 1), (0x2fa18, 0x9efe, 1), (0x2fa19, 0x9f05, 1),
  (0x2fa1a, 0x9f0f, 1), (0x2fa1b, 0x9f16, 1), (0x2fa1c, 0x9f3b, 1), (0x2fa1d, 0x2a600, 1)]

/-- Runs of characters that stand for one character each. -/
def runs : List (Nat × Nat × Nat) :=
  runs1 ++ runs2 ++ runs3 ++ runs4 ++ runs5 ++ runs6 ++
  runs7 ++ runs8 ++ runs9 ++ runs10 ++ runs11 ++ runs12 ++
  runs13 ++ runs14 ++ runs15 ++ runs16 ++ runs17 ++ runs18

end FragmentRoutes.Text.Compatibility
