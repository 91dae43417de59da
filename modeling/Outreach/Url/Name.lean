import Outreach.Text.Printable
import Outreach.Text.Digit

/-!
# Characters of Host Names

Which characters beyond ASCII a host name may hold. They are the letters,
marks and digits that neither a change to lower case nor the replacement of
compatible characters alters. The table lists the printable ones that do not
belong to them; names are in lower case already.

## Main definitions

* `Url.barred`: The ranges of characters without a place in a name.
* `Url.isNameChar`: The characters with a place in a name.
-/

namespace Outreach

namespace Url

/-- Part 1 of `barred`. -/
def barred1 : List (Nat × Nat) :=
  [
    (0xa1, 0xd7), (0xf7, 0xf7), (0x133, 0x133), (0x140, 0x140),
    (0x149, 0x149), (0x17f, 0x17f), (0x1c6, 0x1cc), (0x1f3, 0x1f3),
    (0x2b0, 0x2b8), (0x2c2, 0x2c5), (0x2d2, 0x2eb), (0x2ed, 0x2ed),
    (0x2ef, 0x2ff), (0x340, 0x341), (0x343, 0x345), (0x34f, 0x34f),
    (0x374, 0x375), (0x37a, 0x37a), (0x37e, 0x387), (0x3d0, 0x3d6),
    (0x3f0, 0x3f2), (0x3f5, 0x3f6), (0x482, 0x482), (0x488, 0x489),
    (0x55a, 0x55f), (0x587, 0x587), (0x589, 0x58f), (0x5be, 0x5be),
    (0x5c0, 0x5c0), (0x5c3, 0x5c3), (0x5c6, 0x5c6), (0x5f3, 0x60f),
    (0x61b, 0x61f), (0x640, 0x640), (0x660, 0x66d), (0x675, 0x678),
    (0x6d4, 0x6d4), (0x6de, 0x6de), (0x6e9, 0x6e9), (0x6f0, 0x6f9),
    (0x700, 0x70d), (0x7f6, 0x7fa), (0x7fe, 0x7ff), (0x830, 0x83e),
    (0x85e, 0x85e), (0x888, 0x888), (0x958, 0x95f), (0x964, 0x965),
    (0x970, 0x970), (0x9dc, 0x9df), (0x9f2, 0x9fb), (0x9fd, 0x9fd),
    (0xa33, 0xa33), (0xa36, 0xa36), (0xa59, 0xa5b), (0xa5e, 0xa5e),
    (0xa76, 0xa76), (0xaf0, 0xaf1), (0xb5c, 0xb5d), (0xb70, 0xb70),
    (0xb72, 0xb77), (0xbf0, 0xbfa), (0xc77, 0xc7f), (0xc84, 0xc84),
    (0xd4f, 0xd4f), (0xd58, 0xd5e), (0xd70, 0xd79), (0xdf4, 0xdf4),
    (0xe33, 0xe33), (0xe3f, 0xe3f), (0xe4f, 0xe4f), (0xe5a, 0xe5b),
    (0xeb3, 0xeb3), (0xedc, 0xedd), (0xf01, 0xf0a), (0xf0c, 0xf17),
    (0xf1a, 0xf1f), (0xf2a, 0xf34), (0xf36, 0xf36), (0xf38, 0xf38),
    (0xf3a, 0xf3d), (0xf43, 0xf43), (0xf4d, 0xf4d), (0xf52, 0xf52),
    (0xf57, 0xf57), (0xf5c, 0xf5c), (0xf69, 0xf69), (0xf73, 0xf73),
    (0xf75, 0xf79), (0xf81, 0xf81), (0xf85, 0xf85), (0xf93, 0xf93),
    (0xf9d, 0xf9d), (0xfa2, 0xfa2), (0xfa7, 0xfa7), (0xfac, 0xfac),
    (0xfb9, 0xfb9), (0xfbe, 0xfc5), (0xfc7, 0xfda), (0x104a, 0x104f)
  ]

/-- Part 2 of `barred`. -/
def barred2 : List (Nat × Nat) :=
  [
    (0x109e, 0x109f), (0x10fb, 0x10fc), (0x1100, 0x11ff), (0x1360, 0x137c),
    (0x1390, 0x1399), (0x13f8, 0x1400), (0x166d, 0x166e), (0x169b, 0x169c),
    (0x16eb, 0x16f0), (0x1735, 0x1736), (0x17b4, 0x17b5), (0x17d4, 0x17d6),
    (0x17d8, 0x17db), (0x17f0, 0x180f), (0x1940, 0x1945), (0x19da, 0x19ff),
    (0x1a1e, 0x1a1f), (0x1aa0, 0x1aa6), (0x1aa8, 0x1aad), (0x1abe, 0x1abe),
    (0x1b5a, 0x1b6a), (0x1b74, 0x1b7e), (0x1bfc, 0x1bff), (0x1c3b, 0x1c3f),
    (0x1c7e, 0x1c88), (0x1cc0, 0x1cc7), (0x1cd3, 0x1cd3), (0x1d2c, 0x1d2e),
    (0x1d30, 0x1d3a), (0x1d3c, 0x1d4d), (0x1d4f, 0x1d6a), (0x1d78, 0x1d78),
    (0x1d9b, 0x1dbf), (0x1e9a, 0x1e9b), (0x1f71, 0x1f71), (0x1f73, 0x1f73),
    (0x1f75, 0x1f75), (0x1f77, 0x1f77), (0x1f79, 0x1f79), (0x1f7b, 0x1f7b),
    (0x1f7d, 0x1fa7), (0x1fb2, 0x1fb4), (0x1fb7, 0x1fc4), (0x1fc7, 0x1fcf),
    (0x1fd3, 0x1fd3), (0x1fdd, 0x1fdf), (0x1fe3, 0x1fe3), (0x1fed, 0x1ff4),
    (0x1ff7, 0x214d), (0x214f, 0x2182), (0x2185, 0x2bff), (0x2c7c, 0x2c7d),
    (0x2ce5, 0x2cea), (0x2cf9, 0x2cff), (0x2d6f, 0x2d70), (0x2e00, 0x2e2e),
    (0x2e30, 0x3004), (0x3008, 0x3029), (0x302e, 0x303b), (0x303d, 0x303f),
    (0x309b, 0x309c), (0x309f, 0x30a0), (0x30fb, 0x30fb), (0x30ff, 0x30ff),
    (0x3131, 0x319f), (0x31c0, 0x31e3), (0x3200, 0x33ff), (0x4dc0, 0x4dff),
    (0xa490, 0xa4c6), (0xa4fe, 0xa4ff), (0xa60d, 0xa60f), (0xa670, 0xa673),
    (0xa67e, 0xa67e), (0xa69c, 0xa69d), (0xa6e6, 0xa6ef), (0xa6f2, 0xa716),
    (0xa720, 0xa721), (0xa770, 0xa770), (0xa789, 0xa78a), (0xa7f2, 0xa7f4),
    (0xa7f8, 0xa7f9), (0xa828, 0xa82b), (0xa830, 0xa839), (0xa874, 0xa877),
    (0xa8ce, 0xa8cf), (0xa8f8, 0xa8fa), (0xa8fc, 0xa8fc), (0xa92e, 0xa92f),
    (0xa95f, 0xa97c), (0xa9c1, 0xa9cd), (0xa9de, 0xa9df), (0xaa5c, 0xaa5f),
    (0xaa77, 0xaa79), (0xaade, 0xaadf), (0xaaf0, 0xaaf1), (0xab5b, 0xab5f),
    (0xab69, 0xabbf), (0xabeb, 0xabeb), (0xd7b0, 0xfa0d), (0xfa10, 0xfa10)
  ]

/-- Part 3 of `barred`. -/
def barred3 : List (Nat × Nat) :=
  [
    (0xfa12, 0xfa12), (0xfa15, 0xfa1e), (0xfa20, 0xfa20), (0xfa22, 0xfa22),
    (0xfa25, 0xfa26), (0xfa2a, 0xfb1d), (0xfb1f, 0xfe19), (0xfe30, 0xfe72),
    (0xfe74, 0xfffd), (0x10100, 0x101fc), (0x102e1, 0x102fb), (0x10320, 0x10323),
    (0x10341, 0x10341), (0x1034a, 0x1034a), (0x1039f, 0x1039f), (0x103d0, 0x103d5),
    (0x1056f, 0x1056f), (0x10781, 0x107ba), (0x10857, 0x1085f), (0x10877, 0x1087f),
    (0x108a7, 0x108af), (0x108fb, 0x108ff), (0x10916, 0x1091f), (0x1093f, 0x1093f),
    (0x109bc, 0x109bd), (0x109c0, 0x109ff), (0x10a40, 0x10a58), (0x10a7d, 0x10a7f),
    (0x10a9d, 0x10a9f), (0x10ac8, 0x10ac8), (0x10aeb, 0x10af6), (0x10b39, 0x10b3f),
    (0x10b58, 0x10b5f), (0x10b78, 0x10b7f), (0x10b99, 0x10baf), (0x10cfa, 0x10cff),
    (0x10e60, 0x10e7e), (0x10ead, 0x10ead), (0x10f1d, 0x10f26), (0x10f51, 0x10f59),
    (0x10f86, 0x10f89), (0x10fc5, 0x10fcb), (0x11047, 0x11065), (0x110bb, 0x110c1),
    (0x11140, 0x11143), (0x11174, 0x11175), (0x111c5, 0x111c8), (0x111cd, 0x111cd),
    (0x111db, 0x111db), (0x111dd, 0x111f4), (0x11238, 0x1123d), (0x112a9, 0x112a9),
    (0x1144b, 0x1144f), (0x1145a, 0x1145d), (0x114c6, 0x114c6), (0x115c1, 0x115d7),
    (0x11641, 0x11643), (0x11660, 0x1166c), (0x116b9, 0x116b9), (0x1173a, 0x1173f),
    (0x1183b, 0x1183b), (0x118ea, 0x118f2), (0x11944, 0x11946), (0x119e2, 0x119e2),
    (0x11a3f, 0x11a46), (0x11a9a, 0x11a9c), (0x11a9e, 0x11aa2), (0x11c41, 0x11c45),
    (0x11c5a, 0x11c71), (0x11ef7, 0x11ef8), (0x11fc0, 0x11fff), (0x12400, 0x12474),
    (0x12ff1, 0x12ff2), (0x16a6e, 0x16a6f), (0x16af5, 0x16af5), (0x16b37, 0x16b3f),
    (0x16b44, 0x16b45), (0x16b5b, 0x16b61), (0x16e80, 0x16e9a), (0x16fe2, 0x16fe2),
    (0x1bc9c, 0x1bc9c), (0x1bc9f, 0x1bc9f), (0x1cf50, 0x1d9ff), (0x1da37, 0x1da3a),
    (0x1da6d, 0x1da74), (0x1da76, 0x1da83), (0x1da85, 0x1da8b), (0x1e14f, 0x1e14f),
    (0x1e2ff, 0x1e2ff), (0x1e8c7, 0x1e8cf), (0x1e95e, 0x1fbf9), (0x2f800, 0x2fa1d),
    (0xe0100, 0xe01ef)
  ]

/-- The ranges of printable characters beyond ASCII without a place in a name,
    in increasing order. -/
def barred : List (Nat × Nat) :=
  barred1 ++ barred2 ++ barred3

/-- The characters with a place in a name, whatever stands beside them. -/
def isNameChar (c : Char) : Bool :=
  if c.toNat < 0x80 then c.isLower || c.isDigit || c == '-'
  else Text.isPrintable c && !Text.inRanges barred c.toNat

end Url

end Outreach
