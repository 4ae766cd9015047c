import PowerGrant.Text.Percent

/-!
# Names of hosts

A name of a host is folded before it is looked up: escapes are read, capitals become small letters, and
many other characters stand for plain ones, such as full-width letters and digits or the full stops of
other scripts. Some are ignored.

* `HostName.fold?`: the folded name, if it is of ASCII characters that may stand in one. Other names are
  not known to anybody here.
-/

namespace PowerGrant.Web.HostName

/-! ## What characters stand for

A row says what the code points from the first number to the second one stand for: the characters that
follow each other from the one given, or the same text for each if it is no single character. -/

/-- Foldings 0 to 69. -/
def foldings0 : List (Nat × Nat × String) :=
  [(0xAA, 0xAA, "a"), (0xAD, 0xAD, ""), (0xB2, 0xB3, "2"), (0xB9, 0xB9, "1"), (0xBA, 0xBA, "o"),
   (0x17F, 0x17F, "s"), (0x2B0, 0x2B0, "h"), (0x2B2, 0x2B2, "j"), (0x2B3, 0x2B3, "r"),
   (0x2B7, 0x2B7, "w"), (0x2B8, 0x2B8, "y"), (0x2E1, 0x2E1, "l"), (0x2E2, 0x2E2, "s"),
   (0x2E3, 0x2E3, "x"), (0x34F, 0x34F, ""), (0x37E, 0x37E, ";"), (0x180B, 0x180D, ""),
   (0x180F, 0x180F, ""), (0x1D2C, 0x1D2C, "a"), (0x1D2E, 0x1D2E, "b"), (0x1D30, 0x1D31, "d"),
   (0x1D33, 0x1D3A, "g"), (0x1D3C, 0x1D3C, "o"), (0x1D3E, 0x1D3E, "p"), (0x1D3F, 0x1D3F, "r"),
   (0x1D40, 0x1D41, "t"), (0x1D42, 0x1D42, "w"), (0x1D43, 0x1D43, "a"), (0x1D47, 0x1D47, "b"),
   (0x1D48, 0x1D49, "d"), (0x1D4D, 0x1D4D, "g"), (0x1D4F, 0x1D4F, "k"), (0x1D50, 0x1D50, "m"),
   (0x1D52, 0x1D52, "o"), (0x1D56, 0x1D56, "p"), (0x1D57, 0x1D58, "t"), (0x1D5B, 0x1D5B, "v"),
   (0x1D62, 0x1D62, "i"), (0x1D63, 0x1D63, "r"), (0x1D64, 0x1D65, "u"), (0x1D9C, 0x1D9C, "c"),
   (0x1DA0, 0x1DA0, "f"), (0x1DBB, 0x1DBB, "z"), (0x1E9E, 0x1E9E, "ss"), (0x1FEF, 0x1FEF, "`"),
   (0x200B, 0x200B, ""), (0x2060, 0x2060, ""), (0x2064, 0x2064, ""), (0x2070, 0x2070, "0"),
   (0x2071, 0x2071, "i"), (0x2074, 0x2079, "4"), (0x207A, 0x207A, "+"), (0x207C, 0x207C, "="),
   (0x207D, 0x207E, "("), (0x207F, 0x207F, "n"), (0x2080, 0x2089, "0"), (0x208A, 0x208A, "+"),
   (0x208C, 0x208C, "="), (0x208D, 0x208E, "("), (0x2090, 0x2090, "a"), (0x2091, 0x2091, "e"),
   (0x2092, 0x2092, "o"), (0x2093, 0x2093, "x"), (0x2095, 0x2095, "h"), (0x2096, 0x2099, "k"),
   (0x209A, 0x209A, "p"), (0x209B, 0x209C, "s"), (0x2102, 0x2102, "c"), (0x210A, 0x210B, "g"),
   (0x210C, 0x210C, "h")]

/-- Foldings 70 to 139. -/
def foldings1 : List (Nat × Nat × String) :=
  [(0x210D, 0x210D, "h"), (0x210E, 0x210E, "h"), (0x2110, 0x2110, "i"), (0x2111, 0x2111, "i"),
   (0x2112, 0x2112, "l"), (0x2113, 0x2113, "l"), (0x2115, 0x2115, "n"), (0x2119, 0x211B, "p"),
   (0x211C, 0x211C, "r"), (0x211D, 0x211D, "r"), (0x2121, 0x2121, "tel"), (0x2124, 0x2124, "z"),
   (0x2128, 0x2128, "z"), (0x212A, 0x212A, "k"), (0x212C, 0x212D, "b"), (0x212F, 0x212F, "e"),
   (0x2130, 0x2131, "e"), (0x2133, 0x2133, "m"), (0x2134, 0x2134, "o"), (0x2139, 0x2139, "i"),
   (0x213B, 0x213B, "fax"), (0x2145, 0x2145, "d"), (0x2146, 0x2147, "d"), (0x2148, 0x2149, "i"),
   (0x2160, 0x2160, "i"), (0x2164, 0x2164, "v"), (0x2169, 0x2169, "x"), (0x216C, 0x216C, "l"),
   (0x216D, 0x216E, "c"), (0x216F, 0x216F, "m"), (0x2170, 0x2170, "i"), (0x2174, 0x2174, "v"),
   (0x2179, 0x2179, "x"), (0x217C, 0x217C, "l"), (0x217D, 0x217E, "c"), (0x217F, 0x217F, "m"),
   (0x2460, 0x2468, "1"), (0x2469, 0x2469, "10"), (0x246A, 0x246A, "11"), (0x246B, 0x246B, "12"),
   (0x246C, 0x246C, "13"), (0x246D, 0x246D, "14"), (0x246E, 0x246E, "15"), (0x246F, 0x246F, "16"),
   (0x2470, 0x2470, "17"), (0x2471, 0x2471, "18"), (0x2472, 0x2472, "19"), (0x2473, 0x2473, "20"),
   (0x24B6, 0x24CF, "a"), (0x24D0, 0x24E9, "a"), (0x24EA, 0x24EA, "0"), (0x2C7C, 0x2C7C, "j"),
   (0x2C7D, 0x2C7D, "v"), (0x3002, 0x3002, "."), (0x3251, 0x3251, "21"), (0x3252, 0x3252, "22"),
   (0x3253, 0x3253, "23"), (0x3254, 0x3254, "24"), (0x3255, 0x3255, "25"), (0x3256, 0x3256, "26"),
   (0x3257, 0x3257, "27"), (0x3258, 0x3258, "28"), (0x3259, 0x3259, "29"), (0x325A, 0x325A, "30"),
   (0x325B, 0x325B, "31"), (0x325C, 0x325C, "32"), (0x325D, 0x325D, "33"), (0x325E, 0x325E, "34"),
   (0x325F, 0x325F, "35"), (0x32B1, 0x32B1, "36")]

/-- Foldings 140 to 209. -/
def foldings2 : List (Nat × Nat × String) :=
  [(0x32B2, 0x32B2, "37"), (0x32B3, 0x32B3, "38"), (0x32B4, 0x32B4, "39"), (0x32B5, 0x32B5, "40"),
   (0x32B6, 0x32B6, "41"), (0x32B7, 0x32B7, "42"), (0x32B8, 0x32B8, "43"), (0x32B9, 0x32B9, "44"),
   (0x32BA, 0x32BA, "45"), (0x32BB, 0x32BB, "46"), (0x32BC, 0x32BC, "47"), (0x32BD, 0x32BD, "48"),
   (0x32BE, 0x32BE, "49"), (0x32BF, 0x32BF, "50"), (0x32CF, 0x32CF, "ltd"), (0x3372, 0x3372, "da"),
   (0x3388, 0x3388, "cal"), (0x3397, 0x3397, "dl"), (0x33C4, 0x33C4, "cc"), (0x33C5, 0x33C5, "cd"),
   (0x33C8, 0x33C8, "db"), (0x33CA, 0x33CA, "ha"), (0x33D3, 0x33D3, "lx"), (0xA7F2, 0xA7F2, "c"),
   (0xA7F3, 0xA7F3, "f"), (0xA7F4, 0xA7F4, "q"), (0xFB00, 0xFB00, "ff"), (0xFB02, 0xFB02, "fl"),
   (0xFB04, 0xFB04, "ffl"), (0xFB05, 0xFB05, "st"), (0xFB06, 0xFB06, "st"), (0xFB29, 0xFB29, "+"),
   (0xFE00, 0xFE0F, ""), (0xFE10, 0xFE10, ","), (0xFE14, 0xFE14, ";"), (0xFE15, 0xFE15, "!"),
   (0xFE33, 0xFE33, "_"), (0xFE34, 0xFE34, "_"), (0xFE35, 0xFE36, "("), (0xFE37, 0xFE37, "\x7b"),
   (0xFE38, 0xFE38, "\x7d"), (0xFE4D, 0xFE4D, "_"), (0xFE4E, 0xFE4E, "_"), (0xFE4F, 0xFE4F, "_"),
   (0xFE50, 0xFE50, ","), (0xFE54, 0xFE54, ";"), (0xFE57, 0xFE57, "!"), (0xFE59, 0xFE5A, "("),
   (0xFE5B, 0xFE5B, "\x7b"), (0xFE5C, 0xFE5C, "\x7d"), (0xFE60, 0xFE60, "&"), (0xFE61, 0xFE62, "*"),
   (0xFE63, 0xFE63, "-"), (0xFE66, 0xFE66, "="), (0xFE69, 0xFE69, "$"), (0xFEFF, 0xFEFF, ""),
   (0xFF01, 0xFF02, "!"), (0xFF04, 0xFF04, "$"), (0xFF06, 0xFF0E, "&"), (0xFF10, 0xFF19, "0"),
   (0xFF1B, 0xFF1B, ";"), (0xFF1D, 0xFF1D, "="), (0xFF21, 0xFF3A, "a"), (0xFF3F, 0xFF5B, "_"),
   (0xFF5D, 0xFF5E, "\x7d"), (0xFF61, 0xFF61, "."), (0x107A5, 0x107A5, "q"), (0x1BCA0, 0x1BCA3, ""),
   (0x1D400, 0x1D419, "a"), (0x1D41A, 0x1D433, "a")]

/-- Foldings 210 to 262. -/
def foldings3 : List (Nat × Nat × String) :=
  [(0x1D434, 0x1D44D, "a"), (0x1D44E, 0x1D454, "a"), (0x1D456, 0x1D467, "i"),
   (0x1D468, 0x1D481, "a"), (0x1D482, 0x1D49B, "a"), (0x1D49C, 0x1D49C, "a"),
   (0x1D49E, 0x1D49F, "c"), (0x1D4A2, 0x1D4A2, "g"), (0x1D4A5, 0x1D4A6, "j"),
   (0x1D4A9, 0x1D4AC, "n"), (0x1D4AE, 0x1D4B5, "s"), (0x1D4B6, 0x1D4B9, "a"),
   (0x1D4BB, 0x1D4BB, "f"), (0x1D4BD, 0x1D4C3, "h"), (0x1D4C5, 0x1D4CF, "p"),
   (0x1D4D0, 0x1D4E9, "a"), (0x1D4EA, 0x1D503, "a"), (0x1D504, 0x1D505, "a"),
   (0x1D507, 0x1D50A, "d"), (0x1D50D, 0x1D514, "j"), (0x1D516, 0x1D51C, "s"),
   (0x1D51E, 0x1D537, "a"), (0x1D538, 0x1D539, "a"), (0x1D53B, 0x1D53E, "d"),
   (0x1D540, 0x1D544, "i"), (0x1D546, 0x1D546, "o"), (0x1D54A, 0x1D550, "s"),
   (0x1D552, 0x1D56B, "a"), (0x1D56C, 0x1D585, "a"), (0x1D586, 0x1D59F, "a"),
   (0x1D5A0, 0x1D5B9, "a"), (0x1D5BA, 0x1D5D3, "a"), (0x1D5D4, 0x1D5ED, "a"),
   (0x1D5EE, 0x1D607, "a"), (0x1D608, 0x1D621, "a"), (0x1D622, 0x1D63B, "a"),
   (0x1D63C, 0x1D655, "a"), (0x1D656, 0x1D66F, "a"), (0x1D670, 0x1D689, "a"),
   (0x1D68A, 0x1D6A3, "a"), (0x1D7CE, 0x1D7D7, "0"), (0x1D7D8, 0x1D7E1, "0"),
   (0x1D7E2, 0x1D7EB, "0"), (0x1D7EC, 0x1D7F5, "0"), (0x1D7F6, 0x1D7FF, "0"),
   (0x1F12B, 0x1F12B, "c"), (0x1F12C, 0x1F12C, "r"), (0x1F12D, 0x1F12D, "cd"),
   (0x1F130, 0x1F149, "a"), (0x1F14C, 0x1F14C, "sd"), (0x1F14D, 0x1F14D, "ss"),
   (0x1FBF0, 0x1FBF9, "0"), (0xE0100, 0xE01EF, "")]

/-- What characters beyond ASCII stand for, if it is text of ASCII characters. -/
def foldings : List (Nat × Nat × String) :=
  foldings0 ++ foldings1 ++ foldings2 ++ foldings3

/-- What a character stands for. -/
def foldChar? (c : Char) : Option (List Char) :=
  if c.toNat < 0x80 then some [c.toLower]
  else
    (foldings.find? fun (first, last, _) => first ≤ c.toNat && c.toNat ≤ last).map
      fun (first, _, text) =>
        match text.toList with
        | [start] => [Char.ofNat (start.toNat + (c.toNat - first))]
        | cs => cs

/-- Whether a character of ASCII may stand in a name. -/
def mayStand (c : Char) : Bool :=
  0x20 < c.toNat && c.toNat ≠ 0x7F && !"#/:<>?@[\\]^|%".toList.contains c

/-- The name that a text stands for, if that is of ASCII characters that may stand in a name. -/
def fold? (text : List Char) : Option (List Char) := do
  let read ← String.fromUTF8? ⟨(Text.percentDecode text).toArray⟩
  let name := (← read.toList.mapM foldChar?).flatten
  if !name.isEmpty && name.all mayStand then some name else none

end PowerGrant.Web.HostName
