/-! Sets of graphic characters for eight-bit text. A program picks one of four for each of two slots and
switches between the slots; characters above the eight bits are always themselves. -/

namespace TerminalDock.Emulator

inductive Charset
  | latin
  | graphics
  | ibm
  | vax
  deriving DecidableEq, Repr, Inhabited

namespace Charset

/-- The set that a program selects by a letter. -/
def ofLetter? : Char → Option Charset
  | 'B' => some .latin
  | '0' => some .graphics
  | 'U' => some .ibm
  | 'V' => some .vax
  | _ => none

/-- Line drawing in place of the lower-case letters, and arrows and a block in place of some signs. -/
def graphicsTable : List (Nat × List Nat) := [
  (0x2B, [0x2192, 0x2190, 0x2191, 0x2193]), (0x30, [0x2588]), (0x5F, [0xA0]),
  (0x60, [0x25C6, 0x2592, 0x2409, 0x240C, 0x240D, 0x240A, 0xB0, 0xB1,
    0x2591, 0x240B, 0x2518, 0x2510, 0x250C, 0x2514, 0x253C, 0x23BA,
    0x23BB, 0x2500, 0x23BC, 0x23BD, 0x251C, 0x2524, 0x2534, 0x252C,
    0x2502, 0x2264, 0x2265, 0x3C0, 0x2260, 0xA3, 0xB7])]

/-- The pictures of a personal computer in place of the control characters. -/
def pictures : Nat × List Nat :=
  (1, [0x263A, 0x263B, 0x2665, 0x2666, 0x2663, 0x2660, 0x2022,
    0x25D8, 0x25CB, 0x25D9, 0x2642, 0x2640, 0x266A, 0x266B, 0x263C,
    0x25B6, 0x25C0, 0x2195, 0x203C, 0xB6, 0xA7, 0x25AC, 0x21A8,
    0x2191, 0x2193, 0x2192, 0x2190, 0x221F, 0x2194, 0x25B2, 0x25BC])

/-- The upper half of the set of a personal computer. -/
def upperHalf : Nat × List Nat :=
  (0x7F, [0x2302,
    0xC7, 0xFC, 0xE9, 0xE2, 0xE4, 0xE0, 0xE5, 0xE7, 0xEA, 0xEB, 0xE8, 0xEF, 0xEE, 0xEC, 0xC4, 0xC5,
    0xC9, 0xE6, 0xC6, 0xF4, 0xF6, 0xF2, 0xFB, 0xF9, 0xFF, 0xD6, 0xDC, 0xA2, 0xA3, 0xA5, 0x20A7, 0x192,
    0xE1, 0xED, 0xF3, 0xFA, 0xF1, 0xD1, 0xAA, 0xBA, 0xBF, 0x2310, 0xAC, 0xBD, 0xBC, 0xA1, 0xAB, 0xBB,
    0x2591, 0x2592, 0x2593, 0x2502, 0x2524, 0x2561, 0x2562, 0x2556,
    0x2555, 0x2563, 0x2551, 0x2557, 0x255D, 0x255C, 0x255B, 0x2510,
    0x2514, 0x2534, 0x252C, 0x251C, 0x2500, 0x253C, 0x255E, 0x255F,
    0x255A, 0x2554, 0x2569, 0x2566, 0x2560, 0x2550, 0x256C, 0x2567,
    0x2568, 0x2564, 0x2565, 0x2559, 0x2558, 0x2552, 0x2553, 0x256B,
    0x256A, 0x2518, 0x250C, 0x2588, 0x2584, 0x258C, 0x2590, 0x2580,
    0x3B1, 0xDF, 0x393, 0x3C0, 0x3A3, 0x3C3, 0xB5, 0x3C4, 0x3A6, 0x398, 0x3A9, 0x3B4,
    0x221E, 0x3C6, 0x3B5, 0x2229, 0x2261, 0xB1, 0x2265, 0x2264, 0x2320, 0x2321, 0xF7, 0x2248,
    0xB0, 0x2219, 0xB7, 0x221A, 0x207F, 0xB2, 0x25A0, 0xA0])

def ibmTable : List (Nat × List Nat) := [pictures, upperHalf]

/-- The set of a personal computer with a few Cyrillic letters. -/
def vaxTable : List (Nat × List Nat) := [
  (0x21, [0x43B]), (0x3F, [0x435]), (0x61, [0x441]), (0x68, [0x435]), (0x6F, [0x43A]),
  (0x72, [0x442]), (0x74, [0x43B, 0x435]), pictures, upperHalf]

/-- A character looked up in runs of replacements, each with the code of its first. -/
def replace (table : List (Nat × List Nat)) (c : Char) : Char :=
  let found := table.findSome? fun (first, codes) =>
    if first ≤ c.toNat then codes[c.toNat - first]? else none
  (found.map Char.ofNat).getD c

def translate (charset : Charset) (c : Char) : Char :=
  match charset with
  | .latin => c
  | .graphics => replace graphicsTable c
  | .ibm => replace ibmTable c
  | .vax => replace vaxTable c

end Charset

end TerminalDock.Emulator
