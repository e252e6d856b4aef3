import Brokerage.Unicode.Ranges

/-!
Letters that differ by case alone. Folding puts the code points into orbits; where case does not
count, a code point stands for all of its orbit. Most orbits are pairs, and these come in runs.
-/

set_option autoImplicit false

namespace Brokerage.Unicode

/-- Pairs at one distance: `count` of them, the first members `stride` apart. -/
structure CaseRun where
  first : Nat
  distance : Nat
  count : Nat
  stride : Nat

/-- The orbits of two. -/
def caseRuns : List CaseRun := [
  ⟨0x41, 32, 10, 1⟩, ⟨0x4C, 32, 7, 1⟩, ⟨0x54, 32, 7, 1⟩, ⟨0xC0, 32, 5, 1⟩, ⟨0xC6, 32, 17, 1⟩,
  ⟨0xD8, 32, 7, 1⟩, ⟨0xDF, 7615, 1, 1⟩, ⟨0xFF, 121, 1, 1⟩, ⟨0x100, 1, 24, 2⟩, ⟨0x132, 1, 3, 2⟩,
  ⟨0x139, 1, 8, 2⟩, ⟨0x14A, 1, 23, 2⟩, ⟨0x179, 1, 3, 2⟩, ⟨0x180, 195, 1, 1⟩, ⟨0x181, 210, 1, 1⟩,
  ⟨0x182, 1, 2, 2⟩, ⟨0x186, 206, 1, 1⟩, ⟨0x187, 1, 1, 1⟩, ⟨0x189, 205, 2, 1⟩, ⟨0x18B, 1, 1, 1⟩,
  ⟨0x18E, 79, 1, 1⟩, ⟨0x18F, 202, 1, 1⟩, ⟨0x190, 203, 1, 1⟩, ⟨0x191, 1, 1, 1⟩, ⟨0x193, 205, 1, 1⟩,
  ⟨0x194, 207, 1, 1⟩, ⟨0x195, 97, 1, 1⟩, ⟨0x196, 211, 1, 1⟩, ⟨0x197, 209, 1, 1⟩, ⟨0x198, 1, 1, 1⟩,
  ⟨0x19A, 163, 1, 1⟩, ⟨0x19B, 42561, 1, 1⟩, ⟨0x19C, 211, 1, 1⟩, ⟨0x19D, 213, 1, 1⟩,
  ⟨0x19E, 130, 1, 1⟩, ⟨0x19F, 214, 1, 1⟩, ⟨0x1A0, 1, 3, 2⟩, ⟨0x1A6, 218, 1, 1⟩, ⟨0x1A7, 1, 1, 1⟩,
  ⟨0x1A9, 218, 1, 1⟩, ⟨0x1AC, 1, 1, 1⟩, ⟨0x1AE, 218, 1, 1⟩, ⟨0x1AF, 1, 1, 1⟩, ⟨0x1B1, 217, 2, 1⟩,
  ⟨0x1B3, 1, 2, 2⟩, ⟨0x1B7, 219, 1, 1⟩, ⟨0x1B8, 1, 1, 1⟩, ⟨0x1BC, 1, 1, 1⟩, ⟨0x1BF, 56, 1, 1⟩,
  ⟨0x1CD, 1, 8, 2⟩, ⟨0x1DE, 1, 9, 2⟩, ⟨0x1F4, 1, 1, 1⟩, ⟨0x1F8, 1, 20, 2⟩, ⟨0x222, 1, 9, 2⟩,
  ⟨0x23A, 10795, 1, 1⟩, ⟨0x23B, 1, 1, 1⟩, ⟨0x23E, 10792, 1, 1⟩, ⟨0x23F, 10815, 2, 1⟩,
  ⟨0x241, 1, 1, 1⟩, ⟨0x244, 69, 1, 1⟩, ⟨0x245, 71, 1, 1⟩, ⟨0x246, 1, 5, 2⟩, ⟨0x250, 10783, 1, 1⟩,
  ⟨0x251, 10780, 1, 1⟩, ⟨0x252, 10782, 1, 1⟩, ⟨0x25C, 42319, 1, 1⟩, ⟨0x261, 42315, 1, 1⟩,
  ⟨0x264, 42343, 1, 1⟩, ⟨0x265, 42280, 1, 1⟩, ⟨0x266, 42308, 1, 1⟩, ⟨0x26A, 42308, 1, 1⟩,
  ⟨0x26B, 10743, 1, 1⟩, ⟨0x26C, 42305, 1, 1⟩, ⟨0x271, 10749, 1, 1⟩, ⟨0x27D, 10727, 1, 1⟩,
  ⟨0x282, 42307, 1, 1⟩, ⟨0x287, 42282, 1, 1⟩, ⟨0x29D, 42261, 1, 1⟩, ⟨0x29E, 42258, 1, 1⟩,
  ⟨0x370, 1, 2, 2⟩, ⟨0x376, 1, 1, 1⟩, ⟨0x37B, 130, 3, 1⟩, ⟨0x37F, 116, 1, 1⟩, ⟨0x386, 38, 1, 1⟩,
  ⟨0x388, 37, 3, 1⟩, ⟨0x38C, 64, 1, 1⟩, ⟨0x38E, 63, 2, 1⟩, ⟨0x390, 7235, 1, 1⟩, ⟨0x391, 32, 2, 2⟩,
  ⟨0x394, 32, 2, 2⟩, ⟨0x397, 32, 1, 1⟩, ⟨0x39B, 32, 3, 2⟩, ⟨0x39E, 32, 1, 1⟩, ⟨0x3A4, 32, 2, 1⟩,
  ⟨0x3A7, 32, 2, 1⟩, ⟨0x3AA, 32, 2, 1⟩, ⟨0x3B0, 7219, 1, 1⟩, ⟨0x3CF, 8, 1, 1⟩, ⟨0x3D8, 1, 12, 2⟩,
  ⟨0x3F2, 7, 1, 1⟩, ⟨0x3F7, 1, 1, 1⟩, ⟨0x3FA, 1, 1, 1⟩, ⟨0x400, 80, 16, 1⟩, ⟨0x410, 32, 2, 1⟩,
  ⟨0x413, 32, 7, 2⟩, ⟨0x416, 32, 4, 2⟩, ⟨0x420, 32, 1, 1⟩, ⟨0x423, 32, 7, 1⟩, ⟨0x42B, 32, 5, 1⟩,
  ⟨0x460, 1, 1, 1⟩, ⟨0x464, 1, 15, 2⟩, ⟨0x48A, 1, 27, 2⟩, ⟨0x4C0, 15, 1, 1⟩, ⟨0x4C1, 1, 7, 2⟩,
  ⟨0x4D0, 1, 48, 2⟩, ⟨0x531, 48, 38, 1⟩, ⟨0x10A0, 7264, 38, 1⟩, ⟨0x10C7, 7264, 1, 1⟩,
  ⟨0x10CD, 7264, 1, 1⟩, ⟨0x10D0, 3008, 43, 1⟩, ⟨0x10FD, 3008, 3, 1⟩, ⟨0x13A0, 38864, 80, 1⟩,
  ⟨0x13F0, 8, 6, 1⟩, ⟨0x1C89, 1, 1, 1⟩, ⟨0x1D79, 35332, 1, 1⟩, ⟨0x1D7D, 3814, 1, 1⟩,
  ⟨0x1D8E, 35384, 1, 1⟩, ⟨0x1E00, 1, 48, 2⟩, ⟨0x1E62, 1, 26, 2⟩, ⟨0x1EA0, 1, 48, 2⟩,
  ⟨0x1F00, 8, 8, 1⟩, ⟨0x1F10, 8, 6, 1⟩, ⟨0x1F20, 8, 8, 1⟩, ⟨0x1F30, 8, 8, 1⟩, ⟨0x1F40, 8, 6, 1⟩,
  ⟨0x1F51, 8, 4, 2⟩, ⟨0x1F60, 8, 8, 1⟩, ⟨0x1F70, 74, 2, 1⟩, ⟨0x1F72, 86, 4, 1⟩,
  ⟨0x1F76, 100, 2, 1⟩, ⟨0x1F78, 128, 2, 1⟩, ⟨0x1F7A, 112, 2, 1⟩, ⟨0x1F7C, 126, 2, 1⟩,
  ⟨0x1F80, 8, 8, 1⟩, ⟨0x1F90, 8, 8, 1⟩, ⟨0x1FA0, 8, 8, 1⟩, ⟨0x1FB0, 8, 2, 1⟩, ⟨0x1FB3, 9, 1, 1⟩,
  ⟨0x1FC3, 9, 1, 1⟩, ⟨0x1FD0, 8, 2, 1⟩, ⟨0x1FE0, 8, 2, 1⟩, ⟨0x1FE5, 7, 1, 1⟩, ⟨0x1FF3, 9, 1, 1⟩,
  ⟨0x2132, 28, 1, 1⟩, ⟨0x2160, 16, 16, 1⟩, ⟨0x2183, 1, 1, 1⟩, ⟨0x24B6, 26, 26, 1⟩,
  ⟨0x2C00, 48, 48, 1⟩, ⟨0x2C60, 1, 1, 1⟩, ⟨0x2C67, 1, 3, 2⟩, ⟨0x2C72, 1, 1, 1⟩, ⟨0x2C75, 1, 1, 1⟩,
  ⟨0x2C80, 1, 50, 2⟩, ⟨0x2CEB, 1, 2, 2⟩, ⟨0x2CF2, 1, 1, 1⟩, ⟨0xA640, 1, 5, 2⟩, ⟨0xA64C, 1, 17, 2⟩,
  ⟨0xA680, 1, 14, 2⟩, ⟨0xA722, 1, 7, 2⟩, ⟨0xA732, 1, 31, 2⟩, ⟨0xA779, 1, 2, 2⟩, ⟨0xA77E, 1, 5, 2⟩,
  ⟨0xA78B, 1, 1, 1⟩, ⟨0xA790, 1, 2, 2⟩, ⟨0xA794, 48, 1, 1⟩, ⟨0xA796, 1, 10, 2⟩,
  ⟨0xA7B3, 928, 1, 1⟩, ⟨0xA7B4, 1, 8, 2⟩, ⟨0xA7C7, 1, 2, 2⟩, ⟨0xA7CC, 1, 1, 1⟩, ⟨0xA7D0, 1, 1, 1⟩,
  ⟨0xA7D6, 1, 3, 2⟩, ⟨0xA7F5, 1, 1, 1⟩,
  ⟨0xFB05, 1, 1, 1⟩, ⟨0xFF21, 32, 26, 1⟩, ⟨0x10400, 40, 40, 1⟩, ⟨0x104B0, 40, 36, 1⟩,
  ⟨0x10570, 39, 11, 1⟩, ⟨0x1057C, 39, 15, 1⟩, ⟨0x1058C, 39, 7, 1⟩, ⟨0x10594, 39, 2, 1⟩,
  ⟨0x10C80, 64, 51, 1⟩, ⟨0x10D50, 32, 22, 1⟩, ⟨0x118A0, 32, 32, 1⟩, ⟨0x16E40, 32, 32, 1⟩,
  ⟨0x1E900, 34, 34, 1⟩]

/-- The orbits of more than two. -/
def largeOrbits : List (List Nat) := [
  [0x4B, 0x6B, 0x212A], [0x53, 0x73, 0x17F], [0xB5, 0x39C, 0x3BC], [0xC5, 0xE5, 0x212B],
  [0x1C4, 0x1C5, 0x1C6], [0x1C7, 0x1C8, 0x1C9], [0x1CA, 0x1CB, 0x1CC], [0x1F1, 0x1F2, 0x1F3],
  [0x345, 0x399, 0x3B9, 0x1FBE], [0x392, 0x3B2, 0x3D0], [0x395, 0x3B5, 0x3F5],
  [0x398, 0x3B8, 0x3D1, 0x3F4], [0x39A, 0x3BA, 0x3F0], [0x3A0, 0x3C0, 0x3D6],
  [0x3A1, 0x3C1, 0x3F1], [0x3A3, 0x3C2, 0x3C3], [0x3A6, 0x3C6, 0x3D5], [0x3A9, 0x3C9, 0x2126],
  [0x412, 0x432, 0x1C80], [0x414, 0x434, 0x1C81], [0x41E, 0x43E, 0x1C82], [0x421, 0x441, 0x1C83],
  [0x422, 0x442, 0x1C84, 0x1C85], [0x42A, 0x44A, 0x1C86], [0x462, 0x463, 0x1C87],
  [0x1C88, 0xA64A, 0xA64B], [0x1E60, 0x1E61, 0x1E9B]]

def CaseRun.orbits (run : CaseRun) : List (List Nat) :=
  (List.range run.count).map fun k ↦
    [run.first + run.stride * k, run.first + run.stride * k + run.distance]

/-- All orbits of more than one code point. -/
def caseOrbits : List (List Nat) :=
  caseRuns.flatMap CaseRun.orbits ++ largeOrbits

/-- All code points that differ by case alone from one of the given, these included. -/
def closeUnderCase (ranges : Ranges) : Ranges :=
  let added := caseOrbits.filter fun orbit ↦ orbit.any ranges.has
  ranges.union (Ranges.ofList (added.flatten.map fun code ↦ (code, code)))

end Brokerage.Unicode
