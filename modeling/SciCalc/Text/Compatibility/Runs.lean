/-!
# Compatibility runs

Runs of characters that decompose to a run of single characters, such as the full-width forms and the
mathematical alphabets (Unicode 14).
-/

namespace SciCalc.Text.Compatibility

/-- The first and last character of a run, and the decomposition of the first. -/
def runs : List (Nat × Nat × Nat) := [
  (0x1D33, 0x1D3A, 0x0047), (0x1DAE, 0x1DB1, 0x0272), (0x2074, 0x2079, 0x0034),
  (0x2080, 0x2089, 0x0030), (0x2096, 0x2099, 0x006B), (0x2135, 0x2138, 0x05D0),
  (0x2460, 0x2468, 0x0031), (0x24B6, 0x24CF, 0x0041), (0x24D0, 0x24E9, 0x0061),
  (0x313A, 0x313F, 0x11B0), (0x3145, 0x314E, 0x1109), (0x314F, 0x3163, 0x1161),
  (0x3178, 0x317C, 0x112B), (0x3269, 0x326D, 0x110E), (0x32E4, 0x32E9, 0x30CA),
  (0x32EE, 0x32F2, 0x30DE), (0x32F5, 0x32FA, 0x30E8), (0x32FB, 0x32FE, 0x30EF),
  (0xFE41, 0xFE44, 0x300C), (0xFF01, 0xFF5E, 0x0021), (0xFF85, 0xFF8A, 0x30CA),
  (0xFF8F, 0xFF93, 0x30DE), (0xFF96, 0xFF9B, 0x30E8), (0xFFAA, 0xFFAF, 0x11B0),
  (0xFFB5, 0xFFBE, 0x1109), (0xFFC2, 0xFFC7, 0x1161), (0xFFCA, 0xFFCF, 0x1167),
  (0xFFD2, 0xFFD7, 0x116D), (0xFFE9, 0xFFEC, 0x2190), (0x1D400, 0x1D419, 0x0041),
  (0x1D41A, 0x1D433, 0x0061), (0x1D434, 0x1D44D, 0x0041), (0x1D44E, 0x1D454, 0x0061),
  (0x1D456, 0x1D467, 0x0069), (0x1D468, 0x1D481, 0x0041), (0x1D482, 0x1D49B, 0x0061),
  (0x1D4A9, 0x1D4AC, 0x004E), (0x1D4AE, 0x1D4B5, 0x0053), (0x1D4B6, 0x1D4B9, 0x0061),
  (0x1D4BD, 0x1D4C3, 0x0068), (0x1D4C5, 0x1D4CF, 0x0070), (0x1D4D0, 0x1D4E9, 0x0041),
  (0x1D4EA, 0x1D503, 0x0061), (0x1D507, 0x1D50A, 0x0044), (0x1D50D, 0x1D514, 0x004A),
  (0x1D516, 0x1D51C, 0x0053), (0x1D51E, 0x1D537, 0x0061), (0x1D53B, 0x1D53E, 0x0044),
  (0x1D540, 0x1D544, 0x0049), (0x1D54A, 0x1D550, 0x0053), (0x1D552, 0x1D56B, 0x0061),
  (0x1D56C, 0x1D585, 0x0041), (0x1D586, 0x1D59F, 0x0061), (0x1D5A0, 0x1D5B9, 0x0041),
  (0x1D5BA, 0x1D5D3, 0x0061), (0x1D5D4, 0x1D5ED, 0x0041), (0x1D5EE, 0x1D607, 0x0061),
  (0x1D608, 0x1D621, 0x0041), (0x1D622, 0x1D63B, 0x0061), (0x1D63C, 0x1D655, 0x0041),
  (0x1D656, 0x1D66F, 0x0061), (0x1D670, 0x1D689, 0x0041), (0x1D68A, 0x1D6A3, 0x0061),
  (0x1D6A8, 0x1D6B8, 0x0391), (0x1D6BA, 0x1D6C0, 0x03A3), (0x1D6C2, 0x1D6DA, 0x03B1),
  (0x1D6E2, 0x1D6F2, 0x0391), (0x1D6F4, 0x1D6FA, 0x03A3), (0x1D6FC, 0x1D714, 0x03B1),
  (0x1D71C, 0x1D72C, 0x0391), (0x1D72E, 0x1D734, 0x03A3), (0x1D736, 0x1D74E, 0x03B1),
  (0x1D756, 0x1D766, 0x0391), (0x1D768, 0x1D76E, 0x03A3), (0x1D770, 0x1D788, 0x03B1),
  (0x1D790, 0x1D7A0, 0x0391), (0x1D7A2, 0x1D7A8, 0x03A3), (0x1D7AA, 0x1D7C2, 0x03B1),
  (0x1D7CE, 0x1D7D7, 0x0030), (0x1D7D8, 0x1D7E1, 0x0030), (0x1D7E2, 0x1D7EB, 0x0030),
  (0x1D7EC, 0x1D7F5, 0x0030), (0x1D7F6, 0x1D7FF, 0x0030), (0x1EE0A, 0x1EE0D, 0x0643),
  (0x1EE2A, 0x1EE2D, 0x0643), (0x1F130, 0x1F149, 0x0041), (0x1FBF0, 0x1FBF9, 0x0030)]

end SciCalc.Text.Compatibility
