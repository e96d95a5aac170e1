import TableTalk.Text.Extenders

/-! What decides where one character, as a reader sees it, ends and the next begins. -/
namespace TableTalk.Text

/-- How a character takes part in clusters. -/
inductive ClusterClass
  | other
  | carriageReturn
  | lineFeed
  | control
  /-- Goes with what stands before it. -/
  | extend
  /-- Extends, and joins two consonants into a conjunct. -/
  | linker
  /-- Extends, and keeps consonants apart. -/
  | nonJoiner
  /-- Extends, and joins two pictographs. -/
  | joiner
  /-- Goes with what stands before it, and has a width. -/
  | spacing
  /-- Goes with what stands behind it. -/
  | prepend
  /-- Two of them make a flag. -/
  | regional
  | pictograph
  /-- One of a script with conjuncts. -/
  | consonant
  /-- The parts of a Korean syllable, and syllables without and with a tail. -/
  | lead
  | vowel
  | tail
  | openSyllable
  | closedSyllable
  deriving DecidableEq, Repr

/-- First and last character of a run, and the class of all in it. Syllables and most extending
characters are not listed. -/
def clusterRuns : Array (Nat × Nat × ClusterClass) := #[
  (0x0, 0x9, .control), (0xA, 0xA, .lineFeed), (0xB, 0xC, .control), (0xD, 0xD, .carriageReturn),
  (0xE, 0x1F, .control), (0x7F, 0x9F, .control), (0xA9, 0xA9, .pictograph), (0xAD, 0xAD, .control),
  (0xAE, 0xAE, .pictograph), (0x600, 0x605, .prepend), (0x61C, 0x61C, .control),
  (0x6DD, 0x6DD, .prepend), (0x70F, 0x70F, .prepend), (0x890, 0x891, .prepend),
  (0x8E2, 0x8E2, .prepend), (0x903, 0x903, .spacing), (0x915, 0x939, .consonant),
  (0x93B, 0x93B, .spacing), (0x93E, 0x940, .spacing), (0x949, 0x94C, .spacing),
  (0x94D, 0x94D, .linker), (0x94E, 0x94F, .spacing), (0x958, 0x95F, .consonant),
  (0x978, 0x97F, .consonant), (0x982, 0x983, .spacing), (0x995, 0x9A8, .consonant),
  (0x9AA, 0x9B0, .consonant), (0x9B2, 0x9B2, .consonant), (0x9B6, 0x9B9, .consonant),
  (0x9BF, 0x9C0, .spacing), (0x9C7, 0x9C8, .spacing), (0x9CB, 0x9CC, .spacing),
  (0x9CD, 0x9CD, .linker), (0x9DC, 0x9DD, .consonant), (0x9DF, 0x9DF, .consonant),
  (0x9F0, 0x9F1, .consonant), (0xA03, 0xA03, .spacing), (0xA3E, 0xA40, .spacing),
  (0xA83, 0xA83, .spacing), (0xA95, 0xAA8, .consonant), (0xAAA, 0xAB0, .consonant),
  (0xAB2, 0xAB3, .consonant), (0xAB5, 0xAB9, .consonant), (0xABE, 0xAC0, .spacing),
  (0xAC9, 0xAC9, .spacing), (0xACB, 0xACC, .spacing), (0xACD, 0xACD, .linker),
  (0xAF9, 0xAF9, .consonant), (0xB02, 0xB03, .spacing), (0xB15, 0xB28, .consonant),
  (0xB2A, 0xB30, .consonant), (0xB32, 0xB33, .consonant), (0xB35, 0xB39, .consonant),
  (0xB40, 0xB40, .spacing), (0xB47, 0xB48, .spacing), (0xB4B, 0xB4C, .spacing),
  (0xB4D, 0xB4D, .linker), (0xB5C, 0xB5D, .consonant), (0xB5F, 0xB5F, .consonant),
  (0xB71, 0xB71, .consonant), (0xBBF, 0xBBF, .spacing), (0xBC1, 0xBC2, .spacing),
  (0xBC6, 0xBC8, .spacing), (0xBCA, 0xBCC, .spacing), (0xC01, 0xC03, .spacing),
  (0xC15, 0xC28, .consonant), (0xC2A, 0xC39, .consonant), (0xC41, 0xC44, .spacing),
  (0xC4D, 0xC4D, .linker), (0xC58, 0xC5A, .consonant), (0xC82, 0xC83, .spacing),
  (0xCBE, 0xCBE, .spacing), (0xCC1, 0xCC1, .spacing), (0xCC3, 0xCC4, .spacing),
  (0xCF3, 0xCF3, .spacing), (0xD02, 0xD03, .spacing), (0xD15, 0xD3A, .consonant),
  (0xD3F, 0xD40, .spacing), (0xD46, 0xD48, .spacing), (0xD4A, 0xD4C, .spacing),
  (0xD4D, 0xD4D, .linker), (0xD4E, 0xD4E, .prepend), (0xD82, 0xD83, .spacing),
  (0xDD0, 0xDD1, .spacing), (0xDD8, 0xDDE, .spacing), (0xDF2, 0xDF3, .spacing),
  (0xE33, 0xE33, .spacing), (0xEB3, 0xEB3, .spacing), (0xF3E, 0xF3F, .spacing),
  (0xF7F, 0xF7F, .spacing), (0x1000, 0x102A, .consonant), (0x1031, 0x1031, .spacing),
  (0x1039, 0x1039, .linker), (0x103B, 0x103C, .spacing), (0x103F, 0x103F, .consonant),
  (0x1050, 0x1055, .consonant), (0x1056, 0x1057, .spacing), (0x105A, 0x105D, .consonant),
  (0x1061, 0x1061, .consonant), (0x1065, 0x1066, .consonant), (0x106E, 0x1070, .consonant),
  (0x1075, 0x1081, .consonant), (0x1084, 0x1084, .spacing), (0x108E, 0x108E, .consonant),
  (0x1100, 0x115F, .lead), (0x1160, 0x11A7, .vowel), (0x11A8, 0x11FF, .tail),
  (0x1780, 0x17B3, .consonant), (0x17B6, 0x17B6, .spacing), (0x17BE, 0x17C5, .spacing),
  (0x17C7, 0x17C8, .spacing), (0x17D2, 0x17D2, .linker), (0x180E, 0x180E, .control),
  (0x1923, 0x1926, .spacing), (0x1929, 0x192B, .spacing), (0x1930, 0x1931, .spacing),
  (0x1933, 0x1938, .spacing), (0x1A19, 0x1A1A, .spacing), (0x1A20, 0x1A54, .consonant),
  (0x1A55, 0x1A55, .spacing), (0x1A57, 0x1A57, .spacing), (0x1A60, 0x1A60, .linker),
  (0x1A6D, 0x1A72, .spacing), (0x1B04, 0x1B04, .spacing), (0x1B0B, 0x1B0C, .consonant),
  (0x1B13, 0x1B33, .consonant), (0x1B3E, 0x1B41, .spacing), (0x1B44, 0x1B44, .linker),
  (0x1B45, 0x1B4C, .consonant), (0x1B82, 0x1B82, .spacing), (0x1B83, 0x1BA0, .consonant),
  (0x1BA1, 0x1BA1, .spacing), (0x1BA6, 0x1BA7, .spacing), (0x1BAB, 0x1BAB, .linker),
  (0x1BAE, 0x1BAF, .consonant), (0x1BBB, 0x1BBD, .consonant), (0x1BE7, 0x1BE7, .spacing),
  (0x1BEA, 0x1BEC, .spacing), (0x1BEE, 0x1BEE, .spacing), (0x1C24, 0x1C2B, .spacing),
  (0x1C34, 0x1C35, .spacing), (0x1CE1, 0x1CE1, .spacing), (0x1CF7, 0x1CF7, .spacing),
  (0x200B, 0x200B, .control), (0x200C, 0x200C, .nonJoiner), (0x200D, 0x200D, .joiner),
  (0x200E, 0x200F, .control), (0x2028, 0x202E, .control), (0x203C, 0x203C, .pictograph),
  (0x2049, 0x2049, .pictograph), (0x2060, 0x206F, .control), (0x2122, 0x2122, .pictograph),
  (0x2139, 0x2139, .pictograph), (0x2194, 0x2199, .pictograph), (0x21A9, 0x21AA, .pictograph),
  (0x231A, 0x231B, .pictograph), (0x2328, 0x2328, .pictograph), (0x23CF, 0x23CF, .pictograph),
  (0x23E9, 0x23F3, .pictograph), (0x23F8, 0x23FA, .pictograph), (0x24C2, 0x24C2, .pictograph),
  (0x25AA, 0x25AB, .pictograph), (0x25B6, 0x25B6, .pictograph), (0x25C0, 0x25C0, .pictograph),
  (0x25FB, 0x25FE, .pictograph), (0x2600, 0x2604, .pictograph), (0x260E, 0x260E, .pictograph),
  (0x2611, 0x2611, .pictograph), (0x2614, 0x2615, .pictograph), (0x2618, 0x2618, .pictograph),
  (0x261D, 0x261D, .pictograph), (0x2620, 0x2620, .pictograph), (0x2622, 0x2623, .pictograph),
  (0x2626, 0x2626, .pictograph), (0x262A, 0x262A, .pictograph), (0x262E, 0x262F, .pictograph),
  (0x2638, 0x263A, .pictograph), (0x2640, 0x2640, .pictograph), (0x2642, 0x2642, .pictograph),
  (0x2648, 0x2653, .pictograph), (0x265F, 0x2660, .pictograph), (0x2663, 0x2663, .pictograph),
  (0x2665, 0x2666, .pictograph), (0x2668, 0x2668, .pictograph), (0x267B, 0x267B, .pictograph),
  (0x267E, 0x267F, .pictograph), (0x2692, 0x2697, .pictograph), (0x2699, 0x2699, .pictograph),
  (0x269B, 0x269C, .pictograph), (0x26A0, 0x26A1, .pictograph), (0x26A7, 0x26A7, .pictograph),
  (0x26AA, 0x26AB, .pictograph), (0x26B0, 0x26B1, .pictograph), (0x26BD, 0x26BE, .pictograph),
  (0x26C4, 0x26C5, .pictograph), (0x26C8, 0x26C8, .pictograph), (0x26CE, 0x26CF, .pictograph),
  (0x26D1, 0x26D1, .pictograph), (0x26D3, 0x26D4, .pictograph), (0x26E9, 0x26EA, .pictograph),
  (0x26F0, 0x26F5, .pictograph), (0x26F7, 0x26FA, .pictograph), (0x26FD, 0x26FD, .pictograph),
  (0x2702, 0x2702, .pictograph), (0x2705, 0x2705, .pictograph), (0x2708, 0x270D, .pictograph),
  (0x270F, 0x270F, .pictograph), (0x2712, 0x2712, .pictograph), (0x2714, 0x2714, .pictograph),
  (0x2716, 0x2716, .pictograph), (0x271D, 0x271D, .pictograph), (0x2721, 0x2721, .pictograph),
  (0x2728, 0x2728, .pictograph), (0x2733, 0x2734, .pictograph), (0x2744, 0x2744, .pictograph),
  (0x2747, 0x2747, .pictograph), (0x274C, 0x274C, .pictograph), (0x274E, 0x274E, .pictograph),
  (0x2753, 0x2755, .pictograph), (0x2757, 0x2757, .pictograph), (0x2763, 0x2764, .pictograph),
  (0x2795, 0x2797, .pictograph), (0x27A1, 0x27A1, .pictograph), (0x27B0, 0x27B0, .pictograph),
  (0x27BF, 0x27BF, .pictograph), (0x2934, 0x2935, .pictograph), (0x2B05, 0x2B07, .pictograph),
  (0x2B1B, 0x2B1C, .pictograph), (0x2B50, 0x2B50, .pictograph), (0x2B55, 0x2B55, .pictograph),
  (0x3030, 0x3030, .pictograph), (0x303D, 0x303D, .pictograph), (0x3297, 0x3297, .pictograph),
  (0x3299, 0x3299, .pictograph), (0xA823, 0xA824, .spacing), (0xA827, 0xA827, .spacing),
  (0xA880, 0xA881, .spacing), (0xA8B4, 0xA8C3, .spacing), (0xA952, 0xA952, .spacing),
  (0xA960, 0xA97C, .lead), (0xA983, 0xA983, .spacing), (0xA989, 0xA98B, .consonant),
  (0xA98F, 0xA9B2, .consonant), (0xA9B4, 0xA9B5, .spacing), (0xA9BA, 0xA9BB, .spacing),
  (0xA9BE, 0xA9BF, .spacing), (0xA9C0, 0xA9C0, .linker), (0xA9E0, 0xA9E4, .consonant),
  (0xA9E7, 0xA9EF, .consonant), (0xA9FA, 0xA9FE, .consonant), (0xAA2F, 0xAA30, .spacing),
  (0xAA33, 0xAA34, .spacing), (0xAA4D, 0xAA4D, .spacing), (0xAA60, 0xAA6F, .consonant),
  (0xAA71, 0xAA73, .consonant), (0xAA7A, 0xAA7A, .consonant), (0xAA7E, 0xAA7F, .consonant),
  (0xAAE0, 0xAAEA, .consonant), (0xAAEB, 0xAAEB, .spacing), (0xAAEE, 0xAAEF, .spacing),
  (0xAAF5, 0xAAF5, .spacing), (0xAAF6, 0xAAF6, .linker), (0xABC0, 0xABDA, .consonant),
  (0xABE3, 0xABE4, .spacing), (0xABE6, 0xABE7, .spacing), (0xABE9, 0xABEA, .spacing),
  (0xABEC, 0xABEC, .spacing), (0xD7B0, 0xD7C6, .vowel), (0xD7CB, 0xD7FB, .tail),
  (0xFEFF, 0xFEFF, .control), (0xFFF0, 0xFFFB, .control), (0x10A00, 0x10A00, .consonant),
  (0x10A10, 0x10A13, .consonant), (0x10A15, 0x10A17, .consonant), (0x10A19, 0x10A35, .consonant),
  (0x10A3F, 0x10A3F, .linker), (0x11000, 0x11000, .spacing), (0x11002, 0x11002, .spacing),
  (0x11082, 0x11082, .spacing), (0x110B0, 0x110B2, .spacing), (0x110B7, 0x110B8, .spacing),
  (0x110BD, 0x110BD, .prepend), (0x110CD, 0x110CD, .prepend), (0x11103, 0x11126, .consonant),
  (0x1112C, 0x1112C, .spacing), (0x11133, 0x11133, .linker), (0x11144, 0x11144, .consonant),
  (0x11145, 0x11146, .spacing), (0x11147, 0x11147, .consonant), (0x11182, 0x11182, .spacing),
  (0x111B3, 0x111B5, .spacing), (0x111BF, 0x111BF, .spacing), (0x111C2, 0x111C3, .prepend),
  (0x111CE, 0x111CE, .spacing), (0x1122C, 0x1122E, .spacing), (0x11232, 0x11233, .spacing),
  (0x112E0, 0x112E2, .spacing), (0x11302, 0x11303, .spacing), (0x1133F, 0x1133F, .spacing),
  (0x11341, 0x11344, .spacing), (0x11347, 0x11348, .spacing), (0x1134B, 0x1134C, .spacing),
  (0x11362, 0x11363, .spacing), (0x11380, 0x11389, .consonant), (0x1138B, 0x1138B, .consonant),
  (0x1138E, 0x1138E, .consonant), (0x11390, 0x113B5, .consonant), (0x113B9, 0x113BA, .spacing),
  (0x113CA, 0x113CA, .spacing), (0x113CC, 0x113CD, .spacing), (0x113D0, 0x113D0, .linker),
  (0x113D1, 0x113D1, .prepend), (0x11435, 0x11437, .spacing), (0x11440, 0x11441, .spacing),
  (0x11445, 0x11445, .spacing), (0x114B1, 0x114B2, .spacing), (0x114B9, 0x114B9, .spacing),
  (0x114BB, 0x114BC, .spacing), (0x114BE, 0x114BE, .spacing), (0x114C1, 0x114C1, .spacing),
  (0x115B0, 0x115B1, .spacing), (0x115B8, 0x115BB, .spacing), (0x115BE, 0x115BE, .spacing),
  (0x11630, 0x11632, .spacing), (0x1163B, 0x1163C, .spacing), (0x1163E, 0x1163E, .spacing),
  (0x116AC, 0x116AC, .spacing), (0x116AE, 0x116AF, .spacing), (0x1171E, 0x1171E, .spacing),
  (0x11726, 0x11726, .spacing), (0x1182C, 0x1182E, .spacing), (0x11838, 0x11838, .spacing),
  (0x11900, 0x11906, .consonant), (0x11909, 0x11909, .consonant), (0x1190C, 0x11913, .consonant),
  (0x11915, 0x11916, .consonant), (0x11918, 0x1192F, .consonant), (0x11931, 0x11935, .spacing),
  (0x11937, 0x11938, .spacing), (0x1193E, 0x1193E, .linker), (0x1193F, 0x1193F, .prepend),
  (0x11940, 0x11940, .spacing), (0x11941, 0x11941, .prepend), (0x11942, 0x11942, .spacing),
  (0x119D1, 0x119D3, .spacing), (0x119DC, 0x119DF, .spacing), (0x119E4, 0x119E4, .spacing),
  (0x11A00, 0x11A00, .consonant), (0x11A0B, 0x11A32, .consonant), (0x11A39, 0x11A39, .spacing),
  (0x11A47, 0x11A47, .linker), (0x11A50, 0x11A50, .consonant), (0x11A57, 0x11A58, .spacing),
  (0x11A5C, 0x11A83, .consonant), (0x11A84, 0x11A89, .prepend), (0x11A97, 0x11A97, .spacing),
  (0x11A99, 0x11A99, .linker), (0x11B61, 0x11B61, .spacing), (0x11B65, 0x11B65, .spacing),
  (0x11B67, 0x11B67, .spacing), (0x11C2F, 0x11C2F, .spacing), (0x11C3E, 0x11C3E, .spacing),
  (0x11CA9, 0x11CA9, .spacing), (0x11CB1, 0x11CB1, .spacing), (0x11CB4, 0x11CB4, .spacing),
  (0x11D46, 0x11D46, .prepend), (0x11D8A, 0x11D8E, .spacing), (0x11D93, 0x11D94, .spacing),
  (0x11D96, 0x11D96, .spacing), (0x11EF5, 0x11EF6, .spacing), (0x11F02, 0x11F02, .prepend),
  (0x11F03, 0x11F03, .spacing), (0x11F04, 0x11F10, .consonant), (0x11F12, 0x11F33, .consonant),
  (0x11F34, 0x11F35, .spacing), (0x11F3E, 0x11F3F, .spacing), (0x11F42, 0x11F42, .linker),
  (0x13430, 0x1343F, .control), (0x1612A, 0x1612C, .spacing), (0x16D63, 0x16D63, .vowel),
  (0x16D67, 0x16D6A, .vowel), (0x16F51, 0x16F87, .spacing), (0x1BCA0, 0x1BCA3, .control),
  (0x1D173, 0x1D17A, .control), (0x1F004, 0x1F004, .pictograph), (0x1F02C, 0x1F02F, .pictograph),
  (0x1F094, 0x1F09F, .pictograph), (0x1F0AF, 0x1F0B0, .pictograph), (0x1F0C0, 0x1F0C0, .pictograph),
  (0x1F0CF, 0x1F0D0, .pictograph), (0x1F0F6, 0x1F0FF, .pictograph), (0x1F170, 0x1F171, .pictograph),
  (0x1F17E, 0x1F17F, .pictograph), (0x1F18E, 0x1F18E, .pictograph), (0x1F191, 0x1F19A, .pictograph),
  (0x1F1AE, 0x1F1E5, .pictograph), (0x1F1E6, 0x1F1FF, .regional), (0x1F201, 0x1F20F, .pictograph),
  (0x1F21A, 0x1F21A, .pictograph), (0x1F22F, 0x1F22F, .pictograph), (0x1F232, 0x1F23A, .pictograph),
  (0x1F23C, 0x1F23F, .pictograph), (0x1F249, 0x1F25F, .pictograph), (0x1F266, 0x1F321, .pictograph),
  (0x1F324, 0x1F393, .pictograph), (0x1F396, 0x1F397, .pictograph), (0x1F399, 0x1F39B, .pictograph),
  (0x1F39E, 0x1F3F0, .pictograph), (0x1F3F3, 0x1F3F5, .pictograph), (0x1F3F7, 0x1F3FA, .pictograph),
  (0x1F3FB, 0x1F3FF, .extend), (0x1F400, 0x1F4FD, .pictograph), (0x1F4FF, 0x1F53D, .pictograph),
  (0x1F549, 0x1F54E, .pictograph), (0x1F550, 0x1F567, .pictograph), (0x1F56F, 0x1F570, .pictograph),
  (0x1F573, 0x1F57A, .pictograph), (0x1F587, 0x1F587, .pictograph), (0x1F58A, 0x1F58D, .pictograph),
  (0x1F590, 0x1F590, .pictograph), (0x1F595, 0x1F596, .pictograph), (0x1F5A4, 0x1F5A5, .pictograph),
  (0x1F5A8, 0x1F5A8, .pictograph), (0x1F5B1, 0x1F5B2, .pictograph), (0x1F5BC, 0x1F5BC, .pictograph),
  (0x1F5C2, 0x1F5C4, .pictograph), (0x1F5D1, 0x1F5D3, .pictograph), (0x1F5DC, 0x1F5DE, .pictograph),
  (0x1F5E1, 0x1F5E1, .pictograph), (0x1F5E3, 0x1F5E3, .pictograph), (0x1F5E8, 0x1F5E8, .pictograph),
  (0x1F5EF, 0x1F5EF, .pictograph), (0x1F5F3, 0x1F5F3, .pictograph), (0x1F5FA, 0x1F64F, .pictograph),
  (0x1F680, 0x1F6C5, .pictograph), (0x1F6CB, 0x1F6D2, .pictograph), (0x1F6D5, 0x1F6E5, .pictograph),
  (0x1F6E9, 0x1F6E9, .pictograph), (0x1F6EB, 0x1F6F0, .pictograph), (0x1F6F3, 0x1F6FF, .pictograph),
  (0x1F7DA, 0x1F7FF, .pictograph), (0x1F80C, 0x1F80F, .pictograph), (0x1F848, 0x1F84F, .pictograph),
  (0x1F85A, 0x1F85F, .pictograph), (0x1F888, 0x1F88F, .pictograph), (0x1F8AE, 0x1F8AF, .pictograph),
  (0x1F8BC, 0x1F8BF, .pictograph), (0x1F8C2, 0x1F8CF, .pictograph), (0x1F8D9, 0x1F8FF, .pictograph),
  (0x1F90C, 0x1F93A, .pictograph), (0x1F93C, 0x1F945, .pictograph), (0x1F947, 0x1F9FF, .pictograph),
  (0x1FA58, 0x1FA5F, .pictograph), (0x1FA6E, 0x1FAFF, .pictograph), (0x1FC00, 0x1FFFD, .pictograph),
  (0xE0000, 0xE001F, .control), (0xE0080, 0xE00FF, .control), (0xE01F0, 0xE0FFF, .control)]

def clusterClass (c : Char) : ClusterClass :=
  let code := c.toNat
  if 0x20 ≤ code ∧ code < 0x7F then .other
  else if 0xAC00 ≤ code ∧ code < 0xD7A4 then
    if (code - 0xAC00) % 28 = 0 then .openSyllable else .closedSyllable
  else
    let side i := clusterRuns[i]?.elim .gt fun r => rangeSide r.1 r.2.1 code
    match (bisect side 0 clusterRuns.size).bind (clusterRuns[·]?) with
    | some r => r.2.2
    | none => if extenders.contains c then .extend else .other

end TableTalk.Text
