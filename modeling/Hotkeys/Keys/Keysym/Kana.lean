/-!
# Kana

Named keysyms: the characters of the Japanese syllabary.
-/

set_option autoImplicit false

namespace Hotkeys.Keys.Keysym

/-- Names and values, the first name of a value being its usual one. -/
def kanaKeys : List (String × Nat) := [
  ("overline", 0x47e), ("kana_fullstop", 0x4a1), ("kana_openingbracket", 0x4a2),
  ("kana_closingbracket", 0x4a3), ("kana_comma", 0x4a4), ("kana_conjunctive", 0x4a5),
  ("kana_middledot", 0x4a5), ("kana_WO", 0x4a6), ("kana_a", 0x4a7), ("kana_i", 0x4a8),
  ("kana_u", 0x4a9), ("kana_e", 0x4aa), ("kana_o", 0x4ab), ("kana_ya", 0x4ac), ("kana_yu", 0x4ad),
  ("kana_yo", 0x4ae), ("kana_tsu", 0x4af), ("kana_tu", 0x4af), ("prolongedsound", 0x4b0),
  ("kana_A", 0x4b1), ("kana_I", 0x4b2), ("kana_U", 0x4b3), ("kana_E", 0x4b4), ("kana_O", 0x4b5),
  ("kana_KA", 0x4b6), ("kana_KI", 0x4b7), ("kana_KU", 0x4b8), ("kana_KE", 0x4b9),
  ("kana_KO", 0x4ba), ("kana_SA", 0x4bb), ("kana_SHI", 0x4bc), ("kana_SU", 0x4bd),
  ("kana_SE", 0x4be), ("kana_SO", 0x4bf), ("kana_TA", 0x4c0), ("kana_CHI", 0x4c1),
  ("kana_TI", 0x4c1), ("kana_TSU", 0x4c2), ("kana_TU", 0x4c2), ("kana_TE", 0x4c3),
  ("kana_TO", 0x4c4), ("kana_NA", 0x4c5), ("kana_NI", 0x4c6), ("kana_NU", 0x4c7),
  ("kana_NE", 0x4c8), ("kana_NO", 0x4c9), ("kana_HA", 0x4ca), ("kana_HI", 0x4cb),
  ("kana_FU", 0x4cc), ("kana_HU", 0x4cc), ("kana_HE", 0x4cd), ("kana_HO", 0x4ce),
  ("kana_MA", 0x4cf), ("kana_MI", 0x4d0), ("kana_MU", 0x4d1), ("kana_ME", 0x4d2),
  ("kana_MO", 0x4d3), ("kana_YA", 0x4d4), ("kana_YU", 0x4d5), ("kana_YO", 0x4d6),
  ("kana_RA", 0x4d7), ("kana_RI", 0x4d8), ("kana_RU", 0x4d9), ("kana_RE", 0x4da),
  ("kana_RO", 0x4db), ("kana_WA", 0x4dc), ("kana_N", 0x4dd), ("voicedsound", 0x4de),
  ("semivoicedsound", 0x4df), ("kana_switch", 0xff7e)]

end Hotkeys.Keys.Keysym
