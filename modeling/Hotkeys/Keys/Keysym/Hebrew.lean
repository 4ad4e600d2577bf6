/-!
# Hebrew

Named keysyms: the letters of the Hebrew script.
-/

set_option autoImplicit false

namespace Hotkeys.Keys.Keysym

/-- Names and values, the first name of a value being its usual one. -/
def hebrewKeys : List (String × Nat) := [
  ("hebrew_doublelowline", 0xcdf), ("hebrew_aleph", 0xce0), ("hebrew_bet", 0xce1),
  ("hebrew_beth", 0xce1), ("hebrew_gimel", 0xce2), ("hebrew_gimmel", 0xce2),
  ("hebrew_dalet", 0xce3), ("hebrew_daleth", 0xce3), ("hebrew_he", 0xce4), ("hebrew_waw", 0xce5),
  ("hebrew_zain", 0xce6), ("hebrew_zayin", 0xce6), ("hebrew_chet", 0xce7), ("hebrew_het", 0xce7),
  ("hebrew_tet", 0xce8), ("hebrew_teth", 0xce8), ("hebrew_yod", 0xce9), ("hebrew_finalkaph", 0xcea),
  ("hebrew_kaph", 0xceb), ("hebrew_lamed", 0xcec), ("hebrew_finalmem", 0xced),
  ("hebrew_mem", 0xcee), ("hebrew_finalnun", 0xcef), ("hebrew_nun", 0xcf0),
  ("hebrew_samech", 0xcf1), ("hebrew_samekh", 0xcf1), ("hebrew_ayin", 0xcf2),
  ("hebrew_finalpe", 0xcf3), ("hebrew_pe", 0xcf4), ("hebrew_finalzade", 0xcf5),
  ("hebrew_finalzadi", 0xcf5), ("hebrew_zade", 0xcf6), ("hebrew_zadi", 0xcf6),
  ("hebrew_qoph", 0xcf7), ("hebrew_kuf", 0xcf7), ("hebrew_resh", 0xcf8), ("hebrew_shin", 0xcf9),
  ("hebrew_taw", 0xcfa), ("hebrew_taf", 0xcfa), ("Hebrew_switch", 0xff7e)]

end Hotkeys.Keys.Keysym
