/-!
# Arabic

Named keysyms: the characters of the Arabic script.
-/

set_option autoImplicit false

namespace Hotkeys.Keys.Keysym

/-- Names and values, the first name of a value being its usual one. -/
def arabicKeys : List (String × Nat) := [
  ("Farsi_0", 0x10006f0), ("Farsi_1", 0x10006f1), ("Farsi_2", 0x10006f2), ("Farsi_3", 0x10006f3),
  ("Farsi_4", 0x10006f4), ("Farsi_5", 0x10006f5), ("Farsi_6", 0x10006f6), ("Farsi_7", 0x10006f7),
  ("Farsi_8", 0x10006f8), ("Farsi_9", 0x10006f9), ("Arabic_percent", 0x100066a),
  ("Arabic_superscript_alef", 0x1000670), ("Arabic_tteh", 0x1000679), ("Arabic_peh", 0x100067e),
  ("Arabic_tcheh", 0x1000686), ("Arabic_ddal", 0x1000688), ("Arabic_rreh", 0x1000691),
  ("Arabic_comma", 0x5ac), ("Arabic_fullstop", 0x10006d4), ("Arabic_0", 0x1000660),
  ("Arabic_1", 0x1000661), ("Arabic_2", 0x1000662), ("Arabic_3", 0x1000663),
  ("Arabic_4", 0x1000664), ("Arabic_5", 0x1000665), ("Arabic_6", 0x1000666),
  ("Arabic_7", 0x1000667), ("Arabic_8", 0x1000668), ("Arabic_9", 0x1000669),
  ("Arabic_semicolon", 0x5bb), ("Arabic_question_mark", 0x5bf), ("Arabic_hamza", 0x5c1),
  ("Arabic_maddaonalef", 0x5c2), ("Arabic_hamzaonalef", 0x5c3), ("Arabic_hamzaonwaw", 0x5c4),
  ("Arabic_hamzaunderalef", 0x5c5), ("Arabic_hamzaonyeh", 0x5c6), ("Arabic_alef", 0x5c7),
  ("Arabic_beh", 0x5c8), ("Arabic_tehmarbuta", 0x5c9), ("Arabic_teh", 0x5ca),
  ("Arabic_theh", 0x5cb), ("Arabic_jeem", 0x5cc), ("Arabic_hah", 0x5cd), ("Arabic_khah", 0x5ce),
  ("Arabic_dal", 0x5cf), ("Arabic_thal", 0x5d0), ("Arabic_ra", 0x5d1), ("Arabic_zain", 0x5d2),
  ("Arabic_seen", 0x5d3), ("Arabic_sheen", 0x5d4), ("Arabic_sad", 0x5d5), ("Arabic_dad", 0x5d6),
  ("Arabic_tah", 0x5d7), ("Arabic_zah", 0x5d8), ("Arabic_ain", 0x5d9), ("Arabic_ghain", 0x5da),
  ("Arabic_tatweel", 0x5e0), ("Arabic_feh", 0x5e1), ("Arabic_qaf", 0x5e2), ("Arabic_kaf", 0x5e3),
  ("Arabic_lam", 0x5e4), ("Arabic_meem", 0x5e5), ("Arabic_noon", 0x5e6), ("Arabic_ha", 0x5e7),
  ("Arabic_heh", 0x5e7), ("Arabic_waw", 0x5e8), ("Arabic_alefmaksura", 0x5e9),
  ("Arabic_yeh", 0x5ea), ("Arabic_fathatan", 0x5eb), ("Arabic_dammatan", 0x5ec),
  ("Arabic_kasratan", 0x5ed), ("Arabic_fatha", 0x5ee), ("Arabic_damma", 0x5ef),
  ("Arabic_kasra", 0x5f0), ("Arabic_shadda", 0x5f1), ("Arabic_sukun", 0x5f2),
  ("Arabic_madda_above", 0x1000653), ("Arabic_hamza_above", 0x1000654),
  ("Arabic_hamza_below", 0x1000655), ("Arabic_jeh", 0x1000698), ("Arabic_veh", 0x10006a4),
  ("Arabic_keheh", 0x10006a9), ("Arabic_gaf", 0x10006af), ("Arabic_noon_ghunna", 0x10006ba),
  ("Arabic_heh_doachashmee", 0x10006be), ("Farsi_yeh", 0x10006cc), ("Arabic_farsi_yeh", 0x10006cc),
  ("Arabic_yeh_baree", 0x10006d2), ("Arabic_heh_goal", 0x10006c1), ("Arabic_switch", 0xff7e)]

end Hotkeys.Keys.Keysym
