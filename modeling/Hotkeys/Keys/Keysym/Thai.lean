/-!
# Thai

Named keysyms: the characters of the Thai script.
-/

set_option autoImplicit false

namespace Hotkeys.Keys.Keysym

/-- Names and values, the first name of a value being its usual one. -/
def thaiKeys : List (String × Nat) := [
  ("Thai_kokai", 0xda1), ("Thai_khokhai", 0xda2), ("Thai_khokhuat", 0xda3),
  ("Thai_khokhwai", 0xda4), ("Thai_khokhon", 0xda5), ("Thai_khorakhang", 0xda6),
  ("Thai_ngongu", 0xda7), ("Thai_chochan", 0xda8), ("Thai_choching", 0xda9),
  ("Thai_chochang", 0xdaa), ("Thai_soso", 0xdab), ("Thai_chochoe", 0xdac), ("Thai_yoying", 0xdad),
  ("Thai_dochada", 0xdae), ("Thai_topatak", 0xdaf), ("Thai_thothan", 0xdb0),
  ("Thai_thonangmontho", 0xdb1), ("Thai_thophuthao", 0xdb2), ("Thai_nonen", 0xdb3),
  ("Thai_dodek", 0xdb4), ("Thai_totao", 0xdb5), ("Thai_thothung", 0xdb6), ("Thai_thothahan", 0xdb7),
  ("Thai_thothong", 0xdb8), ("Thai_nonu", 0xdb9), ("Thai_bobaimai", 0xdba), ("Thai_popla", 0xdbb),
  ("Thai_phophung", 0xdbc), ("Thai_fofa", 0xdbd), ("Thai_phophan", 0xdbe), ("Thai_fofan", 0xdbf),
  ("Thai_phosamphao", 0xdc0), ("Thai_moma", 0xdc1), ("Thai_yoyak", 0xdc2), ("Thai_rorua", 0xdc3),
  ("Thai_ru", 0xdc4), ("Thai_loling", 0xdc5), ("Thai_lu", 0xdc6), ("Thai_wowaen", 0xdc7),
  ("Thai_sosala", 0xdc8), ("Thai_sorusi", 0xdc9), ("Thai_sosua", 0xdca), ("Thai_hohip", 0xdcb),
  ("Thai_lochula", 0xdcc), ("Thai_oang", 0xdcd), ("Thai_honokhuk", 0xdce),
  ("Thai_paiyannoi", 0xdcf), ("Thai_saraa", 0xdd0), ("Thai_maihanakat", 0xdd1),
  ("Thai_saraaa", 0xdd2), ("Thai_saraam", 0xdd3), ("Thai_sarai", 0xdd4), ("Thai_saraii", 0xdd5),
  ("Thai_saraue", 0xdd6), ("Thai_sarauee", 0xdd7), ("Thai_sarau", 0xdd8), ("Thai_sarauu", 0xdd9),
  ("Thai_phinthu", 0xdda), ("Thai_maihanakat_maitho", 0xdde), ("Thai_baht", 0xddf),
  ("Thai_sarae", 0xde0), ("Thai_saraae", 0xde1), ("Thai_sarao", 0xde2),
  ("Thai_saraaimaimuan", 0xde3), ("Thai_saraaimaimalai", 0xde4), ("Thai_lakkhangyao", 0xde5),
  ("Thai_maiyamok", 0xde6), ("Thai_maitaikhu", 0xde7), ("Thai_maiek", 0xde8),
  ("Thai_maitho", 0xde9), ("Thai_maitri", 0xdea), ("Thai_maichattawa", 0xdeb),
  ("Thai_thanthakhat", 0xdec), ("Thai_nikhahit", 0xded), ("Thai_leksun", 0xdf0),
  ("Thai_leknung", 0xdf1), ("Thai_leksong", 0xdf2), ("Thai_leksam", 0xdf3), ("Thai_leksi", 0xdf4),
  ("Thai_lekha", 0xdf5), ("Thai_lekhok", 0xdf6), ("Thai_lekchet", 0xdf7), ("Thai_lekpaet", 0xdf8),
  ("Thai_lekkao", 0xdf9)]

end Hotkeys.Keys.Keysym
