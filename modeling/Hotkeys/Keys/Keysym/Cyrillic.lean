/-!
# Cyrillic

Named keysyms: the letters of the Cyrillic script.
-/

set_option autoImplicit false

namespace Hotkeys.Keys.Keysym

/-- Names and values, the first name of a value being its usual one. -/
def cyrillicKeys : List (String × Nat) := [
  ("Cyrillic_GHE_bar", 0x1000492), ("Cyrillic_ghe_bar", 0x1000493),
  ("Cyrillic_ZHE_descender", 0x1000496), ("Cyrillic_zhe_descender", 0x1000497),
  ("Cyrillic_KA_descender", 0x100049a), ("Cyrillic_ka_descender", 0x100049b),
  ("Cyrillic_KA_vertstroke", 0x100049c), ("Cyrillic_ka_vertstroke", 0x100049d),
  ("Cyrillic_EN_descender", 0x10004a2), ("Cyrillic_en_descender", 0x10004a3),
  ("Cyrillic_U_straight", 0x10004ae), ("Cyrillic_u_straight", 0x10004af),
  ("Cyrillic_U_straight_bar", 0x10004b0), ("Cyrillic_u_straight_bar", 0x10004b1),
  ("Cyrillic_HA_descender", 0x10004b2), ("Cyrillic_ha_descender", 0x10004b3),
  ("Cyrillic_CHE_descender", 0x10004b6), ("Cyrillic_che_descender", 0x10004b7),
  ("Cyrillic_CHE_vertstroke", 0x10004b8), ("Cyrillic_che_vertstroke", 0x10004b9),
  ("Cyrillic_SHHA", 0x10004ba), ("Cyrillic_shha", 0x10004bb), ("Cyrillic_SCHWA", 0x10004d8),
  ("Cyrillic_schwa", 0x10004d9), ("Cyrillic_I_macron", 0x10004e2), ("Cyrillic_i_macron", 0x10004e3),
  ("Cyrillic_O_bar", 0x10004e8), ("Cyrillic_o_bar", 0x10004e9), ("Cyrillic_U_macron", 0x10004ee),
  ("Cyrillic_u_macron", 0x10004ef), ("Serbian_dje", 0x6a1), ("Macedonia_gje", 0x6a2),
  ("Cyrillic_io", 0x6a3), ("Ukrainian_ie", 0x6a4), ("Ukranian_je", 0x6a4), ("Macedonia_dse", 0x6a5),
  ("Ukrainian_i", 0x6a6), ("Ukranian_i", 0x6a6), ("Ukrainian_yi", 0x6a7), ("Ukranian_yi", 0x6a7),
  ("Cyrillic_je", 0x6a8), ("Serbian_je", 0x6a8), ("Cyrillic_lje", 0x6a9), ("Serbian_lje", 0x6a9),
  ("Cyrillic_nje", 0x6aa), ("Serbian_nje", 0x6aa), ("Serbian_tshe", 0x6ab),
  ("Macedonia_kje", 0x6ac), ("Ukrainian_ghe_with_upturn", 0x6ad), ("Byelorussian_shortu", 0x6ae),
  ("Cyrillic_dzhe", 0x6af), ("Serbian_dze", 0x6af), ("numerosign", 0x6b0), ("Serbian_DJE", 0x6b1),
  ("Macedonia_GJE", 0x6b2), ("Cyrillic_IO", 0x6b3), ("Ukrainian_IE", 0x6b4), ("Ukranian_JE", 0x6b4),
  ("Macedonia_DSE", 0x6b5), ("Ukrainian_I", 0x6b6), ("Ukranian_I", 0x6b6), ("Ukrainian_YI", 0x6b7),
  ("Ukranian_YI", 0x6b7), ("Cyrillic_JE", 0x6b8), ("Serbian_JE", 0x6b8), ("Cyrillic_LJE", 0x6b9),
  ("Serbian_LJE", 0x6b9), ("Cyrillic_NJE", 0x6ba), ("Serbian_NJE", 0x6ba), ("Serbian_TSHE", 0x6bb),
  ("Macedonia_KJE", 0x6bc), ("Ukrainian_GHE_WITH_UPTURN", 0x6bd), ("Byelorussian_SHORTU", 0x6be),
  ("Cyrillic_DZHE", 0x6bf), ("Serbian_DZE", 0x6bf), ("Cyrillic_yu", 0x6c0), ("Cyrillic_a", 0x6c1),
  ("Cyrillic_be", 0x6c2), ("Cyrillic_tse", 0x6c3), ("Cyrillic_de", 0x6c4), ("Cyrillic_ie", 0x6c5),
  ("Cyrillic_ef", 0x6c6), ("Cyrillic_ghe", 0x6c7), ("Cyrillic_ha", 0x6c8), ("Cyrillic_i", 0x6c9),
  ("Cyrillic_shorti", 0x6ca), ("Cyrillic_ka", 0x6cb), ("Cyrillic_el", 0x6cc),
  ("Cyrillic_em", 0x6cd), ("Cyrillic_en", 0x6ce), ("Cyrillic_o", 0x6cf), ("Cyrillic_pe", 0x6d0),
  ("Cyrillic_ya", 0x6d1), ("Cyrillic_er", 0x6d2), ("Cyrillic_es", 0x6d3), ("Cyrillic_te", 0x6d4),
  ("Cyrillic_u", 0x6d5), ("Cyrillic_zhe", 0x6d6), ("Cyrillic_ve", 0x6d7),
  ("Cyrillic_softsign", 0x6d8), ("Cyrillic_yeru", 0x6d9), ("Cyrillic_ze", 0x6da),
  ("Cyrillic_sha", 0x6db), ("Cyrillic_e", 0x6dc), ("Cyrillic_shcha", 0x6dd),
  ("Cyrillic_che", 0x6de), ("Cyrillic_hardsign", 0x6df), ("Cyrillic_YU", 0x6e0),
  ("Cyrillic_A", 0x6e1), ("Cyrillic_BE", 0x6e2), ("Cyrillic_TSE", 0x6e3), ("Cyrillic_DE", 0x6e4),
  ("Cyrillic_IE", 0x6e5), ("Cyrillic_EF", 0x6e6), ("Cyrillic_GHE", 0x6e7), ("Cyrillic_HA", 0x6e8),
  ("Cyrillic_I", 0x6e9), ("Cyrillic_SHORTI", 0x6ea), ("Cyrillic_KA", 0x6eb), ("Cyrillic_EL", 0x6ec),
  ("Cyrillic_EM", 0x6ed), ("Cyrillic_EN", 0x6ee), ("Cyrillic_O", 0x6ef), ("Cyrillic_PE", 0x6f0),
  ("Cyrillic_YA", 0x6f1), ("Cyrillic_ER", 0x6f2), ("Cyrillic_ES", 0x6f3), ("Cyrillic_TE", 0x6f4),
  ("Cyrillic_U", 0x6f5), ("Cyrillic_ZHE", 0x6f6), ("Cyrillic_VE", 0x6f7),
  ("Cyrillic_SOFTSIGN", 0x6f8), ("Cyrillic_YERU", 0x6f9), ("Cyrillic_ZE", 0x6fa),
  ("Cyrillic_SHA", 0x6fb), ("Cyrillic_E", 0x6fc), ("Cyrillic_SHCHA", 0x6fd),
  ("Cyrillic_CHE", 0x6fe), ("Cyrillic_HARDSIGN", 0x6ff)]

end Hotkeys.Keys.Keysym
