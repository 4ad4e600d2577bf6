/-!
# Hangul

Named keysyms: the keys and letters of the Korean script.
-/

set_option autoImplicit false

namespace Hotkeys.Keys.Keysym

/-- Names and values, the first name of a value being its usual one. -/
def hangulKeys : List (String × Nat) := [
  ("Hangul", 0xff31), ("Hangul_Start", 0xff32), ("Hangul_End", 0xff33), ("Hangul_Hanja", 0xff34),
  ("Hangul_Jamo", 0xff35), ("Hangul_Romaja", 0xff36), ("Hangul_Codeinput", 0xff37),
  ("Hangul_Jeonja", 0xff38), ("Hangul_Banja", 0xff39), ("Hangul_PreHanja", 0xff3a),
  ("Hangul_PostHanja", 0xff3b), ("Hangul_SingleCandidate", 0xff3c),
  ("Hangul_MultipleCandidate", 0xff3d), ("Hangul_PreviousCandidate", 0xff3e),
  ("Hangul_Special", 0xff3f), ("Hangul_switch", 0xff7e), ("Hangul_Kiyeog", 0xea1),
  ("Hangul_SsangKiyeog", 0xea2), ("Hangul_KiyeogSios", 0xea3), ("Hangul_Nieun", 0xea4),
  ("Hangul_NieunJieuj", 0xea5), ("Hangul_NieunHieuh", 0xea6), ("Hangul_Dikeud", 0xea7),
  ("Hangul_SsangDikeud", 0xea8), ("Hangul_Rieul", 0xea9), ("Hangul_RieulKiyeog", 0xeaa),
  ("Hangul_RieulMieum", 0xeab), ("Hangul_RieulPieub", 0xeac), ("Hangul_RieulSios", 0xead),
  ("Hangul_RieulTieut", 0xeae), ("Hangul_RieulPhieuf", 0xeaf), ("Hangul_RieulHieuh", 0xeb0),
  ("Hangul_Mieum", 0xeb1), ("Hangul_Pieub", 0xeb2), ("Hangul_SsangPieub", 0xeb3),
  ("Hangul_PieubSios", 0xeb4), ("Hangul_Sios", 0xeb5), ("Hangul_SsangSios", 0xeb6),
  ("Hangul_Ieung", 0xeb7), ("Hangul_Jieuj", 0xeb8), ("Hangul_SsangJieuj", 0xeb9),
  ("Hangul_Cieuc", 0xeba), ("Hangul_Khieuq", 0xebb), ("Hangul_Tieut", 0xebc),
  ("Hangul_Phieuf", 0xebd), ("Hangul_Hieuh", 0xebe), ("Hangul_A", 0xebf), ("Hangul_AE", 0xec0),
  ("Hangul_YA", 0xec1), ("Hangul_YAE", 0xec2), ("Hangul_EO", 0xec3), ("Hangul_E", 0xec4),
  ("Hangul_YEO", 0xec5), ("Hangul_YE", 0xec6), ("Hangul_O", 0xec7), ("Hangul_WA", 0xec8),
  ("Hangul_WAE", 0xec9), ("Hangul_OE", 0xeca), ("Hangul_YO", 0xecb), ("Hangul_U", 0xecc),
  ("Hangul_WEO", 0xecd), ("Hangul_WE", 0xece), ("Hangul_WI", 0xecf), ("Hangul_YU", 0xed0),
  ("Hangul_EU", 0xed1), ("Hangul_YI", 0xed2), ("Hangul_I", 0xed3), ("Hangul_J_Kiyeog", 0xed4),
  ("Hangul_J_SsangKiyeog", 0xed5), ("Hangul_J_KiyeogSios", 0xed6), ("Hangul_J_Nieun", 0xed7),
  ("Hangul_J_NieunJieuj", 0xed8), ("Hangul_J_NieunHieuh", 0xed9), ("Hangul_J_Dikeud", 0xeda),
  ("Hangul_J_Rieul", 0xedb), ("Hangul_J_RieulKiyeog", 0xedc), ("Hangul_J_RieulMieum", 0xedd),
  ("Hangul_J_RieulPieub", 0xede), ("Hangul_J_RieulSios", 0xedf), ("Hangul_J_RieulTieut", 0xee0),
  ("Hangul_J_RieulPhieuf", 0xee1), ("Hangul_J_RieulHieuh", 0xee2), ("Hangul_J_Mieum", 0xee3),
  ("Hangul_J_Pieub", 0xee4), ("Hangul_J_PieubSios", 0xee5), ("Hangul_J_Sios", 0xee6),
  ("Hangul_J_SsangSios", 0xee7), ("Hangul_J_Ieung", 0xee8), ("Hangul_J_Jieuj", 0xee9),
  ("Hangul_J_Cieuc", 0xeea), ("Hangul_J_Khieuq", 0xeeb), ("Hangul_J_Tieut", 0xeec),
  ("Hangul_J_Phieuf", 0xeed), ("Hangul_J_Hieuh", 0xeee), ("Hangul_RieulYeorinHieuh", 0xeef),
  ("Hangul_SunkyeongeumMieum", 0xef0), ("Hangul_SunkyeongeumPieub", 0xef1),
  ("Hangul_PanSios", 0xef2), ("Hangul_KkogjiDalrinIeung", 0xef3),
  ("Hangul_SunkyeongeumPhieuf", 0xef4), ("Hangul_YeorinHieuh", 0xef5), ("Hangul_AraeA", 0xef6),
  ("Hangul_AraeAE", 0xef7), ("Hangul_J_PanSios", 0xef8), ("Hangul_J_KkogjiDalrinIeung", 0xef9),
  ("Hangul_J_YeorinHieuh", 0xefa), ("Korean_Won", 0xeff)]

end Hotkeys.Keys.Keysym
