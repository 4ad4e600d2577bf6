/-!
# Unicode letters and signs

Named keysyms: Armenian, Georgian, Vietnamese and other letters, currencies and mathematical signs.
-/

set_option autoImplicit false

namespace Hotkeys.Keys.Keysym

/-- Names and values, the first name of a value being its usual one. -/
def unicodeKeys : List (String × Nat) := [
  ("Armenian_ligature_ew", 0x1000587), ("Armenian_full_stop", 0x1000589),
  ("Armenian_verjaket", 0x1000589), ("Armenian_separation_mark", 0x100055d),
  ("Armenian_but", 0x100055d), ("Armenian_hyphen", 0x100058a), ("Armenian_yentamna", 0x100058a),
  ("Armenian_exclam", 0x100055c), ("Armenian_amanak", 0x100055c), ("Armenian_accent", 0x100055b),
  ("Armenian_shesht", 0x100055b), ("Armenian_question", 0x100055e), ("Armenian_paruyk", 0x100055e),
  ("Armenian_AYB", 0x1000531), ("Armenian_ayb", 0x1000561), ("Armenian_BEN", 0x1000532),
  ("Armenian_ben", 0x1000562), ("Armenian_GIM", 0x1000533), ("Armenian_gim", 0x1000563),
  ("Armenian_DA", 0x1000534), ("Armenian_da", 0x1000564), ("Armenian_YECH", 0x1000535),
  ("Armenian_yech", 0x1000565), ("Armenian_ZA", 0x1000536), ("Armenian_za", 0x1000566),
  ("Armenian_E", 0x1000537), ("Armenian_e", 0x1000567), ("Armenian_AT", 0x1000538),
  ("Armenian_at", 0x1000568), ("Armenian_TO", 0x1000539), ("Armenian_to", 0x1000569),
  ("Armenian_ZHE", 0x100053a), ("Armenian_zhe", 0x100056a), ("Armenian_INI", 0x100053b),
  ("Armenian_ini", 0x100056b), ("Armenian_LYUN", 0x100053c), ("Armenian_lyun", 0x100056c),
  ("Armenian_KHE", 0x100053d), ("Armenian_khe", 0x100056d), ("Armenian_TSA", 0x100053e),
  ("Armenian_tsa", 0x100056e), ("Armenian_KEN", 0x100053f), ("Armenian_ken", 0x100056f),
  ("Armenian_HO", 0x1000540), ("Armenian_ho", 0x1000570), ("Armenian_DZA", 0x1000541),
  ("Armenian_dza", 0x1000571), ("Armenian_GHAT", 0x1000542), ("Armenian_ghat", 0x1000572),
  ("Armenian_TCHE", 0x1000543), ("Armenian_tche", 0x1000573), ("Armenian_MEN", 0x1000544),
  ("Armenian_men", 0x1000574), ("Armenian_HI", 0x1000545), ("Armenian_hi", 0x1000575),
  ("Armenian_NU", 0x1000546), ("Armenian_nu", 0x1000576), ("Armenian_SHA", 0x1000547),
  ("Armenian_sha", 0x1000577), ("Armenian_VO", 0x1000548), ("Armenian_vo", 0x1000578),
  ("Armenian_CHA", 0x1000549), ("Armenian_cha", 0x1000579), ("Armenian_PE", 0x100054a),
  ("Armenian_pe", 0x100057a), ("Armenian_JE", 0x100054b), ("Armenian_je", 0x100057b),
  ("Armenian_RA", 0x100054c), ("Armenian_ra", 0x100057c), ("Armenian_SE", 0x100054d),
  ("Armenian_se", 0x100057d), ("Armenian_VEV", 0x100054e), ("Armenian_vev", 0x100057e),
  ("Armenian_TYUN", 0x100054f), ("Armenian_tyun", 0x100057f), ("Armenian_RE", 0x1000550),
  ("Armenian_re", 0x1000580), ("Armenian_TSO", 0x1000551), ("Armenian_tso", 0x1000581),
  ("Armenian_VYUN", 0x1000552), ("Armenian_vyun", 0x1000582), ("Armenian_PYUR", 0x1000553),
  ("Armenian_pyur", 0x1000583), ("Armenian_KE", 0x1000554), ("Armenian_ke", 0x1000584),
  ("Armenian_O", 0x1000555), ("Armenian_o", 0x1000585), ("Armenian_FE", 0x1000556),
  ("Armenian_fe", 0x1000586), ("Armenian_apostrophe", 0x100055a), ("Georgian_an", 0x10010d0),
  ("Georgian_ban", 0x10010d1), ("Georgian_gan", 0x10010d2), ("Georgian_don", 0x10010d3),
  ("Georgian_en", 0x10010d4), ("Georgian_vin", 0x10010d5), ("Georgian_zen", 0x10010d6),
  ("Georgian_tan", 0x10010d7), ("Georgian_in", 0x10010d8), ("Georgian_kan", 0x10010d9),
  ("Georgian_las", 0x10010da), ("Georgian_man", 0x10010db), ("Georgian_nar", 0x10010dc),
  ("Georgian_on", 0x10010dd), ("Georgian_par", 0x10010de), ("Georgian_zhar", 0x10010df),
  ("Georgian_rae", 0x10010e0), ("Georgian_san", 0x10010e1), ("Georgian_tar", 0x10010e2),
  ("Georgian_un", 0x10010e3), ("Georgian_phar", 0x10010e4), ("Georgian_khar", 0x10010e5),
  ("Georgian_ghan", 0x10010e6), ("Georgian_qar", 0x10010e7), ("Georgian_shin", 0x10010e8),
  ("Georgian_chin", 0x10010e9), ("Georgian_can", 0x10010ea), ("Georgian_jil", 0x10010eb),
  ("Georgian_cil", 0x10010ec), ("Georgian_char", 0x10010ed), ("Georgian_xan", 0x10010ee),
  ("Georgian_jhan", 0x10010ef), ("Georgian_hae", 0x10010f0), ("Georgian_he", 0x10010f1),
  ("Georgian_hie", 0x10010f2), ("Georgian_we", 0x10010f3), ("Georgian_har", 0x10010f4),
  ("Georgian_hoe", 0x10010f5), ("Georgian_fi", 0x10010f6), ("Xabovedot", 0x1001e8a),
  ("Ibreve", 0x100012c), ("Zstroke", 0x10001b5), ("Gcaron", 0x10001e6), ("Ocaron", 0x10001d1),
  ("Obarred", 0x100019f), ("xabovedot", 0x1001e8b), ("ibreve", 0x100012d), ("zstroke", 0x10001b6),
  ("gcaron", 0x10001e7), ("ocaron", 0x10001d2), ("obarred", 0x1000275), ("SCHWA", 0x100018f),
  ("schwa", 0x1000259), ("EZH", 0x10001b7), ("ezh", 0x1000292), ("Lbelowdot", 0x1001e36),
  ("lbelowdot", 0x1001e37), ("Abelowdot", 0x1001ea0), ("abelowdot", 0x1001ea1),
  ("Ahook", 0x1001ea2), ("ahook", 0x1001ea3), ("Acircumflexacute", 0x1001ea4),
  ("acircumflexacute", 0x1001ea5), ("Acircumflexgrave", 0x1001ea6), ("acircumflexgrave", 0x1001ea7),
  ("Acircumflexhook", 0x1001ea8), ("acircumflexhook", 0x1001ea9), ("Acircumflextilde", 0x1001eaa),
  ("acircumflextilde", 0x1001eab), ("Acircumflexbelowdot", 0x1001eac),
  ("acircumflexbelowdot", 0x1001ead), ("Abreveacute", 0x1001eae), ("abreveacute", 0x1001eaf),
  ("Abrevegrave", 0x1001eb0), ("abrevegrave", 0x1001eb1), ("Abrevehook", 0x1001eb2),
  ("abrevehook", 0x1001eb3), ("Abrevetilde", 0x1001eb4), ("abrevetilde", 0x1001eb5),
  ("Abrevebelowdot", 0x1001eb6), ("abrevebelowdot", 0x1001eb7), ("Ebelowdot", 0x1001eb8),
  ("ebelowdot", 0x1001eb9), ("Ehook", 0x1001eba), ("ehook", 0x1001ebb), ("Etilde", 0x1001ebc),
  ("etilde", 0x1001ebd), ("Ecircumflexacute", 0x1001ebe), ("ecircumflexacute", 0x1001ebf),
  ("Ecircumflexgrave", 0x1001ec0), ("ecircumflexgrave", 0x1001ec1), ("Ecircumflexhook", 0x1001ec2),
  ("ecircumflexhook", 0x1001ec3), ("Ecircumflextilde", 0x1001ec4), ("ecircumflextilde", 0x1001ec5),
  ("Ecircumflexbelowdot", 0x1001ec6), ("ecircumflexbelowdot", 0x1001ec7), ("Ihook", 0x1001ec8),
  ("ihook", 0x1001ec9), ("Ibelowdot", 0x1001eca), ("ibelowdot", 0x1001ecb),
  ("Obelowdot", 0x1001ecc), ("obelowdot", 0x1001ecd), ("Ohook", 0x1001ece), ("ohook", 0x1001ecf),
  ("Ocircumflexacute", 0x1001ed0), ("ocircumflexacute", 0x1001ed1), ("Ocircumflexgrave", 0x1001ed2),
  ("ocircumflexgrave", 0x1001ed3), ("Ocircumflexhook", 0x1001ed4), ("ocircumflexhook", 0x1001ed5),
  ("Ocircumflextilde", 0x1001ed6), ("ocircumflextilde", 0x1001ed7),
  ("Ocircumflexbelowdot", 0x1001ed8), ("ocircumflexbelowdot", 0x1001ed9), ("Ohornacute", 0x1001eda),
  ("ohornacute", 0x1001edb), ("Ohorngrave", 0x1001edc), ("ohorngrave", 0x1001edd),
  ("Ohornhook", 0x1001ede), ("ohornhook", 0x1001edf), ("Ohorntilde", 0x1001ee0),
  ("ohorntilde", 0x1001ee1), ("Ohornbelowdot", 0x1001ee2), ("ohornbelowdot", 0x1001ee3),
  ("Ubelowdot", 0x1001ee4), ("ubelowdot", 0x1001ee5), ("Uhook", 0x1001ee6), ("uhook", 0x1001ee7),
  ("Uhornacute", 0x1001ee8), ("uhornacute", 0x1001ee9), ("Uhorngrave", 0x1001eea),
  ("uhorngrave", 0x1001eeb), ("Uhornhook", 0x1001eec), ("uhornhook", 0x1001eed),
  ("Uhorntilde", 0x1001eee), ("uhorntilde", 0x1001eef), ("Uhornbelowdot", 0x1001ef0),
  ("uhornbelowdot", 0x1001ef1), ("Ybelowdot", 0x1001ef4), ("ybelowdot", 0x1001ef5),
  ("Yhook", 0x1001ef6), ("yhook", 0x1001ef7), ("Ytilde", 0x1001ef8), ("ytilde", 0x1001ef9),
  ("Ohorn", 0x10001a0), ("ohorn", 0x10001a1), ("Uhorn", 0x10001af), ("uhorn", 0x10001b0),
  ("combining_tilde", 0x1000303), ("combining_grave", 0x1000300), ("combining_acute", 0x1000301),
  ("combining_hook", 0x1000309), ("combining_belowdot", 0x1000323), ("EcuSign", 0x10020a0),
  ("ColonSign", 0x10020a1), ("CruzeiroSign", 0x10020a2), ("FFrancSign", 0x10020a3),
  ("LiraSign", 0x10020a4), ("MillSign", 0x10020a5), ("NairaSign", 0x10020a6),
  ("PesetaSign", 0x10020a7), ("RupeeSign", 0x10020a8), ("WonSign", 0x10020a9),
  ("NewSheqelSign", 0x10020aa), ("DongSign", 0x10020ab), ("EuroSign", 0x20ac),
  ("zerosuperior", 0x1002070), ("foursuperior", 0x1002074), ("fivesuperior", 0x1002075),
  ("sixsuperior", 0x1002076), ("sevensuperior", 0x1002077), ("eightsuperior", 0x1002078),
  ("ninesuperior", 0x1002079), ("zerosubscript", 0x1002080), ("onesubscript", 0x1002081),
  ("twosubscript", 0x1002082), ("threesubscript", 0x1002083), ("foursubscript", 0x1002084),
  ("fivesubscript", 0x1002085), ("sixsubscript", 0x1002086), ("sevensubscript", 0x1002087),
  ("eightsubscript", 0x1002088), ("ninesubscript", 0x1002089), ("partdifferential", 0x1002202),
  ("emptyset", 0x1002205), ("elementof", 0x1002208), ("notelementof", 0x1002209),
  ("containsas", 0x100220b), ("squareroot", 0x100221a), ("cuberoot", 0x100221b),
  ("fourthroot", 0x100221c), ("dintegral", 0x100222c), ("tintegral", 0x100222d),
  ("because", 0x1002235), ("approxeq", 0x1002248), ("notapproxeq", 0x1002247),
  ("notidentical", 0x1002262), ("stricteq", 0x1002263)]

end Hotkeys.Keys.Keysym
