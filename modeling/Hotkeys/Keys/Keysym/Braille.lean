/-!
# Braille and Sinhala

Named keysyms: Braille patterns and the letters of the Sinhala script.
-/

set_option autoImplicit false

namespace Hotkeys.Keys.Keysym

/-- Names and values, the first name of a value being its usual one. -/
def brailleKeys : List (String × Nat) := [
  ("braille_dot_1", 0xfff1), ("braille_dot_2", 0xfff2), ("braille_dot_3", 0xfff3),
  ("braille_dot_4", 0xfff4), ("braille_dot_5", 0xfff5), ("braille_dot_6", 0xfff6),
  ("braille_dot_7", 0xfff7), ("braille_dot_8", 0xfff8), ("braille_dot_9", 0xfff9),
  ("braille_dot_10", 0xfffa), ("braille_blank", 0x1002800), ("braille_dots_1", 0x1002801),
  ("braille_dots_2", 0x1002802), ("braille_dots_12", 0x1002803), ("braille_dots_3", 0x1002804),
  ("braille_dots_13", 0x1002805), ("braille_dots_23", 0x1002806), ("braille_dots_123", 0x1002807),
  ("braille_dots_4", 0x1002808), ("braille_dots_14", 0x1002809), ("braille_dots_24", 0x100280a),
  ("braille_dots_124", 0x100280b), ("braille_dots_34", 0x100280c), ("braille_dots_134", 0x100280d),
  ("braille_dots_234", 0x100280e), ("braille_dots_1234", 0x100280f), ("braille_dots_5", 0x1002810),
  ("braille_dots_15", 0x1002811), ("braille_dots_25", 0x1002812), ("braille_dots_125", 0x1002813),
  ("braille_dots_35", 0x1002814), ("braille_dots_135", 0x1002815), ("braille_dots_235", 0x1002816),
  ("braille_dots_1235", 0x1002817), ("braille_dots_45", 0x1002818), ("braille_dots_145", 0x1002819),
  ("braille_dots_245", 0x100281a), ("braille_dots_1245", 0x100281b),
  ("braille_dots_345", 0x100281c), ("braille_dots_1345", 0x100281d),
  ("braille_dots_2345", 0x100281e), ("braille_dots_12345", 0x100281f),
  ("braille_dots_6", 0x1002820), ("braille_dots_16", 0x1002821), ("braille_dots_26", 0x1002822),
  ("braille_dots_126", 0x1002823), ("braille_dots_36", 0x1002824), ("braille_dots_136", 0x1002825),
  ("braille_dots_236", 0x1002826), ("braille_dots_1236", 0x1002827), ("braille_dots_46", 0x1002828),
  ("braille_dots_146", 0x1002829), ("braille_dots_246", 0x100282a),
  ("braille_dots_1246", 0x100282b), ("braille_dots_346", 0x100282c),
  ("braille_dots_1346", 0x100282d), ("braille_dots_2346", 0x100282e),
  ("braille_dots_12346", 0x100282f), ("braille_dots_56", 0x1002830),
  ("braille_dots_156", 0x1002831), ("braille_dots_256", 0x1002832),
  ("braille_dots_1256", 0x1002833), ("braille_dots_356", 0x1002834),
  ("braille_dots_1356", 0x1002835), ("braille_dots_2356", 0x1002836),
  ("braille_dots_12356", 0x1002837), ("braille_dots_456", 0x1002838),
  ("braille_dots_1456", 0x1002839), ("braille_dots_2456", 0x100283a),
  ("braille_dots_12456", 0x100283b), ("braille_dots_3456", 0x100283c),
  ("braille_dots_13456", 0x100283d), ("braille_dots_23456", 0x100283e),
  ("braille_dots_123456", 0x100283f), ("braille_dots_7", 0x1002840), ("braille_dots_17", 0x1002841),
  ("braille_dots_27", 0x1002842), ("braille_dots_127", 0x1002843), ("braille_dots_37", 0x1002844),
  ("braille_dots_137", 0x1002845), ("braille_dots_237", 0x1002846),
  ("braille_dots_1237", 0x1002847), ("braille_dots_47", 0x1002848), ("braille_dots_147", 0x1002849),
  ("braille_dots_247", 0x100284a), ("braille_dots_1247", 0x100284b),
  ("braille_dots_347", 0x100284c), ("braille_dots_1347", 0x100284d),
  ("braille_dots_2347", 0x100284e), ("braille_dots_12347", 0x100284f),
  ("braille_dots_57", 0x1002850), ("braille_dots_157", 0x1002851), ("braille_dots_257", 0x1002852),
  ("braille_dots_1257", 0x1002853), ("braille_dots_357", 0x1002854),
  ("braille_dots_1357", 0x1002855), ("braille_dots_2357", 0x1002856),
  ("braille_dots_12357", 0x1002857), ("braille_dots_457", 0x1002858),
  ("braille_dots_1457", 0x1002859), ("braille_dots_2457", 0x100285a),
  ("braille_dots_12457", 0x100285b), ("braille_dots_3457", 0x100285c),
  ("braille_dots_13457", 0x100285d), ("braille_dots_23457", 0x100285e),
  ("braille_dots_123457", 0x100285f), ("braille_dots_67", 0x1002860),
  ("braille_dots_167", 0x1002861), ("braille_dots_267", 0x1002862),
  ("braille_dots_1267", 0x1002863), ("braille_dots_367", 0x1002864),
  ("braille_dots_1367", 0x1002865), ("braille_dots_2367", 0x1002866),
  ("braille_dots_12367", 0x1002867), ("braille_dots_467", 0x1002868),
  ("braille_dots_1467", 0x1002869), ("braille_dots_2467", 0x100286a),
  ("braille_dots_12467", 0x100286b), ("braille_dots_3467", 0x100286c),
  ("braille_dots_13467", 0x100286d), ("braille_dots_23467", 0x100286e),
  ("braille_dots_123467", 0x100286f), ("braille_dots_567", 0x1002870),
  ("braille_dots_1567", 0x1002871), ("braille_dots_2567", 0x1002872),
  ("braille_dots_12567", 0x1002873), ("braille_dots_3567", 0x1002874),
  ("braille_dots_13567", 0x1002875), ("braille_dots_23567", 0x1002876),
  ("braille_dots_123567", 0x1002877), ("braille_dots_4567", 0x1002878),
  ("braille_dots_14567", 0x1002879), ("braille_dots_24567", 0x100287a),
  ("braille_dots_124567", 0x100287b), ("braille_dots_34567", 0x100287c),
  ("braille_dots_134567", 0x100287d), ("braille_dots_234567", 0x100287e),
  ("braille_dots_1234567", 0x100287f), ("braille_dots_8", 0x1002880),
  ("braille_dots_18", 0x1002881), ("braille_dots_28", 0x1002882), ("braille_dots_128", 0x1002883),
  ("braille_dots_38", 0x1002884), ("braille_dots_138", 0x1002885), ("braille_dots_238", 0x1002886),
  ("braille_dots_1238", 0x1002887), ("braille_dots_48", 0x1002888), ("braille_dots_148", 0x1002889),
  ("braille_dots_248", 0x100288a), ("braille_dots_1248", 0x100288b),
  ("braille_dots_348", 0x100288c), ("braille_dots_1348", 0x100288d),
  ("braille_dots_2348", 0x100288e), ("braille_dots_12348", 0x100288f),
  ("braille_dots_58", 0x1002890), ("braille_dots_158", 0x1002891), ("braille_dots_258", 0x1002892),
  ("braille_dots_1258", 0x1002893), ("braille_dots_358", 0x1002894),
  ("braille_dots_1358", 0x1002895), ("braille_dots_2358", 0x1002896),
  ("braille_dots_12358", 0x1002897), ("braille_dots_458", 0x1002898),
  ("braille_dots_1458", 0x1002899), ("braille_dots_2458", 0x100289a),
  ("braille_dots_12458", 0x100289b), ("braille_dots_3458", 0x100289c),
  ("braille_dots_13458", 0x100289d), ("braille_dots_23458", 0x100289e),
  ("braille_dots_123458", 0x100289f), ("braille_dots_68", 0x10028a0),
  ("braille_dots_168", 0x10028a1), ("braille_dots_268", 0x10028a2),
  ("braille_dots_1268", 0x10028a3), ("braille_dots_368", 0x10028a4),
  ("braille_dots_1368", 0x10028a5), ("braille_dots_2368", 0x10028a6),
  ("braille_dots_12368", 0x10028a7), ("braille_dots_468", 0x10028a8),
  ("braille_dots_1468", 0x10028a9), ("braille_dots_2468", 0x10028aa),
  ("braille_dots_12468", 0x10028ab), ("braille_dots_3468", 0x10028ac),
  ("braille_dots_13468", 0x10028ad), ("braille_dots_23468", 0x10028ae),
  ("braille_dots_123468", 0x10028af), ("braille_dots_568", 0x10028b0),
  ("braille_dots_1568", 0x10028b1), ("braille_dots_2568", 0x10028b2),
  ("braille_dots_12568", 0x10028b3), ("braille_dots_3568", 0x10028b4),
  ("braille_dots_13568", 0x10028b5), ("braille_dots_23568", 0x10028b6),
  ("braille_dots_123568", 0x10028b7), ("braille_dots_4568", 0x10028b8),
  ("braille_dots_14568", 0x10028b9), ("braille_dots_24568", 0x10028ba),
  ("braille_dots_124568", 0x10028bb), ("braille_dots_34568", 0x10028bc),
  ("braille_dots_134568", 0x10028bd), ("braille_dots_234568", 0x10028be),
  ("braille_dots_1234568", 0x10028bf), ("braille_dots_78", 0x10028c0),
  ("braille_dots_178", 0x10028c1), ("braille_dots_278", 0x10028c2),
  ("braille_dots_1278", 0x10028c3), ("braille_dots_378", 0x10028c4),
  ("braille_dots_1378", 0x10028c5), ("braille_dots_2378", 0x10028c6),
  ("braille_dots_12378", 0x10028c7), ("braille_dots_478", 0x10028c8),
  ("braille_dots_1478", 0x10028c9), ("braille_dots_2478", 0x10028ca),
  ("braille_dots_12478", 0x10028cb), ("braille_dots_3478", 0x10028cc),
  ("braille_dots_13478", 0x10028cd), ("braille_dots_23478", 0x10028ce),
  ("braille_dots_123478", 0x10028cf), ("braille_dots_578", 0x10028d0),
  ("braille_dots_1578", 0x10028d1), ("braille_dots_2578", 0x10028d2),
  ("braille_dots_12578", 0x10028d3), ("braille_dots_3578", 0x10028d4),
  ("braille_dots_13578", 0x10028d5), ("braille_dots_23578", 0x10028d6),
  ("braille_dots_123578", 0x10028d7), ("braille_dots_4578", 0x10028d8),
  ("braille_dots_14578", 0x10028d9), ("braille_dots_24578", 0x10028da),
  ("braille_dots_124578", 0x10028db), ("braille_dots_34578", 0x10028dc),
  ("braille_dots_134578", 0x10028dd), ("braille_dots_234578", 0x10028de),
  ("braille_dots_1234578", 0x10028df), ("braille_dots_678", 0x10028e0),
  ("braille_dots_1678", 0x10028e1), ("braille_dots_2678", 0x10028e2),
  ("braille_dots_12678", 0x10028e3), ("braille_dots_3678", 0x10028e4),
  ("braille_dots_13678", 0x10028e5), ("braille_dots_23678", 0x10028e6),
  ("braille_dots_123678", 0x10028e7), ("braille_dots_4678", 0x10028e8),
  ("braille_dots_14678", 0x10028e9), ("braille_dots_24678", 0x10028ea),
  ("braille_dots_124678", 0x10028eb), ("braille_dots_34678", 0x10028ec),
  ("braille_dots_134678", 0x10028ed), ("braille_dots_234678", 0x10028ee),
  ("braille_dots_1234678", 0x10028ef), ("braille_dots_5678", 0x10028f0),
  ("braille_dots_15678", 0x10028f1), ("braille_dots_25678", 0x10028f2),
  ("braille_dots_125678", 0x10028f3), ("braille_dots_35678", 0x10028f4),
  ("braille_dots_135678", 0x10028f5), ("braille_dots_235678", 0x10028f6),
  ("braille_dots_1235678", 0x10028f7), ("braille_dots_45678", 0x10028f8),
  ("braille_dots_145678", 0x10028f9), ("braille_dots_245678", 0x10028fa),
  ("braille_dots_1245678", 0x10028fb), ("braille_dots_345678", 0x10028fc),
  ("braille_dots_1345678", 0x10028fd), ("braille_dots_2345678", 0x10028fe),
  ("braille_dots_12345678", 0x10028ff), ("Sinh_ng", 0x1000d82), ("Sinh_h2", 0x1000d83),
  ("Sinh_a", 0x1000d85), ("Sinh_aa", 0x1000d86), ("Sinh_ae", 0x1000d87), ("Sinh_aee", 0x1000d88),
  ("Sinh_i", 0x1000d89), ("Sinh_ii", 0x1000d8a), ("Sinh_u", 0x1000d8b), ("Sinh_uu", 0x1000d8c),
  ("Sinh_ri", 0x1000d8d), ("Sinh_rii", 0x1000d8e), ("Sinh_lu", 0x1000d8f), ("Sinh_luu", 0x1000d90),
  ("Sinh_e", 0x1000d91), ("Sinh_ee", 0x1000d92), ("Sinh_ai", 0x1000d93), ("Sinh_o", 0x1000d94),
  ("Sinh_oo", 0x1000d95), ("Sinh_au", 0x1000d96), ("Sinh_ka", 0x1000d9a), ("Sinh_kha", 0x1000d9b),
  ("Sinh_ga", 0x1000d9c), ("Sinh_gha", 0x1000d9d), ("Sinh_ng2", 0x1000d9e), ("Sinh_nga", 0x1000d9f),
  ("Sinh_ca", 0x1000da0), ("Sinh_cha", 0x1000da1), ("Sinh_ja", 0x1000da2), ("Sinh_jha", 0x1000da3),
  ("Sinh_nya", 0x1000da4), ("Sinh_jnya", 0x1000da5), ("Sinh_nja", 0x1000da6),
  ("Sinh_tta", 0x1000da7), ("Sinh_ttha", 0x1000da8), ("Sinh_dda", 0x1000da9),
  ("Sinh_ddha", 0x1000daa), ("Sinh_nna", 0x1000dab), ("Sinh_ndda", 0x1000dac),
  ("Sinh_tha", 0x1000dad), ("Sinh_thha", 0x1000dae), ("Sinh_dha", 0x1000daf),
  ("Sinh_dhha", 0x1000db0), ("Sinh_na", 0x1000db1), ("Sinh_ndha", 0x1000db3),
  ("Sinh_pa", 0x1000db4), ("Sinh_pha", 0x1000db5), ("Sinh_ba", 0x1000db6), ("Sinh_bha", 0x1000db7),
  ("Sinh_ma", 0x1000db8), ("Sinh_mba", 0x1000db9), ("Sinh_ya", 0x1000dba), ("Sinh_ra", 0x1000dbb),
  ("Sinh_la", 0x1000dbd), ("Sinh_va", 0x1000dc0), ("Sinh_sha", 0x1000dc1), ("Sinh_ssha", 0x1000dc2),
  ("Sinh_sa", 0x1000dc3), ("Sinh_ha", 0x1000dc4), ("Sinh_lla", 0x1000dc5), ("Sinh_fa", 0x1000dc6),
  ("Sinh_al", 0x1000dca), ("Sinh_aa2", 0x1000dcf), ("Sinh_ae2", 0x1000dd0),
  ("Sinh_aee2", 0x1000dd1), ("Sinh_i2", 0x1000dd2), ("Sinh_ii2", 0x1000dd3), ("Sinh_u2", 0x1000dd4),
  ("Sinh_uu2", 0x1000dd6), ("Sinh_ru2", 0x1000dd8), ("Sinh_e2", 0x1000dd9), ("Sinh_ee2", 0x1000dda),
  ("Sinh_ai2", 0x1000ddb), ("Sinh_o2", 0x1000ddc), ("Sinh_oo2", 0x1000ddd), ("Sinh_au2", 0x1000dde),
  ("Sinh_lu2", 0x1000ddf), ("Sinh_ruu2", 0x1000df2), ("Sinh_luu2", 0x1000df3),
  ("Sinh_kunddaliya", 0x1000df4)]

end Hotkeys.Keys.Keysym
