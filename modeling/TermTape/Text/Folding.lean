import TermTape.Text.Images

/-!
# Folded characters

Characters as the small letters and plain signs that names are compared by: capital letters, letters
and digits of a special form, ligatures, and signs that stand for words.
-/
namespace TermTape

/-- The runs of characters that fold to one other. -/
def foldRuns : CaseRuns :=
  [⟨0xb2, 0xb3, 1, 0x32⟩, ⟨0xc0, 0xd6, 1, 0xe0⟩, ⟨0xd8, 0xde, 1, 0xf8⟩, ⟨0x100, 0x12e, 2, 0x101⟩,
   ⟨0x134, 0x136, 2, 0x135⟩, ⟨0x139, 0x13d, 2, 0x13a⟩, ⟨0x141, 0x147, 2, 0x142⟩,
   ⟨0x14a, 0x176, 2, 0x14b⟩, ⟨0x179, 0x17d, 2, 0x17a⟩, ⟨0x182, 0x184, 2, 0x183⟩,
   ⟨0x189, 0x18a, 1, 0x256⟩, ⟨0x1a0, 0x1a4, 2, 0x1a1⟩, ⟨0x1b1, 0x1b2, 1, 0x28a⟩,
   ⟨0x1b3, 0x1b5, 2, 0x1b4⟩, ⟨0x1cd, 0x1db, 2, 0x1ce⟩, ⟨0x1de, 0x1ee, 2, 0x1df⟩,
   ⟨0x1f8, 0x21e, 2, 0x1f9⟩, ⟨0x222, 0x232, 2, 0x223⟩, ⟨0x246, 0x24e, 2, 0x247⟩,
   ⟨0x370, 0x372, 2, 0x371⟩, ⟨0x388, 0x38a, 1, 0x3ad⟩, ⟨0x38e, 0x38f, 1, 0x3cd⟩,
   ⟨0x391, 0x3a1, 1, 0x3b1⟩, ⟨0x3a3, 0x3ab, 1, 0x3c3⟩, ⟨0x3d8, 0x3ee, 2, 0x3d9⟩,
   ⟨0x3fd, 0x3ff, 1, 0x37b⟩, ⟨0x400, 0x40f, 1, 0x450⟩, ⟨0x410, 0x42f, 1, 0x430⟩,
   ⟨0x460, 0x480, 2, 0x461⟩, ⟨0x48a, 0x4be, 2, 0x48b⟩, ⟨0x4c1, 0x4cd, 2, 0x4c2⟩,
   ⟨0x4d0, 0x52e, 2, 0x4d1⟩, ⟨0x531, 0x556, 1, 0x561⟩, ⟨0x10a0, 0x10c5, 1, 0x2d00⟩,
   ⟨0x13f8, 0x13fd, 1, 0x13f0⟩, ⟨0x1c83, 0x1c84, 1, 0x441⟩, ⟨0x1c90, 0x1cba, 1, 0x10d0⟩,
   ⟨0x1cbd, 0x1cbf, 1, 0x10fd⟩, ⟨0x1d2e, 0x1d30, 2, 0x62⟩, ⟨0x1d33, 0x1d3a, 1, 0x67⟩,
   ⟨0x1d40, 0x1d41, 1, 0x74⟩, ⟨0x1d44, 0x1d45, 1, 0x250⟩, ⟨0x1d48, 0x1d49, 1, 0x64⟩,
   ⟨0x1d4b, 0x1d4c, 1, 0x25b⟩, ⟨0x1d54, 0x1d55, 1, 0x1d16⟩, ⟨0x1d57, 0x1d58, 1, 0x74⟩,
   ⟨0x1d5d, 0x1d5f, 1, 0x3b2⟩, ⟨0x1d60, 0x1d61, 1, 0x3c6⟩, ⟨0x1d64, 0x1d65, 1, 0x75⟩,
   ⟨0x1d66, 0x1d67, 1, 0x3b2⟩, ⟨0x1d69, 0x1d6a, 1, 0x3c6⟩, ⟨0x1da4, 0x1da6, 1, 0x268⟩,
   ⟨0x1dae, 0x1db1, 1, 0x272⟩, ⟨0x1db3, 0x1db4, 1, 0x282⟩, ⟨0x1db6, 0x1db7, 1, 0x289⟩,
   ⟨0x1db9, 0x1dba, 1, 0x28b⟩, ⟨0x1dbc, 0x1dbe, 1, 0x290⟩, ⟨0x1e00, 0x1e94, 2, 0x1e01⟩,
   ⟨0x1ea0, 0x1efe, 2, 0x1ea1⟩, ⟨0x1f08, 0x1f0f, 1, 0x1f00⟩, ⟨0x1f18, 0x1f1d, 1, 0x1f10⟩,
   ⟨0x1f28, 0x1f2f, 1, 0x1f20⟩, ⟨0x1f38, 0x1f3f, 1, 0x1f30⟩, ⟨0x1f48, 0x1f4d, 1, 0x1f40⟩,
   ⟨0x1f59, 0x1f5f, 2, 0x1f51⟩, ⟨0x1f68, 0x1f6f, 1, 0x1f60⟩, ⟨0x1fb8, 0x1fb9, 1, 0x1fb0⟩,
   ⟨0x1fd8, 0x1fd9, 1, 0x1fd0⟩, ⟨0x1fe8, 0x1fe9, 1, 0x1fe0⟩, ⟨0x2074, 0x2079, 1, 0x34⟩,
   ⟨0x207d, 0x207e, 1, 0x28⟩, ⟨0x2080, 0x2089, 1, 0x30⟩, ⟨0x208d, 0x208e, 1, 0x28⟩,
   ⟨0x2096, 0x2099, 1, 0x6b⟩, ⟨0x209b, 0x209c, 1, 0x73⟩, ⟨0x210a, 0x210b, 1, 0x67⟩,
   ⟨0x2113, 0x2115, 2, 0x6c⟩, ⟨0x2119, 0x211b, 1, 0x70⟩, ⟨0x212c, 0x212d, 1, 0x62⟩,
   ⟨0x2130, 0x2131, 1, 0x65⟩, ⟨0x2135, 0x2138, 1, 0x5d0⟩, ⟨0x2146, 0x2147, 1, 0x64⟩,
   ⟨0x2148, 0x2149, 1, 0x69⟩, ⟨0x216d, 0x216e, 1, 0x63⟩, ⟨0x217d, 0x217e, 1, 0x63⟩,
   ⟨0x2460, 0x2468, 1, 0x31⟩, ⟨0x24b6, 0x24cf, 1, 0x61⟩, ⟨0x24d0, 0x24e9, 1, 0x61⟩,
   ⟨0x2c00, 0x2c2f, 1, 0x2c30⟩, ⟨0x2c67, 0x2c6b, 2, 0x2c68⟩, ⟨0x2c7e, 0x2c7f, 1, 0x23f⟩,
   ⟨0x2c80, 0x2ce2, 2, 0x2c81⟩, ⟨0x2ceb, 0x2ced, 2, 0x2cec⟩, ⟨0x3039, 0x303a, 1, 0x5344⟩,
   ⟨0x3131, 0x3132, 1, 0x1100⟩, ⟨0x3135, 0x3136, 1, 0x11ac⟩, ⟨0x3137, 0x3139, 1, 0x1103⟩,
   ⟨0x313a, 0x313f, 1, 0x11b0⟩, ⟨0x3141, 0x3143, 1, 0x1106⟩, ⟨0x3145, 0x314e, 1, 0x1109⟩,
   ⟨0x314f, 0x3163, 1, 0x1161⟩, ⟨0x3165, 0x3166, 1, 0x1114⟩, ⟨0x3167, 0x3168, 1, 0x11c7⟩,
   ⟨0x3171, 0x3172, 1, 0x111d⟩, ⟨0x3174, 0x3175, 1, 0x1122⟩, ⟨0x3178, 0x317c, 1, 0x112b⟩,
   ⟨0x3182, 0x3183, 1, 0x11f1⟩, ⟨0x3184, 0x3186, 1, 0x1157⟩, ⟨0x3187, 0x3188, 1, 0x1184⟩,
   ⟨0x318a, 0x318b, 1, 0x1191⟩, ⟨0x3261, 0x3262, 1, 0x1102⟩, ⟨0x3263, 0x3265, 1, 0x1105⟩,
   ⟨0x3267, 0x3268, 1, 0x110b⟩, ⟨0x3269, 0x326d, 1, 0x110e⟩, ⟨0x32d4, 0x32d5, 1, 0x30aa⟩,
   ⟨0x32e4, 0x32e9, 1, 0x30ca⟩, ⟨0x32ee, 0x32f2, 1, 0x30de⟩, ⟨0x32f5, 0x32fa, 1, 0x30e8⟩,
   ⟨0x32fb, 0x32fe, 1, 0x30ef⟩, ⟨0xa640, 0xa66c, 2, 0xa641⟩, ⟨0xa680, 0xa69a, 2, 0xa681⟩,
   ⟨0xa722, 0xa72e, 2, 0xa723⟩, ⟨0xa732, 0xa76e, 2, 0xa733⟩, ⟨0xa779, 0xa77b, 2, 0xa77a⟩,
   ⟨0xa77e, 0xa786, 2, 0xa77f⟩, ⟨0xa790, 0xa792, 2, 0xa791⟩, ⟨0xa796, 0xa7a8, 2, 0xa797⟩,
   ⟨0xa7b4, 0xa7c2, 2, 0xa7b5⟩, ⟨0xa7c7, 0xa7c9, 2, 0xa7c8⟩, ⟨0xa7cc, 0xa7da, 2, 0xa7cd⟩,
   ⟨0xab70, 0xabbf, 1, 0x13a0⟩, ⟨0xfb22, 0xfb23, 1, 0x5d3⟩, ⟨0xfb24, 0xfb26, 1, 0x5db⟩,
   ⟨0xfb7d, 0xfb7e, 1, 0x686⟩, ⟨0xfb9f, 0xfba0, 1, 0x6ba⟩, ⟨0xfba5, 0xfba6, 1, 0x6c0⟩,
   ⟨0xfbaf, 0xfbb0, 1, 0x6d2⟩, ⟨0xfe13, 0xfe14, 1, 0x3a⟩, ⟨0xfe17, 0xfe18, 1, 0x3016⟩,
   ⟨0xfe35, 0xfe36, 1, 0x28⟩, ⟨0xfe39, 0xfe3a, 1, 0x3014⟩, ⟨0xfe3b, 0xfe3c, 1, 0x3010⟩,
   ⟨0xfe3d, 0xfe3e, 1, 0x300a⟩, ⟨0xfe3f, 0xfe40, 1, 0x3008⟩, ⟨0xfe41, 0xfe44, 1, 0x300c⟩,
   ⟨0xfe59, 0xfe5a, 1, 0x28⟩, ⟨0xfe5d, 0xfe5e, 1, 0x3014⟩, ⟨0xfe61, 0xfe62, 1, 0x2a⟩,
   ⟨0xfe69, 0xfe6a, 1, 0x24⟩, ⟨0xfe80, 0xfe81, 1, 0x621⟩, ⟨0xfe82, 0xfe83, 1, 0x622⟩,
   ⟨0xfe84, 0xfe85, 1, 0x623⟩, ⟨0xfe86, 0xfe87, 1, 0x624⟩, ⟨0xfe88, 0xfe89, 1, 0x625⟩,
   ⟨0xfe8c, 0xfe8d, 1, 0x626⟩, ⟨0xfe8e, 0xfe8f, 1, 0x627⟩, ⟨0xfe92, 0xfe93, 1, 0x628⟩,
   ⟨0xfe94, 0xfe95, 1, 0x629⟩, ⟨0xfe98, 0xfe99, 1, 0x62a⟩, ⟨0xfe9c, 0xfe9d, 1, 0x62b⟩,
   ⟨0xfea0, 0xfea1, 1, 0x62c⟩, ⟨0xfea4, 0xfea5, 1, 0x62d⟩, ⟨0xfea8, 0xfea9, 1, 0x62e⟩,
   ⟨0xfeaa, 0xfeab, 1, 0x62f⟩, ⟨0xfeac, 0xfead, 1, 0x630⟩, ⟨0xfeae, 0xfeaf, 1, 0x631⟩,
   ⟨0xfeb0, 0xfeb1, 1, 0x632⟩, ⟨0xfeb4, 0xfeb5, 1, 0x633⟩, ⟨0xfeb8, 0xfeb9, 1, 0x634⟩,
   ⟨0xfebc, 0xfebd, 1, 0x635⟩, ⟨0xfec0, 0xfec1, 1, 0x636⟩, ⟨0xfec4, 0xfec5, 1, 0x637⟩,
   ⟨0xfec8, 0xfec9, 1, 0x638⟩, ⟨0xfecc, 0xfecd, 1, 0x639⟩, ⟨0xfed4, 0xfed5, 1, 0x641⟩,
   ⟨0xfed8, 0xfed9, 1, 0x642⟩, ⟨0xfedc, 0xfedd, 1, 0x643⟩, ⟨0xfee0, 0xfee1, 1, 0x644⟩,
   ⟨0xfee4, 0xfee5, 1, 0x645⟩, ⟨0xfee8, 0xfee9, 1, 0x646⟩, ⟨0xfeec, 0xfeed, 1, 0x647⟩,
   ⟨0xfeee, 0xfeef, 1, 0x648⟩, ⟨0xfef0, 0xfef1, 1, 0x649⟩, ⟨0xff01, 0xff20, 1, 0x21⟩,
   ⟨0xff21, 0xff3a, 1, 0x61⟩, ⟨0xff3b, 0xff5e, 1, 0x5b⟩, ⟨0xff5f, 0xff60, 1, 0x2985⟩,
   ⟨0xff62, 0xff63, 1, 0x300c⟩, ⟨0xff75, 0xff76, 1, 0x30aa⟩, ⟨0xff85, 0xff8a, 1, 0x30ca⟩,
   ⟨0xff8f, 0xff93, 1, 0x30de⟩, ⟨0xff96, 0xff9b, 1, 0x30e8⟩, ⟨0xff9e, 0xff9f, 1, 0x3099⟩,
   ⟨0xffa1, 0xffa2, 1, 0x1100⟩, ⟨0xffa5, 0xffa6, 1, 0x11ac⟩, ⟨0xffa7, 0xffa9, 1, 0x1103⟩,
   ⟨0xffaa, 0xffaf, 1, 0x11b0⟩, ⟨0xffb1, 0xffb3, 1, 0x1106⟩, ⟨0xffb5, 0xffbe, 1, 0x1109⟩,
   ⟨0xffc2, 0xffc7, 1, 0x1161⟩, ⟨0xffca, 0xffcf, 1, 0x1167⟩, ⟨0xffd2, 0xffd7, 1, 0x116d⟩,
   ⟨0xffda, 0xffdc, 1, 0x1173⟩, ⟨0xffe0, 0xffe1, 1, 0xa2⟩, ⟨0xffe9, 0xffec, 1, 0x2190⟩,
   ⟨0x10400, 0x10427, 1, 0x10428⟩, ⟨0x104b0, 0x104d3, 1, 0x104d8⟩, ⟨0x10570, 0x1057a, 1, 0x10597⟩,
   ⟨0x1057c, 0x1058a, 1, 0x105a3⟩, ⟨0x1058c, 0x10592, 1, 0x105b3⟩, ⟨0x10594, 0x10595, 1, 0x105bb⟩,
   ⟨0x10781, 0x10782, 1, 0x2d0⟩, ⟨0x1078b, 0x1078c, 1, 0x256⟩, ⟨0x10799, 0x1079a, 1, 0x2aa⟩,
   ⟨0x107a3, 0x107a4, 1, 0x276⟩, ⟨0x107a8, 0x107a9, 1, 0x27d⟩, ⟨0x107b3, 0x107b4, 1, 0x2a1⟩,
   ⟨0x107b6, 0x107b8, 1, 0x1c0⟩, ⟨0x10c80, 0x10cb2, 1, 0x10cc0⟩, ⟨0x10d50, 0x10d65, 1, 0x10d70⟩,
   ⟨0x118a0, 0x118bf, 1, 0x118c0⟩, ⟨0x16e40, 0x16e5f, 1, 0x16e60⟩, ⟨0x16ea0, 0x16eb8, 1, 0x16ebb⟩,
   ⟨0x1ccd6, 0x1ccef, 1, 0x61⟩, ⟨0x1ccf0, 0x1ccf9, 1, 0x30⟩, ⟨0x1d400, 0x1d419, 1, 0x61⟩,
   ⟨0x1d41a, 0x1d433, 1, 0x61⟩, ⟨0x1d434, 0x1d44d, 1, 0x61⟩, ⟨0x1d44e, 0x1d454, 1, 0x61⟩,
   ⟨0x1d456, 0x1d467, 1, 0x69⟩, ⟨0x1d468, 0x1d481, 1, 0x61⟩, ⟨0x1d482, 0x1d49b, 1, 0x61⟩,
   ⟨0x1d49c, 0x1d49e, 2, 0x61⟩, ⟨0x1d4a5, 0x1d4a6, 1, 0x6a⟩, ⟨0x1d4a9, 0x1d4ac, 1, 0x6e⟩,
   ⟨0x1d4ae, 0x1d4b5, 1, 0x73⟩, ⟨0x1d4b6, 0x1d4b9, 1, 0x61⟩, ⟨0x1d4bb, 0x1d4bd, 2, 0x66⟩,
   ⟨0x1d4be, 0x1d4c3, 1, 0x69⟩, ⟨0x1d4c5, 0x1d4cf, 1, 0x70⟩, ⟨0x1d4d0, 0x1d4e9, 1, 0x61⟩,
   ⟨0x1d4ea, 0x1d503, 1, 0x61⟩, ⟨0x1d504, 0x1d505, 1, 0x61⟩, ⟨0x1d507, 0x1d50a, 1, 0x64⟩,
   ⟨0x1d50d, 0x1d514, 1, 0x6a⟩, ⟨0x1d516, 0x1d51c, 1, 0x73⟩, ⟨0x1d51e, 0x1d537, 1, 0x61⟩,
   ⟨0x1d538, 0x1d539, 1, 0x61⟩, ⟨0x1d53b, 0x1d53e, 1, 0x64⟩, ⟨0x1d540, 0x1d544, 1, 0x69⟩,
   ⟨0x1d54a, 0x1d550, 1, 0x73⟩, ⟨0x1d552, 0x1d56b, 1, 0x61⟩, ⟨0x1d56c, 0x1d585, 1, 0x61⟩,
   ⟨0x1d586, 0x1d59f, 1, 0x61⟩, ⟨0x1d5a0, 0x1d5b9, 1, 0x61⟩, ⟨0x1d5ba, 0x1d5d3, 1, 0x61⟩,
   ⟨0x1d5d4, 0x1d5ed, 1, 0x61⟩, ⟨0x1d5ee, 0x1d607, 1, 0x61⟩, ⟨0x1d608, 0x1d621, 1, 0x61⟩,
   ⟨0x1d622, 0x1d63b, 1, 0x61⟩, ⟨0x1d63c, 0x1d655, 1, 0x61⟩, ⟨0x1d656, 0x1d66f, 1, 0x61⟩,
   ⟨0x1d670, 0x1d689, 1, 0x61⟩, ⟨0x1d68a, 0x1d6a3, 1, 0x61⟩, ⟨0x1d6a8, 0x1d6b8, 1, 0x3b1⟩,
   ⟨0x1d6ba, 0x1d6c0, 1, 0x3c3⟩, ⟨0x1d6c2, 0x1d6d2, 1, 0x3b1⟩, ⟨0x1d6d4, 0x1d6da, 1, 0x3c3⟩,
   ⟨0x1d6e2, 0x1d6f2, 1, 0x3b1⟩, ⟨0x1d6f4, 0x1d6fa, 1, 0x3c3⟩, ⟨0x1d6fc, 0x1d70c, 1, 0x3b1⟩,
   ⟨0x1d70e, 0x1d714, 1, 0x3c3⟩, ⟨0x1d71c, 0x1d72c, 1, 0x3b1⟩, ⟨0x1d72e, 0x1d734, 1, 0x3c3⟩,
   ⟨0x1d736, 0x1d746, 1, 0x3b1⟩, ⟨0x1d748, 0x1d74e, 1, 0x3c3⟩, ⟨0x1d756, 0x1d766, 1, 0x3b1⟩,
   ⟨0x1d768, 0x1d76e, 1, 0x3c3⟩, ⟨0x1d770, 0x1d780, 1, 0x3b1⟩, ⟨0x1d782, 0x1d788, 1, 0x3c3⟩,
   ⟨0x1d790, 0x1d7a0, 1, 0x3b1⟩, ⟨0x1d7a2, 0x1d7a8, 1, 0x3c3⟩, ⟨0x1d7aa, 0x1d7ba, 1, 0x3b1⟩,
   ⟨0x1d7bc, 0x1d7c2, 1, 0x3c3⟩, ⟨0x1d7ce, 0x1d7d7, 1, 0x30⟩, ⟨0x1d7d8, 0x1d7e1, 1, 0x30⟩,
   ⟨0x1d7e2, 0x1d7eb, 1, 0x30⟩, ⟨0x1d7ec, 0x1d7f5, 1, 0x30⟩, ⟨0x1d7f6, 0x1d7ff, 1, 0x30⟩,
   ⟨0x1e030, 0x1e038, 1, 0x430⟩, ⟨0x1e039, 0x1e03b, 1, 0x43a⟩, ⟨0x1e03c, 0x1e046, 1, 0x43e⟩,
   ⟨0x1e048, 0x1e049, 1, 0x44d⟩, ⟨0x1e051, 0x1e059, 1, 0x430⟩, ⟨0x1e05a, 0x1e05b, 1, 0x43a⟩,
   ⟨0x1e05c, 0x1e05d, 1, 0x43e⟩, ⟨0x1e05f, 0x1e064, 1, 0x443⟩, ⟨0x1e065, 0x1e066, 1, 0x44a⟩,
   ⟨0x1e900, 0x1e921, 1, 0x1e922⟩, ⟨0x1ee00, 0x1ee01, 1, 0x627⟩, ⟨0x1ee0a, 0x1ee0d, 1, 0x643⟩,
   ⟨0x1ee15, 0x1ee16, 1, 0x62a⟩, ⟨0x1ee2a, 0x1ee2d, 1, 0x643⟩, ⟨0x1ee35, 0x1ee36, 1, 0x62a⟩,
   ⟨0x1ee4b, 0x1ee4d, 2, 0x644⟩, ⟨0x1ee6a, 0x1ee6c, 2, 0x643⟩, ⟨0x1ee75, 0x1ee76, 1, 0x62a⟩,
   ⟨0x1ee80, 0x1ee81, 1, 0x627⟩, ⟨0x1ee84, 0x1ee85, 1, 0x647⟩, ⟨0x1ee8b, 0x1ee8d, 1, 0x644⟩,
   ⟨0x1ee95, 0x1ee96, 1, 0x62a⟩, ⟨0x1eeab, 0x1eead, 1, 0x644⟩, ⟨0x1eeb5, 0x1eeb6, 1, 0x62a⟩,
   ⟨0x1f130, 0x1f149, 1, 0x61⟩, ⟨0x1fbf0, 0x1fbf9, 1, 0x30⟩]

/-- The characters outside the runs with what they fold to. -/
def foldTable : List String :=
  ["a0:20 a8:20+308 aa:61 af:20+304 b4:20+301,3bc b8:20+327,31,6f",
   "bc:31+2044+34,31+2044+32,33+2044+34 130:69+307 132:69+6a,69+6a 13f:6c+b7,6c+b7 149:2bc+6e",
   "178:ff 17f:73 181:253 186:254,188 18b:18c 18e:1dd,259,25b,192 193:260,263 196:269,268,199",
   "19c:26f,272 19f:275 1a6:280,1a8 1a9:283 1ac:1ad 1ae:288,1b0 1b7:292,1b9 1bc:1bd",
   "1c4:64+17e,64+17e,64+17e,6c+6a,6c+6a,6c+6a,6e+6a,6e+6a,6e+6a 1f1:64+7a,64+7a,64+7a,1f5",
   "1f6:195,1bf 220:19e 23a:2c65,23c 23d:19a,2c66 241:242 243:180,289,28c",
   "2b0:68,266,6a,72,279,27b,281,77,79 2d8:20+306,20+307,20+30a,20+328,20+303,20+30b",
   "2e0:263,6c,73,78,295 345:3b9 376:377 37a:20+3b9 37f:3f3 384:20+301,20+308+301,3ac 38c:3cc",
   "3cf:3d7,3b2,3b8,3c5,3cd,3cb,3c6,3c0 3f0:3ba,3c1,3c3 3f4:3b8,3b5 3f7:3f8 3f9:3c3,3fb 4c0:4cf",
   "587:565+582 675:627+674,648+674,6c7+674,64a+674 e33:e4d+e32 eb3:ecd+eb2 edc:eab+e99,eab+ea1",
   "f0c:f0b f77:fb2+f71+f80 f79:fb3+f71+f80 10c7:2d27 10cd:2d2d 10fc:10dc 1c80:432,434,43e",
   "1c85:442,44a,463,a64b,1c8a 1d2c:61,e6 1d31:65,1dd 1d3c:6f,223,70,72 1d42:77,61 1d46:1d02,62",
   "1d4a:259 1d4d:67 1d4f:6b,6d,14b,6f,254 1d56:70 1d59:1d1d,26f,76,1d25 1d62:69,72 1d68:3c1",
   "1d78:43d 1d9b:252,63,255,f0,25c,66,25f,261,265 1da7:1d7b,29d,26d,1d85,29f,271,270 1db2:278",
   "1db5:1ab 1db8:1d1c 1dbb:7a 1dbf:3b8 1e9a:61+2be,1e61 1e9e:df",
   "1f80:1f00+3b9,1f01+3b9,1f02+3b9,1f03+3b9,1f04+3b9,1f05+3b9,1f06+3b9,1f07+3b9,1f00+3b9",
   "1f89:1f01+3b9,1f02+3b9,1f03+3b9,1f04+3b9,1f05+3b9,1f06+3b9,1f07+3b9,1f20+3b9,1f21+3b9",
   "1f92:1f22+3b9,1f23+3b9,1f24+3b9,1f25+3b9,1f26+3b9,1f27+3b9,1f20+3b9,1f21+3b9,1f22+3b9",
   "1f9b:1f23+3b9,1f24+3b9,1f25+3b9,1f26+3b9,1f27+3b9,1f60+3b9,1f61+3b9,1f62+3b9,1f63+3b9",
   "1fa4:1f64+3b9,1f65+3b9,1f66+3b9,1f67+3b9,1f60+3b9,1f61+3b9,1f62+3b9,1f63+3b9,1f64+3b9",
   "1fad:1f65+3b9,1f66+3b9,1f67+3b9 1fb2:1f70+3b9,3b1+3b9,3ac+3b9 1fb7:1fb6+3b9",
   "1fba:1f70,3ac,3b1+3b9,20+313 1fbf:20+313,20+342,20+308+342,1f74+3b9,3b7+3b9,3ae+3b9",
   "1fc7:1fc6+3b9,1f72,3ad,1f74,3ae,3b7+3b9,20+313+300,20+313+301,20+313+342 1fda:1f76,3af",
   "1fdd:20+314+300,20+314+301,20+314+342 1fea:1f7a,3cd,1fe5,20+308+300,20+308+301",
   "1ff2:1f7c+3b9,3c9+3b9,3ce+3b9 1ff7:1ff6+3b9,1f78,3cc,1f7c,3ce,3c9+3b9,20+301,20+314",
   "2000:20,20,20,20,20,20,20,20,20,20,20 2011:2010 2017:20+333 202f:20",
   "2033:2032+2032,2032+2032+2032 2036:2035+2035,2035+2035+2035 203c:21+21 203e:20+305",
   "2047:3f+3f,3f+21,21+3f 2057:2032+2032+2032+2032 205f:20 2070:30,69 207a:2b,2212,3d 207f:6e",
   "208a:2b,2212,3d 2090:61,65,6f,78,259,68 209a:70 20a8:72+73 2100:61+2f+63,61+2f+73,63,b0+63",
   "2105:63+2f+6f,63+2f+75,25b 2109:b0+66 210c:68,68,68,127,69,69,6c 2116:6e+6f 211c:72,72",
   "2120:73+6d,74+65+6c,74+6d 2124:7a 2126:3c9 2128:7a 212a:6b,e5 212f:65 2132:214e,6d,6f",
   "2139:69 213b:66+61+78,3c0,3b3,3b3,3c0,2211 2145:64",
   "2150:31+2044+37,31+2044+39,31+2044+31+30,31+2044+33,32+2044+33,31+2044+35,32+2044+35",
   "2157:33+2044+35,34+2044+35,31+2044+36,35+2044+36,31+2044+38,33+2044+38,35+2044+38,37+2044+38",
   "215f:31+2044,69,69+69,69+69+69,69+76,76,76+69,76+69+69,76+69+69+69,69+78,78,78+69,78+69+69",
   "216c:6c",
   "216f:6d,69,69+69,69+69+69,69+76,76,76+69,76+69+69,76+69+69+69,69+78,78,78+69,78+69+69,6c",
   "217f:6d 2183:2184 2189:30+2044+33 222c:222b+222b,222b+222b+222b",
   "222f:222e+222e,222e+222e+222e",
   "2469:31+30,31+31,31+32,31+33,31+34,31+35,31+36,31+37,31+38,31+39,32+30,28+31+29,28+32+29",
   "2476:28+33+29,28+34+29,28+35+29,28+36+29,28+37+29,28+38+29,28+39+29,28+31+30+29,28+31+31+29",
   "247f:28+31+32+29,28+31+33+29,28+31+34+29,28+31+35+29,28+31+36+29,28+31+37+29,28+31+38+29",
   "2486:28+31+39+29,28+32+30+29",
   "249c:28+61+29,28+62+29,28+63+29,28+64+29,28+65+29,28+66+29,28+67+29,28+68+29,28+69+29",
   "24a5:28+6a+29,28+6b+29,28+6c+29,28+6d+29,28+6e+29,28+6f+29,28+70+29,28+71+29,28+72+29",
   "24ae:28+73+29,28+74+29,28+75+29,28+76+29,28+77+29,28+78+29,28+79+29,28+7a+29 24ea:30",
   "2a0c:222b+222b+222b+222b 2a74:3a+3a+3d,3d+3d,3d+3d+3d 2c60:2c61 2c62:26b,1d7d,27d",
   "2c6d:251,271,250,252 2c72:2c73 2c75:2c76 2c7c:6a,76 2cf2:2cf3 2d6f:2d61 2e9f:6bcd 2ef3:9f9f",
   "2f00:4e00,4e28,4e36,4e3f,4e59,4e85,4e8c,4ea0,4eba,513f,5165,516b,5182,5196,51ab,51e0,51f5",
   "2f11:5200,529b,52f9,5315,531a,5338,5341,535c,5369,5382,53b6,53c8,53e3,56d7,571f,58eb,5902",
   "2f22:590a,5915,5927,5973,5b50,5b80,5bf8,5c0f,5c22,5c38,5c6e,5c71,5ddb,5de5,5df1,5dfe,5e72",
   "2f33:5e7a,5e7f,5ef4,5efe,5f0b,5f13,5f50,5f61,5f73,5fc3,6208,6236,624b,652f,6534,6587,6597",
   "2f44:65a4,65b9,65e0,65e5,66f0,6708,6728,6b20,6b62,6b79,6bb3,6bcb,6bd4,6bdb,6c0f,6c14,6c34",
   "2f55:706b,722a,7236,723b,723f,7247,7259,725b,72ac,7384,7389,74dc,74e6,7518,751f,7528,7530",
   "2f66:758b,7592,7676,767d,76ae,76bf,76ee,77db,77e2,77f3,793a,79b8,79be,7a74,7acb,7af9,7c73",
   "2f77:7cf8,7f36,7f51,7f8a,7fbd,8001,800c,8012,8033,807f,8089,81e3,81ea,81f3,81fc,820c,821b",
   "2f88:821f,826e,8272,8278,864d,866b,8840,884c,8863,897e,898b,89d2,8a00,8c37,8c46,8c55,8c78",
   "2f99:8c9d,8d64,8d70,8db3,8eab,8eca,8f9b,8fb0,8fb5,9091,9149,91c6,91cc,91d1,9577,9580,961c",
   "2faa:96b6,96b9,96e8,9751,975e,9762,9769,97cb,97ed,97f3,9801,98a8,98db,98df,9996,9999,99ac",
   "2fbb:9aa8,9ad8,9adf,9b25,9b2f,9b32,9b3c,9b5a,9ce5,9e75,9e7f,9ea5,9ebb,9ec3,9ecd,9ed1,9ef9",
   "2fcc:9efd,9f0e,9f13,9f20,9f3b,9f4a,9f52,9f8d,9f9c,9fa0 3000:20 3002:2e 3036:3012 3038:5341",
   "309b:20+3099,20+309a 309f:3088+308a 30ff:30b3+30c8 3133:11aa,1102 3140:111a 3144:1121",
   "3169:11cc,11ce,11d3,11d7,11d9,111c,11dd,11df 3173:1120 3176:1127,1129",
   "317d:1132,1136,1140,1147,114c 3189:1188 318c:1194,119e,11a1",
   "3192:4e00,4e8c,4e09,56db,4e0a,4e2d,4e0b,7532,4e59,4e19,4e01,5929,5730,4eba",
   "3200:28+1100+29,28+1102+29,28+1103+29,28+1105+29,28+1106+29,28+1107+29,28+1109+29,28+110b+29",
   "3208:28+110c+29,28+110e+29,28+110f+29,28+1110+29,28+1111+29,28+1112+29,28+ac00+29,28+b098+29",
   "3210:28+b2e4+29,28+b77c+29,28+b9c8+29,28+bc14+29,28+c0ac+29,28+c544+29,28+c790+29,28+cc28+29",
   "3218:28+ce74+29,28+d0c0+29,28+d30c+29,28+d558+29,28+c8fc+29,28+c624+c804+29,28+c624+d6c4+29",
   "3220:28+4e00+29,28+4e8c+29,28+4e09+29,28+56db+29,28+4e94+29,28+516d+29,28+4e03+29,28+516b+29",
   "3228:28+4e5d+29,28+5341+29,28+6708+29,28+706b+29,28+6c34+29,28+6728+29,28+91d1+29,28+571f+29",
   "3230:28+65e5+29,28+682a+29,28+6709+29,28+793e+29,28+540d+29,28+7279+29,28+8ca1+29,28+795d+29",
   "3238:28+52b4+29,28+4ee3+29,28+547c+29,28+5b66+29,28+76e3+29,28+4f01+29,28+8cc7+29,28+5354+29",
   "3240:28+796d+29,28+4f11+29,28+81ea+29,28+81f3+29,554f,5e7c,6587,7b8f",
   "3250:70+74+65,32+31,32+32,32+33,32+34,32+35,32+36,32+37,32+38,32+39,33+30,33+31,33+32,33+33",
   "325e:33+34,33+35,1100 3266:1109",
   "326e:ac00,b098,b2e4,b77c,b9c8,bc14,c0ac,c544,c790,cc28,ce74,d0c0,d30c,d558,cc38+ace0",
   "327d:c8fc+c758,c6b0",
   "3280:4e00,4e8c,4e09,56db,4e94,516d,4e03,516b,4e5d,5341,6708,706b,6c34,6728,91d1,571f,65e5",
   "3291:682a,6709,793e,540d,7279,8ca1,795d,52b4,79d8,7537,5973,9069,512a,5370,6ce8,9805,4f11",
   "32a2:5199,6b63,4e0a,4e2d,4e0b,5de6,53f3,533b,5b97,5b66,76e3,4f01,8cc7,5354,591c,33+36,33+37",
   "32b3:33+38,33+39,34+30,34+31,34+32,34+33,34+34,34+35,34+36,34+37,34+38,34+39,35+30,31+6708",
   "32c1:32+6708,33+6708,34+6708,35+6708,36+6708,37+6708,38+6708,39+6708,31+30+6708,31+31+6708",
   "32cb:31+32+6708,68+67,65+72+67,65+76,6c+74+64,30a2,30a4,30a6,30a8",
   "32d6:30ad,30af,30b1,30b3,30b5,30b7,30b9,30bb,30bd,30bf,30c1,30c4,30c6,30c8",
   "32ea:30d2,30d5,30d8,30db 32f3:30e4,30e6",
   "32ff:4ee4+548c,30a2+30d1+30fc+30c8,30a2+30eb+30d5+30a1,30a2+30f3+30da+30a2,30a2+30fc+30eb",
   "3304:30a4+30cb+30f3+30b0,30a4+30f3+30c1,30a6+30a9+30f3,30a8+30b9+30af+30fc+30c9",
   "3308:30a8+30fc+30ab+30fc,30aa+30f3+30b9,30aa+30fc+30e0,30ab+30a4+30ea,30ab+30e9+30c3+30c8",
   "330d:30ab+30ed+30ea+30fc,30ac+30ed+30f3,30ac+30f3+30de,30ae+30ac,30ae+30cb+30fc",
   "3312:30ad+30e5+30ea+30fc,30ae+30eb+30c0+30fc,30ad+30ed,30ad+30ed+30b0+30e9+30e0",
   "3316:30ad+30ed+30e1+30fc+30c8+30eb,30ad+30ed+30ef+30c3+30c8,30b0+30e9+30e0",
   "3319:30b0+30e9+30e0+30c8+30f3,30af+30eb+30bc+30a4+30ed,30af+30ed+30fc+30cd,30b1+30fc+30b9",
   "331d:30b3+30eb+30ca,30b3+30fc+30dd,30b5+30a4+30af+30eb,30b5+30f3+30c1+30fc+30e0",
   "3321:30b7+30ea+30f3+30b0,30bb+30f3+30c1,30bb+30f3+30c8,30c0+30fc+30b9,30c7+30b7,30c9+30eb",
   "3327:30c8+30f3,30ca+30ce,30ce+30c3+30c8,30cf+30a4+30c4,30d1+30fc+30bb+30f3+30c8",
   "332c:30d1+30fc+30c4,30d0+30fc+30ec+30eb,30d4+30a2+30b9+30c8+30eb,30d4+30af+30eb,30d4+30b3",
   "3331:30d3+30eb,30d5+30a1+30e9+30c3+30c9,30d5+30a3+30fc+30c8,30d6+30c3+30b7+30a7+30eb",
   "3335:30d5+30e9+30f3,30d8+30af+30bf+30fc+30eb,30da+30bd,30da+30cb+30d2,30d8+30eb+30c4",
   "333a:30da+30f3+30b9,30da+30fc+30b8,30d9+30fc+30bf,30dd+30a4+30f3+30c8,30dc+30eb+30c8",
   "333f:30db+30f3,30dd+30f3+30c9,30db+30fc+30eb,30db+30fc+30f3,30de+30a4+30af+30ed",
   "3344:30de+30a4+30eb,30de+30c3+30cf,30de+30eb+30af,30de+30f3+30b7+30e7+30f3",
   "3348:30df+30af+30ed+30f3,30df+30ea,30df+30ea+30d0+30fc+30eb,30e1+30ac,30e1+30ac+30c8+30f3",
   "334d:30e1+30fc+30c8+30eb,30e4+30fc+30c9,30e4+30fc+30eb,30e6+30a2+30f3,30ea+30c3+30c8+30eb",
   "3352:30ea+30e9,30eb+30d4+30fc,30eb+30fc+30d6+30eb,30ec+30e0,30ec+30f3+30c8+30b2+30f3",
   "3357:30ef+30c3+30c8,30+70b9,31+70b9,32+70b9,33+70b9,34+70b9,35+70b9,36+70b9,37+70b9,38+70b9",
   "3361:39+70b9,31+30+70b9,31+31+70b9,31+32+70b9,31+33+70b9,31+34+70b9,31+35+70b9,31+36+70b9",
   "3369:31+37+70b9,31+38+70b9,31+39+70b9,32+30+70b9,32+31+70b9,32+32+70b9,32+33+70b9,32+34+70b9",
   "3371:68+70+61,64+61,61+75,62+61+72,6f+76,70+63,64+6d,64+6d+32,64+6d+33,69+75,5e73+6210",
   "337c:662d+548c,5927+6b63,660e+6cbb,682a+5f0f+4f1a+793e,70+61,6e+61,3bc+61,6d+61,6b+61,6b+62",
   "3386:6d+62,67+62,63+61+6c,6b+63+61+6c,70+66,6e+66,3bc+66,3bc+67,6d+67,6b+67,68+7a,6b+68+7a",
   "3392:6d+68+7a,67+68+7a,74+68+7a,3bc+6c,6d+6c,64+6c,6b+6c,66+6d,6e+6d,3bc+6d,6d+6d,63+6d",
   "339e:6b+6d,6d+6d+32,63+6d+32,6d+32,6b+6d+32,6d+6d+33,63+6d+33,6d+33,6b+6d+33,6d+2215+73",
   "33a8:6d+2215+73+32,70+61,6b+70+61,6d+70+61,67+70+61,72+61+64,72+61+64+2215+73",
   "33af:72+61+64+2215+73+32,70+73,6e+73,3bc+73,6d+73,70+76,6e+76,3bc+76,6d+76,6b+76,6d+76,70+77",
   "33bb:6e+77,3bc+77,6d+77,6b+77,6d+77,6b+3c9,6d+3c9 33c3:62+71,63+63,63+64,63+2215+6b+67",
   "33c8:64+62,67+79,68+61,68+70,69+6e,6b+6b,6b+6d,6b+74,6c+6d,6c+6e,6c+6f+67,6c+78,6d+62",
   "33d5:6d+69+6c,6d+6f+6c,70+68",
   "33d9:70+70+6d,70+72,73+72,73+76,77+62,76+2215+6d,61+2215+6d,31+65e5,32+65e5,33+65e5,34+65e5",
   "33e4:35+65e5,36+65e5,37+65e5,38+65e5,39+65e5,31+30+65e5,31+31+65e5,31+32+65e5,31+33+65e5",
   "33ed:31+34+65e5,31+35+65e5,31+36+65e5,31+37+65e5,31+38+65e5,31+39+65e5,32+30+65e5,32+31+65e5",
   "33f5:32+32+65e5,32+33+65e5,32+34+65e5,32+35+65e5,32+36+65e5,32+37+65e5,32+38+65e5,32+39+65e5",
   "33fd:33+30+65e5,33+31+65e5,67+61+6c a69c:44a,44c a770:a76f a77d:1d79 a78b:a78c a78d:265",
   "a7aa:266,25c,261,26c,26a a7b0:29e,287,29d,ab53 a7c4:a794,282,1d8e a7cb:264 a7dc:19b",
   "a7f1:73,63,66,71,a7f6 a7f8:127,153 ab5c:a727,ab37,26b,ab52 ab69:28d",
   "fb00:66+66,66+69,66+6c,66+66+69,66+66+6c,73+74,73+74",
   "fb13:574+576,574+565,574+56b,57e+576,574+56d fb20:5e2,5d0 fb27:5e8,5ea,2b",
   "fb4f:5d0+5dc,671,671,67b,67b,67b,67b,67e,67e,67e,67e,680,680,680,680,67a,67a,67a,67a,67f,67f",
   "fb64:67f,67f,679,679,679,679,6a4,6a4,6a4,6a4,6a6,6a6,6a6,6a6,684,684,684,684,683,683,683,683",
   "fb7a:686,686,686",
   "fb7f:687,687,687,68d,68d,68c,68c,68e,68e,688,688,698,698,691,691,6a9,6a9,6a9,6a9,6af,6af,6af",
   "fb95:6af,6b3,6b3,6b3,6b3,6b1,6b1,6b1,6b1,6ba fba1:6bb,6bb,6bb,6c0",
   "fba7:6c1,6c1,6c1,6be,6be,6be,6be,6d2 fbb1:6d3",
   "fbd3:6ad,6ad,6ad,6ad,6c7,6c7,6c6,6c6,6c8,6c8,6c7+674,6cb,6cb,6c5,6c5,6c9,6c9,6d0,6d0,6d0,6d0",
   "fbe8:649,649,626+627,626+627,626+6d5,626+6d5,626+648,626+648,626+6c7,626+6c7,626+6c6,626+6c6",
   "fbf4:626+6c8,626+6c8,626+6d0,626+6d0,626+6d0,626+649,626+649,626+649,6cc,6cc,6cc,6cc,626+62c",
   "fc01:626+62d,626+645,626+649,626+64a,628+62c,628+62d,628+62e,628+645,628+649,628+64a,62a+62c",
   "fc0c:62a+62d,62a+62e,62a+645,62a+649,62a+64a,62b+62c,62b+645,62b+649,62b+64a,62c+62d,62c+645",
   "fc17:62d+62c,62d+645,62e+62c,62e+62d,62e+645,633+62c,633+62d,633+62e,633+645,635+62d,635+645",
   "fc22:636+62c,636+62d,636+62e,636+645,637+62d,637+645,638+645,639+62c,639+645,63a+62c,63a+645",
   "fc2d:641+62c,641+62d,641+62e,641+645,641+649,641+64a,642+62d,642+645,642+649,642+64a,643+627",
   "fc38:643+62c,643+62d,643+62e,643+644,643+645,643+649,643+64a,644+62c,644+62d,644+62e,644+645",
   "fc43:644+649,644+64a,645+62c,645+62d,645+62e,645+645,645+649,645+64a,646+62c,646+62d,646+62e",
   "fc4e:646+645,646+649,646+64a,647+62c,647+645,647+649,647+64a,64a+62c,64a+62d,64a+62e,64a+645",
   "fc59:64a+649,64a+64a,630+670,631+670,649+670,20+64c+651,20+64d+651,20+64e+651,20+64f+651",
   "fc62:20+650+651,20+651+670,626+631,626+632,626+645,626+646,626+649,626+64a,628+631,628+632",
   "fc6c:628+645,628+646,628+649,628+64a,62a+631,62a+632,62a+645,62a+646,62a+649,62a+64a,62b+631",
   "fc77:62b+632,62b+645,62b+646,62b+649,62b+64a,641+649,641+64a,642+649,642+64a,643+627,643+644",
   "fc82:643+645,643+649,643+64a,644+645,644+649,644+64a,645+627,645+645,646+631,646+632,646+645",
   "fc8d:646+646,646+649,646+64a,649+670,64a+631,64a+632,64a+645,64a+646,64a+649,64a+64a,626+62c",
   "fc98:626+62d,626+62e,626+645,626+647,628+62c,628+62d,628+62e,628+645,628+647,62a+62c,62a+62d",
   "fca3:62a+62e,62a+645,62a+647,62b+645,62c+62d,62c+645,62d+62c,62d+645,62e+62c,62e+645,633+62c",
   "fcae:633+62d,633+62e,633+645,635+62d,635+62e,635+645,636+62c,636+62d,636+62e,636+645,637+62d",
   "fcb9:638+645,639+62c,639+645,63a+62c,63a+645,641+62c,641+62d,641+62e,641+645,642+62d,642+645",
   "fcc4:643+62c,643+62d,643+62e,643+644,643+645,644+62c,644+62d,644+62e,644+645,644+647,645+62c",
   "fccf:645+62d,645+62e,645+645,646+62c,646+62d,646+62e,646+645,646+647,647+62c,647+645,647+670",
   "fcda:64a+62c,64a+62d,64a+62e,64a+645,64a+647,626+645,626+647,628+645,628+647,62a+645,62a+647",
   "fce5:62b+645,62b+647,633+645,633+647,634+645,634+647,643+644,643+645,644+645,646+645,646+647",
   "fcf0:64a+645,64a+647,640+64e+651,640+64f+651,640+650+651,637+649,637+64a,639+649,639+64a",
   "fcf9:63a+649,63a+64a,633+649,633+64a,634+649,634+64a,62d+649,62d+64a,62c+649,62c+64a,62e+649",
   "fd04:62e+64a,635+649,635+64a,636+649,636+64a,634+62c,634+62d,634+62e,634+645,634+631,633+631",
   "fd0f:635+631,636+631,637+649,637+64a,639+649,639+64a,63a+649,63a+64a,633+649,633+64a,634+649",
   "fd1a:634+64a,62d+649,62d+64a,62c+649,62c+64a,62e+649,62e+64a,635+649,635+64a,636+649,636+64a",
   "fd25:634+62c,634+62d,634+62e,634+645,634+631,633+631,635+631,636+631,634+62c,634+62d,634+62e",
   "fd30:634+645,633+647,634+647,637+645,633+62c,633+62d,633+62e,634+62c,634+62d,634+62e,637+645",
   "fd3b:638+645,627+64b,627+64b",
   "fd50:62a+62c+645,62a+62d+62c,62a+62d+62c,62a+62d+645,62a+62e+645,62a+645+62c,62a+645+62d",
   "fd57:62a+645+62e,62c+645+62d,62c+645+62d,62d+645+64a,62d+645+649,633+62d+62c,633+62c+62d",
   "fd5e:633+62c+649,633+645+62d,633+645+62d,633+645+62c,633+645+645,633+645+645,635+62d+62d",
   "fd65:635+62d+62d,635+645+645,634+62d+645,634+62d+645,634+62c+64a,634+645+62e,634+645+62e",
   "fd6c:634+645+645,634+645+645,636+62d+649,636+62e+645,636+62e+645,637+645+62d,637+645+62d",
   "fd73:637+645+645,637+645+64a,639+62c+645,639+645+645,639+645+645,639+645+649,63a+645+645",
   "fd7a:63a+645+64a,63a+645+649,641+62e+645,641+62e+645,642+645+62d,642+645+645,644+62d+645",
   "fd81:644+62d+64a,644+62d+649,644+62c+62c,644+62c+62c,644+62e+645,644+62e+645,644+645+62d",
   "fd88:644+645+62d,645+62d+62c,645+62d+645,645+62d+64a,645+62c+62d,645+62c+645,645+62e+62c",
   "fd8f:645+62e+645",
   "fd92:645+62c+62e,647+645+62c,647+645+645,646+62d+645,646+62d+649,646+62c+645,646+62c+645",
   "fd99:646+62c+649,646+645+64a,646+645+649,64a+645+645,64a+645+645,628+62e+64a,62a+62c+64a",
   "fda0:62a+62c+649,62a+62e+64a,62a+62e+649,62a+645+64a,62a+645+649,62c+645+64a,62c+62d+649",
   "fda7:62c+645+649,633+62e+649,635+62d+64a,634+62d+64a,636+62d+64a,644+62c+64a,644+645+64a",
   "fdae:64a+62d+64a,64a+62c+64a,64a+645+64a,645+645+64a,642+645+64a,646+62d+64a,642+645+62d",
   "fdb5:644+62d+645,639+645+64a,643+645+64a,646+62c+62d,645+62e+64a,644+62c+645,643+645+645",
   "fdbc:644+62c+645,646+62c+62d,62c+62d+64a,62d+62c+64a,645+62c+64a,641+645+64a,628+62d+64a",
   "fdc3:643+645+645,639+62c+645,635+645+645,633+62e+64a,646+62c+64a",
   "fdf0:635+644+6d2,642+644+6d2,627+644+644+647,627+643+628+631,645+62d+645+62f,635+644+639+645",
   "fdf6:631+633+648+644,639+644+64a+647,648+633+644+645,635+644+649",
   "fdfa:635+644+649+20+627+644+644+647+20+639+644+64a+647+20+648+633+644+645",
   "fdfb:62c+644+20+62c+644+627+644+647,631+6cc+627+644 fe10:2c,3001 fe15:21,3f",
   "fe31:2014,2013,5f,5f fe37:7b,7d fe47:5b,5d,20+305,20+305,20+305,20+305,5f,5f,5f,2c,3001",
   "fe54:3b,3a,3f,21,2014 fe5b:7b,7d fe5f:23,26 fe63:2d,3c,3e,3d fe68:5c fe6b:40",
   "fe70:20+64b,640+64b,20+64c fe74:20+64d",
   "fe76:20+64e,640+64e,20+64f,640+64f,20+650,640+650,20+651,640+651,20+652,640+652 fe8a:626,626",
   "fe90:628,628 fe96:62a,62a fe9a:62b,62b fe9e:62c,62c fea2:62d,62d fea6:62e,62e feb2:633,633",
   "feb6:634,634 feba:635,635 febe:636,636 fec2:637,637 fec6:638,638 feca:639,639",
   "fece:63a,63a,63a,641,641,641 fed6:642,642 feda:643,643 fede:644,644 fee2:645,645",
   "fee6:646,646 feea:647,647",
   "fef2:64a,64a,64a,644+622,644+622,644+623,644+623,644+625,644+625,644+627,644+627 ff61:2e",
   "ff64:3001,30fb,30f2,30a1,30a3,30a5,30a7,30a9,30e3,30e5,30e7,30c3,30fc,30a2,30a4,30a6,30a8",
   "ff77:30ad,30af,30b1,30b3,30b5,30b7,30b9,30bb,30bd,30bf,30c1,30c4,30c6,30c8",
   "ff8b:30d2,30d5,30d8,30db ff94:30e4,30e6 ff9c:30ef,30f3 ffa3:11aa,1102 ffb0:111a ffb4:1121",
   "ffe2:ac,20+304,a6,a5,20a9 ffe8:2502 ffed:25a0,25cb 10783:e6,299,253 10787:2a3,ab66,2a5,2a4",
   "1078d:1d91,258,25e,2a9,264,262,260,29b,127,29c,267,284",
   "1079b:26c,1df04,a78e,26e,1df05,28e,1df06,f8 107a5:71,27a,1df08",
   "107aa:280,2a8,2a6,ab67,2a7,288,2c71 107b2:28f 107b5:298 107b9:1df0a,1df1e 1d49f:64 1d4a2:67",
   "1d546:6f 1d6a4:131,237 1d6b9:3b8 1d6c1:2207 1d6d3:3c3 1d6db:2202,3b5,3b8,3ba,3c6,3c1,3c0",
   "1d6f3:3b8 1d6fb:2207 1d70d:3c3 1d715:2202,3b5,3b8,3ba,3c6,3c1,3c0 1d72d:3b8 1d735:2207",
   "1d747:3c3 1d74f:2202,3b5,3b8,3ba,3c6,3c1,3c0 1d767:3b8 1d76f:2207 1d781:3c3",
   "1d789:2202,3b5,3b8,3ba,3c6,3c1,3c0 1d7a1:3b8 1d7a9:2207 1d7bb:3c3",
   "1d7c3:2202,3b5,3b8,3ba,3c6,3c1,3c0,3dd,3dd 1e047:44b 1e04a:a689,4d9,456,458,4e9,4af,4cf",
   "1e05e:441 1e067:491,456,455,45f,4ab,a651,4b1 1ee02:62c,62f 1ee05:648,632,62d,637,64a",
   "1ee0e:633,639,641,635,642,631,634 1ee17:62e,630,636,638,63a,66e,6ba,6a1,66f 1ee21:628,62c",
   "1ee24:647 1ee27:62d 1ee29:64a 1ee2e:633,639,641,635,642 1ee34:634 1ee37:62e 1ee39:636",
   "1ee3b:63a 1ee42:62c 1ee47:62d 1ee49:64a 1ee4e:633,639 1ee51:635,642 1ee54:634 1ee57:62e",
   "1ee59:636 1ee5b:63a 1ee5d:6ba 1ee5f:66f 1ee61:628,62c 1ee64:647 1ee67:62d,637,64a",
   "1ee6d:646,633,639,641,635,642 1ee74:634 1ee77:62e 1ee79:636,638,63a,66e 1ee7e:6a1",
   "1ee82:62c,62f 1ee86:632,62d,637,64a 1ee8e:633,639,641,635,642,631,634",
   "1ee97:62e,630,636,638,63a 1eea1:628,62c,62f 1eea5:648,632,62d,637,64a",
   "1eeae:633,639,641,635,642,631,634 1eeb7:62e,630,636,638,63a",
   "1f101:30+2c,31+2c,32+2c,33+2c,34+2c,35+2c,36+2c,37+2c,38+2c,39+2c",
   "1f110:28+61+29,28+62+29,28+63+29,28+64+29,28+65+29,28+66+29,28+67+29,28+68+29,28+69+29",
   "1f119:28+6a+29,28+6b+29,28+6c+29,28+6d+29,28+6e+29,28+6f+29,28+70+29,28+71+29,28+72+29",
   "1f122:28+73+29,28+74+29,28+75+29,28+76+29,28+77+29,28+78+29,28+79+29,28+7a+29,3014+73+3015",
   "1f12b:63,72,63+64,77+7a 1f14a:68+76,6d+76,73+64,73+73,70+70+76,77+63 1f16a:6d+63,6d+64,6d+72",
   "1f190:64+6a 1f200:307b+304b,30b3+30b3,30b5",
   "1f210:624b,5b57,53cc,30c7,4e8c,591a,89e3,5929,4ea4,6620,7121,6599,524d,5f8c,518d,65b0,521d",
   "1f221:7d42,751f,8ca9,58f0,5439,6f14,6295,6355,4e00,4e09,904a,5de6,4e2d,53f3,6307,8d70,6253",
   "1f232:7981,7a7a,5408,6e80,6709,6708,7533,5272,55b6,914d",
   "1f240:3014+672c+3015,3014+4e09+3015,3014+4e8c+3015,3014+5b89+3015,3014+70b9+3015",
   "1f245:3014+6253+3015,3014+76d7+3015,3014+52dd+3015,3014+6557+3015 1f250:5f97,53ef"]

/-- What single characters fold to. -/
def foldImages : CodeImages := .ofLines foldTable

/-- A character folded. -/
def foldChar (c : Char) : List Char :=
  if c.toNat < 0x80 then [c.toLower]
  else match foldRuns.image? c with
    | some image => [image]
    | none => (foldImages.image? c).getD [c]

end TermTape
