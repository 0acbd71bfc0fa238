import ActionRouting.Text.CaseRun

/-! The case mappings of Unicode 14 outside ASCII, as runs of evenly spaced code points. -/
namespace ActionRouting.Text.CaseRun

/-- Each letter to its lower case, where that is one other letter. -/
def lowering : List CaseRun := [
    ⟨192, 23, 1, 224⟩, ⟨216, 7, 1, 248⟩, ⟨256, 24, 2, 257⟩, ⟨306, 3, 2, 307⟩, ⟨313, 8, 2, 314⟩,
    ⟨330, 23, 2, 331⟩, ⟨376, 1, 1, 255⟩, ⟨377, 3, 2, 378⟩, ⟨385, 1, 1, 595⟩, ⟨386, 2, 2, 387⟩,
    ⟨390, 1, 1, 596⟩, ⟨391, 1, 1, 392⟩, ⟨393, 2, 1, 598⟩, ⟨395, 1, 1, 396⟩, ⟨398, 1, 1, 477⟩,
    ⟨399, 1, 1, 601⟩, ⟨400, 1, 1, 603⟩, ⟨401, 1, 1, 402⟩, ⟨403, 1, 1, 608⟩, ⟨404, 1, 1, 611⟩,
    ⟨406, 1, 1, 617⟩, ⟨407, 1, 1, 616⟩, ⟨408, 1, 1, 409⟩, ⟨412, 1, 1, 623⟩, ⟨413, 1, 1, 626⟩,
    ⟨415, 1, 1, 629⟩, ⟨416, 3, 2, 417⟩, ⟨422, 1, 1, 640⟩, ⟨423, 1, 1, 424⟩, ⟨425, 1, 1, 643⟩,
    ⟨428, 1, 1, 429⟩, ⟨430, 1, 1, 648⟩, ⟨431, 1, 1, 432⟩, ⟨433, 2, 1, 650⟩, ⟨435, 2, 2, 436⟩,
    ⟨439, 1, 1, 658⟩, ⟨440, 1, 1, 441⟩, ⟨444, 1, 1, 445⟩, ⟨452, 1, 1, 454⟩, ⟨453, 1, 1, 454⟩,
    ⟨455, 1, 1, 457⟩, ⟨456, 1, 1, 457⟩, ⟨458, 1, 1, 460⟩, ⟨459, 9, 2, 460⟩, ⟨478, 9, 2, 479⟩,
    ⟨497, 1, 1, 499⟩, ⟨498, 2, 2, 499⟩, ⟨502, 1, 1, 405⟩, ⟨503, 1, 1, 447⟩, ⟨504, 20, 2, 505⟩,
    ⟨544, 1, 1, 414⟩, ⟨546, 9, 2, 547⟩, ⟨570, 1, 1, 11365⟩, ⟨571, 1, 1, 572⟩, ⟨573, 1, 1, 410⟩,
    ⟨574, 1, 1, 11366⟩, ⟨577, 1, 1, 578⟩, ⟨579, 1, 1, 384⟩, ⟨580, 1, 1, 649⟩, ⟨581, 1, 1, 652⟩,
    ⟨582, 5, 2, 583⟩, ⟨880, 2, 2, 881⟩, ⟨886, 1, 1, 887⟩, ⟨895, 1, 1, 1011⟩, ⟨902, 1, 1, 940⟩,
    ⟨904, 3, 1, 941⟩, ⟨908, 1, 1, 972⟩, ⟨910, 2, 1, 973⟩, ⟨913, 17, 1, 945⟩, ⟨931, 9, 1, 963⟩,
    ⟨975, 1, 1, 983⟩, ⟨984, 12, 2, 985⟩, ⟨1012, 1, 1, 952⟩, ⟨1015, 1, 1, 1016⟩,
    ⟨1017, 1, 1, 1010⟩, ⟨1018, 1, 1, 1019⟩, ⟨1021, 3, 1, 891⟩, ⟨1024, 16, 1, 1104⟩,
    ⟨1040, 32, 1, 1072⟩, ⟨1120, 17, 2, 1121⟩, ⟨1162, 27, 2, 1163⟩, ⟨1216, 1, 1, 1231⟩,
    ⟨1217, 7, 2, 1218⟩, ⟨1232, 48, 2, 1233⟩, ⟨1329, 38, 1, 1377⟩, ⟨4256, 38, 1, 11520⟩,
    ⟨4295, 1, 1, 11559⟩, ⟨4301, 1, 1, 11565⟩, ⟨5024, 80, 1, 43888⟩, ⟨5104, 6, 1, 5112⟩,
    ⟨7312, 43, 1, 4304⟩, ⟨7357, 3, 1, 4349⟩, ⟨7680, 75, 2, 7681⟩, ⟨7838, 1, 1, 223⟩,
    ⟨7840, 48, 2, 7841⟩, ⟨7944, 8, 1, 7936⟩, ⟨7960, 6, 1, 7952⟩, ⟨7976, 8, 1, 7968⟩,
    ⟨7992, 8, 1, 7984⟩, ⟨8008, 6, 1, 8000⟩, ⟨8025, 4, 2, 8017⟩, ⟨8040, 8, 1, 8032⟩,
    ⟨8072, 8, 1, 8064⟩, ⟨8088, 8, 1, 8080⟩, ⟨8104, 8, 1, 8096⟩, ⟨8120, 2, 1, 8112⟩,
    ⟨8122, 2, 1, 8048⟩, ⟨8124, 1, 1, 8115⟩, ⟨8136, 4, 1, 8050⟩, ⟨8140, 1, 1, 8131⟩,
    ⟨8152, 2, 1, 8144⟩, ⟨8154, 2, 1, 8054⟩, ⟨8168, 2, 1, 8160⟩, ⟨8170, 2, 1, 8058⟩,
    ⟨8172, 1, 1, 8165⟩, ⟨8184, 2, 1, 8056⟩, ⟨8186, 2, 1, 8060⟩, ⟨8188, 1, 1, 8179⟩,
    ⟨8486, 1, 1, 969⟩, ⟨8490, 1, 1, 107⟩, ⟨8491, 1, 1, 229⟩, ⟨8498, 1, 1, 8526⟩,
    ⟨8544, 16, 1, 8560⟩, ⟨8579, 1, 1, 8580⟩, ⟨9398, 26, 1, 9424⟩, ⟨11264, 48, 1, 11312⟩,
    ⟨11360, 1, 1, 11361⟩, ⟨11362, 1, 1, 619⟩, ⟨11363, 1, 1, 7549⟩, ⟨11364, 1, 1, 637⟩,
    ⟨11367, 3, 2, 11368⟩, ⟨11373, 1, 1, 593⟩, ⟨11374, 1, 1, 625⟩, ⟨11375, 1, 1, 592⟩,
    ⟨11376, 1, 1, 594⟩, ⟨11378, 1, 1, 11379⟩, ⟨11381, 1, 1, 11382⟩, ⟨11390, 2, 1, 575⟩,
    ⟨11392, 50, 2, 11393⟩, ⟨11499, 2, 2, 11500⟩, ⟨11506, 1, 1, 11507⟩, ⟨42560, 23, 2, 42561⟩,
    ⟨42624, 14, 2, 42625⟩, ⟨42786, 7, 2, 42787⟩, ⟨42802, 31, 2, 42803⟩, ⟨42873, 2, 2, 42874⟩,
    ⟨42877, 1, 1, 7545⟩, ⟨42878, 5, 2, 42879⟩, ⟨42891, 1, 1, 42892⟩, ⟨42893, 1, 1, 613⟩,
    ⟨42896, 2, 2, 42897⟩, ⟨42902, 10, 2, 42903⟩, ⟨42922, 1, 1, 614⟩, ⟨42923, 1, 1, 604⟩,
    ⟨42924, 1, 1, 609⟩, ⟨42925, 1, 1, 620⟩, ⟨42926, 1, 1, 618⟩, ⟨42928, 1, 1, 670⟩,
    ⟨42929, 1, 1, 647⟩, ⟨42930, 1, 1, 669⟩, ⟨42931, 1, 1, 43859⟩, ⟨42932, 8, 2, 42933⟩,
    ⟨42948, 1, 1, 42900⟩, ⟨42949, 1, 1, 642⟩, ⟨42950, 1, 1, 7566⟩, ⟨42951, 2, 2, 42952⟩,
    ⟨42960, 1, 1, 42961⟩, ⟨42966, 2, 2, 42967⟩, ⟨42997, 1, 1, 42998⟩, ⟨65313, 26, 1, 65345⟩,
    ⟨66560, 40, 1, 66600⟩, ⟨66736, 36, 1, 66776⟩, ⟨66928, 11, 1, 66967⟩, ⟨66940, 15, 1, 66979⟩,
    ⟨66956, 7, 1, 66995⟩, ⟨66964, 2, 1, 67003⟩, ⟨68736, 51, 1, 68800⟩, ⟨71840, 32, 1, 71872⟩,
    ⟨93760, 32, 1, 93792⟩, ⟨125184, 34, 1, 125218⟩]

/-- Each letter to its upper case, where that is one other letter. -/
def raising : List CaseRun := [
    ⟨181, 1, 1, 924⟩, ⟨224, 23, 1, 192⟩, ⟨248, 7, 1, 216⟩, ⟨255, 1, 1, 376⟩, ⟨257, 24, 2, 256⟩,
    ⟨305, 1, 1, 73⟩, ⟨307, 3, 2, 306⟩, ⟨314, 8, 2, 313⟩, ⟨331, 23, 2, 330⟩, ⟨378, 3, 2, 377⟩,
    ⟨383, 1, 1, 83⟩, ⟨384, 1, 1, 579⟩, ⟨387, 2, 2, 386⟩, ⟨392, 1, 1, 391⟩, ⟨396, 1, 1, 395⟩,
    ⟨402, 1, 1, 401⟩, ⟨405, 1, 1, 502⟩, ⟨409, 1, 1, 408⟩, ⟨410, 1, 1, 573⟩, ⟨414, 1, 1, 544⟩,
    ⟨417, 3, 2, 416⟩, ⟨424, 1, 1, 423⟩, ⟨429, 1, 1, 428⟩, ⟨432, 1, 1, 431⟩, ⟨436, 2, 2, 435⟩,
    ⟨441, 1, 1, 440⟩, ⟨445, 1, 1, 444⟩, ⟨447, 1, 1, 503⟩, ⟨453, 1, 1, 452⟩, ⟨454, 1, 1, 452⟩,
    ⟨456, 1, 1, 455⟩, ⟨457, 1, 1, 455⟩, ⟨459, 1, 1, 458⟩, ⟨460, 1, 1, 458⟩, ⟨462, 8, 2, 461⟩,
    ⟨477, 1, 1, 398⟩, ⟨479, 9, 2, 478⟩, ⟨498, 1, 1, 497⟩, ⟨499, 1, 1, 497⟩, ⟨501, 1, 1, 500⟩,
    ⟨505, 20, 2, 504⟩, ⟨547, 9, 2, 546⟩, ⟨572, 1, 1, 571⟩, ⟨575, 2, 1, 11390⟩, ⟨578, 1, 1, 577⟩,
    ⟨583, 5, 2, 582⟩, ⟨592, 1, 1, 11375⟩, ⟨593, 1, 1, 11373⟩, ⟨594, 1, 1, 11376⟩,
    ⟨595, 1, 1, 385⟩, ⟨596, 1, 1, 390⟩, ⟨598, 2, 1, 393⟩, ⟨601, 1, 1, 399⟩, ⟨603, 1, 1, 400⟩,
    ⟨604, 1, 1, 42923⟩, ⟨608, 1, 1, 403⟩, ⟨609, 1, 1, 42924⟩, ⟨611, 1, 1, 404⟩,
    ⟨613, 1, 1, 42893⟩, ⟨614, 1, 1, 42922⟩, ⟨616, 1, 1, 407⟩, ⟨617, 1, 1, 406⟩,
    ⟨618, 1, 1, 42926⟩, ⟨619, 1, 1, 11362⟩, ⟨620, 1, 1, 42925⟩, ⟨623, 1, 1, 412⟩,
    ⟨625, 1, 1, 11374⟩, ⟨626, 1, 1, 413⟩, ⟨629, 1, 1, 415⟩, ⟨637, 1, 1, 11364⟩, ⟨640, 1, 1, 422⟩,
    ⟨642, 1, 1, 42949⟩, ⟨643, 1, 1, 425⟩, ⟨647, 1, 1, 42929⟩, ⟨648, 1, 1, 430⟩, ⟨649, 1, 1, 580⟩,
    ⟨650, 2, 1, 433⟩, ⟨652, 1, 1, 581⟩, ⟨658, 1, 1, 439⟩, ⟨669, 1, 1, 42930⟩, ⟨670, 1, 1, 42928⟩,
    ⟨837, 1, 1, 921⟩, ⟨881, 2, 2, 880⟩, ⟨887, 1, 1, 886⟩, ⟨891, 3, 1, 1021⟩, ⟨940, 1, 1, 902⟩,
    ⟨941, 3, 1, 904⟩, ⟨945, 17, 1, 913⟩, ⟨962, 1, 1, 931⟩, ⟨963, 9, 1, 931⟩, ⟨972, 1, 1, 908⟩,
    ⟨973, 2, 1, 910⟩, ⟨976, 1, 1, 914⟩, ⟨977, 1, 1, 920⟩, ⟨981, 1, 1, 934⟩, ⟨982, 1, 1, 928⟩,
    ⟨983, 1, 1, 975⟩, ⟨985, 12, 2, 984⟩, ⟨1008, 1, 1, 922⟩, ⟨1009, 1, 1, 929⟩, ⟨1010, 1, 1, 1017⟩,
    ⟨1011, 1, 1, 895⟩, ⟨1013, 1, 1, 917⟩, ⟨1016, 1, 1, 1015⟩, ⟨1019, 1, 1, 1018⟩,
    ⟨1072, 32, 1, 1040⟩, ⟨1104, 16, 1, 1024⟩, ⟨1121, 17, 2, 1120⟩, ⟨1163, 27, 2, 1162⟩,
    ⟨1218, 7, 2, 1217⟩, ⟨1231, 1, 1, 1216⟩, ⟨1233, 48, 2, 1232⟩, ⟨1377, 38, 1, 1329⟩,
    ⟨4304, 43, 1, 7312⟩, ⟨4349, 3, 1, 7357⟩, ⟨5112, 6, 1, 5104⟩, ⟨7296, 1, 1, 1042⟩,
    ⟨7297, 1, 1, 1044⟩, ⟨7298, 1, 1, 1054⟩, ⟨7299, 2, 1, 1057⟩, ⟨7301, 1, 1, 1058⟩,
    ⟨7302, 1, 1, 1066⟩, ⟨7303, 1, 1, 1122⟩, ⟨7304, 1, 1, 42570⟩, ⟨7545, 1, 1, 42877⟩,
    ⟨7549, 1, 1, 11363⟩, ⟨7566, 1, 1, 42950⟩, ⟨7681, 75, 2, 7680⟩, ⟨7835, 1, 1, 7776⟩,
    ⟨7841, 48, 2, 7840⟩, ⟨7936, 8, 1, 7944⟩, ⟨7952, 6, 1, 7960⟩, ⟨7968, 8, 1, 7976⟩,
    ⟨7984, 8, 1, 7992⟩, ⟨8000, 6, 1, 8008⟩, ⟨8017, 4, 2, 8025⟩, ⟨8032, 8, 1, 8040⟩,
    ⟨8048, 2, 1, 8122⟩, ⟨8050, 4, 1, 8136⟩, ⟨8054, 2, 1, 8154⟩, ⟨8056, 2, 1, 8184⟩,
    ⟨8058, 2, 1, 8170⟩, ⟨8060, 2, 1, 8186⟩, ⟨8112, 2, 1, 8120⟩, ⟨8126, 1, 1, 921⟩,
    ⟨8144, 2, 1, 8152⟩, ⟨8160, 2, 1, 8168⟩, ⟨8165, 1, 1, 8172⟩, ⟨8526, 1, 1, 8498⟩,
    ⟨8560, 16, 1, 8544⟩, ⟨8580, 1, 1, 8579⟩, ⟨9424, 26, 1, 9398⟩, ⟨11312, 48, 1, 11264⟩,
    ⟨11361, 1, 1, 11360⟩, ⟨11365, 1, 1, 570⟩, ⟨11366, 1, 1, 574⟩, ⟨11368, 3, 2, 11367⟩,
    ⟨11379, 1, 1, 11378⟩, ⟨11382, 1, 1, 11381⟩, ⟨11393, 50, 2, 11392⟩, ⟨11500, 2, 2, 11499⟩,
    ⟨11507, 1, 1, 11506⟩, ⟨11520, 38, 1, 4256⟩, ⟨11559, 1, 1, 4295⟩, ⟨11565, 1, 1, 4301⟩,
    ⟨42561, 23, 2, 42560⟩, ⟨42625, 14, 2, 42624⟩, ⟨42787, 7, 2, 42786⟩, ⟨42803, 31, 2, 42802⟩,
    ⟨42874, 2, 2, 42873⟩, ⟨42879, 5, 2, 42878⟩, ⟨42892, 1, 1, 42891⟩, ⟨42897, 2, 2, 42896⟩,
    ⟨42900, 1, 1, 42948⟩, ⟨42903, 10, 2, 42902⟩, ⟨42933, 8, 2, 42932⟩, ⟨42952, 2, 2, 42951⟩,
    ⟨42961, 1, 1, 42960⟩, ⟨42967, 2, 2, 42966⟩, ⟨42998, 1, 1, 42997⟩, ⟨43859, 1, 1, 42931⟩,
    ⟨43888, 80, 1, 5024⟩, ⟨65345, 26, 1, 65313⟩, ⟨66600, 40, 1, 66560⟩, ⟨66776, 36, 1, 66736⟩,
    ⟨66967, 11, 1, 66928⟩, ⟨66979, 15, 1, 66940⟩, ⟨66995, 7, 1, 66956⟩, ⟨67003, 2, 1, 66964⟩,
    ⟨68800, 51, 1, 68736⟩, ⟨71872, 32, 1, 71840⟩, ⟨93792, 32, 1, 93760⟩, ⟨125218, 34, 1, 125184⟩]

/-- Each letter to the letter that stands for its class when case is ignored: letters with one
lower case share a class, and so do lower-case letters with one upper case. -/
def folding : List CaseRun := [
    ⟨192, 23, 1, 224⟩, ⟨216, 7, 1, 248⟩, ⟨256, 24, 2, 257⟩, ⟨304, 1, 1, 105⟩, ⟨305, 1, 1, 105⟩,
    ⟨306, 3, 2, 307⟩, ⟨313, 8, 2, 314⟩, ⟨330, 23, 2, 331⟩, ⟨376, 1, 1, 255⟩, ⟨377, 3, 2, 378⟩,
    ⟨383, 1, 1, 115⟩, ⟨385, 1, 1, 595⟩, ⟨386, 2, 2, 387⟩, ⟨390, 1, 1, 596⟩, ⟨391, 1, 1, 392⟩,
    ⟨393, 2, 1, 598⟩, ⟨395, 1, 1, 396⟩, ⟨398, 1, 1, 477⟩, ⟨399, 1, 1, 601⟩, ⟨400, 1, 1, 603⟩,
    ⟨401, 1, 1, 402⟩, ⟨403, 1, 1, 608⟩, ⟨404, 1, 1, 611⟩, ⟨406, 1, 1, 617⟩, ⟨407, 1, 1, 616⟩,
    ⟨408, 1, 1, 409⟩, ⟨412, 1, 1, 623⟩, ⟨413, 1, 1, 626⟩, ⟨415, 1, 1, 629⟩, ⟨416, 3, 2, 417⟩,
    ⟨422, 1, 1, 640⟩, ⟨423, 1, 1, 424⟩, ⟨425, 1, 1, 643⟩, ⟨428, 1, 1, 429⟩, ⟨430, 1, 1, 648⟩,
    ⟨431, 1, 1, 432⟩, ⟨433, 2, 1, 650⟩, ⟨435, 2, 2, 436⟩, ⟨439, 1, 1, 658⟩, ⟨440, 1, 1, 441⟩,
    ⟨444, 1, 1, 445⟩, ⟨452, 1, 1, 454⟩, ⟨453, 1, 1, 454⟩, ⟨455, 1, 1, 457⟩, ⟨456, 1, 1, 457⟩,
    ⟨458, 1, 1, 460⟩, ⟨459, 9, 2, 460⟩, ⟨478, 9, 2, 479⟩, ⟨497, 1, 1, 499⟩, ⟨498, 2, 2, 499⟩,
    ⟨502, 1, 1, 405⟩, ⟨503, 1, 1, 447⟩, ⟨504, 20, 2, 505⟩, ⟨544, 1, 1, 414⟩, ⟨546, 9, 2, 547⟩,
    ⟨570, 1, 1, 11365⟩, ⟨571, 1, 1, 572⟩, ⟨573, 1, 1, 410⟩, ⟨574, 1, 1, 11366⟩, ⟨577, 1, 1, 578⟩,
    ⟨579, 1, 1, 384⟩, ⟨580, 1, 1, 649⟩, ⟨581, 1, 1, 652⟩, ⟨582, 5, 2, 583⟩, ⟨880, 2, 2, 881⟩,
    ⟨886, 1, 1, 887⟩, ⟨895, 1, 1, 1011⟩, ⟨902, 1, 1, 940⟩, ⟨904, 3, 1, 941⟩, ⟨908, 1, 1, 972⟩,
    ⟨910, 2, 1, 973⟩, ⟨913, 8, 1, 945⟩, ⟨921, 1, 1, 837⟩, ⟨922, 2, 1, 954⟩, ⟨924, 1, 1, 181⟩,
    ⟨925, 5, 1, 957⟩, ⟨931, 1, 1, 962⟩, ⟨932, 8, 1, 964⟩, ⟨953, 1, 1, 837⟩, ⟨956, 1, 1, 181⟩,
    ⟨963, 1, 1, 962⟩, ⟨975, 1, 1, 983⟩, ⟨976, 1, 1, 946⟩, ⟨977, 1, 1, 952⟩, ⟨981, 1, 1, 966⟩,
    ⟨982, 1, 1, 960⟩, ⟨984, 12, 2, 985⟩, ⟨1008, 1, 1, 954⟩, ⟨1009, 1, 1, 961⟩, ⟨1012, 1, 1, 952⟩,
    ⟨1013, 1, 1, 949⟩, ⟨1015, 1, 1, 1016⟩, ⟨1017, 1, 1, 1010⟩, ⟨1018, 1, 1, 1019⟩,
    ⟨1021, 3, 1, 891⟩, ⟨1024, 16, 1, 1104⟩, ⟨1040, 32, 1, 1072⟩, ⟨1120, 17, 2, 1121⟩,
    ⟨1162, 27, 2, 1163⟩, ⟨1216, 1, 1, 1231⟩, ⟨1217, 7, 2, 1218⟩, ⟨1232, 48, 2, 1233⟩,
    ⟨1329, 38, 1, 1377⟩, ⟨4256, 38, 1, 11520⟩, ⟨4295, 1, 1, 11559⟩, ⟨4301, 1, 1, 11565⟩,
    ⟨5024, 80, 1, 43888⟩, ⟨5104, 6, 1, 5112⟩, ⟨7296, 1, 1, 1074⟩, ⟨7297, 1, 1, 1076⟩,
    ⟨7298, 1, 1, 1086⟩, ⟨7299, 2, 1, 1089⟩, ⟨7301, 1, 1, 1090⟩, ⟨7302, 1, 1, 1098⟩,
    ⟨7303, 1, 1, 1123⟩, ⟨7312, 43, 1, 4304⟩, ⟨7357, 3, 1, 4349⟩, ⟨7680, 75, 2, 7681⟩,
    ⟨7835, 1, 1, 7777⟩, ⟨7838, 1, 1, 223⟩, ⟨7840, 48, 2, 7841⟩, ⟨7944, 8, 1, 7936⟩,
    ⟨7960, 6, 1, 7952⟩, ⟨7976, 8, 1, 7968⟩, ⟨7992, 8, 1, 7984⟩, ⟨8008, 6, 1, 8000⟩,
    ⟨8025, 4, 2, 8017⟩, ⟨8040, 8, 1, 8032⟩, ⟨8072, 8, 1, 8064⟩, ⟨8088, 8, 1, 8080⟩,
    ⟨8104, 8, 1, 8096⟩, ⟨8120, 2, 1, 8112⟩, ⟨8122, 2, 1, 8048⟩, ⟨8124, 1, 1, 8115⟩,
    ⟨8126, 1, 1, 837⟩, ⟨8136, 4, 1, 8050⟩, ⟨8140, 1, 1, 8131⟩, ⟨8147, 1, 1, 912⟩,
    ⟨8152, 2, 1, 8144⟩, ⟨8154, 2, 1, 8054⟩, ⟨8163, 1, 1, 944⟩, ⟨8168, 2, 1, 8160⟩,
    ⟨8170, 2, 1, 8058⟩, ⟨8172, 1, 1, 8165⟩, ⟨8184, 2, 1, 8056⟩, ⟨8186, 2, 1, 8060⟩,
    ⟨8188, 1, 1, 8179⟩, ⟨8486, 1, 1, 969⟩, ⟨8490, 1, 1, 107⟩, ⟨8491, 1, 1, 229⟩,
    ⟨8498, 1, 1, 8526⟩, ⟨8544, 16, 1, 8560⟩, ⟨8579, 1, 1, 8580⟩, ⟨9398, 26, 1, 9424⟩,
    ⟨11264, 48, 1, 11312⟩, ⟨11360, 1, 1, 11361⟩, ⟨11362, 1, 1, 619⟩, ⟨11363, 1, 1, 7549⟩,
    ⟨11364, 1, 1, 637⟩, ⟨11367, 3, 2, 11368⟩, ⟨11373, 1, 1, 593⟩, ⟨11374, 1, 1, 625⟩,
    ⟨11375, 1, 1, 592⟩, ⟨11376, 1, 1, 594⟩, ⟨11378, 1, 1, 11379⟩, ⟨11381, 1, 1, 11382⟩,
    ⟨11390, 2, 1, 575⟩, ⟨11392, 50, 2, 11393⟩, ⟨11499, 2, 2, 11500⟩, ⟨11506, 1, 1, 11507⟩,
    ⟨42560, 5, 2, 42561⟩, ⟨42570, 1, 1, 7304⟩, ⟨42571, 1, 1, 7304⟩, ⟨42572, 17, 2, 42573⟩,
    ⟨42624, 14, 2, 42625⟩, ⟨42786, 7, 2, 42787⟩, ⟨42802, 31, 2, 42803⟩, ⟨42873, 2, 2, 42874⟩,
    ⟨42877, 1, 1, 7545⟩, ⟨42878, 5, 2, 42879⟩, ⟨42891, 1, 1, 42892⟩, ⟨42893, 1, 1, 613⟩,
    ⟨42896, 2, 2, 42897⟩, ⟨42902, 10, 2, 42903⟩, ⟨42922, 1, 1, 614⟩, ⟨42923, 1, 1, 604⟩,
    ⟨42924, 1, 1, 609⟩, ⟨42925, 1, 1, 620⟩, ⟨42926, 1, 1, 618⟩, ⟨42928, 1, 1, 670⟩,
    ⟨42929, 1, 1, 647⟩, ⟨42930, 1, 1, 669⟩, ⟨42931, 1, 1, 43859⟩, ⟨42932, 8, 2, 42933⟩,
    ⟨42948, 1, 1, 42900⟩, ⟨42949, 1, 1, 642⟩, ⟨42950, 1, 1, 7566⟩, ⟨42951, 2, 2, 42952⟩,
    ⟨42960, 1, 1, 42961⟩, ⟨42966, 2, 2, 42967⟩, ⟨42997, 1, 1, 42998⟩, ⟨64262, 1, 1, 64261⟩,
    ⟨65313, 26, 1, 65345⟩, ⟨66560, 40, 1, 66600⟩, ⟨66736, 36, 1, 66776⟩, ⟨66928, 11, 1, 66967⟩,
    ⟨66940, 15, 1, 66979⟩, ⟨66956, 7, 1, 66995⟩, ⟨66964, 2, 1, 67003⟩, ⟨68736, 51, 1, 68800⟩,
    ⟨71840, 32, 1, 71872⟩, ⟨93760, 32, 1, 93792⟩, ⟨125184, 34, 1, 125218⟩]

/-- Letters whose upper case is written with several characters. -/
def expansions : List (Nat × List Nat) := [
    (223, [83, 83]), (329, [700, 78]), (496, [74, 780]), (912, [921, 776, 769]),
    (944, [933, 776, 769]), (1415, [1333, 1362]), (7830, [72, 817]), (7831, [84, 776]),
    (7832, [87, 778]), (7833, [89, 778]), (7834, [65, 702]), (8016, [933, 787]),
    (8018, [933, 787, 768]), (8020, [933, 787, 769]), (8022, [933, 787, 834]),
    (8064, [7944, 921]), (8065, [7945, 921]), (8066, [7946, 921]), (8067, [7947, 921]),
    (8068, [7948, 921]), (8069, [7949, 921]), (8070, [7950, 921]), (8071, [7951, 921]),
    (8072, [7944, 921]), (8073, [7945, 921]), (8074, [7946, 921]), (8075, [7947, 921]),
    (8076, [7948, 921]), (8077, [7949, 921]), (8078, [7950, 921]), (8079, [7951, 921]),
    (8080, [7976, 921]), (8081, [7977, 921]), (8082, [7978, 921]), (8083, [7979, 921]),
    (8084, [7980, 921]), (8085, [7981, 921]), (8086, [7982, 921]), (8087, [7983, 921]),
    (8088, [7976, 921]), (8089, [7977, 921]), (8090, [7978, 921]), (8091, [7979, 921]),
    (8092, [7980, 921]), (8093, [7981, 921]), (8094, [7982, 921]), (8095, [7983, 921]),
    (8096, [8040, 921]), (8097, [8041, 921]), (8098, [8042, 921]), (8099, [8043, 921]),
    (8100, [8044, 921]), (8101, [8045, 921]), (8102, [8046, 921]), (8103, [8047, 921]),
    (8104, [8040, 921]), (8105, [8041, 921]), (8106, [8042, 921]), (8107, [8043, 921]),
    (8108, [8044, 921]), (8109, [8045, 921]), (8110, [8046, 921]), (8111, [8047, 921]),
    (8114, [8122, 921]), (8115, [913, 921]), (8116, [902, 921]), (8118, [913, 834]),
    (8119, [913, 834, 921]), (8124, [913, 921]), (8130, [8138, 921]), (8131, [919, 921]),
    (8132, [905, 921]), (8134, [919, 834]), (8135, [919, 834, 921]), (8140, [919, 921]),
    (8146, [921, 776, 768]), (8147, [921, 776, 769]), (8150, [921, 834]), (8151, [921, 776, 834]),
    (8162, [933, 776, 768]), (8163, [933, 776, 769]), (8164, [929, 787]), (8166, [933, 834]),
    (8167, [933, 776, 834]), (8178, [8186, 921]), (8179, [937, 921]), (8180, [911, 921]),
    (8182, [937, 834]), (8183, [937, 834, 921]), (8188, [937, 921]), (64256, [70, 70]),
    (64257, [70, 73]), (64258, [70, 76]), (64259, [70, 70, 73]), (64260, [70, 70, 76]),
    (64261, [83, 84]), (64262, [83, 84]), (64275, [1348, 1350]), (64276, [1348, 1333]),
    (64277, [1348, 1339]), (64278, [1358, 1350]), (64279, [1348, 1341])]

end ActionRouting.Text.CaseRun
