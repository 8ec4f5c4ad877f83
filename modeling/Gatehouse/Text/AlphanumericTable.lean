/-!
The characters that count as letters or digits, in whatever script. Marks that attach to a character
and code points without a character are among them where their neighbours are.
-/

namespace Gatehouse.Text

/-- Ranges of letters, digits and other numbers, in ascending order. -/
def alphanumericRanges : List (Nat × Nat) := [
  (48, 57), (65, 90), (97, 122), (170, 170), (178, 179), (181, 181), (185, 186), (188, 190),
  (192, 214), (216, 246), (248, 705), (710, 721), (736, 740), (748, 748), (750, 750), (837, 884),
  (886, 893), (895, 895), (902, 902), (904, 1013), (1015, 1153), (1162, 1369), (1376, 1416),
  (1488, 1522), (1568, 1641), (1646, 1747), (1749, 1749), (1765, 1766), (1774, 1788), (1791, 1791),
  (1808, 2037), (2042, 2042), (2048, 2088), (2112, 2136), (2144, 2183), (2185, 2190), (2208, 2249),
  (2308, 2401), (2406, 2415), (2417, 2545), (2548, 2553), (2556, 2556), (2565, 2676), (2693, 2799),
  (2809, 2927), (2929, 3058), (3077, 3183), (3192, 3198), (3200, 3200), (3205, 3406), (3412, 3448),
  (3450, 3567), (3585, 3635), (3648, 3654), (3664, 3673), (3713, 3840), (3872, 3891), (3904, 3948),
  (3976, 3980), (4096, 4169), (4176, 4249), (4256, 4346), (4348, 4954), (4969, 5007), (5024, 5117),
  (5121, 5740), (5743, 5759), (5761, 5786), (5792, 5866), (5870, 5937), (5952, 6067), (6103, 6103),
  (6108, 6137), (6160, 6430), (6470, 6618), (6656, 6678), (6688, 6809), (6823, 6823), (6917, 7001),
  (7043, 7141), (7168, 7203), (7232, 7293), (7296, 7359), (7401, 8124), (8126, 8126), (8130, 8140),
  (8144, 8155), (8160, 8172), (8178, 8188), (8304, 8313), (8319, 8329), (8336, 8348), (8450, 8450),
  (8455, 8455), (8458, 8467), (8469, 8469), (8473, 8477), (8484, 8484), (8486, 8486), (8488, 8488),
  (8490, 8493), (8495, 8505), (8508, 8511), (8517, 8521), (8526, 8526), (8528, 8585), (9312, 9371),
  (9398, 9471), (10102, 10131), (11264, 11492), (11499, 11507), (11517, 11517), (11520, 11631),
  (11648, 11742), (11823, 11823), (12293, 12295), (12321, 12329), (12337, 12341), (12344, 12348),
  (12353, 12438), (12445, 12447), (12449, 12538), (12540, 12686), (12690, 12693), (12704, 12735),
  (12784, 12799), (12832, 12841), (12872, 12879), (12881, 12895), (12928, 12937), (12977, 12991),
  (13312, 19903), (19968, 42124), (42192, 42237), (42240, 42508), (42512, 42606), (42623, 42735),
  (42775, 42783), (42786, 42888), (42891, 43042), (43056, 43061), (43072, 43123), (43138, 43187),
  (43216, 43255), (43259, 43259), (43261, 43301), (43312, 43334), (43360, 43442), (43471, 43481),
  (43488, 43609), (43616, 43638), (43642, 43741), (43744, 43754), (43762, 43866), (43868, 43881),
  (43888, 44002), (44016, 64296), (64298, 64433), (64467, 64829), (64848, 64967), (65008, 65019),
  (65136, 65276), (65296, 65305), (65313, 65338), (65345, 65370), (65382, 65500), (65536, 65786),
  (65799, 65843), (65856, 65912), (65930, 65931), (66176, 66461), (66464, 66511), (66513, 66915),
  (66928, 67669), (67672, 67702), (67705, 67867), (67872, 67897), (67968, 68168), (68192, 68222),
  (68224, 68295), (68297, 68335), (68352, 68405), (68416, 68497), (68521, 69289), (69296, 69460),
  (69488, 69505), (69552, 69687), (69714, 69807), (69840, 69951), (69956, 70002), (70006, 70084),
  (70096, 70106), (70108, 70108), (70113, 70187), (70272, 70312), (70320, 70730), (70736, 70745),
  (70751, 70853), (70855, 71086), (71128, 71215), (71236, 71257), (71296, 71352), (71360, 71483),
  (71488, 71723), (71840, 72001), (72016, 72161), (72163, 72250), (72272, 72329), (72349, 72349),
  (72368, 72768), (72784, 72812), (72818, 73458), (73648, 73684), (73728, 74862), (74880, 77808),
  (77824, 78894), (82944, 92777), (92784, 92909), (92928, 92975), (92992, 92995), (93008, 93846),
  (93952, 94177), (94179, 113817), (119520, 119539), (119648, 120512), (120514, 120538),
  (120540, 120570), (120572, 120596), (120598, 120628), (120630, 120654), (120656, 120686),
  (120688, 120712), (120714, 120744), (120746, 120770), (120772, 120831), (122624, 123214),
  (123536, 123641), (124896, 125273), (126065, 126123), (126125, 126127), (126129, 126253),
  (126255, 126651), (127232, 127244), (127280, 127305), (127312, 127337), (127344, 127369),
  (130032, 201546)]

end Gatehouse.Text
