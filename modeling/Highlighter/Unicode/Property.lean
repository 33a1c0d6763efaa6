import Highlighter.Unicode.Ranges

/-!
# Properties of characters

Properties of Unicode 16 that cut across the general categories.
-/

namespace Highlighter.Unicode.Property

/-- Emoji, digits among them. -/
def emoji : Ranges :=
  [(35, 35, 1), (42, 42, 1), (48, 57, 1), (169, 169, 1), (174, 174, 1), (8252, 8252, 1),
   (8265, 8265, 1), (8482, 8482, 1), (8505, 8505, 1), (8596, 8601, 1), (8617, 8618, 1),
   (8986, 8987, 1), (9000, 9000, 1), (9167, 9167, 1), (9193, 9203, 1), (9208, 9210, 1),
   (9410, 9410, 1), (9642, 9643, 1), (9654, 9654, 1), (9664, 9664, 1), (9723, 9726, 1),
   (9728, 9732, 1), (9742, 9742, 1), (9745, 9745, 1), (9748, 9749, 1), (9752, 9752, 1),
   (9757, 9757, 1), (9760, 9760, 1), (9762, 9763, 1), (9766, 9766, 1), (9770, 9770, 1),
   (9774, 9775, 1), (9784, 9786, 1), (9792, 9794, 2), (9800, 9811, 1), (9823, 9824, 1),
   (9827, 9827, 1), (9829, 9830, 1), (9832, 9832, 1), (9851, 9851, 1), (9854, 9855, 1),
   (9874, 9879, 1), (9881, 9881, 1), (9883, 9884, 1), (9888, 9889, 1), (9895, 9895, 1),
   (9898, 9899, 1), (9904, 9905, 1), (9917, 9918, 1), (9924, 9925, 1), (9928, 9928, 1),
   (9934, 9935, 1), (9937, 9937, 1), (9939, 9940, 1), (9961, 9962, 1), (9968, 9973, 1),
   (9975, 9978, 1), (9981, 9981, 1), (9986, 9986, 1), (9989, 9989, 1), (9992, 9997, 1),
   (9999, 9999, 1), (10002, 10006, 2), (10013, 10013, 1), (10017, 10017, 1), (10024, 10024, 1),
   (10035, 10036, 1), (10052, 10052, 1), (10055, 10055, 1), (10060, 10062, 2), (10067, 10069, 1),
   (10071, 10071, 1), (10083, 10084, 1), (10133, 10135, 1), (10145, 10145, 1), (10160, 10160, 1),
   (10175, 10175, 1), (10548, 10549, 1), (11013, 11015, 1), (11035, 11036, 1), (11088, 11088, 1),
   (11093, 11093, 1), (12336, 12336, 1), (12349, 12349, 1), (12951, 12953, 2),
   (126980, 126980, 1), (127183, 127183, 1), (127344, 127345, 1), (127358, 127359, 1),
   (127374, 127374, 1), (127377, 127386, 1), (127462, 127487, 1), (127489, 127490, 1),
   (127514, 127514, 1), (127535, 127535, 1), (127538, 127546, 1), (127568, 127569, 1),
   (127744, 127777, 1), (127780, 127891, 1), (127894, 127895, 1), (127897, 127899, 1),
   (127902, 127984, 1), (127987, 127989, 1), (127991, 128253, 1), (128255, 128317, 1),
   (128329, 128334, 1), (128336, 128359, 1), (128367, 128368, 1), (128371, 128378, 1),
   (128391, 128391, 1), (128394, 128397, 1), (128400, 128400, 1), (128405, 128406, 1),
   (128420, 128421, 1), (128424, 128424, 1), (128433, 128434, 1), (128444, 128444, 1),
   (128450, 128452, 1), (128465, 128467, 1), (128476, 128478, 1), (128481, 128483, 2),
   (128488, 128488, 1), (128495, 128495, 1), (128499, 128499, 1), (128506, 128591, 1),
   (128640, 128709, 1), (128715, 128722, 1), (128725, 128727, 1), (128732, 128741, 1),
   (128745, 128745, 1), (128747, 128748, 1), (128752, 128752, 1), (128755, 128764, 1),
   (128992, 129003, 1), (129008, 129008, 1), (129292, 129338, 1), (129340, 129349, 1),
   (129351, 129535, 1), (129648, 129660, 1), (129664, 129673, 1), (129679, 129734, 1),
   (129742, 129756, 1), (129759, 129769, 1), (129776, 129784, 1)]

/-- Emoji that are shown in colour by themselves. -/
def emojiPresentation : Ranges :=
  [(8986, 8987, 1), (9193, 9196, 1), (9200, 9200, 1), (9203, 9203, 1), (9725, 9726, 1),
   (9748, 9749, 1), (9800, 9811, 1), (9855, 9855, 1), (9875, 9875, 1), (9889, 9889, 1),
   (9898, 9899, 1), (9917, 9918, 1), (9924, 9925, 1), (9934, 9934, 1), (9940, 9940, 1),
   (9962, 9962, 1), (9970, 9971, 1), (9973, 9973, 1), (9978, 9978, 1), (9981, 9981, 1),
   (9989, 9989, 1), (9994, 9995, 1), (10024, 10024, 1), (10060, 10062, 2), (10067, 10069, 1),
   (10071, 10071, 1), (10133, 10135, 1), (10160, 10160, 1), (10175, 10175, 1), (11035, 11036, 1),
   (11088, 11088, 1), (11093, 11093, 1), (126980, 126980, 1), (127183, 127183, 1),
   (127374, 127374, 1), (127377, 127386, 1), (127462, 127487, 1), (127489, 127489, 1),
   (127514, 127514, 1), (127535, 127535, 1), (127538, 127542, 1), (127544, 127546, 1),
   (127568, 127569, 1), (127744, 127776, 1), (127789, 127797, 1), (127799, 127868, 1),
   (127870, 127891, 1), (127904, 127946, 1), (127951, 127955, 1), (127968, 127984, 1),
   (127988, 127988, 1), (127992, 128062, 1), (128064, 128064, 1), (128066, 128252, 1),
   (128255, 128317, 1), (128331, 128334, 1), (128336, 128359, 1), (128378, 128378, 1),
   (128405, 128406, 1), (128420, 128420, 1), (128507, 128591, 1), (128640, 128709, 1),
   (128716, 128716, 1), (128720, 128722, 1), (128725, 128727, 1), (128732, 128735, 1),
   (128747, 128748, 1), (128756, 128764, 1), (128992, 129003, 1), (129008, 129008, 1),
   (129292, 129338, 1), (129340, 129349, 1), (129351, 129535, 1), (129648, 129660, 1),
   (129664, 129673, 1), (129679, 129734, 1), (129742, 129756, 1), (129759, 129769, 1),
   (129776, 129784, 1)]

/-- Skin tones. -/
def emojiModifier : Ranges :=
  [(127995, 127999, 1)]

/-- Emoji that take a skin tone. -/
def emojiModifierBase : Ranges :=
  [(9757, 9757, 1), (9977, 9977, 1), (9994, 9997, 1), (127877, 127877, 1), (127938, 127940, 1),
   (127943, 127943, 1), (127946, 127948, 1), (128066, 128067, 1), (128070, 128080, 1),
   (128102, 128120, 1), (128124, 128124, 1), (128129, 128131, 1), (128133, 128135, 1),
   (128143, 128145, 2), (128170, 128170, 1), (128372, 128373, 1), (128378, 128378, 1),
   (128400, 128400, 1), (128405, 128406, 1), (128581, 128583, 1), (128587, 128591, 1),
   (128675, 128675, 1), (128692, 128694, 1), (128704, 128704, 1), (128716, 128716, 1),
   (129292, 129292, 1), (129295, 129295, 1), (129304, 129311, 1), (129318, 129318, 1),
   (129328, 129337, 1), (129340, 129342, 1), (129399, 129399, 1), (129461, 129462, 1),
   (129464, 129465, 1), (129467, 129467, 1), (129485, 129487, 1), (129489, 129501, 1),
   (129731, 129733, 1), (129776, 129784, 1)]

/-- Parts of emoji sequences. -/
def emojiComponent : Ranges :=
  [(35, 35, 1), (42, 42, 1), (48, 57, 1), (8205, 8205, 1), (8419, 8419, 1), (65039, 65039, 1),
   (127462, 127487, 1), (127995, 127999, 1), (129456, 129459, 1), (917536, 917631, 1)]

/-- Pictures, and code points kept for them. -/
def pictographic : Ranges :=
  [(169, 169, 1), (174, 174, 1), (8252, 8252, 1), (8265, 8265, 1), (8482, 8482, 1),
   (8505, 8505, 1), (8596, 8601, 1), (8617, 8618, 1), (8986, 8987, 1), (9000, 9000, 1),
   (9096, 9096, 1), (9167, 9167, 1), (9193, 9203, 1), (9208, 9210, 1), (9410, 9410, 1),
   (9642, 9643, 1), (9654, 9654, 1), (9664, 9664, 1), (9723, 9726, 1), (9728, 9733, 1),
   (9735, 9746, 1), (9748, 9861, 1), (9872, 9989, 1), (9992, 10002, 1), (10004, 10006, 2),
   (10013, 10013, 1), (10017, 10017, 1), (10024, 10024, 1), (10035, 10036, 1), (10052, 10052, 1),
   (10055, 10055, 1), (10060, 10062, 2), (10067, 10069, 1), (10071, 10071, 1), (10083, 10087, 1),
   (10133, 10135, 1), (10145, 10145, 1), (10160, 10160, 1), (10175, 10175, 1), (10548, 10549, 1),
   (11013, 11015, 1), (11035, 11036, 1), (11088, 11088, 1), (11093, 11093, 1), (12336, 12336, 1),
   (12349, 12349, 1), (12951, 12953, 2), (126976, 127231, 1), (127245, 127247, 1),
   (127279, 127279, 1), (127340, 127345, 1), (127358, 127359, 1), (127374, 127374, 1),
   (127377, 127386, 1), (127405, 127461, 1), (127489, 127503, 1), (127514, 127514, 1),
   (127535, 127535, 1), (127538, 127546, 1), (127548, 127551, 1), (127561, 127994, 1),
   (128000, 128317, 1), (128326, 128591, 1), (128640, 128767, 1), (128884, 128895, 1),
   (128981, 129023, 1), (129036, 129039, 1), (129096, 129103, 1), (129114, 129119, 1),
   (129160, 129167, 1), (129198, 129279, 1), (129292, 129338, 1), (129340, 129349, 1),
   (129351, 129791, 1), (130048, 131069, 1)]

/-- Letters of which two make a flag. -/
def regionalIndicator : Ranges :=
  [(127462, 127487, 1)]

/-- Characters of mathematics. -/
def math : Ranges :=
  [(43, 43, 1), (60, 62, 1), (94, 94, 1), (124, 126, 2), (172, 172, 1), (177, 177, 1),
   (215, 215, 1), (247, 247, 1), (976, 978, 1), (981, 981, 1), (1008, 1009, 1), (1012, 1014, 1),
   (1542, 1544, 1), (8214, 8214, 1), (8242, 8244, 1), (8256, 8256, 1), (8260, 8260, 1),
   (8274, 8274, 1), (8289, 8292, 1), (8314, 8318, 1), (8330, 8334, 1), (8400, 8412, 1),
   (8417, 8417, 1), (8421, 8422, 1), (8427, 8431, 1), (8450, 8450, 1), (8455, 8455, 1),
   (8458, 8467, 1), (8469, 8469, 1), (8472, 8477, 1), (8484, 8484, 1), (8488, 8489, 1),
   (8492, 8493, 1), (8495, 8497, 1), (8499, 8504, 1), (8508, 8521, 1), (8523, 8523, 1),
   (8592, 8615, 1), (8617, 8622, 1), (8624, 8625, 1), (8630, 8631, 1), (8636, 8667, 1),
   (8669, 8669, 1), (8676, 8677, 1), (8692, 8959, 1), (8968, 8971, 1), (8992, 8993, 1),
   (9084, 9084, 1), (9115, 9141, 1), (9143, 9143, 1), (9168, 9168, 1), (9180, 9186, 1),
   (9632, 9633, 1), (9646, 9655, 1), (9660, 9665, 1), (9670, 9671, 1), (9674, 9675, 1),
   (9679, 9683, 1), (9698, 9700, 2), (9703, 9708, 1), (9720, 9727, 1), (9733, 9734, 1),
   (9792, 9794, 2), (9824, 9827, 1), (9837, 9839, 1), (10176, 10239, 1), (10496, 11007, 1),
   (11056, 11076, 1), (11079, 11084, 1), (64297, 64297, 1), (65121, 65126, 1), (65128, 65128, 1),
   (65291, 65291, 1), (65308, 65310, 1), (65340, 65342, 2), (65372, 65374, 2), (65506, 65506, 1),
   (65513, 65516, 1), (69006, 69007, 1), (119808, 119892, 1), (119894, 119964, 1),
   (119966, 119967, 1), (119970, 119970, 1), (119973, 119974, 1), (119977, 119980, 1),
   (119982, 119993, 1), (119995, 119995, 1), (119997, 120003, 1), (120005, 120069, 1),
   (120071, 120074, 1), (120077, 120084, 1), (120086, 120092, 1), (120094, 120121, 1),
   (120123, 120126, 1), (120128, 120132, 1), (120134, 120134, 1), (120138, 120144, 1),
   (120146, 120485, 1), (120488, 120779, 1), (120782, 120831, 1), (126464, 126467, 1),
   (126469, 126495, 1), (126497, 126498, 1), (126500, 126500, 1), (126503, 126503, 1),
   (126505, 126514, 1), (126516, 126519, 1), (126521, 126523, 2), (126530, 126530, 1),
   (126535, 126539, 2), (126541, 126543, 1), (126545, 126546, 1), (126548, 126548, 1),
   (126551, 126559, 2), (126561, 126562, 1), (126564, 126564, 1), (126567, 126570, 1),
   (126572, 126578, 1), (126580, 126583, 1), (126585, 126588, 1), (126590, 126590, 1),
   (126592, 126601, 1), (126603, 126619, 1), (126625, 126627, 1), (126629, 126633, 1),
   (126635, 126651, 1), (126704, 126705, 1)]

/-- Dashes. -/
def dash : Ranges :=
  [(45, 45, 1), (1418, 1418, 1), (1470, 1470, 1), (5120, 5120, 1), (6150, 6150, 1),
   (8208, 8213, 1), (8275, 8275, 1), (8315, 8315, 1), (8331, 8331, 1), (8722, 8722, 1),
   (11799, 11799, 1), (11802, 11802, 1), (11834, 11835, 1), (11840, 11840, 1), (11869, 11869, 1),
   (12316, 12316, 1), (12336, 12336, 1), (12448, 12448, 1), (65073, 65074, 1), (65112, 65112, 1),
   (65123, 65123, 1), (65293, 65293, 1), (68974, 68974, 1), (69293, 69293, 1)]

/-- Hexadecimal digits. -/
def hexDigit : Ranges :=
  [(48, 57, 1), (65, 70, 1), (97, 102, 1), (65296, 65305, 1), (65313, 65318, 1),
   (65345, 65350, 1)]

/-- Hexadecimal digits of ASCII. -/
def asciiHexDigit : Ranges :=
  [(48, 57, 1), (65, 70, 1), (97, 102, 1)]

/-- Ideographs. -/
def ideographic : Ranges :=
  [(12294, 12295, 1), (12321, 12329, 1), (12344, 12346, 1), (13312, 19903, 1), (19968, 40959, 1),
   (63744, 64109, 1), (64112, 64217, 1), (94180, 94180, 1), (94208, 100343, 1),
   (100352, 101589, 1), (101631, 101640, 1), (110960, 111355, 1), (131072, 173791, 1),
   (173824, 177977, 1), (177984, 178205, 1), (178208, 183969, 1), (183984, 191456, 1),
   (191472, 192093, 1), (194560, 195101, 1), (196608, 201546, 1), (201552, 205743, 1)]

/-- Unified ideographs. -/
def unifiedIdeograph : Ranges :=
  [(13312, 19903, 1), (19968, 40959, 1), (64014, 64015, 1), (64017, 64017, 1), (64019, 64020, 1),
   (64031, 64033, 2), (64035, 64036, 1), (64039, 64041, 1), (131072, 173791, 1),
   (173824, 177977, 1), (177984, 178205, 1), (178208, 183969, 1), (183984, 191456, 1),
   (191472, 192093, 1), (196608, 201546, 1), (201552, 205743, 1)]

/-- Parts of ideographs. -/
def radical : Ranges :=
  [(11904, 11929, 1), (11931, 12019, 1), (12032, 12245, 1)]

/-- Characters that modify another. -/
def diacritic : Ranges :=
  [(94, 96, 2), (168, 168, 1), (175, 175, 1), (180, 180, 1), (183, 184, 1), (688, 846, 1),
   (848, 855, 1), (861, 866, 1), (884, 885, 1), (890, 890, 1), (900, 901, 1), (1155, 1159, 1),
   (1369, 1369, 1), (1425, 1469, 1), (1471, 1471, 1), (1473, 1474, 1), (1476, 1477, 1),
   (1479, 1479, 1), (1611, 1618, 1), (1623, 1624, 1), (1759, 1760, 1), (1765, 1766, 1),
   (1770, 1772, 1), (1840, 1866, 1), (1958, 1968, 1), (2027, 2037, 1), (2072, 2073, 1),
   (2200, 2207, 1), (2249, 2258, 1), (2275, 2302, 1), (2364, 2364, 1), (2381, 2381, 1),
   (2385, 2388, 1), (2417, 2417, 1), (2492, 2492, 1), (2509, 2509, 1), (2620, 2620, 1),
   (2637, 2637, 1), (2748, 2748, 1), (2765, 2765, 1), (2813, 2815, 1), (2876, 2876, 1),
   (2893, 2893, 1), (2901, 2901, 1), (3021, 3021, 1), (3132, 3132, 1), (3149, 3149, 1),
   (3260, 3260, 1), (3277, 3277, 1), (3387, 3388, 1), (3405, 3405, 1), (3530, 3530, 1),
   (3642, 3642, 1), (3655, 3660, 1), (3662, 3662, 1), (3770, 3770, 1), (3784, 3788, 1),
   (3864, 3865, 1), (3893, 3897, 2), (3902, 3903, 1), (3970, 3972, 1), (3974, 3975, 1),
   (4038, 4038, 1), (4151, 4151, 1), (4153, 4154, 1), (4195, 4196, 1), (4201, 4205, 1),
   (4231, 4237, 1), (4239, 4239, 1), (4250, 4251, 1), (4957, 4959, 1), (5908, 5909, 1),
   (5940, 5940, 1), (6089, 6099, 1), (6109, 6109, 1), (6457, 6459, 1), (6752, 6752, 1),
   (6773, 6780, 1), (6783, 6783, 1), (6832, 6846, 1), (6849, 6859, 1), (6964, 6964, 1),
   (6980, 6980, 1), (7019, 7027, 1), (7082, 7083, 1), (7142, 7142, 1), (7154, 7155, 1),
   (7222, 7223, 1), (7288, 7293, 1), (7376, 7400, 1), (7405, 7405, 1), (7412, 7412, 1),
   (7415, 7417, 1), (7468, 7530, 1), (7579, 7614, 1), (7620, 7631, 1), (7669, 7679, 1),
   (8125, 8125, 1), (8127, 8129, 1), (8141, 8143, 1), (8157, 8159, 1), (8173, 8175, 1),
   (8189, 8190, 1), (11503, 11505, 1), (11823, 11823, 1), (12330, 12335, 1), (12441, 12444, 1),
   (12540, 12540, 1), (42607, 42607, 1), (42620, 42621, 1), (42623, 42623, 1), (42652, 42653, 1),
   (42736, 42737, 1), (42752, 42785, 1), (42888, 42890, 1), (43000, 43001, 1), (43014, 43014, 1),
   (43052, 43052, 1), (43204, 43204, 1), (43232, 43249, 1), (43307, 43310, 1), (43347, 43347, 1),
   (43443, 43443, 1), (43456, 43456, 1), (43493, 43493, 1), (43643, 43645, 1), (43711, 43714, 1),
   (43766, 43766, 1), (43867, 43871, 1), (43881, 43883, 1), (44012, 44013, 1), (64286, 64286, 1),
   (65056, 65071, 1), (65342, 65344, 2), (65392, 65392, 1), (65438, 65439, 1), (65507, 65507, 1),
   (66272, 66272, 1), (67456, 67461, 1), (67463, 67504, 1), (67506, 67514, 1), (68152, 68154, 1),
   (68159, 68159, 1), (68325, 68326, 1), (68898, 68903, 1), (68942, 68942, 1), (68969, 68973, 1),
   (69373, 69375, 1), (69446, 69456, 1), (69506, 69509, 1), (69702, 69702, 1), (69744, 69744, 1),
   (69817, 69818, 1), (69939, 69940, 1), (70003, 70003, 1), (70080, 70080, 1), (70090, 70092, 1),
   (70197, 70198, 1), (70377, 70378, 1), (70459, 70460, 1), (70477, 70477, 1), (70502, 70508, 1),
   (70512, 70516, 1), (70606, 70608, 1), (70610, 70611, 1), (70625, 70626, 1), (70722, 70722, 1),
   (70726, 70726, 1), (70850, 70851, 1), (71103, 71104, 1), (71231, 71231, 1), (71350, 71351, 1),
   (71467, 71467, 1), (71737, 71738, 1), (71997, 71998, 1), (72003, 72003, 1), (72160, 72160, 1),
   (72244, 72244, 1), (72263, 72263, 1), (72345, 72345, 1), (72767, 72767, 1), (73026, 73026, 1),
   (73028, 73029, 1), (73111, 73111, 1), (73537, 73538, 1), (73562, 73562, 1), (78919, 78933, 1),
   (90415, 90415, 1), (92912, 92916, 1), (92976, 92982, 1), (93547, 93548, 1), (94095, 94111, 1),
   (94192, 94193, 1), (110576, 110579, 1), (110581, 110587, 1), (110589, 110590, 1),
   (118528, 118573, 1), (118576, 118598, 1), (119143, 119145, 1), (119149, 119154, 1),
   (119163, 119170, 1), (119173, 119179, 1), (119210, 119213, 1), (122928, 122989, 1),
   (123184, 123190, 1), (123566, 123566, 1), (123628, 123631, 1), (124398, 124399, 1),
   (125136, 125142, 1), (125252, 125254, 1), (125256, 125258, 1)]

/-- Characters that lengthen another. -/
def extender : Ranges :=
  [(183, 183, 1), (720, 721, 1), (1600, 1600, 1), (2042, 2042, 1), (2673, 2673, 1),
   (2811, 2811, 1), (2901, 2901, 1), (3654, 3654, 1), (3782, 3782, 1), (6154, 6154, 1),
   (6211, 6211, 1), (6823, 6823, 1), (7222, 7222, 1), (7291, 7291, 1), (12293, 12293, 1),
   (12337, 12341, 1), (12445, 12446, 1), (12540, 12542, 1), (40981, 40981, 1), (42508, 42508, 1),
   (43471, 43471, 1), (43494, 43494, 1), (43632, 43632, 1), (43741, 43741, 1), (43763, 43764, 1),
   (65392, 65392, 1), (67457, 67458, 1), (68942, 68942, 1), (68970, 68970, 1), (68975, 68975, 1),
   (70199, 70199, 1), (70493, 70493, 1), (70610, 70611, 1), (71110, 71112, 1), (72344, 72344, 1),
   (92994, 92995, 1), (94176, 94177, 1), (94179, 94179, 1), (123196, 123197, 1),
   (124399, 124399, 1), (125252, 125254, 1)]

/-- Quotation marks. -/
def quotationMark : Ranges :=
  [(34, 34, 1), (39, 39, 1), (171, 171, 1), (187, 187, 1), (8216, 8223, 1), (8249, 8250, 1),
   (11842, 11842, 1), (12300, 12303, 1), (12317, 12319, 1), (65089, 65092, 1), (65282, 65282, 1),
   (65287, 65287, 1), (65378, 65379, 1)]

/-- Characters kept for the syntax of patterns. -/
def patternSyntax : Ranges :=
  [(33, 47, 1), (58, 64, 1), (91, 94, 1), (96, 96, 1), (123, 126, 1), (161, 167, 1),
   (169, 169, 1), (171, 172, 1), (174, 174, 1), (176, 177, 1), (182, 182, 1), (187, 187, 1),
   (191, 191, 1), (215, 215, 1), (247, 247, 1), (8208, 8231, 1), (8240, 8254, 1), (8257, 8275, 1),
   (8277, 8286, 1), (8592, 9311, 1), (9472, 10101, 1), (10132, 11157, 1), (11159, 11263, 1),
   (11776, 11903, 1), (12289, 12291, 1), (12296, 12320, 1), (12336, 12336, 1), (64830, 64831, 1),
   (65093, 65094, 1)]

/-- White space of patterns. -/
def patternWhiteSpace : Ranges :=
  [(9, 13, 1), (32, 32, 1), (133, 133, 1), (8206, 8207, 1), (8232, 8233, 1)]

/-- Code points that are not shown. -/
def defaultIgnorable : Ranges :=
  [(173, 173, 1), (847, 847, 1), (1564, 1564, 1), (4447, 4448, 1), (6068, 6069, 1),
   (6155, 6159, 1), (8203, 8207, 1), (8234, 8238, 1), (8288, 8303, 1), (12644, 12644, 1),
   (65024, 65039, 1), (65279, 65279, 1), (65440, 65440, 1), (65520, 65528, 1),
   (113824, 113827, 1), (119155, 119162, 1), (917504, 921599, 1)]

/-- Selectors of a variant. -/
def variationSelector : Ranges :=
  [(6155, 6157, 1), (6159, 6159, 1), (65024, 65039, 1), (917760, 917999, 1)]

/-- Code points that are never assigned. -/
def noncharacter : Ranges :=
  [(64976, 65007, 1), (65534, 65535, 1), (131070, 131071, 1), (196606, 196607, 1),
   (262142, 262143, 1), (327678, 327679, 1), (393214, 393215, 1), (458750, 458751, 1),
   (524286, 524287, 1), (589822, 589823, 1), (655358, 655359, 1), (720894, 720895, 1),
   (786430, 786431, 1), (851966, 851967, 1), (917502, 917503, 1), (983038, 983039, 1),
   (1048574, 1048575, 1), (1114110, 1114111, 1)]

/-- The two joiners. -/
def joinControl : Ranges :=
  [(8204, 8205, 1)]

/-- Letters with a dot that a mark takes away. -/
def softDotted : Ranges :=
  [(105, 106, 1), (303, 303, 1), (585, 585, 1), (616, 616, 1), (669, 669, 1), (690, 690, 1),
   (1011, 1011, 1), (1110, 1112, 2), (7522, 7522, 1), (7574, 7574, 1), (7588, 7588, 1),
   (7592, 7592, 1), (7725, 7725, 1), (7883, 7883, 1), (8305, 8305, 1), (8520, 8521, 1),
   (11388, 11388, 1), (119842, 119843, 1), (119894, 119895, 1), (119946, 119947, 1),
   (119998, 119999, 1), (120050, 120051, 1), (120102, 120103, 1), (120154, 120155, 1),
   (120206, 120207, 1), (120258, 120259, 1), (120310, 120311, 1), (120362, 120363, 1),
   (120414, 120415, 1), (120466, 120467, 1), (122650, 122650, 1), (122956, 122957, 1),
   (122984, 122984, 1)]

/-- Punctuation that ends a unit of text. -/
def terminalPunctuation : Ranges :=
  [(33, 33, 1), (44, 46, 2), (58, 59, 1), (63, 63, 1), (894, 894, 1), (903, 903, 1),
   (1417, 1417, 1), (1475, 1475, 1), (1548, 1548, 1), (1563, 1563, 1), (1565, 1567, 1),
   (1748, 1748, 1), (1792, 1802, 1), (1804, 1804, 1), (2040, 2041, 1), (2096, 2101, 1),
   (2103, 2110, 1), (2142, 2142, 1), (2404, 2405, 1), (3674, 3675, 1), (3848, 3848, 1),
   (3853, 3858, 1), (4170, 4171, 1), (4961, 4968, 1), (5742, 5742, 1), (5867, 5869, 1),
   (5941, 5942, 1), (6100, 6102, 1), (6106, 6106, 1), (6146, 6149, 1), (6152, 6153, 1),
   (6468, 6469, 1), (6824, 6827, 1), (6990, 6991, 1), (7002, 7003, 1), (7005, 7007, 1),
   (7037, 7039, 1), (7227, 7231, 1), (7294, 7295, 1), (8228, 8228, 1), (8252, 8253, 1),
   (8263, 8265, 1), (11513, 11515, 1), (11822, 11822, 1), (11836, 11836, 1), (11841, 11841, 1),
   (11852, 11852, 1), (11854, 11855, 1), (11859, 11860, 1), (12289, 12290, 1), (42238, 42239, 1),
   (42509, 42511, 1), (42739, 42743, 1), (43126, 43127, 1), (43214, 43215, 1), (43311, 43311, 1),
   (43463, 43465, 1), (43613, 43615, 1), (43743, 43743, 1), (43760, 43761, 1), (44011, 44011, 1),
   (65042, 65042, 1), (65045, 65046, 1), (65104, 65106, 1), (65108, 65111, 1), (65281, 65281, 1),
   (65292, 65294, 2), (65306, 65307, 1), (65311, 65311, 1), (65377, 65377, 1), (65380, 65380, 1),
   (66463, 66463, 1), (66512, 66512, 1), (67671, 67671, 1), (67871, 67871, 1), (68182, 68183, 1),
   (68336, 68341, 1), (68410, 68415, 1), (68505, 68508, 1), (69461, 69465, 1), (69510, 69513, 1),
   (69703, 69709, 1), (69822, 69825, 1), (69953, 69955, 1), (70085, 70086, 1), (70093, 70093, 1),
   (70110, 70111, 1), (70200, 70204, 1), (70313, 70313, 1), (70612, 70613, 1), (70731, 70733, 1),
   (70746, 70747, 1), (71106, 71109, 1), (71113, 71127, 1), (71233, 71234, 1), (71484, 71486, 1),
   (72004, 72006, 2), (72258, 72259, 1), (72347, 72348, 1), (72353, 72354, 1), (72769, 72771, 1),
   (72817, 72817, 1), (73463, 73464, 1), (73539, 73540, 1), (74864, 74868, 1), (92782, 92783, 1),
   (92917, 92917, 1), (92983, 92985, 1), (92996, 92996, 1), (93550, 93551, 1), (93847, 93848, 1),
   (113823, 113823, 1), (121479, 121482, 1)]

/-- Punctuation that ends a sentence. -/
def sentenceTerminal : Ranges :=
  [(33, 33, 1), (46, 46, 1), (63, 63, 1), (1417, 1417, 1), (1565, 1567, 1), (1748, 1748, 1),
   (1792, 1794, 1), (2041, 2041, 1), (2103, 2105, 2), (2109, 2110, 1), (2404, 2405, 1),
   (4170, 4171, 1), (4962, 4962, 1), (4967, 4968, 1), (5742, 5742, 1), (5941, 5942, 1),
   (6100, 6101, 1), (6147, 6147, 1), (6153, 6153, 1), (6468, 6469, 1), (6824, 6827, 1),
   (6990, 6991, 1), (7002, 7003, 1), (7006, 7007, 1), (7037, 7039, 1), (7227, 7228, 1),
   (7294, 7295, 1), (8228, 8228, 1), (8252, 8253, 1), (8263, 8265, 1), (11513, 11515, 1),
   (11822, 11822, 1), (11836, 11836, 1), (11859, 11860, 1), (12290, 12290, 1), (42239, 42239, 1),
   (42510, 42511, 1), (42739, 42739, 1), (42743, 42743, 1), (43126, 43127, 1), (43214, 43215, 1),
   (43311, 43311, 1), (43464, 43465, 1), (43613, 43615, 1), (43760, 43761, 1), (44011, 44011, 1),
   (65042, 65042, 1), (65045, 65046, 1), (65106, 65106, 1), (65110, 65111, 1), (65281, 65281, 1),
   (65294, 65294, 1), (65311, 65311, 1), (65377, 65377, 1), (68182, 68183, 1), (69461, 69465, 1),
   (69510, 69513, 1), (69703, 69704, 1), (69822, 69825, 1), (69953, 69955, 1), (70085, 70086, 1),
   (70093, 70093, 1), (70110, 70111, 1), (70200, 70201, 1), (70203, 70204, 1), (70313, 70313, 1),
   (70612, 70613, 1), (70731, 70732, 1), (71106, 71107, 1), (71113, 71127, 1), (71233, 71234, 1),
   (71484, 71486, 1), (72004, 72006, 2), (72258, 72259, 1), (72347, 72348, 1), (72769, 72770, 1),
   (73463, 73464, 1), (73539, 73540, 1), (92782, 92783, 1), (92917, 92917, 1), (92983, 92984, 1),
   (92996, 92996, 1), (93550, 93551, 1), (93848, 93848, 1), (113823, 113823, 1),
   (121480, 121480, 1)]

/-- Vowels that are written before their consonant. -/
def logicalOrderException : Ranges :=
  [(3648, 3652, 1), (3776, 3780, 1), (6581, 6583, 1), (6586, 6586, 1), (43701, 43702, 1),
   (43705, 43705, 1), (43707, 43708, 1)]

/-- Controls of the writing direction. -/
def bidiControl : Ranges :=
  [(1564, 1564, 1), (8206, 8207, 1), (8234, 8238, 1), (8294, 8297, 1)]

/-- Characters that should no longer be used. -/
def deprecatedCharacter : Ranges :=
  [(329, 329, 1), (1651, 1651, 1), (3959, 3961, 2), (6051, 6052, 1), (8298, 8303, 1),
   (9001, 9002, 1), (917505, 917505, 1)]

/-- Operators that describe an ideograph by two parts. -/
def idsBinaryOperator : Ranges :=
  [(12272, 12273, 1), (12276, 12285, 1), (12783, 12783, 1)]

/-- Operators that describe an ideograph by three parts. -/
def idsTrinaryOperator : Ranges :=
  [(12274, 12275, 1)]

/-- Characters that belong to the one before. -/
def graphemeExtend : Ranges :=
  [(768, 879, 1), (1155, 1161, 1), (1425, 1469, 1), (1471, 1471, 1), (1473, 1474, 1),
   (1476, 1477, 1), (1479, 1479, 1), (1552, 1562, 1), (1611, 1631, 1), (1648, 1648, 1),
   (1750, 1756, 1), (1759, 1764, 1), (1767, 1768, 1), (1770, 1773, 1), (1809, 1809, 1),
   (1840, 1866, 1), (1958, 1968, 1), (2027, 2035, 1), (2045, 2045, 1), (2070, 2073, 1),
   (2075, 2083, 1), (2085, 2087, 1), (2089, 2093, 1), (2137, 2139, 1), (2199, 2207, 1),
   (2250, 2273, 1), (2275, 2306, 1), (2362, 2364, 2), (2369, 2376, 1), (2381, 2381, 1),
   (2385, 2391, 1), (2402, 2403, 1), (2433, 2433, 1), (2492, 2494, 2), (2497, 2500, 1),
   (2509, 2509, 1), (2519, 2519, 1), (2530, 2531, 1), (2558, 2558, 1), (2561, 2562, 1),
   (2620, 2620, 1), (2625, 2626, 1), (2631, 2632, 1), (2635, 2637, 1), (2641, 2641, 1),
   (2672, 2673, 1), (2677, 2677, 1), (2689, 2690, 1), (2748, 2748, 1), (2753, 2757, 1),
   (2759, 2760, 1), (2765, 2765, 1), (2786, 2787, 1), (2810, 2815, 1), (2817, 2817, 1),
   (2876, 2876, 1), (2878, 2879, 1), (2881, 2884, 1), (2893, 2893, 1), (2901, 2903, 1),
   (2914, 2915, 1), (2946, 2946, 1), (3006, 3008, 2), (3021, 3021, 1), (3031, 3031, 1),
   (3072, 3072, 1), (3076, 3076, 1), (3132, 3132, 1), (3134, 3136, 1), (3142, 3144, 1),
   (3146, 3149, 1), (3157, 3158, 1), (3170, 3171, 1), (3201, 3201, 1), (3260, 3260, 1),
   (3263, 3264, 1), (3266, 3266, 1), (3270, 3272, 1), (3274, 3277, 1), (3285, 3286, 1),
   (3298, 3299, 1), (3328, 3329, 1), (3387, 3388, 1), (3390, 3390, 1), (3393, 3396, 1),
   (3405, 3405, 1), (3415, 3415, 1), (3426, 3427, 1), (3457, 3457, 1), (3530, 3530, 1),
   (3535, 3535, 1), (3538, 3540, 1), (3542, 3542, 1), (3551, 3551, 1), (3633, 3633, 1),
   (3636, 3642, 1), (3655, 3662, 1), (3761, 3761, 1), (3764, 3772, 1), (3784, 3790, 1),
   (3864, 3865, 1), (3893, 3897, 2), (3953, 3966, 1), (3968, 3972, 1), (3974, 3975, 1),
   (3981, 3991, 1), (3993, 4028, 1), (4038, 4038, 1), (4141, 4144, 1), (4146, 4151, 1),
   (4153, 4154, 1), (4157, 4158, 1), (4184, 4185, 1), (4190, 4192, 1), (4209, 4212, 1),
   (4226, 4226, 1), (4229, 4230, 1), (4237, 4237, 1), (4253, 4253, 1), (4957, 4959, 1),
   (5906, 5909, 1), (5938, 5940, 1), (5970, 5971, 1), (6002, 6003, 1), (6068, 6069, 1),
   (6071, 6077, 1), (6086, 6086, 1), (6089, 6099, 1), (6109, 6109, 1), (6155, 6157, 1),
   (6159, 6159, 1), (6277, 6278, 1), (6313, 6313, 1), (6432, 6434, 1), (6439, 6440, 1),
   (6450, 6450, 1), (6457, 6459, 1), (6679, 6680, 1), (6683, 6683, 1), (6742, 6742, 1),
   (6744, 6750, 1), (6752, 6754, 2), (6757, 6764, 1), (6771, 6780, 1), (6783, 6783, 1),
   (6832, 6862, 1), (6912, 6915, 1), (6964, 6973, 1), (6978, 6980, 1), (7019, 7027, 1),
   (7040, 7041, 1), (7074, 7077, 1), (7080, 7085, 1), (7142, 7142, 1), (7144, 7145, 1),
   (7149, 7149, 1), (7151, 7155, 1), (7212, 7219, 1), (7222, 7223, 1), (7376, 7378, 1),
   (7380, 7392, 1), (7394, 7400, 1), (7405, 7405, 1), (7412, 7412, 1), (7416, 7417, 1),
   (7616, 7679, 1), (8204, 8204, 1), (8400, 8432, 1), (11503, 11505, 1), (11647, 11647, 1),
   (11744, 11775, 1), (12330, 12335, 1), (12441, 12442, 1), (42607, 42610, 1), (42612, 42621, 1),
   (42654, 42655, 1), (42736, 42737, 1), (43010, 43010, 1), (43014, 43014, 1), (43019, 43019, 1),
   (43045, 43046, 1), (43052, 43052, 1), (43204, 43205, 1), (43232, 43249, 1), (43263, 43263, 1),
   (43302, 43309, 1), (43335, 43345, 1), (43347, 43347, 1), (43392, 43394, 1), (43443, 43443, 1),
   (43446, 43449, 1), (43452, 43453, 1), (43456, 43456, 1), (43493, 43493, 1), (43561, 43566, 1),
   (43569, 43570, 1), (43573, 43574, 1), (43587, 43587, 1), (43596, 43596, 1), (43644, 43644, 1),
   (43696, 43696, 1), (43698, 43700, 1), (43703, 43704, 1), (43710, 43711, 1), (43713, 43713, 1),
   (43756, 43757, 1), (43766, 43766, 1), (44005, 44005, 1), (44008, 44008, 1), (44013, 44013, 1),
   (64286, 64286, 1), (65024, 65039, 1), (65056, 65071, 1), (65438, 65439, 1), (66045, 66045, 1),
   (66272, 66272, 1), (66422, 66426, 1), (68097, 68099, 1), (68101, 68102, 1), (68108, 68111, 1),
   (68152, 68154, 1), (68159, 68159, 1), (68325, 68326, 1), (68900, 68903, 1), (68969, 68973, 1),
   (69291, 69292, 1), (69372, 69375, 1), (69446, 69456, 1), (69506, 69509, 1), (69633, 69633, 1),
   (69688, 69702, 1), (69744, 69744, 1), (69747, 69748, 1), (69759, 69761, 1), (69811, 69814, 1),
   (69817, 69818, 1), (69826, 69826, 1), (69888, 69890, 1), (69927, 69931, 1), (69933, 69940, 1),
   (70003, 70003, 1), (70016, 70017, 1), (70070, 70078, 1), (70080, 70080, 1), (70089, 70092, 1),
   (70095, 70095, 1), (70191, 70193, 1), (70196, 70199, 1), (70206, 70206, 1), (70209, 70209, 1),
   (70367, 70367, 1), (70371, 70378, 1), (70400, 70401, 1), (70459, 70460, 1), (70462, 70464, 2),
   (70477, 70477, 1), (70487, 70487, 1), (70502, 70508, 1), (70512, 70516, 1), (70584, 70584, 1),
   (70587, 70592, 1), (70594, 70594, 1), (70597, 70597, 1), (70599, 70601, 1), (70606, 70608, 1),
   (70610, 70610, 1), (70625, 70626, 1), (70712, 70719, 1), (70722, 70724, 1), (70726, 70726, 1),
   (70750, 70750, 1), (70832, 70832, 1), (70835, 70840, 1), (70842, 70842, 1), (70845, 70845, 1),
   (70847, 70848, 1), (70850, 70851, 1), (71087, 71087, 1), (71090, 71093, 1), (71100, 71101, 1),
   (71103, 71104, 1), (71132, 71133, 1), (71219, 71226, 1), (71229, 71229, 1), (71231, 71232, 1),
   (71339, 71341, 2), (71344, 71351, 1), (71453, 71455, 2), (71458, 71461, 1), (71463, 71467, 1),
   (71727, 71735, 1), (71737, 71738, 1), (71984, 71984, 1), (71995, 71998, 1), (72003, 72003, 1),
   (72148, 72151, 1), (72154, 72155, 1), (72160, 72160, 1), (72193, 72202, 1), (72243, 72248, 1),
   (72251, 72254, 1), (72263, 72263, 1), (72273, 72278, 1), (72281, 72283, 1), (72330, 72342, 1),
   (72344, 72345, 1), (72752, 72758, 1), (72760, 72765, 1), (72767, 72767, 1), (72850, 72871, 1),
   (72874, 72880, 1), (72882, 72883, 1), (72885, 72886, 1), (73009, 73014, 1), (73018, 73018, 1),
   (73020, 73021, 1), (73023, 73029, 1), (73031, 73031, 1), (73104, 73105, 1), (73109, 73111, 2),
   (73459, 73460, 1), (73472, 73473, 1), (73526, 73530, 1), (73536, 73538, 1), (73562, 73562, 1),
   (78912, 78912, 1), (78919, 78933, 1), (90398, 90409, 1), (90413, 90415, 1), (92912, 92916, 1),
   (92976, 92982, 1), (94031, 94031, 1), (94095, 94098, 1), (94180, 94180, 1), (94192, 94193, 1),
   (113821, 113822, 1), (118528, 118573, 1), (118576, 118598, 1), (119141, 119145, 1),
   (119149, 119154, 1), (119163, 119170, 1), (119173, 119179, 1), (119210, 119213, 1),
   (119362, 119364, 1), (121344, 121398, 1), (121403, 121452, 1), (121461, 121461, 1),
   (121476, 121476, 1), (121499, 121503, 1), (121505, 121519, 1), (122880, 122886, 1),
   (122888, 122904, 1), (122907, 122913, 1), (122915, 122916, 1), (122918, 122922, 1),
   (123023, 123023, 1), (123184, 123190, 1), (123566, 123566, 1), (123628, 123631, 1),
   (124140, 124143, 1), (124398, 124399, 1), (125136, 125142, 1), (125252, 125258, 1),
   (917536, 917631, 1), (917760, 917999, 1)]

/-- The properties by their names and their short names. -/
def named : List (String × Ranges) :=
  [("emoji", emoji), ("emojipresentation", emojiPresentation), ("epres", emojiPresentation),
   ("emojimodifier", emojiModifier), ("emod", emojiModifier),
   ("emojimodifierbase", emojiModifierBase), ("ebase", emojiModifierBase),
   ("emojicomponent", emojiComponent), ("ecomp", emojiComponent),
   ("extendedpictographic", pictographic), ("extpict", pictographic),
   ("regionalindicator", regionalIndicator), ("ri", regionalIndicator), ("math", math),
   ("dash", dash), ("hexdigit", hexDigit), ("hex", hexDigit), ("asciihexdigit", asciiHexDigit),
   ("ahex", asciiHexDigit), ("ideographic", ideographic), ("ideo", ideographic),
   ("unifiedideograph", unifiedIdeograph), ("uideo", unifiedIdeograph), ("radical", radical),
   ("diacritic", diacritic), ("dia", diacritic), ("extender", extender), ("ext", extender),
   ("quotationmark", quotationMark), ("qmark", quotationMark), ("patternsyntax", patternSyntax),
   ("patsyn", patternSyntax), ("patternwhitespace", patternWhiteSpace),
   ("patws", patternWhiteSpace), ("defaultignorablecodepoint", defaultIgnorable),
   ("di", defaultIgnorable), ("variationselector", variationSelector), ("vs", variationSelector),
   ("noncharactercodepoint", noncharacter), ("nchar", noncharacter), ("joincontrol", joinControl),
   ("joinc", joinControl), ("softdotted", softDotted), ("sd", softDotted),
   ("terminalpunctuation", terminalPunctuation), ("term", terminalPunctuation),
   ("sentenceterminal", sentenceTerminal), ("sterm", sentenceTerminal),
   ("logicalorderexception", logicalOrderException), ("loe", logicalOrderException),
   ("bidicontrol", bidiControl), ("bidic", bidiControl), ("deprecated", deprecatedCharacter),
   ("dep", deprecatedCharacter), ("idsbinaryoperator", idsBinaryOperator),
   ("idsb", idsBinaryOperator), ("idstrinaryoperator", idsTrinaryOperator),
   ("idst", idsTrinaryOperator), ("graphemeextend", graphemeExtend), ("grext", graphemeExtend)]

end Highlighter.Unicode.Property
